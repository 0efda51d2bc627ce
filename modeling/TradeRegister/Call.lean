import TradeRegister.Service.Services

/-! # Calls from outside

The calls that callers of the register make. Changes to companies name the acting user, who
becomes the creator or the last editor whatever the record says.
-/

namespace TradeRegister

inductive Call
  | signup (username password : String)
  | login (username password : String)
  | authenticate (token : String)
  | createCompany (actor : Uuid) (c : Company)
  | company (id : Uuid)
  | companyByName (name : String)
  | updateCompany (actor id : Uuid) (patch : Company)
  | deleteCompany (actor id : Uuid)
deriving DecidableEq

def Call.request : Call → Service.Request
  | .signup username password => .register username password
  | .login username password => .login username password
  | .authenticate token => .authenticate token
  | .createCompany actor c => .createCompany { c with createdBy := .value actor }
  | .company id => .companyById id
  | .companyByName name => .companyByName name
  | .updateCompany actor id patch =>
    .updateCompany { patch with id := .value id, updatedBy := .value actor }
  | .deleteCompany _ id => .deleteCompany id

end TradeRegister
