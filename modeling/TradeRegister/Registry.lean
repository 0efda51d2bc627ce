import TradeRegister.Call
import TradeRegister.Delivery.Bus
import TradeRegister.Delivery.Dispatcher
import TradeRegister.Settings.Basic
import TradeRegister.Store.Address
import TradeRegister.Store.Database

/-! # The register

Services over a database, with delivery to a bus if the settings ask for one. Settings decide how
it starts, on a host that decides what can be opened and allocated; once it is shut down, calls meet
a closed database and nothing is delivered any more.
-/

namespace TradeRegister

open Delivery (Bus Dispatcher)
open Service (Services Supply Response)
open Store (Database)

structure Registry where
  authority : Token.Authority
  limits : Service.Limits
  database : Database
  dispatcher : Dispatcher
  bus : Option Bus

namespace Registry

/-! ## Hosts -/

/-- What a start depends on besides its settings. -/
structure Host where
  /-- A ring of so many slots can be allocated. -/
  allocates : Nat → Bool
  /-- The nanoseconds that are left until the last instant of the clock of deadlines. -/
  timeLeft : Nat
  /-- A connection is made within the wait. -/
  connects : Store.Address → Span → Bool
  /-- The database in a file, once the schema is in place there; `none` if that fails. -/
  file? : Store.Address → Option Database

/-- The database at an address, with the schema in place. One in memory is new. -/
def Host.database? (host : Host) (address : Store.Address) : Option Database :=
  if address.isInMemory then if address.isReadOnly then none else some .fresh
  else host.file? address

/-! ## Starts -/

/-- What the caller of a start is told. -/
inductive StartFault
  | token (e : Token.Error)
  | unreachable (connections : Nat)
  /-- The schema could not be put in place. -/
  | schema

def StartFault.message : StartFault → String
  | .token _ => "token authority configuration"
  | .unreachable connections =>
    "failed to connect to database (max_connections=" ++ toString connections ++ ")"
  | .schema => "failed to run company-registry migrations"

/-- What ends the program during a start. -/
inductive Crash
  /-- The wait for a connection would end after the last instant. -/
  | deadline
  /-- The bus is asked for too much room, or its slots cannot be allocated. -/
  | ring

inductive Failure
  | told (fault : StartFault)
  | crashed (crash : Crash)

/-- A database inside one connection allows no second one. -/
def connections (d : Settings.Database) : Nat := if d.isInMemory then 1 else d.maxConnections

def openDatabase (host : Host) (d : Settings.Database) : Except Failure Database :=
  match Store.Address.ofString? d.url with
  | none => .error (.told (.unreachable (connections d)))
  | some address =>
    if host.timeLeft < d.acquireTimeout.total then .error (.crashed .deadline)
    else if !(address.hasFileSystem && host.connects address d.acquireTimeout) then
      .error (.told (.unreachable (connections d)))
    else
      match host.database? address with
      | some database => .ok database
      | none => .error (.told .schema)

def openBus (host : Host) (e : Settings.Events) : Except Failure (Option Bus) :=
  match e.sink with
  | .noop => .ok none
  | .broadcast =>
    match Bus.ofCapacity? host.allocates e.capacity with
    | some bus => .ok (some bus)
    | none => .error (.crashed .ring)

/-- Tokens first, then the database with its schema, then delivery. -/
def start (host : Host) (s : Settings) : Except Failure Registry :=
  match Token.Authority.ofSettings s.auth with
  | .error e => .error (.told (.token e))
  | .ok authority =>
    match openDatabase host s.database with
    | .error failure => .error failure
    | .ok database =>
      match openBus host s.events with
      | .error failure => .error failure
      | .ok bus => .ok ⟨authority, s.service, database, { topic := s.events.topic }, bus⟩

/-! ## Calls -/

def services (r : Registry) : Services Database :=
  ⟨Database.companyRepository, Database.userRepository, r.authority, r.limits⟩

def call (r : Registry) (supply : Supply) (c : Call) : Except Fault Response × Registry :=
  let o := r.services.answer supply r.database c.request
  (o.result,
    { r with database := o.state, dispatcher := r.dispatcher.dispatchAll o.announced })

/-- The bus, or nothing at all. -/
def sink : Delivery.Sink (Option Bus) := fun n bus =>
  match bus with
  | some bus =>
    let (reply, bus) := Bus.publish n bus
    (reply, some bus)
  | none => ((Delivery.Sink.discard n ()).1, none)

def deliver (r : Registry) : Registry :=
  let (dispatcher, bus) := r.dispatcher.settle sink r.bus
  { r with dispatcher, bus }

/-- Stops the dispatcher, while the first `n` deliveries that wait still run, and closes the
database. -/
def shutdown (n : Nat) (r : Registry) : Registry :=
  let (dispatcher, bus) := r.dispatcher.shutdown sink n r.bus
  { r with dispatcher, bus, database := r.database.close }

end Registry
end TradeRegister
