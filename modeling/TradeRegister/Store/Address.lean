import TradeRegister.Decimal
import TradeRegister.Text.Percent
import TradeRegister.Text.Search
import TradeRegister.Text.Split

/-! # Database addresses

An address is a URL: the scheme `sqlite`, the path of a file, and parameters after a question mark.
The path `:memory:` and a few parameters stand for a database in memory; every other path is that of
a file.
-/

namespace TradeRegister.Store

structure Address where
  path : String
  parameters : List (String × String)

namespace Address

/-! ## URLs -/

def isControl (c : Char) : Bool := c ≤ ' '

/-- Line breaks and tabs are no part of a URL, nor are control characters around it. -/
def urlChars (url : String) : List Char :=
  let cs := ((url.toList.dropWhile isControl).reverse.dropWhile isControl).reverse
  cs.filter fun c => !(c == '\t' || c == '\n' || c == '\r')

def isSchemeChar (c : Char) : Bool := c.isAlphanum || c == '+' || c == '-' || c == '.'

/-- The scheme in lower case, and what follows its colon. -/
def scheme? (cs : List Char) : Option (String × List Char) :=
  match cs.takeWhile isSchemeChar, cs.dropWhile isSchemeChar with
  | c :: scheme, ':' :: rest =>
    if c.isAlpha then some (String.ofList ((c :: scheme).map Char.toLower), rest) else none
  | _, _ => none

/-- The number of a service, of 16 bits, or none. -/
def isService (cs : List Char) : Bool :=
  cs.isEmpty || (Decimal.read? cs).any fun n => n < 0x10000

def isHostChar (c : Char) : Bool := !(isControl c || "#/:<>?@[\\]^|".toList.contains c)

/-- True for a host, with a service after a colon or without; the host may be empty only if it
stands alone. -/
def isHost (cs : List Char) (isAlone : Bool) : Bool :=
  let name := cs.takeWhile (· != ':')
  let service := cs.dropWhile (· != ':')
  name.all isHostChar && isService (service.drop 1) &&
    (!name.isEmpty || (isAlone && service.isEmpty))

/-- True for what may follow two slashes: a host up to the next slash, perhaps after a user. -/
def isAuthority (cs : List Char) : Bool :=
  match (Text.split '@' (cs.takeWhile fun c => !(c == '/' || c == '?' || c == '#'))).reverse with
  | [] => false
  | [host] => isHost host true
  | host :: _ => isHost host false

def isUrl (url : String) : Bool :=
  match scheme? (urlChars url) with
  | some ("sqlite", '/' :: '/' :: rest) => isAuthority rest
  | some ("sqlite", _) => true
  | _ => false

/-! ## Paths and parameters -/

/-- Drops `part` from the start, at most `fuel` times. -/
def afterAll (part : List Char) : Nat → List Char → List Char
  | 0, cs => cs
  | fuel + 1, cs =>
    match Text.after? part cs with
    | some rest => afterAll part fuel rest
    | none => cs

def parameter? (cs : List Char) : Option (String × String) := do
  let name ← Text.Percent.decodeForm? (cs.takeWhile (· != '='))
  let value ← Text.Percent.decodeForm? ((cs.dropWhile (· != '=')).drop 1)
  some (name, value)

def isParameter (x : String × String) : Bool :=
  match x.1 with
  | "mode" => ["ro", "rw", "rwc", "memory"].contains x.2
  | "cache" => ["private", "shared"].contains x.2
  | "immutable" => ["true", "1", "false", "0"].contains x.2
  | "vfs" => true
  | _ => false

def ofString? (url : String) : Option Address :=
  if isUrl url then do
    let cs := url.toList
    let cs := afterAll "sqlite:".toList cs.length (afterAll "sqlite://".toList cs.length cs)
    let query := (Text.split '&' ((cs.dropWhile (· != '?')).drop 1)).filter fun p => !p.isEmpty
    let parameters ← query.mapM parameter?
    let path ← Text.Percent.decode? (cs.takeWhile (· != '?'))
    if parameters.all isParameter then some ⟨path, parameters⟩ else none
  else none

/-! ## Opening -/

/-- The file systems that a database can be opened in. -/
def fileSystems : List String := ["unix", "unix-none", "unix-dotfile", "unix-excl", "memdb"]

def has (a : Address) (name value : String) : Bool := a.parameters.contains (name, value)

/-- Of several file systems the last one counts. -/
def fileSystem (a : Address) : String := (a.parameters.reverse.lookup "vfs").getD "unix"

/-- A file without a name is in memory too. -/
def isInMemory (a : Address) : Bool :=
  a.has "mode" "memory" || a.fileSystem == "memdb" || a.path == ":memory:" || a.path == ""

def hasFileSystem (a : Address) : Bool := fileSystems.contains a.fileSystem

def isReadOnly (a : Address) : Bool := a.has "mode" "ro"

end Address
end TradeRegister.Store
