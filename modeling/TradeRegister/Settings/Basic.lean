import TradeRegister.Service.Limits
import TradeRegister.Settings.Document
import TradeRegister.Settings.Reading
import TradeRegister.Text.Search
import TradeRegister.Token.Settings

/-! # Settings of the register

Every setting has a usual value. Layers are laid over each other, later ones winning value by
value; the result is read section by section and then checked.
-/

namespace TradeRegister

namespace Settings

structure Database where
  url : String := "sqlite::memory:"
  maxConnections : Nat := 5
  connectTimeout : Span := .ofSeconds 5
  /-- How long to wait for a free connection. -/
  acquireTimeout : Span := .ofSeconds 5
deriving DecidableEq

/-- True for databases that live inside one connection. -/
def Database.isInMemory (d : Database) : Bool :=
  Text.startsWith "sqlite" d.url && Text.occursIn ":memory:" d.url

inductive SinkKind
  | noop
  | broadcast
deriving DecidableEq

def SinkKind.name : SinkKind → String
  | .noop => "noop"
  | .broadcast => "broadcast"

structure Events where
  sink : SinkKind := .noop
  topic : String := "company-registry.mutations"
  capacity : Nat := 256
deriving DecidableEq

structure Logging where
  level : String := "info"
  json : Bool := false
deriving DecidableEq

end Settings

structure Settings where
  database : Settings.Database := {}
  auth : Token.Settings := {}
  events : Settings.Events := {}
  service : Service.Limits := {}
  logging : Settings.Logging := {}
deriving DecidableEq

namespace Settings

def databaseFields : List (Field Database) :=
  [field "url" readText fun a s => { s with url := a },
    field "max_connections" (readNat UInt32.size) fun a s => { s with maxConnections := a },
    field "connect_timeout" readSpan fun a s => { s with connectTimeout := a },
    field "acquire_timeout" readSpan fun a s => { s with acquireTimeout := a }]

def authFields : List (Field Token.Settings) :=
  [field "issuer" readText fun a s => { s with issuer := a },
    field "secret" readText fun a s => { s with secret := ⟨a⟩ },
    field "lifetime" readSpan fun a s => { s with lifetime := a }]

def eventFields : List (Field Events) :=
  [field "sink" (readVariant [("noop", .noop), ("broadcast", .broadcast)])
      fun a s => { s with sink := a },
    field "topic" readText fun a s => { s with topic := a },
    field "capacity" (readNat UInt64.size) fun a s => { s with capacity := a }]

def serviceFields : List (Field Service.Limits) :=
  [field "max_name_length" (readNat UInt64.size) fun a s => { s with maxNameLength := a },
    field "max_description_length" (readNat UInt64.size) fun a s => { s with maxDescriptionLength := a }]

def loggingFields : List (Field Logging) :=
  [field "level" readText fun a s => { s with level := a },
    field "json" readBool fun a s => { s with json := a }]

def sections : List (Field Settings) :=
  [field "database" (readSection databaseFields {}) fun a s => { s with database := a },
    field "auth" (readSection authFields {}) fun a s => { s with auth := a },
    field "events" (readSection eventFields {}) fun a s => { s with events := a },
    field "service" (readSection serviceFields {}) fun a s => { s with service := a },
    field "logging" (readSection loggingFields {}) fun a s => { s with logging := a }]

inductive Error
  | load (e : LoadError)
  /-- A variable that no environment can hold, which ends the program. -/
  | environment
  | invalid (key message : String)
deriving DecidableEq

/-- The text of a check that failed. -/
def invalidMessage (key message : String) : String :=
  "invalid configuration value for '" ++ key ++ "': " ++ message

/-- The first check that fails decides the error. -/
def check (s : Settings) : Except Error Settings :=
  if Text.isBlank s.database.url then .error (.invalid "database.url" "must not be empty")
  else if s.database.maxConnections = 0 then
    .error (.invalid "database.max_connections" "must be at least 1")
  else if Text.isBlank s.events.topic then .error (.invalid "events.topic" "must not be empty")
  else .ok s

def ofValue (v : Value) : Except Error Settings :=
  match readSection sections {} v with
  | .error e => .error (.load e)
  | .ok s => s.check

/-- The settings that these layers give, the last one on top. Every layer is a dictionary. -/
def ofLayers (layers : List Value) : Except Error Settings :=
  if layers.all Value.isDict then ofValue (layers.foldl Value.merge (.dict []))
  else .error (.load ⟨.invalidType, []⟩)

/-- The settings that a document, if there is one, and the environment above it give. -/
def load (document : Option String) (environment : List (String × String)) : Except Error Settings :=
  if environment.all Environment.canHold then
    match document with
    | none => ofLayers [Environment.layer environment]
    | some text =>
      match Document.read? text with
      | none => .error (.load ⟨.message, []⟩)
      | some entries => ofLayers [.dict entries, Environment.layer environment]
  else .error .environment

end Settings
end TradeRegister
