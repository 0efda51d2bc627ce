import TradeRegister.Attribute
import TradeRegister.Base64
import TradeRegister.Bytes
import TradeRegister.Call
import TradeRegister.Company
import TradeRegister.Company.Kind
import TradeRegister.Decimal
import TradeRegister.Decimal.Floating
import TradeRegister.Delivery.Bus
import TradeRegister.Delivery.Dispatcher
import TradeRegister.Delivery.Mutation
import TradeRegister.Delivery.Sink
import TradeRegister.Fault
import TradeRegister.Hash.Argon2
import TradeRegister.Hash.Blake2b
import TradeRegister.Hash.Hmac
import TradeRegister.Hash.Sha256
import TradeRegister.Hexadecimal
import TradeRegister.Json.Basic
import TradeRegister.Json.Meaning
import TradeRegister.Json.Reader
import TradeRegister.Json.Record
import TradeRegister.Password
import TradeRegister.Proofs.Base64
import TradeRegister.Proofs.Json.Escape
import TradeRegister.Proofs.Json.Numeral
import TradeRegister.Proofs.Json.RoundTrip
import TradeRegister.Proofs.Result
import TradeRegister.Proofs.Service.Alike
import TradeRegister.Proofs.Service.Announcements
import TradeRegister.Proofs.Service.Login
import TradeRegister.Proofs.Service.Refusal
import TradeRegister.Proofs.Service.Run
import TradeRegister.Proofs.Service.Validation
import TradeRegister.Proofs.Store.Agreement
import TradeRegister.Proofs.Store.Distinct
import TradeRegister.Proofs.Store.Lookup
import TradeRegister.Proofs.Store.Refusal
import TradeRegister.Proofs.Store.Table
import TradeRegister.Proofs.Store.Uniqueness
import TradeRegister.Proofs.Store.Write
import TradeRegister.Proofs.Token.Acceptance
import TradeRegister.Proofs.Token.Algorithm
import TradeRegister.Proofs.Token.Checks
import TradeRegister.Proofs.Token.Issue
import TradeRegister.Proofs.Token.Order
import TradeRegister.Proofs.Token.Payload
import TradeRegister.Proofs.Uuid
import TradeRegister.Registry
import TradeRegister.Secret
import TradeRegister.Service.Accounts
import TradeRegister.Service.Companies
import TradeRegister.Service.Services
import TradeRegister.Service.Limits
import TradeRegister.Service.Outcome
import TradeRegister.Service.Validation
import TradeRegister.Settings.Basic
import TradeRegister.Settings.Document
import TradeRegister.Settings.Environment
import TradeRegister.Settings.Numeral
import TradeRegister.Settings.Reading
import TradeRegister.Settings.Value
import TradeRegister.Store.Address
import TradeRegister.Store.Database
import TradeRegister.Store.Memory
import TradeRegister.Store.Repository
import TradeRegister.Store.Row
import TradeRegister.Store.Table
import TradeRegister.Store.Write
import TradeRegister.Text.Blank
import TradeRegister.Text.Percent
import TradeRegister.Text.Quoted
import TradeRegister.Text.Search
import TradeRegister.Text.Split
import TradeRegister.Text.Visible
import TradeRegister.Time.Instant
import TradeRegister.Time.Span
import TradeRegister.Time.SpanText
import TradeRegister.Token.Authority
import TradeRegister.Token.Claims
import TradeRegister.Token.Error
import TradeRegister.Token.Header
import TradeRegister.Token.Payload
import TradeRegister.Token.Settings
import TradeRegister.User
import TradeRegister.Uuid
import TradeRegister.Yaml.Block
import TradeRegister.Yaml.Gap
import TradeRegister.Yaml.Glyph
import TradeRegister.Yaml.Node
import TradeRegister.Yaml.Node.Reader
import TradeRegister.Yaml.Plain
import TradeRegister.Yaml.Property
import TradeRegister.Yaml.Quoted
import TradeRegister.Yaml.Token
import TradeRegister.Yaml.Token.Lexer
import TradeRegister.Proofs.History
import TradeRegister.Proofs.Password.Recipe
import TradeRegister.Proofs.Password
import TradeRegister.Proofs.Service.Accounts
import TradeRegister.Proofs.Service.Companies
import TradeRegister.Proofs.Store.Patch
import TradeRegister.Proofs.Service.Rules
import TradeRegister.Proofs.Wire
import TradeRegister.Proofs.Service.Damage
import TradeRegister.Proofs.Store.Locality
import TradeRegister.Proofs.Store.Contest
import TradeRegister.Proofs.Identities
import TradeRegister.Proofs.Service.Writers
import TradeRegister.Proofs.Delivery.Conservation
import TradeRegister.Proofs.Service.Gate
import TradeRegister.Proofs.Store.Overlay
import TradeRegister.Proofs.Store.Unwritable
import TradeRegister.Proofs.Store.Blame
import TradeRegister.Proofs.Service.Layers
import TradeRegister.Proofs.Store.RoundTrip
import TradeRegister.Proofs.Service.WriteBack
import TradeRegister.Proofs.Token.Signature
import TradeRegister.Proofs.Store.Commutation
import TradeRegister.Proofs.Delivery.Streams
import TradeRegister.Proofs.Settings.Texts
import TradeRegister.Proofs.Start
import TradeRegister.Proofs.Token.Lapse
