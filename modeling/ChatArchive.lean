import ChatArchive.Clock.Civil
import ChatArchive.Clock.Instant
import ChatArchive.Clock.Text
import ChatArchive.Clock.Ticks
import ChatArchive.Command
import ChatArchive.Inspect
import ChatArchive.Json.Cursor
import ChatArchive.Json.Doc
import ChatArchive.Json.Lexeme
import ChatArchive.Json.Print
import ChatArchive.Json.Quote
import ChatArchive.Json.Read
import ChatArchive.Main
import ChatArchive.Message.Decode
import ChatArchive.Message.Field
import ChatArchive.Message.Json
import ChatArchive.Message.Kind
import ChatArchive.Message.Node
import ChatArchive.Message.Record
import ChatArchive.Message.Text
import ChatArchive.Numeral.Double
import ChatArchive.Numeral.Extended
import ChatArchive.Numeral.Layout
import ChatArchive.Numeral.Shortest
import ChatArchive.Payload
import ChatArchive.Proofs.Clock.Instant
import ChatArchive.Proofs.Json.Object
import ChatArchive.Proofs.Message.DateTime
import ChatArchive.Proofs.Message.Dispatch
import ChatArchive.Proofs.Message.Footprint
import ChatArchive.Proofs.Message.Layout
import ChatArchive.Proofs.Message.Logical
import ChatArchive.Proofs.Payload
import ChatArchive.Proofs.Store.Memory
import ChatArchive.Proofs.Wire.Framed
import ChatArchive.Proofs.Wire.Stream
import ChatArchive.Proofs.Wire.Timestamp
import ChatArchive.Settings
import ChatArchive.Store.Basic
import ChatArchive.Store.Builtin
import ChatArchive.Store.Catalog
import ChatArchive.Store.Cell
import ChatArchive.Store.Connection
import ChatArchive.Store.Eval
import ChatArchive.Store.Expr
import ChatArchive.Store.File
import ChatArchive.Store.File.Expression
import ChatArchive.Store.File.Header
import ChatArchive.Store.File.Keyword
import ChatArchive.Store.File.Page
import ChatArchive.Store.File.Record
import ChatArchive.Store.File.Schema
import ChatArchive.Store.File.Statement
import ChatArchive.Store.File.Token
import ChatArchive.Store.Memory
import ChatArchive.Store.Numeric
import ChatArchive.Store.Operator
import ChatArchive.Store.Pattern
import ChatArchive.Store.Query
import ChatArchive.Store.Scope
import ChatArchive.Store.Table
import ChatArchive.Text.Unicode
import ChatArchive.Value
import ChatArchive.Wire.Hex
import ChatArchive.Wire.Reader
import ChatArchive.Wire.Stream
import ChatArchive.Wire.Utf8
