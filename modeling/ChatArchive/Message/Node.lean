import ChatArchive.Message.Kind
import ChatArchive.Value

namespace ChatArchive.Message

open ChatArchive.Numeral ChatArchive.Clock ChatArchive.Json

structure Call where
  name : String
  arguments : List (String × Doc)

/-- A record of tool calls and their results, which are independent lists. -/
structure Invocation where
  content : Option String
  calls : List Call
  results : List Value

/-- One span of an assistant reply. `unrecognized` keeps, in order, the entries whose shape the
schema does not describe. -/
structure Span where
  content : Option String
  reasoning : Option String
  invocations : List Invocation
  unrecognized : List Value

/-- Token counters of a reply; the total is stored as a float. -/
structure Usage where
  input : Int
  output : Int
  total : Double

def Usage.isEmpty (u : Usage) : Bool := u.input == 0 && u.output == 0 && u.total.eqZero

structure Reply where
  spans : List Span
  createdAt : Option Zoned
  finishedAt : Option Zoned
  usage : Usage

inductive Node where
  | system (text : String)
  | assistant (reply : Reply)
  | user (prompt : String)
  | action (content : String)
  | invocation (record : Invocation)
  | unrecognized (kind : Kind) (body : Value)
  | unknownTag (tag : Int) (body : Value)
  | unknownShape (value : Value)

end ChatArchive.Message
