import ChatArchive.Clock.Text
import ChatArchive.Json.Print
import ChatArchive.Wire.Hex
/-!
Decoded MessagePack values. Integers are exact, floats are binary64 (single precision widened),
text has had its ill-formed bytes replaced, and extension type -1 with a valid instant is a
timestamp. A map keeps its entries in order, duplicates included; its keys are integers or text.

A value has a JSON view (`toDoc`), a text view (`display`) and readers for the numbers, text and
date-times that records hold.
-/
namespace ChatArchive

open ChatArchive.Numeral ChatArchive.Clock ChatArchive.Json

/-- A map key: an integer, or text. Keys of other kinds are folded into text when read. -/
inductive Key where
  | int (n : Int)
  | str (s : String)
  deriving DecidableEq, Repr

inductive Value where
  | nil
  | bool (b : Bool)
  | int (n : Int)
  | float (x : Double)
  | str (s : String)
  | bin (bytes : List UInt8)
  | arr (items : List Value)
  | map (entries : List (Key × Value))
  | time (t : Instant)
  | ext (type : Int8) (data : List UInt8)
  deriving Inhabited

namespace Key

def text : Key → String
  | .int n => toString n
  | .str s => s

end Key

def inI64 (n : Int) : Bool := -Int.pow 2 63 ≤ n && n < Int.pow 2 63

def inWord (n : Int) : Bool := -Int.pow 2 63 ≤ n && n < Int.pow 2 64

namespace Value

mutual
/-- The JSON view: integers beyond 64 bits as decimal text, non-finite floats as null, bytes
as `{"$binary": hex}`, a timestamp as RFC 3339, another extension as `{"$ext": type,
"data": hex}`, and a map as an object keyed by key text, the last value of a key winning and
the key keeping its first place. -/
def toDoc : Value → Doc
  | .nil => .null
  | .bool b => .bool b
  | .int n => if inWord n then .int n else .str (toString n)
  | .float x => if x.isFinite then .num x else .null
  | .str s => .str s
  | .bin bytes => .obj [("$binary", .str (Wire.hexText bytes))]
  | .arr items => .arr (toDocs items)
  | .map entries => .obj (Doc.collect (toMembers entries))
  | .time t => .str (Zoned.utc t).rfc3339
  | .ext type data => .obj [("$ext", .int type.toInt), ("data", .str (Wire.hexText data))]

def toDocs : List Value → List Doc
  | [] => []
  | v :: rest => toDoc v :: toDocs rest

def toMembers : List (Key × Value) → List (String × Doc)
  | [] => []
  | (k, v) :: rest => (k.text, toDoc v) :: toMembers rest
end

def display : Value → String
  | .str s => s
  | v => v.toDoc.compact

def displayText : Value → String
  | .str s => s
  | .nil => ""
  | v => v.toDoc.compact

def asStr? : Value → Option String
  | .str s => some s
  | _ => none

def asI64? : Value → Option Int
  | .int n => if inI64 n then some n else none
  | _ => none

def asF64? : Value → Option Double
  | .float x => some x
  | .int n => some (Double.ofInt n)
  | _ => none

def isNil : Value → Bool
  | .nil => true
  | _ => false

/-- A date-time: a timestamp read in UTC, or a pair `[local, minutes]` of a wall-clock
timestamp and an offset east of UTC in minutes, less than a day, which names the instant
`local - minutes`. -/
def asDateTime? : Value → Option Zoned
  | .time t => some (Zoned.utc t)
  | .arr [.time l, m] =>
    match m.asI64? with
    | some minutes =>
      if h : (minutes * 60).natAbs < 86400 then
        (l.shift? (-(minutes * 60))).map fun t => ⟨t, minutes * 60, h⟩
      else none
    | none => none
  | _ => none

/-- A key read from a value: integers and text stand for themselves, anything else for its
compact JSON text. -/
def toKey : Value → Key
  | .int n => .int n
  | .str s => .str s
  | v => .str v.toDoc.compact

end Value

end ChatArchive
