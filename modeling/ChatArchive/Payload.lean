import ChatArchive.Wire.Stream
import ChatArchive.Message.Decode
import ChatArchive.Message.Json
import ChatArchive.Message.Text
/-!
Decoding a stored payload into chat nodes. A payload normally holds one value. When one whole
value is followed by more bytes, the payload is read again as concatenated values, each decoded
on its own; nodes read before a failure are kept beside it. Trailing bytes are never reported
as a failure themselves.
-/
namespace ChatArchive

open ChatArchive.Json ChatArchive.Wire ChatArchive.Message

namespace Payload

inductive Mode where
  | single
  | recovered (values : Nat)
  deriving DecidableEq, Repr

structure Fault where
  length : Nat
  decoded : Nat
  source : Failure
  deriving DecidableEq, Repr

structure Outcome where
  nodes : List Node
  mode : Mode
  failure : Option Fault

def Outcome.isComplete (o : Outcome) : Bool := o.failure.isNone

/-- Read concatenated values, decoding each; a failure ends the reading. -/
def recover (bytes : List UInt8) : Outcome :=
  let items := stream bytes
  let nodes := items.filterMap fun i => match i with
    | .ok v => some (decode v)
    | .error _ => none
  let failure := items.findSome? fun i => match i with
    | .ok _ => none
    | .error e => some (Fault.mk bytes.length nodes.length e)
  ⟨nodes, .recovered nodes.length, failure⟩

/-- Decode a payload into nodes. -/
def decodePayload (bytes : List UInt8) : Outcome :=
  match decodeOne bytes with
  | .ok v => ⟨[decode v], .single, none⟩
  | .error (.trailing _ _) => recover bytes
  | .error e => ⟨[], .single, some ⟨bytes.length, 0, e⟩⟩

def Mode.toDoc : Mode → Doc
  | .single => .obj [("kind", .str "single")]
  | .recovered n => .obj [("kind", .str "recovered"), ("values", .int n)]

def Outcome.members (o : Outcome) : List (String × Doc) :=
  [("nodes", .arr (o.nodes.map Node.toDoc)), ("mode", o.mode.toDoc)] ++
    match o.failure with
    | some f => [("failure", .obj [("error", .str f.source.message), ("length", .int f.length),
        ("decoded", .int f.decoded)])]
    | none => []

def Outcome.toDoc (o : Outcome) : Doc := .obj o.members

def Outcome.text (o : Outcome) : String :=
  String.join (o.nodes.map Node.text) ++
    match o.failure with
    | some f => "Error decoding payload: " ++ f.source.message ++ "\n" ++
        s!"Raw payload length: {f.length} bytes\n"
    | none => ""

end Payload

end ChatArchive
