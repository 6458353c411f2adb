import ChatArchive.Message.Field

namespace ChatArchive

open ChatArchive.Numeral ChatArchive.Clock ChatArchive.Message

inductive Shape where
  | mapping
  | sequence
  | other
  deriving DecidableEq, Repr

namespace Value

def shape : Value → Shape
  | .map _ => .mapping
  | .arr _ => .sequence
  | _ => .other

def isRecord (v : Value) : Bool := v.shape != .other

def size : Value → Nat
  | .map es => es.length
  | .arr xs => xs.length
  | _ => 0

def field (body : Value) (index : Nat) (default : Value) : Value :=
  match body with
  | .map es =>
    match es.find? (fun e => e.1 == .int index) with
    | some e => e.2
    | none => default
  | .arr xs =>
    match xs[index]? with
    | none | some .nil => default
    | some v => v
  | _ => default

def get (body : Value) (f : Field) : Value := body.field f.index f.default

/-- A field as text: text as it is, nil as nothing, anything else in its display form. -/
def text (body : Value) (f : Field) : String :=
  match body.get f with
  | .str s => s
  | v => v.displayText

def optionalText (body : Value) (f : Field) : Option String :=
  let t := body.text f
  if t.isEmpty then none else some t

/-- A field as a list; anything but an array reads as empty. -/
def items (body : Value) (f : Field) : List Value :=
  match body.get f with
  | .arr xs => xs
  | _ => []

/-- A field as a signed 64-bit integer, else the default's, else zero. -/
def integer (body : Value) (f : Field) : Int :=
  ((body.get f).asI64? <|> f.default.asI64?).getD 0

def number (body : Value) (f : Field) : Double :=
  ((body.get f).asF64? <|> f.default.asF64?).getD (Double.zero false)

def dateTime (body : Value) (f : Field) : Option Zoned := (body.get f).asDateTime?

end Value

end ChatArchive
