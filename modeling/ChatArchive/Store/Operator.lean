import ChatArchive.Store.Cell

namespace ChatArchive.Store

open ChatArchive.Numeral

def Cell.textBytes : Cell → List UInt8
  | .null => []
  | .integer n => (toString n).toUTF8.toList
  | .real x => (realText x).toUTF8.toList
  | .text s | .blob s => s

def Cell.toReal : Cell → Double
  | .null => Double.zero false
  | .integer n => Double.ofInteger n
  | .real x => x
  | .text s | .blob s => (readReal s).1

def Cell.toInteger : Cell → Int
  | .null => 0
  | .integer n => n
  | .real x => Double.toInt64 x
  | .text s | .blob s => (readInteger s).1

inductive Number where
  | integer (n : Int)
  | real (x : Double)

def numberOfText (s : List UInt8) : Number :=
  let (x, form) := readReal s
  match form with
  | .integer =>
    match readInteger s with
    | (n, .exact) => .integer n
    | _ => .real x
  | .other =>
    let (n, f) := readInteger s
    if f.lenient then .integer n else .real x
  | .decimal | .prefixDecimal => .real x

/-- The number a cell is for arithmetic; null, which arithmetic never reads, counts as zero. -/
def Cell.number : Cell → Number
  | .null => .integer 0
  | .integer n => .integer n
  | .real x => .real x
  | .text s | .blob s => numberOfText s

def Cell.numerify : Cell → Cell
  | .text s | .blob s =>
    let (x, form) := readReal s
    let (n, f) := readInteger s
    if (form = .other || form = .integer) && f.lenient then .integer n
    else
      let i := Double.toInt64 x
      if sameAsInteger x i then .integer i else .real x
  | c => c

inductive Arith where
  | add
  | sub
  | mul
  | div
  | rem
  deriving DecidableEq, Repr

/-- The result of an operator on two integers when it is an integer of the range: none when the
exact sum, difference or product leaves it, or for the least integer divided by minus one. The
quotient is truncated toward zero and the remainder takes the sign of the dividend; a divisor of
zero is handled before. -/
def Arith.onIntegers : Arith → Int → Int → Option Int
  | .add, a, b => if fitsI64 (a + b) then some (a + b) else none
  | .sub, a, b => if fitsI64 (a - b) then some (a - b) else none
  | .mul, a, b => if fitsI64 (a * b) then some (a * b) else none
  | .div, a, b => if a = -Int.pow 2 63 && b = -1 then none else some (a.tdiv b)
  | .rem, a, b => some (a.tmod (if b = -1 then 1 else b))

def Arith.onReals (op : Arith) (a b : Cell) : Option Double :=
  let x := a.toReal
  let y := b.toReal
  match op with
  | .add => some (x.add y)
  | .sub => some (x.sub y)
  | .mul => some (x.times y)
  | .div => if y.eqZero then none else some (x.quotient y)
  | .rem =>
    let j := b.toInteger
    if j = 0 then none else some (Double.ofInteger (a.toInteger.tmod (if j = -1 then 1 else j)))

def Arith.apply (op : Arith) (a b : Cell) : Cell :=
  let viaReals : Cell :=
    match op.onReals a b with
    | some r => if r.isNaN then .null else .real r
    | none => .null
  let onIntegers (x y : Int) : Cell :=
    if (op = .div || op = .rem) && y = 0 then .null
    else match op.onIntegers x y with
      | some r => .integer r
      | none => viaReals
  match a, b with
  | .integer x, .integer y => onIntegers x y
  | .null, _ | _, .null => .null
  | _, _ =>
    match a.number, b.number with
    | .integer x, .integer y => onIntegers x y
    | _, _ => viaReals

def Cell.negate (c : Cell) : Cell := Arith.sub.apply (.integer 0) c

def Cell.concat (a b : Cell) : Cell :=
  match a, b with
  | .null, _ | _, .null => .null
  | _, _ => .text (a.textBytes ++ b.textBytes)

/-- The affinity a comparison is made under, from the affinities of its operands: when both
have one, numeric if either prefers numbers and blob otherwise; else the one given, if any. -/
def Affinity.compareWith (a b : Affinity) : Affinity :=
  if a != .none && b != .none then (if a.isNumeric || b.isNumeric then .numeric else .blob)
  else if a = .none then b else a

def Cell.compareAs (aff : Affinity) (coll : Collation) (a b : Cell) : Option Ordering :=
  match a, b with
  | .null, _ | _, .null => none
  | _, _ => some (Cell.orderWith coll (aff.operand a) (aff.operand b))

inductive Comparison where
  | eq
  | ne
  | lt
  | le
  | gt
  | ge
  deriving DecidableEq, Repr

def Comparison.holds : Comparison → Ordering → Bool
  | .eq, o => o == .eq
  | .ne, o => o != .eq
  | .lt, o => o == .lt
  | .le, o => o != .gt
  | .gt, o => o == .gt
  | .ge, o => o != .lt

def Cell.truth? : Cell → Option Bool
  | .null => none
  | .integer n => some (n != 0)
  | c => some !c.toReal.eqZero

def Cell.ofTruth : Option Bool → Cell
  | some b => .integer (if b then 1 else 0)
  | none => .null

def Cell.truthAnd : Option Bool → Option Bool → Option Bool
  | some false, _ | _, some false => some false
  | some true, some true => some true
  | _, _ => none

def Cell.truthOr : Option Bool → Option Bool → Option Bool
  | some true, _ | _, some true => some true
  | some false, some false => some false
  | _, _ => none

def shiftBy (left : Bool) (a b : Int) : Int :=
  let (left, b) := if b < 0 then (!left, if -64 < b then -b else 64) else (left, b)
  if 64 ≤ b then (if 0 ≤ a || left then 0 else -1)
  else if left then Int.bmod (a * Int.pow 2 b.toNat) (Nat.pow 2 64)
  else a / Int.pow 2 b.toNat

inductive Bitwise where
  | and
  | or
  | shiftLeft
  | shiftRight
  deriving DecidableEq, Repr

def Bitwise.apply (op : Bitwise) (a b : Cell) : Cell :=
  match a, b with
  | .null, _ | _, .null => .null
  | _, _ =>
    let x := a.toInteger
    let y := b.toInteger
    match op with
    | .and => .integer (Int64.ofInt x &&& Int64.ofInt y).toInt
    | .or => .integer (Int64.ofInt x ||| Int64.ofInt y).toInt
    | .shiftLeft => .integer (shiftBy true x y)
    | .shiftRight => .integer (shiftBy false x y)

def Cell.complement : Cell → Cell
  | .null => .null
  | c => .integer (-c.toInteger - 1)

/-- A cell converted to the class an affinity names, as a cast does: to text through its written
form, to a blob through its text, to an integer or a real through the number it reads as, and to
a number through `numerify`. Null stays null. -/
def Cell.cast (aff : Affinity) : Cell → Cell
  | .null => .null
  | c =>
    match aff with
    | .text => .text c.textBytes
    | .integer => .integer c.toInteger
    | .real => .real c.toReal
    | .numeric => c.numerify
    | .blob | .none =>
      match c with
      | .blob b => .blob b
      | c => .blob c.textBytes

end ChatArchive.Store
