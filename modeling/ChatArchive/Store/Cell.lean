import ChatArchive.Store.Numeric
/-!
Cells of SQL tables. A cell holds one of five storage classes: null, a signed 64-bit integer, a
binary64 real, text, or a blob. A column's affinity converts what is stored in it: a text column
turns numbers into their text, an integer column turns numeric text into a number and an integral
real into an integer, and a blob column keeps everything as given.

Numbers become text and text becomes numbers as `Store.Numeric` describes.
-/
namespace ChatArchive.Store

open ChatArchive.Numeral

inductive Cell where
  | null
  | integer (n : Int)
  | real (x : Double)
  | text (bytes : List UInt8)
  | blob (bytes : List UInt8)
  deriving DecidableEq, Repr

def Cell.ofString (s : String) : Cell := .text s.toUTF8.toList

inductive Affinity where
  | text
  | numeric
  | integer
  | real
  | blob
  | none
  deriving DecidableEq, Repr

/-- The affinity a type name gives, by the words it contains: `INT` makes it integer; else
`CHAR`, `CLOB` or `TEXT` text; else `BLOB` blob; else `REAL`, `FLOA` or `DOUB` real; else
numeric. -/
def Affinity.ofType (type : String) : Affinity :=
  let cs := type.toList.map Char.toLower
  let windows := (List.range cs.length).map fun i => String.ofList ((cs.drop i).take 4)
  let has (w : String) : Bool := windows.any (·.startsWith w)
  if has "int" then .integer
  else if has "char" || has "clob" || has "text" then .text
  else if has "blob" then .blob
  else if has "real" || has "floa" || has "doub" then .real
  else .numeric

def Affinity.isNumeric : Affinity → Bool
  | .numeric | .integer | .real => true
  | .text | .blob | .none => false

inductive Collation where
  | binary
  | nocase
  | rtrim
  | unknown (name : String)
  deriving DecidableEq, Repr

def Cell.className : Cell → String
  | .null => "Null"
  | .integer _ => "Integer"
  | .real _ => "Real"
  | .text _ => "Text"
  | .blob _ => "Blob"

def fitsI64 (n : Int) : Bool := -Int.pow 2 63 ≤ n && n < Int.pow 2 63

def integralOf? (x : Double) : Option Int :=
  if !x.isFinite then none
  else if x.eqZero then some 0
  else
    let (a, b) := x.ratio
    let mag : Option Nat := if a % b = 0 then some (a / b) else none
    match mag with
    | some k =>
      let n : Int := if x.negative then -(k : Int) else k
      if -Int.pow 2 63 < n && n < Int.pow 2 63 - 1 then some n else none
    | none => none

def numericCell (x : Double) : Cell :=
  match integralOf? x with
  | some n => .integer n
  | none => .real x

/-- Text stored in a column that prefers numbers: text that reads as an integer becomes that
integer, one that reads as a real becomes the real, or its integer when it is integral; other
text stays text. An integer text is read through the real reader first, and as an integer only
when the real is not the same small integer. -/
def numericOfText (s : List UInt8) : Cell :=
  match readReal s with
  | (x, .integer) =>
    let i := Double.toInt64 x
    if sameAsInteger x i then .integer i
    else match readInteger s with
      | (n, .exact) => .integer n
      | _ => numericCell x
  | (x, .decimal) => numericCell x
  | _ => .text s

def realOfInteger (n : Int) : Cell := .real (Double.ofInteger n)

/-- A value as stored in a column of the given affinity. -/
def Affinity.store : Affinity → Cell → Cell
  | .text, .integer n => Cell.ofString (toString n)
  | .text, .real x => Cell.ofString (realText x)
  | .numeric, .real x | .integer, .real x => numericCell x
  | .numeric, .text s | .integer, .text s => numericOfText s
  | .real, .integer n => realOfInteger n
  | .real, .text s =>
    match numericOfText s with
    | .integer n => realOfInteger n
    | c => c
  | _, c => c

def realRatio (x : Double) : Int × Nat :=
  let (a, b) := x.ratio
  (if x.negative then -(a : Int) else a, b)

def ratioOrder (a b : Int × Nat) : Ordering := compare (a.1 * b.2) (b.1 * a.2)

def Cell.rank : Cell → Nat
  | .null => 0
  | .integer _ | .real _ => 1
  | .text _ => 2
  | .blob _ => 3

def bytesOrder : List UInt8 → List UInt8 → Ordering
  | [], [] => .eq
  | [], _ => .lt
  | _, [] => .gt
  | a :: r, b :: s => if a < b then .lt else if b < a then .gt else bytesOrder r s

def numberKey : Cell → Option (Nat × Int × Nat)
  | .integer n => some (1, n, 1)
  | .real x =>
    if x.isInfinite then some (if x.negative then 0 else 2, 0, 1)
    else let (a, b) := realRatio x; some (1, a, b)
  | _ => none

def numberOrder (a b : Nat × Int × Nat) : Ordering :=
  match compare a.1 b.1 with
  | .eq => if a.1 = 1 then ratioOrder a.2 b.2 else .eq
  | o => o

def foldBytes (bs : List UInt8) : List UInt8 :=
  bs.map fun b => if 65 ≤ b && b ≤ 90 then b + 32 else b

def Collation.order (coll : Collation) (a b : List UInt8) : Ordering :=
  match coll with
  | .binary | .unknown _ => bytesOrder a b
  | .nocase => bytesOrder (foldBytes a) (foldBytes b)
  | .rtrim =>
    let trim (s : List UInt8) : List UInt8 := (s.reverse.dropWhile (· == 32)).reverse
    bytesOrder (trim a) (trim b)

def Collation.name : Collation → String
  | .binary => "BINARY"
  | .nocase => "NOCASE"
  | .rtrim => "RTRIM"
  | .unknown n => n

inductive TextEncoding where
  | utf8
  | utf16le
  | utf16be
  deriving DecidableEq, Repr

/-- The code points of UTF-8 bytes, each read by the length its first byte announces. -/
def codePoints : List UInt8 → List Nat
  | [] => []
  | b :: rest =>
    let c := b.toNat
    let more (n : Nat) (lead : Nat) : List Nat :=
      let tail := rest.take n
      tail.foldl (fun acc t => acc * 64 + t.toNat % 64) lead :: codePoints (rest.drop n)
    if c < 0x80 then c :: codePoints rest
    else if c < 0xE0 then more 1 (c % 32)
    else if c < 0xF0 then more 2 (c % 16)
    else more 3 (c % 8)
termination_by bs => bs.length
decreasing_by
  · rw [List.length_drop, List.length_cons]; omega
  · rw [List.length_cons]; omega

def utf16Bytes (littleEndian : Bool) (bs : List UInt8) : List UInt8 :=
  let units := (codePoints bs).flatMap fun c =>
    if c < 0x10000 then [c] else [0xD800 + (c - 0x10000) / 1024, 0xDC00 + (c - 0x10000) % 1024]
  units.flatMap fun u =>
    if littleEndian then [(u % 256).toUInt8, (u / 256).toUInt8]
    else [(u / 256).toUInt8, (u % 256).toUInt8]

def Collation.orderIn (enc : TextEncoding) (coll : Collation) (a b : List UInt8) : Ordering :=
  match enc, coll with
  | .utf16le, .binary => bytesOrder (utf16Bytes true a) (utf16Bytes true b)
  | .utf16be, .binary => bytesOrder (utf16Bytes false a) (utf16Bytes false b)
  | _, _ => coll.order a b

/-- The order of cells: by class, numbers by value, text under a collation and blobs by their
bytes. -/
def Cell.orderWith (coll : Collation) (a b : Cell) : Ordering :=
  match numberKey a, numberKey b with
  | some x, some y => numberOrder x y
  | _, _ =>
    match a, b with
    | .text s, .text t => coll.order s t
    | .blob x, .blob y => bytesOrder x y
    | _, _ => compare a.rank b.rank

def Cell.orderIn (enc : TextEncoding) (coll : Collation) (a b : Cell) : Ordering :=
  match a, b with
  | .text s, .text t => coll.orderIn enc s t
  | _, _ => Cell.orderWith coll a b

def Cell.order (a b : Cell) : Ordering := Cell.orderWith .binary a b

def Affinity.operand : Affinity → Cell → Cell
  | .text, .integer n => Cell.ofString (toString n)
  | .text, .real x => Cell.ofString (realText x)
  | aff, .text s => if aff.isNumeric then numericOfText s else .text s
  | _, c => c

def Cell.sameAs (aff : Affinity) (coll : Collation) (a b : Cell) : Bool :=
  match a, b with
  | .null, _ | _, .null => false
  | _, _ => Cell.orderWith coll (aff.operand a) (aff.operand b) == .eq

end ChatArchive.Store
