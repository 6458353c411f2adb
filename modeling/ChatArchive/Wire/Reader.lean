import ChatArchive.Value
import ChatArchive.Wire.Utf8
/-!
Reading one MessagePack value from the front of a byte list.

Nesting is bounded by a budget of 1024 units. One unit is spent on each value read, on the
element loop of each array or map, on the data of each string, on the data of each byte string
(so a string spends both), and on the body of each extension (whose data spends one more). The
budget is checked before the bytes it guards are read, but after a length prefix.
-/
namespace ChatArchive.Wire

open ChatArchive.Numeral ChatArchive.Clock

inductive ReadError where
  | markerCut
  | dataCut
  | bodyCut (expected got : Nat)
  | tooDeep
  deriving DecidableEq, Repr

def ReadError.message : ReadError → String
  | .markerCut => "I/O error while reading marker byte: failed to fill whole buffer"
  | .dataCut => "I/O error while reading non-marker bytes: failed to fill whole buffer"
  | .bodyCut e g => s!"I/O error while reading non-marker bytes: Expected {e} bytes, read {g} bytes"
  | .tooDeep => "depth limit exceeded"

/-- A reader of something from the front of a byte list, giving it and the bytes after it. -/
abbrev Reader (α : Type) := List UInt8 → Except ReadError (α × List UInt8)

def bigEndian (bs : List UInt8) : Nat := bs.foldl (fun acc b => acc * 256 + b.toNat) 0

def splitExactly? : Nat → List UInt8 → Option (List UInt8 × List UInt8)
  | 0, bs => some ([], bs)
  | _ + 1, [] => none
  | n + 1, b :: bs => (splitExactly? n bs).map fun (front, back) => (b :: front, back)

def readUnsigned (width : Nat) : Reader Nat := fun bs =>
  match splitExactly? width bs with
  | some (front, back) => .ok (bigEndian front, back)
  | none => .error .dataCut

def readSigned (width : Nat) : Reader Int := fun bs =>
  match readUnsigned width bs with
  | .ok (n, r) => .ok (if n < Nat.pow 2 (8 * width - 1) then (n : Int) else (n : Int) - Int.pow 2 (8 * width), r)
  | .error e => .error e

def readBody (len : Nat) : Reader (List UInt8) := fun bs =>
  match splitExactly? len bs with
  | some split => .ok split
  | none => .error (.bodyCut len bs.length)

def readSeq {α : Type} (item : Reader α) : Nat → Reader (List α)
  | 0, bs => .ok ([], bs)
  | n + 1, bs =>
    match item bs with
    | .error e => .error e
    | .ok (a, r) =>
      match readSeq item n r with
      | .error e => .error e
      | .ok (as, r') => .ok (a :: as, r')

def readEntry (item : Reader Value) : Reader (Key × Value) := fun bs =>
  match item bs with
  | .error e => .error e
  | .ok (k, r) =>
    match item r with
    | .error e => .error e
    | .ok (v, r') => .ok ((k.toKey, v), r')

/-- The instant of a timestamp extension body: 4 bytes of seconds; 8 bytes of which the top
30 bits are nanoseconds and the low 34 bits seconds; or 4 bytes of nanoseconds then 8 bytes of
signed seconds. -/
def timestampOf? (data : List UInt8) : Option Instant :=
  match data.length with
  | 4 => Instant.ofUnix? (bigEndian data) 0
  | 8 =>
    let raw := bigEndian data
    Instant.ofUnix? (raw % Nat.pow 2 34) (raw / Nat.pow 2 34)
  | 12 =>
    let s := bigEndian (data.drop 4)
    Instant.ofUnix? (if s < Nat.pow 2 63 then (s : Int) else (s : Int) - Int.pow 2 64) (bigEndian (data.take 4))
  | _ => none

/-- An extension value: type -1 holding a valid instant is a timestamp, anything else stays
an extension with its type and bytes. -/
def extensionValue (type : Int8) (data : List UInt8) : Value :=
  if type = -1 then
    match timestampOf? data with
    | some t => .time t
    | none => .ext type data
    else .ext type data

/-- String data of `len` bytes, with `budget` units left after the value's own. -/
def readStr (budget len : Nat) : Reader Value := fun bs =>
  if budget < 2 then .error .tooDeep
  else (readBody len bs).map fun (d, r) => (.str (Utf8.decodeLossy d), r)

def readBin (budget len : Nat) : Reader Value := fun bs =>
  if budget < 1 then .error .tooDeep
  else (readBody len bs).map fun (d, r) => (.bin d, r)

def readExt (budget len : Nat) : Reader Value := fun bs =>
  if budget < 1 then .error .tooDeep
  else
    match readSigned 1 bs with
    | .error e => .error e
    | .ok (type, r) =>
      if budget < 2 then .error .tooDeep
      else (readBody len r).map fun (d, r') => (extensionValue (Int8.ofInt type) d, r')

def withLength {α : Type} (width : Nat) (k : Nat → Reader α) : Reader α := fun bs =>
  match readUnsigned width bs with
  | .error e => .error e
  | .ok (n, r) => k n r

def readValue : Nat → Reader Value
  | 0, _ => .error .tooDeep
  | _ + 1, [] => .error .markerCut
  | b + 1, m :: rest =>
    let n := m.toNat
    let array (count : Nat) : Reader Value := fun bs =>
      match b with
      | 0 => .error .tooDeep
      | c + 1 => (readSeq (readValue c) count bs).map fun (xs, r) => (.arr xs, r)
    let table (count : Nat) : Reader Value := fun bs =>
      match b with
      | 0 => .error .tooDeep
      | c + 1 => (readSeq (readEntry (readValue c)) count bs).map fun (es, r) => (.map es, r)
    let number (width : Nat) (signed : Bool) : Reader Value := fun bs =>
      if signed then (readSigned width bs).map fun (i, r) => (.int i, r)
      else (readUnsigned width bs).map fun (i, r) => (.int i, r)
    if n < 0x80 then .ok (.int n, rest)
    else if n < 0x90 then table (n - 0x80) rest
    else if n < 0xA0 then array (n - 0x90) rest
    else if n < 0xC0 then readStr b (n - 0xA0) rest
    else if 0xE0 ≤ n then .ok (.int ((n : Int) - 256), rest)
    else match n with
      | 0xC0 => .ok (.nil, rest)
      | 0xC2 => .ok (.bool false, rest)
      | 0xC3 => .ok (.bool true, rest)
      | 0xC4 => withLength 1 (readBin b) rest
      | 0xC5 => withLength 2 (readBin b) rest
      | 0xC6 => withLength 4 (readBin b) rest
      | 0xC7 => withLength 1 (readExt b) rest
      | 0xC8 => withLength 2 (readExt b) rest
      | 0xC9 => withLength 4 (readExt b) rest
      | 0xCA => (readUnsigned 4 rest).map fun (w, r) => (.float (Double.ofSingleBits w.toUInt32), r)
      | 0xCB => (readUnsigned 8 rest).map fun (w, r) => (.float ⟨w.toUInt64⟩, r)
      | 0xCC => number 1 false rest
      | 0xCD => number 2 false rest
      | 0xCE => number 4 false rest
      | 0xCF => number 8 false rest
      | 0xD0 => number 1 true rest
      | 0xD1 => number 2 true rest
      | 0xD2 => number 4 true rest
      | 0xD3 => number 8 true rest
      | 0xD4 => readExt b 1 rest
      | 0xD5 => readExt b 2 rest
      | 0xD6 => readExt b 4 rest
      | 0xD7 => readExt b 8 rest
      | 0xD8 => readExt b 16 rest
      | 0xD9 => withLength 1 (readStr b) rest
      | 0xDA => withLength 2 (readStr b) rest
      | 0xDB => withLength 4 (readStr b) rest
      | 0xDC => withLength 2 array rest
      | 0xDD => withLength 4 array rest
      | 0xDE => withLength 2 table rest
      | 0xDF => withLength 4 table rest
      -- 0xC1 is reserved and reads as nil
      | _ => .ok (.nil, rest)

def depthBudget : Nat := 1024

def readOne (bytes : List UInt8) : Except ReadError (Value × Nat) :=
  (readValue depthBudget bytes).map fun (v, r) => (v, bytes.length - r.length)

end ChatArchive.Wire
