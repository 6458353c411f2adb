import ChatArchive.Store.Basic

namespace ChatArchive.Store

def leadFraction (bits : Nat) : Int :=
  match bits with
  | 0 => 0
  | 1 => 2
  | 2 => 3
  | 3 => 5
  | 4 => 6
  | 5 => 7
  | 6 => 8
  | _ => 9

/-- The estimate of a count: about ten times its binary logarithm, read off its four leading
bits; 0 for a count below two. -/
def logEst (n : Nat) : Int :=
  if n < 2 then 0
  else if n < 8 then
    let k := 3 - Nat.log2 n
    leadFraction (n * Nat.pow 2 k % 8) + 30 - 10 * (k : Int)
  else
    let i := Nat.log2 n - 3
    leadFraction (n / Nat.pow 2 i % 8) + 30 + 10 * (i : Int)

def sumBump (d : Nat) : Int :=
  ([10, 10, 9, 9, 8, 8, 7, 7, 7, 6, 6, 6, 5, 5, 5, 4, 4, 4, 4, 3, 3, 3, 3, 3, 3, 2, 2, 2, 2, 2,
    2, 2] : List Int).getD d 0

def logEstAdd (a b : Int) : Int :=
  let hi := max a b
  let lo := min a b
  if hi > lo + 49 then hi
  else if hi > lo + 31 then hi + 1
  else hi + sumBump (hi - lo).toNat

def estLog (n : Int) : Int := if n ≤ 10 then 0 else logEst n.toNat - 33

def leadingNumber? (cs : List Char) : Option Nat :=
  let digits := (cs.dropWhile (· = '0')).takeWhile Char.isDigit
  let n := digits.foldl (fun acc c => acc * 10 + (c.toNat - 48)) 0
  if digits.length ≤ 10 && n < Nat.pow 2 31 then some n else none

inductive TypeClass where
  | numeric
  | real
  | text
  | blob
  | integer
  deriving DecidableEq

/-- Scan a type name letter by letter as the engine does for its width: `char`, `clob` and
`text` make it text (after `char` a length may follow), `blob` makes a numeric or real type a
blob (a length may follow at once), `real`, `floa` and `doub` make a numeric type real, and
`int` ends the scan. Gives the class and where a length may start. -/
def scanType : List Char → List Char → TypeClass → Option (List Char) → TypeClass × Option (List Char)
  | [], _, cls, from_ => (cls, from_)
  | c :: rest, seen, cls, from_ =>
    let seen := (seen ++ [c.toLower]).reverse.take 4 |>.reverse
    let last4 := String.ofList seen
    let last3 := String.ofList (seen.drop (seen.length - 3))
    if last3 == "int" then (.integer, from_)
    else if last4 == "char" then scanType rest seen .text (some rest)
    else if last4 == "clob" || last4 == "text" then scanType rest seen .text from_
    else if last4 == "blob" && (cls = .numeric || cls = .real) then
      scanType rest seen .blob (if rest.head? = some '(' then some rest else from_)
    else if (last4 == "real" || last4 == "floa" || last4 == "doub") && cls = .numeric then
      scanType rest seen .real from_
    else scanType rest seen cls from_

def typeWidth (type : String) : Nat :=
  let (cls, from_) := scanType type.toList [] .numeric none
  let v : Nat :=
    if cls = .text || cls = .blob then
      match from_ with
      | some cs =>
        match (cs.dropWhile (!·.isDigit)) with
        | [] => 0
        | ds => (leadingNumber? ds).getD 0
      | none => 16
    else 0
  min (v / 4 + 1) 255

end ChatArchive.Store
