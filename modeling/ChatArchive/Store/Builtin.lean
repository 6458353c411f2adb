import ChatArchive.Store.Operator
import ChatArchive.Store.Pattern

namespace ChatArchive.Store.Builtin

open ChatArchive.Numeral

def untilZero (s : List UInt8) : List UInt8 := s.takeWhile (· != 0)

def charCount (s : List UInt8) : Nat := (Pattern.charSuffixes (untilZero s)).length

def dropChars : Nat → List UInt8 → List UInt8
  | 0, s => s
  | n + 1, s =>
    match s with
    | [] => []
    | 0 :: _ => s
    | _ => dropChars n (Pattern.readChar s).2

def takeChars (n : Nat) (s : List UInt8) : List UInt8 :=
  s.take (s.length - (dropChars n s).length)

def upperByte (b : UInt8) : UInt8 := if 97 ≤ b && b ≤ 122 then b - 32 else b

def lowerByte (b : UInt8) : UInt8 := if 65 ≤ b && b ≤ 90 then b + 32 else b

def hexDigit (n : Nat) : UInt8 := if n < 10 then (48 + n).toUInt8 else (55 + n).toUInt8

def hexOf (bs : List UInt8) : List UInt8 :=
  bs.flatMap fun b => [hexDigit (b.toNat / 16), hexDigit (b.toNat % 16)]

def utf8Of (c : Nat) : List UInt8 :=
  if c < 0x80 then [c.toUInt8]
  else if c < 0x800 then [(0xC0 + c / 64 % 32).toUInt8, (0x80 + c % 64).toUInt8]
  else if c < 0x10000 then
    [(0xE0 + c / 4096 % 16).toUInt8, (0x80 + c / 64 % 64).toUInt8, (0x80 + c % 64).toUInt8]
  else
    [(0xF0 + c / 262144 % 8).toUInt8, (0x80 + c / 4096 % 64).toUInt8,
     (0x80 + c / 64 % 64).toUInt8, (0x80 + c % 64).toUInt8]

def toInt32 (n : Int) : Int := Int.bmod n (Nat.pow 2 32)

def length : Cell → Cell
  | .null => .null
  | .text s => .integer (charCount s)
  | c => .integer c.textBytes.length

def octetLength : Cell → Cell
  | .null => .null
  | c => .integer c.textBytes.length

def mapCase (f : UInt8 → UInt8) : Cell → Cell
  | .null => .null
  | c => .text (c.textBytes.map f)

def abs : Cell → Except String Cell
  | .null => .ok .null
  | .integer n =>
    if n = -Int.pow 2 63 then .error "integer overflow" else .ok (.integer n.natAbs)
  | c =>
    let x := c.toReal
    .ok (.real (if x.negative && !x.eqZero then x.neg else x))

def typeName : Cell → Cell
  | .null => Cell.ofString "null"
  | .integer _ => Cell.ofString "integer"
  | .real _ => Cell.ofString "real"
  | .text _ => Cell.ofString "text"
  | .blob _ => Cell.ofString "blob"

def hex (c : Cell) : Cell := .text (hexOf c.textBytes)

/-- `substr(x, start, count)`: characters of text, bytes of a blob, from a position counted from
one (or from the end when negative), as many as asked (backwards when negative). -/
def substr (x start : Cell) (count : Option Cell) : Cell :=
  match x, start, count with
  | _, .null, _ | _, _, some .null => .null
  | .null, _, _ => .null
  | _, _, _ =>
    let isBlob := match x with | .blob _ => true | _ => false
    let bytes := x.textBytes
    let p1 : Int := toInt32 start.toInteger
    let len : Int := if isBlob then bytes.length else if p1 < 0 then charCount bytes else 0
    let (p2, negP2) : Int × Bool := match count with
      | some c =>
        let v := toInt32 c.toInteger
        if v < 0 then (-v, true) else (v, false)
      | none => (1000000000, false)
    let (p1, p2) : Int × Int :=
      if p1 < 0 then
        let p1 := p1 + len
        if p1 < 0 then (0, if p2 < 0 then 0 else p2 + p1) else (p1, p2)
      else if 0 < p1 then (p1 - 1, p2)
      else if 0 < p2 then (p1, p2 - 1)
      else (p1, p2)
    let (p1, p2) : Int × Int :=
      if negP2 then
        let p1' := p1 - p2
        if p1' < 0 then (0, p2 + p1') else (p1', p2)
      else (p1, p2)
    if isBlob then
      if len ≤ p1 then .blob []
      else
        let p2 := if len - p1 < p2 then len - p1 else p2
        .blob ((bytes.drop p1.toNat).take p2.toNat)
    else
      let rest := dropChars p1.toNat bytes
      .text (takeChars p2.toNat (untilZero rest))

def charsOf (s : List UInt8) : List (List UInt8) :=
  let s := untilZero s
  let rests := (Pattern.charSuffixes s).map (·.2)
  let starts := s :: rests
  (starts.zip rests).map fun (a, b) => a.take (a.length - b.length)

def trimFront (set : List (List UInt8)) : Nat → List UInt8 → List UInt8
  | 0, s => s
  | n + 1, s =>
    match set.find? (fun c => c.length ≤ s.length && s.take c.length == c) with
    | some c => if c.isEmpty then s else trimFront set n (s.drop c.length)
    | none => s

def trim (front back : Bool) (x : Cell) (set : Option Cell) : Cell :=
  match x, set with
  | .null, _ | _, some .null => .null
  | _, _ =>
    let chars := match set with
      | some c => charsOf c.textBytes
      | none => [[32]]
    let s := x.textBytes
    if chars.isEmpty then .text s
    else
      let s := if front then trimFront chars s.length s else s
      let s := if back then (trimFront (chars.map List.reverse) s.length s.reverse).reverse else s
      .text s

def replaceAll (pat rep : List UInt8) : Nat → List UInt8 → List UInt8
  | 0, s => s
  | n + 1, s =>
    match s with
    | [] => []
    | b :: rest =>
      if pat.length ≤ s.length && s.take pat.length == pat then
        rep ++ replaceAll pat rep n (s.drop pat.length)
      else b :: replaceAll pat rep n rest

def replace (x pat rep : Cell) : Cell :=
  match x, pat, rep with
  | .null, _, _ | _, .null, _ => .null
  | _, _, _ =>
    let p := pat.textBytes
    if p.head? = some 0 || p.isEmpty then .text x.textBytes
    else match rep with
      | .null => .null
      | _ =>
        let s := x.textBytes
        .text (replaceAll p rep.textBytes s.length s)

def instr (hay needle : Cell) : Cell :=
  match hay, needle with
  | .null, _ | _, .null => .null
  | _, _ =>
    let n := needle.textBytes
    if n.isEmpty then .integer 1
    else
      let isText := match hay, needle with | .blob _, .blob _ => false | _, _ => true
      let h := hay.textBytes
      let h := if isText then untilZero h else h
      let n := if isText then untilZero n else n
      let starts := if isText then h :: (Pattern.charSuffixes h).map (·.2)
        else (List.range (h.length + 1)).map h.drop
      match starts.findIdx? (fun s => n.length ≤ s.length && s.take n.length == n) with
      | some i => .integer (i + 1)
      | none => .integer 0

def charOf (args : List Cell) : Cell :=
  .text (args.flatMap fun a =>
    let x := a.toInteger
    utf8Of (if x < 0 || 0x10FFFF < x then 0xFFFD else x.toNat))

def unicode : Cell → Cell
  | .null => .null
  | c =>
    match untilZero c.textBytes with
    | [] => .null
    | s => .integer (Pattern.readChar s).1

def scientific20 (x : Double) : String :=
  let sign := if x.negative then "-" else ""
  let (v, exp) := engineDigits x
  let ds := decimalDigits v
  let point : Int := ds.length + exp
  let ds := (ds ++ List.replicate 21 0).take 21
  let e := point - 1
  sign ++ digitText (ds.take 1) ++ "." ++ digitText (ds.drop 1) ++ "e" ++
    (if e < 0 then "-" else "+") ++ (if e.natAbs < 10 then "0" else "") ++ toString e.natAbs

def quoteText (s : List UInt8) : List UInt8 :=
  39 :: (untilZero s).flatMap (fun b => if b = 39 then [39, 39] else [b]) ++ [39]

/-- `quote`: the value as a literal of the language. A real is written with fifteen digits, or
with twenty-one when fifteen do not read back as it. -/
def quote : Cell → Cell
  | .null => Cell.ofString "NULL"
  | .integer n => Cell.ofString (toString n)
  | .real x =>
    let t := realText x
    if x.isFinite && (readReal t.toUTF8.toList).1 != x then Cell.ofString (scientific20 x)
    else Cell.ofString t
  | .text s => .text (quoteText s)
  | .blob b => .text ([88, 39] ++ hexOf b ++ [39])

def sign : Cell → Cell
  | .null => .null
  | c =>
    match Affinity.numeric.operand c with
    | .integer n => .integer (if n < 0 then -1 else if 0 < n then 1 else 0)
    | .real x =>
      .integer (if x.eqZero || x.isNaN then 0 else if x.negative then -1 else 1)
    | _ => .null

/-- Round a real to `n` decimal places as the engine's decimal writer does: its digits rounded
half up at that place, read back. -/
def roundTo (x : Double) (n : Nat) : Double :=
  if x.eqZero || !x.isFinite then x
  else
    let (v, exp) := engineDigits x
    let ds := decimalDigits v
    let point : Int := ds.length + exp
    let place : Int := point + n
    let (ds, point) :=
      if place < 0 then ([0], point)
      else if place = 0 then (if 5 ≤ ds.headD 0 then ([1], point + 1) else ([0], point))
      else if place < ds.length then
        if 5 ≤ ds.getD place.toNat 0 then
          let (up, grew) := incrementDigits (ds.take place.toNat)
          (up, if grew then point + 1 else point)
        else (ds.take place.toNat, point)
      else (ds, point)
    let mantissa := ds.foldl (fun acc d => acc * 10 + d) 0
    let text := (if x.negative then "-" else "") ++ toString mantissa ++ "e" ++
      toString (point - ds.length)
    (readReal text.toUTF8.toList).1

def round (x : Cell) (digits : Option Cell) : Cell :=
  match x, digits with
  | _, some .null => .null
  | .null, _ => .null
  | _, _ =>
    let n : Int := match digits with
      | some d => let v := d.toInteger; if 30 < v then 30 else if v < 0 then 0 else v
      | none => 0
    let r := x.toReal
    let big : Double := Double.ofInteger (Int.pow 2 52)
    if !r.isFinite || Cell.orderWith .binary (.real big) (.real r) = .lt ||
        Cell.orderWith .binary (.real r) (.real big.neg) = .lt then .real r
    else if n = 0 then
      let half := Double.ofRatio r.negative 1 2
      .real (Double.ofInteger (Double.toInt64 (r.add half)))
    else .real (roundTo r n.toNat)

def zeroblob (n : Cell) : Except String Cell :=
  let k := n.toInteger
  if 1000000000 < k then .error "string or blob too big"
  else .ok (.blob (List.replicate k.toNat 0))

def concat (args : List Cell) : Cell :=
  .text (args.flatMap fun a => match a with | .null => [] | a => a.textBytes)

def concatWith (sep : Cell) (args : List Cell) : Cell :=
  match sep with
  | .null => .null
  | _ =>
    let parts := args.filterMap fun a => match a with | .null => none | a => some a.textBytes
    .text ((parts.intersperse sep.textBytes).flatten)

def isHexByte (b : UInt8) : Bool :=
  (48 ≤ b && b ≤ 57) || (65 ≤ b && b ≤ 70) || (97 ≤ b && b ≤ 102)

def hexValue (b : UInt8) : Nat :=
  if b ≤ 57 then b.toNat - 48 else if b ≤ 70 then b.toNat - 55 else b.toNat - 87

def unhexBytes (pass : List Nat) : Nat → List UInt8 → Option (List UInt8)
  | 0, _ => some []
  | fuel + 1, s =>
    match s with
    | [] => some []
    | c :: rest =>
      if isHexByte c then
        match rest with
        | d :: more =>
          if isHexByte d then
            (unhexBytes pass fuel more).map (((hexValue c * 16 + hexValue d).toUInt8) :: ·)
          else none
        | [] => none
      else
        let (ch, after) := Pattern.readChar s
        if pass.contains ch then unhexBytes pass fuel after else none

def unhex (x : Cell) (pass : Option Cell) : Cell :=
  match x, pass with
  | .null, _ | _, some .null => .null
  | _, _ =>
    let passChars := match pass with
      | some p => (Pattern.charSuffixes (untilZero p.textBytes)).map (·.1)
      | none => []
    let s := untilZero x.textBytes
    match unhexBytes passChars (s.length + 1) s with
    | some bs => .blob bs
    | none => .null

def soundCode (b : UInt8) : Nat :=
  let c := (lowerByte b).toNat
  if c = 98 || c = 102 || c = 112 || c = 118 then 1
  else if c = 99 || c = 103 || c = 106 || c = 107 || c = 113 || c = 115 || c = 120 ||
    c = 122 then 2
  else if c = 100 || c = 116 then 3
  else if c = 108 then 4
  else if c = 109 || c = 110 then 5
  else if c = 114 then 6
  else 0

def isLetter (b : UInt8) : Bool := (65 ≤ b && b ≤ 90) || (97 ≤ b && b ≤ 122)

def soundex (x : Cell) : Cell :=
  let s := (untilZero x.textBytes).dropWhile (!isLetter ·)
  match s with
  | [] => Cell.ofString "?000"
  | first :: _ =>
    let (codes, _) := s.foldl (fun (acc : List Nat × Nat) b =>
      let (out, prev) := acc
      let code := soundCode b
      if code = 0 then (out, 0)
      else if code = prev then (out, prev)
      else (out ++ [code], code)) ([], soundCode first)
    let digits := (codes.take 3 ++ [0, 0, 0]).take 3
    .text (upperByte first :: digits.map fun d => (48 + d).toUInt8)

def patternMatch (rules : Pattern.Rules) (pat str : Cell) (escape : Option Cell) :
    Except String Cell := do
  if 50000 < pat.textBytes.length then throw "LIKE or GLOB pattern too complex"
  let (rules, other) ← match escape with
    | none => pure (rules, rules.matchSet)
    | some .null => return .null
    | some e =>
      let cs := Pattern.charSuffixes (untilZero e.textBytes)
      if cs.length != 1 then throw "ESCAPE expression must be a single character"
      let c := (cs.headD (0, [])).1
      let rules := { rules with
        matchAll := if c = rules.matchAll then 0 else rules.matchAll
        matchOne := if c = rules.matchOne then 0 else rules.matchOne }
      pure (rules, c)
  match pat, str with
  | .null, _ | _, .null => return .null
  | _, _ => return Cell.ofTruth (some (Pattern.accepts rules other pat.textBytes str.textBytes))

def extreme (greatest : Bool) (coll : Collation) (args : List Cell) : Cell :=
  if args.any (· == .null) then .null
  else
    args.foldl (fun best a =>
      match best with
      | .null => a
      | b =>
        let o := Cell.orderWith coll a b
        if (greatest && o = .gt) || (!greatest && o = .lt) then a else b) .null

/-- The value of an ordinary function whose arguments are all computed, by its name in lower
case. Functions the engine computes from outside the query (the clock, randomness, the
connection's counters) give what a fresh read-only connection gives, or null. -/
def call (name : String) (coll : Collation) (args : List Cell) : Except String Cell :=
  let a (i : Nat) : Cell := args.getD i .null
  let opt (i : Nat) : Option Cell := args[i]?
  match name with
  | "length" => .ok (length (a 0))
  | "octet_length" => .ok (octetLength (a 0))
  | "upper" => .ok (mapCase upperByte (a 0))
  | "lower" => .ok (mapCase lowerByte (a 0))
  | "abs" => abs (a 0)
  | "typeof" => .ok (typeName (a 0))
  | "subtype" => .ok (.integer 0)
  | "hex" => .ok (hex (a 0))
  | "substr" | "substring" => .ok (substr (a 0) (a 1) (opt 2))
  | "trim" => .ok (trim true true (a 0) (opt 1))
  | "ltrim" => .ok (trim true false (a 0) (opt 1))
  | "rtrim" => .ok (trim false true (a 0) (opt 1))
  | "replace" => .ok (replace (a 0) (a 1) (a 2))
  | "instr" => .ok (instr (a 0) (a 1))
  | "char" => .ok (charOf args)
  | "unicode" => .ok (unicode (a 0))
  | "quote" => .ok (quote (a 0))
  | "sign" => .ok (sign (a 0))
  | "round" => .ok (round (a 0) (opt 1))
  | "zeroblob" => zeroblob (a 0)
  | "concat" => .ok (concat args)
  | "concat_ws" => .ok (concatWith (a 0) (args.drop 1))
  | "unhex" => .ok (unhex (a 0) (opt 1))
  | "soundex" => .ok (soundex (a 0))
  | "like" => patternMatch Pattern.likeRules (a 0) (a 1) (opt 2)
  | "glob" => patternMatch Pattern.globRules (a 0) (a 1) none
  | "min" => .ok (extreme false coll args)
  | "max" => .ok (extreme true coll args)
  | "nullif" =>
    .ok (if Cell.orderWith coll (a 0) (a 1) = .eq then .null else a 0)
  | "ifnull" | "coalesce" => .ok ((args.find? (· != .null)).getD .null)
  | "iif" => .ok (if (a 0).truth? = some true then a 1 else a 2)
  | "likely" | "unlikely" | "likelihood" => .ok (a 0)
  | "sqlite_version" => .ok (Cell.ofString "3.46.0")
  | "changes" | "total_changes" | "last_insert_rowid" => .ok (.integer 0)
  | _ => .ok .null

end ChatArchive.Store.Builtin
