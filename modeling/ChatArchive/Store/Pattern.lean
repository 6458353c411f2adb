namespace ChatArchive.Store.Pattern

def leadBits (b : UInt8) : Nat :=
  let n := b.toNat
  if n < 0xE0 then n - 0xC0
  else if n < 0xF0 then n - 0xE0
  else if n < 0xF8 then n - 0xF0
  else if n < 0xFC then n - 0xF8
  else if n < 0xFE then n - 0xFC
  else 0

def isContinuation (b : UInt8) : Bool := b &&& 0xC0 == 0x80

def readChar : List UInt8 → Nat × List UInt8
  | [] => (0, [])
  | b :: rest =>
    if b < 0xC0 then (b.toNat, rest)
    else
      let conts := rest.takeWhile isContinuation
      let c := conts.foldl (fun acc x => (acc * 64 + (x &&& 0x3F).toNat) % Nat.pow 2 32) (leadBits b)
      let c := if c < 0x80 || c / 0x800 = 0x1B || c / 2 = 0x7FFF then 0xFFFD else c
      (c, rest.drop conts.length)

def suffixes : Nat → List UInt8 → List (Nat × List UInt8)
  | 0, _ => []
  | _, [] => []
  | fuel + 1, s =>
    let (c, rest) := readChar s
    (c, rest) :: suffixes fuel rest

def charSuffixes (s : List UInt8) : List (Nat × List UInt8) := suffixes s.length s

def lowerAscii (c : Nat) : Nat := if 65 ≤ c && c ≤ 90 then c + 32 else c

def upperAscii (c : Nat) : Nat := if 97 ≤ c && c ≤ 122 then c - 32 else c

structure Rules where
  matchAll : Nat
  matchOne : Nat
  matchSet : Nat
  noCase : Bool

def likeRules : Rules := ⟨37, 95, 0, true⟩

def globRules : Rules := ⟨42, 63, 91, false⟩

/-- The outcome of matching: a match, no match, or no match possible however far a wildcard
before it reaches. -/
inductive Outcome where
  | matched
  | failed
  | exhausted
  deriving DecidableEq, Repr

def firstDecided (tries : List (Unit → Outcome)) : Outcome :=
  match tries.findSome? (fun f => let r := f (); if r = .failed then none else some r) with
  | some r => r
  | none => .exhausted

def inSet (c : Nat) (pat : List UInt8) : Option (Bool × List UInt8) :=
  let (c2, pat) := readChar pat
  let (invert, c2, pat) :=
    if c2 = 94 then let (d, p) := readChar pat; (true, d, p) else (false, c2, pat)
  let (seen, c2, pat) :=
    if c2 = 93 then let (d, p) := readChar pat; (c = 93, d, p) else (false, c2, pat)
  let rec scan : Nat → Bool → Nat → Nat → List UInt8 → Option (Bool × List UInt8)
    | 0, _, _, _, _ => none
    | fuel + 1, seen, prior, c2, pat =>
      if c2 = 0 then none
      else if c2 = 93 then some (seen != invert, pat)
      else if c2 = 45 && pat.head? != some 93 && !pat.isEmpty && 0 < prior then
        let (hi, pat) := readChar pat
        let seen := seen || (prior ≤ c && c ≤ hi)
        let (c2, pat) := readChar pat
        scan fuel seen 0 c2 pat
      else
        let seen := seen || c = c2
        let (next, pat) := readChar pat
        scan fuel seen c2 next pat
  scan (pat.length + 2) seen 0 c2 pat

/-- Match text against a pattern under the rules, with `other` the escape character (or the
set opener). `fuel` bounds the depth, which the pattern's length bounds. -/
def compare (r : Rules) (other : Nat) : Nat → List UInt8 → List UInt8 → Outcome
  | 0, _, _ => .failed
  | fuel + 1, pat, str =>
    let (c, pat) := readChar pat
    if c = 0 then (if str.isEmpty then .matched else .failed)
    else if c = r.matchAll then
      -- further wildcards: each single-character one takes a character of the text
      let rec skip : Nat → List UInt8 → List UInt8 → Option (Nat × List UInt8 × List UInt8)
        | 0, _, _ => none
        | n + 1, pat, str =>
          let (c, rest) := readChar pat
          if c = r.matchAll then skip n rest str
          else if c = r.matchOne && r.matchOne != 0 then
            let (c2, str) := readChar str
            if c2 = 0 then none else skip n rest str
          else some (c, rest, str)
      match skip (pat.length + 1) pat str with
      | none => .exhausted
      | some (c, rest, str) =>
        if c = 0 then .matched
        else if c = other && r.matchSet != 0 then
          -- a set right after the wildcard: try it at every character
          let starts := str :: (charSuffixes str).map (·.2)
          let starts := starts.take (charSuffixes str).length
          firstDecided (starts.map fun s _ => compare r other fuel (91 :: rest) s)
        else
          let literal :=
            if c = other then some (readChar rest) else some (c, rest)
          match literal with
          | none => .exhausted
          | some (c, rest) =>
            if c = 0 then .exhausted
            else if c < 0x80 then
              let stops := if r.noCase then [upperAscii c, lowerAscii c] else [c]
              let rec positions : Nat → List UInt8 → List (List UInt8)
                | 0, _ => []
                | _, [] => []
                | n + 1, b :: s =>
                  if stops.contains b.toNat then s :: positions n s else positions n s
              firstDecided ((positions str.length str).map fun s _ => compare r other fuel rest s)
            else
              let hits := (charSuffixes str).filter (·.1 = c)
              firstDecided (hits.map fun (_, s) _ => compare r other fuel rest s)
    else
      let step (c : Nat) (escaped : Bool) (pat : List UInt8) : Outcome :=
        let (c2, str) := readChar str
        if c = c2 then compare r other fuel pat str
        else if r.noCase && lowerAscii c = lowerAscii c2 && c < 0x80 && c2 < 0x80 then
          compare r other fuel pat str
        else if c = r.matchOne && !escaped && c2 != 0 then compare r other fuel pat str
        else .failed
      if c = other then
        if r.matchSet = 0 then
          let (c, pat) := readChar pat
          if c = 0 then .failed else step c true pat
        else
          let (c, str) := readChar str
          if c = 0 then .failed
          else match inSet c pat with
            | some (true, pat) => compare r other fuel pat str
            | _ => .failed
      else step c false pat

def untilZero (s : List UInt8) : List UInt8 := s.takeWhile (· != 0)

def accepts (r : Rules) (other : Nat) (pat str : List UInt8) : Bool :=
  let pat := untilZero pat
  compare r other (pat.length + 1) pat (untilZero str) = .matched

end ChatArchive.Store.Pattern
