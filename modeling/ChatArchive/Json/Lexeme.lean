import ChatArchive.Json.Cursor
import ChatArchive.Numeral.Double
import ChatArchive.Wire.Utf8

namespace ChatArchive.Json

open ChatArchive.Numeral

inductive Number where
  | unsigned (n : Nat)
  | signed (n : Int)
  | float (x : Double)
  deriving DecidableEq, Repr

namespace Cursor

def hexValue? (b : UInt8) : Option Nat :=
  if 48 ≤ b && b ≤ 57 then some (b.toNat - 48)
  else if 97 ≤ b && b ≤ 102 then some (b.toNat - 87)
  else if 65 ≤ b && b ≤ 70 then some (b.toNat - 55)
  else none

def hex4 (c : Cursor) : Except Fault (Nat × Cursor) :=
  match c.rest with
  | a :: b :: d :: e :: r =>
    let c' : Cursor := ⟨r, c.index + 4⟩
    match hexValue? a, hexValue? b, hexValue? d, hexValue? e with
    | some w, some x, some y, some z => .ok (((w * 16 + x) * 16 + y) * 16 + z, c')
    | _, _, _, _ => .error (c'.fault .invalidEscape)
  | r => .error (Cursor.fault ⟨[], c.index + r.length⟩ .eofWhileParsingString)

def utf8 (n : Nat) : List UInt8 :=
  if n < 0x80 then [n.toUInt8]
  else if n < 0x800 then [(0xC0 + n / 64).toUInt8, (0x80 + n % 64).toUInt8]
  else if n < 0x10000 then
    [(0xE0 + n / 4096).toUInt8, (0x80 + n / 64 % 64).toUInt8, (0x80 + n % 64).toUInt8]
  else
    [(0xF0 + n / 262144).toUInt8, (0x80 + n / 4096 % 64).toUInt8, (0x80 + n / 64 % 64).toUInt8,
      (0x80 + n % 64).toUInt8]

/-- A `\u` escape, after the `u`: one character, or a surrogate pair. -/
def unicodeEscape (c : Cursor) : Except Fault (List UInt8 × Cursor) :=
  match hex4 c with
  | .error e => .error e
  | .ok (n, c) =>
    if 0xDC00 ≤ n && n ≤ 0xDFFF then .error (c.fault .loneLeadingSurrogateInHexEscape)
    else if n < 0xD800 || 0xDBFF < n then .ok (utf8 n, c)
    else
      match c.rest with
      | [] => .error (c.fault .eofWhileParsingString)
      | [92] => .error (c.bump.fault .eofWhileParsingString)
      | 92 :: 117 :: _ =>
        match hex4 c.bump.bump with
        | .error e => .error e
        | .ok (n2, c2) =>
          if n2 < 0xDC00 || 0xDFFF < n2 then .error (c2.fault .loneLeadingSurrogateInHexEscape)
          else .ok (utf8 (0x10000 + (n - 0xD800) * 1024 + (n2 - 0xDC00)), c2)
      | 92 :: _ :: _ => .error (c.bump.bump.fault .unexpectedEndOfHexEscape)
      | _ :: _ => .error (c.bump.fault .unexpectedEndOfHexEscape)

def escape (c : Cursor) : Except Fault (List UInt8 × Cursor) :=
  match c.rest with
  | [] => .error (c.fault .eofWhileParsingString)
  | b :: _ =>
    let c' := c.bump
    match b with
    | 34 => .ok ([34], c')
    | 92 => .ok ([92], c')
    | 47 => .ok ([47], c')
    | 98 => .ok ([8], c')
    | 102 => .ok ([12], c')
    | 110 => .ok ([10], c')
    | 114 => .ok ([13], c')
    | 116 => .ok ([9], c')
    | 117 => unicodeEscape c'
    | _ => .error (c'.fault .invalidEscape)

def skipEscape (c : Cursor) : Except Fault Cursor :=
  match c.rest with
  | [] => .error (c.fault .eofWhileParsingString)
  | b :: _ =>
    let c' := c.bump
    if b == 34 || b == 92 || b == 47 || b == 98 || b == 102 || b == 110 || b == 114 || b == 116 then
      .ok c'
    else if b == 117 then (hex4 c').map Prod.snd
    else .error (c'.fault .invalidEscape)

theorem bump_rest_le (c : Cursor) : c.bump.rest.length ≤ c.rest.length := by
  simp [bump]

theorem hex4_rest {c c' : Cursor} {n : Nat} (h : hex4 c = .ok (n, c')) :
    c'.rest.length < c.rest.length := by
  unfold hex4 at h
  split at h
  · split at h
    · simp only [Except.ok.injEq, Prod.mk.injEq] at h
      obtain ⟨-, rfl⟩ := h
      simp [*]; omega
    · simp at h
  · simp at h

theorem unicodeEscape_rest {c c' : Cursor} {bs : List UInt8}
    (h : unicodeEscape c = .ok (bs, c')) : c'.rest.length < c.rest.length := by
  unfold unicodeEscape at h
  split at h
  · simp at h
  · rename_i n c1 h4
    have l1 := hex4_rest h4
    split at h
    · simp at h
    · split at h
      · simp only [Except.ok.injEq, Prod.mk.injEq] at h
        obtain ⟨-, rfl⟩ := h
        exact l1
      · split at h
        · simp at h
        · simp at h
        · split at h
          · simp at h
          · rename_i n2 c2 h5
            have l2 := hex4_rest h5
            have b1 := bump_rest_le c1
            have b2 := bump_rest_le c1.bump
            split at h
            · simp at h
            · simp only [Except.ok.injEq, Prod.mk.injEq] at h
              obtain ⟨-, rfl⟩ := h
              omega
        · simp at h
        · simp at h

theorem escape_rest {c c' : Cursor} {bs : List UInt8} (h : escape c = .ok (bs, c')) :
    c'.rest.length < c.rest.length := by
  unfold escape at h
  split at h
  · simp at h
  · rename_i b tail hr
    have lb : c.bump.rest.length < c.rest.length := by simp [bump, hr]
    split at h
    all_goals first
      | (simp only [Except.ok.injEq, Prod.mk.injEq] at h; obtain ⟨-, rfl⟩ := h; exact lb)
      | exact Nat.lt_trans (unicodeEscape_rest h) lb
      | simp at h

theorem skipEscape_rest {c c' : Cursor} (h : skipEscape c = .ok c') :
    c'.rest.length < c.rest.length := by
  unfold skipEscape at h
  split at h
  · simp at h
  · rename_i b tail hr
    have lb : c.bump.rest.length < c.rest.length := by simp [bump, hr]
    split at h
    · simp only [Except.ok.injEq] at h
      subst h; exact lb
    · split at h
      · cases h4 : hex4 c.bump with
        | error e => simp [h4, Except.map] at h
        | ok r =>
          simp only [h4, Except.map, Except.ok.injEq] at h
          subst h
          exact Nat.lt_trans (hex4_rest h4) lb
      · simp at h

set_option linter.unusedVariables false in
def strBytes (acc : List UInt8) (c : Cursor) : Except Fault (List UInt8 × Cursor) :=
  match hr : c.rest with
  | [] => .error (c.fault .eofWhileParsingString)
  | b :: _ =>
    if b == 34 then .ok (acc.reverse, c.bump)
    else if b == 92 then
      match he : escape c.bump with
      | .ok (bs, c') => strBytes (bs.reverse ++ acc) c'
      | .error e => .error e
    else if b < 32 then .error (c.bump.fault .controlCharacterWhileParsingString)
    else strBytes (b :: acc) c.bump
termination_by c.rest.length
decreasing_by
  · have := escape_rest he
    have := bump_rest_le c
    omega
  · simp [bump, hr]

def str (c : Cursor) : Except Fault (String × Cursor) :=
  (strBytes [] c).map fun (bs, c') => (Wire.Utf8.decodeLossy bs, c')

set_option linter.unusedVariables false in
def skipStr (c : Cursor) : Except Fault Cursor :=
  match hr : c.rest with
  | [] => .error (c.fault .eofWhileParsingString)
  | b :: _ =>
    if b == 34 then .ok c.bump
    else if b == 92 then
      match he : skipEscape c.bump with
      | .ok c' => skipStr c'
      | .error e => .error e
    else if b < 32 then .error (c.fault .controlCharacterWhileParsingString)
    else skipStr c.bump
termination_by c.rest.length
decreasing_by
  · have := skipEscape_rest he
    have := bump_rest_le c
    omega
  · simp [bump, hr]

end Cursor

def powerOfTen (k : Nat) : Double := Double.ofRatio false (Nat.pow 10 k) 1

/-- `significand · 10 ^ exponent` by one multiplication or division per power of ten, each
rounded; a power beyond `10 ^ 308` is taken in steps of `10 ^ 308`. -/
def fromParts (positive : Bool) (significand : Nat) (exponent : Int) (at_ : Cursor) :
    Except Fault Double :=
  let rec go : Nat → Double → Int → Except Fault Double
    | 0, f, _ => .ok f
    | fuel + 1, f, e =>
      if e.natAbs ≤ 308 then
        if 0 ≤ e then
          let g := f.mul (powerOfTen e.toNat)
          if g.isInfinite then .error (at_.fault .numberOutOfRange) else .ok g
        else .ok (f.div (powerOfTen e.natAbs))
      else if f.eqZero then .ok f
      else if 0 ≤ e then .error (at_.fault .numberOutOfRange)
      else go fuel (f.div (powerOfTen 308)) (e + 308)
  (go (exponent.natAbs / 308 + 2) (Double.ofInt significand) exponent).map fun f =>
    if positive then f else f.neg

def wordMax : Nat := Nat.pow 2 64 - 1

def exponentMax : Int := Int.pow 2 31 - 1

namespace Cursor

def exponentDigits (positive : Bool) (significand : Nat) (start : Int) : Scan Double := fun c =>
  -- after the `e` or `E`
  let c := c.bump
  let (positiveExp, c) := match c.peek? with
    | some 43 => (true, c.bump)
    | some 45 => (false, c.bump)
    | _ => (true, c)
  match c.rest with
  | [] => .error (c.fault .eofWhileParsingValue)
  | b :: _ =>
    let c := c.bump
    if !isDigit b then .error (c.fault .invalidNumber)
    else
      let (ds, c') := c.digits
      let all := b :: ds
      let e : Nat := all.foldl (fun (acc : Nat) d => acc * 10 + (d.toNat - 48)) 0
      -- an exponent past the 32-bit range: out of range, or zero
      let overflowAt := (all.zipIdx.find? fun (_, i) =>
        (all.take (i + 1)).foldl (fun (acc : Nat) d => acc * 10 + (d.toNat - 48)) 0 > Nat.pow 2 31 - 1)
      match overflowAt with
      | some (_, i) =>
        let cAt : Cursor := ⟨c.rest.drop i, c.index + i⟩
        if significand != 0 && positiveExp then .error (cAt.fault .numberOutOfRange)
        else .ok (if positive then Double.zero false else Double.zero true, c')
      | none =>
        let final : Int := if positiveExp then start + (e : Int) else start - (e : Int)
        let final := max (-Int.pow 2 31) (min (Int.pow 2 31 - 1) final)
        (fromParts positive significand final c').map fun f => (f, c')

def fraction (positive : Bool) (significand : Nat) (before : Int) : Scan Double := fun c =>
  let c := c.bump
  let (ds, c') := c.digits
  -- digits that still fit the 64-bit significand count; the rest are dropped
  let rec absorb : List UInt8 → Nat → Int → Nat × Int × Bool
    | [], s, e => (s, e, false)
    | d :: r, s, e =>
      if s * 10 + (d.toNat - 48) > wordMax then (s, e, true)
      else absorb r (s * 10 + (d.toNat - 48)) (e - 1)
  if ds.isEmpty then
    match c.peek? with
    | some _ => .error (c.peekFault .invalidNumber)
    | none => .error (c.peekFault .eofWhileParsingValue)
  else
    let (s, e, _) := absorb ds significand 0
    let exp := before + e
    match c'.peek? with
    | some 101 | some 69 => exponentDigits positive s exp c'
    | _ => (fromParts positive s exp c').map fun f => (f, c')

/-- The rest of a number whose integer part overflowed 64 bits. -/
def longInteger (positive : Bool) (significand : Nat) : Scan Double := fun c =>
  let (ds, c) := c.digits
  match c.peek? with
  | some 46 => fraction positive significand ds.length c
  | some 101 | some 69 => exponentDigits positive significand ds.length c
  | _ => (fromParts positive significand ds.length c).map fun f => (f, c)

def numberTail (positive : Bool) (significand : Nat) : Scan Number := fun c =>
  match c.peek? with
  | some 46 => (fraction positive significand 0 c).map fun (f, c') => (.float f, c')
  | some 101 | some 69 => (exponentDigits positive significand 0 c).map fun (f, c') => (.float f, c')
  | _ =>
    if positive then .ok (.unsigned significand, c)
    else
      -- the negation of the significand read as a signed 64-bit word
      let asWord : Int := if significand < Nat.pow 2 63 then significand else (significand : Int) - Int.pow 2 64
      let neg : Int := if asWord = -Int.pow 2 63 then asWord else -asWord
      if 0 ≤ neg then .ok (.float (Double.ofInt significand).neg, c)
      else .ok (.signed neg, c)

def number (positive : Bool) : Scan Number := fun c =>
  match c.rest with
  | [] => .error (c.fault .eofWhileParsingValue)
  | b :: _ =>
    let c := c.bump
    if b == 48 then
      match c.peek? with
      | some d => if isDigit d then .error (c.peekFault .invalidNumber) else numberTail positive 0 c
      | none => numberTail positive 0 c
    else if isDigit b then
      let (ds, _) := c.digits
      let rec accumulate : List UInt8 → Nat → Cursor → Except Fault (Number × Cursor)
        | [], s, c => numberTail positive s c
        | d :: r, s, c =>
          if s * 10 + (d.toNat - 48) > wordMax then
            (longInteger positive s c).map fun (f, c') => (.float f, c')
          else accumulate r (s * 10 + (d.toNat - 48)) c.bump
      accumulate ds (b.toNat - 48) c
    else .error (c.fault .invalidNumber)

def skipExponent (c : Cursor) : Except Fault Cursor :=
  let c := c.bump
  let c := match c.peek? with
    | some 43 | some 45 => c.bump
    | _ => c
  match c.rest with
  | b :: _ => if isDigit b then .ok c.bump.digits.2 else .error (c.bump.fault .invalidNumber)
  | [] => .error (c.fault .invalidNumber)

def skipNumber (c : Cursor) : Except Fault Cursor := do
  let c ← match c.rest with
    | [] => throw (c.fault .invalidNumber)
    | b :: _ =>
      if b == 48 then
        match c.bump.peek? with
        | some d => if isDigit d then throw (c.bump.peekFault .invalidNumber) else pure c.bump
        | none => pure c.bump
      else if isDigit b then pure c.bump.digits.2
      else throw (c.bump.fault .invalidNumber)
  match c.peek? with
  | some 46 =>
    let (ds, c') := c.bump.digits
    if ds.isEmpty then throw (c.bump.peekFault .invalidNumber)
    match c'.peek? with
    | some 101 | some 69 => skipExponent c'
    | _ => pure c'
  | some 101 | some 69 => skipExponent c
  | _ => pure c

end Cursor

end ChatArchive.Json
