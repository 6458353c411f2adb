namespace ChatArchive.Wire.Utf8

def replacement : Char := '�'

/-- For a lead byte: the continuation bytes it needs, the range of the first of them, and its
own payload bits. `none` for a byte that starts no character. -/
def lead (n : Nat) : Option (Nat × Nat × Nat × Nat) :=
  if 0xC2 ≤ n ∧ n ≤ 0xDF then some (1, 0x80, 0xBF, n % 32)
  else if n = 0xE0 then some (2, 0xA0, 0xBF, 0)
  else if (0xE1 ≤ n ∧ n ≤ 0xEC) ∨ (0xEE ≤ n ∧ n ≤ 0xEF) then some (2, 0x80, 0xBF, n % 16)
  else if n = 0xED then some (2, 0x80, 0x9F, 13)
  else if n = 0xF0 then some (3, 0x90, 0xBF, 0)
  else if 0xF1 ≤ n ∧ n ≤ 0xF3 then some (3, 0x80, 0xBF, n % 8)
  else if n = 0xF4 then some (3, 0x80, 0x8F, 4)
  else none

def tails : Nat → Nat → Nat → Nat → List UInt8 → Except (List UInt8) (Nat × List UInt8)
  | 0, _, _, acc, bs => .ok (acc, bs)
  | _ + 1, _, _, _, [] => .error []
  | k + 1, lo, hi, acc, c :: r =>
    if lo ≤ c.toNat ∧ c.toNat ≤ hi then tails k 0x80 0xBF (acc * 64 + c.toNat % 64) r
    else .error (c :: r)

theorem tails_ok_length {k lo hi acc : Nat} {bs r : List UInt8} {cp : Nat}
    (h : tails k lo hi acc bs = .ok (cp, r)) : r.length ≤ bs.length := by
  induction k generalizing lo hi acc bs with
  | zero => simp [tails] at h; simp [h.2]
  | succ k ih =>
    cases bs with
    | nil => simp [tails] at h
    | cons c rest =>
      simp only [tails] at h
      split at h
      · have := ih h; simp; omega
      · simp at h

theorem tails_error_length {k lo hi acc : Nat} {bs r : List UInt8}
    (h : tails k lo hi acc bs = .error r) : r.length ≤ bs.length := by
  induction k generalizing lo hi acc bs with
  | zero => simp [tails] at h
  | succ k ih =>
    cases bs with
    | nil => simp [tails] at h; simp [h]
    | cons c rest =>
      simp only [tails] at h
      split at h
      · have := ih h; simp; omega
      · simp at h; simp [h]

def step (b : UInt8) (rest : List UInt8) : Char × List UInt8 :=
  if b.toNat < 0x80 then (Char.ofNat b.toNat, rest)
  else match lead b.toNat with
    | none => (replacement, rest)
    | some (count, lo, hi, bits) =>
      match tails count lo hi bits rest with
      | .ok (cp, r) => (Char.ofNat cp, r)
      | .error r => (replacement, r)

theorem step_length (b : UInt8) (rest : List UInt8) : (step b rest).2.length ≤ rest.length := by
  unfold step
  split
  · simp
  · split
    · simp
    · split
      · rename_i h; exact tails_ok_length h
      · rename_i h; exact tails_error_length h

def chars : List UInt8 → List Char
  | [] => []
  | b :: rest => (step b rest).1 :: chars (step b rest).2
termination_by bs => bs.length
decreasing_by have := step_length b rest; simp; omega

def decodeLossy (bs : List UInt8) : String := String.ofList (chars bs)

/-- Where well-formed UTF-8 breaks: the length of the well-formed prefix, and how many bytes of
the broken sequence were read before the byte that broke it, none when the input ends inside
it. -/
structure Fault where
  validUpTo : Nat
  length : Option Nat
  deriving DecidableEq, Repr

def Fault.message (f : Fault) : String :=
  match f.length with
  | some n => s!"invalid utf-8 sequence of {n} bytes from index {f.validUpTo}"
  | none => s!"incomplete utf-8 byte sequence from index {f.validUpTo}"

def faultFrom (pos : Nat) : List UInt8 → Option Fault
  | [] => none
  | b :: rest =>
    if b.toNat < 0x80 then faultFrom (pos + 1) rest
    else match lead b.toNat with
      | none => some ⟨pos, some 1⟩
      | some (count, lo, hi, bits) =>
        match h : tails count lo hi bits rest with
        | .ok (_, r) => faultFrom (pos + 1 + (rest.length - r.length)) r
        | .error [] => some ⟨pos, none⟩
        | .error r => some ⟨pos, some (1 + rest.length - r.length)⟩
termination_by bs => bs.length
decreasing_by
  · simp
  · have := tails_ok_length h; simp; omega

def decode? (bs : List UInt8) : Except Fault String :=
  match faultFrom 0 bs with
  | some f => .error f
  | none => .ok (decodeLossy bs)

end ChatArchive.Wire.Utf8
