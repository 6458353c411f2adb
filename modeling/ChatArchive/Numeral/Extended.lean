import ChatArchive.Numeral.Double

namespace ChatArchive.Numeral

/-- A non-negative number `m · 2 ^ e` whose significand has at most 64 bits. -/
structure Extended where
  m : Nat
  e : Int
  deriving DecidableEq, Repr

namespace Extended

def round (m : Nat) (e : Int) : Extended :=
  if m < Nat.pow 2 64 then ⟨m, e⟩
  else
    let k := m.log2 - 63
    let q := Double.roundHalfEven m (Nat.pow 2 k)
    if q = Nat.pow 2 64 then ⟨Nat.pow 2 63, e + k + 1⟩ else ⟨q, e + k⟩

def ofRatio (num den : Nat) : Extended :=
  if num = 0 then ⟨0, 0⟩
  else
    let e0 : Int := (num.log2 : Int) - den.log2 - 63
    let s := Double.scaleDown num den e0
    let e1 := if s.1 / s.2 < Nat.pow 2 63 then e0 - 1 else e0
    let t := Double.scaleDown num den e1
    let q := Double.roundHalfEven t.1 t.2
    if q = Nat.pow 2 64 then ⟨Nat.pow 2 63, e1 + 1⟩ else ⟨q, e1⟩

def ofNat (n : Nat) : Extended := round n 0

def ofDouble (x : Double) : Extended := ⟨x.significand, x.binaryExponent⟩

def mul (x y : Extended) : Extended := round (x.m * y.m) (x.e + y.e)

def ratio (x : Extended) : Nat × Nat :=
  if 0 ≤ x.e then (x.m * Nat.pow 2 x.e.toNat, 1) else (x.m, Nat.pow 2 (-x.e).toNat)

def cmp (x y : Extended) : Ordering :=
  let (a, b) := x.ratio
  let (c, d) := y.ratio
  compare (a * d) (c * b)

def lt (x y : Extended) : Bool := x.cmp y = .lt

def truncate (x : Extended) : Nat :=
  let (a, b) := x.ratio
  a / b

def toDouble (negative : Bool) (x : Extended) : Double :=
  let (a, b) := x.ratio
  Double.ofRatio negative a b

def tenPow (k : Nat) : Extended := ofRatio (Nat.pow 10 k) 1

def tenPowNeg (k : Nat) : Extended := ofRatio 1 (Nat.pow 10 k)

end Extended

end ChatArchive.Numeral
