import ChatArchive.Numeral.Shortest

namespace ChatArchive.Numeral

/-- The format decisions of a number printer. The point position `p` of a decimal is the number
of its digits before the decimal point (`p = digits + exponent`); it is written positionally
when `minPoint < p ≤ maxPoint`, a missing bound holding always. -/
structure Layout where
  minPoint : Option Int
  maxPoint : Option Int
  pointZero : Bool
  plusExponent : Bool
  tie : Tie
  nan : String
  infinity : String

def zeros (n : Nat) : String := String.ofList (List.replicate n '0')

namespace Layout

def positional (l : Layout) (p : Int) : Bool :=
  (l.minPoint.all fun lo => decide (lo < p)) && (l.maxPoint.all fun hi => decide (p ≤ hi))

def decimal (l : Layout) (d : Decimal) : String :=
  let s := toString d.digits
  let n := s.length
  let p : Int := n + d.exponent
  if l.positional p then
    if 0 ≤ d.exponent then
      s ++ zeros d.exponent.toNat ++ (if l.pointZero then ".0" else "")
    else if 0 < p then
      String.ofList (s.toList.take p.toNat) ++ "." ++ String.ofList (s.toList.drop p.toNat)
    else
      "0." ++ zeros (-p).toNat ++ s
  else
    let e := p - 1
    let mark := if e < 0 then "-" else if l.plusExponent then "+" else ""
    let rest := String.ofList (s.toList.drop 1)
    String.ofList (s.toList.take 1) ++ (if n > 1 then "." ++ rest else "") ++ "e" ++ mark ++
      toString e.natAbs

def render (l : Layout) (x : Double) : String :=
  let sign := if x.negative then "-" else ""
  if x.isNaN then l.nan
  else if x.isInfinite then sign ++ l.infinity
  else if x.eqZero then sign ++ (if l.pointZero then "0.0" else "0")
  else sign ++ l.decimal (x.shortest l.tie)

end Layout

end ChatArchive.Numeral
