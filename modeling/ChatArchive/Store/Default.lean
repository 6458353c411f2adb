import ChatArchive.Store.Eval

namespace ChatArchive.Store

mutual
def Expr.isConstant : Expr → Bool
  | .column [] n false => Table.sameName n "true" || Table.sameName n "false"
  | .column _ _ _ | .query | .exists | .inQuery _ _ | .raise => false
  | .call _ _ _ window args => !window && allConstant args
  | .unary _ e | .collate e _ | .cast e _ | .isNull e | .notNull e => e.isConstant
  | .binary _ a b => a.isConstant && b.isConstant
  | .between _ e lo hi => e.isConstant && lo.isConstant && hi.isConstant
  | .inList _ e items => e.isConstant && allConstant items
  | .pattern _ _ e pat escape => e.isConstant && pat.isConstant && optionConstant escape
  | .case operand branches otherwise =>
    optionConstant operand && branchesConstant branches && optionConstant otherwise
  | .vector items => allConstant items
  | _ => true

def allConstant : List Expr → Bool
  | [] => true
  | e :: es => e.isConstant && allConstant es

def optionConstant : Option Expr → Bool
  | none => true
  | some e => e.isConstant

def branchesConstant : List (Expr × Expr) → Bool
  | [] => true
  | (w, t) :: rest => w.isConstant && t.isConstant && branchesConstant rest
end

def smallLiteral? (text : String) : Option Int :=
  match hexDigitsOf text with
  | some ds =>
    let ds := ds.dropWhile (· = '0')
    let v : Nat := ds.foldl (fun acc c => acc * 16 + hexDigitValue c) 0
    if ds.length ≤ 8 && v < Nat.pow 2 31 then some (v : Int) else none
  | none =>
    let cs := text.toList
    let v : Nat := cs.foldl (fun acc c => acc * 10 + (c.toNat - 48)) 0
    if cs.all Char.isDigit && v < Nat.pow 2 31 then some (v : Int) else none

def literalInteger? (text : String) : Option Int :=
  match hexDigitsOf text with
  | some ds =>
    let ds := ds.dropWhile (· = '0')
    let u : Nat := ds.foldl (fun acc c => acc * 16 + hexDigitValue c) 0
    if ds.length ≤ 16 then some (if u < Nat.pow 2 63 then (u : Int) else (u : Int) - Int.pow 2 64)
    else none
  | none =>
    match readInteger text.toUTF8.toList with
    | (n, .exact) => some n
    | _ => none

def literalValue (negated : Bool) : Expr → Cell
  | .integer t =>
    match smallLiteral? t, literalInteger? t with
    | some v, _ | none, some v => .integer (if negated then -v else v)
    | none, none => Cell.ofString ((if negated then "-" else "") ++ t)
  | .real t => Cell.ofString ((if negated then "-" else "") ++ t)
  | .string s => Cell.ofString ((if negated then "-" else "") ++ s)
  | _ => .null

def plainNumber : Cell → Cell
  | .text s =>
    match readReal s with
    | (x, .decimal) => .real x
    | _ => numericOfText s
  | c => c

def negateNumber (c : Cell) : Cell :=
  match c.numerify with
  | .real x => .real x.neg
  | .integer n => if n = -Int.pow 2 63 then .real (Double.ofInteger (Int.pow 2 63)) else .integer (-n)
  | other => other

/-- Whether a minus sign before this literal belongs to the literal: any number except a
hexadecimal integer written in more than 32 bits. -/
def negatesInOneStep : Expr → Bool
  | .integer t => (smallLiteral? t).isSome || (hexDigitsOf t).isNone
  | .real _ => true
  | _ => false

/-- The value of a column's default under the column's affinity; none when its form gives
none. -/
def defaultValue (aff : Affinity) : Expr → Option Cell
  | .unary .plus e => defaultValue aff e
  | .cast e type =>
    let castAff := Affinity.ofType type
    (defaultValue castAff e).map fun v => aff.store (v.cast castAff)
  | .unary .negate e =>
    if negatesInOneStep e then some (literal aff true e)
    else (defaultValue aff e).map fun v => aff.store (negateNumber v)
  | .integer t => some (literal aff false (.integer t))
  | .real t => some (literal aff false (.real t))
  | .string s => some (literal aff false (.string s))
  | .null => some .null
  | .blob b => some (.blob b)
  | .truth b => some (aff.store (.integer (if b then 1 else 0)))
  | .column [] n false =>
    if Table.sameName n "true" then some (aff.store (.integer 1))
    else if Table.sameName n "false" then some (aff.store (.integer 0))
    else none
  | _ => none
where
  literal (aff : Affinity) (negated : Bool) (e : Expr) : Cell :=
    let isNumber := match e with
      | .integer _ | .real _ => true
      | _ => false
    if isNumber && (aff = .blob || aff = .none) then plainNumber (literalValue negated e)
    else aff.store (literalValue negated e)

end ChatArchive.Store
