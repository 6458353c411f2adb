import ChatArchive.Store.Scope
import ChatArchive.Store.Builtin
import ChatArchive.Store.Catalog

namespace ChatArchive.Store

open ChatArchive.Numeral

def hexDigitsOf (text : String) : Option (List Char) :=
  match text.toList with
  | '0' :: x :: ds => if x = 'x' || x = 'X' then some ds else none
  | _ => none

def hexDigitValue (c : Char) : Nat :=
  if c.isDigit then c.toNat - 48 else if 'a' ≤ c && c ≤ 'f' then c.toNat - 87 else c.toNat - 55

def integerLiteral (text : String) (negated : Bool) : Except String Cell :=
  let sign := if negated then "-" else ""
  match hexDigitsOf text with
  | some ds =>
    let significant := ds.dropWhile (· = '0')
    let u := ds.foldl (fun acc c => (acc * 16 + hexDigitValue c) % Nat.pow 2 64) 0
    let i : Int := if u < Nat.pow 2 63 then u else (u : Int) - Int.pow 2 64
    if 16 < significant.length || (negated && i = -Int.pow 2 63) then
      .error s!"hex literal too big: {sign}{text}"
    else .ok (.integer (if negated then -i else i))
  | none =>
    let bs := text.toUTF8.toList
    let exactlyPower := (bs.dropWhile (· = 48)) == "9223372036854775808".toUTF8.toList
    match readInteger bs with
    | (n, .exact) => .ok (.integer (if negated then -n else n))
    | _ =>
      if exactlyPower && negated then .ok (.integer (-Int.pow 2 63))
      else
        let x := (readReal bs).1
        .ok (.real (if negated then x.neg else x))

def realLiteral (text : String) (negated : Bool) : Cell :=
  let x := (readReal text.toUTF8.toList).1
  .real (if negated then x.neg else x)

def truthName? (name : String) : Option Bool :=
  if Table.sameName name "true" then some true
  else if Table.sameName name "false" then some false
  else none

/-- The truth value an expression stands for in `x IS TRUE` and its kin, if it is one. -/
def Scope.truthLiteral? (sc : Scope) : Expr → Option Bool
  | .truth b => some b
  | .column [] n false =>
    match sc.resolve [] n with
    | .found _ _ => none
    | _ => truthName? n
  | _ => none

def failed {α : Type} : Except String α → Except SqlError α
  | .ok a => .ok a
  | .error m => .error (.failure m)

def Expr.negatedLiteral? : Expr → Option (Except SqlError Cell)
  | .integer t => some (failed (integerLiteral t true))
  | .real t => some (.ok (realLiteral t true))
  | _ => none

/-- What computing an expression needs: its scope, and how to read what a name reaches in the
current row. -/
structure Env where
  scope : Scope
  read : Ref → Except SqlError Cell

def Env.compareCells (env : Env) (op : BinaryOp) (a b : Expr) (x y : Cell) : Cell :=
  let aff := Affinity.compareWith (env.scope.affinityOf a) (env.scope.affinityOf b)
  let coll := env.scope.compareCollation a b
  let order := Cell.compareAs aff coll x y
  let holds (c : Comparison) : Cell := Cell.ofTruth (order.map c.holds)
  match op with
  | .eq => holds .eq
  | .ne => holds .ne
  | .lt => holds .lt
  | .le => holds .le
  | .gt => holds .gt
  | .ge => holds .ge
  | .is | .isNot =>
    let same := match x, y with
      | .null, .null => true
      | .null, _ | _, .null => false
      | _, _ => order = some .eq
    Cell.ofTruth (some (if op = .is then same else !same))
  | _ => .null

def Env.column (env : Env) (q : List String) (n : String) (quoted : Bool) :
    Except SqlError Cell :=
  match env.scope.resolve q n with
  | .found r _ => env.read r
  | _ =>
    if q.isEmpty && quoted then .ok (Cell.ofString n)
    else match q, truthName? n with
      | [], some b => .ok (Cell.ofTruth (some b))
      | _, _ => .ok .null

def Env.argumentCollation (env : Env) (args : List Expr) : Collation :=
  (args.findSome? env.scope.collation).getD .binary

mutual
/-- The value of an expression for the current row. -/
def Env.eval (env : Env) : Expr → Except SqlError Cell
  | .null => .ok .null
  | .integer t => failed (integerLiteral t false)
  | .real t => .ok (realLiteral t false)
  | .string s => .ok (Cell.ofString s)
  | .blob b => .ok (.blob b)
  | .truth b => .ok (Cell.ofTruth (some b))
  | .parameter => .ok .null
  | .column q n quoted => env.column q n quoted
  | .clock _ => .ok .null
  | .unary op e =>
    match op, e.negatedLiteral? with
    | .negate, some v => v
    | _, _ => do
      let v ← env.eval e
      match op with
      | .negate => return v.negate
      | .plus => return v
      | .not => return Cell.ofTruth (v.truth?.map (!·))
      | .bitNot => return v.complement
  | .binary op a b => do
    match op with
    | .and =>
      let x := (← env.eval a).truth?
      if x = some false then return Cell.ofTruth (some false)
      return Cell.ofTruth (Cell.truthAnd x (← env.eval b).truth?)
    | .or =>
      let x := (← env.eval a).truth?
      if x = some true then return Cell.ofTruth (some true)
      return Cell.ofTruth (Cell.truthOr x (← env.eval b).truth?)
    | .is | .isNot =>
      let x ← env.eval a
      match env.scope.truthLiteral? b with
      | some t =>
        let isTrue := x.truth? = some true
        let isFalse := x.truth? = some false
        let holds := if t then isTrue else isFalse
        return Cell.ofTruth (some (if op = .is then holds else !holds))
      | none => return env.compareCells op a b x (← env.eval b)
    | _ =>
      let x ← env.eval a
      let y ← env.eval b
      match op with
      | .add => return Arith.add.apply x y
      | .sub => return Arith.sub.apply x y
      | .mul => return Arith.mul.apply x y
      | .div => return Arith.div.apply x y
      | .rem => return Arith.rem.apply x y
      | .concat => return x.concat y
      | .bitAnd => return Bitwise.and.apply x y
      | .bitOr => return Bitwise.or.apply x y
      | .shiftLeft => return Bitwise.shiftLeft.apply x y
      | .shiftRight => return Bitwise.shiftRight.apply x y
      | .extract _ => return .null
      | _ => return env.compareCells op a b x y
  | .collate e _ => env.eval e
  | .cast e t => do return (← env.eval e).cast (Affinity.ofType t)
  | .call name _ _ _ args =>
    let key := name.map Char.toLower
    if key == "coalesce" || key == "ifnull" then env.firstPresent args
    else if key == "likely" || key == "unlikely" || key == "likelihood" then
      match args with
      | e :: _ => env.eval e
      | [] => .ok .null
    else if key == "iif" then
      match args with
      | [c, t, f] => do if (← env.eval c).truth? == some true then env.eval t else env.eval f
      | _ => .ok .null
    else do
      let vals ← env.evalAll args
      failed (Builtin.call key (env.argumentCollation args) vals)
  | .isNull e => do return Cell.ofTruth (some ((← env.eval e) == .null))
  | .notNull e => do return Cell.ofTruth (some ((← env.eval e) != .null))
  | .between negated e lo hi => do
    let x ← env.eval e
    let low := env.compareCells .ge e lo x (← env.eval lo)
    let within ←
      if low.truth? = some false then pure (some false)
      else do
        let high := env.compareCells .le e hi x (← env.eval hi)
        pure (Cell.truthAnd low.truth? high.truth?)
    return Cell.ofTruth (if negated then within.map (!·) else within)
  | .inList negated e items => do
    if items.isEmpty then return Cell.ofTruth (some negated)
    let x ← env.eval e
    let found ← env.memberOf e x items
    return Cell.ofTruth (if negated then found.map (!·) else found)
  | .inQuery _ _ => .ok .null
  | .pattern op negated e pat escape => do
    let p ← env.eval pat
    let s ← env.eval e
    let esc ← match escape with
      | some x => do pure (some (← env.eval x))
      | none => pure none
    let r ← match op with
      | .like => failed (Builtin.patternMatch Pattern.likeRules p s esc)
      | .glob => failed (Builtin.patternMatch Pattern.globRules p s none)
      | .regexp => pure .null
      | .matches => throw (.failure "unable to use function MATCH in the requested context")
    return if negated then Cell.ofTruth (r.truth?.map (!·)) else r
  | .case operand branches otherwise => do
    let subject ← match operand with
      | some o => do pure (some (o, ← env.eval o))
      | none => pure none
    match ← env.caseBranch subject branches with
    | some v => pure v
    | none =>
      match otherwise with
      | some e => env.eval e
      | none => pure .null
  | .vector _ | .query | .exists | .raise => .ok .null

def Env.evalAll (env : Env) : List Expr → Except SqlError (List Cell)
  | [] => .ok []
  | e :: es => do
    let v ← env.eval e
    return v :: (← env.evalAll es)

def Env.firstPresent (env : Env) : List Expr → Except SqlError Cell
  | [] => .ok .null
  | e :: es => do
    let v ← env.eval e
    if v != .null then return v
    env.firstPresent es

def Env.memberOf (env : Env) (e : Expr) (x : Cell) : List Expr → Except SqlError (Option Bool)
  | [] => .ok (if x == .null then none else some false)
  | item :: rest => do
    let y ← env.eval item
    let aff := env.scope.affinityOf e
    let coll := (env.scope.collation e).getD .binary
    match Cell.compareAs aff coll x y with
    | some .eq => return some true
    | _ =>
      let r ← env.memberOf e x rest
      return if y == .null && r = some false then none else r

def Env.caseBranch (env : Env) (subject : Option (Expr × Cell)) :
    List (Expr × Expr) → Except SqlError (Option Cell)
  | [] => .ok none
  | (w, t) :: rest => do
    let hit ← match subject with
      | some (o, x) => do
        let y ← env.eval w
        pure ((env.compareCells .eq o w x y).truth? == some true)
      | none => do pure ((← env.eval w).truth? == some true)
    if hit then some <$> env.eval t else env.caseBranch subject rest
end

end ChatArchive.Store
