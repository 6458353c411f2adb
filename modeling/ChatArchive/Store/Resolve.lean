import ChatArchive.Store.Scope
import ChatArchive.Store.Catalog

namespace ChatArchive.Store

inductive Place where
  | generated
  | indexKey
  | indexCondition
  | result
  | clause
  deriving DecidableEq, Repr

def Place.ownRow : Place → Bool
  | .generated | .indexKey | .indexCondition => true
  | .result | .clause => false

def Place.plainNames : Place → Bool
  | .generated | .indexKey => true
  | .indexCondition | .result | .clause => false

def Place.phrase : Place → String
  | .generated => "generated columns"
  | .indexKey => "index expressions"
  | _ => "partial index WHERE clauses"

structure Checker where
  scope : Scope
  place : Place
  loading : Bool
  aggregates : Bool

def Checker.at (sc : Scope) (place : Place) (loading : Bool) : Checker :=
  ⟨sc, place, loading, place = .result⟩

def qualifiedText (q : List String) (n : String) : String := String.intercalate "." (q ++ [n])

/-- How far a check got: on, with the last error met so far, or stopped, with the error that
stands. -/
abbrev Checked := Except SqlError (Option SqlError)

def haltIfFailed (last : Option SqlError) : Checked :=
  match last with
  | some e => .error e
  | none => .ok none

def Expr.width : Expr → Nat
  | .vector items => items.length
  | _ => 1

def BinaryOp.compares : BinaryOp → Bool
  | .eq | .ne | .lt | .le | .gt | .ge | .is | .isNot => true
  | _ => false

def PatternOp.functionName : PatternOp → String
  | .like => "LIKE"
  | .glob => "GLOB"
  | .regexp => "REGEXP"
  | .matches => "MATCH"

def likelihoodWeight? : Expr → Option Unit
  | .real t =>
    let x := (readReal t.toUTF8.toList).1
    if x.isFinite && (realRatio x).1 ≤ (realRatio x).2 then some () else none
  | _ => none

def Checker.callError (ck : Checker) (name : String) (args : List Expr) (window : Bool)
    (last : Option SqlError) : Option SqlError × Bool :=
  let n := args.length
  let fail (m : String) : Option SqlError := some (.failure m)
  match lookupFunction name n with
  | .unknown =>
    (if ck.loading then last else fail s!"no such function: {name}", false)
  | .wrongCount => (fail s!"wrong number of arguments to function {name}()", false)
  | .found d =>
    let key := name.map Char.toLower
    let last :=
      if key == "likelihood" && n = 2 && (args.getD 1 .null |> likelihoodWeight?).isNone then
        fail s!"second argument to {name}() must be a constant between 0.0 and 1.0"
      else last
    let last :=
      if !d.deterministic && ck.place.ownRow then
        fail s!"non-deterministic functions prohibited in {ck.place.phrase}"
      else last
    let grouped := d.kind = .aggregate || d.kind = .window
    if d.kind = .scalar && window then
      (fail s!"{name}() may not be used as a window function", false)
    else if grouped && (!ck.aggregates || (d.kind = .window && !window) ||
        (window && ck.place != .result)) then
      let kind := if d.kind = .window || window then "window" else "aggregate"
      (fail s!"misuse of {kind} function {name}()", false)
    else (last, grouped)

mutual
def Checker.walk (ck : Checker) : Expr → Option SqlError → Checked
  | .column q n quoted, last =>
    let last :=
      if !q.isEmpty && ck.place.plainNames then
        some (.failure s!"the \".\" operator prohibited in {ck.place.phrase}")
      else last
    match ck.scope.resolve q n with
    | .found _ _ => .ok last
    | .ambiguous => .error (.failure s!"ambiguous column name: {qualifiedText q n}")
    | .missing =>
      if q.isEmpty && (quoted || Table.sameName n "true" || Table.sameName n "false") then
        .ok last
      else .error (.noSuchColumn (qualifiedText q n))
  | .call name _ _ window args, last =>
    let (last, grouped) := ck.callError name args window last
    let inner := if grouped then { ck with aggregates := false } else ck
    match inner.walkAll args last with
    | .ok l => .ok l
    | .error e => .ok (some e)
  | .pattern op _ e pat escape, last =>
    let (last, _) := ck.callError op.functionName ([pat, e] ++ escape.toList) false last
    let walked : Checked := do ck.walkOption escape (← ck.walk e (← ck.walk pat last))
    match walked with
    | .ok l => .ok l
    | .error e => .ok (some e)
  | .parameter, last =>
    if ck.place.ownRow then .error (.failure s!"parameters prohibited in {ck.place.phrase}")
    else haltIfFailed last
  | .query, last | .exists, last =>
    if ck.place.ownRow then .error (.failure s!"subqueries prohibited in {ck.place.phrase}")
    else haltIfFailed last
  | .inQuery _ e, last => do
    if ck.place.ownRow then
      throw (.failure s!"subqueries prohibited in {ck.place.phrase}")
    let last ← haltIfFailed last
    ck.walk e last
  | .binary op a b, last => do
    if op.compares && a.width != b.width then throw (.failure "row value misused")
    let last ← haltIfFailed last
    ck.walk b (← ck.walk a last)
  | .between _ e lo hi, last => do
    if e.width != lo.width || (e.width == lo.width && e.width != hi.width) then
      throw (.failure "row value misused")
    let last ← haltIfFailed last
    ck.walk hi (← ck.walk lo (← ck.walk e last))
  | .unary _ e, last | .collate e _, last | .cast e _, last | .isNull e, last
  | .notNull e, last => do
    ck.walk e (← haltIfFailed last)
  | .inList _ e items, last => do
    ck.walkAll items (← ck.walk e (← haltIfFailed last))
  | .vector items, last => do ck.walkAll items (← haltIfFailed last)
  | .case operand branches otherwise, last => do
    let last ← haltIfFailed last
    let last ← ck.walkOption operand last
    let last ← ck.walkBranches branches last
    ck.walkOption otherwise last
  | _, last => haltIfFailed last

def Checker.walkAll (ck : Checker) : List Expr → Option SqlError → Checked
  | [], last => .ok last
  | e :: es, last => do ck.walkAll es (← ck.walk e last)

def Checker.walkOption (ck : Checker) : Option Expr → Option SqlError → Checked
  | none, last => .ok last
  | some e, last => ck.walk e last

def Checker.walkBranches (ck : Checker) : List (Expr × Expr) → Option SqlError → Checked
  | [], last => .ok last
  | (w, t) :: rest, last => do ck.walkBranches rest (← ck.walk t (← ck.walk w last))
end

/-- The error checking an expression meets, if any: the one that stopped the check, else the
last one met. -/
def Checker.check (ck : Checker) (e : Expr) : Option SqlError :=
  match ck.walk e none with
  | .ok last => last
  | .error err => some err

def Checker.checkAll (ck : Checker) (es : List Expr) : Option SqlError :=
  es.findSome? ck.check

def Checker.checkEach (ck : Checker) (es : List Expr) : Option SqlError :=
  es.foldl (fun last e => match ck.walk e last with
    | .ok l => l
    | .error err => some err) none

end ChatArchive.Store
