import ChatArchive.Store.Expr
import ChatArchive.Store.Table

namespace ChatArchive.Store

structure Frame where
  name : String
  columns : List Column
  rowid : Bool
  deriving Repr

structure Scope where
  frames : List Frame
  rowids : Bool := true
  deriving Repr

inductive Ref where
  | slot (i : Nat)
  | rowid (frame : Nat)
  deriving DecidableEq, Repr

inductive Resolved where
  | found (r : Ref) (c : Column)
  | missing
  | ambiguous
  deriving Repr

def isRowidName (n : String) : Bool :=
  Table.sameName n "rowid" || Table.sameName n "oid" || Table.sameName n "_rowid_"

def Scope.placed (sc : Scope) : List (Nat × Nat × Frame) :=
  let (_, out) := sc.frames.zipIdx.foldl (fun (acc : Nat × List (Nat × Nat × Frame)) (f, k) =>
    (acc.1 + f.columns.length, acc.2 ++ [(k, acc.1, f)])) (0, [])
  out

/-- Look up a name, perhaps qualified by a table name and a database name. -/
def Scope.resolve (sc : Scope) (qualifier : List String) (name : String) : Resolved :=
  let admitted := match qualifier with
    | [] => sc.placed
    | [t] => sc.placed.filter fun (_, _, f) => Table.sameName f.name t
    | [db, t] =>
      if Table.sameName db "main" then sc.placed.filter fun (_, _, f) => Table.sameName f.name t
      else []
    | _ => []
  let hits := admitted.filterMap fun (_, start, f) =>
    (f.columns.findIdx? fun c => Table.sameName c.name name).bind fun j =>
      (f.columns[j]?).map fun c => (start + j, c)
  match hits with
  | [(i, c)] => .found (.slot i) c
  | _ :: _ :: _ => .ambiguous
  | [] =>
    if sc.rowids && isRowidName name then
      match admitted.filter (·.2.2.rowid) with
      | [(k, _, _)] => .found (.rowid k) { name := name, affinity := .integer }
      | [] => .missing
      | _ => .ambiguous
    else .missing

def Scope.ofFrames (frames : List Frame) : Scope := { frames := frames }

mutual
def Expr.hasCollate : Expr → Bool
  | .collate _ _ => true
  | .unary _ e | .cast e _ | .isNull e | .notNull e | .inQuery _ e => e.hasCollate
  | .binary _ a b => a.hasCollate || b.hasCollate
  | .call _ _ _ _ args | .vector args => anyCollate args
  | .between _ e lo hi => e.hasCollate || lo.hasCollate || hi.hasCollate
  | .inList _ e items => e.hasCollate || anyCollate items
  | .pattern _ _ e pat escape => e.hasCollate || pat.hasCollate || optionCollate escape
  | .case operand branches otherwise =>
    optionCollate operand || branchesCollate branches || optionCollate otherwise
  | _ => false

def anyCollate : List Expr → Bool
  | [] => false
  | e :: es => e.hasCollate || anyCollate es

def optionCollate : Option Expr → Bool
  | none => false
  | some e => e.hasCollate

def branchesCollate : List (Expr × Expr) → Bool
  | [] => false
  | (w, t) :: rest => w.hasCollate || t.hasCollate || branchesCollate rest
end

def Scope.affinityOf (sc : Scope) : Expr → Affinity
  | .column q n _ =>
    match sc.resolve q n with
    | .found _ c => c.affinity
    | _ => .none
  | .cast _ t => Affinity.ofType t
  | .collate e _ => sc.affinityOf e
  | .vector (e :: _) => sc.affinityOf e
  | _ => .none

mutual
def Scope.collation (sc : Scope) : Expr → Option Collation
  | .column q n _ =>
    match sc.resolve q n with
    | .found (.slot _) c => some c.collation
    | _ => none
  | .cast e _ => sc.collation e
  | .unary .plus e => sc.collation e
  | .vector (e :: _) => sc.collation e
  | .collate _ name => some (Collation.ofName name)
  | .unary _ e | .isNull e | .notNull e | .inQuery _ e => sc.collationIn e
  | .binary _ a b => (sc.collationIn a).orElse fun _ => sc.collationIn b
  | .call _ _ _ _ args => sc.collationAmong args
  | .between _ e lo hi =>
    ((sc.collationIn e).orElse fun _ => sc.collationIn lo).orElse fun _ => sc.collationIn hi
  | .inList _ e items => (sc.collationIn e).orElse fun _ => sc.collationAmong items
  | .pattern _ _ e pat escape =>
    ((sc.collationIn pat).orElse fun _ => sc.collationIn e).orElse fun _ =>
      sc.collationInOption escape
  | .case operand branches otherwise =>
    ((sc.collationInOption operand).orElse fun _ => sc.collationInBranches branches).orElse
      fun _ => sc.collationInOption otherwise
  | _ => none

def Scope.collationIn (sc : Scope) (e : Expr) : Option Collation :=
  if e.hasCollate then sc.collation e else none

def Scope.collationAmong (sc : Scope) : List Expr → Option Collation
  | [] => none
  | e :: es => if e.hasCollate then sc.collation e else sc.collationAmong es

def Scope.collationInOption (sc : Scope) : Option Expr → Option Collation
  | none => none
  | some e => if e.hasCollate then sc.collation e else none

def Scope.collationInBranches (sc : Scope) : List (Expr × Expr) → Option Collation
  | [] => none
  | (w, t) :: rest =>
    if w.hasCollate then sc.collation w
    else if t.hasCollate then sc.collation t
    else sc.collationInBranches rest
end

/-- The collation a comparison of two expressions uses: an explicit one of the left operand,
else of the right, else whatever the left carries, else the right, else byte order. -/
def Scope.compareCollation (sc : Scope) (a b : Expr) : Collation :=
  if a.hasCollate then (sc.collation a).getD .binary
  else if b.hasCollate then (sc.collation b).getD .binary
  else ((sc.collation a).orElse fun _ => sc.collation b).getD .binary

end ChatArchive.Store
