import ChatArchive.Store.Statistics
import ChatArchive.Store.Default
/-!
How the engine chooses the way it visits the rows of a table for a query, and so the order in
which it meets them.

A query names the table's columns it reads, may ask for its rows in the order of one column, and
holds equality conditions on columns, each compared under a collation. The engine weighs the
ways to visit the rows on the scale of `Store.Cost`:

* when a condition fixes the column that stands for the row id, or the whole key (at most three
  columns) of a unique index that is not partial, it looks up that one row and weighs nothing;
* else it may scan the table in row id order; scan an index in its order; or seek an index's
  entries whose leading columns the conditions fix, or step through the values of its first
  column and seek within each (a skip-scan), which statistics must allow. A partial index serves
  only when the conditions imply its own; an index that holds every column read needs no visit of
  the table's rows, which makes it cheaper;
* each way has a cost and an estimate of the rows it yields; ways that another way beats on both
  counts are dropped as they are found;
* it picks the cheapest way first without regard to order; if that way seeks, only ways that seek
  stay in the running. It then picks again with the cost of sorting added to the ways that do not
  yield the rows in the order asked for.

The rows are then met in the order of the way chosen: an index orders its entries by its columns
under their collations (descending ones reversed) and then by row id, and a way may walk it
backward to yield the order asked for.
-/
namespace ChatArchive.Store

structure Term where
  expr : Expr
  column : Nat
  collation : String
  reduction : Int
  holds : Cell → Bool

structure SortKey where
  column : Nat
  descending : Bool
  collation : String

structure Request where
  terms : List Term
  order : Option SortKey
  used : List Nat
  results : Nat

/-- A way to visit the rows of a table, as the planner weighs it: the index it goes through, if
any; its place among the ways that could help with the order asked for (0 for none); the
conditions it seeks with, one for each index column it fixes; how many leading index columns it
steps through rather than fixes; how many leading columns it constrains in all; its cost and the
rows it yields; whether it goes through an index at all and needs nothing from the table's rows;
whether it yields the order asked for, and walking backward; what it costs to set up; and whether
it builds an index of its own for the query. -/
structure Loop where
  index : Option Index
  slot : Nat
  terms : List Nat
  skips : Nat
  fixed : Nat
  cost : Int
  rows : Int
  indexed : Bool
  covering : Bool
  ordered : Bool
  reversed : Bool
  setup : Int
  automatic : Bool

structure Plan where
  index : Option Index
  terms : List Nat
  reversed : Bool

def Table.scope (t : Table) : Scope := { frames := [⟨t.name, t.columns, t.hasRowid⟩] }

def Table.isGenerated (t : Table) (j : Nat) : Bool := (t.columns[j]?.map (·.generated)).getD false

def Table.isRowidTerm (t : Table) : IndexTerm → Bool
  | .rowid => true
  | .column k => t.rowidColumn = some k
  | .expression _ => false

def Affinity.converts : Affinity → Bool
  | .text | .numeric | .integer | .real => true
  | .blob | .none => false

def sameInteger (a b : String) : Bool :=
  match smallLiteral? a, smallLiteral? b with
  | some x, some y => x == y
  | none, none => a == b
  | _, _ => false

mutual
def Scope.sameExpr (sc : Scope) : Expr → Expr → Bool
  | .null, .null => true
  | .integer a, .integer b => sameInteger a b
  | .real a, .real b => a == b
  | .string a, .string b => a == b
  | .blob a, .blob b => a == b
  | .truth a, .truth b => a == b
  | .column q n _, .column q' n' _ =>
    match sc.resolve q n, sc.resolve q' n' with
    | .found r _, .found r' _ => r == r'
    | _, _ => false
  | .isNull a, .binary .is b .null => sc.sameExpr a b
  | .binary .is a .null, .isNull b => sc.sameExpr a b
  | .notNull a, .binary .isNot b .null => sc.sameExpr a b
  | .binary .isNot a .null, .notNull b => sc.sameExpr a b
  | .isNull a, .isNull b => sc.sameExpr a b
  | .notNull a, .notNull b => sc.sameExpr a b
  | .unary o a, .unary o' b => o == o' && sc.sameExpr a b
  | .binary o a b, .binary o' a' b' => o == o' && sc.sameExpr a a' && sc.sameExpr b b'
  | .collate a c, .collate b c' => Table.sameName c c' && sc.sameExpr a b
  | .cast a t, .cast b t' => t == t' && sc.sameExpr a b
  | .call f d s w args, .call f' d' s' w' args' =>
    Table.sameName f f' && d == d' && s == s' && !w && !w' && sc.sameExprs args args'
  | .between n e l h, .between n' e' l' h' =>
    n == n' && sc.sameExpr e e' && sc.sameExpr l l' && sc.sameExpr h h'
  | .inList n e xs, .inList n' e' ys => n == n' && sc.sameExpr e e' && sc.sameExprs xs ys
  | .vector xs, .vector ys => sc.sameExprs xs ys
  | _, _ => false

def Scope.sameExprs (sc : Scope) : List Expr → List Expr → Bool
  | [], [] => true
  | a :: as, b :: bs => sc.sameExpr a b && sc.sameExprs as bs
  | _, _ => false
end

def Scope.keepsNotNull (sc : Scope) (target : Expr) : Bool → Expr → Bool
  | seen, p =>
    if sc.sameExpr p target then
      match target with
      | .null => false
      | _ => true
    else match p with
      | .inList _ e _ => sc.keepsNotNull target true e
      | .inQuery _ e => !seen && sc.keepsNotNull target true e
      | .between _ e _ _ => !seen && sc.keepsNotNull target true e
      | .binary op a b =>
        if [.eq, .ne, .lt, .le, .gt, .ge, .add, .sub, .bitOr, .shiftLeft, .shiftRight,
            .concat].contains op then
          sc.keepsNotNull target true b || sc.keepsNotNull target true a
        else if [.mul, .rem, .bitAnd, .div].contains op then
          sc.keepsNotNull target seen b || sc.keepsNotNull target seen a
        else if (op = .is || op = .isNot) then
          match b with
          | .truth v => !seen && op = .is && v && sc.keepsNotNull target true a
          | _ => false
        else false
      | .collate e _ => sc.keepsNotNull target seen e
      | .unary .plus e | .unary .negate e => sc.keepsNotNull target seen e
      | .unary .not e | .unary .bitNot e => sc.keepsNotNull target true e
      | _ => false

def Scope.implies (sc : Scope) (term : Expr) : Expr → Bool
  | .binary .or a b =>
    sc.sameExpr term (.binary .or a b) || sc.implies term a || sc.implies term b
  | .notNull x => sc.sameExpr term (.notNull x) || sc.keepsNotNull x false term
  | .binary .isNot x .null =>
    sc.sameExpr term (.binary .isNot x .null) || sc.keepsNotNull x false term
  | w => sc.sameExpr term w

def Scope.impliedBy (sc : Scope) (terms : List Expr) : Expr → Bool
  | .binary .and a b => sc.impliedBy terms a && sc.impliedBy terms b
  | w => terms.any (sc.implies · w)

mutual
def Scope.isConstant (sc : Scope) : Expr → Bool
  | .null | .integer _ | .real _ | .string _ | .blob _ | .truth _ => true
  | .column q n quoted =>
    match sc.resolve q n with
    | .missing => q.isEmpty && (quoted || Table.sameName n "true" || Table.sameName n "false")
    | _ => false
  | .unary _ e | .collate e _ | .cast e _ | .isNull e | .notNull e => sc.isConstant e
  | .binary _ a b => sc.isConstant a && sc.isConstant b
  | .between _ e l h => sc.isConstant e && sc.isConstant l && sc.isConstant h
  | .inList _ e items => sc.isConstant e && sc.allConstant items
  | .call _ _ _ w args => !w && sc.allConstant args
  | .vector items => sc.allConstant items
  | _ => false

def Scope.allConstant (sc : Scope) : List Expr → Bool
  | [] => true
  | e :: es => sc.isConstant e && sc.allConstant es
end

def Table.fixedByConjunct (t : Table) (e : Expr) : List Nat :=
  let sc := t.scope
  match e with
  | .binary op (.column q n quoted) rhs =>
    if op != .eq && op != .is then []
    else match sc.resolve q n with
      | .found (.slot j) c =>
        if t.rowidColumn != some j && c.affinity.converts && sc.isConstant rhs &&
            sc.compareCollation (.column q n quoted) rhs = .binary then [j]
        else []
      | _ => []
  | _ => []

def Table.fixedBy (t : Table) : Expr → List Nat
  | .binary .and a b => t.fixedBy b ++ t.fixedByConjunct a
  | e => t.fixedByConjunct e

def Table.answers (t : Table) (ix : Index) (used : List Nat) : Bool :=
  let named := used.filter (t.rowidColumn != some ·)
  let wanted := if used.any t.isGenerated then List.range t.columns.length else named
  let fixed := match ix.condition with
    | some c => t.fixedBy c
    | none => []
  let listed := ix.columns.filterMap (·.term.column?)
  let expressions := ix.columns.any fun c =>
    match c.term with
    | .expression _ => true
    | _ => false
  let computed := listed.any (!ix.holds.contains ·)
  ix.covering || (wanted.filter (!fixed.contains ·)).all ix.holds.contains ||
    (expressions && !computed && named.all listed.contains)

def Request.adjust (req : Request) (used : List Nat) (rows limit : Int) : Int :=
  let unused := (List.range req.terms.length).filter (!used.contains ·)
  let cut := unused.foldl (fun r i => max r ((req.terms[i]?.map (·.reduction)).getD 0)) 0
  min (rows - unused.length) (limit - cut)

def Loop.cheaperPartOf (x y : Loop) : Bool :=
  x.terms.length < y.terms.length && !(x.cost > y.cost && x.rows > y.rows) &&
    y.skips ≤ x.skips && x.terms.all y.terms.contains && !(x.covering && !y.covering)

def Loop.adjustTo (loops : List Loop) (tpl : Loop) : Loop :=
  if !tpl.indexed then tpl
  else loops.foldl (fun tpl p =>
    if !p.indexed then tpl
    else if p.cheaperPartOf tpl then
      { tpl with cost := min p.cost tpl.cost, rows := min (p.rows - 1) tpl.rows }
    else if tpl.cheaperPartOf p then
      { tpl with cost := max p.cost tpl.cost, rows := max (p.rows + 1) tpl.rows }
    else tpl) tpl

inductive Standing where
  | apart
  | worse
  | better

/-- How a new way `tpl` stands against a way `p` found before of the same place. A way that seeks
an index by equalities from its first column takes the place of an index built for the query; a
way found before that costs no more to set up and to run and yields no more rows is kept; and a
new way that costs no more to run and yields no more rows takes the place of the other. -/
def Loop.against (tpl p : Loop) : Standing :=
  if p.slot != tpl.slot then .apart
  else if p.automatic && tpl.indexed && tpl.skips = 0 && !tpl.terms.isEmpty then .better
  else if p.setup ≤ tpl.setup && p.cost ≤ tpl.cost && p.rows ≤ tpl.rows then .worse
  else if tpl.cost ≤ p.cost && tpl.rows ≤ p.rows then .better
  else .apart

def Loop.pruneAfter (tpl : Loop) : List Loop → List Loop
  | [] => []
  | p :: rest =>
    match tpl.against p with
    | .worse => p :: rest
    | .better => Loop.pruneAfter tpl rest
    | .apart => p :: Loop.pruneAfter tpl rest

def Loop.placeIn (tpl : Loop) : List Loop → Option (List Loop)
  | [] => some [tpl]
  | p :: rest =>
    match tpl.against p with
    | .worse => none
    | .better => some (tpl :: Loop.pruneAfter tpl rest)
    | .apart => (Loop.placeIn tpl rest).map (p :: ·)

def Loop.insert (loops : List Loop) (tpl : Loop) : List Loop :=
  ((Loop.adjustTo loops tpl).placeIn loops).getD loops

def Table.orderThrough (t : Table) (key : SortKey) (ix : Index) (fixed skips : Nat) :
    Bool × Bool :=
  if ix.unique && ix.keyCount = 1 && 1 ≤ fixed then (true, false)
  else if ix.unordered then (false, false)
  else
    let distinct := ix.unique && skips = 0 && ix.keyCount ≤ fixed
    let free := ix.columns.zipIdx.filter fun (_, j) => !(j < fixed && skips ≤ j)
    match free.head? with
    | none => (distinct, false)
    | some (c, _) =>
      if t.isRowidTerm c.term then
        if t.rowidColumn = some key.column then (true, c.descending != key.descending)
        else (distinct, false)
      else if c.term.column? = some key.column && Table.sameName c.collation key.collation then
        (true, c.descending != key.descending)
      else
        let keyColumns : List Nat := match t.indexes.find? (·.primary) with
          | some pk =>
            if t.hasRowid then []
            else (pk.columns.take pk.keyCount).filterMap fun (k : IndexColumn) => k.term.column?
          | none => []
        let notNull := match c.term.column? with
          | some k => keyColumns.contains k
          | none => false
        (distinct && notNull, false)

def Table.orderOf (t : Table) (req : Request) (ix : Index) (fixed skips : Nat) : Bool × Bool :=
  match req.order with
  | some key => t.orderThrough key ix fixed skips
  | none => (false, false)

def Table.seekLoops (t : Table) (req : Request) (ix : Index) (slot : Nat) (covering : Bool) :
    Nat → Nat → Nat → Int → Int → List Nat → List Loop → List Loop
  | 0, _, _, _, _, _, loops => loops
  | fuel + 1, fixed, skips, extra, rows, used, loops =>
    let size := ix.estimates.getD 0 0
    let share (i : Nat) : Int := ix.estimates.getD i 0
    let loops := match ix.columns[fixed]? with
      | some { term := .column k, collation := coll, .. } =>
        if t.rowidColumn = some k then loops
        else req.terms.zipIdx.foldl (fun loops (tm, i) =>
          if tm.column != k || !Table.sameName tm.collation coll then loops
          else
            let used := used ++ [i]
            let n := fixed + 1
            let out := rows + (share n - share fixed)
            let seek := logEstAdd (estLog size) (out + 1 + (15 * ix.width) / t.rowWidth)
            let run := if covering then seek else logEstAdd seek (out + 16)
            let (ordered, reversed) := t.orderOf req ix n skips
            let loop : Loop := ⟨some ix, slot, used, skips, n, run + extra,
              req.adjust used (out + extra) size, true, covering, ordered, reversed, 0, false⟩
            let loops := Loop.insert loops loop
            if n < ix.columns.length && (n < ix.keyCount || !ix.primary) then
              t.seekLoops req ix slot covering fuel n skips extra out used loops
            else loops) loops
      | _ => loops
    if fixed = skips && fixed + 1 < ix.keyCount && fixed = used.length + skips &&
        !ix.noSkipScan && ix.hasStatistics && 42 ≤ share (fixed + 1) then
      let steps := share fixed - share (fixed + 1)
      t.seekLoops req ix slot covering fuel (fixed + 1) (skips + 1) (steps + 5 + extra)
        (rows - steps) used loops
    else loops

def Index.holdsColumn (t : Table) (ix : Index) (k : Nat) : Bool :=
  (t.hasRowid && t.rowidColumn = some k) || ix.columns.any (·.term.column? = some k)

def Table.indexLoops (t : Table) (req : Request) (loops : List Loop) (ix : Index) (slot : Nat) :
    List Loop :=
  let usable := match ix.condition with
    | some c => t.scope.impliedBy (req.terms.map (·.expr)) c
    | none => true
  if !usable then loops
  else
    let size := ix.estimates.getD 0 0
    let helps := !ix.unordered && match req.order with
      | some key => t.rowidColumn = some key.column ||
          (ix.columns.take ix.keyCount).any fun (c : IndexColumn) => c.term.column? = some key.column
      | none => false
    let covering := t.answers ix req.used
    let slot := if helps then slot else 0
    let loops :=
      if helps || !t.hasRowid || ix.condition.isSome ||
          (covering && !ix.unordered && ix.width < t.rowWidth) then
        let run := size + 1 + (15 * ix.width) / t.rowWidth
        let run := if covering then run
          else
            let served := (req.terms.takeWhile (ix.holdsColumn t ·.column)).length
            logEstAdd run (size + 16 - 20 * served)
        let (ordered, reversed) := t.orderOf req ix 0 0
        Loop.insert loops ⟨some ix, slot, [], 0, 0, run, req.adjust [] size size, true, covering,
          ordered, reversed, 0, false⟩
      else loops
    if ix.lowQuality then loops
    else t.seekLoops req ix slot covering (ix.columns.length + 1) 0 0 0 size [] loops

/-- Every way the planner weighs. For a table with row ids and a condition on a column, first an
index built for the query on that column: costly to build (the table's rows, times their
logarithm, and more), expected to yield twenty rows a lookup; it is never the cheapest, but it
holds the first place until a way seeking an index by equalities takes it. Then the scan of the
table in row id order, for a table with row ids, and the ways through each index in turn. -/
def Table.loops (t : Table) (req : Request) : List Loop :=
  let size := t.rowEstimate
  let byRowid := match req.order with
    | some key => t.rowidColumn = some key.column
    | none => false
  let built : List Loop :=
    if t.hasRowid && req.terms.any (fun tm => t.rowidColumn != some tm.column) then
      [⟨none, 0, [], 0, 0, logEstAdd (estLog size) 43, 43, false, false, false, false,
        max (estLog size + size + 28) 0, true⟩]
    else []
  let start : List Loop :=
    if t.hasRowid then
      Loop.insert built ⟨none, if byRowid then 1 else 0, [], 0, 0, size + 16,
        req.adjust [] size size, false, false, byRowid,
        byRowid && (req.order.map (·.descending)).getD false, 0, false⟩
    else []
  (t.indexes.zipIdx.foldl (fun loops (ix, i) => t.indexLoops req loops ix (i + 2)) start)

/-- The plan the engine takes without weighing costs, when at most one row can match: a
condition on the column that stands for the row id; else the full key, of at most three
columns, of a unique index that is not partial, each column fixed by a condition under its
collation. -/
def Table.shortcut? (t : Table) (req : Request) : Option Plan :=
  match req.terms.zipIdx.find? (fun (tm, _) => t.rowidColumn = some tm.column) with
  | some (_, i) => some ⟨none, [i], false⟩
  | none =>
    t.indexes.findSome? fun ix =>
      if !ix.unique || ix.condition.isSome || 3 < ix.keyCount then none
      else
        let fixing : Option (List Nat) := (ix.columns.take ix.keyCount).mapM fun c =>
          match c.term with
          | .column k =>
            (req.terms.zipIdx.find? fun (tm, _) =>
              tm.column = k && Table.sameName tm.collation c.collation).map (·.2)
          | _ => none
        fixing.map fun is => ⟨some ix, is, false⟩

def Loop.weigh (l : Loop) (sortRows : Int) (results : Nat) : Int × Int :=
  let unsorted := logEstAdd (logEstAdd l.setup l.cost) 0
  if sortRows != 0 && !l.ordered then
    let sorting := sortRows + logEst ((results + 59) / 30) + estLog sortRows
    (logEstAdd unsorted sorting + 3, unsorted)
  else (unsorted, unsorted - 2)

def Loop.best (loops : List Loop) (sortRows : Int) (results : Nat) : Option Loop :=
  let pick := loops.foldl (fun (best : Option (Loop × Int × Int)) l =>
    let (cost, unsorted) := l.weigh sortRows results
    match best with
    | none => some (l, cost, unsorted)
    | some (b, bc, bu) =>
      if bc < cost || (bc = cost && (b.rows < l.rows || (b.rows = l.rows && bu ≤ unsorted))) then
        best
      else some (l, cost, unsorted)) none
  pick.map (·.1)

/-- The plan for a query: the shortcut if there is one; else the cheapest way without regard to
order, and, when an order is asked for, the cheapest way with the cost of sorting counted, for
as many rows as the first choice expects (among ways that seek and the index built for the
query, when it seeks). The way chosen walks backward when that yields the order asked for, even
when it was weighed without regard to order because the first choice expects no rows at all. -/
def Table.plan (t : Table) (req : Request) : Plan :=
  match t.shortcut? req with
  | some p => p
  | none =>
    let loops := t.loops req
    match Loop.best loops 0 req.results with
    | none => ⟨none, [], false⟩
    | some first =>
      match req.order with
      | none => ⟨first.index, first.terms, false⟩
      | some _ =>
        let loops := if 0 < first.fixed then loops.filter (fun l => 0 < l.fixed || l.automatic)
          else loops
        let expected := first.rows + 1
        match Loop.best loops expected req.results with
        | none => ⟨first.index, first.terms, false⟩
        | some l => ⟨l.index, l.terms, l.ordered && l.reversed⟩

def Table.keyValue (t : Table) (r : Row) : IndexTerm → Cell
  | .column k =>
    match r.read k with
    | .ok v => v
    | .error _ => .null
  | .rowid => (r.rowid.map Cell.integer).getD .null
  | .expression e =>
    let env : Env := ⟨{ t.scope with rowids := false }, fun ref => match ref with
      | .slot j => r.read j
      | .rowid _ => .ok ((r.rowid.map Cell.integer).getD .null)⟩
    match env.eval e with
    | .ok v =>
      match t.scope.affinityOf e with
      | .text => Affinity.text.store v
      | .numeric | .integer | .real => Affinity.numeric.store v
      | _ => v
    | .error _ => .null

def Table.entered (t : Table) (r : Row) (c : Expr) : Bool :=
  let env : Env := ⟨t.scope, fun ref => match ref with
    | .slot j => r.read j
    | .rowid _ => .ok ((r.rowid.map Cell.integer).getD .null)⟩
  match env.eval c with
  | .ok v => v.truth? == some true
  | .error _ => false

def entryOrder (enc : TextEncoding) : List IndexColumn → List Cell → List Cell → Ordering
  | c :: cs, a :: as, b :: bs =>
    let o := Cell.orderIn enc (Collation.ofName c.collation) a b
    let o := if c.descending then o.swap else o
    if o != .eq then o else entryOrder enc cs as bs
  | _, _, _ => .eq

def Table.inIndexOrder (t : Table) (enc : TextEncoding) (ix : Index) : List Row :=
  let rows := match ix.condition with
    | some c => t.rows.filter (t.entered · c)
    | none => t.rows
  let keyed := rows.map fun r => (ix.columns.map (t.keyValue r ·.term), r)
  (keyed.mergeSort fun a b => entryOrder enc ix.columns a.1 b.1 != .gt).map (·.2)

def Table.visit (t : Table) (enc : TextEncoding) (req : Request) (p : Plan) : List Row :=
  let base := match p.index with
    | some ix => t.inIndexOrder enc ix
    | none => t.rows
  let sought := base.filter fun r => p.terms.all fun i =>
    match req.terms[i]? with
    | some tm =>
      match r.read tm.column with
      | .ok v => tm.holds v
      | .error _ => true
    | none => true
  if p.reversed then sought.reverse else sought

def Table.visiting (t : Table) (enc : TextEncoding) (req : Request) : Table :=
  { t with rows := t.visit enc req (t.plan req) }

end ChatArchive.Store
