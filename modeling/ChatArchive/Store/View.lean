import ChatArchive.Store.Compile

namespace ChatArchive.Store

def Expr.conjuncts : Expr → List Expr
  | .binary op a b => if op = .and then a.conjuncts ++ b.conjuncts else [.binary op a b]
  | e => [e]

def Expr.namingCore : Expr → Expr
  | .collate e _ => e.namingCore
  | .call name _ _ _ (a :: rest) =>
    let key := name.map Char.toLower
    if key == "likely" || key == "unlikely" || key == "likelihood" then a.namingCore
    else .call name false false false (a :: rest)
  | e => e

def Scope.resultName (sc : Scope) (e : Expr) (aliasName : Option String) (text : String) : String :=
  match aliasName with
  | some a => a
  | none =>
    match e.namingCore with
    | .column q n _ =>
      match sc.resolve q n with
      | .found (.slot _) c => c.name
      | .found (.rowid _) _ => "rowid"
      | _ => text
    | _ => text

def withoutCounter (name : String) : String :=
  let cs := name.toList.reverse
  let digits := cs.takeWhile Char.isDigit
  match cs.drop digits.length with
  | ':' :: rest => if digits.isEmpty || rest.isEmpty then name else String.ofList rest.reverse
  | _ => name

/-- A name made different from the names taken, by a counter after a colon. -/
def uniqueName (taken : List String) (name : String) : String :=
  let rec bump : Nat → Nat → String → String
    | 0, _, n => n
    | fuel + 1, count, n =>
      if taken.any (Table.sameName · n) then
        bump fuel (count + 1) s!"{withoutCounter n}:{count + 1}"
      else n
  bump (taken.length + 1) 0 name

def uniqueNames (names : List String) : List String :=
  names.foldl (fun taken n => taken ++ [uniqueName taken n]) []

def ordinal (n : Nat) : String :=
  let suffix :=
    if n % 100 / 10 = 1 then "th"
    else match n % 10 with
      | 1 => "st"
      | 2 => "nd"
      | 3 => "rd"
      | _ => "th"
  s!"{n}{suffix}"

def readIn : List Frame → List Row → Ref → Except SqlError Cell
  | frames, rows, .slot i => slotIn frames rows i
  | _, rows, .rowid k =>
    match rows[k]? with
    | some r => .ok (match r.rowid with
      | some n => .integer n
      | none => .null)
    | none => .ok .null
where
  slotIn : List Frame → List Row → Nat → Except SqlError Cell
    | f :: fs, r :: rs, i =>
      if i < f.columns.length then r.read i else slotIn fs rs (i - f.columns.length)
    | _, _, _ => .ok .null

def Env.holdsAll (env : Env) : List Expr → Except SqlError Bool
  | [] => .ok true
  | e :: es => do
    if (← env.eval e).truth? == some true then env.holdsAll es else return false

def allLive : List Row → Except SqlError Bool
  | [] => .ok true
  | r :: rs => do if ← r.live then allLive rs else return false

/-- Every combination of one row from each list, the first list varying slowest. -/
def combinations : List (List Row) → List (List Row)
  | [] => [[]]
  | rs :: rest =>
    let tails := combinations rest
    rs.flatMap fun r => tails.map (r :: ·)

mutual
def Scope.withAliases (sc : Scope) (aliases : List (String × Expr)) : Expr → Expr
  | .column [] n quoted =>
    match sc.resolve [] n with
    | .missing =>
      match aliases.find? (fun (a, _) => Table.sameName a n) with
      | some (_, e) => e
      | none => .column [] n quoted
    | _ => .column [] n quoted
  | .unary op e => .unary op (sc.withAliases aliases e)
  | .binary op a b => .binary op (sc.withAliases aliases a) (sc.withAliases aliases b)
  | .collate e c => .collate (sc.withAliases aliases e) c
  | .cast e t => .cast (sc.withAliases aliases e) t
  | .call name d s w args => .call name d s w (sc.withAliasesAll aliases args)
  | .isNull e => .isNull (sc.withAliases aliases e)
  | .notNull e => .notNull (sc.withAliases aliases e)
  | .between n e lo hi =>
    .between n (sc.withAliases aliases e) (sc.withAliases aliases lo) (sc.withAliases aliases hi)
  | .inList n e items => .inList n (sc.withAliases aliases e) (sc.withAliasesAll aliases items)
  | .inQuery n e => .inQuery n (sc.withAliases aliases e)
  | .pattern op n e pat escape =>
    .pattern op n (sc.withAliases aliases e) (sc.withAliases aliases pat)
      (sc.withAliasesOption aliases escape)
  | .case operand branches otherwise =>
    .case (sc.withAliasesOption aliases operand) (sc.withAliasesBranches aliases branches)
      (sc.withAliasesOption aliases otherwise)
  | .vector items => .vector (sc.withAliasesAll aliases items)
  | e => e

def Scope.withAliasesAll (sc : Scope) (aliases : List (String × Expr)) : List Expr → List Expr
  | [] => []
  | e :: es => sc.withAliases aliases e :: sc.withAliasesAll aliases es

def Scope.withAliasesOption (sc : Scope) (aliases : List (String × Expr)) :
    Option Expr → Option Expr
  | none => none
  | some e => some (sc.withAliases aliases e)

def Scope.withAliasesBranches (sc : Scope) (aliases : List (String × Expr)) :
    List (Expr × Expr) → List (Expr × Expr)
  | [] => []
  | (w, t) :: rest =>
    (sc.withAliases aliases w, sc.withAliases aliases t) :: sc.withAliasesBranches aliases rest
end

structure Output where
  e : Expr
  aliasName : Option String
  text : String

def expandColumns (frames : List Frame) : List ResultColumn → Except SqlError (List Output)
  | [] => .ok []
  | c :: rest => do
    let here ← match c with
      | .expr e text aliasName => pure [⟨e, aliasName, text⟩]
      | .all none =>
        if frames.isEmpty then throw (.failure "no tables specified")
        let qualify := frames.length > 1
        pure (frames.flatMap fun f => f.columns.map fun col =>
          ⟨.column (if qualify then [f.name] else []) col.name false, none, col.name⟩)
      | .all (some t) =>
        match frames.find? (fun f => Table.sameName f.name t) with
        | some f => pure (f.columns.map fun col => ⟨.column [f.name] col.name false, none, col.name⟩)
        | none => throw (.noSuchTable t)
    return here ++ (← expandColumns frames rest)

def orderTermError (count : Nat) (position : Nat) : Expr → Option SqlError
  | .integer t =>
    match t.toNat? with
    | some k =>
      if 1 ≤ k && k ≤ count then none
      else some (.failure
        s!"{ordinal position} ORDER BY term out of range - should be between 1 and {count}")
    | none => none
  | _ => none

def viewRows (frames : List Frame) (sc : Scope) (outputs : List Expr) (conditions : List Expr)
    (combos : List (List Row)) : List Row :=
  combos.map fun rows =>
    let env : Env := ⟨sc, readIn frames rows⟩
    { read := fun i => match outputs[i]? with
        | some e => env.eval e
        | none => .ok .null
      live := do if ← allLive rows then env.holdsAll conditions else return false }

def materialize (width : Nat) : List Row → List (List Cell) × Option SqlError
  | [] => ([], none)
  | r :: rs =>
    let cells : Except SqlError (Option (List Cell)) := do
      if !(← r.live) then return none
      return some (← (List.range width).mapM r.read)
    match cells with
    | .error e => ([], some e)
    | .ok none => materialize width rs
    | .ok (some cs) =>
      let (more, fault) := materialize width rs
      (cs :: more, fault)

def sameCells (columns : List Column) (a b : List Cell) : Bool :=
  a.length = b.length && ((columns.zip (a.zip b)).all fun (c, x, y) =>
    match x, y with
    | .null, .null => true
    | .null, _ | _, .null => false
    | _, _ => Cell.compareAs .none c.collation x y = some .eq)

def distinctCells (columns : List Column) (rows : List (List Cell)) : List (List Cell) :=
  rows.foldl (fun kept r => if kept.any (sameCells columns r) then kept else kept ++ [r]) []

def cellsOrder : List Column → List Cell → List Cell → Ordering
  | c :: cs, x :: xs, y :: ys =>
    match Cell.orderWith c.collation x y with
    | .eq => cellsOrder cs xs ys
    | o => o
  | _, _, _ => .eq

def sortedCells (columns : List Column) (rows : List (List Cell)) : List (List Cell) :=
  rows.mergeSort fun a b => cellsOrder columns a b != .gt

def Table.ofCells (name : String) (columns : List Column) (rows : List (List Cell))
    (fault : Option SqlError) : Table :=
  { name := name, columns := columns, rows := rows.map Row.ofCells, fault := fault,
    hasRowid := false }

structure ArmShape where
  affinity : Affinity
  classes : Nat

def Affinity.textual : Affinity → Bool
  | .text | .numeric | .integer | .real => true
  | _ => false

def Affinity.numerical : Affinity → Bool
  | .numeric | .integer | .real => true
  | _ => false

def Affinity.classes (aff : Affinity) : Nat :=
  if aff.numerical then 5 else if aff = .text then 6 else 7

mutual
def Scope.valueClasses (sc : Scope) : Expr → Nat
  | .collate e _ | .unary .plus e => sc.valueClasses e
  | .null => 0
  | .string _ => 2
  | .blob _ => 4
  | .binary .concat _ _ => 6
  | .parameter | .call _ _ _ _ _ | .pattern _ false _ _ _ => 7
  | .column q n quoted =>
    match sc.resolve q n with
    | .found _ c => c.affinity.classes
    | _ => if quoted then 2 else 1
  | .cast _ t => (Affinity.ofType t).classes
  | .query => 7
  | .vector items => sc.firstClasses items
  | .case _ branches otherwise => sc.branchClasses branches ||| sc.optionClasses otherwise
  | _ => 1

def Scope.firstClasses (sc : Scope) : List Expr → Nat
  | [] => 7
  | e :: _ => (sc.affinityOf e).classes

def Scope.branchClasses (sc : Scope) : List (Expr × Expr) → Nat
  | [] => 0
  | (_, t) :: rest => sc.valueClasses t ||| sc.branchClasses rest

def Scope.optionClasses (sc : Scope) : Option Expr → Nat
  | none => 0
  | some e => sc.valueClasses e
end

/-- The affinity of a column of a compound, from what its queries, leftmost first, say of it:
that of the first expression with one. Text becomes blob when another query can give a number,
a numeric affinity when another can give text. -/
def compoundAffinity (shapes : List ArmShape) : Affinity :=
  let before := shapes.takeWhile (·.affinity = .none)
  match shapes.drop before.length with
  | [] => .none
  | s :: after =>
    let others := (before ++ after).foldl (fun m x => m ||| x.classes) 0
    if shapes.length > 1 && s.affinity = .text && others % 2 = 1 then .blob
    else if shapes.length > 1 && s.affinity.numerical && others / 2 % 2 = 1 then .blob
    else s.affinity

inductive Part where
  | select (s : Select)
  | row (values : List Expr)
  | rows (values : List (List Expr))

def Query.parts : Query → List (Option CompoundOp × Part)
  | .select s => [(none, .select s)]
  | .values rows => rows.zipIdx.map fun (r, i) => (if i = 0 then none else some .unionAll, .row r)
  | .compound op l r =>
    l.parts ++ match r with
      | .values [row] => [(some op, .row row)]
      | .values rows => [(some op, .rows rows)]
      | _ => match r.parts with
        | (_, p) :: rest => (some op, p) :: rest
        | [] => []
  | .withClause body => body.parts

inductive Arm where
  | select (s : Select) (sources : List (Table × Option String)) (outputs : List Output)
  | row (values : List Expr)
  | rows (values : List (List Expr))

def framesOf (sources : List (Table × Option String)) : List Frame :=
  sources.map fun (t, aliasName) => (⟨aliasName.getD t.name, t.columns, t.hasRowid⟩ : Frame)

def Arm.width : Arm → Nat
  | .select _ _ outputs => outputs.length
  | .row values => values.length
  | .rows values => (values.head?.map List.length).getD 0

def emptyScope : Scope := { frames := [] }

def checkSelect (s : Select) (sources : List (Table × Option String)) (outputs : List Output) :
    Except SqlError Unit := do
  let sc : Scope := { frames := framesOf sources }
  if let some e := (Checker.at sc .result false).checkAll (outputs.map (·.e)) then throw e
  let aliases := outputs.filterMap fun o => o.aliasName.map fun a => (a, o.e)
  let condition := s.filter.map (sc.withAliases aliases)
  if let some e := (Checker.at sc .clause false).checkAll condition.toList then throw e
  let ordering := s.orderBy.zipIdx.map fun (term, k) =>
    match orderTermError outputs.length (k + 1) term.e with
    | some e => some e
    | none =>
      match term.e with
      | .integer _ => none
      | e => (Checker.at sc .clause false).check (sc.withAliases aliases e)
  if let some e := ordering.findSome? id then throw e

def CompoundOp.text : CompoundOp → String
  | .union => "UNION"
  | .unionAll => "UNION ALL"
  | .except => "EXCEPT"
  | .intersect => "INTERSECT"

def widthError (op : Option CompoundOp) (right : Arm) : SqlError :=
  match right, op with
  | .row _, _ => .failure "all VALUES must have the same number of terms"
  | _, some op =>
    .failure s!"SELECTs to the left and right of {op.text} do not have the same number of result columns"
  | _, none => .failure "all VALUES must have the same number of terms"

def checkRows (next : Option (List Expr)) : List (List Expr) → Except SqlError Unit
  | [] => .ok ()
  | r :: rest => do
    if let some e := (Checker.at emptyScope .result false).checkAll r then throw e
    if let some n := next then
      if r.length != n.length then throw (.failure "all VALUES must have the same number of terms")
    checkRows (some r) rest

def checkArms (right : Option (Option CompoundOp × Arm)) :
    List (Option CompoundOp × Arm) → Except SqlError Unit
  | [] => .ok ()
  | (op, arm) :: rest => do
    match arm with
    | .select s sources outputs => checkSelect s sources outputs
    | .row values => checkRows none [values]
    | .rows values => checkRows none values.reverse
    if let some (rop, r) := right then
      if arm.width != r.width then throw (widthError rop r)
    checkArms (some (op, arm)) rest

def selectTable (name : String) (s : Select) (sources : List (Table × Option String))
    (outputs : List Output) : Table × List ArmShape :=
  let frames := framesOf sources
  let sc : Scope := { frames := frames }
  let results := outputs.map (·.e)
  let aliases := outputs.filterMap fun o => o.aliasName.map fun a => (a, o.e)
  let condition := s.filter.map (sc.withAliases aliases)
  let columnNames := uniqueNames (outputs.map fun o => sc.resultName o.e o.aliasName o.text)
  let columns := (columnNames.zip results).map fun (n, e) =>
    ({ name := n, affinity := sc.affinityOf e, collation := (sc.collation e).getD .binary,
       faults := sc.faultsOf e } : Column)
  let shapes := results.map fun e => (⟨sc.affinityOf e, sc.valueClasses e⟩ : ArmShape)
  let rows := viewRows frames sc results ((condition.map Expr.conjuncts).getD [])
    (combinations (sources.map (·.1.rows)))
  let fault := sources.findSome? (·.1.fault)
  let arity := sources.findSome? (·.1.arityError)
  if s.distinct then
    let (cells, failed) := materialize columns.length rows
    ({ Table.ofCells name columns (distinctCells columns cells) (failed.orElse fun _ => fault) with
       arityError := arity }, shapes)
  else
    ({ name := name, columns := columns, rows := rows, fault := fault, hasRowid := false,
       arityError := arity }, shapes)

def rowShapes (values : List Expr) : List ArmShape :=
  values.map fun e => ⟨emptyScope.affinityOf e, emptyScope.valueClasses e⟩

def shapesAt (shapes : List (List ArmShape)) (i : Nat) : List ArmShape :=
  shapes.map fun s => s.getD i ⟨.none, 7⟩

def valuesTable (name : String) (rows : List (List Expr)) : Table :=
  let width := (rows.head?.map List.length).getD 0
  let env : Env := ⟨emptyScope, fun _ => .ok .null⟩
  let shapes := rows.map rowShapes
  let first := rows.head?.getD []
  let columns := (List.range width).map fun i =>
    ({ name := s!"column{i + 1}", affinity := compoundAffinity (shapesAt shapes i),
       collation := ((first[i]?).bind emptyScope.collation).getD .binary,
       faults := rows.flatMap fun es => (es[i]?).toList.flatMap emptyScope.faultsOf } : Column)
  let out := rows.map fun es => ({ read := fun i => match es[i]? with
      | some e => env.eval e
      | none => .ok .null } : Row)
  { name := name, columns := columns, rows := out, hasRowid := false }

def Arm.table (name : String) : Arm → Table × List ArmShape
  | .select s sources outputs => selectTable name s sources outputs
  | .row values => (valuesTable name [values], rowShapes values)
  | .rows values =>
    let t := valuesTable name values
    (t, t.columns.map fun c => ⟨c.affinity, c.affinity.classes⟩)

def combine (op : CompoundOp) (a b : Table) : Table :=
  let columns := (a.columns.zip b.columns).map fun (x, y) => { x with faults := x.faults ++ y.faults }
  let arity := a.arityError.orElse fun _ => b.arityError
  match op with
  | .unionAll =>
    { a with columns := columns, rows := a.rows ++ b.rows, fault := a.fault.orElse fun _ => b.fault,
             arityError := arity }
  | _ =>
    let width := columns.length
    let (left, leftFault) := materialize width a.rows
    let (right, rightFault) := materialize width b.rows
    let fault := (leftFault.orElse fun _ => a.fault).orElse fun _ =>
      rightFault.orElse fun _ => b.fault
    let inRight (r : List Cell) := right.any (sameCells columns r)
    let kept := match op with
      | .union => distinctCells columns (left ++ right)
      | .except => (distinctCells columns left).filter (!inRight ·)
      | _ => (distinctCells columns left).filter inRight
    { Table.ofCells a.name columns (sortedCells columns kept) fault with arityError := arity }

def compoundTable (name : String) : List (Option CompoundOp × Arm) → Table
  | [] => { name := name, columns := [], rows := [], hasRowid := false }
  | (_, first) :: rest =>
    let start := first.table name
    let (t, shapes) := rest.foldl (fun (acc : Table × List (List ArmShape)) (op, arm) =>
      let (b, s) := arm.table name
      (combine (op.getD .unionAll) acc.1 b, acc.2 ++ [s])) (start.1, [start.2])
    { t with columns := t.columns.zipIdx.map fun (c, i) =>
        { c with affinity := compoundAffinity (shapesAt shapes i) } }

/-- A view's table under the names of its column list. When the list names as many columns as
the query computes, they rename them; otherwise the view has the listed columns and a statement
reading it fails once its names resolve. -/
def Table.named (names : Option (List String)) (t : Table) : Table :=
  match names with
  | none => t
  | some ns =>
    if ns.length = t.columns.length then
      { t with columns := ((uniqueNames ns).zip t.columns).map fun (n, c) => { c with name := n } }
    else
      { t with
        columns := (uniqueNames ns).map fun n => ({ name := n, affinity := .none } : Column)
        arityError := some (.failure
          s!"expected {ns.length} columns for '{t.name}' but got {t.columns.length}") }

def Part.expand (lookup : String → Except SqlError Table) : Part → Except SqlError Arm
  | .select s => do
    let sources ← s.sources.mapM fun src =>
      match src with
      | .table _ t aliasName => do pure ((← lookup t), aliasName)
      | .other aliasName => pure (({ name := "", columns := [], rows := [], hasRowid := false } : Table), aliasName)
    return .select s sources (← expandColumns (framesOf sources) s.columns)
  | .row values => pure (.row values)
  | .rows values => pure (.rows values)

/-- The table a view makes, given how the relations its query names are found. Its queries'
sources are found and result columns spelled out from the right, then their names checked from
the right; then their rows are computed and combined from the left. -/
def View.table (v : View) (lookup : String → Except SqlError Table) : Except SqlError Table := do
  let expanded ← v.query.parts.reverse.mapM fun (op, p) => do pure (op, ← p.expand lookup)
  checkArms none expanded
  return (compoundTable v.name expanded.reverse).named v.columnNames

def Database.relationAt (db : Database) : Nat → List String → String → Except SqlError Table
  | fuel, visiting, name =>
    match db.tables.find? (fun t => Table.sameName t.name name) with
    | some t => .ok t
    | none =>
      match db.views.find? (fun v => Table.sameName v.name name) with
      | none => .error (.noSuchTable s!"main.{name}")
      | some v =>
        if visiting.any (Table.sameName · v.name) then
          .error (.failure s!"view {v.name} is circularly defined")
        else match fuel with
          | 0 => .error (.failure s!"view {v.name} is circularly defined")
          | fuel + 1 => v.table fun t => db.relationAt fuel (v.name :: visiting) t

def Database.relation? (db : Database) (name : String) : Except SqlError Table :=
  match db.tables.find? (fun t => Table.sameName t.name name) with
  | some t => .ok t
  | none =>
    match db.views.find? (fun v => Table.sameName v.name name) with
    | some v => v.table fun t => db.relationAt db.views.length [v.name] t
    | none => .error (.noSuchTable name)

end ChatArchive.Store
