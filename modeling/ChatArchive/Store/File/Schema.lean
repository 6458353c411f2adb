import ChatArchive.Store.File.Keyword
import ChatArchive.Store.Default
import ChatArchive.Store.Resolve

namespace ChatArchive.Store.File

def sameName (a b : String) : Bool := Table.sameName a b

def dequoteWhole (s : String) : String :=
  match s.toList with
  | c :: rest =>
    let inner := rest.take (rest.length - 1)
    if isQuote c && rest.length ≥ 1 && !(inner.any isQuote) then String.ofList inner else s
  | [] => s

structure ColumnDecl where
  name : String
  type : Option String := none
  collation : Option String := none
  default : Option Expr := none
  hasDefault : Bool := false
  inKey : Bool := false
  generated : Option Bool := none
  expression : Option Expr := none
  deriving Repr

inductive StandardType where
  | any
  | blob
  | int
  | integer
  | real
  | text
  deriving DecidableEq, Repr

def standardType? (type : String) : Option StandardType :=
  if type.length < 3 then none
  else
    let t := dequoteWhole type
    if sameName t "ANY" then some .any
    else if sameName t "BLOB" then some .blob
    else if sameName t "INT" then some .int
    else if sameName t "INTEGER" then some .integer
    else if sameName t "REAL" then some .real
    else if sameName t "TEXT" then some .text
    else none

def StandardType.affinity : StandardType → Affinity
  | .any => .numeric
  | .blob => .blob
  | .int | .integer => .integer
  | .real => .real
  | .text => .text

def ColumnDecl.affinity (c : ColumnDecl) : Affinity :=
  match c.type with
  | none => .blob
  | some t =>
    match standardType? t with
    | some s => s.affinity
    | none => Affinity.ofType (dequote t)

def ColumnDecl.isInteger (c : ColumnDecl) : Bool := (c.type.bind standardType?) = some .integer

def ColumnDecl.isVirtual (c : ColumnDecl) : Bool := c.generated = some false

structure KeyIndex where
  name : String
  columns : List (Nat × String)
  primary : Bool
  descending : List Bool := []
  conflict : Option String := none
  deriving Repr

structure TableDecl where
  name : String
  columns : List ColumnDecl
  rowidColumn? : Option Nat
  indexes : List KeyIndex
  key : Option (List Nat)
  deriving Repr

/-- A table declaration while it is read. A declaration that may not create its table (one
whose table exists, when it allows that) is read but applies nothing. -/
structure Draft where
  name : String
  live : Bool := true
  columns : Array ColumnDecl := #[]
  hasPrimaryKey : Bool := false
  rowidColumn? : Option Nat := none
  autoincrement : Bool := false
  rowidDescending : Bool := false
  rowidConflict : Option String := none
  indexes : List KeyIndex := []

inductive KeyTerm where
  | column (name : Token) (collation : Option String) (descending : Bool := false)
  | expression
  deriving Repr

def Draft.columnIndex? (d : Draft) (name : String) : Option Nat :=
  d.columns.toList.findIdx? fun c => sameName c.name name

def Draft.collationAt (d : Draft) (i : Nat) : String :=
  match d.columns[i]? with
  | some c => c.collation.getD "BINARY"
  | none => "BINARY"

def Draft.lastName (d : Draft) : String :=
  (d.columns[d.columns.size - 1]?.map (·.name)).getD ""

def Draft.addIndex (d : Draft) (terms : List KeyTerm) (primary : Bool)
    (conflict : Option String := none) : Except String Draft := do
  if !d.live then return d
  let columns ← terms.mapM fun term =>
    match term with
    | .expression => .error "expressions prohibited in PRIMARY KEY and UNIQUE constraints"
    | .column n coll _ =>
      match d.columnIndex? n.name with
      | some i => .ok (i, coll.getD (d.collationAt i))
      | none => .error s!"no such column: {n.name}"
  let same (k : KeyIndex) : Bool :=
    k.columns.length = columns.length &&
      (k.columns.zip columns).all fun (a, b) => a.1 = b.1 && sameName a.2 b.2
  let promote (k : KeyIndex) : KeyIndex :=
    if !same k then k
    else
      let k := if primary then { k with primary := true } else k
      if k.conflict.isNone then { k with conflict := conflict } else k
  if let some k := d.indexes.find? same then
    if let (some a, some b) := (k.conflict, conflict) then
      if a != b then throw "conflicting ON CONFLICT clauses specified"
    return { d with indexes := d.indexes.map promote }
  let name := s!"sqlite_autoindex_{d.name}_{d.indexes.length + 1}"
  let descending := terms.map fun term => match term with
    | .column _ _ down => down
    | .expression => false
  return { d with indexes := d.indexes ++ [⟨name, columns, primary, descending, conflict⟩] }

def Draft.markKey (d : Draft) (i : Nat) : Except String Draft :=
  match d.columns[i]? with
  | some c =>
    if c.generated.isSome then .error "generated columns cannot be part of the PRIMARY KEY"
    else .ok { d with columns := d.columns.set! i { c with inKey := true } }
  | none => .ok d

def Draft.addPrimaryKey (d : Draft) (terms : Option (List KeyTerm)) (descending autoinc : Bool)
    (conflict : Option String := none) : Except String Draft := do
  if !d.live then return d
  if d.hasPrimaryKey then throw s!"table \"{d.name}\" has more than one primary key"
  let d := { d with hasPrimaryKey := true }
  let (d, keyColumn, count) ← match terms with
    | none => do
      let i := d.columns.size - 1
      pure ((← d.markKey i), some i, 1)
    | some ts =>
      let mark := fun ((d, found, count) : Draft × Option Nat × Nat) (term : KeyTerm) =>
        match term with
        | .column n _ _ =>
          match d.columnIndex? n.name with
          | some i => do return ((← d.markKey i), some i, count)
          | none => pure (d, found, count)
        | .expression => pure (d, found, count)
      ts.foldlM mark (d, none, ts.length)
  let isInteger := match keyColumn.bind (d.columns[·]?) with
    | some c => c.isInteger
    | none => false
  if count = 1 && isInteger && !descending then
    let down := match terms with
      | some [.column _ _ down] => down
      | _ => false
    let d := { d with rowidColumn? := keyColumn, autoincrement := autoinc }
    return { d with rowidDescending := down, rowidConflict := conflict }
  if autoinc then throw "AUTOINCREMENT is only allowed on an INTEGER PRIMARY KEY"
  d.addIndex (terms.getD [.column ⟨.word, d.lastName, ""⟩ none descending]) true conflict

def dropTrailingBlanks (s : String) : String :=
  String.ofList (s.toList.reverse.dropWhile isBlankChar).reverse

def stripGenerated (type : String) : String :=
  if type.length ≥ 16 && sameName (type.drop (type.length - 6)).toString "always" then
    let t := dropTrailingBlanks (type.take (type.length - 6)).toString
    if t.length ≥ 9 && sameName (t.drop (t.length - 9)).toString "generated" then
      dropTrailingBlanks (t.take (t.length - 9)).toString
    else t
  else type

def Draft.addColumn (d : Draft) (name : Token) (type : Option String) : Except String Draft := do
  if !d.live then return d
  if d.columns.size + 1 > 2000 then throw s!"too many columns on {d.name}"
  let n := dequote name.raw
  if d.columns.any (fun c => sameName c.name n) then throw s!"duplicate column name: {n}"
  let type := (type.map stripGenerated).bind fun t => if t.isEmpty then none else some t
  return { d with columns := d.columns.push { name := n, type := type } }

def Draft.modifyLast (d : Draft) (f : ColumnDecl → ColumnDecl) : Draft :=
  if d.columns.size = 0 then d
  else { d with columns := d.columns.modify (d.columns.size - 1) f }

def Draft.setCollation (d : Draft) (name : String) : Draft :=
  if !d.live then d
  else
    let i := d.columns.size - 1
    let d := d.modifyLast fun c => { c with collation := some name }
    { d with indexes := d.indexes.map fun k =>
        match k.columns with
        | [(j, _)] => if j = i then { k with columns := [(j, name)] } else k
        | _ => k }

def Draft.setDefault (d : Draft) (value : Expr) : Except String Draft :=
  if !d.live then .ok d
  else match d.columns[d.columns.size - 1]? with
    | some c =>
      if !value.isConstant then .error s!"default value of column [{c.name}] is not constant"
      else if c.generated.isSome then .error "cannot use DEFAULT on a generated column"
      else .ok (d.modifyLast fun c => { c with default := some value, hasDefault := true })
    | none => .ok d

def Draft.setGenerated (d : Draft) (e : Expr) (kind : Option Token) : Except String Draft :=
  if !d.live then .ok d
  else match d.columns[d.columns.size - 1]? with
    | some c => do
      let err := s!"error in generated column \"{c.name}\""
      if c.hasDefault then throw err
      let stored ← match kind with
        | none => pure false
        | some k =>
          if k.raw.length = 7 && sameName k.raw "virtual" then pure false
          else if k.raw.length = 6 && sameName k.raw "stored" then pure true
          else throw err
      -- a bare name is computed as an expression of it, `+name`
      let e := match e with
        | .column [] n quoted => .unary .plus (.column [] n quoted)
        | e => e
      let d := d.modifyLast fun c => { c with generated := some stored, expression := some e }
      if c.inKey then throw "generated columns cannot be part of the PRIMARY KEY"
      return d
    | none => .ok d

def keyColumns (columns : List (Nat × String)) : List Nat :=
  let kept := columns.foldl (fun acc (i, coll) =>
    if acc.any (fun (j, c) => i = j && sameName c coll) then acc else acc ++ [(i, coll)]) []
  kept.map (·.1)

def TableDecl.schemaColumns (t : TableDecl) : List Column :=
  t.columns.map fun c =>
    { name := c.name, affinity := c.affinity,
      collation := Collation.ofName (c.collation.getD "BINARY"), generated := c.generated.isSome }

def TableDecl.ownScope (t : TableDecl) (rowids : Bool) : Scope :=
  { frames := [⟨t.name, t.schemaColumns, t.key.isNone⟩], rowids := rowids }

def TableDecl.resolved (t : TableDecl) : Except String TableDecl :=
  let generated := t.columns.filterMap (·.expression)
  if !generated.isEmpty && t.columns.all (·.generated.isSome) then
    .error "must have at least one non-generated column"
  else match (Checker.at (t.ownScope false) .generated true).checkEach generated with
    | some e => .error e.message
    | none => .ok t

/-- The checks of a complete declaration: a strict table's types must be standard, and a table
without row ids must have a primary key and no autoincrement. In a strict table a column of type
`ANY` keeps what it is given. -/
def Draft.finish (d : Draft) (withoutRowid strict : Bool) : Except String TableDecl := do
  let columns := d.columns.toList
  if strict then
    for c in columns do
      match c.type with
      | none => throw s!"missing datatype for {d.name}.{c.name}"
      | some t =>
        if (standardType? t).isNone then
          throw s!"unknown datatype for {d.name}.{c.name}: \"{dequote t}\""
  if withoutRowid then
    if d.autoincrement then throw "AUTOINCREMENT not allowed on WITHOUT ROWID tables"
    if !d.hasPrimaryKey then throw s!"PRIMARY KEY missing on table {d.name}"
  let columns := if strict then columns.map fun c =>
      if (c.type.bind standardType?) = some .any then { c with type := some "BLOB" } else c
    else columns
  if withoutRowid then
    let keyName := (d.rowidColumn?.bind (columns[·]?)).map (·.name)
    let plain : Draft := { d with rowidColumn? := none }
    let d ← match keyName with
      | some n =>
        plain.addIndex [.column ⟨.word, n, ""⟩ none d.rowidDescending] true d.rowidConflict
      | none => pure plain
    let key := match d.indexes.find? (·.primary) with
      | some k => keyColumns k.columns
      | none => []
    let decl : TableDecl := ⟨d.name, columns, none, d.indexes, some key⟩
    return ← decl.resolved
  let decl : TableDecl := ⟨d.name, columns, d.rowidColumn?, d.indexes, none⟩
  decl.resolved

/-- Where a column's value lies in a stored record: a table with row ids stores its columns in
order, a table without them its key columns first and then the rest in order. A column that is
computed is not stored. -/
def TableDecl.storageIndex? (t : TableDecl) (i : Nat) : Option Nat :=
  match t.columns[i]? with
  | none => none
  | some c =>
    if c.isVirtual then none
    else
      let stored := (List.range t.columns.length).filter fun j =>
        match t.columns[j]? with
        | some c => !c.isVirtual
        | none => false
      match t.key with
      | none => stored.idxOf? i
      | some key => (key ++ stored.filter (!key.contains ·)).idxOf? i

end ChatArchive.Store.File
