import ChatArchive.Store.File.Record
import ChatArchive.Store.File.Statement
import ChatArchive.Store.View
import ChatArchive.Store.Statistics
import ChatArchive.Wire.Utf8
/-!
A database read from the bytes of its file. The schema table on page 1 lists what the database
holds, in row id order; each entry's five values (type, name, table name, root page, statement)
are read as text that ends at its first zero character, and the entry as the engine's loader
reads it:

* an entry without a root page is malformed;
* an entry whose statement starts with `cr` is a declaration; its root page must be a page
  number of the file, and its statement must read (see `Statement.read`);
* any other entry with a statement is malformed, and one without (an automatic index) must name
  an index a declaration made, with a root page of its own between 2 and the last page.

The first malformed entry names the fault; a damaged schema tree that is met before any is
corrupt. A table's rows are found when the database opens, and their values are read only when
a query asks for them.
-/
namespace ChatArchive.Store

open ChatArchive.Store.File

namespace File

def entryText? : Cell → Option String
  | .null => none
  | .integer n => some (toString n)
  | .real x => some (realText x)
  | .text b | .blob b => some (Wire.Utf8.decodeLossy (b.takeWhile (· != 0)))

/-- A root page number as the loader reads it: decimal digits only, at most `2 ^ 32`, which
wraps to zero. -/
def rootPage? (s : String) : Option Nat :=
  let cs := s.toList
  if cs.isEmpty || !cs.all Char.isDigit then none
  else
    let n := cs.foldl (fun acc c => acc * 10 + (c.toNat - 48)) 0
    if n ≤ Nat.pow 2 32 then some (n % Nat.pow 2 32) else none

def declares (sql : String) : Bool :=
  match sql.toList with
  | c :: r :: _ => c.toLower = 'c' && r.toLower = 'r'
  | _ => false

structure IndexEntry where
  name : String
  table : String
  root : Nat

/-- What the schema holds as its entries are read: tables with their root pages, views, other
named objects, indexes, and the index statements read, each naming its table as the table
does. -/
structure Loaded where
  tables : List (TableDecl × Nat) := []
  views : List View := []
  others : List String := []
  indexes : List IndexEntry := []
  declared : List IndexDecl := []

def Loaded.context (l : Loaded) (type name table : Option String) (root : Nat) : Context :=
  ⟨type, name, table, root, l.tables.map (·.1.name), l.views.map (·.name), l.others,
    l.indexes.map (·.name)⟩

def Loaded.addTable (l : Loaded) (t : TableDecl) (root : Nat) : Loaded :=
  { l with
    tables := l.tables ++ [(t, root)]
    indexes := l.indexes ++ t.indexes.map fun k =>
      ⟨k.name, t.name, if t.key.isSome && k.primary then root else 0⟩ }

def Loaded.sharesRoot (l : Loaded) (table name : String) (page : Nat) : Bool :=
  l.indexes.any fun k => sameName k.table table && !sameName k.name name && k.root = page

def Loaded.addIndex (l : Loaded) (type entry table : Option String) (page : Nat) (d : IndexDecl) :
    Except String Loaded := do
  if let some order := d.keys.findSome? (·.nulls) then
    throw s!"unsupported use of NULLS {order}"
  if d.qualified then throw "corrupt database"
  let some (t, _) := l.tables.find? (fun (t, _) => sameName t.name d.table)
    | if isSchemaTable d.table then throw "" else
      if l.views.any (sameName ·.name d.table) then throw "views may not be indexed"
      else if l.others.any (sameName · d.table) then throw "virtual tables may not be indexed"
      else throw s!"no such table: main.{d.table}"
  if !(sameAs type "index" && sameAs entry d.name && sameAs table t.name) then throw ""
  if l.indexes.any (sameName ·.name d.name) then
    if d.ifNotExists then return l else throw s!"index {d.name} already exists"
  if d.keys.length > 2000 then throw "too many columns in index"
  if let some c := d.condition then
    if let some e := (Checker.at (t.ownScope t.key.isNone) .indexCondition true).check c then
      throw e.message
  for k in d.keys do
    if let some e := (Checker.at (t.ownScope false) .indexKey true).check k.expr.namingColumn then
      throw e.message
  if l.sharesRoot t.name d.name page then throw "invalid rootpage"
  return { l with indexes := l.indexes ++ [⟨d.name, t.name, page⟩],
                  declared := l.declared ++ [{ d with table := t.name }] }

def Loaded.apply (l : Loaded) (type entry table : Option String) (page : Nat) :
    Statement → Except String Loaded
  | .table (some t) => .ok (l.addTable t page)
  | .table none => .ok l
  | .index d => l.addIndex type entry table page d
  | .view (some v) => .ok { l with views := l.views ++ [v] }
  | .virtualTable (some n) => .ok { l with others := l.others ++ [n] }
  | .view none | .virtualTable none | .trigger => .ok l

def Loaded.placeIndex (l : Loaded) (pageCount : Nat) (name root : String) :
    Except String Loaded :=
  match l.indexes.find? (sameName ·.name name) with
  | none => .error "orphan index"
  | some k =>
    match rootPage? root with
    | some page =>
      if page < 2 || pageCount < page || l.sharesRoot k.table k.name page then
        .error "invalid rootpage"
      else
        let place (j : IndexEntry) : IndexEntry :=
          if sameName j.name k.name then { j with root := page } else j
        .ok { l with indexes := l.indexes.map place }
    | none => .error "invalid rootpage"

/-- Read a schema entry's values into what the schema holds, or the malformed entry's
fault. -/
def Loaded.addEntry (l : Loaded) (pageCount : Nat) (values : List Cell) : Except SqlError Loaded :=
  let text (i : Nat) := entryText? (values.getD i .null)
  let name := text 1
  let malformed {α : Type} (detail : String) : Except SqlError α :=
    .error (.malformedSchema (name.getD "?") detail)
  let placed (root : String) : Except SqlError Loaded :=
    match name with
    | some n => (l.placeIndex pageCount n root).mapError (.malformedSchema n)
    | none => malformed ""
  match text 3, text 4 with
  | none, _ => malformed ""
  | some root, some sql =>
    if declares sql then
      match rootPage? root with
      | some page =>
        if pageCount < page then malformed "invalid rootpage"
        else
          match Statement.read (l.context (text 0) name (text 2) page) sql with
          | .error e => malformed e
          | .ok st => (l.apply (text 0) name (text 2) page st).mapError
              (.malformedSchema (name.getD "?"))
      | none => malformed "invalid rootpage"
    else if name.isNone || !sql.isEmpty then malformed ""
    else placed root
  | some root, none => placed root

def TableDecl.storedColumn (t : TableDecl) (file : ByteArray) (h : Header) (rowid : Int)
    (slot : Slot) (i : Nat) : Except SqlError Cell :=
  if t.rowidColumn? = some i then .ok (.integer rowid)
  else match t.columns[i]?, t.storageIndex? i with
    | some c, some k => do
      let v ← slot.column file h t.key.isNone k
      let v := v.getD ((c.default.bind (defaultValue c.affinity)).getD .null)
      match c.affinity, v with
      | .real, .integer n => return realOfInteger n
      | _, _ => return v
    | _, _ => .ok .null

def computedReal (v : Cell) : Cell :=
  match Affinity.numeric.store v with
  | .integer n => if -Int.pow 2 47 ≤ n && n < Int.pow 2 47 then .integer n else realOfInteger n
  | other => Affinity.real.store other

def TableDecl.readAt (t : TableDecl) (stored : Nat → Except SqlError Cell) (rowid : Int) :
    Nat → Nat → Except SqlError Cell
  | 0, _ => .ok .null
  | fuel + 1, i =>
    match t.columns[i]? with
    | some c =>
      match c.generated, c.expression with
      | some false, some e =>
        let env : Env := ⟨t.ownScope false, fun r => match r with
          | .slot j => t.readAt stored rowid fuel j
          | .rowid _ => .ok (.integer rowid)⟩
        do
          let v ← env.eval e
          if c.affinity = .real then return computedReal v else return c.affinity.store v
      | _, _ => stored i
    | none => .ok .null

def TableDecl.columnFaults (t : TableDecl) (busy : List Nat) : Nat → Nat → List SqlError
  | 0, _ => []
  | fuel + 1, i =>
    match t.columns[i]? with
    | some c =>
      match c.generated, c.expression with
      | some false, some e =>
        if busy.contains i then [.failure s!"generated column loop on \"{c.name}\""]
        else (t.ownScope false).codeFaults (fun r _ => match r with
          | .slot j => t.columnFaults (i :: busy) fuel j
          | .rowid _ => []) false e
      | _, _ => []
    | none => []

def ColumnDecl.width (c : ColumnDecl) : Nat :=
  match c.type with
  | none => 1
  | some t =>
    match standardType? t with
    | some .text | some .blob => 5
    | some _ => 1
    | none => typeWidth (dequote t)

def TableDecl.termWidth (t : TableDecl) : IndexTerm → Nat
  | .column j => (t.columns[j]?.map ColumnDecl.width).getD 1
  | _ => 1

def TableDecl.keyIndexColumns (format : Nat) (k : KeyIndex) : List IndexColumn :=
  k.columns.zipIdx.map fun ((j, coll), i) =>
    { term := .column j, collation := coll, descending := 4 ≤ format && k.descending.getD i false }

def TableDecl.declaredColumn (t : TableDecl) (format : Nat) (k : IndexKey) : IndexColumn :=
  let e := k.expr.namingColumn
  let inner := e.withoutCollation
  let term : IndexTerm := match inner with
    | .column [] n _ =>
      match t.columns.findIdx? (sameName ·.name n) with
      | some j => .column j
      | none => .expression inner
    | _ => .expression inner
  let collation := match e, term with
    | .collate _ c, _ => c
    | _, .column j => ((t.columns[j]?).bind (·.collation)).getD "BINARY"
    | _, _ => "BINARY"
  { term := term, collation := collation, descending := 4 ≤ format && k.descending }

def TableDecl.keyOrder (t : TableDecl) (format : Nat) : List IndexColumn :=
  match t.indexes.find? (·.primary) with
  | some k => dropRepeated (TableDecl.keyIndexColumns format k)
  | none => []

def TableDecl.plannedIndex (t : TableDecl) (format : Nat) (name : String)
    (keys : List IndexColumn) (unique primary explicit : Bool) (condition : Option Expr) : Index :=
  let keys := if primary && t.key.isSome then dropRepeated keys else keys
  let extra : List IndexColumn := match t.key with
    | none => [{ term := .rowid }]
    | some _ =>
      if primary then
        let held := keys.filterMap (·.term.column?)
        ((List.range t.columns.length).filter fun j =>
          !held.contains j && !((t.columns[j]?.map ColumnDecl.isVirtual).getD false)).map
          fun j => { term := .column j }
      else
        (t.keyOrder format).filter (fun p => !keys.any (·.sameAs p)) |>.map fun p =>
          if explicit then p else { p with descending := false }
  let columns := keys ++ extra
  let held := columns.filterMap (·.term.column?)
  { name := name, columns := columns, keyCount := keys.length, unique := unique,
    primary := primary, condition := condition,
    covering := explicit && (List.range t.columns.length).all fun j =>
      t.rowidColumn? = some j || held.contains j,
    holds := held.filter fun j => !((t.columns[j]?.map ColumnDecl.isVirtual).getD false),
    width := logEst (4 * (columns.map fun c => t.termWidth c.term).foldr (· + ·) 0),
    estimates := guessEstimates 200 keys.length unique condition.isSome }

def TableDecl.plannedIndexes (t : TableDecl) (format : Nat) (declared : List IndexDecl) :
    List Index :=
  let own := t.indexes.map fun k =>
    (t.plannedIndex format k.name (TableDecl.keyIndexColumns format k) true k.primary false none,
      k.conflict == some "REPLACE")
  let stated := declared.map fun d =>
    (t.plannedIndex format d.name (d.keys.map (t.declaredColumn format)) d.unique false true
      d.condition, false)
  let newest := (own ++ stated).reverse
  (newest.filter (!·.2)).map (·.1) ++ (newest.filter (·.2)).map (·.1)

def tableOf (file : ByteArray) (h : Header) (declared : List IndexDecl) (t : TableDecl)
    (root : Nat) : Table :=
  let (entries, fault) := h.entries file t.key.isNone root
  let depth := t.columns.length + 1
  let columns := t.schemaColumns.zipIdx.map fun (c, i) =>
    { c with faults := t.columnFaults [] depth i }
  let width := (t.columns.map ColumnDecl.width).foldr (· + ·) 0 + (if t.rowidColumn?.isNone then 1 else 0)
  { name := t.name, columns := columns, fault := fault, hasRowid := t.key.isNone,
    rows := entries.map fun (rowid, slot) =>
      { read := t.readAt (t.storedColumn file h rowid slot) rowid depth,
        rowid := some rowid },
    indexes := t.plannedIndexes h.schemaFormat (declared.filter (sameName ·.table t.name)),
    rowWidth := logEst (4 * width), rowidColumn := t.rowidColumn? }

def statisticsRows (tables : List Table) : List (Option String × Option String × Option String) :=
  match tables.find? (sameName ·.name "sqlite_stat1") with
  | none => []
  | some s =>
    match s.column? "tbl", s.column? "idx", s.column? "stat" with
    | .ok (a, _), .ok (b, _), .ok (c, _) =>
      let read (r : Row) : Except SqlError (Option String × Option String × Option String) := do
        return (entryText? (← r.read a), entryText? (← r.read b), entryText? (← r.read c))
      (s.rows.map read).takeWhile (·.toBool) |>.filterMap fun r => match r with
        | .ok v => some v
        | .error _ => none
    | _, _, _ => []

end File

/-- The database in the bytes of a file: an empty file is an empty database. -/
def Database.ofImage? (bytes : List UInt8) : Except SqlError Database := do
  if bytes.isEmpty then return { tables := [] }
  let file : ByteArray := ⟨bytes.toArray⟩
  let h ← File.Header.read? file
  let (entries, fault) := h.entries file true 1
  let add := fun (l : File.Loaded) ((_, slot) : Int × File.Slot) => do
    let values ← (List.range 5).mapM fun i => (slot.column file h true i).map (·.getD .null)
    l.addEntry h.pageCount values
  let loaded ← entries.foldlM add {}
  if let some e := fault then throw e
  let tables := loaded.tables.map fun (t, root) => File.tableOf file h loaded.declared t root
  let known (name : String) : Bool :=
    File.isSchemaTable name || tables.any (File.sameName ·.name name) ||
      loaded.views.any (File.sameName ·.name name) || loaded.others.any (File.sameName · name)
  let tables := withStatistics known tables (File.statisticsRows tables)
  return { tables := tables, views := loaded.views, encoding := h.encoding }

end ChatArchive.Store
