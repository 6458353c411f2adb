import ChatArchive.Store.Cell
import ChatArchive.Store.Query

namespace ChatArchive.Store

inductive SqlError where
  | cannotOpen (path : String)
  | notADatabase
  | corrupt
  | unsupportedFormat
  | ioError
  | tooBig
  | malformedSchema (name : String) (detail : String)
  | noSuchTable (name : String)
  | noSuchColumn (name : String)
  | noSuchCollation (name : String)
  | columnType (index : Nat) (name : String) (found : String)
  | conversion (index : Nat) (found : String) (detail : String)
  | failure (message : String)
  | located (cause : SqlError) (sql : String) (offset : Nat)
  deriving DecidableEq, Repr

def SqlError.message : SqlError → String
  | .cannotOpen path => s!"unable to open database file: {path}"
  | .notADatabase => "file is not a database"
  | .corrupt => "database disk image is malformed"
  | .unsupportedFormat => "unsupported file format"
  | .ioError => "disk I/O error"
  | .tooBig => "string or blob too big"
  | .malformedSchema name detail =>
    s!"malformed database schema ({name})" ++ (if detail.isEmpty then "" else " - " ++ detail)
  | .noSuchTable name => s!"no such table: {name}"
  | .noSuchColumn name => s!"no such column: {name}"
  | .noSuchCollation name => s!"no such collation sequence: {name}"
  | .columnType i name found => s!"Invalid column type {found} at index: {i}, name: {name}"
  | .conversion i found detail => s!"Conversion error from type {found} at index: {i}, {detail}"
  | .failure message => message
  | .located cause sql offset => s!"{cause.message} in {sql} at offset {offset}"

structure Column where
  name : String
  affinity : Affinity
  collation : Collation := .binary
  faults : List SqlError := []
  generated : Bool := false
  deriving DecidableEq, Repr

/-- A stored row. Its cells are read one column at a time, and reading a column of a damaged
row can fail. -/
structure Row where
  read : Nat → Except SqlError Cell
  rowid : Option Int := none
  live : Except SqlError Bool := .ok true

def Row.ofCells (cells : List Cell) : Row := { read := fun i => .ok (cells.getD i .null) }

inductive IndexTerm where
  | column (i : Nat)
  | expression (e : Expr)
  | rowid
  deriving Repr

structure IndexColumn where
  term : IndexTerm
  collation : String := "BINARY"
  descending : Bool := false
  deriving Repr

/-- An index as the query planner sees it. Its entries are ordered by its key columns and then,
to tell rows apart, by the row id, or for a table without row ids by the columns of the table's
key that the key columns leave out; `columns` lists the key columns and then those.

The estimates are on the planner's scale (see `logEst`): first the number of entries, then for
each prefix of the key the number of entries that share a value of it. They are guesses until
statistics stored in the database replace them; statistics can also mark the index as
unordered (its order is not worth using), forbid skipping its first column, set its entry
width, or reveal that a search by its full key finds as many rows as a scan, which makes the
planner look no further than scanning it. -/
structure Index where
  name : String
  columns : List IndexColumn
  keyCount : Nat
  unique : Bool := false
  primary : Bool := false
  condition : Option Expr := none
  covering : Bool := false
  holds : List Nat := []
  estimates : List Int := []
  width : Int := 0
  hasStatistics : Bool := false
  unordered : Bool := false
  noSkipScan : Bool := false
  lowQuality : Bool := false
  deriving Repr

structure Table where
  name : String
  columns : List Column
  rows : List Row
  fault : Option SqlError := none
  hasRowid : Bool := true
  arityError : Option SqlError := none
  indexes : List Index := []
  rowEstimate : Int := 200
  rowWidth : Int := 0
  rowidColumn : Option Nat := none

def Collation.ofName (name : String) : Collation :=
  let key := name.map Char.toLower
  if key == "binary" then .binary
  else if key == "nocase" then .nocase
  else if key == "rtrim" then .rtrim
  else .unknown name

namespace Table

def chatsColumns : List Column :=
  [{ name := "Id", affinity := .text }, { name := "Topic", affinity := .text },
   { name := "CreatedAt", affinity := .integer }, { name := "IsDeleted", affinity := .integer }]

def nodesColumns : List Column :=
  [{ name := "ChatContextId", affinity := .text }, { name := "Id", affinity := .text },
   { name := "Payload", affinity := .blob }, { name := "Author", affinity := .text },
   { name := "CreatedAt", affinity := .integer }, { name := "IsDeleted", affinity := .integer }]

def storeRow (columns : List Column) (row : List Cell) : Row :=
  Row.ofCells (columns.zipIdx.map fun (c, i) => c.affinity.store (row.getD i .null))

def insert (t : Table) (row : List Cell) : Table :=
  { t with rows := t.rows ++ [storeRow t.columns row] }

def ofRows (name : String) (columns : List Column) (rows : List (List Cell)) : Table :=
  { name := name, columns := columns, rows := rows.map (storeRow columns) }

def sameName (a b : String) : Bool := a.map Char.toLower == b.map Char.toLower

def column? (t : Table) (name : String) : Except SqlError (Nat × Column) :=
  match t.columns.zipIdx.find? (fun (c, _) => sameName c.name name) with
  | some (c, i) => .ok (i, c)
  | none => .error (.noSuchColumn name)

def scan {α : Type} (t : Table) (visit : Row → Except SqlError (Option α)) :
    Except SqlError (List α) := do
  let kept ← t.rows.filterMapM fun r => do if ← r.live then visit r else return none
  match t.fault with
  | some e => throw e
  | none => return kept

end Table

def IndexTerm.column? : IndexTerm → Option Nat
  | .column j => some j
  | _ => none

def IndexColumn.sameAs (a b : IndexColumn) : Bool :=
  a.term.column?.isSome && a.term.column? == b.term.column? && Table.sameName a.collation b.collation

def dropRepeated (cs : List IndexColumn) : List IndexColumn :=
  cs.foldl (fun kept c => if kept.any (·.sameAs c) then kept else kept ++ [c]) []

def Expr.namingColumn : Expr → Expr
  | .string s => .column [] s false
  | .collate (.string s) c => .collate (.column [] s false) c
  | e => e

def Expr.withoutCollation : Expr → Expr
  | .collate e _ => e.withoutCollation
  | e => e

structure Database where
  tables : List Table
  views : List View := []
  encoding : TextEncoding := .utf8

namespace Database

def table? (db : Database) (name : String) : Except SqlError Table :=
  match db.tables.find? (fun t => Table.sameName t.name name) with
  | some t => .ok t
  | none => .error (.noSuchTable name)

/-- A chat database with the chosen tables, filled with the given rows in order. -/
def create (withChats withNodes : Bool) (chats nodes : List (List Cell)) : Database :=
  let chatsTable := Table.ofRows "Chats" Table.chatsColumns chats
  let nodesTable := Table.ofRows "Nodes" Table.nodesColumns nodes
  { tables := (if withChats then [chatsTable] else []) ++ (if withNodes then [nodesTable] else []) }

end Database

end ChatArchive.Store
