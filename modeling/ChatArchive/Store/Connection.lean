import ChatArchive.Store.File
import ChatArchive.Store.Plan
import ChatArchive.Store.Basic
/-!
The chat store over a database. Its three queries:

* chats: rows of `Chats` with `IsDeleted = 0`, newest `CreatedAt` first, read as `(Id, Topic)`;
* existence: a row of `Chats` whose `Id` equals the id up to ASCII case, with `IsDeleted = 0`;
* records: rows of `Nodes` whose `ChatContextId` equals the id up to ASCII case (and, when
  deleted records are hidden, with `IsDeleted = 0`), oldest `CreatedAt` first, read as
  `(Id, Payload, Author, CreatedAt)`.

The engine visits the rows in the order of the way its planner chooses (see `Store.Plan`), which
decides the order of rows that tie in `CreatedAt`, and which row's error is met first. Rows are
read in result order and the first cell of a class the reader does not take fails the
query. `Id` must be text; `Topic` and `Author` text or null; `Payload` a blob or null (an empty
payload); `CreatedAt` an integer or null (zero). Text read must be well-formed UTF-8. A column
compared or sorted under a collation the engine does not know fails the query before any row is
read.
-/
namespace ChatArchive.Store

structure Connection where
  db : Database
  hideDeleted : Bool

def Database.ofFile? (path : String) : Option (List UInt8) → Except SqlError Database
  | none => .error (.cannotOpen path)
  | some bytes => Database.ofImage? bytes

namespace Connection

def open? (path : String) (file : Option (List UInt8)) (hideDeleted : Bool) : Except Error Connection :=
  match Database.ofFile? path file with
  | .ok db => .ok ⟨db, hideDeleted⟩
  | .error e => .error (.unopened path e.message)

def decodeText (i : Nat) (bytes : List UInt8) : Except SqlError String :=
  (Wire.Utf8.decode? bytes).mapError fun f => .conversion i "Text" f.message

def readText (i : Nat) (name : String) : Cell → Except SqlError String
  | .text s => decodeText i s
  | c => .error (.columnType i name c.className)

def readOptText (i : Nat) (name : String) : Cell → Except SqlError (Option String)
  | .null => .ok none
  | .text s => some <$> decodeText i s
  | c => .error (.columnType i name c.className)

def readOptBlob (i : Nat) (name : String) : Cell → Except SqlError (Option (List UInt8))
  | .null => .ok none
  | .blob b => .ok (some b)
  | c => .error (.columnType i name c.className)

def readOptInt (i : Nat) (name : String) : Cell → Except SqlError (Option Int)
  | .null => .ok none
  | .integer n => .ok (some n)
  | c => .error (.columnType i name c.className)

def sortOn {α : Type} (enc : TextEncoding) (coll : Collation) (descending : Bool)
    (rows : List (Cell × α)) : List (Cell × α) :=
  rows.mergeSort fun a b =>
    let o := Cell.orderIn enc coll a.1 b.1
    if descending then o != .lt else o != .gt

def isZeroIn (c : Column) (v : Cell) : Bool := Cell.sameAs c.affinity c.collation v (.integer 0)

def liveTerm (i : Nat) (c : Column) : Term :=
  ⟨.binary .eq (.column [] "IsDeleted" false) (.integer "0"), i, c.collation.name, 10, isZeroIn c⟩

def matchesIn (c : Column) (id : String) (v : Cell) : Bool :=
  Cell.sameAs c.affinity .nocase v (Cell.ofString id)

def idTerm (name : String) (i : Nat) (c : Column) (id : String) : Term :=
  ⟨.binary .eq (.column [] name false) (.collate .parameter "NOCASE"), i, "NOCASE", 20,
    matchesIn c id⟩

def chatsSql : String :=
  "SELECT Id, Topic FROM Chats WHERE IsDeleted = 0 ORDER BY CreatedAt DESC"

def existsSql : String :=
  "SELECT COUNT(*) FROM Chats WHERE Id = ?1 COLLATE NOCASE AND IsDeleted = 0"

def recordsSql (hideDeleted : Bool) : String :=
  "SELECT Id, Payload, Author, CreatedAt FROM Nodes WHERE ChatContextId = ?1 COLLATE NOCASE" ++
    (if hideDeleted then " AND IsDeleted = 0" else "") ++ " ORDER BY CreatedAt"

def offsetOf (sql name : String) : Nat :=
  let rec go : Nat → List File.Token → Nat
    | here, t :: rest =>
      let start := here + t.lead.utf8ByteSize
      if t.kind = .word && Table.sameName t.raw name then start
      else go (start + t.raw.utf8ByteSize) rest
    | here, [] => here
  go 0 (File.tokenize sql)

def columnIn (sql : String) (t : Table) (name : String) : Except SqlError (Nat × Column) :=
  (t.column? name).mapError fun e => .located e sql (offsetOf sql name)

def lastFault (faults : List SqlError) : Except SqlError Unit :=
  match faults.getLast? with
  | some e => .error e
  | none => .ok ()

def comparedFaults (c : Column) : List SqlError := c.collation.faults ++ c.faults

def sortedFaults (c : Column) : List SqlError := c.faults ++ c.collation.faults

/-- The live chats, newest first. A row's `IsDeleted` is read first; the rest only of the rows
it keeps. -/
def chats (c : Connection) : Except SqlError (List Chat) := do
  let t ← c.db.relation? "Chats"
  let (iId, id) ← columnIn chatsSql t "Id"
  let (iTopic, topic) ← columnIn chatsSql t "Topic"
  let (iDeleted, deleted) ← columnIn chatsSql t "IsDeleted"
  let (iCreated, created) ← columnIn chatsSql t "CreatedAt"
  if let some e := t.arityError then throw e
  lastFault (comparedFaults deleted ++ id.faults ++ topic.faults ++ sortedFaults created)
  let request : Request :=
    ⟨[liveTerm iDeleted deleted], some ⟨iCreated, true, created.collation.name⟩,
      [iId, iTopic, iDeleted, iCreated], 2⟩
  let rows ← (t.visiting c.db.encoding request).scan fun r => do
    if !isZeroIn deleted (← r.read iDeleted) then return none
    return some (← r.read iCreated, ← r.read iId, ← r.read iTopic)
  (sortOn c.db.encoding created.collation true rows).mapM fun (_, id, topic) => do
    let id ← readText 0 "Id" id
    let topic ← readOptText 1 "Topic" topic
    return ⟨id, topic⟩

/-- Whether a live chat has this id. A row's `IsDeleted` is read only when its `Id` matches. -/
def exists? (c : Connection) (id : String) : Except SqlError Bool := do
  let t ← c.db.relation? "Chats"
  let (iId, idColumn) ← columnIn existsSql t "Id"
  let (iDeleted, deleted) ← columnIn existsSql t "IsDeleted"
  if let some e := t.arityError then throw e
  lastFault (idColumn.faults ++ comparedFaults deleted)
  let request : Request :=
    ⟨[idTerm "Id" iId idColumn id, liveTerm iDeleted deleted], none, [iId, iDeleted], 1⟩
  let found ← (t.visiting c.db.encoding request).scan fun r => do
    if !matchesIn idColumn id (← r.read iId) then return none
    if !isZeroIn deleted (← r.read iDeleted) then return none
    return some ()
  return !found.isEmpty

/-- The records of a chat, oldest first. A row's `ChatContextId` is read first, then its
`IsDeleted` when deleted records are hidden, and the rest only of the rows kept. -/
def records (c : Connection) (id : String) : Except SqlError (List Record) := do
  let sql := recordsSql c.hideDeleted
  let t ← c.db.relation? "Nodes"
  let (iId, rid) ← columnIn sql t "Id"
  let (iPayload, payload) ← columnIn sql t "Payload"
  let (iAuthor, author) ← columnIn sql t "Author"
  let (iCreated, created) ← columnIn sql t "CreatedAt"
  let (iChat, chat) ← columnIn sql t "ChatContextId"
  let live ← if c.hideDeleted then (columnIn sql t "IsDeleted").map some else pure none
  if let some e := t.arityError then throw e
  let liveFaults := match live with
    | some (_, deleted) => comparedFaults deleted
    | none => []
  lastFault (chat.faults ++ liveFaults ++ rid.faults ++ payload.faults ++ author.faults ++
    sortedFaults created)
  let liveTerms := match live with
    | some (iDeleted, deleted) => [liveTerm iDeleted deleted]
    | none => []
  let liveColumns := match live with
    | some (iDeleted, _) => [iDeleted]
    | none => []
  let request : Request :=
    ⟨idTerm "ChatContextId" iChat chat id :: liveTerms,
      some ⟨iCreated, false, created.collation.name⟩,
      [iChat, iId, iPayload, iAuthor, iCreated] ++ liveColumns, 4⟩
  let rows ← (t.visiting c.db.encoding request).scan fun r => do
    if !matchesIn chat id (← r.read iChat) then return none
    if let some (iDeleted, deleted) := live then
      if !isZeroIn deleted (← r.read iDeleted) then return none
    return some (← r.read iCreated, ← r.read iId, ← r.read iPayload, ← r.read iAuthor)
  (sortOn c.db.encoding created.collation false rows).mapM fun (createdAt, rid, payload, author) => do
    let rid ← readText 0 "Id" rid
    let payload ← readOptBlob 1 "Payload" payload
    let author ← readOptText 2 "Author" author
    let createdAt ← readOptInt 3 "CreatedAt" createdAt
    return ⟨rid, payload.getD [], author, Int64.ofInt (createdAt.getD 0)⟩

def asQuery {α : Type} : Except SqlError α → Except Error α
  | .ok a => .ok a
  | .error e => .error (.query e.message)

instance : Source Connection where
  listChats c := asQuery c.chats
  chatExists c id := asQuery (c.exists? id)
  chatRecords c id := asQuery (c.records id)

end Connection

end ChatArchive.Store
