import ChatArchive.Clock.Ticks
/-!
What a chat store holds and answers. A store lists chats (newest first), tells whether a chat
exists, matching ids without regard to ASCII case, and gives the records of a chat in order of
creation. A record carries an id, its raw payload, an optional author and its creation time in
ticks.
-/
namespace ChatArchive.Store

structure Chat where
  id : String
  topic : Option String
  deriving DecidableEq, Repr

structure Record where
  id : String
  payload : List UInt8
  author : Option String
  createdAt : Int64
  deriving DecidableEq, Repr

inductive Error where
  | unopened (path : String) (reason : String)
  | chatNotFound (id : String)
  | query (reason : String)
  deriving DecidableEq, Repr

def Error.message : Error → String
  | .unopened path reason => s!"cannot open database {path}: {reason}"
  | .chatNotFound id => s!"Chat '{id}' not found"
  | .query reason => s!"query failed: {reason}"

/-- Read access to chats and their records. -/
class Source (σ : Type) where
  listChats : σ → Except Error (List Chat)
  chatExists : σ → String → Except Error Bool
  chatRecords : σ → String → Except Error (List Record)

def foldAscii (s : String) : String := s.map Char.toLower

def sameIgnoringAsciiCase (a b : String) : Bool := foldAscii a == foldAscii b

end ChatArchive.Store
