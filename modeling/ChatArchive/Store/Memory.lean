import ChatArchive.Store.Basic

namespace ChatArchive.Store

/-- Chats, newest first, and records with the folded id they are filed under, oldest first. -/
structure Memory where
  chats : List Chat
  records : List (String × Record)

namespace Memory

def empty : Memory := ⟨[], []⟩

def addChat (s : Memory) (id : String) (topic : Option String) : Memory :=
  { s with chats := ⟨id, topic⟩ :: s.chats }

def addRecord (s : Memory) (chatId : String) (r : Record) : Memory :=
  { s with records := s.records ++ [(foldAscii chatId, r)] }

def listChats (s : Memory) : List Chat := s.chats

def chatExists (s : Memory) (id : String) : Bool := s.chats.any fun c => sameIgnoringAsciiCase c.id id

/-- The records filed under this id, ignoring ASCII case, stably sorted by creation time. -/
def chatRecords (s : Memory) (id : String) : List Record :=
  ((s.records.filter fun e => e.1 == foldAscii id).map Prod.snd).mergeSort
    fun a b => a.createdAt.toInt ≤ b.createdAt.toInt

instance : Source Memory where
  listChats s := .ok s.listChats
  chatExists s id := .ok (s.chatExists id)
  chatRecords s id := .ok (s.chatRecords id)

end Memory

end ChatArchive.Store
