import ChatArchive.Payload
import ChatArchive.Store.Basic

namespace ChatArchive

open ChatArchive.Json ChatArchive.Clock ChatArchive.Store ChatArchive.Payload

inductive Problem where
  | store (e : Store.Error)
  | config (reason : String)
  deriving DecidableEq, Repr

def Problem.message : Problem → String
  | .store e => "Store error: " ++ e.message
  | .config reason => "Configuration error: " ++ reason

namespace Inspect

structure Report where
  id : String
  author : Option String
  createdAt : Int64
  time : Option Instant
  payloadLength : Nat
  decoded : Outcome

def Report.ofRecord (r : Record) : Report :=
  ⟨r.id, r.author, r.createdAt, Instant.ofTicks? r.createdAt, r.payload.length,
    decodePayload r.payload⟩

structure Transcript where
  chatId : String
  records : List Report

def Transcript.failures (t : Transcript) : List Report :=
  t.records.filter fun r => !r.decoded.isComplete

/-- Decode every record of a chat, or say that there is no such chat. -/
def inspectChat {σ : Type} [Source σ] (s : σ) (chatId : String) : Except Problem Transcript :=
  match Source.chatExists s chatId with
  | .error e => .error (.store e)
  | .ok false => .error (.store (.chatNotFound chatId))
  | .ok true =>
    match Source.chatRecords s chatId with
    | .error e => .error (.store e)
    | .ok records => .ok ⟨chatId, records.map Report.ofRecord⟩

def Report.toDoc (r : Report) : Doc :=
  .obj ([("id", .str r.id), ("author", Doc.optStr r.author), ("created_at", .int r.createdAt.toInt),
    ("time", match r.time with
      | some t => .str (Zoned.utc t).stamp
      | none => .null),
    ("payload_length", .int r.payloadLength)] ++ r.decoded.members)

def Transcript.toDoc (t : Transcript) : Doc :=
  .obj [("chat_id", .str t.chatId), ("records", .arr (t.records.map Report.toDoc))]

def rule (c : Char) (n : Nat) : String := String.ofList (List.replicate n c)

/-- The text of one record: header, author, time, then the payload's lines. -/
def Report.text (r : Report) : String :=
  s!"\n--- Node {r.id} ---\n" ++ "Author: " ++ r.author.getD "Unknown" ++ "\n" ++
    "Time: " ++ ticksText r.createdAt ++ "\n" ++ rule '-' 30 ++ "\n" ++ r.decoded.text

def Transcript.text (t : Transcript) : String :=
  "\nChat History for ID: " ++ t.chatId ++ "\n" ++ rule '=' 50 ++ "\n" ++
    String.join (t.records.map Report.text)

def chatDoc (c : Chat) : Doc := .obj [("id", .str c.id), ("topic", Doc.optStr c.topic)]

def chatListText (chats : List Chat) : String :=
  "Available Chat IDs:\n" ++ rule '=' 50 ++ "\n" ++
    String.join (chats.map fun c =>
      "ID: " ++ c.id ++ "\nTopic: " ++
        (match c.topic with
          | some t => if t.isEmpty then "No Topic" else t
          | none => "No Topic") ++ "\n" ++ rule '-' 30 ++ "\n")

end Inspect

end ChatArchive
