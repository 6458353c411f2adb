import ChatArchive.Message.Node
import ChatArchive.Message.Record
/-!
From values to chat nodes. A message is a two-element array whose first element is an integer in
the signed 64-bit range, its tag, and whose second is its body. The tag alone picks the kind; the
body's shape then decides between the node of that kind and `unrecognized`:

* system and user bodies may be text, a map or an array (the text is field 0);
* an action body must be a map;
* an assistant body must be a map, or an array of at least six elements;
* a function-call body must be a map or an array.

Inside an assistant reply every span entry that is no map or array is kept as unrecognized, and a
nested entry of a span is a tool invocation only when it is a `[4, body]` pair with a map or
array body.
-/
namespace ChatArchive

open ChatArchive.Json ChatArchive.Message

namespace Value

def tagged? : Value → Option (Int × Value)
  | .arr [t, body] => t.asI64?.map fun tag => (tag, body)
  | _ => none

end Value

namespace Message

/-- Call arguments as JSON members: a map by key text, the last value of a key winning; nil
as no members; anything else under the single key `value`. -/
def arguments : Value → List (String × Doc)
  | .map es => Doc.collect (es.map fun e => (e.1.text, e.2.toDoc))
  | .nil => []
  | v => [("value", v.toDoc)]

def call (entry : Value) : Call :=
  ⟨entry.text .callName, arguments (entry.get .callArguments)⟩

/-- A result entry: field 0 of a map or array, or the entry itself. -/
def result (entry : Value) : Value :=
  if entry.isRecord then entry.get .resultValue else entry

def invocation? (body : Value) : Option Invocation :=
  if body.isRecord then
    some ⟨body.optionalText .functionCallContent,
      (body.items .functionCallCalls).map call,
      (body.items .functionCallResults).map result⟩
  else none

def nestedInvocation? (entry : Value) : Option Invocation :=
  match entry.tagged? with
  | some (4, body) => invocation? body
  | _ => none

def sortNested : List Value → List Invocation × List Value
  | [] => ([], [])
  | e :: rest =>
    let (invs, others) := sortNested rest
    match nestedInvocation? e with
    | some inv => (inv :: invs, others)
    | none => (invs, e :: others)

def span (entry : Value) : Span :=
  if entry.isRecord then
    let (invs, others) := sortNested (entry.items .spanFunctionCalls)
    ⟨entry.optionalText .spanContent, entry.optionalText .spanReasoning, invs, others⟩
  else ⟨none, none, [], [entry]⟩

/-- An assistant body, when it is a map or an array of at least six elements. -/
def reply? (body : Value) : Option Reply :=
  match body with
  | .map _ | .arr _ =>
    if body.shape = .sequence ∧ body.size < assistantMinLength then none
    else
      some ⟨(body.items .assistantSpans).map span,
        body.dateTime .assistantCreatedAt, body.dateTime .assistantFinishedAt,
        ⟨body.integer .assistantInputTokens, body.integer .assistantOutputTokens,
          body.number .assistantTotalTokens⟩⟩
  | _ => none

def promptText? (body : Value) (f : Field) : Option String :=
  match body with
  | .str s => some s
  | _ => if body.isRecord then some (body.text f) else none

def ofKind? (kind : Kind) (body : Value) : Option Node :=
  match kind with
  | .system => (promptText? body .systemText).map .system
  | .user => (promptText? body .userPrompt).map .user
  | .action => if body.shape = .mapping then some (.action (body.text .actionContent)) else none
  | .assistant => (reply? body).map .assistant
  | .functionCall => (invocation? body).map .invocation

def decodeVariant (tag : Int) (body : Value) : Node :=
  match Kind.ofTag? tag with
  | none => .unknownTag tag body
  | some kind => (ofKind? kind body).getD (.unrecognized kind body)

/-- The node of a top-level value. -/
def decode (v : Value) : Node :=
  match v.tagged? with
  | some (tag, body) => decodeVariant tag body
  | none => .unknownShape v

end Message

end ChatArchive
