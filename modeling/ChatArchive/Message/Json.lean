import ChatArchive.Message.Node
import ChatArchive.Clock.Text

namespace ChatArchive.Message

open ChatArchive.Json ChatArchive.Clock

def optMember (key : String) : Option String → List (String × Doc)
  | some s => [(key, .str s)]
  | none => []

def Call.toDoc (c : Call) : Doc := .obj [("name", .str c.name), ("arguments", .obj c.arguments)]

def Invocation.members (r : Invocation) : List (String × Doc) :=
  optMember "content" r.content ++
    [("calls", .arr (r.calls.map Call.toDoc)),
     ("results", .arr (r.results.map fun v => .obj [("value", v.toDoc)]))]

def Invocation.toDoc (r : Invocation) : Doc := .obj r.members

/-- A span; empty lists are left out. -/
def Span.toDoc (s : Span) : Doc :=
  .obj (optMember "content" s.content ++ optMember "reasoning" s.reasoning ++
    (if s.invocations.isEmpty then [] else
      [("function_calls", .arr (s.invocations.map Invocation.toDoc))]) ++
    (if s.unrecognized.isEmpty then [] else
      [("unrecognized", .arr (s.unrecognized.map Value.toDoc))]))

def stampMember (key : String) : Option Zoned → List (String × Doc)
  | some z => [(key, .str z.stamp)]
  | none => []

def Usage.toDoc (u : Usage) : Doc :=
  .obj [("input", .int u.input), ("output", .int u.output), ("total", .num u.total)]

def Reply.members (r : Reply) : List (String × Doc) :=
  [("spans", .arr (r.spans.map Span.toDoc))] ++ stampMember "created_at" r.createdAt ++
    stampMember "finished_at" r.finishedAt ++ [("usage", r.usage.toDoc)]

def Node.toDoc : Node → Doc
  | .system t => .obj [("type", .str "system"), ("text", .str t)]
  | .assistant r => .obj (("type", .str "assistant") :: r.members)
  | .user p => .obj [("type", .str "user"), ("prompt", .str p)]
  | .action c => .obj [("type", .str "action"), ("content", .str c)]
  | .invocation r => .obj (("type", .str "function_call") :: r.members)
  | .unrecognized k b => .obj [("type", .str "unrecognized"), ("kind", .str k.key), ("body", b.toDoc)]
  | .unknownTag t b => .obj [("type", .str "unknown_tag"), ("tag", .int t), ("body", b.toDoc)]
  | .unknownShape v => .obj [("type", .str "unknown_shape"), ("value", v.toDoc)]

end ChatArchive.Message
