import ChatArchive.Message.Node
import ChatArchive.Clock.Text
import ChatArchive.Json.Print

namespace ChatArchive.Message

open ChatArchive.Numeral ChatArchive.Json ChatArchive.Clock

/-- Numbers in report lines: all digits, never an exponent, no `.0` on integral values,
`NaN` and `inf`, a tie going up. -/
def countLayout : Layout := ⟨none, none, false, false, .up, "NaN", "inf"⟩

def line (label text : String) : String := label ++ ": " ++ text ++ "\n"

def optLine (label : String) : Option String → String
  | some t => line label t
  | none => ""

def Invocation.text (r : Invocation) : String :=
  optLine "Tool content" r.content ++
    String.join (r.calls.map fun c =>
      line "Tool call" c.name ++ line "Arguments" ((Doc.obj c.arguments).pretty 0)) ++
    String.join (r.results.map fun v => line "Tool result" v.displayText)

def Span.text (s : Span) : String :=
  optLine "Assistant" s.content ++ optLine "Reasoning" s.reasoning ++
    String.join (s.invocations.map Invocation.text) ++
    String.join (s.unrecognized.map fun v => line "Unknown format" v.display)

/-- The lines of a reply: spans, times, and the counters unless all are zero. -/
def Reply.text (r : Reply) : String :=
  String.join (r.spans.map Span.text) ++
    optLine "Started" (r.createdAt.map Zoned.report) ++
    optLine "Finished" (r.finishedAt.map Zoned.report) ++
    (if r.usage.isEmpty then ""
     else s!"Tokens: input {r.usage.input}, output {r.usage.output}, total " ++
       countLayout.render r.usage.total ++ "\n")

def Node.text : Node → String
  | .system t => line "System" t
  | .user p => line "User" p
  | .action c => line "Action" c
  | .assistant r => r.text
  | .invocation r => r.text
  | .unrecognized k b => line k.name b.display
  | .unknownTag t b => line s!"Unknown tag {t}" b.display
  | .unknownShape v => line "Unknown format" v.display

end ChatArchive.Message
