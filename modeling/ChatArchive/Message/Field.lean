import ChatArchive.Value
/-!
The fields of chat records. A record is written either as a map keyed by field index, fields
equal to their default left out, or as an array with the field at its index and nil where no
field is set. Each field has its index, the name its producer gives it, and a default used when
it is missing.
-/
namespace ChatArchive.Message

open ChatArchive.Numeral

inductive Default where
  | text
  | list
  | map
  | zero
  | floatZero
  | absent
  deriving DecidableEq, Repr

def Default.value : Default → Value
  | .text => .str ""
  | .list => .arr []
  | .map => .map []
  | .zero => .int 0
  | .floatZero => .float (Double.zero false)
  | .absent => .nil

inductive Field where
  | systemText
  | userPrompt
  | actionContent
  | assistantCreatedAt
  | assistantFinishedAt
  | assistantSpans
  | assistantInputTokens
  | assistantOutputTokens
  | assistantTotalTokens
  | spanContent
  | spanFunctionCalls
  | spanReasoning
  | functionCallContent
  | functionCallCalls
  | functionCallResults
  | callName
  | callArguments
  | resultValue
  deriving DecidableEq, Repr

structure Field.Spec where
  index : Nat
  name : String
  default : Default

namespace Field

/-- The field table. -/
def spec : Field → Spec
  | .systemText => ⟨0, "SystemPrompt", .text⟩
  | .userPrompt => ⟨0, "UserPrompt", .text⟩
  | .actionContent => ⟨2, "Content", .text⟩
  | .assistantCreatedAt => ⟨2, "CreatedAt", .absent⟩
  | .assistantFinishedAt => ⟨3, "FinishedAt", .absent⟩
  | .assistantSpans => ⟨5, "Spans", .list⟩
  | .assistantInputTokens => ⟨6, "InputTokenCount", .zero⟩
  | .assistantOutputTokens => ⟨7, "OutputTokenCount", .zero⟩
  | .assistantTotalTokens => ⟨8, "TotalTokenCount", .floatZero⟩
  | .spanContent => ⟨0, "Content", .text⟩
  | .spanFunctionCalls => ⟨1, "FunctionCalls", .list⟩
  | .spanReasoning => ⟨4, "ReasoningOutput", .text⟩
  | .functionCallContent => ⟨3, "Content", .text⟩
  | .functionCallCalls => ⟨6, "Calls", .list⟩
  | .functionCallResults => ⟨7, "Results", .list⟩
  | .callName => ⟨0, "Name", .text⟩
  | .callArguments => ⟨1, "Arguments", .map⟩
  | .resultValue => ⟨0, "Result", .text⟩

def index (f : Field) : Nat := f.spec.index

def default (f : Field) : Value := f.spec.default.value

end Field

/-- The least length of an assistant body written as an array: the spans sit at position 5. -/
def assistantMinLength : Nat := 6

end ChatArchive.Message
