import ChatArchive.Proofs.Message.Layout
import Mathlib.Data.List.Forall2
/-!
Chat messages apart from their layout. A logical message sets some fields of its body and of the
records nested in it: the spans of a reply, the tool invocations tagged 4 among a span's nested
entries, and the call and result entries of an invocation. A producer writes each of these
records as a map or as an array, each choice made on its own (`Message.Writes`).

Decoding cannot tell the choices apart, with one exception: a result entry is read raw, so a
result set to nil reads as nil from a map but as the empty text, the field's default, from an
array. Apart from that, every layout of a message decodes to the same node.
-/
namespace ChatArchive.Logical

open ChatArchive.Message (Field Kind Laid assistantMinLength call result invocation? nestedInvocation?
  sortNested span reply? promptText? ofKind? decode)

/-- An element of a list field: a record of the field's kind, or a value kept as it is. -/
inductive Item (α : Type) where
  | record (r : α)
  | verbatim (v : Value)

inductive Listing (α : Type) where
  | items (xs : List (Item α))
  | verbatim (v : Value)

def Listing.records {α : Type} : Listing α → List α
  | .items xs => xs.filterMap fun
    | .record r => some r
    | .verbatim _ => none
  | .verbatim _ => []

structure Result where
  value : Option Value

structure Call where
  name : Option Value
  arguments : Option Value

structure Invocation where
  content : Option Value
  calls : Option (Listing Call)
  results : Option (Listing Result)

structure Span where
  content : Option Value
  functionCalls : Option (Listing Invocation)
  reasoning : Option Value

structure Reply where
  createdAt : Option Value
  finishedAt : Option Value
  spans : Option (Listing Span)
  input : Option Value
  output : Option Value
  total : Option Value

inductive Message where
  | system (text : Option Value)
  | user (text : Option Value)
  | assistant (reply : Reply)
  | functionCall (record : Invocation)

section Writes

variable {α : Type}

def Item.Writes (writes : α → Value → Prop) : Item α → Value → Prop
  | .record r, v => writes r v
  | .verbatim u, v => v = u

def Listing.Writes (writes : α → Value → Prop) : Listing α → Value → Prop
  | .items xs, v => ∃ ws, v = .arr ws ∧ List.Forall₂ (Item.Writes writes) xs ws
  | .verbatim u, v => v = u

def Result.Writes (r : Result) : Value → Prop := Laid [(.resultValue, r.value)] 0

def Call.Writes (c : Call) : Value → Prop :=
  Laid [(.callName, c.name), (.callArguments, c.arguments)] 0

def Invocation.Writes (i : Invocation) (v : Value) : Prop :=
  ∃ calls results, Option.Rel (Listing.Writes Call.Writes) i.calls calls ∧
    Option.Rel (Listing.Writes Result.Writes) i.results results ∧
    Laid [(.functionCallContent, i.content), (.functionCallCalls, calls),
      (.functionCallResults, results)] 0 v

def Invocation.WritesTagged (i : Invocation) (v : Value) : Prop :=
  ∃ body, v = .arr [.int Kind.functionCall.tag, body] ∧ i.Writes body

def Span.Writes (s : Span) (v : Value) : Prop :=
  ∃ calls, Option.Rel (Listing.Writes Invocation.WritesTagged) s.functionCalls calls ∧
    Laid [(.spanContent, s.content), (.spanFunctionCalls, calls), (.spanReasoning, s.reasoning)]
      0 v

def Reply.Writes (r : Reply) (v : Value) : Prop :=
  ∃ spans, Option.Rel (Listing.Writes Span.Writes) r.spans spans ∧
    Laid [(.assistantCreatedAt, r.createdAt), (.assistantFinishedAt, r.finishedAt),
      (.assistantSpans, spans), (.assistantInputTokens, r.input),
      (.assistantOutputTokens, r.output), (.assistantTotalTokens, r.total)] assistantMinLength v

def WritesPrompt (f : Field) (text : Option Value) (v : Value) : Prop :=
  Laid [(f, text)] 0 v ∨ ∃ s, text = some (.str s) ∧ v = .str s

def Message.kind : Message → Kind
  | .system _ => .system
  | .user _ => .user
  | .assistant _ => .assistant
  | .functionCall _ => .functionCall

def Message.WritesBody : Message → Value → Prop
  | .system text => WritesPrompt .systemText text
  | .user text => WritesPrompt .userPrompt text
  | .assistant r => r.Writes
  | .functionCall i => i.Writes

/-- A message written as the pair of its tag and its body. -/
def Message.Writes (m : Message) (v : Value) : Prop :=
  ∃ body, v = .arr [.int m.kind.tag, body] ∧ m.WritesBody body

end Writes

def Result.nilValue (r : Result) : Bool := r.value.any Value.isNil

def Invocation.nilResult (i : Invocation) : Bool :=
  i.results.any fun l => l.records.any Result.nilValue

def Span.nilResult (s : Span) : Bool :=
  s.functionCalls.any fun l => l.records.any Invocation.nilResult

def Reply.nilResult (r : Reply) : Bool := r.spans.any fun l => l.records.any Span.nilResult

def Message.nilResult : Message → Bool
  | .assistant r => r.nilResult
  | .functionCall i => i.nilResult
  | _ => false

section Lists

variable {α β : Type} {W : α → Value → Prop} {R : Value → Value → Prop}

theorem Listing.mem_records {xs : List (Item α)} {r : α} (mem : Item.record r ∈ xs) :
    r ∈ (Listing.items xs).records :=
  List.mem_filterMap.mpr ⟨.record r, mem, rfl⟩

theorem Item.forall₂_alike {xs : List (Item α)} {ws₁ ws₂ : List Value} (refl : ∀ v, R v v)
    (alike : ∀ r, Item.record r ∈ xs → ∀ u v, W r u → W r v → R u v)
    (w₁ : List.Forall₂ (Item.Writes W) xs ws₁) (w₂ : List.Forall₂ (Item.Writes W) xs ws₂) :
    List.Forall₂ R ws₁ ws₂ := by
  induction w₁ generalizing ws₂ with
  | nil =>
    cases w₂
    exact .nil
  | @cons x u xs us head _ ih =>
    cases w₂ with
    | cons head' tail' =>
      refine .cons ?_ (ih (fun r mem => alike r (.tail _ mem)) tail')
      cases x with
      | record r => exact alike r (.head _) u _ head head'
      | verbatim v =>
        simp only [Item.Writes] at head head'
        rw [head, head']
        exact refl v

theorem Listing.items_alike {content : Option (Listing α)} {c₁ c₂ : Option Value} {a b : Value}
    {f : Field} (list_default : f.default = .arr []) (refl : ∀ v, R v v)
    (alike : ∀ l ∈ content, ∀ r ∈ l.records, ∀ u v, W r u → W r v → R u v)
    (r₁ : Option.Rel (Listing.Writes W) content c₁) (r₂ : Option.Rel (Listing.Writes W) content c₂)
    (s₁ : f.settle (a.get f) = f.settle (c₁.getD f.default))
    (s₂ : f.settle (b.get f) = f.settle (c₂.getD f.default)) :
    List.Forall₂ R (a.items f) (b.items f) := by
  have same : f.settle (a.get f) = f.settle (b.get f) → List.Forall₂ R (a.items f) (b.items f) := by
    intro settled
    rw [Message.items_congr list_default settled]
    exact List.forall₂_same.mpr fun v _ => refl v
  -- an unset field or a value kept as it is reads the same in both writings; a listing of
  -- items is an array of their writings on both sides
  cases r₁ with
  | none =>
    cases r₂
    exact same (s₁.trans s₂.symm)
  | @some l v₁ w₁ =>
    cases r₂ with
    | @some _ v₂ w₂ =>
      cases l with
      | items xs =>
        obtain ⟨ws₁, rfl, f₁⟩ := w₁
        obtain ⟨ws₂, rfl, f₂⟩ := w₂
        have arr : ∀ ws : List Value, f.settle (.arr ws) = .arr ws := fun _ => rfl
        rw [Message.items_of_settle list_default (s₁.trans (arr ws₁)),
          Message.items_of_settle list_default (s₂.trans (arr ws₂))]
        exact Item.forall₂_alike refl
          (fun r mem => alike _ rfl r (Listing.mem_records mem)) f₁ f₂
      | verbatim u =>
        simp only [Listing.Writes] at w₁ w₂
        subst w₁ w₂
        exact same (s₁.trans s₂.symm)

theorem map_alike {g : Value → β} {l₁ l₂ : List Value}
    (h : List.Forall₂ (fun u v => g u = g v) l₁ l₂) : l₁.map g = l₂.map g := by
  induction h with
  | nil => rfl
  | cons head _ ih => rw [List.map_cons, List.map_cons, head, ih]

def NestedAlike (u v : Value) : Prop :=
  nestedInvocation? u = nestedInvocation? v ∧ (nestedInvocation? u = none → u = v)

theorem sortNested_alike {l₁ l₂ : List Value} (h : List.Forall₂ NestedAlike l₁ l₂) :
    sortNested l₁ = sortNested l₂ := by
  induction h with
  | nil => rfl
  | @cons u v _ _ head _ ih =>
    obtain ⟨same, kept⟩ := head
    cases found : nestedInvocation? u with
    | some inv => simp [sortNested, ← same, found, ih]
    | none =>
      cases kept found
      simp [sortNested, found, ih]

theorem records_clean {p : α → Bool} {o : Option (Listing α)}
    (h : o.any (fun l => l.records.any p) = false) : ∀ l ∈ o, ∀ r ∈ l.records, p r = false := by
  intro l mem r rec
  cases mem
  simp only [Option.any_some, List.any_eq_false] at h
  simpa using h r rec

end Lists

section Records

variable {a b : Value}

theorem Result.read_alike {r : Result} (clean : r.nilValue = false) (w₁ : r.Writes a)
    (w₂ : r.Writes b) : result a = result b := by
  have distinct : ([(Field.resultValue, r.value)].map (·.1.index)).Nodup := by simp
  -- a result is read raw, so only a value that is not nil reads the same in both layouts
  have settled : Field.resultValue.settle (r.value.getD Field.resultValue.default) =
      r.value.getD Field.resultValue.default := by
    cases value : r.value with
    | none => rfl
    | some v =>
      simp only [nilValue, value, Option.any_some] at clean
      simp [Field.settle, clean]
  rw [Message.result_of_laid w₁, Message.result_of_laid w₂, w₁.get_of_settled distinct (by simp) settled,
    w₂.get_of_settled distinct (by simp) settled]

theorem Call.read_alike {c : Call} (w₁ : c.Writes a) (w₂ : c.Writes b) : call a = call b := by
  have distinct : ([(Field.callName, c.name), (.callArguments, c.arguments)].map
      (·.1.index)).Nodup := by simp [Field.index, Field.spec]
  have name := Message.text_congr rfl (w₁.settle_alike w₂ distinct distinct
    (f := .callName) (o := c.name) (by simp) (by simp))
  have arguments := Message.arguments_congr (w₁.settle_alike w₂ distinct distinct
    (f := .callArguments) (o := c.arguments) (by simp) (by simp))
  simp only [call, name, arguments]

theorem Invocation.read_alike {i : Invocation} (clean : i.nilResult = false) (w₁ : i.Writes a)
    (w₂ : i.Writes b) : invocation? a = invocation? b := by
  obtain ⟨calls₁, results₁, rc₁, rr₁, l₁⟩ := w₁
  obtain ⟨calls₂, results₂, rc₂, rr₂, l₂⟩ := w₂
  have distinct : ∀ calls results, ([(Field.functionCallContent, i.content),
      (.functionCallCalls, calls), (.functionCallResults, results)].map (·.1.index)).Nodup := by
    intro calls results
    simp [Field.index, Field.spec]
  have content := Message.optionalText_congr rfl (l₁.settle_alike l₂ (distinct _ _)
    (distinct _ _) (f := .functionCallContent) (o := i.content) (by simp) (by simp))
  have calls := Listing.items_alike (W := Call.Writes) (R := fun u v => call u = call v)
    (f := .functionCallCalls) rfl (fun _ => rfl) (fun _ _ _ _ _ _ => Call.read_alike) rc₁ rc₂
    (l₁.settle_get (distinct _ _) (o := calls₁) (by simp))
    (l₂.settle_get (distinct _ _) (o := calls₂) (by simp))
  have results := Listing.items_alike (W := Result.Writes) (R := fun u v => result u = result v)
    (f := .functionCallResults) rfl (fun _ => rfl)
    (fun l mem r rec _ _ => Result.read_alike (records_clean clean l mem r rec)) rr₁ rr₂
    (l₁.settle_get (distinct _ _) (o := results₁) (by simp))
    (l₂.settle_get (distinct _ _) (o := results₂) (by simp))
  rw [Message.invocation?_of_laid l₁, Message.invocation?_of_laid l₂, content, map_alike calls,
    map_alike results]

theorem Invocation.tagged_alike {i : Invocation} (clean : i.nilResult = false)
    (w₁ : i.WritesTagged a) (w₂ : i.WritesTagged b) : NestedAlike a b := by
  obtain ⟨body₁, rfl, h₁⟩ := w₁
  obtain ⟨body₂, rfl, h₂⟩ := w₂
  have unwrap : ∀ body, nestedInvocation? (.arr [.int Kind.functionCall.tag, body]) =
      invocation? body := fun _ => rfl
  refine ⟨by rw [unwrap, unwrap, read_alike clean h₁ h₂], ?_⟩
  obtain ⟨calls, results, -, -, laid⟩ := h₁
  rw [unwrap, Message.invocation?_of_laid laid]
  intro found
  cases found

theorem Span.read_alike {s : Span} (clean : s.nilResult = false) (w₁ : s.Writes a)
    (w₂ : s.Writes b) : span a = span b := by
  obtain ⟨calls₁, rc₁, l₁⟩ := w₁
  obtain ⟨calls₂, rc₂, l₂⟩ := w₂
  have distinct : ∀ calls, ([(Field.spanContent, s.content), (.spanFunctionCalls, calls),
      (.spanReasoning, s.reasoning)].map (·.1.index)).Nodup := by
    intro calls
    simp [Field.index, Field.spec]
  have content := Message.optionalText_congr rfl (l₁.settle_alike l₂ (distinct _) (distinct _)
    (f := .spanContent) (o := s.content) (by simp) (by simp))
  have reasoning := Message.optionalText_congr rfl (l₁.settle_alike l₂ (distinct _) (distinct _)
    (f := .spanReasoning) (o := s.reasoning) (by simp) (by simp))
  have nested := Listing.items_alike (W := Invocation.WritesTagged) (R := NestedAlike)
    (f := .spanFunctionCalls) rfl (fun _ => ⟨rfl, fun _ => rfl⟩)
    (fun l mem r rec _ _ => Invocation.tagged_alike (records_clean clean l mem r rec)) rc₁ rc₂
    (l₁.settle_get (distinct _) (o := calls₁) (by simp))
    (l₂.settle_get (distinct _) (o := calls₂) (by simp))
  rw [Message.span_of_laid l₁, Message.span_of_laid l₂, content, reasoning,
    sortNested_alike nested]

theorem Reply.read_alike {r : Reply} (clean : r.nilResult = false) (w₁ : r.Writes a)
    (w₂ : r.Writes b) : reply? a = reply? b := by
  obtain ⟨spans₁, rs₁, l₁⟩ := w₁
  obtain ⟨spans₂, rs₂, l₂⟩ := w₂
  have distinct : ∀ spans, ([(Field.assistantCreatedAt, r.createdAt),
      (.assistantFinishedAt, r.finishedAt), (.assistantSpans, spans),
      (.assistantInputTokens, r.input), (.assistantOutputTokens, r.output),
      (.assistantTotalTokens, r.total)].map (·.1.index)).Nodup := by
    intro spans
    simp [Field.index, Field.spec]
  have created := Message.dateTime_congr rfl (l₁.settle_alike l₂ (distinct _) (distinct _)
    (f := .assistantCreatedAt) (o := r.createdAt) (by simp) (by simp))
  have finished := Message.dateTime_congr rfl (l₁.settle_alike l₂ (distinct _) (distinct _)
    (f := .assistantFinishedAt) (o := r.finishedAt) (by simp) (by simp))
  have input := Message.integer_congr (l₁.settle_alike l₂ (distinct _) (distinct _)
    (f := .assistantInputTokens) (o := r.input) (by simp) (by simp))
  have output := Message.integer_congr (l₁.settle_alike l₂ (distinct _) (distinct _)
    (f := .assistantOutputTokens) (o := r.output) (by simp) (by simp))
  have total := Message.number_congr (l₁.settle_alike l₂ (distinct _) (distinct _)
    (f := .assistantTotalTokens) (o := r.total) (by simp) (by simp))
  have spans := Listing.items_alike (W := Span.Writes) (R := fun u v => span u = span v)
    (f := .assistantSpans) rfl (fun _ => rfl)
    (fun l mem s rec _ _ => Span.read_alike (records_clean clean l mem s rec)) rs₁ rs₂
    (l₁.settle_get (distinct _) (o := spans₁) (by simp))
    (l₂.settle_get (distinct _) (o := spans₂) (by simp))
  rw [Message.reply?_of_laid l₁, Message.reply?_of_laid l₂, map_alike spans, created, finished,
    input, output, total]

theorem prompt_alike {f : Field} {text : Option Value} (text_default : f.default = .str "")
    (w₁ : WritesPrompt f text a) (w₂ : WritesPrompt f text b) :
    ∃ t, promptText? a f = some t ∧ promptText? b f = some t := by
  have distinct : ([(f, text)].map (·.1.index)).Nodup := by simp
  have laid_text : ∀ {w}, Laid [(f, text)] 0 w → ∀ s, text = some (.str s) →
      promptText? w f = some s := by
    intro w laid s str
    rw [Message.promptText?_of_laid laid, Message.text_of_settle text_default
      (by rw [laid.settle_get distinct (o := text) (by simp), str]; rfl)]
  rcases w₁ with l₁ | ⟨s, str, rfl⟩ <;> rcases w₂ with l₂ | ⟨s', str', rfl⟩
  · refine ⟨_, Message.promptText?_of_laid l₁ f, ?_⟩
    rw [Message.promptText?_of_laid l₂, Message.text_congr text_default
      (l₂.settle_alike l₁ distinct distinct (o := text) (by simp) (by simp))]
  · exact ⟨s', laid_text l₁ s' str', rfl⟩
  · exact ⟨s, rfl, laid_text l₂ s str⟩
  · rw [str'] at str
    cases str
    exact ⟨s, rfl, rfl⟩

end Records

section Messages

variable {a b : Value}

theorem decode_of_body {k : Kind} {body : Value} {n : Message.Node} (h : ofKind? k body = some n) :
    decode (.arr [.int k.tag, body]) = n := by
  have small : inI64 k.tag = true := by cases k <;> decide
  have named : Kind.ofTag? k.tag = some k := by cases k <;> decide
  simp [decode, Message.decodeVariant, Value.tagged?, Value.asI64?, small, named, h]

theorem Message.body_alike {m : Message} (clean : m.nilResult = false) (w₁ : m.WritesBody a)
    (w₂ : m.WritesBody b) : ∃ n, ofKind? m.kind a = some n ∧ ofKind? m.kind b = some n := by
  cases m with
  | system text =>
    obtain ⟨t, found₁, found₂⟩ := prompt_alike rfl w₁ w₂
    exact ⟨.system t, by simp [ofKind?, kind, found₁], by simp [ofKind?, kind, found₂]⟩
  | user text =>
    obtain ⟨t, found₁, found₂⟩ := prompt_alike rfl w₁ w₂
    exact ⟨.user t, by simp [ofKind?, kind, found₁], by simp [ofKind?, kind, found₂]⟩
  | assistant r =>
    have same := Reply.read_alike clean w₁ w₂
    obtain ⟨spans, -, laid⟩ := w₁
    exact ⟨_, by simp only [ofKind?, kind, Message.reply?_of_laid laid]; rfl,
      by simp only [ofKind?, kind, ← same, Message.reply?_of_laid laid]; rfl⟩
  | functionCall i =>
    have same := Invocation.read_alike clean w₁ w₂
    obtain ⟨calls, results, -, -, laid⟩ := w₁
    exact ⟨_, by simp only [ofKind?, kind, Message.invocation?_of_laid laid]; rfl,
      by simp only [ofKind?, kind, ← same, Message.invocation?_of_laid laid]; rfl⟩

/-- Decoding does not depend on how a message's records are laid out, as long as no result entry
is set to nil: any two writings of one logical message decode to the same node, the node its
kind reads from the body and never a fallback. -/
theorem decode_ignores_layout {m : Message} (clean : m.nilResult = false) {a b : Value}
    (w₁ : m.Writes a) (w₂ : m.Writes b) :
    decode a = decode b ∧
      ∃ body n, a = .arr [.int m.kind.tag, body] ∧ ofKind? m.kind body = some n ∧ decode a = n := by
  obtain ⟨body₁, rfl, h₁⟩ := w₁
  obtain ⟨body₂, rfl, h₂⟩ := w₂
  obtain ⟨n, found₁, found₂⟩ := Message.body_alike clean h₁ h₂
  rw [decode_of_body found₁, decode_of_body found₂]
  exact ⟨rfl, body₁, n, rfl, found₁, rfl⟩

theorem decode_ignores_layout_of_result :
    Message.nilResult (.functionCall ⟨some (.str "c"), none,
      some (.items [.record ⟨some (.str "ok")⟩])⟩) = false ∧
    Message.Writes (.functionCall ⟨some (.str "c"), none,
      some (.items [.record ⟨some (.str "ok")⟩])⟩)
      (.arr [.int 4, .map [(.int 3, .str "c"), (.int 7, .arr [.map [(.int 0, .str "ok")]])]]) ∧
    Message.Writes (.functionCall ⟨some (.str "c"), none,
      some (.items [.record ⟨some (.str "ok")⟩])⟩)
      (.arr [.int 4, .map [(.int 3, .str "c"), (.int 7, .arr [.arr [.str "ok"]])]]) ∧
    decode (.arr [.int 4, .map [(.int 3, .str "c"), (.int 7, .arr [.map [(.int 0, .str "ok")]])]]) =
      decode (.arr [.int 4, .map [(.int 3, .str "c"), (.int 7, .arr [.arr [.str "ok"]])]]) := by
  have asMap : Result.Writes ⟨some (.str "ok")⟩ (.map [(.int 0, .str "ok")]) :=
    Laid.of_entries rfl
  have asArray : Result.Writes ⟨some (.str "ok")⟩ (.arr [.str "ok"]) := Laid.of_single rfl _
  have clean : Message.nilResult (.functionCall ⟨some (.str "c"), none,
      some (.items [.record ⟨some (.str "ok")⟩])⟩) = false := rfl
  have w₁ : Message.Writes (.functionCall ⟨some (.str "c"), none,
      some (.items [.record ⟨some (.str "ok")⟩])⟩)
      (.arr [.int 4, .map [(.int 3, .str "c"), (.int 7, .arr [.map [(.int 0, .str "ok")]])]]) :=
    ⟨_, rfl, none, _, .none, .some ⟨_, rfl, .cons asMap .nil⟩, Laid.of_entries rfl⟩
  have w₂ : Message.Writes (.functionCall ⟨some (.str "c"), none,
      some (.items [.record ⟨some (.str "ok")⟩])⟩)
      (.arr [.int 4, .map [(.int 3, .str "c"), (.int 7, .arr [.arr [.str "ok"]])]]) :=
    ⟨_, rfl, none, _, .none, .some ⟨_, rfl, .cons asArray .nil⟩, Laid.of_entries rfl⟩
  exact ⟨clean, w₁, w₂, (decode_ignores_layout clean w₁ w₂).1⟩

/-- A result entry set to nil reads as nil from a map but as the empty text from an array, so
the two layouts of this message decode differently. -/
theorem result_nil_reads_by_layout :
    Message.Writes (.functionCall ⟨none, none, some (.items [.record ⟨some .nil⟩])⟩)
      (.arr [.int 4, .map [(.int 7, .arr [.map [(.int 0, .nil)]])]]) ∧
    Message.Writes (.functionCall ⟨none, none, some (.items [.record ⟨some .nil⟩])⟩)
      (.arr [.int 4, .map [(.int 7, .arr [.arr [.nil]])]]) ∧
    decode (.arr [.int 4, .map [(.int 7, .arr [.map [(.int 0, .nil)]])]]) ≠
      decode (.arr [.int 4, .map [(.int 7, .arr [.arr [.nil]])]]) := by
  have asArray : Result.Writes ⟨some .nil⟩ (.arr [.nil]) := Laid.of_single rfl _
  refine ⟨⟨_, rfl, none, _, .none, .some ⟨_, rfl, .cons (Laid.of_entries rfl) .nil⟩,
      Laid.of_entries rfl⟩,
    ⟨_, rfl, none, _, .none, .some ⟨_, rfl, .cons asArray .nil⟩, Laid.of_entries rfl⟩, ?_⟩
  have fromMap : decode (.arr [.int 4, .map [(.int 7, .arr [.map [(.int 0, .nil)]])]]) =
      .invocation ⟨none, [], [.nil]⟩ := rfl
  have fromArray : decode (.arr [.int 4, .map [(.int 7, .arr [.arr [.nil]])]]) =
      .invocation ⟨none, [], [.str ""]⟩ := rfl
  rw [fromMap, fromArray]
  intro same
  have results := congrArg Message.Invocation.results (Message.Node.invocation.inj same)
  simp at results

end Messages

end ChatArchive.Logical
