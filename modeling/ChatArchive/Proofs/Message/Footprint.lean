import ChatArchive.Proofs.Message.Dispatch
import ChatArchive.Proofs.Message.Layout
import Mathlib.Logic.Relation
/-!
What the decoder reads of a message. It reads each record it interprets (the body, the spans of a
reply, the tool invocations nested in a span, and the call and result entries of an invocation)
only through that record's schema fields, by the first map entry under a field's index or by the
array element at it, nil standing for the default. So a record may gain map entries under keys
that are no field's index, entries after an earlier one with the same key, and array positions
past its end that are nil or beyond every field's index, and a message that decodes to a node of
its kind decodes to the same node.

The proof follows the decoder's path: `Unseen` is a change no field of a record sees, `Within` a
change to one entry of a list field, and `Edit` a change reached from the body along the path.
-/
namespace ChatArchive.Message

section Lists

variable {α : Type}

theorem find?_insert {p : α → Bool} {pre post : List α} {a : α}
    (shadowed : p a = true → ∃ e ∈ pre, p e = true) :
    (pre ++ a :: post).find? p = (pre ++ post).find? p := by
  rw [List.find?_append, List.find?_append]
  cases found : pre.find? p with
  | some e => rfl
  | none =>
    have miss : p a = false := by
      by_contra hit
      obtain ⟨e, mem, he⟩ := shadowed (by simpa using hit)
      exact absurd he (by simpa using List.find?_eq_none.mp found e mem)
    simp [miss]

theorem getElem?_replace {pre post : List α} {a a' : α} {i : Nat} (other : i ≠ pre.length) :
    (pre ++ a' :: post)[i]? = (pre ++ a :: post)[i]? := by
  rcases Nat.lt_or_gt_of_ne other with lt | gt
  · rw [List.getElem?_append_left lt, List.getElem?_append_left lt]
  · rw [List.getElem?_append_right (by omega), List.getElem?_append_right (by omega)]
    obtain ⟨j, hj⟩ : ∃ j, i - pre.length = j + 1 := ⟨i - pre.length - 1, by omega⟩
    rw [hj]
    rfl

end Lists

/-- One change to a record that none of the fields `fs` sees: a map entry under a key that is no
field's index, a map entry after an earlier one under the same integer key, or array positions
appended past the end, each nil or beyond every field's index. -/
inductive Unseen (fs : List Field) : Value → Value → Prop
  | foreign {pre post : List (Key × Value)} {k : Key} {x : Value}
      (notField : ∀ f ∈ fs, k ≠ .int f.index) :
      Unseen fs (.map (pre ++ post)) (.map (pre ++ (k, x) :: post))
  | shadowed {pre post : List (Key × Value)} {n : Int} {x y : Value} (earlier : (.int n, y) ∈ pre) :
      Unseen fs (.map (pre ++ post)) (.map (pre ++ (.int n, x) :: post))
  | appended {xs ys : List Value}
      (past : ∀ j y, ys[j]? = some y → y = .nil ∨ ∀ f ∈ fs, f.index < xs.length + j) :
      Unseen fs (.arr xs) (.arr (xs ++ ys))

/-- The record `b'` is `b` with the entry `c` of its list field `f` replaced by `c'`, in the list
the decoder reads: under the first map entry keyed by the field's index, or at its array
position. -/
inductive Within (f : Field) (c c' : Value) : Value → Value → Prop
  | mapping {pre post : List (Key × Value)} {l r : List Value}
      (first : ∀ e ∈ pre, e.1 ≠ .int f.index) :
      Within f c c' (.map (pre ++ (.int f.index, .arr (l ++ c :: r)) :: post))
        (.map (pre ++ (.int f.index, .arr (l ++ c' :: r)) :: post))
  | sequence {pre post : List Value} {l r : List Value} (slot : pre.length = f.index) :
      Within f c c' (.arr (pre ++ .arr (l ++ c :: r) :: post))
        (.arr (pre ++ .arr (l ++ c' :: r) :: post))

inductive Role where
  | body (k : Kind)
  | span
  | call
  | result

def Role.fields : Role → List Field
  | .body .system => [.systemText]
  | .body .user => [.userPrompt]
  | .body .action => [.actionContent]
  | .body .assistant => [.assistantCreatedAt, .assistantFinishedAt, .assistantSpans,
      .assistantInputTokens, .assistantOutputTokens, .assistantTotalTokens]
  | .body .functionCall => [.functionCallContent, .functionCallCalls, .functionCallResults]
  | .span => [.spanContent, .spanFunctionCalls, .spanReasoning]
  | .call => [.callName, .callArguments]
  | .result => [.resultValue]

/-- A change to one record the decoder reads, reached from a record of role `ρ` along the
decoder's path: the record itself, a span of a reply, the body of a tool invocation nested in a
span, or a call or result entry of an invocation. -/
inductive Edit : Role → Value → Value → Prop
  | here {ρ : Role} {b b' : Value} (unseen : Unseen ρ.fields b b') : Edit ρ b b'
  | span {b b' s s' : Value} (within : Within .assistantSpans s s' b b') (inner : Edit .span s s') :
      Edit (.body .assistant) b b'
  | nested {b b' c c' : Value}
      (within : Within .spanFunctionCalls (.arr [.int 4, c]) (.arr [.int 4, c']) b b')
      (inner : Edit (.body .functionCall) c c') : Edit .span b b'
  | call {b b' c c' : Value} (within : Within .functionCallCalls c c' b b') (inner : Edit .call c c') :
      Edit (.body .functionCall) b b'
  | result {b b' c c' : Value} (within : Within .functionCallResults c c' b b')
      (inner : Edit .result c c') : Edit (.body .functionCall) b b'

/-- A change to one record that decoding a message reads: its body, or a record nested in it. -/
def MessageEdit (v v' : Value) : Prop :=
  ∃ (k : Kind) (b b' : Value),
    v = .arr [.int k.tag, b] ∧ v' = .arr [.int k.tag, b'] ∧ Edit (.body k) b b'

section Changes

variable {fs : List Field} {f g : Field} {b b' c c' : Value}

theorem Unseen.get_eq (unseen : Unseen fs b b') (mem : f ∈ fs) : b'.get f = b.get f := by
  cases unseen with
  | foreign notField =>
    rw [get_map, get_map, find?_insert]
    intro hit
    exact absurd (by simpa using hit) (notField f mem)
  | shadowed earlier =>
    rw [get_map, get_map, find?_insert]
    intro hit
    exact ⟨_, earlier, by simpa using hit⟩
  | @appended xs ys past =>
    rw [get_arr, get_arr]
    by_cases inside : f.index < xs.length
    · rw [List.getElem?_append_left inside]
    · have outside : xs[f.index]? = none := List.getElem?_eq_none (by omega)
      rw [List.getElem?_append_right (by omega), outside]
      -- an appended position the field reads is nil, since none lies past every field
      cases found : ys[f.index - xs.length]? with
      | none => rfl
      | some y =>
        rcases past _ y found with rfl | beyond
        · rfl
        · have := beyond f mem
          omega

theorem Unseen.shape (unseen : Unseen fs b b') : b'.shape = b.shape := by
  cases unseen <;> rfl

theorem Unseen.size_le (unseen : Unseen fs b b') : b.size ≤ b'.size := by
  cases unseen <;> simp [Value.size]

theorem Unseen.isRecord (unseen : Unseen fs b b') : b.isRecord = true := by
  cases unseen <;> rfl

theorem Within.get_ne (within : Within f c c' b b') (other : g.index ≠ f.index) :
    b'.get g = b.get g := by
  cases within with
  | mapping =>
    -- the replaced entry is under another key, so the lookup passes over it on both sides
    rw [get_map, get_map, find?_insert (fun hit => by simp at hit; omega),
      find?_insert (fun hit => by simp at hit; omega)]
  | sequence slot => rw [get_arr, get_arr, getElem?_replace (by omega)]

theorem Within.items (within : Within f c c' b b') :
    ∃ l r, b.items f = l ++ c :: r ∧ b'.items f = l ++ c' :: r := by
  cases within with
  | @mapping pre post l r first =>
    -- no entry before the replaced one is keyed by the field's index
    have skip : pre.find? (·.1 == .int f.index) = none :=
      List.find?_eq_none.mpr fun e mem => by simpa using first e mem
    have read : ∀ x, (Value.map (pre ++ (.int f.index, x) :: post)).get f = x := by
      intro x
      simp [get_map, List.find?_append, skip]
    exact ⟨l, r, by simp only [Value.items, read], by simp only [Value.items, read]⟩
  | @sequence pre post l r slot =>
    have read : ∀ xs, (Value.arr (pre ++ .arr xs :: post)).get f = .arr xs := by
      intro xs
      rw [get_arr, List.getElem?_append_right (by omega), ← slot, Nat.sub_self]
      rfl
    exact ⟨l, r, by simp only [Value.items, read], by simp only [Value.items, read]⟩

theorem Within.shape (within : Within f c c' b b') : b'.shape = b.shape := by
  cases within <;> rfl

theorem Within.size (within : Within f c c' b b') : b'.size = b.size := by
  cases within <;> simp [Value.size]

theorem Within.isRecord (within : Within f c c' b b') : b.isRecord = true := by
  cases within <;> rfl

theorem Edit.isRecord {ρ : Role} (edit : Edit ρ b b') : b.isRecord = true := by
  cases edit with
  | here unseen => exact unseen.isRecord
  | span within _ | nested within _ | call within _ | result within _ => exact within.isRecord

end Changes

section Readers

variable {b b' : Value}

theorem isRecord_of_shape (shape : b'.shape = b.shape) (record : b.isRecord = true) :
    b'.isRecord = true := by
  simpa [Value.isRecord, shape] using record

theorem items_eq_of_get {f : Field} (h : b'.get f = b.get f) : b'.items f = b.items f := by
  simp only [Value.items, h]

theorem text_eq_of_get {f : Field} (h : b'.get f = b.get f) : b'.text f = b.text f := by
  simp only [Value.text, h]

theorem optionalText_eq_of_get {f : Field} (h : b'.get f = b.get f) :
    b'.optionalText f = b.optionalText f := by
  unfold Value.optionalText
  rw [text_eq_of_get h]

theorem promptText?_of_record {f : Field} (record : b.isRecord = true) :
    promptText? b f = some (b.text f) := by
  cases b <;> simp_all [promptText?, Value.isRecord, Value.shape]

theorem promptText?_congr {f : Field} (record : b.isRecord = true) (shape : b'.shape = b.shape)
    (text : b'.get f = b.get f) : promptText? b' f = promptText? b f := by
  rw [promptText?_of_record (isRecord_of_shape shape record), promptText?_of_record record,
    text_eq_of_get text]

theorem action_congr (shape : b'.shape = b.shape)
    (content : b'.get .actionContent = b.get .actionContent) :
    ofKind? .action b' = ofKind? .action b := by
  simp only [ofKind?, shape, text_eq_of_get content]

theorem reply?_of_passing (record : b.isRecord = true)
    (passed : ¬ (b.shape = .sequence ∧ b.size < assistantMinLength)) :
    reply? b = some ⟨(b.items .assistantSpans).map span,
      b.dateTime .assistantCreatedAt, b.dateTime .assistantFinishedAt,
      ⟨b.integer .assistantInputTokens, b.integer .assistantOutputTokens,
        b.number .assistantTotalTokens⟩⟩ := by
  cases b <;> simp_all [reply?, Value.isRecord, Value.shape]

theorem reply?_passing (gate : reply? b ≠ none) :
    b.isRecord = true ∧ ¬ (b.shape = .sequence ∧ b.size < assistantMinLength) := by
  cases b <;> simp_all [reply?, Value.isRecord, Value.shape]

theorem reply?_congr (gate : reply? b ≠ none) (shape : b'.shape = b.shape) (size : b.size ≤ b'.size)
    (created : b'.get .assistantCreatedAt = b.get .assistantCreatedAt)
    (finished : b'.get .assistantFinishedAt = b.get .assistantFinishedAt)
    (input : b'.get .assistantInputTokens = b.get .assistantInputTokens)
    (output : b'.get .assistantOutputTokens = b.get .assistantOutputTokens)
    (total : b'.get .assistantTotalTokens = b.get .assistantTotalTokens)
    (spans : (b'.items .assistantSpans).map span = (b.items .assistantSpans).map span) :
    reply? b' = reply? b := by
  -- the length gate only refuses short arrays, and `b` passed it
  obtain ⟨record, passed⟩ := reply?_passing gate
  have passed' : ¬ (b'.shape = .sequence ∧ b'.size < assistantMinLength) := by
    rw [shape]
    rintro ⟨sequence, short⟩
    exact passed ⟨sequence, by omega⟩
  rw [reply?_of_passing record passed, reply?_of_passing (isRecord_of_shape shape record) passed',
    spans]
  simp only [Value.dateTime, Value.integer, Value.number, created, finished, input, output, total]

theorem invocation?_of_record (record : b.isRecord = true) :
    invocation? b = some ⟨b.optionalText .functionCallContent,
      (b.items .functionCallCalls).map call, (b.items .functionCallResults).map result⟩ := by
  simp [invocation?, record]

theorem invocation?_congr (record : b.isRecord = true) (shape : b'.shape = b.shape)
    (content : b'.get .functionCallContent = b.get .functionCallContent)
    (calls : (b'.items .functionCallCalls).map call = (b.items .functionCallCalls).map call)
    (results : (b'.items .functionCallResults).map result = (b.items .functionCallResults).map result) :
    invocation? b' = invocation? b := by
  simp only [invocation?, record, isRecord_of_shape shape record, ↓reduceIte,
    optionalText_eq_of_get content, calls, results]

theorem span_congr (record : b.isRecord = true) (shape : b'.shape = b.shape)
    (content : b'.get .spanContent = b.get .spanContent)
    (reasoning : b'.get .spanReasoning = b.get .spanReasoning)
    (nested : sortNested (b'.items .spanFunctionCalls) = sortNested (b.items .spanFunctionCalls)) :
    span b' = span b := by
  simp only [span, record, isRecord_of_shape shape record, ↓reduceIte,
    optionalText_eq_of_get content, optionalText_eq_of_get reasoning, nested]

theorem call_congr (name : b'.get .callName = b.get .callName)
    (arguments : b'.get .callArguments = b.get .callArguments) : call b' = call b := by
  simp only [call, Value.text, name, arguments]

theorem result_congr (record : b.isRecord = true) (shape : b'.shape = b.shape)
    (value : b'.get .resultValue = b.get .resultValue) : result b' = result b := by
  simp only [result, record, isRecord_of_shape shape record, ↓reduceIte, value]

theorem nestedInvocation?_pair (c : Value) : nestedInvocation? (.arr [.int 4, c]) = invocation? c := by
  have tagged : (Value.arr [.int 4, c]).tagged? = some (4, c) :=
    Value.tagged?_eq_some_iff.mpr ⟨rfl, Kind.functionCall.tag_small⟩
  simp [nestedInvocation?, tagged]

theorem sortNested_replace {l r : List Value} {x x' : Value} {inv : Invocation}
    (found : nestedInvocation? x = some inv) (same : nestedInvocation? x' = some inv) :
    sortNested (l ++ x' :: r) = sortNested (l ++ x :: r) := by
  simp [sortNested_eq, List.filterMap_append, List.filter_append, found, same]

end Readers

/-- Two records read alike in a role. A body is compared only where its kind accepts it: a body
its kind refuses is kept whole as unrecognized, so every change to it is seen. -/
def Role.ReadsAlike : Role → Value → Value → Prop
  | .body k, b, b' => ofKind? k b ≠ none → ofKind? k b' = ofKind? k b
  | .span, s, s' => Message.span s' = Message.span s
  | .call, c, c' => Message.call c' = Message.call c
  | .result, c, c' => Message.result c' = Message.result c

section Reading

variable {b b' : Value}

theorem Unseen.readsAlike {ρ : Role} (unseen : Unseen ρ.fields b b') : ρ.ReadsAlike b b' := by
  have record := unseen.isRecord
  have shape := unseen.shape
  have same : ∀ f ∈ ρ.fields, b'.get f = b.get f := fun f mem => unseen.get_eq mem
  cases ρ with
  | body k =>
    show ofKind? k b ≠ none → ofKind? k b' = ofKind? k b
    intro gate
    cases k with
    | system | user =>
      simp only [Role.fields, List.mem_singleton, forall_eq] at same
      simp only [ofKind?, promptText?_congr record shape same]
    | action =>
      simp only [Role.fields, List.mem_singleton, forall_eq] at same
      exact action_congr shape same
    | assistant =>
      simp only [Role.fields, List.mem_cons, List.not_mem_nil, or_false, forall_eq_or_imp,
        forall_eq] at same
      obtain ⟨created, finished, spans, input, output, total⟩ := same
      have passed : reply? b ≠ none := by simpa [ofKind?] using gate
      simp only [ofKind?, reply?_congr passed shape unseen.size_le created finished input output
        total (by rw [items_eq_of_get spans])]
    | functionCall =>
      simp only [Role.fields, List.mem_cons, List.not_mem_nil, or_false, forall_eq_or_imp,
        forall_eq] at same
      obtain ⟨content, calls, results⟩ := same
      simp only [ofKind?, invocation?_congr record shape content (by rw [items_eq_of_get calls])
        (by rw [items_eq_of_get results])]
  | span =>
    simp only [Role.fields, List.mem_cons, List.not_mem_nil, or_false, forall_eq_or_imp,
      forall_eq] at same
    obtain ⟨content, nested, reasoning⟩ := same
    exact span_congr record shape content reasoning (by rw [items_eq_of_get nested])
  | call =>
    simp only [Role.fields, List.mem_cons, List.not_mem_nil, or_false, forall_eq_or_imp,
      forall_eq] at same
    exact call_congr same.1 same.2
  | result =>
    simp only [Role.fields, List.mem_singleton, forall_eq] at same
    exact result_congr record shape same

theorem Edit.readsAlike {ρ : Role} (edit : Edit ρ b b') : ρ.ReadsAlike b b' := by
  induction edit with
  | here unseen => exact unseen.readsAlike
  | @span b b' s s' within _ ih =>
    show ofKind? .assistant b ≠ none → ofKind? .assistant b' = ofKind? .assistant b
    intro gate
    obtain ⟨l, r, before, after⟩ := within.items
    have passed : reply? b ≠ none := by simpa [ofKind?] using gate
    simp only [ofKind?, reply?_congr passed within.shape (Nat.le_of_eq within.size.symm) (within.get_ne (by decide))
      (within.get_ne (by decide)) (within.get_ne (by decide)) (within.get_ne (by decide))
      (within.get_ne (by decide)) (by rw [before, after, List.map_append, List.map_append,
        List.map_cons, List.map_cons, ih])]
  | @nested b b' c c' within inner ih =>
    obtain ⟨l, r, before, after⟩ := within.items
    have record := inner.isRecord
    obtain ⟨inv, found⟩ : ∃ inv, invocation? c = some inv := ⟨_, invocation?_of_record record⟩
    have same : invocation? c' = some inv := by
      have read := ih (by simp [ofKind?, found])
      simp only [ofKind?, found] at read
      simpa using read
    exact span_congr within.isRecord within.shape (within.get_ne (by decide))
      (within.get_ne (by decide)) (by rw [before, after, sortNested_replace
        (by rw [nestedInvocation?_pair, found]) (by rw [nestedInvocation?_pair, same])])
  | @call b b' c c' within _ ih =>
    show ofKind? .functionCall b ≠ none → ofKind? .functionCall b' = ofKind? .functionCall b
    intro _
    obtain ⟨l, r, before, after⟩ := within.items
    simp only [ofKind?, invocation?_congr within.isRecord within.shape (within.get_ne (by decide))
      (by rw [before, after, List.map_append, List.map_append, List.map_cons, List.map_cons, ih])
      (by rw [items_eq_of_get (within.get_ne (by decide))])]
  | @result b b' c c' within _ ih =>
    show ofKind? .functionCall b ≠ none → ofKind? .functionCall b' = ofKind? .functionCall b
    intro _
    obtain ⟨l, r, before, after⟩ := within.items
    simp only [ofKind?, invocation?_congr within.isRecord within.shape (within.get_ne (by decide))
      (by rw [items_eq_of_get (within.get_ne (by decide))])
      (by rw [before, after, List.map_append, List.map_append, List.map_cons, List.map_cons, ih])]

end Reading

theorem decode_of_messageEdit {v v' : Value} (known : (decode v).kind?.isSome = true)
    (edit : MessageEdit v v') : decode v' = decode v := by
  obtain ⟨k, b, b', rfl, rfl, edit⟩ := edit
  simp only [decode_pair k.tag_small, decodeVariant_of_kind] at known ⊢
  cases found : ofKind? k b with
  | none => simp [found, Node.kind?] at known
  | some n =>
    have alike : ofKind? k b' = ofKind? k b := edit.readsAlike (by simp [found])
    rw [alike, found, Option.getD_some, Option.getD_some]

/-- A message that decodes to a node of its kind decodes to the same node after any run of
changes the decoder cannot see: map entries added under keys that are no schema index of their
record or after an entry with the same key, and array positions appended that are nil or beyond
the record's last schema index, in the body or in any span, nested invocation, call or result
entry that the decoder interprets. -/
theorem decode_reads_only_schema_fields {v v' : Value} (known : (decode v).kind?.isSome = true)
    (edits : Relation.ReflTransGen MessageEdit v v') : decode v' = decode v := by
  induction edits with
  | refl => rfl
  | tail _ step ih => rw [decode_of_messageEdit (by rw [ih]; exact known) step, ih]

theorem decode_reads_only_schema_fields_of_note :
    (decode (.arr [.int 2, .map [(.int 0, .str "hi")]])).kind?.isSome = true ∧
    Relation.ReflTransGen MessageEdit (.arr [.int 2, .map [(.int 0, .str "hi")]])
      (.arr [.int 2, .map [(.int 0, .str "hi"), (.str "note", .int 1)]]) ∧
    decode (.arr [.int 2, .map [(.int 0, .str "hi"), (.str "note", .int 1)]]) =
      decode (.arr [.int 2, .map [(.int 0, .str "hi")]]) ∧
    (decode (.arr [.int 1, .map [(.int 5, .arr [.map [(.int 1, .arr [.arr [.int 4,
        .map [(.int 7, .arr [.map [(.int 0, .str "sunny")]])]]])]])]])).kind?.isSome = true ∧
    Relation.ReflTransGen MessageEdit
      (.arr [.int 1, .map [(.int 5, .arr [.map [(.int 1, .arr [.arr [.int 4,
        .map [(.int 7, .arr [.map [(.int 0, .str "sunny")]])]]])]])]])
      (.arr [.int 1, .map [(.int 5, .arr [.map [(.int 1, .arr [.arr [.int 4,
        .map [(.int 7, .arr [.map [(.int 0, .str "sunny"), (.str "note", .int 1)]])]]])]])]]) ∧
    decode (.arr [.int 1, .map [(.int 5, .arr [.map [(.int 1, .arr [.arr [.int 4,
        .map [(.int 7, .arr [.map [(.int 0, .str "sunny"), (.str "note", .int 1)]])]]])]])]]) =
      decode (.arr [.int 1, .map [(.int 5, .arr [.map [(.int 1, .arr [.arr [.int 4,
        .map [(.int 7, .arr [.map [(.int 0, .str "sunny")]])]]])]])]]) := by
  -- a key no field reads, added to a user message's body
  have known : (decode (.arr [.int 2, .map [(.int 0, .str "hi")]])).kind?.isSome = true := by
    decide
  have note : Unseen (Role.fields (.body .user)) (.map [(.int 0, .str "hi")])
      (.map [(.int 0, .str "hi"), (.str "note", .int 1)]) :=
    @Unseen.foreign _ [(.int 0, .str "hi")] [] (.str "note") (.int 1) (by simp)
  have edits : Relation.ReflTransGen MessageEdit (.arr [.int 2, .map [(.int 0, .str "hi")]])
      (.arr [.int 2, .map [(.int 0, .str "hi"), (.str "note", .int 1)]]) :=
    .single ⟨.user, _, _, rfl, rfl, .here note⟩
  -- the same key added to a result entry of a tool invocation nested in a reply's span
  have replied : (decode (.arr [.int 1, .map [(.int 5, .arr [.map [(.int 1, .arr [.arr [.int 4,
      .map [(.int 7, .arr [.map [(.int 0, .str "sunny")]])]]])]])]])).kind?.isSome = true := by
    decide
  have resultNote : Unseen (Role.fields .result) (.map [(.int 0, .str "sunny")])
      (.map [(.int 0, .str "sunny"), (.str "note", .int 1)]) :=
    @Unseen.foreign _ [(.int 0, .str "sunny")] [] (.str "note") (.int 1) (by simp)
  have result : Edit (.body .functionCall) (.map [(.int 7, .arr [.map [(.int 0, .str "sunny")]])])
      (.map [(.int 7, .arr [.map [(.int 0, .str "sunny"), (.str "note", .int 1)]])]) :=
    .result (@Within.mapping _ _ _ [] [] [] [] (by simp)) (.here resultNote)
  have nested : Edit .span
      (.map [(.int 1, .arr [.arr [.int 4, .map [(.int 7, .arr [.map [(.int 0, .str "sunny")]])]]])])
      (.map [(.int 1, .arr [.arr [.int 4,
        .map [(.int 7, .arr [.map [(.int 0, .str "sunny"), (.str "note", .int 1)]])]]])]) :=
    .nested (@Within.mapping _ _ _ [] [] [] [] (by simp)) result
  have span : Edit (.body .assistant)
      (.map [(.int 5, .arr [.map [(.int 1, .arr [.arr [.int 4,
        .map [(.int 7, .arr [.map [(.int 0, .str "sunny")]])]]])]])])
      (.map [(.int 5, .arr [.map [(.int 1, .arr [.arr [.int 4,
        .map [(.int 7, .arr [.map [(.int 0, .str "sunny"), (.str "note", .int 1)]])]]])]])]) :=
    .span (@Within.mapping _ _ _ [] [] [] [] (by simp)) nested
  have deep : Relation.ReflTransGen MessageEdit
      (.arr [.int 1, .map [(.int 5, .arr [.map [(.int 1, .arr [.arr [.int 4,
        .map [(.int 7, .arr [.map [(.int 0, .str "sunny")]])]]])]])]])
      (.arr [.int 1, .map [(.int 5, .arr [.map [(.int 1, .arr [.arr [.int 4,
        .map [(.int 7, .arr [.map [(.int 0, .str "sunny"), (.str "note", .int 1)]])]]])]])]]) :=
    .single ⟨.assistant, _, _, rfl, rfl, span⟩
  exact ⟨known, edits, decode_reads_only_schema_fields known edits, replied, deep,
    decode_reads_only_schema_fields replied deep⟩

end ChatArchive.Message
