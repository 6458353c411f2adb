import ChatArchive.Message.Decode
import Mathlib.Data.List.Nodup
/-!
How a record is laid out. A producer writes a record either as a map, each set field under its
index in any order and fields equal to their default possibly left out, or as an array, each set
field at its index and nil at every other position. Both layouts read every field alike up to a
nil, which an array position reads as the field's default (`Laid.settle_get`); the readers that
take nil for the default therefore cannot tell the layouts apart.
-/
namespace ChatArchive.Message

/-- What a value stored at a field's array position reads as: nil stands for the default. -/
def Field.settle (f : Field) (v : Value) : Value := if v.isNil then f.default else v

def present (slots : List (Field × Option Value)) : List (Field × Value) :=
  slots.filterMap fun s => s.2.map (s.1, ·)

def entryOf (c : Field × Value) : Key × Value := (.int c.1.index, c.2)

/-- A record whose fields hold the values of `slots` (none for a field that is not set), laid
out as a value. An array must hold at least `least` positions. -/
inductive Laid (slots : List (Field × Option Value)) (least : Nat) : Value → Prop
  | mapping {kept : List (Field × Value)} {entries : List (Key × Value)}
      (sub : kept.Sublist (present slots))
      (dropped : ∀ c ∈ present slots, c ∉ kept → c.2 = c.1.default)
      (order : entries.Perm (kept.map entryOf)) : Laid slots least (.map entries)
  | sequence {xs : List Value} (long : least ≤ xs.length)
      (placed : ∀ c ∈ present slots, xs[c.1.index]? = some c.2)
      (blank : ∀ i < xs.length, (∀ c ∈ present slots, c.1.index ≠ i) → xs[i]? = some .nil) :
      Laid slots least (.arr xs)

theorem Value.eq_nil_of_isNil {v : Value} (h : v.isNil = true) : v = .nil := by
  cases v <;> simp_all [Value.isNil]

namespace Field

variable {β : Type} {f : Field}

@[simp] theorem settle_nil : f.settle .nil = f.default := rfl

@[simp] theorem settle_default : f.settle f.default = f.default := by
  unfold settle
  split <;> rfl

@[simp] theorem settle_settle (v : Value) : f.settle (f.settle v) = f.settle v := by
  unfold settle
  split <;> simp

theorem settle_of_absent (absent : f.default = .nil) (v : Value) : f.settle v = v := by
  unfold settle
  split
  · rename_i nil
    rw [absent, Value.eq_nil_of_isNil nil]
  · rfl

theorem settle_eq_settle {a b : Value} (h : f.settle a = f.settle b) :
    a = b ∨ (a = .nil ∧ b = f.default) ∨ (a = f.default ∧ b = .nil) := by
  unfold settle at h
  split at h <;> split at h
  · rename_i nil_a nil_b
    exact .inl ((Value.eq_nil_of_isNil nil_a).trans (Value.eq_nil_of_isNil nil_b).symm)
  · rename_i nil_a _
    exact .inr (.inl ⟨Value.eq_nil_of_isNil nil_a, h.symm⟩)
  · rename_i _ nil_b
    exact .inr (.inr ⟨h, Value.eq_nil_of_isNil nil_b⟩)
  · exact .inl h

theorem settle_congr (g : Value → β) (same : g .nil = g f.default) {a b : Value}
    (h : f.settle a = f.settle b) : g a = g b := by
  rcases settle_eq_settle h with rfl | ⟨rfl, rfl⟩ | ⟨rfl, rfl⟩
  · rfl
  · exact same
  · exact same.symm

end Field

theorem mem_present {slots : List (Field × Option Value)} {c : Field × Value} :
    c ∈ present slots ↔ (c.1, some c.2) ∈ slots := by
  obtain ⟨g, v⟩ := c
  simp only [present, List.mem_filterMap, Option.map_eq_some_iff, Prod.mk.injEq]
  constructor
  · rintro ⟨⟨a, b⟩, mem, v', rfl, rfl, rfl⟩
    exact mem
  · intro mem
    exact ⟨(g, some v), mem, v, rfl, rfl, rfl⟩

theorem get_arr (xs : List Value) (f : Field) :
    (Value.arr xs).get f = (xs[f.index]?.map f.settle).getD f.default := by
  simp only [Value.get, Value.field]
  split <;> simp_all [Field.settle, Value.isNil]

theorem get_map (es : List (Key × Value)) (f : Field) :
    (Value.map es).get f = ((es.find? (·.1 == .int f.index)).map (·.2)).getD f.default := by
  simp only [Value.get, Value.field]
  split <;> rename_i found <;> simp [found]

section Laid

variable {slots : List (Field × Option Value)} {least : Nat} {w : Value} {f : Field}
  {o : Option Value}

theorem slot_unique (distinct : (slots.map (·.1.index)).Nodup) {a b : Field × Option Value}
    (ha : a ∈ slots) (hb : b ∈ slots) (same : a.1.index = b.1.index) : a = b :=
  List.inj_on_of_nodup_map distinct ha hb same

theorem Laid.get_of_mapping {kept : List (Field × Value)} {entries : List (Key × Value)}
    (sub : kept.Sublist (present slots))
    (dropped : ∀ c ∈ present slots, c ∉ kept → c.2 = c.1.default)
    (order : entries.Perm (kept.map entryOf))
    (distinct : (slots.map (·.1.index)).Nodup) (slot : (f, o) ∈ slots) :
    (Value.map entries).get f = o.getD f.default := by
  -- an entry under the field's key comes from the field's own slot
  have keyed : ∀ v, (Key.int f.index, v) ∈ entries → (f, v) ∈ kept := by
    intro v mem
    obtain ⟨⟨g, u⟩, kept_mem, entry⟩ := List.mem_map.mp (order.mem_iff.mp mem)
    simp only [entryOf, Prod.mk.injEq, Key.int.injEq] at entry
    obtain ⟨cast, rfl⟩ := entry
    have same : g.index = f.index := by omega
    have own := slot_unique distinct (mem_present.mp (sub.subset kept_mem)) slot same
    cases own
    exact kept_mem
  rw [get_map]
  cases found : entries.find? (·.1 == .int f.index) with
  | some e =>
    obtain ⟨k, v⟩ := e
    have key : k = .int f.index := by simpa using List.find?_some found
    subst key
    have set := mem_present.mp (sub.subset (keyed v (List.mem_of_find?_eq_some found)))
    cases slot_unique distinct set slot rfl
    rfl
  | none =>
    have absent : ∀ v, (Key.int f.index, v) ∉ entries := by
      intro v mem
      simpa using List.find?_eq_none.mp found _ mem
    cases o with
    | none => rfl
    | some v =>
      have set : (f, v) ∈ present slots := mem_present.mpr slot
      have left : (f, v) ∉ kept := fun mem =>
        absent v (order.mem_iff.mpr (List.mem_map.mpr ⟨(f, v), mem, rfl⟩))
      exact (dropped _ set left).symm

theorem Laid.get_of_sequence {xs : List Value}
    (placed : ∀ c ∈ present slots, xs[c.1.index]? = some c.2)
    (blank : ∀ i < xs.length, (∀ c ∈ present slots, c.1.index ≠ i) → xs[i]? = some .nil)
    (distinct : (slots.map (·.1.index)).Nodup) (slot : (f, o) ∈ slots) :
    (Value.arr xs).get f = f.settle (o.getD f.default) := by
  rw [get_arr]
  cases o with
  | some v => simp [placed (f, v) (mem_present.mpr slot)]
  | none =>
    -- no set field shares the index of an unset one
    have free : ∀ c ∈ present slots, c.1.index ≠ f.index := by
      intro c mem same
      cases slot_unique distinct (mem_present.mp mem) slot same
    by_cases inside : f.index < xs.length
    · simp [blank _ inside free]
    · simp [List.getElem?_eq_none (Nat.le_of_not_lt inside)]

/-- Whatever the layout, a field reads as its slot's value or the default, up to nil. -/
theorem Laid.settle_get (laid : Laid slots least w) (distinct : (slots.map (·.1.index)).Nodup)
    (slot : (f, o) ∈ slots) : f.settle (w.get f) = f.settle (o.getD f.default) := by
  cases laid with
  | mapping sub dropped order => rw [Laid.get_of_mapping sub dropped order distinct slot]
  | sequence _ placed blank => rw [Laid.get_of_sequence placed blank distinct slot, Field.settle_settle]

theorem Laid.settle_alike {slots' : List (Field × Option Value)} {least' : Nat} {w' : Value}
    (laid : Laid slots least w) (laid' : Laid slots' least' w')
    (distinct : (slots.map (·.1.index)).Nodup) (distinct' : (slots'.map (·.1.index)).Nodup)
    (slot : (f, o) ∈ slots) (slot' : (f, o) ∈ slots') :
    f.settle (w.get f) = f.settle (w'.get f) := by
  rw [laid.settle_get distinct slot, laid'.settle_get distinct' slot']

theorem Laid.get_of_settled (laid : Laid slots least w) (distinct : (slots.map (·.1.index)).Nodup)
    (slot : (f, o) ∈ slots) (settled : f.settle (o.getD f.default) = o.getD f.default) :
    w.get f = o.getD f.default := by
  cases laid with
  | mapping sub dropped order => exact Laid.get_of_mapping sub dropped order distinct slot
  | sequence _ placed blank => rw [Laid.get_of_sequence placed blank distinct slot, settled]

theorem Laid.of_entries {entries : List (Key × Value)} (h : entries = (present slots).map entryOf) :
    Laid slots least (.map entries) :=
  .mapping (List.Sublist.refl _) (fun _ mem out => absurd mem out) (h ▸ List.Perm.refl _)

theorem Laid.of_single {f : Field} (first : f.index = 0) (v : Value) :
    Laid [(f, some v)] 0 (.arr [v]) := by
  refine .sequence (Nat.zero_le _) ?_ ?_
  · intro c mem
    simp only [present, List.filterMap_cons, Option.map_some, List.filterMap_nil,
      List.mem_singleton] at mem
    subst mem
    simp [first]
  · intro i inside free
    have other : f.index ≠ i := free (f, v) (by simp [present])
    simp only [List.length_singleton] at inside
    omega

theorem Laid.isRecord (laid : Laid slots least w) : w.isRecord = true := by
  cases laid <;> rfl

end Laid

section Readers

variable {a b : Value} {f : Field}

theorem text_congr (text_default : f.default = .str "")
    (h : f.settle (a.get f) = f.settle (b.get f)) : a.text f = b.text f := by
  rcases Field.settle_eq_settle h with same | ⟨nil, dflt⟩ | ⟨dflt, nil⟩ <;>
    simp [Value.text, Value.displayText, *]

theorem text_of_settle (text_default : f.default = .str "") {s : String}
    (h : f.settle (a.get f) = .str s) : a.text f = s := by
  unfold Field.settle at h
  split at h
  · rename_i nil
    rw [text_default] at h
    cases h
    simp [Value.text, Value.displayText, Value.eq_nil_of_isNil nil]
  · simp [Value.text, h]

theorem optionalText_congr (text_default : f.default = .str "")
    (h : f.settle (a.get f) = f.settle (b.get f)) : a.optionalText f = b.optionalText f := by
  simp only [Value.optionalText, text_congr text_default h]

theorem items_congr (list_default : f.default = .arr [])
    (h : f.settle (a.get f) = f.settle (b.get f)) : a.items f = b.items f := by
  rcases Field.settle_eq_settle h with same | ⟨nil, dflt⟩ | ⟨dflt, nil⟩ <;>
    simp [Value.items, *]

theorem items_of_settle (list_default : f.default = .arr []) {xs : List Value}
    (h : f.settle (a.get f) = .arr xs) : a.items f = xs := by
  unfold Field.settle at h
  unfold Value.items
  split at h
  · rename_i nil
    rw [list_default] at h
    cases h
    cases found : a.get f <;> simp_all [Value.isNil]
  · rw [h]

theorem integer_congr (h : f.settle (a.get f) = f.settle (b.get f)) :
    a.integer f = b.integer f := by
  refine Field.settle_congr (fun v => (v.asI64? <|> f.default.asI64?).getD 0) ?_ h
  show (none <|> f.default.asI64?).getD 0 = (f.default.asI64? <|> f.default.asI64?).getD 0
  cases f.default.asI64? <;> rfl

theorem number_congr (h : f.settle (a.get f) = f.settle (b.get f)) :
    a.number f = b.number f := by
  refine Field.settle_congr
    (fun v => (v.asF64? <|> f.default.asF64?).getD (Numeral.Double.zero false)) ?_ h
  show (none <|> f.default.asF64?).getD _ = (f.default.asF64? <|> f.default.asF64?).getD _
  cases f.default.asF64? <;> rfl

theorem dateTime_congr (absent : f.default = .nil)
    (h : f.settle (a.get f) = f.settle (b.get f)) : a.dateTime f = b.dateTime f := by
  rw [Field.settle_of_absent absent, Field.settle_of_absent absent] at h
  simp only [Value.dateTime, h]

theorem arguments_congr
    (h : Field.callArguments.settle (a.get .callArguments) =
      Field.callArguments.settle (b.get .callArguments)) :
    arguments (a.get .callArguments) = arguments (b.get .callArguments) :=
  Field.settle_congr arguments rfl h

end Readers

section Decoding

variable {slots : List (Field × Option Value)} {least : Nat} {w : Value}

theorem result_of_laid (laid : Laid slots least w) : result w = w.get .resultValue := by
  simp [result, laid.isRecord]

theorem invocation?_of_laid (laid : Laid slots least w) :
    invocation? w = some ⟨w.optionalText .functionCallContent,
      (w.items .functionCallCalls).map call, (w.items .functionCallResults).map result⟩ := by
  simp [invocation?, laid.isRecord]

theorem span_of_laid (laid : Laid slots least w) :
    span w = ⟨w.optionalText .spanContent, w.optionalText .spanReasoning,
      (sortNested (w.items .spanFunctionCalls)).1, (sortNested (w.items .spanFunctionCalls)).2⟩ := by
  simp [span, laid.isRecord]

theorem promptText?_of_laid (laid : Laid slots least w) (f : Field) :
    promptText? w f = some (w.text f) := by
  cases laid <;> simp [promptText?, Value.isRecord, Value.shape]

theorem reply?_of_laid (laid : Laid slots assistantMinLength w) :
    reply? w = some ⟨(w.items .assistantSpans).map span,
      w.dateTime .assistantCreatedAt, w.dateTime .assistantFinishedAt,
      ⟨w.integer .assistantInputTokens, w.integer .assistantOutputTokens,
        w.number .assistantTotalTokens⟩⟩ := by
  cases laid with
  | mapping => simp [reply?, Value.shape]
  | sequence long => simp [reply?, Value.shape, Value.size, Nat.not_lt.mpr long]

end Decoding

end ChatArchive.Message
