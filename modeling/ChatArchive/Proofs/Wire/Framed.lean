import ChatArchive.Wire.Reader
/-!
Locality of the value reader. A reader is framed when every success reads a front of its input
and gives the same result on that front followed by anything else. Every combinator of the
reader keeps this, so `readValue` is framed at every budget; with the marker byte it also
consumes at least one byte. From these come the three facts the payload code relies on: a read
takes between one byte and all of them, a read is unchanged by appending bytes, and a read of
only the bytes it consumed gives the same value.
-/
namespace ChatArchive.Wire

section Framed

variable {α β : Type}

def Reads (r : Reader α) (front : List UInt8) (a : α) : Prop :=
  ∀ rest, r (front ++ rest) = .ok (a, rest)

/-- Every success of `r` reads a front of its input, as the same thing whatever follows. -/
def Framed (r : Reader α) : Prop :=
  ∀ bs a rest, r bs = .ok (a, rest) → ∃ front, bs = front ++ rest ∧ Reads r front a

theorem Framed.pure (a : α) : Framed (fun bs => .ok (a, bs)) := by
  intro bs b rest h
  cases h
  exact ⟨[], rfl, fun _ => rfl⟩

theorem Framed.map {r : Reader α} {g : α × List UInt8 → β × List UInt8}
    (keeps : ∀ a rest rest', g (a, rest') = ((g (a, rest)).1, rest')) (framed : Framed r) :
    Framed (fun bs => (r bs).map g) := by
  intro bs b rest h
  cases hr : r bs with
  | error e => simp [hr, Except.map] at h
  | ok x =>
    obtain ⟨a, after⟩ := x
    simp only [hr, Except.map, Except.ok.injEq] at h
    have hrest : after = rest := by
      have same := keeps a after after
      rw [h] at same
      exact (Prod.mk.inj same).2.symm
    subst hrest
    obtain ⟨front, rfl, reads⟩ := framed _ a _ hr
    refine ⟨front, rfl, fun more => ?_⟩
    simp only [reads more, Except.map, keeps a after more, h]

theorem splitExactly?_eq_some {n : Nat} {bs front back : List UInt8}
    (h : splitExactly? n bs = some (front, back)) : bs = front ++ back ∧ front.length = n := by
  induction n generalizing bs front back with
  | zero =>
    simp only [splitExactly?, Option.some.injEq, Prod.mk.injEq] at h
    obtain ⟨rfl, rfl⟩ := h
    exact ⟨rfl, rfl⟩
  | succ n ih =>
    cases bs with
    | nil => simp [splitExactly?] at h
    | cons b bs =>
      simp only [splitExactly?, Option.map_eq_some_iff, Prod.exists, Prod.mk.injEq] at h
      obtain ⟨f, k, split, rfl, rfl⟩ := h
      obtain ⟨rfl, hlen⟩ := ih split
      exact ⟨rfl, by simp [hlen]⟩

theorem splitExactly?_append (front back : List UInt8) :
    splitExactly? front.length (front ++ back) = some (front, back) := by
  induction front with
  | nil => rfl
  | cons b front ih => simp [splitExactly?, ih]

theorem readUnsigned_framed (width : Nat) : Framed (readUnsigned width) := by
  intro bs n rest h
  unfold readUnsigned at h
  split at h
  · rename_i front back split
    simp only [Except.ok.injEq, Prod.mk.injEq] at h
    obtain ⟨rfl, rfl⟩ := h
    obtain ⟨rfl, rfl⟩ := splitExactly?_eq_some split
    exact ⟨front, rfl, fun more => by simp [readUnsigned, splitExactly?_append]⟩
  · simp at h

theorem readSigned_framed (width : Nat) : Framed (readSigned width) := by
  intro bs i rest h
  unfold readSigned at h
  split at h
  · rename_i n r unsigned
    simp only [Except.ok.injEq, Prod.mk.injEq] at h
    obtain ⟨rfl, rfl⟩ := h
    obtain ⟨front, rfl, reads⟩ := readUnsigned_framed width bs n r unsigned
    exact ⟨front, rfl, fun more => by simp [readSigned, reads more]⟩
  · simp at h

theorem readBody_framed (len : Nat) : Framed (readBody len) := by
  intro bs d rest h
  unfold readBody at h
  split at h
  · rename_i split
    simp only [Except.ok.injEq] at h
    subst h
    obtain ⟨rfl, rfl⟩ := splitExactly?_eq_some split
    exact ⟨d, rfl, fun more => by simp [readBody, splitExactly?_append]⟩
  · simp at h

theorem readSeq_framed {item : Reader α} (framed : Framed item) (count : Nat) :
    Framed (readSeq item count) := by
  induction count with
  | zero =>
    intro bs xs rest h
    simp only [readSeq, Except.ok.injEq, Prod.mk.injEq] at h
    obtain ⟨rfl, rfl⟩ := h
    exact ⟨[], rfl, fun _ => rfl⟩
  | succ count ih =>
    intro bs xs rest h
    unfold readSeq at h
    split at h
    · simp at h
    · rename_i a r first
      split at h
      · simp at h
      · rename_i as r' others
        simp only [Except.ok.injEq, Prod.mk.injEq] at h
        obtain ⟨rfl, rfl⟩ := h
        obtain ⟨front, rfl, reads⟩ := framed bs a r first
        obtain ⟨front', rfl, reads'⟩ := ih r as r' others
        refine ⟨front ++ front', by simp, fun more => ?_⟩
        simp [readSeq, List.append_assoc, reads (front' ++ more), reads' more]

theorem readEntry_framed {item : Reader Value} (framed : Framed item) :
    Framed (readEntry item) := by
  intro bs e rest h
  unfold readEntry at h
  split at h
  · simp at h
  · rename_i k r key
    split at h
    · simp at h
    · rename_i v r' value
      simp only [Except.ok.injEq, Prod.mk.injEq] at h
      obtain ⟨rfl, rfl⟩ := h
      obtain ⟨front, rfl, reads⟩ := framed bs k r key
      obtain ⟨front', rfl, reads'⟩ := framed r v r' value
      refine ⟨front ++ front', by simp, fun more => ?_⟩
      simp [readEntry, List.append_assoc, reads (front' ++ more), reads' more]

theorem withLength_framed {k : Nat → Reader α} (width : Nat) (framed : ∀ n, Framed (k n)) :
    Framed (withLength width k) := by
  intro bs a rest h
  unfold withLength at h
  split at h
  · simp at h
  · rename_i n r len
    obtain ⟨front, rfl, reads⟩ := readUnsigned_framed width bs n r len
    obtain ⟨front', rfl, reads'⟩ := framed n r a rest h
    refine ⟨front ++ front', by simp, fun more => ?_⟩
    simp [withLength, List.append_assoc, reads (front' ++ more), reads' more]

theorem Framed.error (e : ReadError) :
    Framed (fun _ => (.error e : Except ReadError (α × List UInt8))) := by
  intro bs a rest h
  cases h

theorem Framed.reads_of {r s : Reader α} (same : ∀ bs, r bs = s bs) (framed : Framed s)
    (bs : List UInt8) (a : α) (rest : List UInt8) (h : s bs = .ok (a, rest)) :
    ∃ front, bs = front ++ rest ∧ Reads r front a := by
  obtain ⟨front, rfl, reads⟩ := framed bs a rest h
  exact ⟨front, rfl, fun more => (same _).trans (reads more)⟩

theorem readStr_framed (budget len : Nat) : Framed (readStr budget len) := by
  intro bs v rest h
  simp only [readStr] at h
  split at h
  · cases h
  · exact Framed.reads_of (fun r => by simp [readStr, *])
      (Framed.map (fun _ _ _ => rfl) (readBody_framed len)) bs v rest h

theorem readBin_framed (budget len : Nat) : Framed (readBin budget len) := by
  intro bs v rest h
  simp only [readBin] at h
  split at h
  · cases h
  · exact Framed.reads_of (fun r => by simp [readBin, *])
      (Framed.map (fun _ _ _ => rfl) (readBody_framed len)) bs v rest h

theorem readExt_framed (budget len : Nat) : Framed (readExt budget len) := by
  intro bs v rest h
  simp only [readExt] at h
  split at h
  · cases h
  · rename_i shallow
    split at h
    · cases h
    · rename_i type r signed
      split at h
      · cases h
      · obtain ⟨front, rfl, reads⟩ := readSigned_framed 1 bs type r signed
        rename_i deep
        obtain ⟨front', rfl, reads'⟩ :=
          Framed.map (fun _ _ _ => rfl) (readBody_framed len) r v rest h
        refine ⟨front ++ front', by simp, fun more => ?_⟩
        simp only [readExt, shallow, deep, if_false, List.append_assoc, reads (front' ++ more)]
        exact reads' more

theorem readValue_cons_framed (b : Nat) (m : UInt8)
    (inner : ∀ c < b, Framed (readValue c)) :
    Framed (fun rest => readValue (b + 1) (m :: rest)) := by
  -- the elements of an array or a map are read with less budget than the value around them
  have arrays : ∀ c < b, ∀ count,
      Framed (fun bs => (readSeq (readValue c) count bs).map fun x => (Value.arr x.1, x.2)) :=
    fun c hc count => Framed.map (fun _ _ _ => rfl) (readSeq_framed (inner c hc) count)
  have tables : ∀ c < b, ∀ count,
      Framed (fun bs =>
        (readSeq (readEntry (readValue c)) count bs).map fun x => (Value.map x.1, x.2)) :=
    fun c hc count =>
      Framed.map (fun _ _ _ => rfl) (readSeq_framed (readEntry_framed (inner c hc)) count)
  simp only [readValue]
  repeat' split
  all_goals
    simp [Framed.pure, Framed.error, Framed.map, withLength_framed, readUnsigned_framed,
      readSigned_framed, readStr_framed, readBin_framed, readExt_framed, arrays, tables]

theorem readValue_reads (budget : Nat) :
    ∀ {bs v rest}, readValue budget bs = .ok (v, rest) →
      ∃ front, front ≠ [] ∧ bs = front ++ rest ∧ Reads (readValue budget) front v := by
  induction budget using Nat.strongRecOn with
  | ind budget inner =>
    intro bs v rest h
    match budget, bs with
    | 0, _ => simp [readValue] at h
    | _ + 1, [] => simp [readValue] at h
    | b + 1, m :: bs =>
      have framed : ∀ c < b, Framed (readValue c) := fun c hc bs v rest h => by
        obtain ⟨front, -, split, reads⟩ := inner c (by omega) h
        exact ⟨front, split, reads⟩
      obtain ⟨front, rfl, reads⟩ := readValue_cons_framed b m framed bs v rest h
      exact ⟨m :: front, List.cons_ne_nil _ _, rfl, reads⟩

end Framed

/-- A read of one value takes the first `n` bytes, at least one, and reads them as the same
value whatever follows them. -/
theorem readOne_reads {bytes : List UInt8} {v : Value} {n : Nat}
    (h : readOne bytes = .ok (v, n)) :
    0 < n ∧ n ≤ bytes.length ∧ ∀ more, readOne (bytes.take n ++ more) = .ok (v, n) := by
  cases value : readValue depthBudget bytes with
  | error e => simp [readOne, value, Except.map] at h
  | ok x =>
    obtain ⟨v', rest⟩ := x
    simp only [readOne, value, Except.map, Except.ok.injEq, Prod.mk.injEq] at h
    obtain ⟨rfl, rfl⟩ := h
    obtain ⟨front, nonempty, rfl, reads⟩ := readValue_reads depthBudget value
    have taken : (front ++ rest).length - rest.length = front.length := by simp
    have positive := List.length_pos_iff.mpr nonempty
    refine ⟨by omega, by simp, fun more => ?_⟩
    simp [readOne, reads more, Except.map]

theorem readOne_append {bytes : List UInt8} {v : Value} {n : Nat}
    (h : readOne bytes = .ok (v, n)) (more : List UInt8) :
    readOne (bytes ++ more) = .ok (v, n) := by
  obtain ⟨-, within, reads⟩ := readOne_reads h
  have split : bytes = bytes.take n ++ bytes.drop n := (List.take_append_drop n bytes).symm
  rw [split, List.append_assoc]
  exact reads _

theorem readOne_take {bytes : List UInt8} {v : Value} {n : Nat}
    (h : readOne bytes = .ok (v, n)) : readOne (bytes.take n) = .ok (v, n) := by
  simpa using (readOne_reads h).2.2 []

end ChatArchive.Wire
