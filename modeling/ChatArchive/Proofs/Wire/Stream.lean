import ChatArchive.Wire.Stream
import ChatArchive.Proofs.Wire.Framed
import Mathlib.Logic.Function.Iterate
import Mathlib.Data.List.Forall2
/-!
The walk through the values of a payload. Each call of `next` either gives nothing, once the walk
failed or the bytes are used up, or reads one value where the walk stands; a value takes at least
one byte and a failure ends the walk. So the walk gives at most one item per byte, then nothing
for ever, and its offset never passes the end of the payload.

A walk over a payload from some offset gives what a walk over the bytes after that offset gives,
with each failure moved by the offset. So `stream` unfolds one value at a time: a value read at
the front is followed by the stream of the bytes after it. From this the items of a payload cut
it into pieces, each a whole value read alone, then either nothing or one failure where the next
value starts; and reading exactly one value agrees with the first piece.
-/
namespace ChatArchive.Wire

def Failure.shift (k : Nat) : Failure → Failure
  | .malformed offset detail => .malformed (k + offset) detail
  | f => f

@[simp] theorem Failure.shift_zero (f : Failure) : f.shift 0 = f := by
  cases f <;> simp [Failure.shift]

theorem Failure.shift_shift (k m : Nat) (f : Failure) : (f.shift m).shift k = f.shift (k + m) := by
  cases f <;> simp [Failure.shift, Nat.add_assoc]

@[simp] theorem mapError_shift_zero (x : Except Failure Value) :
    x.mapError (Failure.shift 0) = x := by
  cases x <;> simp [Except.mapError]

theorem mapError_shift_shift (k m : Nat) (x : Except Failure Value) :
    (x.mapError (Failure.shift m)).mapError (Failure.shift k) = x.mapError (Failure.shift (k + m)) := by
  cases x <;> simp [Except.mapError, Failure.shift_shift]

@[simp] theorem mapError_eq_ok {f : Failure → Failure} {x : Except Failure Value} {v : Value} :
    x.mapError f = .ok v ↔ x = .ok v := by
  cases x <;> simp [Except.mapError]

theorem readAt_eq (bytes : List UInt8) (offset : Nat) :
    readAt bytes offset = (readOne (bytes.drop offset)).mapError (.malformed offset) := by
  unfold readAt
  split <;> simp [Except.mapError, *]

theorem decodeOne_of_ok {bytes : List UInt8} {v : Value} {n : Nat} (nonempty : bytes ≠ [])
    (h : readOne bytes = .ok (v, n)) :
    decodeOne bytes =
      if n < bytes.length then .error (.trailing n (bytes.length - n)) else .ok v := by
  simp [decodeOne, nonempty, readAt_eq, h, Except.mapError]

theorem decodeOne_of_error {bytes : List UInt8} {e : ReadError} (nonempty : bytes ≠ [])
    (h : readOne bytes = .error e) : decodeOne bytes = .error (.malformed 0 e) := by
  simp [decodeOne, nonempty, readAt_eq, h, Except.mapError]

theorem decodeOne_eq_ok_iff {bytes : List UInt8} {v : Value} :
    decodeOne bytes = .ok v ↔ readOne bytes = .ok (v, bytes.length) := by
  constructor
  · intro h
    have nonempty : bytes ≠ [] := by
      rintro rfl
      cases h
    cases hr : readOne bytes with
    | error e => simp [decodeOne_of_error nonempty hr] at h
    | ok x =>
      obtain ⟨w, n⟩ := x
      have within := (readOne_reads hr).2.1
      rw [decodeOne_of_ok nonempty hr] at h
      split at h
      · cases h
      · cases h
        have whole : n = bytes.length := by omega
        rw [whole]
  · intro h
    have nonempty : bytes ≠ [] := by
      rintro rfl
      simpa using (readOne_reads h).1
    simp [decodeOne_of_ok nonempty h]

namespace ValueStream

def remaining (s : ValueStream) : Nat := if s.failed then 0 else s.bytes.length - s.offset

theorem next_of_failed {s : ValueStream} (failed : s.failed = true) : s.next = (none, s) := by
  simp [next, failed]

theorem next_of_end {s : ValueStream} (done : s.bytes.length ≤ s.offset) : s.next = (none, s) := by
  simp [next, done]

theorem next_of_ok {s : ValueStream} {v : Value} {n : Nat} (going : s.failed = false)
    (within : s.offset < s.bytes.length) (h : readOne (s.bytes.drop s.offset) = .ok (v, n)) :
    s.next = (some (.ok v), { s with offset := s.offset + n }) := by
  simp [next, going, Nat.not_le.mpr within, readAt_eq, h, Except.mapError]

theorem next_of_error {s : ValueStream} {e : ReadError} (going : s.failed = false)
    (within : s.offset < s.bytes.length) (h : readOne (s.bytes.drop s.offset) = .error e) :
    s.next = (some (.error (.malformed s.offset e)), { s with failed := true }) := by
  simp [next, going, Nat.not_le.mpr within, readAt_eq, h, Except.mapError]

/-- Everything one call of `next` can do. -/
theorem next_cases (s : ValueStream) :
    (s.next = (none, s) ∧ s.remaining = 0) ∨
    (∃ v n, s.failed = false ∧ 0 < n ∧ s.offset + n ≤ s.bytes.length ∧
      readOne (s.bytes.drop s.offset) = .ok (v, n) ∧
      s.next = (some (.ok v), { s with offset := s.offset + n })) ∨
    (∃ e, s.failed = false ∧ s.offset < s.bytes.length ∧
      readOne (s.bytes.drop s.offset) = .error e ∧
      s.next = (some (.error (.malformed s.offset e)), { s with failed := true })) := by
  by_cases failed : s.failed = true
  · exact .inl ⟨next_of_failed failed, by simp [remaining, failed]⟩
  have going : s.failed = false := by simpa using failed
  by_cases done : s.bytes.length ≤ s.offset
  · exact .inl ⟨next_of_end done, by simp [remaining, going]; omega⟩
  have within : s.offset < s.bytes.length := Nat.lt_of_not_le done
  cases hr : readOne (s.bytes.drop s.offset) with
  | error e => exact .inr (.inr ⟨e, going, within, rfl, next_of_error going within hr⟩)
  | ok x =>
    obtain ⟨v, n⟩ := x
    obtain ⟨positive, fits, -⟩ := readOne_reads hr
    refine .inr (.inl ⟨v, n, going, positive, ?_, rfl, next_of_ok going within hr⟩)
    simp only [List.length_drop] at fits
    omega

theorem next_of_remaining_zero {s : ValueStream} (nothing : s.remaining = 0) :
    s.next = (none, s) := by
  rcases s.next_cases with ⟨none, -⟩ | ⟨v, n, going, positive, fits, -, -⟩ | ⟨e, going, within, -, -⟩
  · exact none
  · simp [remaining, going] at nothing
    omega
  · simp [remaining, going] at nothing
    omega

theorem remaining_lt_of_next {s s' : ValueStream} {i : Except Failure Value}
    (h : s.next = (some i, s')) : s'.remaining < s.remaining := by
  rcases s.next_cases with ⟨none, -⟩ | ⟨v, n, going, positive, fits, -, step⟩ |
    ⟨e, going, within, -, step⟩
  · rw [none] at h
    cases h
  · rw [step] at h
    cases h
    simp [remaining, going]
    omega
  · rw [step] at h
    cases h
    simp [remaining, going]
    omega

theorem next_offset_le {s : ValueStream} (h : s.offset ≤ s.bytes.length) :
    s.next.2.bytes = s.bytes ∧ s.next.2.offset ≤ s.bytes.length := by
  rcases s.next_cases with ⟨none, -⟩ | ⟨v, n, going, positive, fits, -, step⟩ |
    ⟨e, going, within, -, step⟩
  · simp [none, h]
  · simp [step, fits]
  · simp [step, h]

theorem items_length_le (fuel : Nat) (s : ValueStream) : (s.items fuel).length ≤ s.remaining := by
  induction fuel generalizing s with
  | zero => simp [items]
  | succ fuel ih =>
    unfold items
    split
    · rename_i i s' step
      have fewer := remaining_lt_of_next step
      have rest := ih s'
      simp only [List.length_cons]
      omega
    · simp

theorem items_succ (fuel : Nat) (s : ValueStream) (enough : s.remaining ≤ fuel) :
    s.items (fuel + 1) = s.items fuel := by
  induction fuel generalizing s with
  | zero => simp [items, next_of_remaining_zero (Nat.le_zero.mp enough)]
  | succ fuel ih =>
    unfold items
    split
    · rename_i i s' step
      rw [ih s' (by have := remaining_lt_of_next step; omega)]
    · rfl

theorem items_of_le {fuel fuel' : Nat} {s : ValueStream} (enough : s.remaining ≤ fuel)
    (more : fuel ≤ fuel') : s.items fuel' = s.items fuel := by
  induction more with
  | refl => rfl
  | @step m between ih =>
    have le : fuel ≤ m := between
    rw [items_succ m s (by omega), ih]

theorem next_iterate (fuel : Nat) (s : ValueStream) (enough : s.remaining ≤ fuel) (n : Nat) :
    ((fun t : ValueStream => t.next.2)^[n] s).next.1 = (s.items fuel)[n]? := by
  -- each item costs the walk some of what it has left to read, so fuel at least that much is
  -- never the reason it stops
  induction fuel generalizing s n with
  | zero =>
    have stays := next_of_remaining_zero (Nat.le_zero.mp enough)
    have fixed : (fun t : ValueStream => t.next.2)^[n] s = s :=
      Function.iterate_fixed (by simp [stays]) n
    simp [fixed, stays, items]
  | succ fuel ih =>
    cases step : s.next with
    | mk item s' =>
      cases item with
      | none =>
        -- a call that gives nothing leaves the walk as it was, so every later call does too
        have stays : s' = s := by
          rcases s.next_cases with ⟨none, -⟩ | ⟨_, _, _, _, _, _, other⟩ | ⟨_, _, _, _, other⟩
          · rw [none] at step
            exact (Prod.mk.inj step).2.symm
          · rw [other] at step
            cases step
          · rw [other] at step
            cases step
        subst stays
        have fixed : (fun t : ValueStream => t.next.2)^[n] s' = s' :=
          Function.iterate_fixed (by simp [step]) n
        simp [fixed, step, items]
      | some i =>
        have fewer : s'.remaining ≤ fuel := by
          have := remaining_lt_of_next step
          omega
        cases n with
        | zero => simp [step, items]
        | succ n =>
          rw [Function.iterate_succ_apply]
          simp only [step, items, List.getElem?_cons_succ]
          exact ih s' fewer n

theorem offset_iterate_le (s : ValueStream) (h : s.offset ≤ s.bytes.length) (n : Nat) :
    ((fun t : ValueStream => t.next.2)^[n] s).offset ≤ s.bytes.length := by
  induction n generalizing s with
  | zero => exact h
  | succ n ih =>
    rw [Function.iterate_succ_apply]
    obtain ⟨same, within⟩ := next_offset_le h
    have := ih s.next.2 (same ▸ within)
    rwa [same] at this

theorem items_of_failed (fuel : Nat) (s : ValueStream) (failed : s.failed = true) :
    s.items fuel = [] := by
  cases fuel with
  | zero => rfl
  | succ fuel => simp [items, next_of_failed failed]

theorem items_drop (bytes : List UInt8) (o : Nat) (within : o ≤ bytes.length) (fuel : Nat) :
    ∀ k failed, (⟨bytes, o + k, failed⟩ : ValueStream).items fuel =
      ((⟨bytes.drop o, k, failed⟩ : ValueStream).items fuel).map
        (·.mapError (Failure.shift o)) := by
  -- the two walks take the same steps at once: induction on the fuel, with the offset into
  -- the suffix and the failed flag left free
  induction fuel with
  | zero => intro k failed; rfl
  | succ fuel ih =>
    intro k failed
    cases failed with
    | true => simp [items_of_failed]
    | false =>
      by_cases done : bytes.length ≤ o + k
      · have done' : (bytes.drop o).length ≤ k := by simp; omega
        simp [items, next_of_end (s := ⟨bytes, o + k, false⟩) done,
          next_of_end (s := ⟨bytes.drop o, k, false⟩) done']
      have inside : o + k < bytes.length := by omega
      have inside' : k < (bytes.drop o).length := by simp; omega
      have same : (bytes.drop o).drop k = bytes.drop (o + k) := List.drop_drop
      cases hr : readOne (bytes.drop (o + k)) with
      | error e =>
        have hr' : readOne ((bytes.drop o).drop k) = .error e := by rw [same, hr]
        simp [items, next_of_error (s := ⟨bytes, o + k, false⟩) rfl inside hr,
          next_of_error (s := ⟨bytes.drop o, k, false⟩) rfl inside' hr', items_of_failed,
          Except.mapError, Failure.shift]
      | ok x =>
        obtain ⟨v, n⟩ := x
        have hr' : readOne ((bytes.drop o).drop k) = .ok (v, n) := by rw [same, hr]
        have step := next_of_ok (s := ⟨bytes, o + k, false⟩) rfl inside hr
        have step' := next_of_ok (s := ⟨bytes.drop o, k, false⟩) rfl inside' hr'
        simp only [items, step, step', List.map_cons]
        rw [Nat.add_assoc, ih (k + n) false]
        rfl

end ValueStream

theorem stream_nil : stream [] = [] := rfl

theorem stream_of_ok {bytes : List UInt8} {v : Value} {n : Nat} (h : readOne bytes = .ok (v, n)) :
    stream bytes = .ok v :: (stream (bytes.drop n)).map (·.mapError (Failure.shift n)) := by
  obtain ⟨positive, within, -⟩ := readOne_reads h
  obtain ⟨l, hl⟩ : ∃ l, bytes.length = l + 1 := ⟨bytes.length - 1, by omega⟩
  have start : stream bytes = (⟨bytes, 0, false⟩ : ValueStream).items (l + 1) := by
    rw [stream, hl]
    rfl
  have first : (⟨bytes, 0, false⟩ : ValueStream).next = (some (.ok v), ⟨bytes, n, false⟩) := by
    simpa using ValueStream.next_of_ok (s := ⟨bytes, 0, false⟩) rfl (by simp; omega)
      (by simpa using h)
  have tail := ValueStream.items_drop bytes n within l 0 false
  have fuel : (⟨bytes.drop n, 0, false⟩ : ValueStream).items l = stream (bytes.drop n) :=
    ValueStream.items_of_le (by simp [ValueStream.remaining]) (by simp; omega)
  rw [Nat.add_zero] at tail
  rw [start, ValueStream.items, first]
  simp only
  rw [tail, fuel]

theorem stream_of_error {bytes : List UInt8} {e : ReadError} (nonempty : bytes ≠ [])
    (h : readOne bytes = .error e) : stream bytes = [.error (.malformed 0 e)] := by
  obtain ⟨l, hl⟩ : ∃ l, bytes.length = l + 1 :=
    ⟨bytes.length - 1, by have := List.length_pos_iff.mpr nonempty; omega⟩
  have start : stream bytes = (⟨bytes, 0, false⟩ : ValueStream).items (l + 1) := by
    rw [stream, hl]
    rfl
  have first : (⟨bytes, 0, false⟩ : ValueStream).next =
      (some (.error (.malformed 0 e)), ⟨bytes, 0, true⟩) :=
    ValueStream.next_of_error (s := ⟨bytes, 0, false⟩) rfl (by simp; omega) (by simpa using h)
  rw [start, ValueStream.items, first]
  simp [ValueStream.items_of_failed]

theorem stream_pieces (bytes : List UInt8) :
    ∃ pieces vs rest, bytes = pieces.flatten ++ rest ∧
      List.Forall₂ (fun p v => p ≠ [] ∧ decodeOne p = .ok v) pieces vs ∧
      ((rest = [] ∧ stream bytes = vs.map .ok) ∨
        (∃ e, rest ≠ [] ∧ readOne rest = .error e ∧
          stream bytes = vs.map .ok ++ [.error (.malformed pieces.flatten.length e)])) := by
  induction h : bytes.length using Nat.strongRecOn generalizing bytes with
  | ind len ih =>
    match bytes, h with
    | [], _ => exact ⟨[], [], [], rfl, .nil, .inl ⟨rfl, rfl⟩⟩
    | b :: bs, h =>
      cases hr : readOne (b :: bs) with
      | error e =>
        exact ⟨[], [], b :: bs, rfl, .nil,
          .inr ⟨e, List.cons_ne_nil _ _, hr, by simp [stream_of_error (List.cons_ne_nil _ _) hr]⟩⟩
      | ok x =>
        obtain ⟨v, n⟩ := x
        obtain ⟨positive, within, -⟩ := readOne_reads hr
        simp only [List.length_cons] at h within
        obtain ⟨pieces, vs, rest, split, tiles, ends⟩ :=
          ih ((b :: bs).drop n).length (by simp; omega) ((b :: bs).drop n) rfl
        have piece : ((b :: bs).take n).length = n := by simp; omega
        refine ⟨(b :: bs).take n :: pieces, v :: vs, rest, ?_, .cons ⟨?_, ?_⟩ tiles, ?_⟩
        · rw [List.flatten_cons, List.append_assoc, ← split, List.take_append_drop]
        · exact List.ne_nil_of_length_pos (by omega)
        · rw [decodeOne_eq_ok_iff, piece]
          exact readOne_take hr
        · rw [stream_of_ok hr]
          rcases ends with ⟨rfl, tail⟩ | ⟨e, left, failed, tail⟩
          · exact .inl ⟨rfl, by simp [tail, Except.mapError]⟩
          · refine .inr ⟨e, left, failed, ?_⟩
            simp [tail, piece, Except.mapError, Failure.shift]

/-- The items of a payload are its values, then at most one failure, which is a malformed
value before the end. -/
theorem stream_shape (bytes : List UInt8) :
    ∃ (vs : List Value) (last : Option Failure),
      stream bytes = vs.map .ok ++ last.toList.map .error ∧
      ∀ f ∈ last, ∃ o d, f = .malformed o d ∧ o < bytes.length := by
  obtain ⟨pieces, vs, rest, split, -, ends⟩ := stream_pieces bytes
  rcases ends with ⟨-, tail⟩ | ⟨e, left, -, tail⟩
  · exact ⟨vs, none, by simp [tail], by simp⟩
  · refine ⟨vs, some (.malformed pieces.flatten.length e), by simp [tail], ?_⟩
    have := List.length_pos_iff.mpr left
    simp only [Option.mem_def, Option.some.injEq, forall_eq', Failure.malformed.injEq]
    exact ⟨_, e, ⟨rfl, rfl⟩, by rw [split, List.length_append]; omega⟩

theorem stream_ne_nil {bytes : List UInt8} (nonempty : bytes ≠ []) : stream bytes ≠ [] := by
  cases hr : readOne bytes with
  | error e => simp [stream_of_error nonempty hr]
  | ok x => simp [stream_of_ok hr]

theorem values_of_map_mapError {f : Failure → Failure} {items : List (Except Failure Value)}
    {ws : List Value} (h : items.map (·.mapError f) = ws.map .ok) : items = ws.map .ok := by
  induction items generalizing ws with
  | nil => cases ws <;> simp_all
  | cons x items ih =>
    cases ws with
    | nil => cases h
    | cons w ws =>
      simp only [List.map_cons, List.cons.injEq, mapError_eq_ok] at h
      rw [h.1, ih h.2, List.map_cons]

theorem stream_append {a : List UInt8} (values : ∃ vs : List Value, stream a = vs.map .ok)
    (b : List UInt8) :
    stream (a ++ b) = stream a ++ (stream b).map (·.mapError (Failure.shift a.length)) := by
  induction h : a.length using Nat.strongRecOn generalizing a with
  | ind len ih =>
    obtain ⟨vs, tail⟩ := values
    by_cases empty : a = []
    · subst empty
      simp only [List.length_nil] at h
      subst h
      simp [stream_nil]
    cases hr : readOne a with
    | error e =>
      rw [stream_of_error empty hr] at tail
      cases vs <;> simp at tail
    | ok r =>
      obtain ⟨v, n⟩ := r
      obtain ⟨positive, within, -⟩ := readOne_reads hr
      have rest_values : ∃ ws : List Value, stream (a.drop n) = ws.map .ok := by
        rw [stream_of_ok hr] at tail
        cases vs with
        | nil => cases tail
        | cons w ws =>
          simp only [List.map_cons, List.cons.injEq] at tail
          exact ⟨ws, values_of_map_mapError tail.2⟩
      have shorter : (a.drop n).length < len := by simp; omega
      rw [stream_of_ok (readOne_append hr b), stream_of_ok hr, List.drop_append_of_le_length within,
        ih _ shorter rest_values rfl]
      have total : n + (a.length - n) = len := by omega
      simp [List.map_map, Function.comp_def, mapError_shift_shift, total]

theorem readOne_of_first_piece {bytes p rest : List UInt8} {pieces : List (List UInt8)}
    {v : Value} (split : bytes = (p :: pieces).flatten ++ rest) (whole : decodeOne p = .ok v) :
    readOne bytes = .ok (v, p.length) := by
  rw [split, List.flatten_cons, List.append_assoc]
  exact readOne_append (decodeOne_eq_ok_iff.mp whole) _

theorem decodeOne_of_pieces {bytes rest : List UInt8} {pieces : List (List UInt8)}
    {vs : List Value} (split : bytes = pieces.flatten ++ rest)
    (tiles : List.Forall₂ (fun p v => p ≠ [] ∧ decodeOne p = .ok v) pieces vs)
    (ends : (rest = [] ∧ stream bytes = vs.map .ok) ∨
      (∃ e, rest ≠ [] ∧ readOne rest = .error e ∧
        stream bytes = vs.map .ok ++ [.error (.malformed pieces.flatten.length e)])) :
    (decodeOne bytes = .error .empty ↔ bytes = []) ∧
    (∀ v, decodeOne bytes = .ok v ↔
      ∃ p ps vs', pieces = p :: ps ∧ vs = v :: vs' ∧ p.length = bytes.length) ∧
    (∀ c r, decodeOne bytes = .error (.trailing c r) ↔
      ∃ p ps, pieces = p :: ps ∧ c = p.length ∧ c < bytes.length ∧ r = bytes.length - c) ∧
    (∀ o e, decodeOne bytes = .error (.malformed o e) ↔
      o = 0 ∧ pieces = [] ∧ stream bytes = [.error (.malformed 0 e)]) := by
  cases tiles with
  | nil =>
    simp only [List.flatten_nil, List.nil_append] at split
    subst split
    rcases ends with ⟨rfl, -⟩ | ⟨e, nonempty, failed, tail⟩
    · simp [decodeOne, stream_nil]
    · simp [decodeOne_of_error nonempty failed, tail, nonempty, eq_comm]
  | @cons p v ps vs' first _ =>
    obtain ⟨nonempty, whole⟩ := first
    have read := readOne_of_first_piece split whole
    have within : p.length ≤ bytes.length := by
      rw [split]
      simp
    have present : bytes ≠ [] := by
      rintro rfl
      have := List.length_pos_iff.mpr nonempty
      simp only [List.length_nil] at within
      omega
    rw [decodeOne_of_ok present read]
    by_cases short : p.length < bytes.length
    · simp only [short, if_true]
      refine ⟨by simp [present], fun w => by simp; omega, fun c r => ?_, fun o e => by simp⟩
      constructor
      · intro h
        cases h
        exact ⟨p, ps, rfl, rfl, short, rfl⟩
      · rintro ⟨p', ps', same, rfl, -, rfl⟩
        cases same
        rfl
    · have whole : p.length = bytes.length := by omega
      simp only [short, if_false]
      refine ⟨by simp [present], fun w => ?_, fun c r => by simp; omega, fun o e => by simp⟩
      constructor
      · intro h
        cases h
        exact ⟨p, ps, vs', rfl, rfl, whole⟩
      · rintro ⟨p', ps', vs'', same, same', -⟩
        cases same
        cases same'
        rfl

/-- The walk through a payload ends and cuts the payload into values. It gives at most one item
per byte; the `n`-th call of `next` gives the `n`-th item and every call past the last gives
nothing; its offset never passes the end of the payload. The items are whole values, each read
alone from its own nonempty piece of the payload, the pieces following one another from the
start, and then either the payload is used up or one failure stands where the next piece would
begin, before the end. Reading exactly one value agrees with the first piece. -/
theorem stream_tiles (bytes : List UInt8) :
    (stream bytes).length ≤ bytes.length ∧
    (∀ n, ((fun s : ValueStream => s.next.2)^[n] (decodeStream bytes)).next.1 =
      (stream bytes)[n]?) ∧
    (∀ n, ((fun s : ValueStream => s.next.2)^[n] (decodeStream bytes)).offset ≤ bytes.length) ∧
    ∃ pieces vs rest, bytes = pieces.flatten ++ rest ∧
      List.Forall₂ (fun p v => p ≠ [] ∧ decodeOne p = .ok v) pieces vs ∧
      ((rest = [] ∧ stream bytes = vs.map .ok) ∨
        (rest ≠ [] ∧ ∃ e, stream bytes = vs.map .ok ++ [.error (.malformed pieces.flatten.length e)])) ∧
      (decodeOne bytes = .error .empty ↔ bytes = []) ∧
      (∀ v, decodeOne bytes = .ok v ↔
        ∃ p ps vs', pieces = p :: ps ∧ vs = v :: vs' ∧ p.length = bytes.length) ∧
      (∀ c r, decodeOne bytes = .error (.trailing c r) ↔
        ∃ p ps, pieces = p :: ps ∧ c = p.length ∧ c < bytes.length ∧ r = bytes.length - c) ∧
      (∀ o e, decodeOne bytes = .error (.malformed o e) ↔
        o = 0 ∧ pieces = [] ∧ stream bytes = [.error (.malformed 0 e)]) := by
  have start : (decodeStream bytes).remaining = bytes.length := by
    simp [decodeStream, ValueStream.remaining]
  refine ⟨?_, fun n => ?_, fun n => ?_, ?_⟩
  · simpa [start, stream] using ValueStream.items_length_le bytes.length (decodeStream bytes)
  · exact ValueStream.next_iterate bytes.length _ (Nat.le_of_eq start) n
  · exact ValueStream.offset_iterate_le (decodeStream bytes) (Nat.zero_le _) n
  · obtain ⟨pieces, vs, rest, split, tiles, ends⟩ := stream_pieces bytes
    refine ⟨pieces, vs, rest, split, tiles, ?_, decodeOne_of_pieces split tiles ends⟩
    rcases ends with done | ⟨e, left, -, tail⟩
    · exact .inl done
    · exact .inr ⟨left, e, tail⟩

end ChatArchive.Wire
