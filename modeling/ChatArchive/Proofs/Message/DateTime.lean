import ChatArchive.Proofs.Clock.Instant
import ChatArchive.Proofs.Message.Footprint
/-!
Date-times read from values. A timestamp is read in UTC. A pair of a wall-clock timestamp and an
offset in minutes is read when the offset is an integer of at most 1439 minutes either way, the
most a fixed offset of less than a day allows; it then names the instant that many minutes
before the wall clock, with the offset kept, and fails only when that instant leaves the
representable years. Nothing else is a date-time. A reply's creation and completion times are the
date-times of its fields 2 and 3, whether the reply is written as a map or as an array.
-/
namespace ChatArchive.Message

open ChatArchive.Clock ChatArchive.Numeral

/-- An offset is accepted for at most 1439 minutes either way: 1440 minutes make a day. -/
theorem offset_accepted_iff (m : Int) : (m * 60).natAbs < 86400 ↔ -1439 ≤ m ∧ m ≤ 1439 := by
  omega

theorem asI64?_of_offset {m : Int} (lo : -1439 ≤ m) (hi : m ≤ 1439) :
    (Value.int m).asI64? = some m := by
  have bound : Int.pow 2 63 = 9223372036854775808 := by decide
  apply Value.asI64?_eq_some_iff.mpr
  refine ⟨rfl, ?_⟩
  simp only [inI64, bound, Bool.and_eq_true, decide_eq_true_eq]
  omega

theorem asDateTime?_pair_eq_some_iff {l : Instant} {x : Value} {z : Zoned} :
    (Value.arr [.time l, x]).asDateTime? = some z ↔
      ∃ m : Int, x = .int m ∧ -1439 ≤ m ∧ m ≤ 1439 ∧ z.offset = 60 * m ∧
        l.shift? (-(60 * m)) = some z.instant := by
  simp only [Value.asDateTime?]
  cases read : x.asI64? with
  | none =>
    simp only [reduceCtorEq, false_iff, not_exists, not_and]
    rintro m rfl lo hi
    rw [asI64?_of_offset lo hi] at read
    cases read
  | some minutes =>
    obtain ⟨rfl, -⟩ := Value.asI64?_eq_some_iff.mp read
    by_cases accepted : (minutes * 60).natAbs < 86400
    · have range := (offset_accepted_iff minutes).mp accepted
      simp only [accepted, dif_pos, Option.map_eq_some_iff]
      constructor
      · rintro ⟨u, shifted, rfl⟩
        refine ⟨minutes, rfl, range.1, range.2, Int.mul_comm _ _, ?_⟩
        rw [Int.mul_comm]
        exact shifted
      · rintro ⟨m, same, -, -, offset, shifted⟩
        cases same
        refine ⟨z.instant, by rw [Int.mul_comm]; exact shifted, ?_⟩
        exact Zoned.ext rfl (by show minutes * 60 = z.offset; rw [offset, Int.mul_comm])
    · simp only [accepted, dif_neg, not_false_eq_true, reduceCtorEq, false_iff, not_exists,
        not_and]
      rintro m same lo hi
      cases same
      exact absurd ((offset_accepted_iff minutes).mpr ⟨lo, hi⟩) accepted

theorem asDateTime?_other {v : Value} :
    v.asDateTime? = none ∨ (∃ t, v = .time t) ∨ ∃ l x, v = .arr [.time l, x] := by
  unfold Value.asDateTime?
  split
  · exact .inr (.inl ⟨_, rfl⟩)
  · exact .inr (.inr ⟨_, _, rfl⟩)
  · exact .inl rfl

theorem asDateTime?_getD_nil (o : Option Value) :
    (o.getD .nil).asDateTime? = o.bind Value.asDateTime? := by
  cases o <;> rfl

theorem reply?_dates {body : Value} {r : Reply} (read : reply? body = some r) :
    r.createdAt = (body.get .assistantCreatedAt).asDateTime? ∧
      r.finishedAt = (body.get .assistantFinishedAt).asDateTime? := by
  obtain ⟨record, passed⟩ := reply?_passing (b := body) (by simp [read])
  rw [reply?_of_passing record passed] at read
  cases read
  exact ⟨rfl, rfl⟩

theorem dateTime_map (es : List (Key × Value)) {f : Field} (absent : f.default = .nil) :
    (Value.map es).dateTime f = ((es.find? (·.1 == .int f.index)).map (·.2)).bind Value.asDateTime? := by
  rw [Value.dateTime, get_map, absent, asDateTime?_getD_nil]

theorem dateTime_arr (xs : List Value) {f : Field} (absent : f.default = .nil) :
    (Value.arr xs).dateTime f = xs[f.index]?.bind Value.asDateTime? := by
  rw [Value.dateTime, get_arr, absent, asDateTime?_getD_nil, Option.bind_map]
  congr 1
  funext v
  simp only [Function.comp, Field.settle_of_absent absent]

/-- A timestamp reads in UTC. A `[timestamp, offset]` pair reads exactly when the offset is an
integer of at most 1439 minutes either way and the instant that many minutes before the wall
clock is representable; it then carries the offset, in seconds, and the wall clock's seconds less
the offset (a leap second read backward counting from the second after it) with its fraction of a
second. Nothing else reads as a date-time, and a reply's two dates are the readings of its fields
2 and 3 in either layout. -/
theorem asDateTime?_exact (v x : Value) (l : Instant) (z : Zoned) (es : List (Key × Value))
    (xs : List Value) (r : Reply) :
    (Value.time l).asDateTime? = some (Zoned.utc l) ∧
    ((Value.arr [.time l, x]).asDateTime? = some z ↔
      ∃ m : Int, x = .int m ∧ -1439 ≤ m ∧ m ≤ 1439 ∧ z.offset = 60 * m ∧
        z.instant.secs = l.shiftBase (-(60 * m)) - 60 * m ∧
        z.instant.nanos = (if m = 0 then l.nanos else l.subsecNanos)) ∧
    ((Value.arr [.time l, x]).asDateTime?.isSome ↔
      ∃ m : Int, x = .int m ∧ -1439 ≤ m ∧ m ≤ 1439 ∧
        minSecs ≤ l.shiftBase (-(60 * m)) - 60 * m ∧ l.shiftBase (-(60 * m)) - 60 * m ≤ maxSecs) ∧
    (v.asDateTime? = none ∨ (∃ t, v = .time t) ∨ ∃ l x, v = .arr [.time l, x]) ∧
    (reply? (.map es) = some r →
      r.createdAt = ((es.find? (·.1 == .int 2)).map (·.2)).bind Value.asDateTime? ∧
      r.finishedAt = ((es.find? (·.1 == .int 3)).map (·.2)).bind Value.asDateTime?) ∧
    (reply? (.arr xs) = some r →
      r.createdAt = xs[2]?.bind Value.asDateTime? ∧ r.finishedAt = xs[3]?.bind Value.asDateTime?) := by
  refine ⟨rfl, ?_, ?_, asDateTime?_other, ?_, ?_⟩
  · rw [asDateTime?_pair_eq_some_iff]
    refine exists_congr fun m => ?_
    rw [Instant.shift?_eq_some_iff]
    -- the shift is by zero exactly when the offset is
    have zero : (-(60 * m) = 0) ↔ m = 0 := by omega
    simp only [zero, Int.sub_eq_add_neg]
  · simp only [Option.isSome_iff_exists, asDateTime?_pair_eq_some_iff]
    constructor
    · rintro ⟨z, m, rfl, lo, hi, -, shifted⟩
      have found : (l.shift? (-(60 * m))).isSome := by rw [shifted]; rfl
      rw [Instant.shift?_isSome_iff] at found
      exact ⟨m, rfl, lo, hi, by omega⟩
    · rintro ⟨m, rfl, lo, hi, within⟩
      have found : (l.shift? (-(60 * m))).isSome := Instant.shift?_isSome_iff.mpr (by omega)
      obtain ⟨u, shifted⟩ := Option.isSome_iff_exists.mp found
      refine ⟨⟨u, 60 * m, by omega⟩, m, rfl, lo, hi, rfl, shifted⟩
  · intro read
    obtain ⟨created, finished⟩ := reply?_dates read
    exact ⟨created.trans (dateTime_map es rfl), finished.trans (dateTime_map es rfl)⟩
  · intro read
    obtain ⟨created, finished⟩ := reply?_dates read
    exact ⟨created.trans (dateTime_arr xs rfl), finished.trans (dateTime_arr xs rfl)⟩

theorem asDateTime?_exact_of_creation_time :
    reply? (.map [(.int 2, .time ⟨1700000000, 0, by decide⟩)]) =
        some ⟨[], some (Zoned.utc ⟨1700000000, 0, by decide⟩), none, ⟨0, 0, Double.zero false⟩⟩ ∧
      reply? (.arr [.nil, .nil, .time ⟨1700000000, 0, by decide⟩, .nil, .nil, .nil]) =
        some ⟨[], some (Zoned.utc ⟨1700000000, 0, by decide⟩), none, ⟨0, 0, Double.zero false⟩⟩ ∧
      (Reply.mk [] (some (Zoned.utc ⟨1700000000, 0, by decide⟩)) none
          ⟨0, 0, Double.zero false⟩).createdAt =
        [Value.nil, .nil, .time ⟨1700000000, 0, by decide⟩, .nil, .nil, .nil][2]?.bind
          Value.asDateTime? ∧
      (Value.arr [.time ⟨1700000000, 0, by decide⟩, .int 480]).asDateTime?.isSome := by
  have main := asDateTime?_exact .nil (.int 480) ⟨1700000000, 0, by decide⟩
    (Zoned.utc ⟨1700000000, 0, by decide⟩) [(.int 2, .time ⟨1700000000, 0, by decide⟩)]
    [.nil, .nil, .time ⟨1700000000, 0, by decide⟩, .nil, .nil, .nil]
    ⟨[], some (Zoned.utc ⟨1700000000, 0, by decide⟩), none, ⟨0, 0, Double.zero false⟩⟩
  have asMap : reply? (.map [(.int 2, .time ⟨1700000000, 0, by decide⟩)]) =
      some ⟨[], some (Zoned.utc ⟨1700000000, 0, by decide⟩), none, ⟨0, 0, Double.zero false⟩⟩ := rfl
  have asArray : reply? (.arr [.nil, .nil, .time ⟨1700000000, 0, by decide⟩, .nil, .nil, .nil]) =
      some ⟨[], some (Zoned.utc ⟨1700000000, 0, by decide⟩), none, ⟨0, 0, Double.zero false⟩⟩ := rfl
  exact ⟨asMap, asArray, (main.2.2.2.2.2 asArray).1,
    main.2.2.1.mpr ⟨480, rfl, by decide, by decide, by decide, by decide⟩⟩

end ChatArchive.Message
