import ChatArchive.Clock.Ticks
/-!
Instants by their seconds and nanoseconds. `ofUnix?` gives an instant exactly when the two are
valid, and a shift moves the seconds by its amount and keeps the fraction of the second, a leap
second being left from the second it extends when going forward and from the second after it
when going back.

Tick counts convert exactly. A count names an instant unless subtracting the epoch offset leaves
the signed 64-bit range; the nanoseconds always pass their unsigned 32-bit conversion and the
representable years hold every other count, so neither check rejects one. The instant is then no
leap second, holds whole hundreds of nanoseconds, and gives the count back, so distinct counts
name distinct instants, and the report form falls back to the count's digits exactly when there
is no instant.
-/
namespace ChatArchive.Clock

namespace Instant

theorem ofUnix?_eq_some_iff {secs : Int} {nanos : Nat} {t : Instant} :
    ofUnix? secs nanos = some t ↔ t.secs = secs ∧ t.nanos = nanos := by
  constructor
  · intro made
    unfold ofUnix? at made
    split at made
    · cases made
      exact ⟨rfl, rfl⟩
    · cases made
  · rintro ⟨rfl, rfl⟩
    simp [ofUnix?, t.valid]

theorem ofUnix?_isSome_iff {secs : Int} {nanos : Nat} :
    (ofUnix? secs nanos).isSome ↔ Valid secs nanos := by
  unfold ofUnix?
  split <;> simp_all

theorem isLeap_eq_false_iff {t : Instant} : t.isLeap = false ↔ t.nanos < 1000000000 := by
  simp [isLeap]

theorem subsecNanos_of_isLeap {t : Instant} (leap : t.isLeap = true) :
    t.subsecNanos = t.nanos - 1000000000 := by
  have bound := t.valid.2.2.1
  simp only [isLeap, decide_eq_true_eq] at leap
  simp only [subsecNanos]
  omega

theorem subsecNanos_of_not_isLeap {t : Instant} (ordinary : t.isLeap = false) :
    t.subsecNanos = t.nanos := by
  simp only [isLeap_eq_false_iff] at ordinary
  simp only [subsecNanos]
  omega

/-- The second a shift by `d` counts from: a leap second is left backward from the second
after it. -/
def shiftBase (t : Instant) (d : Int) : Int :=
  if t.isLeap = true ∧ d < 0 then t.secs + 1 else t.secs

theorem shift?_eq (t : Instant) (d : Int) :
    t.shift? d = ofUnix? (t.shiftBase d + d) (if d = 0 then t.nanos else t.subsecNanos) := by
  unfold shift? shiftBase
  cases leap : t.isLeap
  · simp [subsecNanos_of_not_isLeap leap]
  · rw [subsecNanos_of_isLeap leap]
    rcases Int.lt_trichotomy d 0 with back | rfl | forward
    · simp [back, Int.ne_of_lt back, Int.not_lt.mpr (Int.le_of_lt back)]
    · simp
    · simp [forward, Int.ne_of_gt forward, Int.not_lt.mpr (Int.le_of_lt forward)]

theorem shift?_eq_some_iff {t u : Instant} {d : Int} :
    t.shift? d = some u ↔
      u.secs = t.shiftBase d + d ∧ u.nanos = (if d = 0 then t.nanos else t.subsecNanos) := by
  rw [shift?_eq, ofUnix?_eq_some_iff]

theorem shift?_isSome_iff {t : Instant} {d : Int} :
    (t.shift? d).isSome ↔ minSecs ≤ t.shiftBase d + d ∧ t.shiftBase d + d ≤ maxSecs := by
  have valid := t.valid
  rw [shift?_eq, ofUnix?_isSome_iff]
  by_cases zero : d = 0
  · -- a shift of zero gives the instant back
    subst zero
    simp only [shiftBase, Int.lt_irrefl, and_false, if_false, Int.add_zero, if_true]
    exact ⟨fun v => ⟨v.1, v.2.1⟩, fun _ => valid⟩
  · -- any other shift leaves an ordinary second
    have fraction : t.subsecNanos < 1000000000 := Nat.mod_lt _ (by decide)
    simp only [zero, if_false, Valid]
    omega

end Instant

theorem Zoned.ext {z w : Zoned} (instant : z.instant = w.instant) (offset : z.offset = w.offset) :
    z = w := by
  cases z
  cases w
  cases instant
  cases offset
  rfl

section Ticks

variable {ticks : Int64} {t : Instant}

theorem toU32?_sinceNanos (since : Int) :
    toU32? (since % ticksPerSecond * 100) = some ((since % ticksPerSecond).toNat * 100) := by
  have bound : Int.pow 2 32 = 4294967296 := by decide
  have fits : 0 ≤ since % ticksPerSecond * 100 ∧ since % ticksPerSecond * 100 < 4294967296 := by
    simp only [ticksPerSecond]
    omega
  rw [toU32?, bound, if_pos fits]
  simp only [ticksPerSecond, Option.some.injEq]
  omega

theorem ofTicks?_eq :
    Instant.ofTicks? ticks =
      if ticks.toInt - epochTicks < -9223372036854775808 then none
      else Instant.ofUnix? ((ticks.toInt - epochTicks) / ticksPerSecond)
        (((ticks.toInt - epochTicks) % ticksPerSecond).toNat * 100) := by
  have bound : Int.pow 2 63 = 9223372036854775808 := by decide
  rw [Instant.ofTicks?, bound, toU32?_sinceNanos, Option.bind_some]

theorem ofTicks?_eq_some_iff :
    Instant.ofTicks? ticks = some t ↔
      -9223372036854775808 + epochTicks ≤ ticks.toInt ∧
      t.secs = (ticks.toInt - epochTicks) / ticksPerSecond ∧
      t.nanos = ((ticks.toInt - epochTicks) % ticksPerSecond).toNat * 100 := by
  rw [ofTicks?_eq]
  split
  · rename_i under
    constructor
    · intro made
      cases made
    · rintro ⟨fits, -⟩
      omega
  · rename_i fits
    rw [Instant.ofUnix?_eq_some_iff]
    exact ⟨fun parts => ⟨by omega, parts⟩, fun parts => parts.2⟩

theorem ofTicks?_isSome_of_le (fits : -9223372036854775808 + epochTicks ≤ ticks.toInt) :
    (Instant.ofTicks? ticks).isSome := by
  -- the seconds of the extreme counts lie well inside the representable years
  have hi := Int64.toInt_lt ticks
  rw [ofTicks?_eq, if_neg (by omega), Instant.ofUnix?_isSome_iff]
  simp only [Valid, minSecs, maxSecs, ticksPerSecond, epochTicks] at fits hi ⊢
  omega

theorem ofTicks?_eq_none_iff :
    Instant.ofTicks? ticks = none ↔ ticks.toInt < -9223372036854775808 + epochTicks := by
  constructor
  · intro none_
    refine Int.not_le.mp fun fits => ?_
    have some_ := ofTicks?_isSome_of_le fits
    simp [none_] at some_
  · intro under
    cases found : Instant.ofTicks? ticks with
    | none => rfl
    | some t => exact absurd (ofTicks?_eq_some_iff.mp found).1 (Int.not_le.mpr under)

theorem ofTicks?_exact_of_some (found : Instant.ofTicks? ticks = some t) :
    t.isLeap = false ∧ t.subsecNanos % 100 = 0 ∧
      epochTicks + ticksPerSecond * t.secs + ↑(t.subsecNanos / 100) = ticks.toInt := by
  obtain ⟨-, secs, nanos⟩ := ofTicks?_eq_some_iff.mp found
  have ordinary : t.isLeap = false := by
    rw [Instant.isLeap_eq_false_iff, nanos]
    simp only [ticksPerSecond]
    omega
  refine ⟨ordinary, ?_, ?_⟩
  · rw [Instant.subsecNanos_of_not_isLeap ordinary, nanos]
    omega
  · rw [Instant.subsecNanos_of_not_isLeap ordinary, nanos, secs]
    simp only [ticksPerSecond]
    omega

theorem digits_no_space (n : Int) : ' ' ∉ (toString n).toList := by
  intro mem
  rw [Int.toString_eq_repr, Int.repr_eq_if] at mem
  have digit : ∀ m : Nat, ' ' ∉ m.repr.toList := by
    intro m inside
    rw [Nat.toList_repr] at inside
    have := Nat.isDigit_of_mem_toDigits (by decide) (by decide) inside
    exact absurd this (by decide)
  split at mem
  · exact digit _ mem
  · simp only [String.toList_append, List.mem_append] at mem
    rcases mem with sign | rest
    · simp at sign
    · exact digit _ rest

theorem report_ne_digits (z : Zoned) (n : Int) : z.report ≠ toString n := by
  intro same
  apply digits_no_space n
  rw [← same]
  simp [Zoned.report, String.toList_append]

theorem ticksText_eq_digits_iff :
    ticksText ticks = toString ticks.toInt ↔ Instant.ofTicks? ticks = none := by
  unfold ticksText
  cases found : Instant.ofTicks? ticks with
  | none => simp
  | some t => simpa using report_ne_digits (Zoned.utc t) ticks.toInt

/-- A tick count names an instant unless subtracting the epoch offset underflows; the instant is
then an ordinary second holding whole hundreds of nanoseconds that gives the count back, so no two
counts share an instant; the nanoseconds always pass their unsigned 32-bit conversion; and the
report form shows the raw count exactly when there is none. -/
theorem ofTicks?_exact (ticks : Int64) :
    (Instant.ofTicks? ticks = none ↔ ticks.toInt < -9223372036854775808 + epochTicks) ∧
    (∀ t, Instant.ofTicks? ticks = some t →
      t.isLeap = false ∧ t.subsecNanos % 100 = 0 ∧
        epochTicks + ticksPerSecond * t.secs + ↑(t.subsecNanos / 100) = ticks.toInt) ∧
    (∀ other t, Instant.ofTicks? ticks = some t → Instant.ofTicks? other = some t → other = ticks) ∧
    (toU32? ((ticks.toInt - epochTicks) % ticksPerSecond * 100)).isSome ∧
    (ticksText ticks = toString ticks.toInt ↔ Instant.ofTicks? ticks = none) := by
  refine ⟨ofTicks?_eq_none_iff, fun t found => ofTicks?_exact_of_some found, ?_,
    by rw [toU32?_sinceNanos]; rfl, ticksText_eq_digits_iff⟩
  intro other t found found'
  have back := (ofTicks?_exact_of_some found).2.2
  have back' := (ofTicks?_exact_of_some found').2.2
  exact Int64.toInt_inj.mp (back'.symm.trans back)

theorem ofTicks?_exact_before_epoch :
    Instant.ofTicks? 621355967999999995 = some ⟨-1, 999999500, by decide⟩ ∧
      epochTicks + ticksPerSecond * (-1) + 9999995 = (621355967999999995 : Int64).toInt := by
  have found : Instant.ofTicks? 621355967999999995 = some ⟨-1, 999999500, by decide⟩ := by
    rw [ofTicks?_eq_some_iff]
    decide
  exact ⟨found, ((ofTicks?_exact _).2.1 _ found).2.2⟩

end Ticks

end ChatArchive.Clock
