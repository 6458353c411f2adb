import ChatArchive.Proofs.Clock.Instant
import ChatArchive.Wire.Reader
import Mathlib.Data.List.Induction
/-!
Timestamp extensions. An instant is written in one of three layouts: twelve bytes of nanoseconds
then two's-complement seconds, always; eight bytes holding the nanoseconds above 34 bits of
seconds, while both fit; and four bytes of seconds alone, for a whole second that fits 32 bits.
Reading an extension of type -1 inverts exactly these writings: it gives the instant a body
writes, and keeps every other extension, of another type, another length or naming no instant, as
the type and bytes it was read with.
-/
namespace ChatArchive.Wire

open ChatArchive.Clock

def toBigEndian : Nat → Nat → List UInt8
  | 0, _ => []
  | width + 1, n => toBigEndian width (n / 256) ++ [UInt8.ofNat (n % 256)]

@[simp] theorem length_toBigEndian (width n : Nat) : (toBigEndian width n).length = width := by
  induction width generalizing n with
  | zero => rfl
  | succ width ih => simp [toBigEndian, ih]

theorem bigEndian_snoc (bs : List UInt8) (b : UInt8) :
    bigEndian (bs ++ [b]) = bigEndian bs * 256 + b.toNat := by
  simp [bigEndian, List.foldl_append]

theorem bigEndian_toBigEndian (width n : Nat) :
    bigEndian (toBigEndian width n) = n % Nat.pow 256 width := by
  induction width generalizing n with
  | zero =>
    show 0 = n % 1
    omega
  | succ width ih =>
    -- the low byte is written last; the rest is the quotient in one byte fewer
    have split : n % (256 * Nat.pow 256 width) = n % 256 + 256 * (n / 256 % Nat.pow 256 width) :=
      Nat.mod_mul
    have low : (UInt8.ofNat (n % 256)).toNat = n % 256 := by simp
    rw [toBigEndian, bigEndian_snoc, ih, low, show Nat.pow 256 (width + 1) = 256 * Nat.pow 256 width
      from Nat.mul_comm _ _, split]
    omega

theorem bigEndian_lt (bs : List UInt8) : bigEndian bs < Nat.pow 256 bs.length := by
  induction bs using List.reverseRecOn with
  | nil => decide
  | append_singleton bs b ih =>
    have byte := UInt8.toNat_lt b
    rw [bigEndian_snoc, List.length_append, List.length_singleton,
      show Nat.pow 256 (bs.length + 1) = Nat.pow 256 bs.length * 256 from rfl]
    simp only [Nat.reducePow] at byte
    omega

theorem toBigEndian_bigEndian (bs : List UInt8) : toBigEndian bs.length (bigEndian bs) = bs := by
  induction bs using List.reverseRecOn with
  | nil => rfl
  | append_singleton bs b ih =>
    have byte := UInt8.toNat_lt b
    simp only [Nat.reducePow] at byte
    have quotient : (bigEndian bs * 256 + b.toNat) / 256 = bigEndian bs := by omega
    have remainder : (bigEndian bs * 256 + b.toNat) % 256 = b.toNat := by omega
    rw [List.length_append, List.length_singleton, bigEndian_snoc, toBigEndian, quotient,
      remainder, UInt8.ofNat_toNat, ih]

theorem eq_toBigEndian_iff {bs : List UInt8} {width n : Nat} (fits : n < Nat.pow 256 width) :
    bs = toBigEndian width n ↔ bs.length = width ∧ bigEndian bs = n := by
  constructor
  · rintro rfl
    exact ⟨length_toBigEndian width n, by rw [bigEndian_toBigEndian, Nat.mod_eq_of_lt fits]⟩
  · rintro ⟨rfl, rfl⟩
    exact (toBigEndian_bigEndian bs).symm

def timestamp96 (t : Instant) : List UInt8 :=
  toBigEndian 4 t.nanos ++ toBigEndian 8 (t.secs % 18446744073709551616).toNat

def timestamp64 (t : Instant) : List UInt8 := toBigEndian 8 (t.nanos <<< 34 ||| t.secs.toNat)

def timestamp32 (t : Instant) : List UInt8 := toBigEndian 4 t.secs.toNat

/-- The extension bodies that carry an instant: the twelve-byte layout always, the eight-byte one
while the seconds fit 34 bits and the nanoseconds 30, the four-byte one for a whole second that
fits 32 bits. -/
def Encodes (t : Instant) (data : List UInt8) : Prop :=
  data = timestamp96 t ∨
    (0 ≤ t.secs ∧ t.secs < 17179869184 ∧ t.nanos < 1073741824 ∧ data = timestamp64 t) ∨
    (0 ≤ t.secs ∧ t.secs < 4294967296 ∧ t.nanos = 0 ∧ data = timestamp32 t)

section Layouts

variable {data : List UInt8} {t : Instant}

theorem timestampOf?_of_length_four (four : data.length = 4) :
    timestampOf? data = some t ↔
      0 ≤ t.secs ∧ t.secs < 4294967296 ∧ t.nanos = 0 ∧ data = timestamp32 t := by
  have fits := bigEndian_lt data
  have half : Nat.pow 256 4 = 4294967296 := rfl
  rw [four, half] at fits
  simp only [timestampOf?, four, Instant.ofUnix?_eq_some_iff, timestamp32]
  constructor
  · rintro ⟨secs, nanos⟩
    refine ⟨by omega, by omega, nanos, ?_⟩
    rw [eq_toBigEndian_iff (by rw [half]; omega)]
    exact ⟨four, by omega⟩
  · rintro ⟨lo, hi, nanos, written⟩
    rw [eq_toBigEndian_iff (by rw [half]; omega)] at written
    exact ⟨by omega, nanos⟩

theorem timestampOf?_of_length_eight (eight : data.length = 8) :
    timestampOf? data = some t ↔
      0 ≤ t.secs ∧ t.secs < 17179869184 ∧ t.nanos < 1073741824 ∧ data = timestamp64 t := by
  have fits := bigEndian_lt data
  rw [eight] at fits
  have whole : Nat.pow 256 8 = 18446744073709551616 := rfl
  have wide : Nat.pow 2 34 = 17179869184 := rfl
  rw [whole] at fits
  simp only [timestampOf?, eight, Instant.ofUnix?_eq_some_iff, timestamp64, wide]
  constructor
  · rintro ⟨secs, nanos⟩
    -- the seconds are the low 34 bits and the nanoseconds what lies above them
    have joined : t.nanos <<< 34 ||| t.secs.toNat = bigEndian data := by
      rw [← Nat.shiftLeft_add_eq_or_of_lt (by omega), Nat.shiftLeft_eq]
      simp only [Nat.reducePow]
      omega
    refine ⟨by omega, by omega, by omega, ?_⟩
    rw [eq_toBigEndian_iff (by rw [whole, joined]; exact fits), joined]
    exact ⟨eight, rfl⟩
  · rintro ⟨lo, hi, small, written⟩
    have joined : t.nanos <<< 34 ||| t.secs.toNat = t.nanos * 17179869184 + t.secs.toNat := by
      rw [← Nat.shiftLeft_add_eq_or_of_lt (by simp only [Nat.reducePow]; omega), Nat.shiftLeft_eq]
    rw [joined, eq_toBigEndian_iff (by rw [whole]; omega)] at written
    omega

theorem timestampOf?_of_length_twelve (twelve : data.length = 12) :
    timestampOf? data = some t ↔ data = timestamp96 t := by
  have secsFit := bigEndian_lt (data.drop 4)
  have nanosFit := bigEndian_lt (data.take 4)
  have whole : Nat.pow 256 8 = 18446744073709551616 := rfl
  have half : Nat.pow 256 4 = 4294967296 := rfl
  have sign : Nat.pow 2 63 = 9223372036854775808 := rfl
  have range : Int.pow 2 64 = 18446744073709551616 := by decide
  simp only [List.length_drop, List.length_take, twelve] at secsFit nanosFit
  rw [show 12 - 4 = 8 from rfl, whole] at secsFit
  rw [show min 4 12 = 4 from rfl, half] at nanosFit
  have valid := t.valid
  simp only [Valid, minSecs, maxSecs] at valid
  simp only [timestampOf?, twelve, Instant.ofUnix?_eq_some_iff, timestamp96, sign, range]
  constructor
  · rintro ⟨secs, nanos⟩
    rw [← List.take_append_drop 4 data]
    congr 1
    · rw [eq_toBigEndian_iff (by rw [half]; omega)]
      simp [twelve, nanos]
    · rw [eq_toBigEndian_iff (by rw [whole]; omega)]
      simp only [List.length_drop, twelve, true_and]
      split at secs <;> omega
  · intro written
    have front : data.take 4 = toBigEndian 4 t.nanos := by simp [written]
    have back : data.drop 4 = toBigEndian 8 (t.secs % 18446744073709551616).toNat := by
      simp [written]
    rw [front, back, bigEndian_toBigEndian, bigEndian_toBigEndian, half, whole]
    constructor
    · split <;> omega
    · omega

/-- The decoder inverts the three layouts: each body length selects one, and the other two have
other lengths. -/
theorem timestampOf?_eq_some_iff : timestampOf? data = some t ↔ Encodes t data := by
  unfold Encodes timestamp96 timestamp64 timestamp32
  by_cases four : data.length = 4
  · rw [timestampOf?_of_length_four four]
    constructor
    · exact fun written => .inr (.inr written)
    · rintro (rfl | ⟨-, -, -, rfl⟩ | written)
      · simp at four
      · simp at four
      · exact written
  by_cases eight : data.length = 8
  · rw [timestampOf?_of_length_eight eight]
    constructor
    · exact fun written => .inr (.inl written)
    · rintro (rfl | written | ⟨-, -, -, rfl⟩)
      · simp at eight
      · exact written
      · simp at eight
  by_cases twelve : data.length = 12
  · rw [timestampOf?_of_length_twelve twelve]
    constructor
    · exact .inl
    · rintro (written | ⟨-, -, -, rfl⟩ | ⟨-, -, -, rfl⟩)
      · exact written
      · simp at twelve
      · simp at twelve
  have none_ : timestampOf? data = none := by
    unfold timestampOf?
    split <;> simp_all
  rw [none_]
  constructor
  · intro made
    cases made
  · rintro (rfl | ⟨-, -, -, rfl⟩ | ⟨-, -, -, rfl⟩) <;> simp at four eight twelve

end Layouts

theorem extensionValue_eq_time_iff {type : Int8} {data : List UInt8} {t : Instant} :
    extensionValue type data = .time t ↔ type = -1 ∧ Encodes t data := by
  rw [← timestampOf?_eq_some_iff]
  unfold extensionValue
  by_cases timestamp : type = -1
  · cases found : timestampOf? data with
    | none => simp [timestamp]
    | some u => simp [timestamp, eq_comm]
  · simp [timestamp]

theorem extensionValue_eq_ext_iff {type : Int8} {data : List UInt8} :
    extensionValue type data = .ext type data ↔ ¬ (type = -1 ∧ ∃ t, Encodes t data) := by
  simp only [← timestampOf?_eq_some_iff]
  unfold extensionValue
  by_cases timestamp : type = -1
  · cases found : timestampOf? data with
    | none => simp [timestamp]
    | some u => simp [timestamp]
  · simp [timestamp]

/-- Every instant reads back from its twelve-byte layout, from its eight-byte layout while the
seconds fit 34 bits and the nanoseconds 30, and from its four-byte layout when it is a whole
second that fits 32 bits. An extension is a timestamp only when its type is -1 and its body is one
of these layouts of a valid instant; any other stays the extension it was, type and bytes. -/
theorem extensionValue_timestamp (t : Instant) (type : Int8) (data : List UInt8) :
    extensionValue (-1) (timestamp96 t) = .time t ∧
    (0 ≤ t.secs → t.secs < 17179869184 → t.nanos < 1073741824 →
      extensionValue (-1) (timestamp64 t) = .time t) ∧
    (0 ≤ t.secs → t.secs < 4294967296 → t.nanos = 0 →
      extensionValue (-1) (timestamp32 t) = .time t) ∧
    (extensionValue type data = .time t ↔ type = -1 ∧ Encodes t data) ∧
    (extensionValue type data = .ext type data ↔ ¬ (type = -1 ∧ ∃ u, Encodes u data)) := by
  refine ⟨?_, ?_, ?_, extensionValue_eq_time_iff, extensionValue_eq_ext_iff⟩
  · exact extensionValue_eq_time_iff.mpr ⟨rfl, .inl rfl⟩
  · intro lo hi small
    exact extensionValue_eq_time_iff.mpr ⟨rfl, .inr (.inl ⟨lo, hi, small, rfl⟩)⟩
  · intro lo hi whole
    exact extensionValue_eq_time_iff.mpr ⟨rfl, .inr (.inr ⟨lo, hi, whole, rfl⟩)⟩

theorem extensionValue_timestamp_of_whole_second :
    extensionValue (-1) (timestamp64 ⟨1700000000, 0, by decide⟩) = .time ⟨1700000000, 0, by decide⟩ ∧
      extensionValue (-1) (timestamp32 ⟨1700000000, 0, by decide⟩) =
        .time ⟨1700000000, 0, by decide⟩ :=
  ⟨(extensionValue_timestamp _ 0 []).2.1 (by decide) (by decide) (by decide),
    (extensionValue_timestamp _ 0 []).2.2.1 (by decide) (by decide) (by decide)⟩

end ChatArchive.Wire
