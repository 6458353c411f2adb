import ChatArchive.Message.Decode
import Mathlib.Data.List.Forall2
/-!
How a message picks its node. The tag alone picks the kind: a value that is no pair of a signed
64-bit integer and a body is an unknown shape, a tag outside 0 to 4 is an unknown tag, and a known
tag gives the node of its kind when the kind accepts the body's shape, else the body kept as
unrecognized. No path gives a node of another kind.

The tool invocations nested in a span go through their own reader, which agrees with the
top-level one: an entry is an invocation exactly when decoding it on its own gives one, so a span
partitions its nested entries into invocations and verbatim entries, in order and without loss.
-/
namespace ChatArchive.Message

def Node.kind? : Node → Option Kind
  | .system _ => some .system
  | .assistant _ => some .assistant
  | .user _ => some .user
  | .action _ => some .action
  | .invocation _ => some .functionCall
  | .unrecognized _ _ | .unknownTag _ _ | .unknownShape _ => none

def Node.invocation? : Node → Option Invocation
  | .invocation r => some r
  | _ => none

/-- The bodies a kind takes: text, a map or an array for system and user messages, a map only
for actions, a map or an array of at least six elements for replies, and a map or an array for
tool invocations. -/
def Kind.Accepts : Kind → Value → Prop
  | .system, b | .user, b => (∃ s, b = .str s) ∨ (∃ es, b = .map es) ∨ ∃ xs, b = .arr xs
  | .action, b => ∃ es, b = .map es
  | .assistant, b => (∃ es, b = .map es) ∨ ∃ xs, b = .arr xs ∧ 6 ≤ xs.length
  | .functionCall, b => (∃ es, b = .map es) ∨ ∃ xs, b = .arr xs

theorem inI64_iff {n : Int} : inI64 n = true ↔ ∃ t : Int64, t.toInt = n := by
  have bound : Int.pow 2 63 = 9223372036854775808 := by decide
  simp only [inI64, bound, Bool.and_eq_true, decide_eq_true_eq]
  constructor
  · intro h
    exact ⟨Int64.ofInt n, Int64.toInt_ofInt_of_le (by omega) (by omega)⟩
  · rintro ⟨t, rfl⟩
    have lo := Int64.le_toInt t
    have hi := Int64.toInt_lt t
    omega

theorem Kind.ofTag?_tag (k : Kind) : Kind.ofTag? k.tag = some k := by
  cases k <;> rfl

theorem Kind.ofTag?_eq_some_iff {t : Int} {k : Kind} : Kind.ofTag? t = some k ↔ k.tag = t := by
  constructor
  · intro found
    simpa using List.find?_some found
  · rintro rfl
    exact Kind.ofTag?_tag k

theorem Kind.ofTag?_eq_none_iff {t : Int} : Kind.ofTag? t = none ↔ t < 0 ∨ 4 < t := by
  simp [Kind.ofTag?, Kind.all, Kind.tag]
  omega

theorem Value.asI64?_eq_some_iff {v : Value} {n : Int} :
    v.asI64? = some n ↔ v = .int n ∧ inI64 n = true := by
  constructor
  · intro read
    cases v <;> simp only [Value.asI64?, reduceCtorEq] at read
    split at read
    · rename_i small
      cases read
      exact ⟨rfl, small⟩
    · cases read
  · rintro ⟨rfl, small⟩
    simp [Value.asI64?, small]

theorem Value.tagged?_eq_some_iff {v body : Value} {t : Int} :
    v.tagged? = some (t, body) ↔ v = .arr [.int t, body] ∧ inI64 t = true := by
  constructor
  · intro h
    unfold Value.tagged? at h
    split at h
    · rename_i tag rest
      obtain ⟨n, read, same⟩ := Option.map_eq_some_iff.mp h
      obtain ⟨rfl, rfl⟩ := Prod.mk.inj same
      obtain ⟨rfl, small⟩ := Value.asI64?_eq_some_iff.mp read
      exact ⟨rfl, small⟩
    · cases h
  · rintro ⟨rfl, small⟩
    simp [Value.tagged?, Value.asI64?, small]

theorem Value.tagged?_eq_none_iff {v : Value} :
    v.tagged? = none ↔ ¬ ∃ (t : Int64) (body : Value), v = .arr [.int t.toInt, body] := by
  constructor
  · rintro none_ ⟨t, body, rfl⟩
    have : (Value.arr [.int t.toInt, body]).tagged? = some (t.toInt, body) :=
      Value.tagged?_eq_some_iff.mpr ⟨rfl, inI64_iff.mpr ⟨t, rfl⟩⟩
    simp [this] at none_
  · intro untagged
    cases found : v.tagged? with
    | none => rfl
    | some p =>
      obtain ⟨tag, body⟩ := p
      obtain ⟨rfl, small⟩ := Value.tagged?_eq_some_iff.mp found
      obtain ⟨t, rfl⟩ := inI64_iff.mp small
      exact absurd ⟨t, body, rfl⟩ untagged

section Gates

variable {b : Value}

theorem promptText?_eq_none_iff {f : Field} :
    promptText? b f = none ↔ ¬ ((∃ s, b = .str s) ∨ (∃ es, b = .map es) ∨ ∃ xs, b = .arr xs) := by
  cases b <;> simp [promptText?, Value.isRecord, Value.shape]

theorem reply?_eq_none_iff :
    reply? b = none ↔ ¬ ((∃ es, b = .map es) ∨ ∃ xs, b = .arr xs ∧ 6 ≤ xs.length) := by
  cases b <;> simp [reply?, Value.shape, Value.size, assistantMinLength]

theorem invocation?_eq_none_iff : invocation? b = none ↔ ¬ ((∃ es, b = .map es) ∨ ∃ xs, b = .arr xs) := by
  cases b <;> simp [invocation?, Value.isRecord, Value.shape]

theorem ofKind?_eq_none_iff {k : Kind} : ofKind? k b = none ↔ ¬ k.Accepts b := by
  cases k with
  | system | user => simp [ofKind?, Kind.Accepts, promptText?_eq_none_iff]
  | action => cases b <;> simp [ofKind?, Kind.Accepts, Value.shape]
  | assistant => simp [ofKind?, Kind.Accepts, reply?_eq_none_iff]
  | functionCall => simp [ofKind?, Kind.Accepts, invocation?_eq_none_iff]

theorem kind?_of_ofKind? {k : Kind} {n : Node} (h : ofKind? k b = some n) : n.kind? = some k := by
  cases k with
  | action =>
    simp only [ofKind?] at h
    split at h
    · cases h
      rfl
    · cases h
  | system | user | assistant | functionCall =>
    obtain ⟨_, _, rfl⟩ := Option.map_eq_some_iff.mp h
    rfl

theorem Node.ne_of_kind? {n m : Node} {k : Kind} (kinded : n.kind? = some k)
    (fallback : m.kind? = none) : n ≠ m := by
  rintro rfl
  simp [kinded] at fallback

end Gates

section Dispatch

variable {t : Int} {b : Value}

theorem Kind.tag_small (k : Kind) : inI64 k.tag = true := by
  cases k <;> decide

theorem decode_pair (small : inI64 t = true) : decode (.arr [.int t, b]) = decodeVariant t b := by
  simp [decode, Value.tagged?_eq_some_iff.mpr ⟨rfl, small⟩]

theorem decodeVariant_of_kind (k : Kind) : decodeVariant k.tag b = (ofKind? k b).getD (.unrecognized k b) := by
  simp [decodeVariant, Kind.ofTag?_tag]

theorem decodeVariant_of_kind_cases (k : Kind) :
    (decodeVariant k.tag b).kind? = some k ∨ decodeVariant k.tag b = .unrecognized k b := by
  rw [decodeVariant_of_kind]
  cases found : ofKind? k b with
  | none => exact .inr rfl
  | some n => exact .inl (kind?_of_ofKind? found)

theorem decodeVariant_ne_unknownShape (v : Value) : decodeVariant t b ≠ .unknownShape v := by
  cases known : Kind.ofTag? t with
  | none => simp [decodeVariant, known]
  | some k =>
    obtain rfl := (Kind.ofTag?_eq_some_iff.mp known)
    rcases decodeVariant_of_kind_cases (b := b) k with kinded | kept
    · exact Node.ne_of_kind? kinded rfl
    · simp [kept]

theorem decodeVariant_eq_unknownTag_iff :
    decodeVariant t b = .unknownTag t b ↔ t < 0 ∨ 4 < t := by
  rw [← Kind.ofTag?_eq_none_iff]
  cases known : Kind.ofTag? t with
  | none => simp [decodeVariant, known]
  | some k =>
    obtain rfl := (Kind.ofTag?_eq_some_iff.mp known)
    rcases decodeVariant_of_kind_cases (b := b) k with kinded | kept
    · simp only [reduceCtorEq, iff_false]
      exact Node.ne_of_kind? kinded rfl
    · simp [kept]

theorem decode_eq_unknownShape_iff (v : Value) : decode v = .unknownShape v ↔ v.tagged? = none := by
  cases found : v.tagged? with
  | none => simp [decode, found]
  | some p => simp [decode, found, decodeVariant_ne_unknownShape]

theorem decode_eq_unrecognized_iff (k : Kind) :
    decode (.arr [.int k.tag, b]) = .unrecognized k b ↔ ¬ k.Accepts b := by
  rw [decode_pair k.tag_small, decodeVariant_of_kind, ← ofKind?_eq_none_iff]
  cases found : ofKind? k b with
  | none => simp
  | some n =>
    simp only [Option.getD_some, reduceCtorEq, iff_false]
    exact Node.ne_of_kind? (kind?_of_ofKind? found) rfl

theorem kind?_decode_iff (k : Kind) :
    (decode (.arr [.int k.tag, b])).kind? = some k ↔ k.Accepts b := by
  rw [decode_pair k.tag_small, decodeVariant_of_kind, ← not_iff_not, ← ofKind?_eq_none_iff]
  cases found : ofKind? k b with
  | none => simp [Node.kind?]
  | some n => simp [kind?_of_ofKind? found]

/-- The tag alone picks the kind, and every fallback keeps what it could not read: a value that
is no pair of a signed 64-bit tag and a body is an unknown shape; a tag outside 0 to 4 is an
unknown tag; under a kind's tag the body is unrecognized exactly when the kind does not accept
it, and the node is of that kind exactly when it does. Decoding a body under an explicit tag is
decoding the pair. -/
theorem decode_dispatches_on_tag :
    (∀ v, decode v = .unknownShape v ↔ ¬ ∃ (t : Int64) (b : Value), v = .arr [.int t.toInt, b]) ∧
    (∀ (t : Int64) (b : Value),
      decode (.arr [.int t.toInt, b]) = .unknownTag t.toInt b ↔ t.toInt < 0 ∨ 4 < t.toInt) ∧
    (∀ (k : Kind) (b : Value), decode (.arr [.int k.tag, b]) = .unrecognized k b ↔ ¬ k.Accepts b) ∧
    (∀ (k : Kind) (b : Value), (decode (.arr [.int k.tag, b])).kind? = some k ↔ k.Accepts b) ∧
    ∀ (t : Int64) (b : Value), decodeVariant t.toInt b = decode (.arr [.int t.toInt, b]) := by
  have small : ∀ t : Int64, inI64 t.toInt = true := fun t => inI64_iff.mpr ⟨t, rfl⟩
  refine ⟨fun v => ?_, fun t b => ?_, fun k _ => decode_eq_unrecognized_iff k,
    fun k _ => kind?_decode_iff k, fun t b => (decode_pair (small t)).symm⟩
  · rw [decode_eq_unknownShape_iff, Value.tagged?_eq_none_iff]
  · rw [decode_pair (small t), decodeVariant_eq_unknownTag_iff]

/- A tag past the signed 64-bit range makes no pair, even one an unsigned word can hold. -/
example : decode (.arr [.int 9223372036854775808, .nil]) =
    .unknownShape (.arr [.int 9223372036854775808, .nil]) := rfl

end Dispatch

section Nested

theorem Node.invocation?_eq_none {n : Node} (other : n.kind? ≠ some .functionCall) :
    n.invocation? = none := by
  cases n <;> simp_all [Node.kind?, Node.invocation?]

theorem invocation?_decodeVariant {t : Int} {b : Value} (other : t ≠ 4) :
    (decodeVariant t b).invocation? = none := by
  cases known : Kind.ofTag? t with
  | none => simp [decodeVariant, known, Node.invocation?]
  | some k =>
    obtain rfl := (Kind.ofTag?_eq_some_iff.mp known)
    have notCall : k ≠ .functionCall := by
      rintro rfl
      exact other rfl
    rcases decodeVariant_of_kind_cases (b := b) k with kinded | kept
    · exact Node.invocation?_eq_none (by rw [kinded]; simpa using notCall)
    · simp [kept, Node.invocation?]

theorem nestedInvocation?_eq_decode (x : Value) : nestedInvocation? x = (decode x).invocation? := by
  unfold nestedInvocation?
  split
  · rename_i body tagged
    obtain ⟨rfl, small⟩ := Value.tagged?_eq_some_iff.mp tagged
    rw [decode_pair small]
    show invocation? body = (decodeVariant Kind.functionCall.tag body).invocation?
    rw [decodeVariant_of_kind]
    simp only [ofKind?]
    cases invocation? body <;> rfl
  · rename_i untagged
    cases found : x.tagged? with
    | none => simp [decode, found, Node.invocation?]
    | some p =>
      obtain ⟨t, body⟩ := p
      have other : t ≠ 4 := by
        rintro rfl
        exact untagged body found
      simp [decode, found, invocation?_decodeVariant other]

theorem nestedInvocation?_isSome_iff (x : Value) :
    (nestedInvocation? x).isSome ↔ ∃ body, x = .arr [.int 4, body] ∧ body.isRecord = true := by
  constructor
  · intro found
    unfold nestedInvocation? at found
    split at found
    · rename_i body tagged
      obtain ⟨rfl, -⟩ := Value.tagged?_eq_some_iff.mp tagged
      refine ⟨body, rfl, ?_⟩
      by_contra scalar
      simp [invocation?, scalar] at found
    · cases found
  · rintro ⟨body, rfl, record⟩
    have tagged : (Value.arr [.int 4, body]).tagged? = some (4, body) :=
      Value.tagged?_eq_some_iff.mpr ⟨rfl, Kind.functionCall.tag_small⟩
    simp [nestedInvocation?, tagged, invocation?, record]

theorem sortNested_eq (xs : List Value) :
    sortNested xs = (xs.filterMap nestedInvocation?, xs.filter fun x => (nestedInvocation? x).isNone) := by
  induction xs with
  | nil => rfl
  | cons x xs ih =>
    cases found : nestedInvocation? x <;> simp [sortNested, ih, found]

theorem sortNested_length (xs : List Value) :
    (sortNested xs).1.length + (sortNested xs).2.length = xs.length := by
  induction xs with
  | nil => rfl
  | cons x xs ih =>
    cases found : nestedInvocation? x <;> simp [sortNested, found] <;> omega

/-- A span that is a record sorts its nested entries into the invocations that decoding each on
its own gives, and the other entries kept verbatim, both in order and together exactly the nested
entries; an entry is an invocation exactly when it is a pair tagged 4 with a map or array body.
A span that is no record is kept whole as unrecognized. -/
theorem span_partitions_nested (e : Value) :
    (e.isRecord = false → span e = ⟨none, none, [], [e]⟩) ∧
    (e.isRecord = true →
      (span e).invocations = (e.items .spanFunctionCalls).filterMap (fun x => (decode x).invocation?) ∧
      (span e).unrecognized =
        (e.items .spanFunctionCalls).filter (fun x => (decode x).invocation?.isNone) ∧
      (span e).invocations.length + (span e).unrecognized.length =
        (e.items .spanFunctionCalls).length) ∧
    ∀ x, nestedInvocation? x = (decode x).invocation? ∧
      ((decode x).invocation?.isSome ↔ ∃ body, x = .arr [.int 4, body] ∧ body.isRecord = true) := by
  refine ⟨fun scalar => by simp [span, scalar], fun record => ?_, fun x => ?_⟩
  · have sorted := sortNested_eq (e.items .spanFunctionCalls)
    simp only [nestedInvocation?_eq_decode] at sorted
    have counted := sortNested_length (e.items .spanFunctionCalls)
    simp only [span, record, if_true]
    exact ⟨by rw [sorted], by rw [sorted], counted⟩
  · rw [← nestedInvocation?_eq_decode]
    exact ⟨rfl, nestedInvocation?_isSome_iff x⟩

theorem span_partitions_nested_of_two_entries :
    span (.str "loose") = ⟨none, none, [], [.str "loose"]⟩ ∧
    (span (.arr [.nil, .arr [.arr [.int 4, .map []], .int 7]])).invocations.length +
      (span (.arr [.nil, .arr [.arr [.int 4, .map []], .int 7]])).unrecognized.length = 2 :=
  ⟨(span_partitions_nested (.str "loose")).1 rfl,
    ((span_partitions_nested (.arr [.nil, .arr [.arr [.int 4, .map []], .int 7]])).2.1 rfl).2.2⟩

end Nested

end ChatArchive.Message
