import ChatArchive.Payload
import ChatArchive.Proofs.Wire.Stream
/-!
Decoding a payload against one plain pass over its stream. When reading exactly one value finds
trailing bytes the payload is read again as a stream; otherwise the one value, or the failure at
its start, is the stream's first and only item. So every payload decodes to the values of its
stream, decoded in order, with the stream's failure counted after them; only the mode tells the
two paths apart. A payload read completely, followed by more bytes, decodes to its own nodes then
those of the bytes after it, the failure of the latter moved past it.
-/
namespace ChatArchive.Payload

open ChatArchive.Wire ChatArchive.Message

theorem recover_of_shape {bytes : List UInt8} {vs : List Value} {last : Option Failure}
    (shape : stream bytes = vs.map .ok ++ last.toList.map .error) :
    recover bytes =
      ⟨vs.map decode, .recovered vs.length, last.map fun e => ⟨bytes.length, vs.length, e⟩⟩ := by
  have values : vs.findSome? (fun _ => (none : Option Fault)) = none :=
    List.findSome?_eq_none_iff.mpr fun _ _ => rfl
  cases last <;>
    simp [recover, shape, List.filterMap_append, List.filterMap_map, List.findSome?_append,
      List.findSome?_map, Function.comp_def, values]

theorem decodePayload_of_error {bytes : List UInt8} {e : ReadError} (nonempty : bytes ≠ [])
    (h : readOne bytes = .error e) :
    decodePayload bytes = ⟨[], .single, some ⟨bytes.length, 0, .malformed 0 e⟩⟩ := by
  simp [decodePayload, decodeOne_of_error nonempty h]

theorem decodePayload_of_whole {bytes : List UInt8} {v : Value}
    (h : readOne bytes = .ok (v, bytes.length)) :
    decodePayload bytes = ⟨[decode v], .single, none⟩ := by
  simp [decodePayload, decodeOne_eq_ok_iff.mpr h]

theorem decodePayload_of_trailing {bytes : List UInt8} {v : Value} {n : Nat}
    (h : readOne bytes = .ok (v, n)) (short : n < bytes.length) :
    decodePayload bytes = recover bytes := by
  have nonempty : bytes ≠ [] := by
    rintro rfl
    simp at short
  simp [decodePayload, decodeOne_of_ok nonempty h, short]

theorem stream_of_trailing {bytes : List UInt8} {v : Value} {n : Nat}
    (h : readOne bytes = .ok (v, n)) (short : n < bytes.length) :
    ∃ item rest, stream bytes = .ok v :: item :: rest := by
  have left : bytes.drop n ≠ [] := by simp; omega
  rw [stream_of_ok h]
  cases tail : stream (bytes.drop n) with
  | nil => exact absurd tail (stream_ne_nil left)
  | cons item rest => exact ⟨item.mapError (Failure.shift n), rest.map (·.mapError (Failure.shift n)), rfl⟩

theorem decodePayload_cases {bytes : List UInt8} (nonempty : bytes ≠ []) :
    (∃ e, decodePayload bytes = ⟨[], .single, some ⟨bytes.length, 0, .malformed 0 e⟩⟩ ∧
      stream bytes = [.error (.malformed 0 e)]) ∨
    (∃ v, decodePayload bytes = ⟨[decode v], .single, none⟩ ∧ stream bytes = [.ok v]) ∨
    (decodePayload bytes = recover bytes ∧ ∃ v item rest, stream bytes = .ok v :: item :: rest) := by
  cases hr : readOne bytes with
  | error e => exact .inl ⟨e, decodePayload_of_error nonempty hr, stream_of_error nonempty hr⟩
  | ok r =>
    obtain ⟨v, n⟩ := r
    obtain ⟨-, within, -⟩ := readOne_reads hr
    by_cases short : n < bytes.length
    · obtain ⟨item, rest, items⟩ := stream_of_trailing hr short
      exact .inr (.inr ⟨decodePayload_of_trailing hr short, v, item, rest, items⟩)
    · have whole : n = bytes.length := by omega
      subst whole
      exact .inr (.inl ⟨v, decodePayload_of_whole hr, by simp [stream_of_ok hr, stream_nil]⟩)

theorem decodePayload_streams {bytes : List UInt8} (nonempty : bytes ≠ []) :
    ∃ (vs : List Value) (last : Option Failure),
      stream bytes = vs.map .ok ++ last.toList.map .error ∧
      (decodePayload bytes).nodes = vs.map decode ∧
      (decodePayload bytes).failure = (last.map fun e => ⟨bytes.length, vs.length, e⟩) ∧
      ∀ f ∈ last, ∃ o d, f = .malformed o d := by
  rcases decodePayload_cases nonempty with ⟨e, payload, items⟩ | ⟨v, payload, items⟩ | ⟨payload, -⟩
  · exact ⟨[], some (.malformed 0 e), by simp [items], by simp [payload], by simp [payload],
      by simp⟩
  · exact ⟨[v], none, by simp [items], by simp [payload], by simp [payload], by simp⟩
  · obtain ⟨vs, last, shape, malformed⟩ := stream_shape bytes
    refine ⟨vs, last, shape, by simp [payload, recover_of_shape shape],
      by simp [payload, recover_of_shape shape], fun f mem => ?_⟩
    obtain ⟨o, d, rfl, -⟩ := malformed f mem
    exact ⟨o, d, rfl⟩

theorem recovered_counts {bytes : List UInt8} {v : Value} {item : Except Failure Value}
    {rest : List (Except Failure Value)} {vs : List Value} {last : Option Failure}
    (items : stream bytes = .ok v :: item :: rest)
    (shape : stream bytes = vs.map .ok ++ last.toList.map .error) :
    1 ≤ vs.length ∧ (last = none → 2 ≤ vs.length) := by
  rw [items] at shape
  cases vs with
  | nil => cases last <;> simp at shape
  | cons w ws =>
    refine ⟨by simp, fun none => ?_⟩
    subst none
    cases ws with
    | nil => simp at shape
    | cons _ _ => simp

theorem mode_single_iff {bytes : List UInt8} (nonempty : bytes ≠ []) :
    (decodePayload bytes).mode = .single ↔
      (∃ e, (stream bytes).head? = some (.error e)) ∨ ∃ v, stream bytes = [.ok v] := by
  rcases decodePayload_cases nonempty with
    ⟨e, payload, items⟩ | ⟨v, payload, items⟩ | ⟨payload, v, item, rest, items⟩
  · simp [payload, items]
  · simp [payload, items]
  · simp [payload, items, recover]

/-- Decoding a payload agrees with one plain pass over its stream. The empty payload is its own
failure. Any other payload decodes to the values of its stream, decoded in order, and fails
where the stream fails, after as many values; its mode is single exactly when the stream starts
with a failure or is one value, and otherwise counts the values, at least one, and at least two
when nothing failed. No failure is ever trailing bytes. -/
theorem decodePayload_agrees_with_stream (bytes : List UInt8) :
    (bytes = [] → decodePayload bytes = ⟨[], .single, some ⟨0, 0, .empty⟩⟩) ∧
    (bytes ≠ [] →
      ∃ (vs : List Value) (last : Option Failure),
        stream bytes = vs.map .ok ++ last.toList.map .error ∧
        (decodePayload bytes).nodes = vs.map decode ∧
        (decodePayload bytes).failure = (last.map fun e => ⟨bytes.length, vs.length, e⟩) ∧
        ((decodePayload bytes).mode = .single ↔
          (∃ e, (stream bytes).head? = some (.error e)) ∨ ∃ v, stream bytes = [.ok v]) ∧
        ((decodePayload bytes).mode = .single →
          ((decodePayload bytes).nodes.length = 1 ∧ (decodePayload bytes).failure = none) ∨
          ((decodePayload bytes).nodes = [] ∧
            ∃ d, (decodePayload bytes).failure = some ⟨bytes.length, 0, .malformed 0 d⟩)) ∧
        ((decodePayload bytes).mode ≠ .single →
          (decodePayload bytes).mode = .recovered (decodePayload bytes).nodes.length ∧
          1 ≤ (decodePayload bytes).nodes.length ∧
          ((decodePayload bytes).failure = none → 2 ≤ (decodePayload bytes).nodes.length))) ∧
    ∀ f ∈ (decodePayload bytes).failure, ∀ c r, f.source ≠ .trailing c r := by
  refine ⟨fun empty => by subst empty; rfl, fun nonempty => ?_, ?_⟩
  · obtain ⟨vs, last, shape, nodes, failure, -⟩ := decodePayload_streams nonempty
    refine ⟨vs, last, shape, nodes, failure, mode_single_iff nonempty, fun single => ?_,
      fun recovered => ?_⟩
    · rcases decodePayload_cases nonempty with ⟨e, payload, -⟩ | ⟨v, payload, -⟩ | ⟨payload, -⟩
      · simp [payload]
      · simp [payload]
      · simp [payload, recover] at single
    · rcases decodePayload_cases nonempty with
        ⟨e, payload, -⟩ | ⟨v, payload, -⟩ | ⟨payload, v, item, rest, items⟩
      · simp [payload] at recovered
      · simp [payload] at recovered
      · obtain ⟨one, two⟩ := recovered_counts items shape
        simp only [payload, recover_of_shape shape, List.length_map, Option.map_eq_none_iff]
        exact ⟨trivial, one, two⟩
  · intro f mem c r
    by_cases empty : bytes = []
    · subst empty
      have : f = ⟨0, 0, .empty⟩ := by simpa [decodePayload, decodeOne] using mem.symm
      subst this
      simp
    · obtain ⟨vs, last, -, -, failure, malformed⟩ := decodePayload_streams empty
      rw [failure] at mem
      cases last with
      | none => cases mem
      | some e =>
        cases mem
        obtain ⟨o, d, rfl⟩ := malformed e rfl
        simp

theorem complete_values {a : List UInt8} (complete : (decodePayload a).failure = none) :
    a ≠ [] ∧ ∃ vs : List Value, stream a = vs.map .ok ∧ (decodePayload a).nodes = vs.map decode := by
  have present : a ≠ [] := by
    rintro rfl
    cases complete
  obtain ⟨vs, last, shape, nodes, failure, -⟩ := decodePayload_streams present
  rw [complete, eq_comm, Option.map_eq_none_iff] at failure
  subst failure
  exact ⟨present, vs, by simpa using shape, nodes⟩

theorem decodePayload_append {a b : List UInt8} (complete : (decodePayload a).failure = none)
    (nonempty : b ≠ []) :
    (decodePayload (a ++ b)).nodes = (decodePayload a).nodes ++ (decodePayload b).nodes ∧
    (decodePayload (a ++ b)).mode = .recovered (decodePayload (a ++ b)).nodes.length ∧
    ((decodePayload (a ++ b)).failure = none ↔ (decodePayload b).failure = none) ∧
    ∀ f ∈ (decodePayload b).failure, ∃ o d, f.source = .malformed o d ∧
      (decodePayload (a ++ b)).failure =
        some ⟨a.length + b.length, (decodePayload a).nodes.length + f.decoded,
          .malformed (a.length + o) d⟩ := by
  obtain ⟨present, vsA, streamA, nodesA⟩ := complete_values complete
  obtain ⟨vsB, lastB, streamB, nodesB, failureB, malformedB⟩ := decodePayload_streams nonempty
  cases hr : readOne a with
  | error e =>
    rw [stream_of_error present hr] at streamA
    cases vsA <;> simp at streamA
  | ok r =>
    obtain ⟨v, n⟩ := r
    obtain ⟨-, within, -⟩ := readOne_reads hr
    have short : n < (a ++ b).length := by
      have := List.length_pos_iff.mpr nonempty
      simp
      omega
    have shape : stream (a ++ b) =
        (vsA ++ vsB).map .ok ++ (lastB.map (Failure.shift a.length)).toList.map .error := by
      rw [stream_append ⟨vsA, streamA⟩ b, streamA, streamB]
      cases lastB <;> simp [Except.mapError, Function.comp_def]
    rw [decodePayload_of_trailing (readOne_append hr b) short, recover_of_shape shape, nodesA,
      nodesB, failureB]
    refine ⟨by simp, by simp, by simp, fun f mem => ?_⟩
    cases lastB with
    | none => cases mem
    | some e =>
      cases mem
      obtain ⟨o, d, rfl⟩ := malformedB e rfl
      exact ⟨o, d, rfl, by simp [Failure.shift]⟩

theorem decodePayload_of_decodeOne {p : List UInt8} {v : Value} (h : decodeOne p = .ok v) :
    decodePayload p = ⟨[decode v], .single, none⟩ := by
  simp [decodePayload, h]

theorem flatMap_nodes_length {parts : List (List UInt8)}
    (values : ∀ p ∈ parts, ∃ v, decodeOne p = .ok v) :
    (parts.flatMap fun p => (decodePayload p).nodes).length = parts.length := by
  induction parts with
  | nil => rfl
  | cons p rest ih =>
    obtain ⟨v, whole⟩ := values p (by simp)
    have counted := ih fun r mem => values r (by simp [mem])
    simp only [List.flatMap_cons, List.length_append, decodePayload_of_decodeOne whole,
      List.length_cons, List.length_nil] at counted ⊢
    omega

theorem decodePayload_flatten {parts : List (List UInt8)} (nonempty : parts ≠ [])
    (values : ∀ p ∈ parts, ∃ v, decodeOne p = .ok v) :
    (decodePayload parts.flatten).nodes = parts.flatMap (fun p => (decodePayload p).nodes) ∧
    (decodePayload parts.flatten).failure = none ∧
    (decodePayload parts.flatten).mode =
      if parts.length = 1 then .single else .recovered parts.length := by
  induction parts with
  | nil => exact absurd rfl nonempty
  | cons p rest ih =>
    obtain ⟨v, whole⟩ := values p (by simp)
    have single := decodePayload_of_decodeOne whole
    cases rest with
    | nil => simp [single]
    | cons q rest =>
      obtain ⟨nodes, failure, -⟩ := ih (by simp) (fun r mem => values r (by simp [mem]))
      obtain ⟨w, next⟩ := values q (by simp)
      have after : (q :: rest).flatten ≠ [] := by
        have : q ≠ [] := by
          rintro rfl
          cases next
        simp [this]
      obtain ⟨nodes', mode', failure', -⟩ :=
        decodePayload_append (a := p) (by simp [single]) after
      have joined : (decodePayload (p :: q :: rest).flatten).nodes =
          (p :: q :: rest).flatMap fun p => (decodePayload p).nodes := by
        rw [List.flatten_cons, nodes', nodes]
        simp [single]
      refine ⟨joined, by rw [List.flatten_cons, failure'.mpr failure], ?_⟩
      rw [← List.flatten_cons] at mode'
      rw [mode', joined, flatMap_nodes_length values]
      simp

/-- Decoding is a homomorphism for concatenation: after a completely decoded payload, the nodes of
any nonempty continuation are appended, its failure moved by the prefix, and two or more complete
values side by side decode to their own nodes in order. -/
theorem decodePayload_concatenation :
    (∀ a b : List UInt8, (decodePayload a).failure = none → b ≠ [] →
      (decodePayload (a ++ b)).nodes = (decodePayload a).nodes ++ (decodePayload b).nodes ∧
      (decodePayload (a ++ b)).mode = .recovered (decodePayload (a ++ b)).nodes.length ∧
      ((decodePayload (a ++ b)).failure = none ↔ (decodePayload b).failure = none) ∧
      ∀ f ∈ (decodePayload b).failure, ∃ o d, f.source = .malformed o d ∧
        (decodePayload (a ++ b)).failure =
          some ⟨a.length + b.length, (decodePayload a).nodes.length + f.decoded,
            .malformed (a.length + o) d⟩) ∧
    ∀ parts : List (List UInt8), 2 ≤ parts.length → (∀ p ∈ parts, ∃ v, decodeOne p = .ok v) →
      (decodePayload parts.flatten).nodes = parts.flatMap (fun p => (decodePayload p).nodes) ∧
      (decodePayload parts.flatten).mode = .recovered parts.length ∧
      (decodePayload parts.flatten).failure = none := by
  refine ⟨fun a b complete nonempty => decodePayload_append complete nonempty, ?_⟩
  intro parts several values
  have nonempty : parts ≠ [] := by
    rintro rfl
    cases several
  obtain ⟨nodes, failure, mode⟩ := decodePayload_flatten nonempty values
  rw [if_neg (by omega)] at mode
  exact ⟨nodes, mode, failure⟩

theorem decodePayload_concatenation_of_nils :
    (decodePayload ([0xC0] ++ [0xC0, 0xC0])).nodes =
        (decodePayload [0xC0]).nodes ++ (decodePayload [0xC0, 0xC0]).nodes ∧
      (decodePayload [[0xC0], [0xC0], [0xC0]].flatten).mode = .recovered 3 :=
  ⟨(decodePayload_concatenation.1 [0xC0] [0xC0, 0xC0] rfl (by simp)).1,
    (decodePayload_concatenation.2 [[0xC0], [0xC0], [0xC0]] (by simp)
      (by simp only [List.mem_cons, List.not_mem_nil, or_false, forall_eq_or_imp, forall_eq]
          exact ⟨⟨.nil, rfl⟩, ⟨.nil, rfl⟩, ⟨.nil, rfl⟩⟩)).2.1⟩

end ChatArchive.Payload
