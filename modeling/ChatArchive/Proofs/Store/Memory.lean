import ChatArchive.Inspect
import ChatArchive.Store.Memory
import Mathlib.Data.List.Forall2
/-!
The in-memory store under any history of additions. Chats list newest first, duplicates kept. A
chat id matches a query when the two agree up to the case of ASCII letters; the chat list compares
ids pairwise while records are filed under their folded id, and both come to this one rule
(`foldAscii_eq_iff`). The records of a chat come back sorted stably by creation time. Inspecting a
chat decodes exactly those records, in that order, or reports the chat missing.
-/
namespace ChatArchive.Store

def SameUpToAsciiCase (a b : String) : Prop :=
  List.Forall₂ (fun c d => c.toLower = d.toLower) a.toList b.toList

instance (a b : String) : Decidable (SameUpToAsciiCase a b) :=
  inferInstanceAs (Decidable (List.Forall₂ _ _ _))

theorem foldAscii_eq_iff {a b : String} : foldAscii a = foldAscii b ↔ SameUpToAsciiCase a b := by
  rw [← String.toList_inj, foldAscii, foldAscii, String.toList_map, String.toList_map,
    ← List.forall₂_eq_eq_eq, List.forall₂_map_left_iff, List.forall₂_map_right_iff]
  rfl

theorem sameIgnoringAsciiCase_iff {a b : String} :
    sameIgnoringAsciiCase a b = true ↔ SameUpToAsciiCase a b := by
  simp [sameIgnoringAsciiCase, foldAscii_eq_iff]

/-- `out` is `xs` sorted stably by `key`: a permutation of it, ordered by key, and with the
elements of each key in their order in `xs`. -/
def SortedStably {α : Type} (key : α → Int) (xs out : List α) : Prop :=
  out.Perm xs ∧ out.Pairwise (fun a b => key a ≤ key b) ∧
    ∀ k, out.filter (fun a => key a = k) = xs.filter (fun a => key a = k)

theorem sortedStably_mergeSort {α : Type} (key : α → Int) (xs : List α) :
    SortedStably key xs (xs.mergeSort fun a b => key a ≤ key b) := by
  have trans : ∀ a b c : α, decide (key a ≤ key b) = true → decide (key b ≤ key c) = true →
      decide (key a ≤ key c) = true := by
    simp only [decide_eq_true_eq]
    omega
  have total : ∀ a b : α, (decide (key a ≤ key b) || decide (key b ≤ key a)) = true := by
    simp only [Bool.or_eq_true, decide_eq_true_eq]
    omega
  refine ⟨List.mergeSort_perm _ _, ?_, ?_⟩
  · simpa using List.pairwise_mergeSort trans total xs
  · intro k
    -- the elements of one key are pairwise ordered, so the sort keeps them as a sublist
    have tied : (xs.filter fun a => key a = k).Pairwise fun a b => decide (key a ≤ key b) = true :=
      List.Pairwise.imp_of_mem (fun ha hb _ => by simp_all) (List.pairwise_of_forall fun _ _ => trivial)
    have kept := (List.sublist_mergeSort trans total tied List.filter_sublist).filter
      (fun a => decide (key a = k))
    rw [List.filter_filter, List.filter_congr (fun a _ => Bool.and_self _)] at kept
    exact (kept.eq_of_length ((List.mergeSort_perm _ _).filter _).length_eq.symm).symm

namespace Memory

inductive Op where
  | addChat (id : String) (topic : Option String)
  | addRecord (chatId : String) (r : Record)

def Op.apply (s : Memory) : Op → Memory
  | .addChat id topic => s.addChat id topic
  | .addRecord chatId r => s.addRecord chatId r

def Op.chat? : Op → Option Chat
  | .addChat id topic => some ⟨id, topic⟩
  | .addRecord _ _ => none

def Op.record? : Op → Option (String × Record)
  | .addChat _ _ => none
  | .addRecord chatId r => some (chatId, r)

def build (ops : List Op) : Memory := ops.foldl Op.apply empty

theorem foldl_apply (ops : List Op) (s : Memory) :
    ops.foldl Op.apply s = ⟨(ops.filterMap Op.chat?).reverse ++ s.chats,
      s.records ++ (ops.filterMap Op.record?).map fun e => (foldAscii e.1, e.2)⟩ := by
  induction ops generalizing s with
  | nil => simp
  | cons op ops ih =>
    cases op <;> simp [ih, Op.apply, Op.chat?, Op.record?, addChat, addRecord, List.filterMap_cons]

theorem build_chats (ops : List Op) : (build ops).chats = (ops.filterMap Op.chat?).reverse := by
  simp [build, foldl_apply, empty]

theorem build_records (ops : List Op) :
    (build ops).records = (ops.filterMap Op.record?).map fun e => (foldAscii e.1, e.2) := by
  simp [build, foldl_apply, empty]

theorem chatExists_build (ops : List Op) (q : String) :
    (build ops).chatExists q = true ↔ ∃ c ∈ ops.filterMap Op.chat?, SameUpToAsciiCase c.id q := by
  rw [chatExists, build_chats, List.any_eq_true]
  simp only [List.mem_reverse, sameIgnoringAsciiCase_iff]

theorem filed_build (ops : List Op) (q : String) :
    (((build ops).records.filter fun e => e.1 == foldAscii q).map Prod.snd) =
      ((ops.filterMap Op.record?).filter fun e => decide (SameUpToAsciiCase e.1 q)).map Prod.snd := by
  rw [build_records, List.filter_map, List.map_map]
  congr 1
  apply List.filter_congr
  intro e _
  rw [Function.comp_apply, Bool.eq_iff_iff, beq_iff_eq, decide_eq_true_iff, foldAscii_eq_iff]

theorem chatRecords_build (ops : List Op) (q : String) :
    SortedStably (fun r => r.createdAt.toInt)
      (((ops.filterMap Op.record?).filter fun e => decide (SameUpToAsciiCase e.1 q)).map Prod.snd)
      ((build ops).chatRecords q) := by
  rw [chatRecords, filed_build]
  exact sortedStably_mergeSort _ _

end Memory

end ChatArchive.Store

namespace ChatArchive.Inspect

open ChatArchive.Store ChatArchive.Store.Memory ChatArchive.Clock ChatArchive.Payload

theorem failures_eq_filter (t : Transcript) :
    t.failures = t.records.filter fun r => r.decoded.failure.isSome := by
  simp [Transcript.failures, Outcome.isComplete]

theorem inspectChat_memory (s : Memory) (q : String) :
    inspectChat s q = if s.chatExists q then .ok ⟨q, (s.chatRecords q).map Report.ofRecord⟩
      else .error (.store (.chatNotFound q)) := by
  cases found : s.chatExists q <;> simp [inspectChat, Source.chatExists, Source.chatRecords, found]

/-- A store filled by any history of additions lists its chats newest first, matches chat ids up
to ASCII case, gives a chat's records sorted stably by creation time, and inspecting a chat
decodes exactly those records, in order, or finds no chat; the failures of a transcript are its
reports whose payload did not decode completely. -/
theorem inspect_memory_history (ops : List Op) (q : String) :
    (build ops).listChats = (ops.filterMap Op.chat?).reverse ∧
    ((build ops).chatExists q = true ↔ ∃ c ∈ ops.filterMap Op.chat?, SameUpToAsciiCase c.id q) ∧
    SortedStably (fun r => r.createdAt.toInt)
      (((ops.filterMap Op.record?).filter fun e => decide (SameUpToAsciiCase e.1 q)).map Prod.snd)
      ((build ops).chatRecords q) ∧
    inspectChat (build ops) q =
      (if (build ops).chatExists q then
        .ok ⟨q, ((build ops).chatRecords q).map fun r => ⟨r.id, r.author, r.createdAt,
          Instant.ofTicks? r.createdAt, r.payload.length, decodePayload r.payload⟩⟩
      else .error (.store (.chatNotFound q))) ∧
    ∀ t : Transcript, t.failures = t.records.filter fun r => r.decoded.failure.isSome :=
  ⟨build_chats ops, chatExists_build ops q, chatRecords_build ops q, inspectChat_memory _ q,
    failures_eq_filter⟩

end ChatArchive.Inspect
