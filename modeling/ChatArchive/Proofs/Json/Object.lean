import ChatArchive.Proofs.Message.Layout
/-!
Objects built by insertion. A JSON object made by putting members in turn into an ordered map
holds each key once, in the order keys first occur, bound to the value of the key's last
member. A map value's JSON view is built so, from its entries keyed by key text: an integer key
and the text of its digits name the same member, as do a key folded from another value and that
value's JSON text. Call arguments follow the same rule when they are a map; nil and the field's
default give no members, and any other value is wrapped under `value`.
-/
namespace ChatArchive.Json

/-- `members` is the object an insertion-ordered map makes of `entries`: each key once, in order
of first occurrence, bound to the value of the last entry with that key. -/
def LastWins (entries members : List (String × Doc)) : Prop :=
  members.map Prod.fst = (entries.map Prod.fst).eraseDups ∧
    ∀ m ∈ members, entries.reverse.lookup m.1 = some m.2

namespace Doc

variable {members : List (String × Doc)} {key : String} {value : Doc}

theorem keys_put :
    (put members key value).map Prod.fst =
      if key ∈ members.map Prod.fst then members.map Prod.fst
      else members.map Prod.fst ++ [key] := by
  by_cases present : members.any (fun m => m.1 == key)
  · have mem : key ∈ members.map Prod.fst := by simpa using present
    simp only [put, present, if_true, mem, List.map_map]
    apply List.map_congr_left
    intro m _
    by_cases same : m.1 = key <;> simp [same]
  · have mem : key ∉ members.map Prod.fst := by simpa using present
    simp [put, present, mem]

theorem mem_put {m : String × Doc} (mem : m ∈ put members key value) :
    m = (key, value) ∨ (m ∈ members ∧ m.1 ≠ key) := by
  unfold put at mem
  split at mem
  · obtain ⟨m', mem', rfl⟩ := List.mem_map.mp mem
    by_cases same : m'.1 = key
    · simp [same]
    · simp [same, mem']
  · rcases List.mem_append.mp mem with old | new
    · rename_i absent
      refine .inr ⟨old, fun same => absent ?_⟩
      exact List.any_eq_true.mpr ⟨m, old, by simp [same]⟩
    · exact .inl (List.mem_singleton.mp new)

end Doc

theorem lookup_reverse_snoc (entries : List (String × Doc)) (key : String) (value : Doc)
    (k : String) :
    (entries ++ [(key, value)]).reverse.lookup k =
      if k = key then some value else entries.reverse.lookup k := by
  by_cases same : k = key
  · simp [same]
  · have skipped : (k == key) = false := beq_eq_false_iff_ne.mpr same
    simp [List.lookup_cons, same, skipped]

namespace LastWins

variable {entries members : List (String × Doc)}

theorem put (built : LastWins entries members) (key : String) (value : Doc) :
    LastWins (entries ++ [(key, value)]) (Doc.put members key value) := by
  obtain ⟨keys, values⟩ := built
  constructor
  · -- the new key is appended exactly when no earlier entry has it
    have removed : [key].removeAll (entries.map Prod.fst) =
        if key ∈ entries.map Prod.fst then [] else [key] := by
      by_cases seen : key ∈ entries.map Prod.fst <;> simp [List.removeAll, seen]
    simp only [List.map_append, List.map_cons, List.map_nil]
    rw [Doc.keys_put, List.eraseDups_append, removed, keys]
    by_cases old : key ∈ entries.map Prod.fst
    · simp [old]
    · simp [old, List.eraseDups_cons]
  · intro m mem
    rcases Doc.mem_put mem with rfl | ⟨old, other⟩
    · rw [lookup_reverse_snoc, if_pos rfl]
    · rw [lookup_reverse_snoc, if_neg other]
      exact values m old

theorem foldl (built : LastWins entries members) (rest : List (String × Doc)) :
    LastWins (entries ++ rest) (rest.foldl (fun acc e => Doc.put acc e.1 e.2) members) := by
  induction rest generalizing entries members with
  | nil => simpa using built
  | cons e rest ih =>
    have step := built.put e.1 e.2
    simpa using ih step

end LastWins

theorem collect_lastWins (entries : List (String × Doc)) : LastWins entries (Doc.collect entries) := by
  have empty : LastWins [] [] := ⟨rfl, by simp⟩
  simpa [Doc.collect] using empty.foldl entries

end ChatArchive.Json

namespace ChatArchive

open ChatArchive.Json

def Value.keyedDocs (entries : List (Key × Value)) : List (String × Doc) :=
  entries.map fun e => (e.1.text, e.2.toDoc)

theorem Value.toMembers_eq (entries : List (Key × Value)) :
    Value.toMembers entries = Value.keyedDocs entries := by
  induction entries with
  | nil => rfl
  | cons e rest ih =>
    obtain ⟨k, v⟩ := e
    simp [Value.toMembers, Value.keyedDocs, ih]

theorem Value.map_toDoc (entries : List (Key × Value)) :
    (Value.map entries).toDoc = .obj (Doc.collect (Value.keyedDocs entries)) := by
  rw [Value.toDoc, Value.toMembers_eq]

namespace Message

theorem arguments_map (entries : List (Key × Value)) :
    arguments (.map entries) = Doc.collect (Value.keyedDocs entries) := rfl

theorem call_arguments_of_default {v : Value}
    (absent : v.get .callArguments = Field.callArguments.default) : (call v).arguments = [] := by
  simp only [call, absent]
  rfl

theorem call_arguments_of_absent_key {es : List (Key × Value)} (absent : ∀ e ∈ es, e.1 ≠ .int 1) :
    (call (.map es)).arguments = [] := by
  have missing : es.find? (·.1 == .int Field.callArguments.index) = none :=
    List.find?_eq_none.mpr fun e mem same => absent e mem (by simpa [Field.index, Field.spec] using same)
  apply call_arguments_of_default
  rw [get_map, missing]
  rfl

theorem call_arguments_of_short {xs : List Value} (short : xs.length ≤ 1) :
    (call (.arr xs)).arguments = [] := by
  have missing : xs[Field.callArguments.index]? = none :=
    List.getElem?_eq_none (by simp only [Field.index, Field.spec]; omega)
  apply call_arguments_of_default
  rw [get_arr, missing]
  rfl

theorem call_arguments_of_scalar {v : Value} (scalar : v.shape = .other) :
    (call v).arguments = [] := by
  -- an entry that is neither map nor array has no fields, so each reads as its default
  apply call_arguments_of_default
  cases v <;> simp_all [Value.shape, Value.get, Value.field]

/-- A map's JSON view holds each key text once, in order of first occurrence, with the JSON view
of the last entry of that text, and call arguments read from a map are the same members. Nil
arguments, and arguments a call entry leaves out (read as the field's default, the empty map)
because it is a map without key 1, an array without position 1 or no map or array at all, give
no members; any other value is wrapped as the one member `value`. -/
theorem map_json_last_value_wins (entries : List (Key × Value)) (xs : List Value) (v : Value) :
    (∃ members, (Value.map entries).toDoc = .obj members ∧ arguments (.map entries) = members ∧
      LastWins (Value.keyedDocs entries) members) ∧
    arguments .nil = [] ∧
    ((∀ e ∈ entries, e.1 ≠ .int 1) → (call (.map entries)).arguments = []) ∧
    (xs.length ≤ 1 → (call (.arr xs)).arguments = []) ∧
    (v.shape = .other → (call v).arguments = []) ∧
    (v ≠ .nil → (∀ es, v ≠ .map es) → arguments v = [("value", v.toDoc)]) := by
  refine ⟨⟨_, Value.map_toDoc entries, arguments_map entries, collect_lastWins _⟩, rfl,
    call_arguments_of_absent_key, call_arguments_of_short, call_arguments_of_scalar, ?_⟩
  intro not_nil not_map
  cases v with
  | nil => exact absurd rfl not_nil
  | map es => exact absurd rfl (not_map es)
  | _ => rfl

example : (Value.map [(.int 1, .str "a"), (.str "1", .str "b")]).toDoc = .obj [("1", .str "b")] := by
  rfl

example : (Value.map [((Value.bool true).toKey, .nil), (.str "q", .nil), (.str "true", .str "b")]).toDoc =
    .obj [("true", .str "b"), ("q", .null)] := by
  rfl

theorem map_json_last_value_wins_of_name_only :
    (∀ e ∈ [((.int 0 : Key), Value.str "search")], e.1 ≠ .int 1) ∧
      (call (.map [(.int 0, .str "search")])).arguments = [] ∧
      [Value.str "search"].length ≤ 1 ∧ (call (.arr [.str "search"])).arguments = [] ∧
      (Value.str "search").shape = .other ∧ (call (.str "search")).arguments = [] ∧
      (Value.str "search" ≠ .nil ∧ ∀ es, Value.str "search" ≠ .map es) ∧
      arguments (.str "search") = [("value", (Value.str "search").toDoc)] := by
  have main := map_json_last_value_wins [(.int 0, .str "search")] [.str "search"] (.str "search")
  have named : ∀ e ∈ [((.int 0 : Key), Value.str "search")], e.1 ≠ .int 1 := by decide
  have short : [Value.str "search"].length ≤ 1 := by decide
  have scalar : (Value.str "search").shape = .other := rfl
  have wrapped : Value.str "search" ≠ .nil ∧ ∀ es, Value.str "search" ≠ .map es := ⟨by simp, by simp⟩
  exact ⟨named, main.2.2.1 named, short, main.2.2.2.1 short, scalar, main.2.2.2.2.1 scalar, wrapped,
    main.2.2.2.2.2 wrapped.1 wrapped.2⟩

end Message

end ChatArchive
