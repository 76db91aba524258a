import NetSweep.Json.Basic
import NetSweep.Proofs.SortedMaps

/-!
# Canonical values

Normalisation yields canonical values and leaves them alone, so it is a projection.  Laying null
fields over an object withdraws them and does nothing else.
-/

namespace NetSweep.Json

theorem canonicalMembers_iff {members : List (String × Json)} :
    CanonicalMembers members ↔ ∀ m ∈ members, m.2.Canonical := by
  induction members with
  | nil => simp [CanonicalMembers]
  | cons m rest ih => simp [CanonicalMembers, ih]

theorem canonicalMembers_ofList {members : List (String × Json)}
    (h : CanonicalMembers members) : CanonicalMembers (Assoc.ofList members) := by
  rw [canonicalMembers_iff] at h ⊢
  exact fun m hm => h m (Assoc.mem_of_mem_ofList hm)

mutual

theorem canonical_normalize : (v : Json) → v.normalize.Canonical
  | .null | .bool _ | .number _ | .string _ => trivial
  | .array items => canonicalItems_normalizeItems items
  | .object members =>
    ⟨Assoc.sorted_iff_keys.1 (Assoc.sorted_ofList _),
      canonicalMembers_ofList (canonicalMembers_normalizeMembers members)⟩

theorem canonicalItems_normalizeItems : (items : List Json) →
    CanonicalItems (normalizeItems items)
  | [] => trivial
  | v :: rest => ⟨canonical_normalize v, canonicalItems_normalizeItems rest⟩

theorem canonicalMembers_normalizeMembers : (members : List (String × Json)) →
    CanonicalMembers (normalizeMembers members)
  | [] => trivial
  | (_, v) :: rest => ⟨canonical_normalize v, canonicalMembers_normalizeMembers rest⟩

end

mutual

theorem normalize_of_canonical : (v : Json) → v.Canonical → v.normalize = v
  | .null, _ | .bool _, _ | .number _, _ | .string _, _ => rfl
  | .array items, h => congrArg Json.array (normalizeItems_of_canonical items h)
  | .object members, h => by
    have hm := normalizeMembers_of_canonical members h.2
    rw [normalize, hm, Assoc.ofList_of_sorted (Assoc.sorted_iff_keys.2 h.1)]

theorem normalizeItems_of_canonical : (items : List Json) → CanonicalItems items →
    normalizeItems items = items
  | [], _ => rfl
  | v :: rest, h => by
    rw [normalizeItems, normalize_of_canonical v h.1, normalizeItems_of_canonical rest h.2]

theorem normalizeMembers_of_canonical : (members : List (String × Json)) →
    CanonicalMembers members → normalizeMembers members = members
  | [], _ => rfl
  | (k, v) :: rest, h => by
    rw [normalizeMembers, normalize_of_canonical v h.1, normalizeMembers_of_canonical rest h.2]

end

theorem keys_normalizeMembers (members : List (String × Json)) :
    Assoc.keys (normalizeMembers members) = Assoc.keys members := by
  induction members with
  | nil => rfl
  | cons m rest ih => simpa [normalizeMembers, Assoc.keys] using ih

theorem normalizeMembers_eq_map (members : List (String × Json)) :
    normalizeMembers members = members.map fun m => (m.1, m.2.normalize) := by
  induction members with
  | nil => rfl
  | cons m rest ih => rw [normalizeMembers, ih, List.map_cons]

mutual

/-- The canonical form mentions no more; it may have lost bindings that others replace. -/
theorem mentions_of_normalize {target : String} : (v : Json) →
    v.normalize.mentions target = true → v.mentions target = true
  | .null, h | .bool _, h | .number _, h | .string _, h => h
  | .array items, h => mentionsItem_of_normalizeItems items h
  | .object members, h => by
    rw [normalize, mentions, mentionsMember_eq_any, List.any_eq_true] at h
    obtain ⟨m, hm, hmentions⟩ := h
    refine mentionsMember_of_normalizeMembers members ?_
    rw [mentionsMember_eq_any]
    exact List.any_eq_true.2 ⟨m, Assoc.mem_of_mem_ofList hm, hmentions⟩

theorem mentionsItem_of_normalizeItems {target : String} : (items : List Json) →
    mentionsItem target (normalizeItems items) = true → mentionsItem target items = true
  | [], h => h
  | v :: rest, h => by
    rw [normalizeItems, mentionsItem, Bool.or_eq_true] at h
    rw [mentionsItem, Bool.or_eq_true]
    exact h.imp (mentions_of_normalize v) (mentionsItem_of_normalizeItems rest)

theorem mentionsMember_of_normalizeMembers {target : String} : (members : List (String × Json)) →
    mentionsMember target (normalizeMembers members) = true → mentionsMember target members = true
  | [], h => h
  | (_, v) :: rest, h => by
    rw [normalizeMembers, mentionsMember, Bool.or_eq_true] at h
    rw [mentionsMember, Bool.or_eq_true]
    exact h.imp (mentions_of_normalize v) (mentionsMember_of_normalizeMembers rest)

end

/-- Null fields laid over an object withdraw the fields of their names. -/
theorem merge_withdrawal (members : List (String × Json)) (names : List String) :
    (Json.object members).merge (.object (names.map (·, .null))) =
      .object (members.filter (fun m => m.1 ∉ names)) := by
  simp only [merge]
  congr 1
  induction names generalizing members with
  | nil => simp
  | cons name names ih =>
    have step : mergeMember members (name, .null) = members.filter (fun m => m.1 ≠ name) := rfl
    rw [List.map_cons, List.foldl_cons, step, ih, List.filter_filter]
    congr 1
    funext m
    simp [Bool.and_comm]

/-- What a record's fields are in an object whose keys are distinct. -/
theorem fields?_object {members : List (String × Json)} (h : (Assoc.keys members).Nodup)
    (names : List String) :
    (Json.object members).fields? names = some (names.map (fun n => Assoc.find? n members)) := by
  have once : ∀ n, (members.filter (fun m => m.1 == n)).length ≤ 1 := by
    intro n
    have hc := List.nodup_iff_count_le_one.1 h n
    rwa [Assoc.keys, List.count, List.countP_map, List.countP_eq_length_filter] at hc
  rw [fields?, if_pos (by simp [once])]

end NetSweep.Json
