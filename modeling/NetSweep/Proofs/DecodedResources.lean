import NetSweep.Proofs.CanonicalJson
import NetSweep.Store

/-!
# Decoded objects

An object that was read from JSON keeps its other fields apart from its own five, in canonical
form.  Such an object is read back from what is written for it, and an update that withdraws some
of its other fields takes away these fields and leaves everything else as it was.
-/

namespace NetSweep

/-- A list is read just if each of its items is. -/
theorem mapM_eq_some {α β : Type} {f : α → Option β} {as : List α} {bs : List β} :
    as.mapM f = some bs ↔ as.map f = bs.map some := by
  induction as generalizing bs with
  | nil => cases bs <;> simp
  | cons a as ih =>
    cases hf : f a with
    | none => cases bs <;> simp [hf]
    | some b =>
      cases bs with
      | nil => cases has : as.mapM f <;> simp [hf, has]
      | cons b' bs => cases has : as.mapM f <;> simp [hf, has, ← ih]

/-- What agrees with the reading of each item agrees with the reading of the list. -/
theorem map_of_mapM {α β γ : Type} {f : α → Option β} {g : α → γ} {k : β → γ} {as : List α}
    {bs : List β} (hread : as.mapM f = some bs) (h : ∀ a b, f a = some b → g a = k b) :
    as.map g = bs.map k := by
  rw [mapM_eq_some] at hread
  induction as generalizing bs with
  | nil =>
    obtain rfl := List.map_eq_nil_iff.1 hread.symm
    rfl
  | cons a as ih =>
    cases bs with
    | nil => cases hread
    | cons b bs =>
      obtain ⟨hfirst, hrest⟩ := List.cons.inj hread
      rw [List.map_cons, List.map_cons, h a b hfirst, ih hrest]

namespace Resource

def Decoded (r : Resource) : Prop := ∃ v, ofJson? v = some r

/-- The other fields are in canonical form and none is named like an own one. -/
structure Proper (r : Resource) : Prop where
  sorted : Assoc.Sorted r.extra
  apart : ∀ k ∈ Assoc.keys r.extra, k ∉ ownKeys
  canonical : Json.CanonicalMembers r.extra

def without (names : List String) (r : Resource) : Resource :=
  { r with extra := r.extra.filter (fun m => m.1 ∉ names) }

/-- The first object is the second but for other fields that it may lack. -/
structure TrimOf (r s : Resource) : Prop where
  id : r.id = s.id
  resourceType : r.resourceType = s.resourceType
  displayName : r.displayName = s.displayName
  path : r.path = s.path
  tags : r.tags = s.tags
  extra : r.extra.Sublist s.extra

theorem TrimOf.refl (r : Resource) : r.TrimOf r := ⟨rfl, rfl, rfl, rfl, rfl, .refl _⟩

theorem TrimOf.trans {r s t : Resource} (h : r.TrimOf s) (h' : s.TrimOf t) : r.TrimOf t :=
  ⟨h.id.trans h'.id, h.resourceType.trans h'.resourceType, h.displayName.trans h'.displayName,
    h.path.trans h'.path, h.tags.trans h'.tags, h.extra.trans h'.extra⟩

theorem without_trimOf (names : List String) (r : Resource) : (r.without names).TrimOf r :=
  ⟨rfl, rfl, rfl, rfl, rfl, List.filter_sublist⟩

theorem TrimOf.without {r s : Resource} (h : r.TrimOf s) (names : List String) :
    (r.without names).TrimOf (s.without names) :=
  ⟨h.id, h.resourceType, h.displayName, h.path, h.tags, h.extra.filter _⟩

theorem TrimOf.hasTag {r s : Resource} (h : r.TrimOf s) (p : TagPredicate) :
    r.hasTag p = s.hasTag p := by simp [Resource.hasTag, h.tags]

/-- What lacks fields mentions no more. -/
theorem TrimOf.mentions {r s : Resource} (h : r.TrimOf s) {target : String}
    (hr : r.mentions target = true) : s.mentions target = true := by
  simp only [Resource.mentions, Json.mentionsMember_eq_any, List.any_eq_true] at hr ⊢
  obtain ⟨m, hm, ht⟩ := hr
  exact ⟨m, h.extra.subset hm, ht⟩

theorem TrimOf.proper {r s : Resource} (h : r.TrimOf s) (hs : s.Proper) : r.Proper where
  sorted := hs.sorted.sublist h.extra
  apart k hk := hs.apart k ((h.extra.map Prod.fst).subset hk)
  canonical := by
    have hc := Json.canonicalMembers_iff.1 hs.canonical
    exact Json.canonicalMembers_iff.2 fun m hm => hc m (h.extra.subset hm)

/-- The other fields of what was read are those of the JSON object that are not own ones. -/
theorem extra_of_ofMembers? {members : List (String × Json)} {r : Resource}
    (h : ofMembers? members = some r) : r.extra = Assoc.ofList
      (Json.normalizeMembers (members.filter (fun m => m.1 ∉ ownKeys))) := by
  unfold ofMembers? at h
  split at h
  · simp only [Option.bind_eq_some_iff, Option.map_eq_some_iff] at h
    obtain ⟨_, -, _, -, _, -, _, -, rfl⟩ := h
    rfl
  · cases h

theorem Decoded.proper {r : Resource} (h : r.Decoded) : r.Proper := by
  obtain ⟨v, hv⟩ := h
  obtain ⟨members, -, hm⟩ := Option.bind_eq_some_iff.1 hv
  have hextra := extra_of_ofMembers? hm
  refine ⟨hextra ▸ Assoc.sorted_ofList _, fun k hk => ?_, hextra ▸
    Json.canonicalMembers_ofList (Json.canonicalMembers_normalizeMembers _)⟩
  rw [hextra] at hk
  obtain ⟨m, hm, rfl⟩ := List.mem_map.1 hk
  have hk' : m.1 ∈ Assoc.keys (members.filter (fun m => m.1 ∉ ownKeys)) :=
    Json.keys_normalizeMembers _ ▸ List.mem_map_of_mem (Assoc.mem_of_mem_ofList hm)
  obtain ⟨m', hm', e⟩ := List.mem_map.1 hk'
  have hout := (List.mem_filter.1 hm').2
  rw [e] at hout
  simpa using hout

/-! ## Reading back what was written -/

theorem keys_optional_sublist (name : String) (o : Option String) :
    (Assoc.keys (o.toList.map fun s => (name, Json.string s))).Sublist [name] := by
  cases o with
  | none => exact List.nil_sublist _
  | some s => exact .refl _

theorem find?_optional (k name : String) (o : Option String) :
    Assoc.find? k (o.toList.map fun s => (name, Json.string s)) =
      if name = k then o.map .string else none := by
  cases o <;> simp [Assoc.find?_cons]

theorem keys_ownMembers_sublist (r : Resource) :
    (Assoc.keys r.ownMembers).Sublist ownKeys := by
  have htype := keys_optional_sublist "resource_type" r.resourceType
  have hname := keys_optional_sublist "display_name" r.displayName
  have hpath := keys_optional_sublist "path" r.path
  have hall := (((htype.cons_cons "id").append hname).append hpath).append (.refl ["tags"])
  rw [Assoc.keys, ownMembers, List.map_append, List.map_append, List.map_append, List.map_cons]
  exact hall

theorem find?_ownMembers (r : Resource) :
    ownKeys.map (fun k => Assoc.find? k r.ownMembers) =
      [some (.string r.id), r.resourceType.map .string, r.displayName.map .string,
        r.path.map .string, some (.array (r.tags.map Tag.toJson))] := by
  simp [ownMembers, ownKeys, Assoc.find?_cons, Assoc.find?_append, find?_optional]

theorem optString?_map (s : Option String) : Json.optString? (s.map .string) = some s := by
  cases s <;> rfl

theorem tagsOf?_array (tags : List Tag) :
    tagsOf? (some (.array (tags.map Tag.toJson))) = some tags := by
  have h : (tags.map Tag.toJson).mapM Tag.ofJson? = some tags := by
    rw [mapM_eq_some, List.map_map]
    exact List.map_congr_left fun t _ => Tag.ofJson?_toJson t
  simpa [tagsOf?, Json.array?] using h

/-- An object is read back from any ordered members that bind its own fields as it does and
beside them its other fields. -/
theorem ofMembers?_eq {r : Resource} (h : r.Proper) {members : List (String × Json)}
    (hm : Assoc.Sorted members)
    (hown : ∀ k ∈ ownKeys, Assoc.find? k members = Assoc.find? k r.ownMembers)
    (hextra : ∀ k ∉ ownKeys, Assoc.find? k members = Assoc.find? k r.extra) :
    ofMembers? members = some r := by
  have hfields : (Json.object members).fields? ownKeys =
      some [some (.string r.id), r.resourceType.map .string, r.displayName.map .string,
        r.path.map .string, some (.array (r.tags.map Tag.toJson))] := by
    rw [Json.fields?_object hm.nodup, List.map_congr_left hown, find?_ownMembers]
  have hrest : members.filter (fun m => m.1 ∉ ownKeys) = r.extra := by
    refine (hm.sublist List.filter_sublist).ext h.sorted fun k => ?_
    rw [Assoc.find?_filter (fun k => decide (k ∉ ownKeys))]
    by_cases hk : k ∈ ownKeys
    · have hnone : Assoc.find? k r.extra = none :=
        Assoc.find?_eq_none_iff.2 fun hmem => h.apart k hmem hk
      simp [hk, hnone]
    · simp [hk, hextra k hk]
  unfold ofMembers?
  rw [hfields]
  simp only [optString?_map, tagsOf?_array, Option.bind_some, Option.map_some, hrest,
    Json.normalizeMembers_of_canonical _ h.canonical, Assoc.ofList_of_sorted h.sorted]

theorem nodup_keys_written {r : Resource} (h : r.Proper) :
    (Assoc.keys (r.ownMembers ++ r.extra)).Nodup := by
  have hown : (Assoc.keys r.ownMembers).Nodup :=
    (by decide : ownKeys.Nodup).sublist (keys_ownMembers_sublist r)
  rw [Assoc.keys, List.map_append]
  refine List.nodup_append.2 ⟨hown, h.sorted.nodup, ?_⟩
  rintro k hk _ hk' rfl
  exact h.apart k hk' ((keys_ownMembers_sublist r).subset hk)

theorem find?_written_own {r : Resource} (h : r.Proper) {k : String} (hk : k ∈ ownKeys) :
    Assoc.find? k (Assoc.ofList (r.ownMembers ++ r.extra)) = Assoc.find? k r.ownMembers := by
  have hnone : Assoc.find? k r.extra = none :=
    Assoc.find?_eq_none_iff.2 fun hmem => h.apart k hmem hk
  rw [Assoc.find?_ofList_of_nodup k (nodup_keys_written h), Assoc.find?_append, hnone,
    Option.or_none]

theorem find?_written_other {r : Resource} (h : r.Proper) {k : String} (hk : k ∉ ownKeys) :
    Assoc.find? k (Assoc.ofList (r.ownMembers ++ r.extra)) = Assoc.find? k r.extra := by
  have hnone : Assoc.find? k r.ownMembers = none :=
    Assoc.find?_eq_none_iff.2 fun hmem => hk ((keys_ownMembers_sublist r).subset hmem)
  rw [Assoc.find?_ofList_of_nodup k (nodup_keys_written h), Assoc.find?_append, hnone,
    Option.none_or]

theorem ofJson?_toJson {r : Resource} (h : r.Proper) : ofJson? r.toJson = some r :=
  ofMembers?_eq h (Assoc.sorted_ofList _) (fun _ hk => find?_written_own h hk)
    fun _ hk => find?_written_other h hk

/-- Withdrawing other fields of an object that was read from JSON does just that. -/
theorem patchResource?_withdrawal {r : Resource} (h : r.Proper) {names : List String}
    (hn : ∀ k ∈ names, k ∉ ownKeys) :
    Store.patchResource? r (.object (names.map (·, .null))) = some (r.without names) := by
  have hw : (r.without names).Proper := (without_trimOf names r).proper h
  have hsorted : Assoc.Sorted (Assoc.ofList (r.ownMembers ++ r.extra)) := Assoc.sorted_ofList _
  rw [Store.patchResource?, toJson, Json.merge_withdrawal]
  refine ofMembers?_eq hw (hsorted.sublist List.filter_sublist) (fun k hk => ?_) fun k hk => ?_
  · have hkept : k ∉ names := fun hmem => hn k hmem hk
    rw [Assoc.find?_filter (fun k => decide (k ∉ names)), if_pos (decide_eq_true hkept),
      find?_written_own h hk]
    rfl
  · rw [Assoc.find?_filter (fun k => decide (k ∉ names)), find?_written_other h hk, without,
      Assoc.find?_filter (fun k => decide (k ∉ names))]

/-- Withdrawing fields makes an object mention no more, whether or not it was read from JSON. -/
theorem mentions_of_patch {r r' : Resource} {names : List String}
    (h : Store.patchResource? r (.object (names.map (·, .null))) = some r') {target : String}
    (hr' : r'.mentions target = true) : r.mentions target = true := by
  rw [Store.patchResource?, toJson, Json.merge_withdrawal] at h
  rw [Resource.mentions, extra_of_ofMembers? h, Json.mentionsMember_eq_any, List.any_eq_true] at hr'
  obtain ⟨m, hm, hmentions⟩ := hr'
  have hm := Assoc.mem_of_mem_ofList hm
  rw [Json.normalizeMembers_eq_map] at hm
  obtain ⟨m₀, hm₀, rfl⟩ := List.mem_map.1 hm
  obtain ⟨hm₀, houtside⟩ := List.mem_filter.1 hm₀
  have hwritten := Assoc.mem_of_mem_ofList (List.mem_filter.1 hm₀).1
  rcases List.mem_append.1 hwritten with hown | hextra
  · have hkey : m₀.1 ∈ ownKeys := (keys_ownMembers_sublist r).subset (List.mem_map_of_mem hown)
    exact absurd hkey (by simpa using houtside)
  · rw [Resource.mentions, Json.mentionsMember_eq_any]
    exact List.any_eq_true.2 ⟨m₀, hextra, Json.mentions_of_normalize m₀.2 hmentions⟩

end Resource

end NetSweep
