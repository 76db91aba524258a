import NetSweep.Proofs.ManagerPatches

/-!
# Objects as JSON and back

An object is read back from what is written for it.  What is written for an object that was read
from JSON is what it was read from: the other fields as they came, at any depth, and the own ones
without what the reading passes over, which is null and whatever a tag has beside its scope and
its value.
-/

namespace NetSweep

/-! ## Reading a canonical form -/

namespace Json

theorem normalizeItems_eq_map (items : List Json) : normalizeItems items = items.map normalize := by
  induction items with
  | nil => rfl
  | cons v rest ih => rw [normalizeItems, ih, List.map_cons]

/-- The fields of a record are those of its canonical form. -/
theorem fields?_normalize {v : Json} {names : List String} {fs : List (Option Json)}
    (h : v.fields? names = some fs) :
    v.normalize.fields? names = some (fs.map (Option.map normalize)) := by
  cases v with
  | object members =>
    rw [fields?] at h
    split at h
    · rename_i honce
      obtain rfl := Option.some.inj h
      have hsorted : Assoc.Sorted (Assoc.ofList (normalizeMembers members)) :=
        Assoc.sorted_ofList _
      rw [normalize, fields?_object hsorted.nodup, List.map_map]
      refine congrArg some (List.map_congr_left fun n hn => ?_)
      rw [Assoc.find?_ofList, normalizeMembers_eq_map, ← List.map_reverse, Assoc.find?_map,
        Assoc.find?_reverse_of_once (of_decide_eq_true (List.all_eq_true.1 honce n hn)),
        Function.comp_apply]
    · cases h
  | array items =>
    rw [fields?] at h
    split at h
    · rename_i hshort
      obtain rfl := Option.some.inj h
      rw [normalize, normalizeItems_eq_map, fields?, List.length_map, if_pos hshort, List.map_map]
      exact congrArg some (List.map_congr_left fun i _ => List.getElem?_map)
    · cases h
  | null | bool | number | string => cases h

theorem stringOr?_normalize {default s : String} {o : Option Json}
    (h : stringOr? default o = some s) : stringOr? default (o.map normalize) = some s := by
  match o, h with
  | none, h => exact h
  | some (.string _), h => exact h

theorem getD_of_stringOr? {default s : String} {o : Option Json}
    (h : stringOr? default o = some s) : o.getD (.string default) = .string s := by
  match o, h with
  | none, h | some (.string _), h =>
    obtain rfl := Option.some.inj h
    rfl

theorem optString?_normalize {o : Option Json} {s : Option String}
    (h : optString? o = some s) : optString? (o.map normalize) = some s := by
  match o, h with
  | none, h | some .null, h | some (.string _), h => exact h

/-- What an optional string is read from is the string or null. -/
theorem optString?_eq_some {o : Option Json} {s : Option String} (h : optString? o = some s) :
    s.map .string = o.filter fun v => !v.isNull := by
  match o, h with
  | none, h | some .null, h | some (.string _), h =>
    obtain rfl := Option.some.inj h
    rfl

/-- A field of a record, by its name or by its position. -/
def field? (name : String) (position : Nat) : Json → Option Json
  | .object members => Assoc.find? name members
  | .array items => items[position]?
  | _ => none

theorem fields?_pair {v : Json} {a b : String} {fs : List (Option Json)}
    (h : v.fields? [a, b] = some fs) : fs = [v.field? a 0, v.field? b 1] := by
  cases v with
  | object | array =>
    rw [fields?] at h
    split at h
    · exact (Option.some.inj h).symm
    · cases h
  | null | bool | number | string => cases h

end Json

/-! ## Tags -/

namespace Tag

/-- A tag in JSON reduced to its scope and its value, each empty if it is missing. -/
def reduced (v : Json) : Json :=
  .object [("scope", (v.field? "scope" 0).getD (.string "")),
    ("tag", (v.field? "tag" 1).getD (.string ""))]

theorem ofJson?_eq_some {v : Json} {t : Tag} (h : ofJson? v = some t) :
    v.fields? ["scope", "tag"] = some [v.field? "scope" 0, v.field? "tag" 1] ∧
      Json.stringOr? "" (v.field? "scope" 0) = some t.scope ∧
      Json.stringOr? "" (v.field? "tag" 1) = some t.tag := by
  cases hfields : v.fields? ["scope", "tag"] with
  | none =>
    rw [ofJson?, hfields] at h
    cases h
  | some fs =>
    obtain rfl := Json.fields?_pair hfields
    rw [ofJson?, hfields] at h
    obtain ⟨scope, hscope, h⟩ := Option.bind_eq_some_iff.1 h
    obtain ⟨tag, htag, rfl⟩ := Option.map_eq_some_iff.1 h
    exact ⟨rfl, hscope, htag⟩

/-- A tag is written as what it was read from, reduced. -/
theorem reduced_of_ofJson? {v : Json} {t : Tag} (h : ofJson? v = some t) :
    reduced v = t.toJson := by
  obtain ⟨-, hscope, htag⟩ := ofJson?_eq_some h
  rw [reduced, toJson, Json.getD_of_stringOr? hscope, Json.getD_of_stringOr? htag]

theorem ofJson?_normalize {v : Json} {t : Tag} (h : ofJson? v = some t) :
    ofJson? v.normalize = some t := by
  obtain ⟨hfields, hscope, htag⟩ := ofJson?_eq_some h
  rw [ofJson?, Json.fields?_normalize hfields, List.map_cons, List.map_singleton]
  dsimp only
  rw [Json.stringOr?_normalize hscope, Json.stringOr?_normalize htag]
  rfl

end Tag

/-! ## Objects -/

namespace Resource

variable {v : Json} {r : Resource} {members : List (String × Json)}

/-- The tags of an object in JSON, reduced; null and absence are no tags. -/
def reducedTags : Option Json → Json
  | some (.array items) => .array (items.map Tag.reduced)
  | _ => .array []

theorem reducedTags_of_tagsOf? {o : Option Json} {tags : List Tag}
    (h : tagsOf? o = some tags) : reducedTags o = .array (tags.map Tag.toJson) := by
  match o, h with
  | none, h | some .null, h =>
    obtain rfl := Option.some.inj h
    rfl
  | some (.array items), h =>
    exact congrArg Json.array (map_of_mapM h fun _ _ => Tag.reduced_of_ofJson?)

theorem tagsOf?_normalize {o : Option Json} {tags : List Tag}
    (h : tagsOf? o = some tags) : tagsOf? (o.map Json.normalize) = some tags := by
  match o, h with
  | none, h | some .null, h => exact h
  | some (.array items), h =>
    show (Json.normalizeItems items).mapM Tag.ofJson? = some tags
    rw [Json.normalizeItems_eq_map, mapM_eq_some, List.map_map]
    exact map_of_mapM h fun _ _ => Tag.ofJson?_normalize

/-- What the members of an object in JSON say of the object that is read from them. -/
structure ReadFrom (members : List (String × Json)) (r : Resource) : Prop where
  id : Assoc.find? "id" members = some (.string r.id)
  resourceType : Json.optString? (Assoc.find? "resource_type" members) = some r.resourceType
  displayName : Json.optString? (Assoc.find? "display_name" members) = some r.displayName
  path : Json.optString? (Assoc.find? "path" members) = some r.path
  tags : tagsOf? (Assoc.find? "tags" members) = some r.tags
  extra : r.extra = members.filter fun m => m.1 ∉ ownKeys

theorem fields_of_ofMembers? (h : ofMembers? members = some r) :
    ∃ type display path tags, (Json.object members).fields? ownKeys =
        some [some (.string r.id), type, display, path, tags] ∧
      Json.optString? type = some r.resourceType ∧ Json.optString? display = some r.displayName ∧
      Json.optString? path = some r.path ∧ tagsOf? tags = some r.tags := by
  unfold ofMembers? at h
  split at h
  · rename_i id type display path tags hfields
    obtain ⟨resourceType, htype, h⟩ := Option.bind_eq_some_iff.1 h
    obtain ⟨displayName, hdisplay, h⟩ := Option.bind_eq_some_iff.1 h
    obtain ⟨path', hpath, h⟩ := Option.bind_eq_some_iff.1 h
    obtain ⟨tags', htags, rfl⟩ := Option.map_eq_some_iff.1 h
    exact ⟨type, display, path, tags, hfields, htype, hdisplay, hpath, htags⟩
  · cases h

/-- An object is read from the members of the canonical form. -/
theorem readFrom_of_ofJson? (h : ofJson? v = some r) :
    ∃ members, v.normalize = .object members ∧ ReadFrom members r := by
  obtain ⟨raw, hraw, hread⟩ := Option.bind_eq_some_iff.1 h
  obtain rfl : v = .object raw := by
    cases v <;> cases hraw
    rfl
  have hsorted : Assoc.Sorted (Assoc.ofList (Json.normalizeMembers raw)) := Assoc.sorted_ofList _
  refine ⟨_, rfl, ?_⟩
  obtain ⟨type, display, path, tags, hfields, htype, hdisplay, hpath, htags⟩ :=
    fields_of_ofMembers? hread
  have hcanonical := Json.fields?_normalize hfields
  rw [Json.normalize, Json.fields?_object hsorted.nodup] at hcanonical
  simp only [ownKeys, List.map_cons, List.map_nil, Option.some.injEq, List.cons.injEq]
    at hcanonical
  obtain ⟨hid, htype', hdisplay', hpath', htags', -⟩ := hcanonical
  refine ⟨hid, htype' ▸ Json.optString?_normalize htype,
    hdisplay' ▸ Json.optString?_normalize hdisplay, hpath' ▸ Json.optString?_normalize hpath,
    htags' ▸ tagsOf?_normalize htags, ?_⟩
  rw [extra_of_ofMembers? hread, Json.normalizeMembers_eq_map, Json.normalizeMembers_eq_map,
    Assoc.filter_ofList (fun k => decide (k ∉ ownKeys)), List.filter_map]
  rfl

/-- What is written in the place of a field of an object in JSON: of the own ones the tags are
reduced, and null is left out of the others. -/
def rewritten (key : String) (o : Option Json) : Option Json :=
  if key = "tags" then some (reducedTags o)
  else if key ∈ ownKeys then o.filter fun v => !v.isNull
  else o

/-- An object is written as the members that it was read from, rewritten. -/
theorem get?_toJson (h : ReadFrom members r) (hproper : r.Proper) (key : String) :
    r.toJson.get? key = rewritten key (Assoc.find? key members) := by
  rw [toJson, Json.get?_object]
  by_cases hkey : key ∈ ownKeys
  · rw [find?_written_own hproper hkey]
    have hown := find?_ownMembers r
    simp only [ownKeys, List.map_cons, List.map_nil, List.cons.injEq] at hown
    obtain ⟨hid, htype, hdisplay, hpath, htags, -⟩ := hown
    simp only [ownKeys, List.mem_cons, List.not_mem_nil, or_false] at hkey
    rcases hkey with rfl | rfl | rfl | rfl | rfl
    · rw [hid, h.id]
      rfl
    · rw [htype, Json.optString?_eq_some h.resourceType]
      rfl
    · rw [hdisplay, Json.optString?_eq_some h.displayName]
      rfl
    · rw [hpath, Json.optString?_eq_some h.path]
      rfl
    · rw [htags, ← reducedTags_of_tagsOf? h.tags]
      rfl
  · have htags : key ≠ "tags" := fun e => hkey (e ▸ by decide)
    rw [find?_written_other hproper hkey, h.extra,
      Assoc.find?_filter (fun k => decide (k ∉ ownKeys)), if_pos (decide_eq_true hkey), rewritten,
      if_neg htags, if_neg hkey]

/-- An object whose other fields are a map, none of them named like an own one, is read back from
what is written for it.  An object that is read from JSON has as other fields just the members of
other names, as they are.  It is written as these members and as its own ones without null, the
tags reduced to scope and value, in order, and nothing else; and it is read back from that.  Where
the JSON binds a key more than once, this is so of its canonical form. -/
theorem resources_survive_json :
    (∀ r : Resource, r.Proper → ofJson? r.toJson = some r) ∧
    ∀ (v : Json) (r : Resource), ofJson? v = some r →
      ∃ members, v.normalize = .object members ∧ (v.Canonical → v = .object members) ∧
        r.extra = members.filter (fun m => m.1 ∉ ownKeys) ∧
        r.toJson.Canonical ∧
        (∀ key, r.toJson.get? key = rewritten key (Assoc.find? key members)) ∧
        ofJson? r.toJson = some r := by
  refine ⟨fun r => ofJson?_toJson, fun v r hread => ?_⟩
  have hproper : r.Proper := Decoded.proper ⟨v, hread⟩
  obtain ⟨members, hnormal, hfrom⟩ := readFrom_of_ofJson? hread
  refine ⟨members, hnormal, fun hcanonical => ?_, hfrom.extra,
    canonical_toJson hproper.canonical, get?_toJson hfrom hproper, ofJson?_toJson hproper⟩
  rw [← hnormal, Json.normalize_of_canonical v hcanonical]

/-- A port in JSON with more than is kept: null for a name, a tag with a colour and without a
value, and a tag that is a list. -/
def loosePort : Json :=
  .object [("attachment", .object [("id", .string "x")]), ("display_name", .null),
    ("id", .string "lp"), ("tags", .array [.object [("colour", .null), ("scope", .string "s")],
      .array [.string "s", .string "t"]])]

/-- The port loses the null and the colour, and nothing else. -/
theorem loose_port_survives_json :
    (attachedPort.Proper ∧ ofJson? attachedPort.toJson = some attachedPort) ∧
    ∃ r members, ofJson? loosePort = some r ∧ loosePort = .object members ∧
      r.extra = members.filter (fun m => m.1 ∉ ownKeys) ∧
      (∀ key, r.toJson.get? key = rewritten key (Assoc.find? key members)) ∧
      ofJson? r.toJson = some r ∧
      r.toJson = .object [("attachment", .object [("id", .string "x")]), ("id", .string "lp"),
        ("tags", .array [Tag.toJson { scope := "s", tag := "" },
          Tag.toJson { scope := "s", tag := "t" }])] := by
  obtain ⟨hwritten, hread⟩ := resources_survive_json
  have hproper : attachedPort.Proper :=
    ⟨(by decide : attachedPort.extra.Pairwise fun p q => p.1 < q.1), by decide, trivial,
      ⟨by decide, trivial, trivial⟩, trivial⟩
  have hport : loosePort.Canonical :=
    ⟨by decide, ⟨by decide, trivial, trivial⟩, trivial, trivial,
      ⟨⟨by decide, trivial, trivial, trivial⟩, ⟨trivial, trivial, trivial⟩, trivial⟩, trivial⟩
  cases hr : ofJson? loosePort with
  | none =>
    have hsome : (ofJson? loosePort).isSome = true := by decide +kernel
    rw [hr] at hsome
    cases hsome
  | some r =>
    obtain ⟨members, -, hmembers, hextra, -, hget, hback⟩ := hread loosePort r hr
    have hjson : (ofJson? loosePort).map toJson = some (.object
        [("attachment", .object [("id", .string "x")]), ("id", .string "lp"),
          ("tags", .array [Tag.toJson { scope := "s", tag := "" },
            Tag.toJson { scope := "s", tag := "t" }])]) := by decide +kernel
    rw [hr, Option.map_some, Option.some_inj] at hjson
    exact ⟨⟨hproper, hwritten attachedPort hproper⟩, r, members, rfl, hmembers hport, hextra, hget,
      hback, hjson⟩

end Resource

end NetSweep
