import NetSweep.Proofs.DecodedResources
import NetSweep.Proofs.PrintedJson
import NetSweep.Proofs.SentRequests

/-!
# Patches of the manager API

The manager API takes whole objects.  So a patch there reads the object, lays the fields over it
and puts it back, revision included; and what it puts is what a store would hold after the same
patch, read as JSON.
-/

namespace NetSweep

/-! ## Fields laid over an object -/

namespace Json

variable {c body : Json} {depth : Nat}

/-- What becomes of a field when a change is laid over it: null takes it away. -/
def laidOver : Option Json → Option Json → Option Json
  | none, current => current
  | some change, _ => if change.isNull then none else some change

theorem laidOver_laidOver (change current : Option Json) :
    laidOver change (laidOver change current) = laidOver change current := by
  cases change <;> rfl

theorem find?_mergeMember (key : String) (members : List (String × Json))
    (change : String × Json) : Assoc.find? key (mergeMember members change) =
      if change.1 = key then laidOver (some change.2) (Assoc.find? key members)
      else Assoc.find? key members := by
  by_cases hkey : change.1 = key
  · subst hkey
    rw [if_pos rfl, mergeMember, laidOver]
    split
    · exact Assoc.find?_erase_self _ _
    · exact Assoc.find?_insert_self _ _ _
  · rw [if_neg hkey, mergeMember]
    split
    · exact Assoc.find?_erase_ne (Ne.symm hkey) _
    · exact Assoc.find?_insert_ne (Ne.symm hkey) _ _

theorem find?_merged {changes : List (String × Json)} (h : (Assoc.keys changes).Nodup)
    (key : String) (members : List (String × Json)) :
    Assoc.find? key (changes.foldl mergeMember members) =
      laidOver (Assoc.find? key changes) (Assoc.find? key members) := by
  induction changes generalizing members with
  | nil => rfl
  | cons change changes ih =>
    obtain ⟨hnew, hrest⟩ := List.nodup_cons.1 h
    rw [List.foldl_cons, ih hrest, find?_mergeMember, Assoc.find?_cons]
    split
    · rename_i hkey
      have hnone : Assoc.find? key changes = none :=
        Assoc.find?_eq_none_iff.2 (hkey ▸ hnew)
      rw [hnone, laidOver]
    · rfl

theorem sorted_mergeMember {members : List (String × Json)} (h : Assoc.Sorted members)
    (change : String × Json) : Assoc.Sorted (mergeMember members change) := by
  unfold mergeMember
  split
  · exact h.sublist List.filter_sublist
  · exact Assoc.sorted_insert _ _ h

theorem mem_mergeMember {members : List (String × Json)} {change m : String × Json}
    (h : m ∈ mergeMember members change) : m = change ∨ m ∈ members := by
  unfold mergeMember at h
  split at h
  · exact .inr (Assoc.mem_erase.1 h).1
  · exact Assoc.mem_insert h

/-- What holds of the members and of the changes holds of the members after the changes. -/
theorem forall_merged {P : String × Json → Prop} {members changes : List (String × Json)}
    (hmembers : ∀ m ∈ members, P m) (hchanges : ∀ m ∈ changes, P m) :
    ∀ m ∈ changes.foldl mergeMember members, P m := by
  induction changes generalizing members with
  | nil => exact hmembers
  | cons change changes ih =>
    obtain ⟨hchange, hrest⟩ := List.forall_mem_cons.1 hchanges
    refine ih (fun m hm => ?_) hrest
    rcases mem_mergeMember hm with rfl | hm
    · exact hchange
    · exact hmembers m hm

theorem sorted_merged {members : List (String × Json)} (h : Assoc.Sorted members)
    (changes : List (String × Json)) : Assoc.Sorted (changes.foldl mergeMember members) := by
  induction changes generalizing members with
  | nil => exact h
  | cons change changes ih => exact ih (sorted_mergeMember h change)

theorem objects_or_none (c body : Json) :
    (∃ members changes, c = .object members ∧ body = .object changes) ∨
      c.object? = none ∨ body.object? = none := by
  cases c <;> cases body <;> simp [object?]

/-- A value is left as it is when either of the two is no object. -/
theorem merge_of_no_object (h : c.object? = none ∨ body.object? = none) : c.merge body = c := by
  unfold merge
  split
  · rcases h with h | h <;> cases h
  · rfl

theorem canonical_merge (hc : c.Canonical) (hbody : body.Canonical) :
    (c.merge body).Canonical := by
  rcases objects_or_none c body with ⟨members, changes, rfl, rfl⟩ | hnone
  · refine ⟨Assoc.sorted_iff_keys.1 (sorted_merged (Assoc.sorted_iff_keys.2 hc.1) changes), ?_⟩
    exact canonicalMembers_iff.2
      (forall_merged (canonicalMembers_iff.1 hc.2) (canonicalMembers_iff.1 hbody.2))
  · rwa [merge_of_no_object hnone]

/-- Each field of an object with others laid over it is what the change of it makes of it. -/
theorem get?_merge {members changes : List (String × Json)}
    (hbody : (Json.object changes).Canonical) (key : String) :
    ((Json.object members).merge (.object changes)).get? key =
      laidOver ((Json.object changes).get? key) ((Json.object members).get? key) :=
  find?_merged (Assoc.sorted_iff_keys.2 hbody.1).nodup key members

/-- Fields that are laid over an object twice are as good as once. -/
theorem merge_merge (hc : c.Canonical) (hbody : body.Canonical) :
    (c.merge body).merge body = c.merge body := by
  rcases objects_or_none c body with ⟨members, changes, rfl, rfl⟩ | hnone
  · have hnodup := (Assoc.sorted_iff_keys.2 hbody.1).nodup
    have hsorted := sorted_merged (Assoc.sorted_iff_keys.2 hc.1) changes
    refine congrArg Json.object ((sorted_merged hsorted changes).ext hsorted fun key => ?_)
    rw [find?_merged hnodup, find?_merged hnodup, laidOver_laidOver]
  · rw [merge_of_no_object hnone, merge_of_no_object hnone]

theorem plain_merge (hc : Plain depth c) (hbody : Plain depth body) :
    Plain depth (c.merge body) := by
  rcases objects_or_none c body with ⟨members, changes, rfl, rfl⟩ | hnone
  · cases depth with
    | zero => cases hc
    | succ depth =>
      exact plainMembers_iff.2 (forall_merged (plainMembers_iff.1 hc) (plainMembers_iff.1 hbody))
  · rwa [merge_of_no_object hnone]

end Json

/-! ## Objects of a store -/

theorem Tag.canonical_toJson (t : Tag) : t.toJson.Canonical :=
  ⟨(by decide : ["scope", "tag"].Pairwise (· < ·)), trivial, trivial, trivial⟩

theorem Resource.canonical_ownMembers (r : Resource) : Json.CanonicalMembers r.ownMembers := by
  have htags : (Json.array (r.tags.map Tag.toJson)).Canonical := by
    rw [Json.Canonical]
    induction r.tags with
    | nil => trivial
    | cons t tags ih => exact ⟨t.canonical_toJson, ih⟩
  rw [Json.canonicalMembers_iff]
  intro m hm
  simp only [ownMembers, List.mem_append, List.mem_cons, List.not_mem_nil, or_false, List.mem_map,
    Option.mem_toList] at hm
  rcases hm with (((rfl | ⟨_, _, rfl⟩) | ⟨_, _, rfl⟩) | ⟨_, _, rfl⟩) | rfl
  · trivial
  · trivial
  · trivial
  · trivial
  · exact htags

theorem Resource.canonical_toJson {r : Resource} (h : Json.CanonicalMembers r.extra) :
    r.toJson.Canonical := by
  have hown := r.canonical_ownMembers
  refine ⟨Assoc.sorted_iff_keys.1 (Assoc.sorted_ofList _), Json.canonicalMembers_ofList ?_⟩
  rw [Json.canonicalMembers_iff] at hown h ⊢
  exact List.forall_mem_append.2 ⟨hown, h⟩

/-- The JSON of an object is plain if the other fields are. -/
theorem Resource.plain_toJson {r : Resource}
    (h : Json.PlainMembers (Json.maxDepth - 1) r.extra) : r.toJson.Plain Json.maxDepth := by
  have htags : Json.Plain (Json.maxDepth - 1) (.array (r.tags.map Tag.toJson)) := by
    refine Json.plainItems_iff.2 fun v hv => ?_
    obtain ⟨t, -, rfl⟩ := List.mem_map.1 hv
    exact ⟨trivial, trivial, trivial⟩
  have hown : ∀ m ∈ r.ownMembers, m.2.Plain (Json.maxDepth - 1) := by
    intro m hm
    simp only [ownMembers, List.mem_append, List.mem_cons, List.not_mem_nil, or_false,
      List.mem_map, Option.mem_toList] at hm
    rcases hm with (((rfl | ⟨_, _, rfl⟩) | ⟨_, _, rfl⟩) | ⟨_, _, rfl⟩) | rfl
    · trivial
    · trivial
    · trivial
    · trivial
    · exact htags
  refine Json.plainMembers_iff.2 fun m hm => ?_
  exact List.forall_mem_append.2 ⟨hown, Json.plainMembers_iff.1 h⟩ m (Assoc.mem_of_mem_ofList hm)

namespace Store

variable {p : Bool} {kind : Kind} {parents : List String} {id : String} {s : Store} {r : Resource}

/-- A store reads what was laid over the object's JSON; if that is no object any more, the store
stays as it is. -/
theorem patch_stored (haccess : requireAccess p kind parents = .ok ())
    (hfailure : Assoc.find? (kind, id) s.patchFailures = none)
    (hfind : s.find? { kind, parents, id } = some r) (body : Json) :
    Store.patch p kind parents id body s =
      match Resource.ofJson? (r.toJson.merge body) with
      | none => (.error (.invalidResponse "the patched object cannot be read"), s)
      | some patched =>
        (.ok (), { s with
          objects := Assoc.insert { kind, parents, id } patched s.objects
          patched := s.patched ++ [(kind, id)] }) := by
  rw [Store.patch, haccess]
  dsimp only
  rw [hfailure]
  dsimp only
  rw [hfind]
  rfl

end Store

/-! ## Reading and writing back -/

namespace Manager

open Http

variable {σ : Type} {m : Manager σ} {kind : Kind} {parents : List String} {id text : String}
  {u : Url} {body : Json} {s : σ}

def reading (m : Manager σ) (u : Url) : Request := m.signed (.plain .get u)

def writing (m : Manager σ) (u : Url) (v : Json) : Request :=
  m.signed (withBody v (.plain .put u))

/-- How an object is replaced: it is read, and if there was JSON to read, it is written back with
the fields of the body laid over it. -/
inductive Replaces (m : Manager σ) (kind : Kind) (id : String) (u : Url) (body : Json) (s : σ) :
    Answer Unit → σ × List Request → Prop
  | unsendable (stays : ¬(m.reading u).Sendable) :
      Replaces m kind id u body s (.error (.communication (notFetchable u))) (s, [])
  | unread (e : BackendError) (sendable : (m.reading u).Sendable)
      (fails : answerOf kind id (m.reading u) (m.network.send (m.reading u) s).1 = .error e) :
      Replaces m kind id u body s (.error e)
        ((m.network.send (m.reading u) s).2, [m.reading u])
  | unclear (response : Response) (sendable : (m.reading u).Sendable)
      (answers : answerOf kind id (m.reading u) (m.network.send (m.reading u) s).1 =
        .ok response)
      (no_json : response.json? .whole = none) :
      Replaces m kind id u body s (.error (.invalidResponse notDecoded))
        ((m.network.send (m.reading u) s).2, [m.reading u])
  | written (response : Response) (current : Json) (sendable : (m.reading u).Sendable)
      (answers : answerOf kind id (m.reading u) (m.network.send (m.reading u) s).1 =
        .ok response)
      (json : response.json? .whole = some current) :
      Replaces m kind id u body s
        ((answerOf kind id (m.writing u (current.normalize.merge body))
          (m.network.send (m.writing u (current.normalize.merge body))
            (m.network.send (m.reading u) s).2).1).map fun _ => ())
        ((m.network.send (m.writing u (current.normalize.merge body))
          (m.network.send (m.reading u) s).2).2,
          [m.reading u, m.writing u (current.normalize.merge body)])

theorem replace_recorded (hurl : target text = .ok u) :
    m.Replaces kind id u body s (m.recorded.replace kind id text body (s, [])).1
      (m.recorded.replace kind id text body (s, [])).2 := by
  have hread : m.signed (unedited (.plain .get u)) = m.reading u := rfl
  rw [replace, call_recorded hurl, hread]
  by_cases hsendable : (m.reading u).Sendable
  · rw [if_pos hsendable]
    cases hanswer : answerOf kind id (m.reading u) (m.network.send (m.reading u) s).1 with
    | error e => exact .unread e hsendable hanswer
    | ok response =>
      dsimp only
      cases hjson : response.json? .whole with
      | none => exact .unclear response hsendable hanswer hjson
      | some current =>
        have hwrite : m.signed (withBody (current.normalize.merge body) (.plain .put u)) =
          m.writing u (current.normalize.merge body) := rfl
        have hsendable' : (m.writing u (current.normalize.merge body)).Sendable := hsendable
        dsimp only
        rw [call_recorded hurl, hwrite, if_pos hsendable']
        exact .written response current hsendable hanswer hjson
  · rw [if_neg hsendable]
    exact .unsendable hsendable

theorem patch_recorded (hkind : kind.api = .manager)
    (htext : m.objectUrl kind parents id = .ok text) (hurl : target text = .ok u) :
    m.Replaces kind id u body s (m.recorded.patch kind parents id body (s, [])).1
      (m.recorded.patch kind parents id body (s, [])).2 := by
  have htext' : m.recorded.objectUrl kind parents id = .ok text := htext
  rw [patch, htext']
  dsimp only
  rw [hkind]
  exact replace_recorded hurl

end Manager

open Http

/-- A patch of the manager API reads the object and, if that gave JSON, writes it back with the
fields of the body laid over it: a field that the body does not name stays, null takes one away,
and anything else takes its place; where one of the two is no object, what was read goes back as it
is.  To lay the same fields over the object again changes nothing.  A store holds after the patch
what the value that is written is read as; it refuses the patch, and stays as it is, exactly if that
is no object of the backend.  And where the texts hold no floats and do not nest too deep, they are
read as the values that they were written for. -/
theorem manager_patch_rewrites_object :
    (∀ {σ : Type} (m : Manager σ) (kind : Kind) (parents : List String) (id text : String)
        (u : Url), kind.api = .manager → m.objectUrl kind parents id = .ok text →
      target text = .ok u → ∀ body s,
        let run := m.recorded.patch kind parents id body (s, [])
        m.Replaces kind id u body s run.1 run.2) ∧
    (∀ c body : Json, c.Canonical → body.Canonical →
      (∀ members changes, c = .object members → body = .object changes → ∀ key,
        (c.merge body).get? key = Json.laidOver (body.get? key) (c.get? key)) ∧
      (c.object? = none ∨ body.object? = none → c.merge body = c) ∧
      (c.merge body).Canonical ∧ (c.merge body).merge body = c.merge body) ∧
    (∀ (p : Bool) (kind : Kind) (parents : List String) (id : String) (body : Json) (s : Store)
        (r : Resource), requireAccess p kind parents = .ok () →
      Assoc.find? (kind, id) s.patchFailures = none → s.find? { kind, parents, id } = some r →
      (∀ patched, Resource.ofJson? (r.toJson.merge body) = some patched → ∃ s',
        Store.patch p kind parents id body s = (.ok (), s') ∧
        s'.find? { kind, parents, id } = some patched ∧
        ∀ key, key ≠ { kind, parents, id } → s'.find? key = s.find? key) ∧
      (Resource.ofJson? (r.toJson.merge body) = none ↔ ∃ message,
        Store.patch p kind parents id body s = (.error (.invalidResponse message), s))) ∧
    ∀ (r : Resource) (body : Json), Json.CanonicalMembers r.extra → body.Canonical →
      Json.PlainMembers (Json.maxDepth - 1) r.extra → body.Plain Json.maxDepth →
      (∀ status, Response.json? .whole
        { status, body := some (Text.utf8Bytes r.toJson.render) } = some r.toJson) ∧
      r.toJson.normalize = r.toJson ∧
      Json.parse? (r.toJson.merge body).render = some (r.toJson.merge body) := by
  refine ⟨fun m kind parents id text u hkind htext hurl body s =>
    Manager.patch_recorded hkind htext hurl, ?_, ?_, ?_⟩
  · intro c body hc hbody
    refine ⟨?_, Json.merge_of_no_object, Json.canonical_merge hc hbody, Json.merge_merge hc hbody⟩
    rintro members changes rfl rfl key
    exact Json.get?_merge hbody key
  · intro p kind parents id body s r haccess hfailure hfind
    have hpatch := Store.patch_stored haccess hfailure hfind body
    constructor
    · intro patched hread
      rw [hread] at hpatch
      exact ⟨_, hpatch, Assoc.find?_insert_self _ _ _, fun key hkey =>
        Assoc.find?_insert_ne hkey _ _⟩
    · constructor
      · intro hnone
        rw [hnone] at hpatch
        exact ⟨_, hpatch⟩
      · rintro ⟨message, hrefused⟩
        cases hread : Resource.ofJson? (r.toJson.merge body) with
        | none => rfl
        | some patched =>
          rw [hread, hrefused] at hpatch
          cases hpatch
  · intro r body hextra hbody hplain hplain'
    have hcanonical := Resource.canonical_toJson hextra
    have hobject := Resource.plain_toJson hplain
    exact ⟨Response.json?_render hobject, Json.normalize_of_canonical _ hcanonical,
      Json.parse?_render (Json.plain_merge hobject hplain')
        (Json.canonical_merge hcanonical hbody)⟩

def Resource.attachedPort : Resource :=
  ((bare "lp").withField "_revision" (.int 3)).withField "attachment"
    (.object [("id", .string "x")])

def Json.detachment : Json := .object [("attachment", .null), ("display_name", .string "n")]

def Http.Script.attachedPort : Script :=
  { rules := [Manager.responding Resource.attachedPort.toJson.render,
      Manager.responding "\x7b\x7d"]
    default := .missing }

def Store.attachedPort : Store :=
  { Store.empty with objects := [({ kind := .logicalPort, parents := [], id := "lp" },
      Resource.attachedPort)] }

/-- The port is written back with its revision and the name, and without the attachment; and a
store holds the same port after the patch. -/
theorem port_is_detached :
    (∃ u, target "http://nsx/api/v1/logical-ports/lp" = .ok u ∧
      let run := Manager.patient.recorded.patch .logicalPort [] "lp" .detachment
        (.attachedPort, [])
      Manager.patient.Replaces .logicalPort "lp" u .detachment .attachedPort run.1 run.2) ∧
    (Manager.patient.recorded.patch .logicalPort [] "lp" .detachment
      (.attachedPort, [])).2.2.map (fun r => (r.method, r.body)) =
        [(.get, none), (.put, some
          "\x7b\"_revision\":3,\"display_name\":\"n\",\"id\":\"lp\",\"tags\":[]\x7d")] ∧
    (Resource.attachedPort.toJson.merge .detachment).merge .detachment =
      Resource.attachedPort.toJson.merge .detachment ∧
    (∃ patched s', Resource.ofJson? (Resource.attachedPort.toJson.merge .detachment) =
        some patched ∧
      Store.patch true .logicalPort [] "lp" .detachment .attachedPort = (.ok (), s') ∧
      s'.find? { kind := .logicalPort, parents := [], id := "lp" } = some patched) ∧
    Json.parse? (Resource.attachedPort.toJson.merge .detachment).render =
      some (Resource.attachedPort.toJson.merge .detachment) := by
  obtain ⟨hclient, hmerge, hstore, hwire⟩ := manager_patch_rewrites_object
  have hextra : Json.CanonicalMembers Resource.attachedPort.extra :=
    ⟨trivial, ⟨by decide, trivial, trivial⟩, trivial⟩
  have hbody : Json.detachment.Canonical := ⟨by decide, trivial, trivial, trivial⟩
  obtain ⟨u, hurl⟩ : ∃ u, target "http://nsx/api/v1/logical-ports/lp" = .ok u :=
    exists_url_of_isSome (by decide +kernel)
  refine ⟨⟨u, hurl, hclient Manager.patient .logicalPort [] "lp" _ u rfl (by decide +kernel) hurl
    .detachment .attachedPort⟩, by decide +kernel, ?_, ?_, ?_⟩
  · exact (hmerge _ _ (Resource.canonical_toJson hextra) hbody).2.2.2
  · cases hread : Resource.ofJson? (Resource.attachedPort.toJson.merge .detachment) with
    | none =>
      have hsome : (Resource.ofJson? (Resource.attachedPort.toJson.merge .detachment)).isSome =
          true := by decide +kernel
      rw [hread] at hsome
      cases hsome
    | some patched =>
      obtain ⟨s', hpatch, hfind, -⟩ := (hstore true .logicalPort [] "lp" .detachment .attachedPort
        .attachedPort rfl rfl (by decide +kernel)).1 patched hread
      exact ⟨patched, s', rfl, hpatch, hfind⟩
  · have hrevision : (Json.Number.int 3).Exact :=
      show -2 ^ 63 ≤ (3 : Int) ∧ (3 : Int) < 2 ^ 64 by decide
    have hplain : Json.PlainMembers (Json.maxDepth - 1) Resource.attachedPort.extra :=
      ⟨hrevision, ⟨trivial, trivial⟩, trivial⟩
    have hplain' : Json.detachment.Plain Json.maxDepth := ⟨trivial, trivial, trivial⟩
    exact (hwire .attachedPort .detachment hextra hbody hplain hplain').2.2

end NetSweep
