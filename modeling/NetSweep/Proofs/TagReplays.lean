import Mathlib.Data.List.Count
import NetSweep.Migration.Tags
import NetSweep.Proofs.PreparedFields

/-!
# How tags reach the destination

A replay sends an object's tags one by one and in order, whatever the endpoint answers.  A prepared
object brings none along if its kind drops them.  One kind that takes tags does not: the tags of a
QoS policy stand in the body that it is created with, and are replayed as well.
-/

namespace NetSweep.Migration

variable {σ : Type} {kind : ObjectKind} {options : Options} {object out : Members}
  {parent : Option Json} {log : List Log.Record} {collection : String}

/-! ## Calls of a replay -/

abbrev TagCall := String × String × String

def Tagger.recorded (e : Tagger σ) : Tagger (σ × List TagCall) where
  addTag collection id tag s :=
    let (result, endpoint) := e.addTag collection id tag s.1
    (result, (endpoint, s.2 ++ [(collection, id, tag)]))

namespace Tagger

def after (e : Tagger σ) (s : σ) (calls : List TagCall) : σ :=
  calls.foldl (fun s call => (e.addTag call.1 call.2.1 call.2.2 s).2) s

/-- Keeping the calls does not change the endpoint. -/
theorem after_recorded (e : Tagger σ) (s : σ) (kept calls : List TagCall) :
    e.recorded.after (s, kept) calls = (e.after s calls, kept ++ calls) := by
  induction calls generalizing s kept with
  | nil => rw [List.append_nil]; rfl
  | cons call calls ih =>
    rw [List.append_cons]
    exact ih _ _

end Tagger

/-! ## Trials -/

structure Trial where
  tag : String
  answer : Except String Unit

namespace Trial

/-- The failure that is reported, unless the tag was taken. -/
def missed? (t : Trial) : Option MissedTag :=
  match t.answer with
  | .ok () => none
  | .error message => some { tag := t.tag, message }

def record (kind : ObjectKind) (id : String) (t : Trial) : Log.Record :=
  let about := [("kind", kind.name), ("id", id), ("tag", t.tag)]
  match t.answer with
  | .ok () => Log.debug "replayed tag" about
  | .error message => Log.warning "failed to replay tag" (about ++ [("error", message)])

end Trial

def Tagger.trials (e : Tagger σ) (collection id : String) : List String → σ → List Trial
  | [], _ => []
  | tag :: tags, s =>
    let (answer, next) := e.addTag collection id tag s
    { tag, answer } :: e.trials collection id tags next

/-! ## The run of a replay -/

def TagReport.ofTrials (trials : List Trial) : TagReport where
  applied := (trials.filter (·.answer.isOk)).map Trial.tag
  failures := trials.filterMap Trial.missed?

def Replay.ofTrials (kind : ObjectKind) (id : String) (endpoint : σ) (trials : List Trial) :
    Replay σ where
  endpoint := endpoint
  report := .ofTrials trials
  log := trials.map (Trial.record kind id)

theorem replayTag_ofTrials (e : Tagger σ) (id : String) (s : σ) (trials : List Trial)
    (tag : String) :
    replayTag e kind collection id (.ofTrials kind id s trials) tag =
      .ofTrials kind id (e.addTag collection id tag s).2
        (trials ++ [{ tag, answer := (e.addTag collection id tag s).1 }]) := by
  rcases hadd : e.addTag collection id tag s with ⟨message | _, next⟩
  all_goals
    simp [replayTag, Replay.ofTrials, TagReport.ofTrials, hadd, Trial.missed?, Trial.record,
      Except.isOk, Except.toBool]

theorem foldl_replayTag_ofTrials (e : Tagger σ) (id : String) (tags : List String) (s : σ)
    (trials : List Trial) :
    tags.foldl (replayTag e kind collection id) (.ofTrials kind id s trials) =
      .ofTrials kind id (e.after s (tags.map (collection, id, ·)))
        (trials ++ e.trials collection id tags s) := by
  induction tags generalizing s trials with
  | nil => rw [Tagger.trials, List.append_nil]; rfl
  | cons tag tags ih =>
    rw [List.foldl_cons, replayTag_ofTrials, ih, List.append_assoc]
    rfl

/-- A replay is the trials of its tags in turn. -/
theorem replayTags_eq (e : Tagger σ) (hkind : kind.tagCollection = some collection) (id : String)
    (tags : List String) (s : σ) :
    replayTags e kind id tags s =
      (.ok (TagReport.ofTrials (e.trials collection id tags s)),
        (e.trials collection id tags s).map (Trial.record kind id),
        e.after s (tags.map (collection, id, ·))) := by
  have hrun : tags.foldl (replayTag e kind collection id) (.ofTrials kind id s []) = _ :=
    foldl_replayTag_ofTrials e id tags s []
  rw [replayTags, hkind]
  exact congrArg (fun r : Replay σ => (Except.ok r.report, r.log, r.endpoint)) hrun

theorem replayTags_refused (e : Tagger σ) (hkind : kind.tagCollection = none) (id : String)
    (tags : List String) (s : σ) :
    replayTags e kind id tags s = (.error (.unsupported kind), [], s) := by
  rw [replayTags, hkind]

/-- One call for each tag, in order. -/
theorem replayTags_calls (e : Tagger σ) (hkind : kind.tagCollection = some collection) (id : String)
    (tags : List String) (s : σ) :
    ∃ report log x, replayTags e.recorded kind id tags (s, []) = (.ok report, log, x) ∧
      x.2 = tags.map fun tag => (collection, id, tag) := by
  refine ⟨_, _, _, replayTags_eq e.recorded hkind id tags (s, []), ?_⟩
  rw [e.after_recorded, List.nil_append]

/-! ## Tags in the body -/

/-- Of the kinds that take tags, QoS policies alone do not drop them. -/
theorem tags_mem_dropFields_iff (hkind : kind.tagCollection = some collection) :
    "tags" ∈ kind.dropFields ↔ kind ≠ .qosPolicy := by
  have htaggable : kind.tagCollection.isSome = true := Option.isSome_of_eq_some hkind
  clear hkind
  revert htaggable
  cases kind <;> decide

theorem tags_not_mem_rewrittenFields (kind : ObjectKind) : "tags" ∉ kind.rewrittenFields := by
  cases kind <;> decide

theorem find?_tags_prepared (hkind : kind.tagCollection = some collection)
    (h : prepare options kind (.object object) parent = .ok (out, log)) :
    Assoc.find? "tags" out =
      if kind = .qosPolicy then Assoc.find? "tags" object else none := by
  have hdrop := tags_mem_dropFields_iff hkind
  by_cases hpolicy : kind = .qosPolicy
  · rw [if_pos hpolicy, prepare_passes h (fun hmem => hdrop.1 hmem hpolicy)
      (tags_not_mem_rewrittenFields kind), if_neg fun hkey => absurd hkey.1 (by decide)]
  · rw [if_neg hpolicy, prepare_drops h (hdrop.2 hpolicy)]

theorem stringTags_of_find? {m n : Members} (h : Assoc.find? "tags" m = Assoc.find? "tags" n) :
    stringTags (.object m) = stringTags (.object n) := by
  rw [stringTags, Json.get?_object, h, stringTags, Json.get?_object]

theorem stringTags_prepared (hkind : kind.tagCollection = some collection)
    (h : prepare options kind (.object object) parent = .ok (out, log)) :
    stringTags (.object out) = if kind = .qosPolicy then stringTags (.object object) else [] := by
  have htags := find?_tags_prepared hkind h
  split
  · rename_i hpolicy
    rw [if_pos hpolicy] at htags
    exact stringTags_of_find? htags
  · rename_i hother
    rw [if_neg hother] at htags
    rw [stringTags, Json.get?_object, htags]

/-- The body that an object is created with has no tags, exactly unless it is a QoS policy and the
source's has some, which are then in the body as they were; and body and replay together send each
tag as often as the source has it, but twice as often for a QoS policy. -/
theorem tags_sent_once_iff (hkind : kind.tagCollection = some collection)
    (h : prepare options kind (.object object) parent = .ok (out, log)) :
    ("tags" ∉ Assoc.keys out ↔ kind ≠ .qosPolicy ∨ "tags" ∉ Assoc.keys object) ∧
    (kind = .qosPolicy → Assoc.find? "tags" out = Assoc.find? "tags" object) ∧
    ∀ {σ : Type} (e : Tagger σ) (s : σ) (id : String),
      ∃ report log x, replayTags e.recorded kind id (stringTags (.object object)) (s, []) =
          (.ok report, log, x) ∧
        x.2 = (stringTags (.object object)).map (fun tag => (collection, id, tag)) ∧
        ∀ tag, (stringTags (.object out)).count tag + x.2.count (collection, id, tag) =
          (if kind = .qosPolicy then 2 else 1) * (stringTags (.object object)).count tag := by
  have htags := find?_tags_prepared hkind h
  refine ⟨?_, fun hpolicy => by rw [htags, if_pos hpolicy], fun e s id => ?_⟩
  · rw [← Assoc.find?_eq_none_iff, ← Assoc.find?_eq_none_iff, htags]
    by_cases hpolicy : kind = .qosPolicy <;> simp [hpolicy]
  · obtain ⟨report, log, x, hrun, hcalls⟩ :=
      replayTags_calls e hkind id (stringTags (.object object)) s
    refine ⟨report, log, x, hrun, hcalls, fun tag => ?_⟩
    have hcount : x.2.count (collection, id, tag) =
        (stringTags (.object object)).count tag := by
      rw [hcalls]
      exact List.count_map_of_injective _ (fun tag => (collection, id, tag))
        (fun _ _ heq => (Prod.mk.inj (Prod.mk.inj heq).2).2) tag
    rw [hcount, stringTags_prepared hkind h]
    by_cases hpolicy : kind = .qosPolicy
    · rw [if_pos hpolicy, if_pos hpolicy, Nat.two_mul]
    · rw [if_neg hpolicy, if_neg hpolicy, List.count_nil, Nat.zero_add, Nat.one_mul]

def goldPolicy : Members :=
  [("id", .string "q1"), ("name", .string "gold"), ("tags", .array [.string "metal"])]

def Tagger.willing : Tagger Unit where
  addTag _ _ _ s := (.ok (), s)

/-- The policy's tag stands in the body that the policy is created with, and is replayed. -/
theorem policy_tag_sent_twice :
    ObjectKind.qosPolicy.tagCollection = some "qos/policies" ∧
    ∃ out log, prepare .default .qosPolicy (.object goldPolicy) none = .ok (out, log) ∧
      Assoc.find? "tags" out = some (.array [.string "metal"]) ∧
      ∃ report log x, replayTags Tagger.willing.recorded .qosPolicy "q1"
          (stringTags (.object goldPolicy)) ((), []) = (.ok report, log, x) ∧
        x.2 = [("qos/policies", "q1", "metal")] ∧
        (stringTags (.object out)).count "metal" +
          x.2.count ("qos/policies", "q1", "metal") = 2 := by
  have hprepare : prepare .default .qosPolicy (.object goldPolicy) none = .ok (goldPolicy, []) :=
    rfl
  have hcollection : ObjectKind.qosPolicy.tagCollection = some "qos/policies" := rfl
  obtain ⟨-, hbody, hsent⟩ := tags_sent_once_iff hcollection hprepare
  obtain ⟨report, log, x, hrun, hcalls, hcount⟩ := hsent Tagger.willing () "q1"
  exact ⟨hcollection, goldPolicy, [], hprepare, hbody rfl, report, log, x, hrun, hcalls,
    hcount "metal"⟩

end NetSweep.Migration
