import Mathlib.Data.List.FinRange
import Mathlib.Data.List.Forall2
import NetSweep.Proofs.TagReplays

/-!
# What a replay accounts for

A replay tries each place of its list of tags once, whatever became of the places before.  What the
endpoint answers may depend on all the calls it has had, and the same tag may be in the list
several times, so the report is about places and not about tags.
-/

namespace NetSweep.Migration

variable {σ : Type} {kind : ObjectKind} {collection id : String} {tags : List String}

/-! ## Answers of an endpoint -/

namespace Tagger

def answer (e : Tagger σ) (s : σ) (earlier : List TagCall) (call : TagCall) :
    Except String Unit :=
  (e.addTag call.1 call.2.1 call.2.2 (e.after s earlier)).1

/-- What the endpoint answers at a place of a list of tags, when those before have been tried. -/
def answerAt (e : Tagger σ) (s : σ) (collection id : String) (tags : List String)
    (i : Fin tags.length) : Except String Unit :=
  e.answer s ((tags.take i).map (collection, id, ·)) (collection, id, tags.get i)

theorem length_trials (e : Tagger σ) (tags : List String) (s : σ) :
    (e.trials collection id tags s).length = tags.length := by
  induction tags generalizing s with
  | nil => rfl
  | cons tag tags ih => exact congrArg Nat.succ (ih _)

/-- At each place the endpoint answers after the calls of the places before. -/
theorem getElem_trials (e : Tagger σ) (s : σ) {i : Nat} (hi : i < tags.length)
    (hi' : i < (e.trials collection id tags s).length) :
    (e.trials collection id tags s)[i] =
      { tag := tags[i], answer := e.answerAt s collection id tags ⟨i, hi⟩ } := by
  induction tags generalizing s i with
  | nil => cases hi
  | cons tag tags ih =>
    cases i with
    | zero => rfl
    | succ i => exact ih _ (Nat.lt_of_succ_lt_succ hi) _

theorem trials_eq_map (e : Tagger σ) (s : σ) :
    e.trials collection id tags s = (List.finRange tags.length).map fun i =>
      { tag := tags.get i, answer := e.answerAt s collection id tags i } := by
  refine List.ext_getElem ?_ fun i hi _ => ?_
  · rw [e.length_trials, List.length_map, List.length_finRange]
  · rw [e.getElem_trials s (e.length_trials tags s ▸ hi), List.getElem_map, List.getElem_finRange]
    rfl

theorem trials_recorded (e : Tagger σ) (tags : List String) (s : σ) (kept : List TagCall) :
    e.recorded.trials collection id tags (s, kept) = e.trials collection id tags s := by
  induction tags generalizing s kept with
  | nil => rfl
  | cons tag tags ih => exact congrArg _ (ih _ _)

end Tagger

def MissedTag.warning (kind : ObjectKind) (id : String) (f : MissedTag) : Log.Record :=
  Log.warning "failed to replay tag"
    [("kind", kind.name), ("id", id), ("tag", f.tag), ("error", f.message)]

/-- The warnings of a replay are those of the failures it reports. -/
theorem warnings_of_trials (trials : List Trial) :
    Log.warnings (trials.map (Trial.record kind id)) =
      (TagReport.ofTrials trials).failures.map (MissedTag.warning kind id) := by
  induction trials with
  | nil => rfl
  | cons t trials ih =>
    simp only [TagReport.ofTrials, Log.warnings] at ih ⊢
    rw [List.map_cons, List.filter_cons, ih]
    rcases t with ⟨tag, message | _⟩
    · rfl
    · rfl

/-! ## Places -/

/-- Where each place of a list of tags has an answer, a report accounts for the places: they are
divided, in order, into those that were `taken` and those that were `missed`, by whether the answer
was an error, and the report has the tag of each place under the one or the other, with the text of
the error. -/
structure Accounts (tags : List String) (answer : Fin tags.length → Except String Unit)
    (taken missed : List (Fin tags.length)) (report : TagReport) : Prop where
  taken_ascends : taken.Pairwise (· < ·)
  missed_ascends : missed.Pairwise (· < ·)
  mem_taken_iff : ∀ i, i ∈ taken ↔ answer i = .ok ()
  mem_missed_iff : ∀ i, i ∈ missed ↔ i ∉ taken
  applied : report.applied = taken.map tags.get
  failures : List.Forall₂ (fun i f => f.tag = tags.get i ∧ answer i = .error f.message)
    missed report.failures

theorem isOk_iff {answer : Except String Unit} : answer.isOk = true ↔ answer = .ok () := by
  rcases answer with message | _
  · simp [Except.isOk, Except.toBool]
  · simp [Except.isOk, Except.toBool]

theorem forall₂_missed (answer : Fin tags.length → Except String Unit)
    (places : List (Fin tags.length)) :
    List.Forall₂ (fun i f => f.tag = tags.get i ∧ answer i = .error f.message)
      (places.filter fun i => !(answer i).isOk)
      (places.filterMap fun i => Trial.missed? { tag := tags.get i, answer := answer i }) := by
  induction places with
  | nil => exact .nil
  | cons i places ih =>
    rw [List.filter_cons, List.filterMap_cons]
    cases hanswer : answer i with
    | ok _ => exact ih
    | error message => exact .cons ⟨rfl, hanswer⟩ ih

theorem accounts_ofTrials (answer : Fin tags.length → Except String Unit) :
    Accounts tags answer ((List.finRange tags.length).filter fun i => (answer i).isOk)
      ((List.finRange tags.length).filter fun i => !(answer i).isOk)
      (.ofTrials ((List.finRange tags.length).map fun i =>
        { tag := tags.get i, answer := answer i })) where
  taken_ascends := (List.pairwise_lt_finRange _).filter _
  missed_ascends := (List.pairwise_lt_finRange _).filter _
  mem_taken_iff i := by
    rw [List.mem_filter, and_iff_right (List.mem_finRange i), isOk_iff]
  mem_missed_iff i := by
    rw [List.mem_filter, List.mem_filter, and_iff_right (List.mem_finRange i),
      and_iff_right (List.mem_finRange i), Bool.not_eq_true', Bool.not_eq_true]
  applied := by
    rw [TagReport.ofTrials, List.filter_map, List.map_map]
    rfl
  failures := by
    rw [TagReport.ofTrials, List.filterMap_map]
    exact forall₂_missed answer _

/-- A replay accounts for the places of its list. -/
theorem exists_accounts (e : Tagger σ) (s : σ) : ∃ taken missed,
    Accounts tags (e.answerAt s collection id tags) taken missed
      (.ofTrials (e.trials collection id tags s)) := by
  rw [e.trials_eq_map]
  exact ⟨_, _, accounts_ofTrials _⟩

/-! ## Tags of an object -/

/-- The strings among values, as values again, are those of the values that are strings. -/
theorem map_string_filterMap (items : List Json) :
    (items.filterMap Json.string?).map Json.string = items.filter (·.string?.isSome) := by
  induction items with
  | nil => rfl
  | cons v items ih =>
    rw [List.filterMap_cons, List.filter_cons]
    cases v with
    | string text => exact congrArg _ ih
    | null | bool | number | array | object => exact ih

theorem stringTags_of_array {raw : Json} {items : List Json}
    (h : raw.get? "tags" = some (.array items)) :
    (stringTags raw).map Json.string = items.filter (·.string?.isSome) := by
  rw [stringTags, h]
  exact map_string_filterMap items

theorem stringTags_of_no_array {raw : Json} (h : ∀ items, raw.get? "tags" ≠ some (.array items)) :
    stringTags raw = [] := by
  unfold stringTags
  split
  · rename_i items hitems
    exact absurd hitems (h items)
  · rfl

/-- Where objects of a kind take no tags, a replay is refused: the endpoint is left as it is, and
no call is added to those it had.  Where they do, a replay ends with a report, after one call for
each place of the list, in order and for the same object; the report accounts for the places by
what the endpoint answers, each after just the calls of the places before, and each failure in it
has one warning, in order.  The tags of an object are the strings in the array of that name, in
order and as often as they stand there, and there are none if there is no such array. -/
theorem every_place_accounted (kind : ObjectKind) (id : String) (tags : List String) :
    (kind.tagCollection = none → ∀ {σ : Type} (e : Tagger σ) (s : σ) (calls : List TagCall),
      replayTags e kind id tags s = (.error (.unsupported kind), [], s) ∧
        replayTags e.recorded kind id tags (s, calls) =
          (.error (.unsupported kind), [], (s, calls))) ∧
    (∀ collection, kind.tagCollection = some collection → ∀ {σ : Type} (e : Tagger σ) (s : σ)
        (calls : List TagCall),
      ∃ report log x taken missed, replayTags e kind id tags s = (.ok report, log, x) ∧
        replayTags e.recorded kind id tags (s, calls) =
          (.ok report, log, (x, calls ++ tags.map (collection, id, ·))) ∧
        Accounts tags (e.answerAt s collection id tags) taken missed report ∧
        Log.warnings log = report.failures.map (MissedTag.warning kind id)) ∧
    ∀ raw : Json,
      (∀ items, raw.get? "tags" = some (.array items) →
        (stringTags raw).map Json.string = items.filter (·.string?.isSome)) ∧
      ((∀ items, raw.get? "tags" ≠ some (.array items)) → stringTags raw = []) := by
  refine ⟨fun hkind σ e s calls => ?_, fun collection hkind σ e s calls => ?_,
    fun raw => ⟨fun _ => stringTags_of_array, stringTags_of_no_array⟩⟩
  · exact ⟨replayTags_refused e hkind id tags s, replayTags_refused e.recorded hkind id tags _⟩
  · obtain ⟨taken, missed, haccounts⟩ := exists_accounts e s
    refine ⟨_, _, _, taken, missed, replayTags_eq e hkind id tags s, ?_, haccounts,
      warnings_of_trials _⟩
    rw [replayTags_eq e.recorded hkind, e.after_recorded, e.trials_recorded]

def Tagger.fitful : Tagger Nat where
  addTag _ _ _ calls := (if calls % 2 = 0 then .ok () else .error "busy", calls + 1)

def redNetwork : Json :=
  .object [("id", .string "n1"),
    ("tags", .array [.string "red", .null, .string "red", .string "blue"])]

/-- Of the same tag at two places the one is taken and the other missed. -/
theorem red_taken_and_missed :
    ObjectKind.quota.tagCollection = none ∧
    replayTags Tagger.fitful.recorded .quota "n1" ["red"] (0, []) =
      (.error (.unsupported .quota), [], (0, [])) ∧
    ObjectKind.network.tagCollection = some "networks" ∧
    redNetwork.get? "tags" = some (.array [.string "red", .null, .string "red", .string "blue"]) ∧
    stringTags redNetwork = ["red", "red", "blue"] ∧
    ∃ report log x taken missed,
      replayTags Tagger.fitful .network "n1" (stringTags redNetwork) 0 = (.ok report, log, x) ∧
      Accounts (stringTags redNetwork)
        (Tagger.fitful.answerAt 0 "networks" "n1" (stringTags redNetwork)) taken missed report ∧
      report =
        { applied := ["red", "blue"], failures := [{ tag := "red", message := "busy" }] } := by
  obtain ⟨hrefused, -, -⟩ := every_place_accounted .quota "n1" ["red"]
  obtain ⟨-, haccounted, hstrings⟩ :=
    every_place_accounted .network "n1" (stringTags redNetwork)
  obtain ⟨report, log, x, taken, missed, hrun, -, haccounts, -⟩ :=
    haccounted "networks" rfl Tagger.fitful 0 []
  have htags := (hstrings redNetwork).1 [.string "red", .null, .string "red", .string "blue"] rfl
  refine ⟨rfl, (hrefused rfl Tagger.fitful 0 []).2, rfl, rfl, ?_, report, log, x, taken, missed,
    hrun, haccounts, ?_⟩
  · exact List.map_injective_iff.2 (fun _ _ => Json.string.inj) htags
  · obtain rfl := Except.ok.inj (Prod.mk.inj hrun).1
    decide

end NetSweep.Migration
