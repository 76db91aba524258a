import Mathlib.Data.List.Flatten
import NetSweep.Proofs.Replays
import NetSweep.Proofs.ReportAccounts

/-!
# Carrying changes out

A procedure lists again what an earlier step may have changed, and a refused change may end it.
Against a store, what it does is nevertheless some of the changes that are read off its first
state, in their order, and all of them if it ends well: what a later list no longer gives is gone,
and a change of what is gone changes nothing and is no failure.
-/

namespace NetSweep

namespace Store

variable {p : Bool} {kind : Kind} {parents : List String} {tags : List TagPredicate}
  {s : Store} {o : Address × Resource}

/-- Whether a list of a kind inside its parents gives a stored object, where lists fail as
arranged. -/
def inList (failures : List (Kind × BackendError)) (kind : Kind) (parents : List String)
    (o : Address × Resource) : Bool :=
  (Assoc.find? kind failures).isNone && (o.1.kind = kind && o.1.parents = parents)

/-- Whether a search of a kind gives a stored object, where searches fail as arranged. -/
def inSearch (failures : List (Kind × BackendError)) (kind : Kind) (tags : List TagPredicate)
    (o : Address × Resource) : Bool :=
  (Assoc.find? kind failures).isNone && (o.1.kind = kind && o.2.hasAllTags tags)

theorem list_items (haccess : requireAccess p kind parents = .ok ()) :
    (s.list p kind parents).items =
      (s.objects.filter (inList s.listFailures kind parents)).map Prod.snd := by
  unfold list inList
  cases hf : Assoc.find? kind s.listFailures <;> simp [haccess, Answer.items]

theorem search_items (haccess : requireApi p kind = .ok ()) :
    (s.search p kind tags).items =
      (s.objects.filter (inSearch s.listFailures kind tags)).map Prod.snd := by
  unfold search inSearch
  cases hf : Assoc.find? kind s.listFailures <;> simp [haccess, Answer.items]

theorem list_ok (haccess : requireAccess p kind parents = .ok ()) (hf : s.listFailures = []) :
    s.list p kind parents = .ok
      ((s.objects.filter (fun o => o.1.kind = kind ∧ o.1.parents = parents)).map Prod.snd) := by
  simp [list, haccess, hf]

theorem search_unfailing (haccess : requireApi p kind = .ok ())
    (hf : Assoc.find? kind s.listFailures = none) :
    s.search p kind tags = .ok
      ((s.objects.filter (fun o => o.1.kind = kind ∧ o.2.hasAllTags tags)).map Prod.snd) := by
  rw [search, haccess, hf]

theorem search_ok (haccess : requireApi p kind = .ok ()) (hf : s.listFailures = []) :
    s.search p kind tags = .ok
      ((s.objects.filter (fun o => o.1.kind = kind ∧ o.2.hasAllTags tags)).map Prod.snd) :=
  search_unfailing haccess (by rw [hf]; rfl)

/-- A listed object lies where it was looked for, under its own id. -/
theorem WellFormed.address_of_inList (hs : s.WellFormed) {failures : List (Kind × BackendError)}
    (ho : o ∈ s.objects) (h : inList failures kind parents o = true) :
    o.1 = { kind, parents, id := o.2.id } := by
  have hid := (hs.fits (hs.mem_iff.1 ho)).id
  simp only [inList, Bool.and_eq_true, decide_eq_true_eq] at h
  obtain ⟨-, hkind, hparents⟩ := h
  cases hk : o.1
  simp_all

theorem kind_of_inList {failures : List (Kind × BackendError)}
    (h : inList failures kind parents o = true) : o.1.kind = kind := by
  simp only [inList, Bool.and_eq_true, decide_eq_true_eq] at h
  exact h.2.1

theorem kind_of_inSearch {failures : List (Kind × BackendError)}
    (h : inSearch failures kind tags o = true) : o.1.kind = kind := by
  simp only [inSearch, Bool.and_eq_true, decide_eq_true_eq] at h
  exact h.2.1

/-- A found object of a kind outside of all containers lies under its own id. -/
theorem WellFormed.address_of_inSearch (hs : s.WellFormed)
    {failures : List (Kind × BackendError)} (ho : o ∈ s.objects)
    (h : inSearch failures kind tags o = true) (hcount : kind.parentCount = 0) :
    o.1 = { kind, parents := [], id := o.2.id } := by
  have hfits := hs.fits (hs.mem_iff.1 ho)
  have hkind := kind_of_inSearch h
  have hdepth := hfits.depth
  rw [hkind, hcount] at hdepth
  have hid := hfits.id
  cases hk : o.1
  simp_all

end Store

namespace Cleanup

open Change Store

/-! ## Finding -/

/-- A run has only read: store and report are as they were, and no change was asked for. -/
structure Read (r r' : Run Store) : Prop where
  backend : r'.backend = r.backend
  report : r'.report = r.report
  asked : ∃ events, r'.journal = r.journal ++ events ∧ events.filterMap Event.change? = []

/-- The task gives the stored objects that are picked, or fails, which it does not where lists do
not.  It only reads. -/
def Finds (failures : List (Kind × BackendError)) (t : Task Store (List Resource))
    (pick : Address × Resource → Bool) : Prop :=
  ∀ r : Run Store, r.backend.listFailures = failures →
    (∃ r', t r = (.ok ((r.backend.objects.filter pick).map Prod.snd), r') ∧ Read r r') ∨
    failures ≠ [] ∧ ∃ e r', t r = (.error e, r') ∧ r'.backend = r.backend

namespace Setting

/-- The setting changes stores, and it is no rehearsal. -/
structure OnStore (s : Setting Store) (p : Bool) : Prop where
  backend : s.backend = Store.backend p
  wet : s.config.dryRun = false

variable {s : Setting Store} {p : Bool} {kind : Kind} {parents : List String}
  {tags : List TagPredicate} {rules : List Narrowing} {b : Store}
  {failures : List (Kind × BackendError)}

theorem OnStore.allowsPassthrough (hs : s.OnStore p) : s.backend.allowsPassthrough = p :=
  congrArg Backend.allowsPassthrough hs.backend

theorem OnStore.seen_eq (hs : s.OnStore p) (haccess : requireAccess p kind parents = .ok ()) :
    s.seen kind parents b =
      (b.objects.filter (inList b.listFailures kind parents)).map Prod.snd := by
  rw [seen, hs.backend]
  exact list_items haccess

theorem OnStore.sought_eq (hs : s.OnStore p) (haccess : requireApi p kind = .ok ()) :
    s.sought kind tags b =
      (b.objects.filter (inSearch b.listFailures kind tags)).map Prod.snd := by
  rw [sought, hs.backend]
  exact search_items haccess

def owns (s : Setting Store) (rules : List Narrowing) (r : Resource) : Bool :=
  r.hasTag s.config.marker && withinAuthority s.authority rules r

theorem seenOwned_filter {pick : Address × Resource → Bool} {objects : List (Address × Resource)} :
    ownedAmong s.config.marker s.authority rules ((objects.filter pick).map Prod.snd) =
      (objects.filter fun o => pick o && s.owns rules o.2).map Prod.snd := by
  rw [ownedAmong, List.filter_map, List.filter_filter]
  congr 1
  exact List.filter_congr fun o _ => Bool.and_comm _ _

theorem OnStore.seenOwned_eq (hs : s.OnStore p) (haccess : requireAccess p kind parents = .ok ()) :
    s.seenOwned kind parents rules b = (b.objects.filter fun o =>
      inList b.listFailures kind parents o && s.owns rules o.2).map Prod.snd := by
  rw [seenOwned, hs.seen_eq haccess, seenOwned_filter]

theorem OnStore.askList_apply (hs : s.OnStore p) (r : Run Store) :
    s.askList kind parents r = (.ok (r.backend.list p kind parents),
      { r with
        journal := r.journal ++ [.listed kind parents (r.backend.list p kind parents)] }) := by
  rw [askList, hs.backend]
  rfl

theorem OnStore.askSearch_apply (hs : s.OnStore p) (r : Run Store) :
    s.askSearch kind tags r = (.ok (r.backend.search p kind tags),
      { r with
        journal := r.journal ++ [.searched kind tags (r.backend.search p kind tags)] }) := by
  rw [askSearch, hs.backend]
  rfl

theorem OnStore.finds_list (hs : s.OnStore p) (haccess : requireAccess p kind parents = .ok ()) :
    Finds failures (s.list kind parents) (inList failures kind parents) := by
  intro r hf
  subst hf
  rw [list, Task.bind_apply, hs.askList_apply, ← list_items haccess]
  cases hlist : r.backend.list p kind parents with
  | ok found => exact .inl ⟨_, rfl, rfl, rfl, [_], rfl, rfl⟩
  | error e =>
    refine .inr ⟨fun hnone => ?_, _, _, rfl, rfl⟩
    simp [list_ok haccess hnone] at hlist

theorem OnStore.finds_listOrNone (hs : s.OnStore p)
    (haccess : requireAccess p kind parents = .ok ()) :
    Finds failures (s.listOrNone kind parents) (inList failures kind parents) := by
  intro r hf
  subst hf
  rw [listOrNone, Task.bind_apply, hs.askList_apply, ← list_items haccess]
  cases hlist : r.backend.list p kind parents with
  | ok found => exact .inl ⟨_, rfl, rfl, rfl, [_], rfl, rfl⟩
  | error e =>
    dsimp only
    split
    · exact .inl ⟨_, rfl, rfl, rfl, [_], rfl, rfl⟩
    · refine .inr ⟨fun hnone => ?_, _, _, rfl, rfl⟩
      simp [list_ok haccess hnone] at hlist

theorem finds_selectOwned {t : Task Store (List Resource)} {pick : Address × Resource → Bool}
    (h : Finds failures t pick) (kind : Kind) (rules : List Narrowing) :
    Finds failures (t >>= fun resources => s.selectOwned kind rules resources)
      fun o => pick o && s.owns rules o.2 := by
  intro r hf
  rw [Task.bind_apply]
  rcases h r hf with ⟨r', ht, hr'⟩ | ⟨hne, e, r', ht, hr'⟩
  · rw [ht, ← seenOwned_filter]
    exact .inl ⟨_, rfl, hr'.backend, hr'.report, hr'.asked⟩
  · exact .inr ⟨hne, e, r', by rw [ht], hr'⟩

theorem OnStore.finds_findOwned (hs : s.OnStore p)
    (haccess : requireAccess p kind parents = .ok ()) :
    Finds failures (s.findOwned kind parents rules)
      fun o => inList failures kind parents o && s.owns rules o.2 :=
  finds_selectOwned (hs.finds_list haccess) kind rules

theorem OnStore.finds_findOwnedOrNone (hs : s.OnStore p)
    (haccess : requireAccess p kind parents = .ok ()) :
    Finds failures (s.findOwnedOrNone kind parents rules)
      fun o => inList failures kind parents o && s.owns rules o.2 :=
  finds_selectOwned (hs.finds_listOrNone haccess) kind rules

theorem OnStore.finds_searchAll (hs : s.OnStore p) (haccess : requireApi p kind = .ok ()) :
    Finds failures (s.searchAll kind tags) (inSearch failures kind tags) := by
  intro r hf
  subst hf
  rw [searchAll, Task.bind_apply, hs.askSearch_apply, ← search_items haccess]
  cases hsearch : r.backend.search p kind tags with
  | ok found => exact .inl ⟨_, rfl, rfl, rfl, [_], rfl, rfl⟩
  | error e =>
    refine .inr ⟨fun hnone => ?_, _, _, rfl, rfl⟩
    simp [search_ok haccess hnone] at hsearch

theorem OnStore.finds_findDhcpPorts (hs : s.OnStore p)
    (haccess : requireApi p .logicalPort = .ok ()) (segment : Resource) :
    Finds failures (s.findDhcpPorts segment)
      (inSearch failures .logicalPort [s.config.marker, .exact networkScope segment.id]) := by
  intro r hf
  subst hf
  rw [findDhcpPorts, Task.bind_apply, hs.askSearch_apply, ← search_items haccess]
  cases hsearch : r.backend.search p .logicalPort _ with
  | ok found => exact .inl ⟨_, rfl, rfl, rfl, [_], rfl, rfl⟩
  | error e =>
    have hne : r.backend.listFailures ≠ [] := fun hnone => by
      simp [search_ok haccess hnone] at hsearch
    cases e
    case notFound => exact .inl ⟨_, rfl, rfl, rfl, [_], rfl, rfl⟩
    case passthroughDisabled => exact .inl ⟨_, rfl, rfl, rfl, [_], rfl, rfl⟩
    all_goals exact .inr ⟨hne, _, _, rfl, rfl⟩

end Setting

/-! ## Changing -/

/-- The failure that a change has reported that a store refuses; only the deletes of what a
category answers for are reported. -/
def Change.mishap? (p : Bool) (s : Store) : Change → Option FailedDelete
  | .delete .owned k =>
    Attempt.failure? { target := k, answer := (Store.delete p k.kind k.parents k.id s).1 }
  | _ => none

def mishaps (p : Bool) : List Change → Store → List FailedDelete
  | [], _ => []
  | c :: cs, s => (c.mishap? p s).toList ++ mishaps p cs (c.apply p s)

theorem Change.mishap?_eq_some {s : Store} {c : Change} {f : FailedDelete} {p : Bool}
    (h : c.mishap? p s = some f) : ∃ k, c = .delete .owned k ∧ f.Names k := by
  rcases c with ⟨_ | _ | _, k⟩ | _
  · exact ⟨k, rfl, Attempt.names_of_failure? h⟩
  all_goals cases h

theorem mem_mishaps {p : Bool} {cs : List Change} {s : Store} {f : FailedDelete}
    (h : f ∈ mishaps p cs s) : ∃ k, .delete .owned k ∈ cs ∧ f.Names k := by
  induction cs generalizing s with
  | nil => cases h
  | cons c cs ih =>
    rcases List.mem_append.1 h with h | h
    · obtain ⟨k, rfl, hnames⟩ := Change.mishap?_eq_some (Option.mem_toList.1 h)
      exact ⟨k, List.mem_cons_self, hnames⟩
    · obtain ⟨k, hmem, hnames⟩ := ih h
      exact ⟨k, List.mem_cons_of_mem _ hmem, hnames⟩

theorem mishaps_append (p : Bool) (cs cs' : List Change) (s : Store) :
    mishaps p (cs ++ cs') s = mishaps p cs s ++ mishaps p cs' (applyAll p cs s) := by
  induction cs generalizing s with
  | nil => rfl
  | cons c cs ih => rw [List.cons_append, mishaps, mishaps, ih, List.append_assoc, applyAll_cons]

/-- A run has gone through the changes: the store has been changed and the failures were reported.
It has asked for no others, and has left out only changes of what is gone. -/
structure Carried (p : Bool) (cs : List Change) (r r' : Run Store) : Prop where
  backend : r'.backend = applyAll p cs r.backend
  failures : r'.report.failures = r.report.failures ++ mishaps p cs r.backend
  asked : ∃ events, r'.journal = r.journal ++ events ∧
    (events.filterMap Event.change?).Sublist cs ∧
    ∀ c ∈ cs, r'.backend.find? c.target ≠ none → c ∈ events.filterMap Event.change?

/-- What the task does to a store is the changes, in their order, or only some of them if it ends
with an error.  Where lists do not fail, it does so only after a failure, and if it is to propagate
failures. -/
def Does (s : Setting Store) (p : Bool) (b : Store) (t : Task Store Unit)
    (cs : List Change) : Prop :=
  ∀ r : Run Store, r.backend = b →
    (∃ r', t r = (.ok (), r') ∧ Carried p cs r r') ∨
    (b.listFailures = [] → s.policy = .propagate ∧ mishaps p cs b ≠ []) ∧
      ∃ e r' done, t r = (.error e, r') ∧ done.Sublist cs ∧ r'.backend = applyAll p done b

/-- The task does the changes to whatever is left of a store, and they are mild and within reach. -/
structure CarriesOut (s : Setting Store) (p : Bool) (altered : List Kind) (base : Store)
    (t : Task Store Unit) (cs : List Change) : Prop where
  mild : ∀ c ∈ cs, c.Mild altered s.config.domain
  reached : ∀ c ∈ cs, requireAccess p c.target.kind c.target.parents = .ok ()
  does : ∀ {b}, Remains altered s.config.domain base b → Does s p b t cs

variable {s : Setting Store} {p : Bool} {b base : Store} {t u : Task Store Unit}
  {c : Change} {cs cs' : List Change} {altered : List Kind} {kind : Kind} {parents : List String}
  {id : String}

namespace Carried

variable {r r' r'' : Run Store}

theorem refl (hbackend : r'.backend = r.backend)
    (hfailures : r'.report.failures = r.report.failures)
    (hasked : ∃ events, r'.journal = r.journal ++ events ∧ events.filterMap Event.change? = []) :
    Carried p [] r r' := by
  obtain ⟨events, hjournal, hnone⟩ := hasked
  refine ⟨hbackend, by rw [hfailures, mishaps, List.append_nil], events, hjournal, ?_, nofun⟩
  rw [hnone]

theorem trans (h : Carried p cs r r') (h' : Carried p cs' r' r'') :
    Carried p (cs ++ cs') r r'' where
  backend := by rw [h'.backend, h.backend, applyAll_append]
  failures := by rw [h'.failures, h.failures, h.backend, mishaps_append, List.append_assoc]
  asked := by
    obtain ⟨events, hjournal, hevents, hleft⟩ := h.asked
    obtain ⟨events', hjournal', hevents', hleft'⟩ := h'.asked
    refine ⟨events ++ events', by rw [hjournal', hjournal, List.append_assoc], ?_, fun c hc hc' => ?_⟩
    · rw [List.filterMap_append]
      exact hevents.append hevents'
    · rw [List.filterMap_append]
      rcases List.mem_append.1 hc with hc | hc
      · refine List.mem_append_left _ (hleft c hc fun hgone => hc' ?_)
        rw [h'.backend]
        exact find?_applyAll_none hgone
      · exact List.mem_append_right _ (hleft' c hc hc')

end Carried

theorem Setting.OnStore.does_deleteOwned (hs : s.OnStore p) :
    Does s p b (s.deleteOwned kind parents id) [.delete .owned { kind, parents, id }] := by
  intro r hr
  subst hr
  obtain ⟨answer, log, result, report, hanswer, hrun, hrecorded⟩ :=
    s.deleteOwned_effect kind parents id r
  have hafter : s.afterDelete { kind, parents, id } r.backend =
      applyAll p [.delete .owned { kind, parents, id }] r.backend := by
    rw [Setting.afterDelete, hs.wet, hs.backend]
    rfl
  have hgiven : some (Store.delete p kind parents id r.backend).1 = answer := by
    rw [← hanswer, Setting.deleteAnswer, hs.wet, hs.backend]
    rfl
  rw [hrun]
  cases hrecorded with
  | withheld => cases hgiven
  | deleted =>
    refine .inl ⟨_, rfl, hafter, ?_, [_], rfl, .refl _, fun _ hc _ => hc⟩
    simp [mishaps, Change.mishap?, Option.some.inj hgiven, Attempt.failure?]
  | gone hgone =>
    refine .inl ⟨_, rfl, hafter, ?_, [_], rfl, .refl _, fun _ hc _ => hc⟩
    simp [mishaps, Change.mishap?, Option.some.inj hgiven, Attempt.failure?, hgone]
  | isolated hthere _ =>
    refine .inl ⟨_, rfl, hafter, ?_, [_], rfl, .refl _, fun _ hc _ => hc⟩
    simp [mishaps, Change.mishap?, Option.some.inj hgiven, Attempt.failure?, hthere]
  | propagated hthere hpolicy =>
    refine .inr ⟨fun _ => ⟨hpolicy, ?_⟩, _, _, _, rfl, .refl _, hafter⟩
    simp [mishaps, Change.mishap?, Option.some.inj hgiven, Attempt.failure?, hthere]

/-- A change that is not reported and ends nothing. -/
theorem Task.Changes.does {event : Store → Event} {after : Store → Store}
    (h : t.Changes event after) (hafter : ∀ b, after b = c.apply p b)
    (hquiet : ∀ b, c.mishap? p b = none) (hevent : ∀ b, (event b).change? = some c) :
    Does s p b t [c] := by
  intro r hr
  subst hr
  obtain ⟨log, hrun⟩ := h r
  refine .inl ⟨_, hrun, hafter r.backend, ?_, [event r.backend], rfl, ?_, ?_⟩
  · simp [mishaps, hquiet]
  · simp [hevent]
  · simp [hevent]

theorem Setting.OnStore.does_deleteAuxiliary (hs : s.OnStore p) :
    Does s p b (s.deleteAuxiliary kind parents id) [.delete .auxiliary { kind, parents, id }] := by
  refine (s.deleteAuxiliary_changes kind parents id).does (fun b => ?_) (fun _ => rfl) fun b => ?_
  · rw [Setting.afterDelete, hs.wet, hs.backend]
    rfl
  · rw [Setting.deleteAnswer, hs.wet]
    rfl

theorem Setting.OnStore.does_deleteShared (hs : s.OnStore p) :
    Does s p b (s.deleteShared kind parents id) [.delete .shared { kind, parents, id }] := by
  refine (s.deleteShared_changes kind parents id).does (fun b => ?_) (fun _ => rfl) fun b => ?_
  · rw [Setting.afterDelete, hs.wet, hs.backend]
    rfl
  · rw [Setting.deleteAnswer, hs.wet]
    rfl

theorem Setting.OnStore.does_update (hs : s.OnStore p) {body : Json} :
    Does s p b (s.update kind parents id body) [.update { kind, parents, id } body] := by
  refine (s.update_changes kind parents id body).does (fun b => ?_) (fun _ => rfl) fun b => ?_
  · rw [Setting.afterUpdate, hs.wet, hs.backend]
    rfl
  · rw [Setting.updateAnswer, hs.wet]
    rfl

/-! ## One task after another -/

theorem Does.pure : Does s p b (pure ()) [] := fun r _ =>
  .inl ⟨r, rfl, .refl rfl rfl ⟨[], (List.append_nil _).symm, rfl⟩⟩

theorem Does.seq (ht : Does s p b t cs) (hu : Does s p (applyAll p cs b) u cs') :
    Does s p b (t >>= fun _ => u) (cs ++ cs') := by
  intro r hr
  rw [Task.bind_apply]
  rcases ht r hr with ⟨r₁, htr, hcarried⟩ | ⟨hno, e, r₁, done, htr, hdone, hr₁⟩
  · rw [htr]
    rcases hu r₁ (hr ▸ hcarried.backend) with
      ⟨r₂, hur, hcarried'⟩ | ⟨hno, e, r₂, done, hur, hdone, hr₂⟩
    · exact .inl ⟨r₂, hur, hcarried.trans hcarried'⟩
    · refine .inr ⟨fun hf => ?_, e, r₂, cs ++ done, hur, hdone.append_left cs,
        hr₂.trans (applyAll_append p cs done b).symm⟩
      obtain ⟨hpolicy, hmishaps⟩ := hno ((congrArg (·.2.2) (failures_applyAll p cs b)).trans hf)
      rw [mishaps_append]
      exact ⟨hpolicy, List.append_ne_nil_of_right_ne_nil _ hmishaps⟩
  · rw [htr]
    refine .inr ⟨fun hf => ?_, e, r₁, done, rfl, hdone.trans (List.sublist_append_left _ _), hr₁⟩
    rw [mishaps_append]
    exact ⟨(hno hf).1, List.append_ne_nil_of_left_ne_nil (hno hf).2 _⟩

/-- A task that goes on with what was found. -/
theorem Does.find {find : Task Store (List Resource)} {pick : Address × Resource → Bool}
    {f : List Resource → Task Store Unit} (hfind : Finds b.listFailures find pick)
    (h : Does s p b (f ((b.objects.filter pick).map Prod.snd)) cs) :
    Does s p b (find >>= f) cs := by
  intro r hr
  subst hr
  rw [Task.bind_apply]
  rcases hfind r rfl with ⟨r', hr, hback, hreport, hasked⟩ | ⟨hne, e, r', hr, hb⟩
  · have hread : Carried p [] r r' := .refl hback (congrArg _ hreport) hasked
    rw [hr]
    rcases h r' hback with ⟨r'', ht, hcarried⟩ | hended
    · exact .inl ⟨r'', ht, hread.trans hcarried⟩
    · exact .inr hended
  · rw [hr]
    exact .inr ⟨fun hf => absurd hf hne, e, r', [], rfl, List.nil_sublist _, hb⟩

/-- The delete of what is not there is no failure, provided that it could be there. -/
theorem mishap?_of_find?_none (h : b.find? c.target = none)
    (hreach : requireAccess p c.target.kind c.target.parents = .ok ()) : c.mishap? p b = none := by
  cases c with
  | delete role k =>
    simp only [Change.target] at h hreach
    cases role with
    | owned =>
      simp [Change.mishap?, Store.delete, hreach, h, Attempt.failure?, BackendError.isNotFound]
    | auxiliary | shared => rfl
  | update k body => rfl

theorem mishaps_filter (h : Thinned altered base b) (hw : base.WellFormed)
    {domain : String} (hcs : ∀ c ∈ cs, c.Mild altered domain)
    (hreach : ∀ c ∈ cs, requireAccess p c.target.kind c.target.parents = .ok ()) :
    mishaps p (cs.filter fun c => (base.find? c.target).isSome) b = mishaps p cs b := by
  induction cs generalizing b with
  | nil => rfl
  | cons c cs ih =>
    obtain ⟨hc, hcs⟩ := List.forall_mem_cons.1 hcs
    obtain ⟨hreachc, hreach⟩ := List.forall_mem_cons.1 hreach
    rw [List.filter_cons, mishaps]
    split
    · rw [mishaps, ih (h.apply hw hc) hcs hreach]
    · rename_i hgone
      have hnone : b.find? c.target = none := h.find?_none (by simpa using hgone)
      rw [mishap?_of_find?_none hnone hreachc, apply_of_find?_none hnone]
      exact ih h hcs hreach

/-- Changes of what is gone make no difference. -/
theorem Does.of_filter (hb : b.WellFormed) (hcs : ∀ c ∈ cs', c.Mild altered s.config.domain)
    (hreach : ∀ c ∈ cs', requireAccess p c.target.kind c.target.parents = .ok ())
    (hsub : cs.Sublist cs')
    (hsame : cs.filter (fun c => (b.find? c.target).isSome) =
      cs'.filter fun c => (b.find? c.target).isSome)
    (h : Does s p b t cs) : Does s p b t cs' := by
  have hcs₀ : ∀ c ∈ cs, c.Mild altered s.config.domain := fun c hc => hcs c (hsub.subset hc)
  have hback : applyAll p cs b = applyAll p cs' b := by
    rw [← applyAll_filter (.refl hb) hb hcs, ← hsame, applyAll_filter (.refl hb) hb hcs₀]
  have hmishaps : mishaps p cs b = mishaps p cs' b := by
    rw [← mishaps_filter (.refl hb) hb hcs hreach, ← hsame,
      mishaps_filter (.refl hb) hb hcs₀ fun c hc => hreach c (hsub.subset hc)]
  intro r hr
  rcases h r hr with ⟨r', htr, hcarried⟩ | ⟨hno, e, r', done, htr, hdone, hr'⟩
  · subst hr
    obtain ⟨events, hjournal, hasked, hleft⟩ := hcarried.asked
    refine .inl ⟨r', htr, hcarried.backend.trans hback, hmishaps ▸ hcarried.failures, events,
      hjournal, hasked.trans hsub, fun c hc hc' => hleft c ?_ hc'⟩
    -- what is still there was there, so the change is among those of `cs`
    have hpresent : (r.backend.find? c.target).isSome = true := by
      rw [Option.isSome_iff_ne_none]
      intro hgone
      rw [hcarried.backend] at hc'
      exact hc' (find?_applyAll_none hgone)
    have hkept : c ∈ cs'.filter fun c => (r.backend.find? c.target).isSome :=
      List.mem_filter.2 ⟨hc, hpresent⟩
    rw [← hsame] at hkept
    exact (List.mem_filter.1 hkept).1
  · exact .inr ⟨hmishaps ▸ hno, e, r', done, htr, hdone.trans hsub, hr'⟩

theorem flatMap_filter_of_nil {α β : Type} {l : List α} {q : α → Bool} {g : α → List β}
    (h : ∀ a ∈ l, q a = false → g a = []) : (l.filter q).flatMap g = l.flatMap g := by
  induction l with
  | nil => rfl
  | cons a l ih =>
    have hl := ih fun a ha => h a (List.mem_cons_of_mem _ ha)
    cases hq : q a with
    | true => simp [hq, hl]
    | false => simp [hq, hl, h a List.mem_cons_self hq]

theorem deletes_eq_flatMap {role : Role} {found : List Resource} :
    deletes role kind parents found =
      found.flatMap fun r => [.delete role { kind, parents, id := r.id }] := List.map_eq_flatMap

theorem deletes_filter {role : Role} {found : List Resource} (q : Resource → Prop)
    [DecidablePred q] : deletes role kind parents (found.filter q) =
      found.flatMap fun r => if q r then [.delete role { kind, parents, id := r.id }] else [] := by
  induction found with
  | nil => rfl
  | cons r found ih =>
    by_cases hr : q r
    · simpa [deletes, hr] using ih
    · simpa [deletes, hr] using ih

namespace CarriesOut

theorem nil : CarriesOut s p altered base (pure ()) [] := ⟨nofun, nofun, fun _ => .pure⟩

theorem single (hc : c.Mild altered s.config.domain)
    (hreach : requireAccess p c.target.kind c.target.parents = .ok ()) (h : ∀ b, Does s p b t [c]) :
    CarriesOut s p altered base t [c] where
  mild _ hmem := List.mem_singleton.1 hmem ▸ hc
  reached _ hmem := List.mem_singleton.1 hmem ▸ hreach
  does _ := h _

theorem seq (hw : base.WellFormed) (ht : CarriesOut s p altered base t cs)
    (hu : CarriesOut s p altered base u cs') :
    CarriesOut s p altered base (t >>= fun _ => u) (cs ++ cs') where
  mild c hc := (List.mem_append.1 hc).elim (ht.mild c) (hu.mild c)
  reached c hc := (List.mem_append.1 hc).elim (ht.reached c) (hu.reached c)
  does hb := (ht.does hb).seq (hu.does (hb.applyAll hw ht.mild))

theorem each {α : Type} (hw : base.WellFormed) {l : List α} {f : α → Task Store Unit}
    {g : α → List Change} (h : ∀ a ∈ l, CarriesOut s p altered base (f a) (g a)) :
    CarriesOut s p altered base (Task.each l f) (l.flatMap g) := by
  induction l with
  | nil => exact nil
  | cons a l ih =>
    exact (h a List.mem_cons_self).seq hw (ih fun a ha => h a (List.mem_cons_of_mem _ ha))

theorem when {q : Prop} [Decidable q] (h : q → CarriesOut s p altered base t cs) :
    CarriesOut s p altered base (if q then t else pure ()) (if q then cs else []) := by
  split
  · exact h ‹q›
  · exact nil

/-- A task for each found object.  Among what was there at first, some may be gone by the time
that the list is made; then so must be all that would have been changed for it. -/
theorem found (hw : base.WellFormed) {find : Task Store (List Resource)}
    {pick : Address × Resource → Bool} (hfind : Finds base.listFailures find pick)
    (hkind : ∀ o, pick o = true → o.1.kind ∉ altered) {f : Resource → Task Store Unit}
    {g : Resource → List Change}
    (h : ∀ o ∈ base.objects, pick o = true → CarriesOut s p altered base (f o.2) (g o.2))
    (hgone : ∀ o ∈ base.objects, pick o = true → ∀ {b}, Remains altered s.config.domain base b →
      b.find? o.1 = none → ∀ c ∈ g o.2, b.find? c.target = none) :
    CarriesOut s p altered base (find >>= fun found => Task.each found f)
      (((base.objects.filter pick).map Prod.snd).flatMap g) := by
  have hmem : ∀ {r}, r ∈ (base.objects.filter pick).map Prod.snd →
      ∃ o ∈ base.objects, pick o = true ∧ o.2 = r := fun hr => by
    obtain ⟨o, ho, rfl⟩ := List.mem_map.1 hr
    exact ⟨o, (List.mem_filter.1 ho).1, (List.mem_filter.1 ho).2, rfl⟩
  have hall : CarriesOut s p altered base
      (Task.each ((base.objects.filter pick).map Prod.snd) f)
      (((base.objects.filter pick).map Prod.snd).flatMap g) := each hw fun r hr => by
    obtain ⟨o, ho, hpick, rfl⟩ := hmem hr
    exact h o ho hpick
  refine ⟨hall.mild, hall.reached, fun {b} hb => ?_⟩
  -- the list is made of `b`, and the changes were read off `base`
  have hnow : b.objects.filter pick =
      (base.objects.filter pick).filter fun o => (b.find? o.1).isSome :=
    hb.thinned.filter_objects hw hkind
  have hleft : CarriesOut s p altered base
      (Task.each ((b.objects.filter pick).map Prod.snd) f)
      (((b.objects.filter pick).map Prod.snd).flatMap g) := each hw fun r hr => by
    rw [hnow] at hr
    obtain ⟨o, ho, hpick, rfl⟩ := hmem ((List.filter_sublist.map Prod.snd).subset hr)
    exact h o ho hpick
  refine .find (hb.listFailures ▸ hfind) ?_
  refine .of_filter (hb.thinned.wellFormed hw) hall.mild hall.reached ?_ ?_ (hleft.does hb)
  · rw [hnow]
    exact (List.filter_sublist.map Prod.snd).flatMap g
  · rw [hnow, List.flatMap_map, List.flatMap_map, List.filter_flatMap, List.filter_flatMap]
    refine flatMap_filter_of_nil fun o ho hnone => List.filter_eq_nil_iff.2 fun c hc => ?_
    obtain ⟨ho, hpick⟩ := List.mem_filter.1 ho
    simp [hgone o ho hpick hb (by simpa using hnone) c hc]

/-- Deletes of the found objects, where what is found and gone is also gone as a target. -/
theorem deletes (hw : base.WellFormed) {find : Task Store (List Resource)}
    {pick : Address × Resource → Bool} (hfind : Finds base.listFailures find pick)
    (hkind : ∀ o, pick o = true → o.1.kind ∉ altered) {role : Role} {del : String → Task Store Unit}
    (hdel : ∀ id, CarriesOut s p altered base (del id) [.delete role { kind, parents, id }])
    (hgone : ∀ o ∈ base.objects, pick o = true → ∀ {b}, Remains altered s.config.domain base b →
      b.find? o.1 = none → b.find? { kind, parents, id := o.2.id } = none) :
    CarriesOut s p altered base (find >>= fun found => Task.each found fun r => del r.id)
      (Cleanup.deletes role kind parents ((base.objects.filter pick).map Prod.snd)) := by
  rw [deletes_eq_flatMap]
  refine found hw hfind hkind (fun o _ _ => hdel o.2.id) fun o ho hpick b hb hnone c hc => ?_
  obtain rfl := List.mem_singleton.1 hc
  exact hgone o ho hpick hb hnone

end CarriesOut

/-! ## Objects of one kind in one place -/

namespace Setting.OnStore

theorem deleteOwned (hs : s.OnStore p) (haccess : requireAccess p kind parents = .ok ())
    (hplace : kind.inDomain = true → parents = [s.config.domain]) :
    CarriesOut s p altered base (s.deleteOwned kind parents id)
      [.delete .owned { kind, parents, id }] :=
  .single ⟨hplace, nofun⟩ haccess fun _ => hs.does_deleteOwned

theorem deleteAuxiliary (hs : s.OnStore p) (haccess : requireAccess p kind parents = .ok ())
    (hplace : kind.inDomain = true → parents = [s.config.domain]) :
    CarriesOut s p altered base (s.deleteAuxiliary kind parents id)
      [.delete .auxiliary { kind, parents, id }] :=
  .single ⟨hplace, nofun⟩ haccess fun _ => hs.does_deleteAuxiliary

theorem deleteShared (hs : s.OnStore p) (haccess : requireAccess p kind parents = .ok ())
    (hplace : kind.inDomain = true → parents = [s.config.domain]) :
    CarriesOut s p altered base (s.deleteShared kind parents id)
      [.delete .shared { kind, parents, id }] :=
  .single ⟨hplace, nofun⟩ haccess fun _ => hs.does_deleteShared

variable (hs : s.OnStore p) (hw : base.WellFormed)
  (haccess : requireAccess p kind parents = .ok ()) (hkind : kind ∉ altered)
  (hplace : kind.inDomain = true → parents = [s.config.domain])

include hs hw haccess hkind hplace

theorem emptying : CarriesOut s p altered base (s.deleteContained kind parents)
    (s.emptying kind parents base) := by
  rw [Setting.emptying, hs.seen_eq haccess]
  refine .deletes hw (hs.finds_listOrNone haccess) (fun o hpick => kind_of_inList hpick ▸ hkind)
    (fun id => hs.deleteAuxiliary haccess hplace) fun o ho hpick b _ hnone => ?_
  rwa [← hw.address_of_inList ho hpick]

theorem clearing {rules : List Narrowing} : CarriesOut s p altered base
    (s.findOwned kind parents rules >>= fun found =>
      Task.each found fun r => s.deleteOwned kind parents r.id)
    (s.clearing kind parents rules base) := by
  rw [Setting.clearing, hs.seenOwned_eq haccess]
  refine .deletes hw (hs.finds_findOwned haccess)
    (fun o hpick => kind_of_inList (Bool.and_eq_true_iff.1 hpick).1 ▸ hkind)
    (fun id => hs.deleteOwned haccess hplace) fun o ho hpick b _ hnone => ?_
  rwa [← hw.address_of_inList ho (Bool.and_eq_true_iff.1 hpick).1]

end Setting.OnStore

end Cleanup

end NetSweep
