import NetSweep.Proofs.CategoryChanges
import NetSweep.Proofs.Steps

/-!
# Tasks that refusals do not sway

A dry run withholds changes and a store may refuse them, so two runs from the same objects drift
apart.  A task is settled if that makes no difference to how it ends and which objects it hands
over for deletion: it reads only what no change before it can have touched.
-/

namespace NetSweep

open Cleanup

namespace Store

/-- The second store has the objects of the first under the keys with a property, and the same
lists fail. -/
structure Agree (q : Address → Prop) (a b : Store) : Prop where
  sorted : Assoc.Sorted b.objects
  listFailures : b.listFailures = a.listFailures
  find? : ∀ k, q k → b.find? k = a.find? k

variable {a b c : Store} {q q' : Address → Prop} {p : Bool} {kind : Kind} {parents : List String}
  {tags : List TagPredicate}

namespace Agree

theorem refl (h : Assoc.Sorted a.objects) : Agree q a a := ⟨h, rfl, fun _ _ => rfl⟩

theorem mono (h : Agree q a b) (hq : ∀ k, q' k → q k) : Agree q' a b :=
  ⟨h.sorted, h.listFailures, fun k hk => h.find? k (hq k hk)⟩

theorem trans (h : Agree q a b) (h' : Agree q b c) : Agree q a c where
  sorted := h'.sorted
  listFailures := h'.listFailures.trans h.listFailures
  find? k hk := (h'.find? k hk).trans (h.find? k hk)

theorem filter_objects (h : Agree q a b) (ha : Assoc.Sorted a.objects) (pick : Address → Bool)
    (hpick : ∀ k, pick k = true → q k) :
    b.objects.filter (fun o => pick o.1) = a.objects.filter fun o => pick o.1 := by
  refine Assoc.Sorted.ext (h.sorted.sublist List.filter_sublist)
    (ha.sublist List.filter_sublist) fun k => ?_
  rw [Assoc.find?_filter, Assoc.find?_filter]
  split
  · rename_i hk
    exact h.find? k (hpick k hk)
  · rfl

end Agree

def InPlace (kind : Kind) (parents : List String) (k : Address) : Prop :=
  k.kind = kind ∧ k.parents = parents

theorem InPlace.kind_ne {k : Address} (h : InPlace kind parents k) {other : Kind}
    (hne : kind ≠ other) : k.kind ≠ other := h.1 ▸ hne

theorem ne_of_kind {k : Address} {id : String} (h : k.kind ≠ kind) : k ≠ { kind, parents, id } :=
  fun hk => h (congrArg Address.kind hk)

theorem Agree.list_eq (h : Agree (InPlace kind parents) a b) (ha : Assoc.Sorted a.objects) :
    b.list p kind parents = a.list p kind parents := by
  have hsame : b.objects.filter (fun o => o.1.kind = kind ∧ o.1.parents = parents) =
      a.objects.filter fun o => o.1.kind = kind ∧ o.1.parents = parents :=
    h.filter_objects ha (fun k => k.kind = kind ∧ k.parents = parents)
      fun _ hk => (of_decide_eq_true hk : _ ∧ _)
  unfold list
  rw [hsame, h.listFailures]

theorem Agree.list_outcome (h : Agree q a b) :
    (b.list p kind parents).map (fun _ => ()) = (a.list p kind parents).map fun _ => () := by
  unfold list
  rw [h.listFailures]
  cases requireAccess p kind parents with
  | error e => rfl
  | ok _ => cases Assoc.find? kind a.listFailures <;> rfl

theorem Agree.search_outcome (h : Agree q a b) :
    (b.search p kind tags).map (fun _ => ()) = (a.search p kind tags).map fun _ => () := by
  unfold search
  rw [h.listFailures]
  cases requireApi p kind with
  | error e => rfl
  | ok _ => cases Assoc.find? kind a.listFailures <;> rfl

theorem sorted_apply (h : Assoc.Sorted b.objects) (change : Change) :
    Assoc.Sorted (change.apply p b).objects := by
  cases change with
  | delete role k =>
    rcases delete_cases p k b with hsame | ⟨r, -, -, -, hgone⟩
    · rw [Change.apply, hsame]
      exact h
    · rw [Change.apply, hgone]
      exact h.sublist List.filter_sublist
  | update k body =>
    rcases patch_cases p k body b with hsame | ⟨r, r', -, -, -, -, hput⟩
    · rw [Change.apply, hsame]
      exact h
    · rw [Change.apply, hput]
      exact Assoc.sorted_insert _ _ h

theorem agree_apply (h : Assoc.Sorted b.objects) (change : Change) :
    Agree (· ≠ change.target) b (change.apply p b) where
  sorted := sorted_apply h change
  listFailures := congrArg (·.2.2) (failures_apply p change b)
  find? _ hk := find?_apply_of_ne hk

end Store

namespace Cleanup

/-- The object that an event hands over for deletion, as one that the category answers for. -/
def Event.handed? : Event → Option Address
  | .deletion .owned target _ => some target
  | _ => none

def Change.handed? : Change → Option Address
  | .delete .owned target => some target
  | _ => none

theorem Change.handed?_eq_some {change : Change} {k : Address} :
    change.handed? = some k ↔ change = .delete .owned k := by
  rcases change with ⟨_ | _ | _, target⟩ | _ <;> simp [handed?]

theorem outcome_cases {ε α β : Type} {x : Except ε α} {y : Except ε β}
    (h : x.map (fun _ => ()) = y.map fun _ => ()) :
    (∃ e, x = .error e ∧ y = .error e) ∨ ∃ a b, x = .ok a ∧ y = .ok b := by
  rcases x with e | a <;> rcases y with e' | b
  · exact .inl ⟨e, rfl, congrArg _ (Except.error.inj h).symm⟩
  · cases h
  · cases h
  · exact .inr ⟨a, b, rfl, rfl⟩

theorem Event.fatal?_listed {kind : Kind} {parents : List String} {x y : Answer (List Resource)}
    (h : x.map (fun _ => ()) = y.map fun _ => ()) :
    (Event.listed kind parents x).fatal? = (Event.listed kind parents y).fatal? := by
  obtain ⟨e, rfl, rfl⟩ | ⟨found, found', rfl, rfl⟩ := outcome_cases h <;> rfl

theorem Event.fatal?_searched {kind : Kind} {tags : List TagPredicate}
    {x y : Answer (List Resource)} (h : x.map (fun _ => ()) = y.map fun _ => ()) :
    (Event.searched kind tags x).fatal? = (Event.searched kind tags y).fatal? := by
  obtain ⟨e, rfl, rfl⟩ | ⟨found, found', rfl, rfl⟩ := outcome_cases h
  · rfl
  · simp [fatal?]

open Store

variable {q q' reads reads' keeps keeps' : Address → Prop} {handed handed' : List Address}

/-- From one state of a run to a later one some objects were handed over, and the store was left
as it is under the keys with a property. -/
structure Run.Advances (q : Address → Prop) (handed : List Address) (r r' : Run Store) : Prop where
  journal : ∃ events, r'.journal = r.journal ++ events ∧ events.filterMap Event.handed? = handed
  backend : r.backend.Agree q r'.backend

namespace Run.Advances

variable {r r' r'' : Run Store}

theorem mono (h : r.Advances q handed r') (hq : ∀ k, q' k → q k) : r.Advances q' handed r' :=
  ⟨h.journal, h.backend.mono hq⟩

theorem trans (h : r.Advances q handed r') (h' : r'.Advances q handed' r'') :
    r.Advances q (handed ++ handed') r'' := by
  obtain ⟨events, hjournal, hevents⟩ := h.journal
  obtain ⟨events', hjournal', hevents'⟩ := h'.journal
  refine ⟨⟨events ++ events', ?_, ?_⟩, h.backend.trans h'.backend⟩
  · rw [hjournal', hjournal, List.append_assoc]
  · rw [List.filterMap_append, hevents, hevents']

end Run.Advances

/-! ## Settings that differ in what they withhold -/

/-- The settings have the same eye for what is owned, and both isolate failures; one may withhold
changes where the other does not. -/
structure Setting.Alike (p : Bool) (s₀ s : Setting Store) : Prop where
  backend : s.backend = Store.backend p
  authority : s.authority = s₀.authority
  domain : s.config.domain = s₀.config.domain
  marker : s.config.marker = s₀.config.marker
  policy : s.policy = .isolate

variable {p : Bool} {s₀ s : Setting Store} {base : Store} {kind : Kind} {parents : List String}
  {id : String}

/-- The task ends well from every store, and hands nothing over. -/
def Quiet (keeps : Address → Prop) (t : Task Store Unit) : Prop :=
  ∀ r : Run Store, Assoc.Sorted r.backend.objects → ∃ r', t r = (.ok (), r') ∧ r.Advances keeps [] r'

namespace Quiet

variable {t u : Task Store Unit}

theorem pure : Quiet keeps (Pure.pure ()) := fun r hr =>
  ⟨r, rfl, ⟨[], (List.append_nil _).symm, rfl⟩, .refl hr⟩

theorem mono (h : Quiet keeps t) (hk : ∀ k, keeps' k → keeps k) : Quiet keeps' t := by
  intro r hr
  obtain ⟨r', ht, hadvances⟩ := h r hr
  exact ⟨r', ht, hadvances.mono hk⟩

theorem seq (ht : Quiet keeps t) (hu : Quiet keeps u) : Quiet keeps (t >>= fun _ => u) := by
  intro r hr
  obtain ⟨r₁, htr, hfirst⟩ := ht r hr
  obtain ⟨r₂, hur, hsecond⟩ := hu r₁ hfirst.backend.sorted
  rw [Task.bind_apply, htr]
  exact ⟨r₂, hur, hfirst.trans hsecond⟩

theorem each {α : Type} {l : List α} {f : α → Task Store Unit}
    (h : ∀ a ∈ l, Quiet keeps (f a)) : Quiet keeps (Task.each l f) := by
  induction l with
  | nil => exact pure
  | cons a l ih =>
    exact (h a List.mem_cons_self).seq (ih fun a ha => h a (List.mem_cons_of_mem _ ha))

theorem when {c : Prop} [Decidable c] (h : c → Quiet keeps t) :
    Quiet keeps (if c then t else Pure.pure ()) := by
  split
  · exact h ‹c›
  · exact pure

end Quiet

theorem Task.Changes.quiet {t : Task Store Unit} {event : Store → Event} {after : Store → Store}
    (h : t.Changes event after) (hevent : ∀ b, (event b).handed? = none)
    (hafter : ∀ b : Store, Assoc.Sorted b.objects → b.Agree keeps (after b)) :
    Quiet keeps t := by
  intro r hr
  obtain ⟨log, htr⟩ := h r
  refine ⟨_, htr, ⟨[event r.backend], rfl, ?_⟩, hafter r.backend hr⟩
  simp [hevent]

namespace Setting.Alike

variable (hs : Alike p s₀ s)

include hs

theorem agree_afterDelete (role : Role) (target : Address) {b : Store}
    (hb : Assoc.Sorted b.objects) : b.Agree (· ≠ target) (s.afterDelete target b) := by
  unfold afterDelete
  split
  · exact .refl hb
  · rw [hs.backend]
    exact agree_apply hb (.delete role target)

theorem agree_afterUpdate (target : Address) (body : Json) {b : Store}
    (hb : Assoc.Sorted b.objects) : b.Agree (· ≠ target) (s.afterUpdate target body b) := by
  unfold afterUpdate
  split
  · exact .refl hb
  · rw [hs.backend]
    exact agree_apply hb (.update target body)

theorem quiet_deleteAuxiliary :
    Quiet (· ≠ { kind, parents, id }) (s.deleteAuxiliary kind parents id) :=
  (s.deleteAuxiliary_changes kind parents id).quiet (fun _ => rfl) fun _ =>
    hs.agree_afterDelete .auxiliary _

theorem quiet_deleteShared :
    Quiet (· ≠ { kind, parents, id }) (s.deleteShared kind parents id) :=
  (s.deleteShared_changes kind parents id).quiet (fun _ => rfl) fun _ =>
    hs.agree_afterDelete .shared _

theorem quiet_update (body : Json) :
    Quiet (· ≠ { kind, parents, id }) (s.update kind parents id body) :=
  (s.update_changes kind parents id body).quiet (fun _ => rfl) fun _ =>
    hs.agree_afterUpdate _ body

end Setting.Alike

/-! ## Finding -/

/-- Whether the objects are found, and if not why, is the same for all stores that agree with one
on what is read; and what is found has a property. -/
def Answered (p : Bool) (s₀ : Setting Store) (base : Store) (reads : Address → Prop)
    (find : Setting Store → Task Store (List Resource)) (post : List Resource → Prop) : Prop :=
  ∃ outcome : Except CleanupError Unit, ∀ s, s₀.Alike p s → ∀ r, base.Agree reads r.backend →
    ∃ result r', find s r = (result, r') ∧ result.map (fun _ => ()) = outcome ∧
      (∀ found, result = .ok found → post found) ∧ r.Advances (fun _ => True) [] r'

theorem Answered.of_reads {find : Setting Store → Task Store (List Resource)}
    {post : List Resource → Prop} (answer : Store → Answer (List Resource))
    (event : Answer (List Resource) → Event)
    (hreads : ∀ s, s₀.Alike p s → (find s).Reads (fun b => (answer b, b)) event)
    (hevent : ∀ a, (event a).handed? = none)
    (hfatal : ∀ b, base.Agree reads b → (event (answer b)).fatal? = (event (answer base)).fatal?)
    (hpost : ∀ b, base.Agree reads b → post (answer b).items) :
    Answered p s₀ base reads find post := by
  refine ⟨(event (answer base)).ending (), ?_⟩
  intro s hs r hr
  obtain ⟨log, hrun⟩ := hreads s hs r
  refine ⟨_, _, hrun, ?_, ?_, ⟨⟨_, rfl, ?_⟩, .refl hr.sorted⟩⟩
  · dsimp only [Event.ending]
    rw [hfatal r.backend hr]
    cases (event (answer base)).fatal? <;> rfl
  · intro found hfound
    dsimp only at hfound
    split at hfound
    · cases hfound
    · obtain rfl := Except.ok.inj hfound
      exact hpost r.backend hr
  · simp [hevent]

namespace Answered

variable {find : Setting Store → Task Store (List Resource)}

theorem of_list (hw : Assoc.Sorted base.objects) (hs₀ : s₀.backend = Store.backend p)
    (hreads : ∀ s : Setting Store,
      (find s).Reads (s.backend.list kind parents) (.listed kind parents)) :
    Answered p s₀ base (InPlace kind parents) find (· = s₀.seen kind parents base) := by
  have hlist : ∀ b, base.Agree (InPlace kind parents) b →
      b.list p kind parents = base.list p kind parents := fun b hb => hb.list_eq hw
  refine .of_reads (fun b => b.list p kind parents) (.listed kind parents)
    (fun s hs => ?_) (fun _ => rfl) (fun b hb => ?_) fun b hb => ?_
  · have hr := hreads s
    rw [hs.backend] at hr
    exact hr
  · rw [hlist b hb]
  · rw [Setting.seen, hs₀, hlist b hb]
    rfl

theorem of_any_list (hreads : ∀ s : Setting Store,
      (find s).Reads (s.backend.list kind parents) (.listed kind parents)) :
    Answered p s₀ base reads find fun _ => True := by
  refine .of_reads (fun b => b.list p kind parents) (.listed kind parents)
    (fun s hs => ?_) (fun _ => rfl) (fun b hb => ?_) fun _ _ => trivial
  · have hr := hreads s
    rw [hs.backend] at hr
    exact hr
  · exact Event.fatal?_listed hb.list_outcome

theorem of_any_search {tags : List TagPredicate} (hreads : ∀ s : Setting Store, s₀.Alike p s →
      (find s).Reads (s.backend.search kind tags) (.searched kind tags)) :
    Answered p s₀ base reads find fun _ => True := by
  refine .of_reads (fun b => b.search p kind tags) (.searched kind tags)
    (fun s hs => ?_) (fun _ => rfl) (fun b hb => ?_) fun _ _ => trivial
  · have hr := hreads s hs
    rw [hs.backend] at hr
    exact hr
  · exact Event.fatal?_searched hb.search_outcome

theorem mono {post : List Resource → Prop} (h : Answered p s₀ base reads find post)
    (hreads : ∀ k, reads k → reads' k) : Answered p s₀ base reads' find post := by
  obtain ⟨outcome, h⟩ := h
  exact ⟨outcome, fun s hs r hr => h s hs r (hr.mono hreads)⟩

theorem select {found : List Resource} (h : Answered p s₀ base reads find (· = found))
    (kind : Kind) (rules : List Narrowing) :
    Answered p s₀ base reads (fun s => find s >>= fun resources => s.selectOwned kind rules resources)
      (· = ownedAmong s₀.config.marker s₀.authority rules found) := by
  obtain ⟨outcome, h⟩ := h
  refine ⟨outcome, fun s hs r hr => ?_⟩
  obtain ⟨result, r', hfind, houtcome, hfound, hadvances⟩ := h s hs r hr
  cases result with
  | error e =>
    refine ⟨.error e, r', ?_, houtcome, nofun, hadvances⟩
    simp only [Task.bind_apply, hfind]
  | ok resources =>
    obtain rfl := hfound resources rfl
    simp only [Task.bind_apply, hfind]
    refine ⟨_, _, rfl, houtcome, fun owned howned => ?_, hadvances.journal, hadvances.backend⟩
    rw [← Except.ok.inj howned, hs.marker, hs.authority]

end Answered

/-! ## Settled tasks -/

/-- Two runs in settings that are alike, from stores that agree with one on what is read, end in
the same way, hand over the same objects, and leave their stores as they were where it is kept.
The objects are those of the given changes, or the first ones of them if the task fails. -/
def Settled (p : Bool) (s₀ : Setting Store) (base : Store) (reads keeps : Address → Prop)
    (t : Setting Store → Task Store Unit) (cs : List Change) : Prop :=
  ∃ outcome handed, handed <+: cs.filterMap Change.handed? ∧
    (outcome = .ok () → handed = cs.filterMap Change.handed?) ∧
    ∀ s, s₀.Alike p s → ∀ r, base.Agree reads r.backend →
      ∃ r', t s r = (outcome, r') ∧ r.Advances keeps handed r'

namespace Settled

variable {t u : Setting Store → Task Store Unit} {cs cs' : List Change}

theorem mono (h : Settled p s₀ base reads keeps t cs) (hreads : ∀ k, reads k → reads' k)
    (hkeeps : ∀ k, keeps' k → keeps k) : Settled p s₀ base reads' keeps' t cs := by
  obtain ⟨outcome, handed, hprefix, hall, h⟩ := h
  refine ⟨outcome, handed, hprefix, hall, fun s hs r hr => ?_⟩
  obtain ⟨r', hrun, hadvances⟩ := h s hs r (hr.mono hreads)
  exact ⟨r', hrun, hadvances.mono hkeeps⟩

theorem congr (h : Settled p s₀ base reads keeps t cs) (htu : ∀ s, s₀.Alike p s → u s = t s) :
    Settled p s₀ base reads keeps u cs := by
  obtain ⟨outcome, handed, hprefix, hall, h⟩ := h
  refine ⟨outcome, handed, hprefix, hall, fun s hs r hr => ?_⟩
  rw [htu s hs]
  exact h s hs r hr

theorem of_quiet (h : ∀ s, s₀.Alike p s → Quiet keeps (t s))
    (hcs : cs.filterMap Change.handed? = []) : Settled p s₀ base reads keeps t cs := by
  refine ⟨.ok (), [], List.nil_prefix, fun _ => hcs.symm, fun s hs r hr => ?_⟩
  exact h s hs r hr.sorted

theorem deleteOwned : Settled p s₀ base reads (· ≠ { kind, parents, id })
    (fun s => s.deleteOwned kind parents id) [.delete .owned { kind, parents, id }] := by
  refine ⟨.ok (), [{ kind, parents, id }], List.prefix_rfl, fun _ => rfl, fun s hs r hr => ?_⟩
  obtain ⟨answer, log, result, report, -, hrun, hrecorded⟩ :=
    s.deleteOwned_effect kind parents id r
  -- only a failure that is propagated would tell one run from another
  have hresult : result = .ok () := by
    cases hrecorded with
    | propagated hthere hpolicy => cases hs.policy.symm.trans hpolicy
    | withheld => rfl
    | deleted => rfl
    | gone hgone => rfl
    | isolated hthere hpolicy => rfl
  rw [hresult] at hrun
  exact ⟨_, hrun, ⟨_, rfl, rfl⟩, hs.agree_afterDelete .owned _ hr.sorted⟩

/-- The second task reads only what the first has kept. -/
theorem seq (ht : Settled p s₀ base reads keeps t cs) (hu : Settled p s₀ base reads' keeps' u cs')
    (hreads : ∀ k, reads' k → reads k ∧ keeps k) (hkeeps : ∀ k, keeps' k → keeps k) :
    Settled p s₀ base reads keeps' (fun s => t s >>= fun _ => u s) (cs ++ cs') := by
  obtain ⟨outcome, handed, hprefix, hall, ht⟩ := ht
  obtain ⟨outcome', handed', hprefix', hall', hu⟩ := hu
  cases outcome with
  | error e =>
    refine ⟨.error e, handed, ?_, nofun, fun s hs r hr => ?_⟩
    · rw [List.filterMap_append]
      exact hprefix.trans (List.prefix_append _ _)
    · obtain ⟨r', hrun, hadvances⟩ := ht s hs r hr
      refine ⟨r', ?_, hadvances.mono hkeeps⟩
      simp only [Task.bind_apply, hrun]
  | ok _ =>
    -- the first task has handed over all that it can, so that the prefixes add up
    have hfirst := hall rfl
    refine ⟨outcome', handed ++ handed', ?_, fun h => ?_, fun s hs r hr => ?_⟩
    · rw [List.filterMap_append, hfirst]
      exact (List.prefix_append_right_inj _).2 hprefix'
    · rw [List.filterMap_append, hfirst, hall' h]
    · obtain ⟨r₁, hrun, hadvances⟩ := ht s hs r hr
      have hagree : base.Agree reads' r₁.backend :=
        (hr.mono fun k hk => (hreads k hk).1).trans
          (hadvances.backend.mono fun k hk => (hreads k hk).2)
      obtain ⟨r₂, hrun', hadvances'⟩ := hu s hs r₁ hagree
      refine ⟨r₂, ?_, (hadvances.mono hkeeps).trans hadvances'⟩
      simp only [Task.bind_apply, hrun, hrun']

theorem seq_blind (ht : Settled p s₀ base reads keeps t cs)
    (hu : Settled p s₀ base (fun _ => False) keeps u cs') :
    Settled p s₀ base reads keeps (fun s => t s >>= fun _ => u s) (cs ++ cs') :=
  ht.seq hu (fun _ hk => hk.elim) fun _ => id

theorem nil : Settled p s₀ base reads keeps (fun _ => pure ()) [] :=
  of_quiet (fun _ _ => .pure) rfl

/-- Each task reads only what those before it have kept. -/
theorem each {α : Type} {l : List α} {f : Setting Store → α → Task Store Unit}
    {g : α → List Change} {reads keeps : α → Address → Prop}
    (h : ∀ a ∈ l, Settled p s₀ base (reads a) (keeps a) (fun s => f s a) (g a))
    (happart : l.Pairwise fun a b => ∀ k, reads b k → keeps a k) :
    Settled p s₀ base (fun k => ∃ a ∈ l, reads a k) (fun k => ∀ a ∈ l, keeps a k)
      (fun s => Task.each l (f s)) (l.flatMap g) := by
  induction l with
  | nil => exact nil
  | cons a l ih =>
    obtain ⟨hfirst, hrest⟩ := List.pairwise_cons.1 happart
    have hl := ih (fun b hb => h b (List.mem_cons_of_mem _ hb)) hrest
    have ha : Settled p s₀ base (fun k => ∃ b ∈ a :: l, reads b k) (keeps a) (fun s => f s a)
        (g a) := (h a List.mem_cons_self).mono (fun _ hk => ⟨a, List.mem_cons_self, hk⟩) fun _ => id
    have hlater : Settled p s₀ base (fun k => ∃ b ∈ l, reads b k)
        (fun k => ∀ b ∈ a :: l, keeps b k) (fun s => Task.each l (f s)) (l.flatMap g) :=
      hl.mono (fun _ => id) fun _ hk b hb => hk b (List.mem_cons_of_mem _ hb)
    refine ha.seq hlater ?_ fun k hk => hk a List.mem_cons_self
    rintro k ⟨b, hb, hk⟩
    exact ⟨⟨b, List.mem_cons_of_mem _ hb, hk⟩, hfirst b hb k hk⟩

/-- Tasks that read nothing do not depend on each other. -/
theorem each_blind {α : Type} {l : List α} {f : Setting Store → α → Task Store Unit}
    {g : α → List Change}
    (h : ∀ a ∈ l, Settled p s₀ base (fun _ => False) keeps (fun s => f s a) (g a)) :
    Settled p s₀ base reads keeps (fun s => Task.each l (f s)) (l.flatMap g) := by
  have happart : l.Pairwise fun _ _ => ∀ k : Address, False → keeps k :=
    List.pairwise_of_forall fun _ _ _ hk => hk.elim
  refine (each h happart).mono ?_ fun _ hk _ _ => hk
  rintro k ⟨_, _, hk⟩
  exact hk.elim

theorem find {find : Setting Store → Task Store (List Resource)} {found : List Resource}
    {f : Setting Store → List Resource → Task Store Unit}
    (h : Answered p s₀ base reads find (· = found))
    (hf : Settled p s₀ base reads' keeps (fun s => f s found) cs) (hreads : ∀ k, reads' k → reads k) :
    Settled p s₀ base reads keeps (fun s => find s >>= f s) cs := by
  obtain ⟨found?, h⟩ := h
  obtain ⟨outcome, handed, hprefix, hall, hf⟩ := hf
  cases found? with
  | error e =>
    refine ⟨.error e, [], List.nil_prefix, nofun, fun s hs r hr => ?_⟩
    obtain ⟨result, r', hfind, houtcome, -, hadvances⟩ := h s hs r hr
    cases result with
    | ok resources => cases houtcome
    | error e' =>
      obtain rfl := Except.error.inj houtcome
      refine ⟨r', ?_, hadvances.mono fun _ _ => trivial⟩
      simp only [Task.bind_apply, hfind]
  | ok _ =>
    refine ⟨outcome, handed, hprefix, hall, fun s hs r hr => ?_⟩
    obtain ⟨result, r', hfind, houtcome, hfound, hadvances⟩ := h s hs r hr
    cases result with
    | error e => cases houtcome
    | ok resources =>
      obtain rfl := hfound resources rfl
      have hagree : base.Agree reads' r'.backend :=
        (hr.mono hreads).trans (hadvances.backend.mono fun _ _ => trivial)
      obtain ⟨r₂, hrun, hadvances'⟩ := hf s hs r' hagree
      refine ⟨r₂, ?_, (hadvances.mono fun _ _ => trivial).trans hadvances'⟩
      simp only [Task.bind_apply, hfind, hrun]

theorem find_blind {find : Setting Store → Task Store (List Resource)} {found : List Resource}
    {f : Setting Store → List Resource → Task Store Unit}
    (h : Answered p s₀ base reads find (· = found))
    (hf : Settled p s₀ base (fun _ => False) keeps (fun s => f s found) cs) :
    Settled p s₀ base reads keeps (fun s => find s >>= f s) cs :=
  .find h hf fun _ hk => hk.elim

/-- A task that hands nothing over, whatever was found. -/
theorem quietly {find : Setting Store → Task Store (List Resource)}
    {f : Setting Store → List Resource → Task Store Unit}
    (h : Answered p s₀ base reads find fun _ => True)
    (hf : ∀ s, s₀.Alike p s → ∀ found, Quiet keeps (f s found))
    (hcs : cs.filterMap Change.handed? = []) :
    Settled p s₀ base reads keeps (fun s => find s >>= f s) cs := by
  obtain ⟨outcome, h⟩ := h
  refine ⟨outcome, [], List.nil_prefix, fun _ => hcs.symm, fun s hs r hr => ?_⟩
  obtain ⟨result, r', hfind, rfl, -, hadvances⟩ := h s hs r hr
  cases result with
  | error e =>
    refine ⟨r', ?_, hadvances.mono fun _ _ => trivial⟩
    simp only [Task.bind_apply, hfind]
    rfl
  | ok found =>
    obtain ⟨r₂, hrun, hadvances'⟩ := hf s hs found r' hadvances.backend.sorted
    refine ⟨r₂, ?_, (hadvances.mono fun _ _ => trivial).trans hadvances'⟩
    simp only [Task.bind_apply, hfind, hrun]
    rfl

end Settled

end Cleanup

end NetSweep
