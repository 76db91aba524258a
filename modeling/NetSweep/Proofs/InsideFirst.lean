import NetSweep.Proofs.Aborts
import NetSweep.Proofs.NothingDangling
import NetSweep.Proofs.PermittedEvents

/-!
# Inside first

Whatever a backend answers, a whole cleanup in the standard order never asks for the delete of an
object after asking for the delete of something around it.  The table of the plan says so between
categories.  Within one, only segments and routers are deleted along with what they contain: for
one after another, from the inside outwards.  What separates two of them is that a list gives each
id once.
-/

namespace NetSweep

open Cleanup

/-- The kinds whose objects contain objects of the kind, at any depth. -/
def Kind.around (kind : Kind) : List Kind :=
  kind.parent?.toList ++ (kind.parent?.bind Kind.parent?).toList

/-- Objects of the kind contain nothing and lie in nothing. -/
def Kind.Solitary (kind : Kind) : Prop := kind.around = [] ∧ ∀ other ∈ all, kind ∉ other.around

instance (kind : Kind) : Decidable kind.Solitary :=
  inferInstanceAs (Decidable (kind.around = [] ∧ ∀ other ∈ Kind.all, kind ∉ other.around))

namespace Address

variable {outer inner x y : Address}

theorem Encloses.kind_around (h : outer.Encloses inner) : outer.kind ∈ inner.kind.around := by
  have hup : ∀ kind ∈ Kind.all, ∀ middle ∈ kind.around, ∀ upper ∈ middle.parent?.toList,
      upper ∈ kind.around := by decide
  induction h using Relation.TransGen.head_induction_on with
  | single hcontains => simp [Kind.around, kind_of_contains hcontains]
  | head hcontains _ ih =>
    refine hup _ (Kind.mem_all _) _ ih _ ?_
    simp [kind_of_contains hcontains]

theorem trail_of_contains (h : outer.contains inner = true) : outer.trail = inner.parents :=
  (parents_of_contains h).symm

/-- What is around an object is on its way. -/
theorem Encloses.trail_prefix (h : outer.Encloses inner) : outer.trail <+: inner.parents := by
  induction h using Relation.TransGen.head_induction_on with
  | single hcontains => exact ⟨[], by rw [trail_of_contains hcontains, List.append_nil]⟩
  | head hcontains _ ih =>
    rw [trail_of_contains hcontains]
    exact (List.prefix_append _ _).trans ih

theorem Encloses.parents_length_lt (h : outer.Encloses inner) :
    outer.parents.length < inner.parents.length := by
  have hlength := h.trail_prefix.length_le
  rw [trail, List.length_append, List.length_singleton] at hlength
  omega

/-- The object is on the way through some ids, or has no place on any way. -/
def Under (ids : List String) (k : Address) : Prop := k.kind.Solitary ∨ ids <+: k.trail

theorem not_encloses_of_solitary (h : x.kind.Solitary ∨ y.kind.Solitary) : ¬ x.Encloses y := by
  intro hinside
  rcases h with hx | hy
  · exact hx.2 _ (Kind.mem_all _) hinside.kind_around
  · have hnone := hinside.kind_around
    rw [hy.1] at hnone
    cases hnone

theorem not_encloses_of_length_le (h : y.parents.length ≤ x.parents.length) : ¬ x.Encloses y :=
  fun hinside => absurd hinside.parents_length_lt (by omega)

/-- What is inside an object lies no less deep than what the object is under. -/
theorem Under.not_encloses_outer {k : Address} (h : x.Under k.trail) : ¬ x.Encloses k := by
  rcases h with hx | hprefix
  · exact not_encloses_of_solitary (.inl hx)
  · have hlength := hprefix.length_le
    refine not_encloses_of_length_le ?_
    simpa [trail] using hlength

/-- What is under different ids of the same list is apart. -/
theorem Under.not_encloses {i j : String} (ids : List String) (hij : i ≠ j)
    (hx : x.Under (ids ++ [i])) (hy : y.Under (ids ++ [j])) : ¬ x.Encloses y := by
  intro hinside
  rcases hx with hx | hx
  · exact not_encloses_of_solitary (.inl hx) hinside
  rcases hy with hy | hy
  · exact not_encloses_of_solitary (.inr hy) hinside
  have hway : x.trail <+: y.trail := hinside.trail_prefix.trans ⟨[y.id], rfl⟩
  have hsame : (ids ++ [i]) <+: (ids ++ [j]) :=
    List.prefix_of_prefix_length_le (hx.trans hway) hy (by simp)
  have heq := hsame.eq_of_length (by simp)
  exact hij (List.cons.inj (List.append_cancel_left heq)).1

end Address

def Call.deleted? : Call → Option Address
  | .delete kind parents id => some { kind, parents, id }
  | _ => none

/-- Nothing comes after what it lies in. -/
def InsideFirst (deletes : List Address) : Prop :=
  deletes.Pairwise fun outer inner => ¬ outer.Encloses inner

namespace Cleanup

/-- A list that was answered gives each id once. -/
def Event.Distinct : Event → Prop
  | .listed _ _ (.ok found) => (found.map Resource.id).Nodup
  | _ => True

instance : DecidablePred Event.Distinct := fun event => by
  unfold Event.Distinct
  split <;> infer_instance

def deletesOf (events : List Event) : List Address :=
  (events.filterMap Event.call?).filterMap Call.deleted?

@[simp] theorem deletesOf_append (events events' : List Event) :
    deletesOf (events ++ events') = deletesOf events ++ deletesOf events' := by
  simp [deletesOf]

theorem Event.deletion_of_deleted? {event : Event} {k : Address}
    (h : event.call?.bind Call.deleted? = some k) :
    ∃ role answer, event = .deletion role k (some answer) := by
  rcases event with _ | _ | ⟨role, target, _ | answer⟩ | ⟨target, body, _ | answer⟩
  case deletion.some =>
    obtain rfl := Option.some.inj h
    exact ⟨role, answer, rfl⟩
  all_goals cases h

theorem mem_deletesOf {events : List Event} {k : Address} (h : k ∈ deletesOf events) :
    ∃ role answer, .deletion role k (some answer) ∈ events := by
  rw [deletesOf, List.filterMap_filterMap] at h
  obtain ⟨event, hevent, hk⟩ := List.mem_filterMap.1 h
  obtain ⟨role, answer, rfl⟩ := Event.deletion_of_deleted? hk
  exact ⟨role, answer, hevent⟩

/-- The deletes are of objects with a property, and go inside first if every list that was answered
gives each id once. -/
structure Peeling (P : Address → Prop) (events : List Event) : Prop where
  within : ∀ k ∈ deletesOf events, P k
  order : (∀ event ∈ events, event.Distinct) → InsideFirst (deletesOf events)

namespace Peeling

variable {P Q R : Address → Prop} {events events' : List Event} {event : Event} {k : Address}

theorem of_none (h : deletesOf events = []) : Peeling P events where
  within := by simp [h]
  order _ := by simp [h, InsideFirst]

theorem deletion (role : Role) (answer : Option (Answer Unit)) :
    Peeling (· = k) [.deletion role k answer] := by
  cases answer with
  | none => exact .of_none rfl
  | some answer =>
    exact ⟨fun k' hk' => List.mem_singleton.1 hk', fun _ => List.pairwise_singleton ..⟩

theorem append (h : Peeling P events) (h' : Peeling Q events')
    (happart : ∀ x y, P x → Q y → ¬ x.Encloses y) :
    Peeling (fun k => P k ∨ Q k) (events ++ events') where
  within k hk := by
    rw [deletesOf_append] at hk
    exact (List.mem_append.1 hk).imp (h.within k) (h'.within k)
  order hdistinct := by
    obtain ⟨hfirst, hsecond⟩ := List.forall_mem_append.1 hdistinct
    rw [deletesOf_append]
    exact List.pairwise_append.2 ⟨h.order hfirst, h'.order hsecond,
      fun x hx y hy => happart x y (h.within x hx) (h'.within y hy)⟩

theorem mono (h : Peeling P events) (hsub : ∀ k, P k → Q k) : Peeling Q events :=
  ⟨fun k hk => hsub k (h.within k hk), h.order⟩

end Peeling

namespace Task

variable {σ α β : Type} {P Q : Address → Prop}

def Peels (P : Address → Prop) (t : Task σ α) : Prop :=
  ∀ r, ∃ events, (t r).2.journal = r.journal ++ events ∧ Peeling P events

/-- The task deletes nothing, and what it finds has each id once if the lists have. -/
def FindsDistinct (t : Task σ (List Resource)) : Prop :=
  ∀ r, ∃ events, (t r).2.journal = r.journal ++ events ∧ deletesOf events = [] ∧
    ∀ found, (t r).1 = .ok found → (∀ event ∈ events, event.Distinct) →
      (found.map Resource.id).Nodup

namespace Peels

theorem mono {t : Task σ α} (h : Peels P t) (hsub : ∀ k, P k → Q k) : Peels Q t := by
  intro r
  obtain ⟨events, hjournal, hpeel⟩ := h r
  exact ⟨events, hjournal, hpeel.mono hsub⟩

theorem of_quiet {t : Task σ α} (h : ∀ r, (t r).2.journal = r.journal) : Peels P t :=
  fun r => ⟨[], (h r).trans (List.append_nil _).symm, .of_none rfl⟩

theorem bind {t : Task σ α} {f : α → Task σ β} (ht : Peels P t) (hf : ∀ a, Peels Q (f a))
    (happart : ∀ x y, P x → Q y → ¬ x.Encloses y) : Peels (fun k => P k ∨ Q k) (t >>= f) := by
  intro r
  obtain ⟨events, hjournal, hpeel⟩ := ht r
  rw [bind_apply]
  rcases htr : t r with ⟨e | a, r'⟩
  · rw [htr] at hjournal
    exact ⟨events, hjournal, hpeel.mono fun _ => .inl⟩
  · rw [htr] at hjournal
    obtain ⟨events', hjournal', hpeel'⟩ := hf a r'
    refine ⟨events ++ events', ?_, hpeel.append hpeel' happart⟩
    rw [hjournal', hjournal, List.append_assoc]

/-- One task after another, where the second deletes nothing around what the first did. -/
theorem seq {t : Task σ α} {f : α → Task σ β} (ht : Peels P t) (hf : ∀ a, Peels P (f a))
    (hflat : ∀ x y, P x → P y → ¬ x.Encloses y) : Peels P (t >>= f) :=
  (ht.bind hf hflat).mono fun _ => or_self_iff.1

theorem each {items : List α} {f : α → Task σ Unit} (hf : ∀ a ∈ items, Peels P (f a))
    (hflat : ∀ x y, P x → P y → ¬ x.Encloses y) : Peels P (Task.each items f) := by
  induction items with
  | nil => exact .of_quiet fun _ => rfl
  | cons a items ih =>
    exact (hf a List.mem_cons_self).seq (fun _ => ih fun a ha => hf a (List.mem_cons_of_mem _ ha))
      hflat

/-- Tasks for items of different names delete apart from each other; under one name they may not. -/
theorem each_named {P : String → Address → Prop} {name : α → String} {f : α → Task σ Unit}
    (hf : ∀ a, Peels (P (name a)) (f a))
    (happart : ∀ i j, i ≠ j → ∀ x y, P i x → P j y → ¬ x.Encloses y) (items : List α) (r : Run σ) :
    ∃ events, (Task.each items f r).2.journal = r.journal ++ events ∧
      (∀ k ∈ deletesOf events, ∃ a ∈ items, P (name a) k) ∧
      ((items.map name).Nodup → (∀ event ∈ events, event.Distinct) →
        InsideFirst (deletesOf events)) := by
  induction items generalizing r with
  | nil => exact ⟨[], (List.append_nil _).symm, by simp [deletesOf], fun _ _ => .nil⟩
  | cons a items ih =>
    obtain ⟨events, hjournal, hpeel⟩ := hf a r
    have hwithin : ∀ k ∈ deletesOf events, ∃ b ∈ a :: items, P (name b) k := fun k hk =>
      ⟨a, List.mem_cons_self, hpeel.within k hk⟩
    rw [Task.each, bind_apply]
    rcases htr : f a r with ⟨e | ⟨⟩, r'⟩
    · rw [htr] at hjournal
      exact ⟨events, hjournal, hwithin, fun _ => hpeel.order⟩
    · rw [htr] at hjournal
      obtain ⟨events', hjournal', hwithin', horder'⟩ := ih r'
      refine ⟨events ++ events', ?_, fun k hk => ?_, fun hnodup hdistinct => ?_⟩
      · rw [hjournal', hjournal, List.append_assoc]
      · rw [deletesOf_append] at hk
        rcases List.mem_append.1 hk with hk | hk
        · exact hwithin k hk
        · obtain ⟨b, hb, hP⟩ := hwithin' k hk
          exact ⟨b, List.mem_cons_of_mem _ hb, hP⟩
      · rw [List.map_cons, List.nodup_cons] at hnodup
        obtain ⟨hfirst, hlater⟩ := List.forall_mem_append.1 hdistinct
        rw [deletesOf_append]
        refine List.pairwise_append.2 ⟨hpeel.order hfirst, horder' hnodup.2 hlater, ?_⟩
        intro x hx y hy
        obtain ⟨b, hb, hy⟩ := hwithin' y hy
        have hname : name a ≠ name b := fun heq =>
          hnodup.1 (heq ▸ List.mem_map_of_mem hb)
        exact happart _ _ hname x y (hpeel.within x hx) hy

/-- A task for each object that was found. -/
theorem found {P : String → Address → Prop} {t : Task σ (List Resource)}
    {f : Resource → Task σ Unit} (ht : t.FindsDistinct) (hf : ∀ a, Peels (P a.id) (f a))
    (happart : ∀ i j, i ≠ j → ∀ x y, P i x → P j y → ¬ x.Encloses y) :
    Peels (fun k => ∃ i, P i k) (t >>= fun found => Task.each found f) := by
  intro r
  obtain ⟨events, hjournal, hnone, hids⟩ := ht r
  rw [bind_apply]
  rcases htr : t r with ⟨e | found, r'⟩
  · rw [htr] at hjournal
    exact ⟨events, hjournal, .of_none hnone⟩
  · rw [htr] at hjournal
    obtain ⟨events', hjournal', hwithin, horder⟩ := each_named hf happart found r'
    refine ⟨events ++ events', by rw [hjournal', hjournal, List.append_assoc], ?_⟩
    have hdeletes : deletesOf (events ++ events') = deletesOf events' := by
      rw [deletesOf_append, hnone, List.nil_append]
    constructor
    · intro k hk
      obtain ⟨a, -, hP⟩ := hwithin k (hdeletes ▸ hk)
      exact ⟨a.id, hP⟩
    · intro hdistinct
      obtain ⟨hfirst, hlater⟩ := List.forall_mem_append.1 hdistinct
      rw [hdeletes]
      exact horder (hids found (by rw [htr]) hfirst) hlater

end Peels

theorem FindsDistinct.peels {t : Task σ (List Resource)} (h : t.FindsDistinct) : Peels P t := by
  intro r
  obtain ⟨events, hjournal, hnone, -⟩ := h r
  exact ⟨events, hjournal, .of_none hnone⟩

theorem Changes.peels {t : Task σ Unit} {event : σ → Event} {after : σ → σ}
    (h : t.Changes event after) (hevent : ∀ x, Peeling P [event x]) : Peels P t := by
  intro r
  obtain ⟨log, hrun⟩ := h r
  exact ⟨[event r.backend], by rw [hrun], hevent r.backend⟩

theorem Reads.peels {t : Task σ (List Resource)} {operation : σ → Answer (List Resource) × σ}
    {event : Answer (List Resource) → Event} (h : t.Reads operation event)
    (hevent : ∀ answer, deletesOf [event answer] = []) : Peels P t := by
  intro r
  obtain ⟨log, hrun⟩ := h r
  exact ⟨[event (operation r.backend).1], by rw [hrun], .of_none (hevent _)⟩

/-- A task that asks for a list finds what the list holds. -/
theorem Reads.findsDistinct {t : Task σ (List Resource)}
    {operation : σ → Answer (List Resource) × σ}
    {kind : Kind} {parents : List String} (h : t.Reads operation (.listed kind parents)) :
    t.FindsDistinct := by
  intro r
  obtain ⟨log, hrun⟩ := h r
  rw [hrun]
  refine ⟨[.listed kind parents (operation r.backend).1], rfl, rfl, ?_⟩
  intro found hfound hdistinct
  have hlist := hdistinct _ (List.mem_singleton_self _)
  dsimp only at hfound
  split at hfound
  · cases hfound
  · obtain rfl := Except.ok.inj hfound
    cases hanswer : (operation r.backend).1 with
    | ok all => rwa [hanswer] at hlist
    | error e => exact List.nodup_nil

end Task

/-! ## The procedures -/

namespace Setting

variable {σ : Type} (s : Setting σ) {kind : Kind} {parents : List String} {id : String}
  {rules : List Narrowing}

theorem findsDistinct_selectOwned {t : Task σ (List Resource)} (h : t.FindsDistinct) :
    (t >>= s.selectOwned kind rules).FindsDistinct := by
  intro r
  obtain ⟨events, hjournal, hnone, hids⟩ := h r
  rw [Task.bind_apply]
  rcases htr : t r with ⟨e | all, r'⟩
  · rw [htr] at hjournal
    exact ⟨events, hjournal, hnone, fun found hfound => nomatch hfound⟩
  · rw [htr] at hjournal
    refine ⟨events, hjournal, hnone, fun found hfound hdistinct => ?_⟩
    obtain rfl : ownedAmong s.config.marker s.authority rules all = found :=
      Except.ok.inj hfound
    exact (hids all (by rw [htr]) hdistinct).sublist (List.filter_sublist.map _)

theorem findsDistinct_findOwned (hplace : kind.parent? = none) :
    (s.findOwned kind parents rules).FindsDistinct :=
  s.findsDistinct_selectOwned (s.list_reads hplace).findsDistinct

theorem findsDistinct_findOwnedOrNone (hplace : kind.parent?.isSome = true) :
    (s.findOwnedOrNone kind parents rules).FindsDistinct :=
  s.findsDistinct_selectOwned (s.listOrNone_reads hplace).findsDistinct

theorem peels_deleteOwned (kind : Kind) (parents : List String) (id : String) :
    Task.Peels (· = { kind, parents, id }) (s.deleteOwned kind parents id) := by
  intro r
  obtain ⟨answer, log, result, report, -, hrun, -⟩ := s.deleteOwned_effect kind parents id r
  exact ⟨_, by rw [hrun], .deletion .owned answer⟩

theorem peels_deleteAuxiliary :
    Task.Peels (· = { kind, parents, id }) (s.deleteAuxiliary kind parents id) :=
  (s.deleteAuxiliary_changes kind parents id).peels fun _ => .deletion .auxiliary _

theorem peels_deleteShared :
    Task.Peels (· = { kind, parents, id }) (s.deleteShared kind parents id) :=
  (s.deleteShared_changes kind parents id).peels fun _ => .deletion .shared _

/-- What is inside the same parents is apart, however often it is deleted. -/
theorem peels_deleteContained (hplace : kind.parent?.isSome = true) :
    Task.Peels (fun k => k.parents = parents) (s.deleteContained kind parents) := by
  have hflat : ∀ x y : Address, x.parents = parents → y.parents = parents → ¬ x.Encloses y := by
    rintro x y rfl hy
    exact Address.not_encloses_of_length_le (by rw [hy])
  refine (s.listOrNone_reads hplace).findsDistinct.peels.seq (fun found => ?_) hflat
  refine .each (fun r _ => s.peels_deleteAuxiliary.mono ?_) hflat
  rintro k rfl
  rfl

theorem peels_deletePort (segment port : Resource) :
    Task.Peels (Address.Under [segment.id, port.id]) (s.deletePort segment port) := by
  have hbindings : ∀ kind ∈ Kind.portBindings, kind.parent?.isSome = true := by decide
  have hinner : Task.Peels (fun k => k.parents = [segment.id, port.id])
      (Task.each Kind.portBindings fun kind => s.deleteContained kind [segment.id, port.id]) := by
    refine .each (fun kind hkind => s.peels_deleteContained (hbindings kind hkind)) ?_
    rintro x y hx hy
    exact Address.not_encloses_of_length_le (by rw [hx, hy])
  refine (hinner.bind (fun _ => s.peels_deleteOwned _ _ _) ?_).mono ?_
  · rintro x y hx rfl
    exact Address.not_encloses_of_length_le (by simp [hx])
  · rintro k (hk | rfl)
    · exact .inr ⟨[k.id], by rw [Address.trail, hk]⟩
    · exact .inr ⟨[], rfl⟩

theorem not_encloses_of_kinds {kinds : List Kind} (hkinds : ∀ kind ∈ kinds, kind.Solitary)
    (x y : Address) (hx : x.kind ∈ kinds) (_ : y.kind ∈ kinds) : ¬ x.Encloses y :=
  Address.not_encloses_of_solitary (.inl (hkinds _ hx))

theorem peels_deleteDhcpPorts (segment : Resource) :
    Task.Peels (fun k => k.kind ∈ [Kind.logicalPort]) (s.deleteDhcpPorts segment) := by
  have hlone : ∀ kind ∈ [Kind.logicalPort], kind.Solitary := by decide
  have hflat := not_encloses_of_kinds hlone
  refine ((s.findDhcpPorts_reads segment).peels fun _ => rfl).seq (fun found => ?_) hflat
  refine .each (fun port _ => ?_) hflat
  split
  · refine s.peels_deleteAuxiliary.mono ?_
    rintro k rfl
    exact List.mem_singleton_self _
  · exact .of_quiet fun _ => rfl

theorem peels_sweepFirewall (tag : TagPredicate) :
    Task.Peels (fun k => k.kind ∈ Plan.firewallKinds) (s.sweepFirewall tag) := by
  have hlone : ∀ kind ∈ Plan.firewallKinds, kind.Solitary := by decide
  have hflat := not_encloses_of_kinds hlone
  have hother : ∀ kind ∈ Plan.firewallKinds, kind ≠ .logicalPort := by decide
  rw [sweepFirewall_eq]
  refine .each (fun kind hkind => ?_) hflat
  refine ((s.searchAll_reads (hother kind hkind)).peels fun _ => rfl).seq (fun found => ?_) hflat
  refine .each (fun r _ => s.peels_deleteShared.mono ?_) hflat
  rintro k rfl
  exact hkind

theorem peels_deleteSegment (segment : Resource) :
    Task.Peels (Address.Under [segment.id]) (s.deleteSegment segment) := by
  have hports : Task.Peels (fun k => ∃ port, Address.Under [segment.id, port] k)
      (s.findOwnedOrNone .segmentPort [segment.id] [.id .ports, .id .portMappings] >>= fun ports =>
        Task.each ports (s.deletePort segment)) :=
    .found (s.findsDistinct_findOwnedOrNone rfl) (s.peels_deletePort segment)
      fun _ _ hij _ _ hx hy => hx.not_encloses [segment.id] hij hy
  have hdhcp : Task.Peels (fun k => k.kind ∈ [Kind.logicalPort])
      (if s.backend.allowsPassthrough then s.deleteDhcpPorts segment else pure ()) := by
    split
    · exact s.peels_deleteDhcpPorts segment
    · exact .of_quiet fun _ => rfl
  have hlone : ∀ kind ∈ [Kind.logicalPort], kind.Solitary := by decide
  have hunder : ∀ k : Address, (∃ port, k.Under [segment.id, port]) → k.Under [segment.id] := by
    rintro k ⟨port, hk | hk⟩
    · exact .inl hk
    · exact .inr ((List.prefix_append [segment.id] [port]).trans hk)
  have hlast := hdhcp.bind (fun _ => s.peels_deleteOwned .segment [] segment.id)
    fun x y hx _ => Address.not_encloses_of_solitary (.inl (hlone _ hx))
  rw [deleteSegment_eq]
  refine (hports.bind (fun _ => hlast) ?_).mono ?_
  · rintro x y hx (hy | rfl)
    · exact Address.not_encloses_of_solitary (.inr (hlone _ hy))
    · have houter : x.Under (Address.trail { kind := .segment, parents := [], id := segment.id }) :=
        hunder x hx
      exact houter.not_encloses_outer
  · rintro k (hk | hk | rfl)
    · exact hunder k hk
    · exact .inl (hlone _ hk)
    · exact .inr ⟨[], rfl⟩

theorem peels_deleteRouter (router : Resource) :
    Task.Peels (Address.Under [router.id]) (s.deleteRouter router) := by
  have hlone : ∀ kind ∈ Plan.firewallKinds, kind.Solitary := by decide
  have hflat := not_encloses_of_kinds hlone
  have hparts : ∀ kind ∈ routerParts, kind.parent?.isSome = true := by decide
  have hinner : Task.Peels (fun k => k.parents = [router.id])
      (Task.each routerParts fun kind => s.deleteContained kind [router.id]) := by
    refine .each (fun kind hkind => s.peels_deleteContained (hparts kind hkind)) ?_
    rintro x y hx hy
    exact Address.not_encloses_of_length_le (by rw [hx, hy])
  have hpolicy : Task.Peels (fun k => k.kind ∈ Plan.firewallKinds)
      (s.deleteShared .gatewayPolicy [s.config.domain] router.id) := by
    refine s.peels_deleteShared.mono ?_
    rintro k rfl
    exact List.mem_cons_self
  have hwhole := hinner.bind (fun _ => s.peels_deleteOwned .tier1 [] router.id)
    fun x y hx hy => Address.not_encloses_of_length_le (by simp [hx, hy])
  have htail := (s.peels_sweepFirewall (.exact routerScope router.id)).bind (fun _ => hwhole)
    fun x y hx _ => Address.not_encloses_of_solitary (.inl (hlone _ hx))
  refine (hpolicy.bind (fun _ => htail) ?_).mono ?_
  · exact fun x y hx _ => Address.not_encloses_of_solitary (.inl (hlone _ hx))
  · rintro k (hk | hk | hk | rfl)
    · exact .inl (hlone _ hk)
    · exact .inl (hlone _ hk)
    · exact .inr ⟨[k.id], by rw [Address.trail, hk]⟩
    · exact .inr ⟨[], rfl⟩

theorem peels_sweepSegments :
    Task.Peels (fun k => ∃ segment, Address.Under [segment] k) s.sweepSegments :=
  .found (s.findsDistinct_findOwned rfl) s.peels_deleteSegment
    fun _ _ hij _ _ hx hy => hx.not_encloses [] hij hy

theorem peels_sweepTier1Routers :
    Task.Peels (fun k => ∃ router, Address.Under [router] k) s.sweepTier1Routers :=
  .found (s.findsDistinct_findOwned rfl) s.peels_deleteRouter
    fun _ _ hij _ _ hx hy => hx.not_encloses [] hij hy

end Setting

end Cleanup

/-! ## Categories and runs -/

theorem Category.mem_kinds_iff {category : Category} {kind : Kind} : kind ∈ category.kinds ↔
    ∃ step ∈ Plan.standard.steps, step.category = category ∧ kind ∈ step.kinds := by
  simp [Category.kinds, and_assoc]

theorem Category.mem_altered_iff {category : Category} {kind : Kind} : kind ∈ category.altered ↔
    category = .segmentInterfaces ∧ kind = .segment ∨ category = .dhcp ∧ kind = .logicalPort := by
  cases category <;> simp [Category.altered]

def Category.Flat (category : Category) : Prop :=
  ∀ outer ∈ category.kinds, ∀ inner ∈ category.kinds, outer ∉ inner.around

instance (category : Category) : Decidable category.Flat :=
  inferInstanceAs (Decidable (∀ outer ∈ category.kinds, ∀ inner ∈ category.kinds,
    outer ∉ inner.around))

theorem Category.flat_of_ne {category : Category} (hsegments : category ≠ .segments)
    (hrouters : category ≠ .tier1Routers) : category.Flat := by
  cases category <;> first | decide | contradiction

/-- No step deletes anything inside what an earlier one does. -/
def Plan.Outward (steps : List Plan.Step) : Prop :=
  steps.Pairwise fun first later => ∀ outer ∈ first.category.kinds,
    ∀ inner ∈ later.category.kinds, outer ∉ inner.around

instance (steps : List Plan.Step) : Decidable (Plan.Outward steps) :=
  inferInstanceAs (Decidable (List.Pairwise _ steps))

theorem Plan.standard_outward : Plan.Outward Plan.standard.steps := by decide

namespace Sweep

variable {σ : Type} (c : Sweep σ)

theorem kind_of_deleted {category : Category} {t : Trace σ} {k : Address}
    (h : k ∈ deletesOf (c.eventsOf category t)) : k.kind ∈ category.kinds := by
  obtain ⟨role, answer, hmem⟩ := mem_deletesOf h
  exact (c.permits_of_mem_eventsOf hmem).2

/-- What a procedure peels, the cleanup of its category does. -/
theorem insideFirst_of_peels {category : Category} {P : Address → Prop}
    (h : Task.Peels P ((c.setting category).sweep category)) {t : Trace σ}
    (hdistinct : ∀ event ∈ c.eventsOf category t, event.Distinct) :
    InsideFirst (deletesOf (c.eventsOf category t)) := by
  obtain ⟨events, hjournal, hpeel⟩ := h (c.begun category t)
  have hevents : c.eventsOf category t = events := by
    refine eventsOf_eq ?_
    rw [sweepCategory_eq]
    rcases hrun : (c.setting category).sweep category (c.begun category t) with ⟨e | ⟨⟩, r⟩
    · rwa [hrun] at hjournal
    · rwa [hrun] at hjournal
  rw [hevents] at hdistinct ⊢
  exact hpeel.order hdistinct

theorem sweepCategory_peels (category : Category) (t : Trace σ) :
    Peeling (fun k => k.kind ∈ category.kinds) (c.eventsOf category t) where
  within _ := c.kind_of_deleted
  order hdistinct := by
    by_cases hsegments : category = .segments
    · subst hsegments
      exact c.insideFirst_of_peels (c.setting .segments).peels_sweepSegments hdistinct
    by_cases hrouters : category = .tier1Routers
    · subst hrouters
      exact c.insideFirst_of_peels (c.setting .tier1Routers).peels_sweepTier1Routers hdistinct
    · have hflat := Category.flat_of_ne hsegments hrouters
      refine List.pairwise_of_forall_mem_list fun outer houter inner hinner hinside => ?_
      exact hflat _ (c.kind_of_deleted houter) _ (c.kind_of_deleted hinner) hinside.kind_around

theorem runSteps_peels {steps : List Plan.Step} (houtward : Plan.Outward steps) (t : Trace σ) :
    ∃ events, (c.runSteps steps t).2.journal = t.journal ++ events ∧
      Peeling (fun k => ∃ step ∈ steps, k.kind ∈ step.category.kinds) events := by
  induction steps generalizing t with
  | nil => exact ⟨[], (List.append_nil _).symm, .of_none rfl⟩
  | cons step steps ih =>
    obtain ⟨hfirst, hrest⟩ := List.pairwise_cons.1 houtward
    have hjournal := c.sweepCategory_journal step.category t
    have hpeel := c.sweepCategory_peels step.category t
    rcases hrun : c.sweepCategory step.category t with ⟨e | report, t'⟩
    · refine ⟨c.eventsOf step.category t, ?_, hpeel.mono fun k hk => ⟨step, List.mem_cons_self, hk⟩⟩
      simp only [runSteps, hrun]
      rwa [hrun] at hjournal
    · obtain ⟨events, hjournal', hpeel'⟩ := ih hrest t'
      refine ⟨c.eventsOf step.category t ++ events, ?_, (hpeel.append hpeel' ?_).mono ?_⟩
      · rw [hrun] at hjournal
        rw [runSteps_of_ok hrun, hjournal', hjournal, List.append_assoc]
      · rintro x y hx ⟨later, hlater, hy⟩ hinside
        exact hfirst later hlater _ hx _ hy hinside.kind_around
      · rintro k (hk | ⟨later, hlater, hk⟩)
        · exact ⟨step, List.mem_cons_self, hk⟩
        · exact ⟨later, List.mem_cons_of_mem _ hlater, hk⟩

theorem sweepAll_peels (houtward : Plan.Outward c.plan.steps) (t : Trace σ) :
    ∃ events, (c.sweepAll t).2.journal = t.journal ++ events ∧
      Peeling (fun k => ∃ step ∈ c.plan.steps, k.kind ∈ step.category.kinds) events := by
  rw [sweepAll_journal]
  exact c.runSteps_peels houtward (noted c.starting t)

theorem kind_of_call {category : Category} {t : Trace σ} {call : Call}
    (h : call ∈ (c.eventsOf category t).filterMap Event.call?) :
    (∀ kind parents id, call = .delete kind parents id → kind ∈ category.kinds) ∧
    ∀ kind parents id body, call = .patch kind parents id body → kind ∈ category.altered := by
  obtain ⟨event, hevent, hcall⟩ := List.mem_filterMap.1 h
  have hpermits := c.permits_of_mem_eventsOf hevent
  rcases event with _ | _ | ⟨role, target, _ | answer⟩ | ⟨target, body, _ | answer⟩
  case deletion.some =>
    obtain rfl := Option.some.inj hcall
    refine ⟨?_, nofun⟩
    rintro kind parents id ⟨⟩
    exact hpermits.2
  case update.some =>
    obtain rfl := Option.some.inj hcall
    refine ⟨nofun, ?_⟩
    rintro kind parents id body ⟨⟩
    exact hpermits.2
  case deletion.none | update.none => cases hcall
  all_goals
    obtain rfl := Option.some.inj hcall
    exact ⟨nofun, nofun⟩

/-- Whatever the backend answers: a category asks for deletes only of the kinds that its step of the
standard plan lists, and for updates only of segments as it takes them off their routers, and of
logical ports as it detaches them from DHCP.  And unless a list that a whole run is answered gives
an id twice, the run never asks for the delete of an object after asking for the delete of one that
it lies in. -/
theorem deletes_go_inside_first (b : Backend σ) (authority : Option Knowledge) (config : Config) :
    (∀ plan category (t : Trace (σ × List Call)),
      let c : Sweep (σ × List Call) := { backend := b.recorded, authority, config, plan }
      ∃ new, (c.sweepCategory category t).2.backend.2 = t.backend.2 ++ new ∧
        (∀ kind parents id, .delete kind parents id ∈ new →
          ∃ step ∈ Plan.standard.steps, step.category = category ∧ kind ∈ step.kinds) ∧
        ∀ kind parents id body, .patch kind parents id body ∈ new →
          category = .segmentInterfaces ∧ kind = .segment ∨
          category = .dhcp ∧ kind = .logicalPort) ∧
    ∀ t : Trace (σ × List Call),
      let t' := ((standard b.recorded authority config).sweepAll t).2
      ∃ events, t'.journal = t.journal ++ events ∧
        t'.backend.2 = t.backend.2 ++ events.filterMap Event.call? ∧
        ((∀ event ∈ events, event.Distinct) → InsideFirst (deletesOf events)) := by
  refine ⟨fun plan category t => ?_, fun t => ?_⟩
  · let c : Sweep (σ × List Call) := { backend := b.recorded, authority, config, plan }
    refine ⟨_, sweepCategory_calls (c := c) rfl category t, fun kind parents id hmem => ?_,
      fun kind parents id body hmem => ?_⟩
    · exact Category.mem_kinds_iff.1 ((c.kind_of_call hmem).1 kind parents id rfl)
    · exact Category.mem_altered_iff.1 ((c.kind_of_call hmem).2 kind parents id body rfl)
  · let c := standard b.recorded authority config
    obtain ⟨events, hjournal, hcalls⟩ := (sweep_inStep (c := c) rfl t).2
    obtain ⟨events', hjournal', hpeel⟩ := c.sweepAll_peels Plan.standard_outward t
    obtain rfl := List.append_cancel_left (hjournal.symm.trans hjournal')
    exact ⟨events, hjournal, hcalls, hpeel.order⟩

/-- In a whole cleanup of the shared store every list gives each id once, and a router goes after
its rule. -/
theorem shared_rule_goes_before_router :
    let t' := ((standard (Store.backend false).recorded none .default).sweepAll
      (.start (Store.shared, []))).2
    (∀ event ∈ t'.journal, event.Distinct) ∧ InsideFirst (deletesOf t'.journal) ∧
      [{ kind := .tier1NatRule, parents := ["ours"], id := "rule" },
        { kind := .tier1, parents := [], id := "ours" }].Sublist (deletesOf t'.journal) := by
  intro t'
  obtain ⟨events, hjournal, -, horder⟩ :=
    (deletes_go_inside_first (Store.backend false) none .default).2 (.start (Store.shared, []))
  obtain rfl : t'.journal = events := hjournal
  have hdistinct : ∀ event ∈ t'.journal, event.Distinct := by decide +kernel
  exact ⟨hdistinct, horder hdistinct, by decide +kernel⟩

end Sweep

end NetSweep
