import Mathlib.Data.List.Chain
import Mathlib.Data.List.Nodup
import NetSweep.Plan

/-!
# What the check of a plan decides

The check goes through every deletion and looks for its dependencies among the later ones, though a
kind may be deleted several times.  What it decides is about last deletions only: in an accepted
plan each kind is deleted for the last time before its dependencies are, and so along chains of
them.  What it refuses it refuses for the first fault: a category that has come before, or else a
deletion after which one of its dependencies is not deleted any more.
-/

namespace NetSweep.Plan

variable {p : Plan} {l : List Kind} {k d e : Kind} {i j : Nat}

/-! ## Last deletions -/

/-- The kinds that the plan deletes, in order, each as often as it is deleted. -/
def kinds (p : Plan) : List Kind := p.order.map Prod.snd

def LastAt (l : List Kind) (k : Kind) (i : Nat) : Prop :=
  l[i]? = some k ∧ ∀ j, i < j → l[j]? ≠ some k

/-- Both kinds are in the list, and the last place of the first is before that of the second. -/
def LastBefore (l : List Kind) (k d : Kind) : Prop :=
  ∃ i j, LastAt l k i ∧ LastAt l d j ∧ i < j

theorem LastAt.le (h : LastAt l k i) (hj : l[j]? = some k) : j ≤ i :=
  Nat.le_of_not_lt fun hlt => h.2 j hlt hj

theorem LastAt.unique (hi : LastAt l k i) (hj : LastAt l k j) : i = j :=
  Nat.le_antisymm (hj.le hi.1) (hi.le hj.1)

theorem exists_lastAt (h : k ∈ l) : ∃ i, LastAt l k i := by
  induction l with
  | nil => cases h
  | cons x l ih =>
    by_cases hk : k ∈ l
    · obtain ⟨i, hi, hlast⟩ := ih hk
      refine ⟨i + 1, hi, fun j hj => ?_⟩
      obtain ⟨j, rfl⟩ := Nat.exists_eq_add_one_of_ne_zero (Nat.ne_zero_of_lt hj)
      exact hlast j (Nat.lt_of_succ_lt_succ hj)
    · obtain rfl : k = x := (List.mem_cons.1 h).resolve_right hk
      refine ⟨0, rfl, fun j hj hget => hk ?_⟩
      obtain ⟨j, rfl⟩ := Nat.exists_eq_add_one_of_ne_zero (Nat.ne_zero_of_lt hj)
      exact List.mem_of_getElem? hget

theorem LastBefore.trans (h : LastBefore l k d) (h' : LastBefore l d e) : LastBefore l k e := by
  obtain ⟨i, j, hi, hj, hlt⟩ := h
  obtain ⟨j', m, hj', hm, hlt'⟩ := h'
  obtain rfl := hj.unique hj'
  exact ⟨i, m, hi, hm, hlt.trans hlt'⟩

instance : Trans (LastBefore l) (LastBefore l) (LastBefore l) := ⟨LastBefore.trans⟩

theorem mem_drop_iff_getElem? : d ∈ l.drop i ↔ ∃ j, i ≤ j ∧ l[j]? = some d := by
  rw [List.mem_iff_getElem?]
  constructor
  · rintro ⟨n, hn⟩
    exact ⟨i + n, Nat.le_add_right i n, List.getElem?_drop.symm.trans hn⟩
  · rintro ⟨j, hij, hj⟩
    refine ⟨j - i, ?_⟩
    rwa [List.getElem?_drop, Nat.add_sub_cancel' hij]

/-- It comes to the same whether every deletion is followed by its dependencies or only the last
one of each kind. -/
theorem followed_iff_lastBefore :
    (∀ i k d, l[i]? = some k → d ∈ k.dependencies → d ∈ l → d ∈ l.drop (i + 1)) ↔
      ∀ k d, d ∈ k.dependencies → k ∈ l → d ∈ l → LastBefore l k d := by
  constructor
  · intro h k d hdep hk hd
    obtain ⟨i, hi⟩ := exists_lastAt hk
    obtain ⟨j, hj⟩ := exists_lastAt hd
    obtain ⟨m, hm, hget⟩ := mem_drop_iff_getElem?.1 (h i k d hi.1 hdep hd)
    exact ⟨i, j, hi, hj, Nat.lt_of_succ_le (hm.trans (hj.le hget))⟩
  · intro h i k d hget hdep hd
    obtain ⟨m, j, hm, hj, hlt⟩ := h k d hdep (List.mem_of_getElem? hget) hd
    exact mem_drop_iff_getElem?.2 ⟨j, Nat.succ_le_of_lt ((hm.le hget).trans_lt hlt), hj.1⟩

/-! ## Repeated categories -/

/-- The category of this step is also that of an earlier one. -/
def Recurs (p : Plan) (i : Nat) (c : Category) : Prop :=
  (p.steps.map Step.category)[i]? = some c ∧ c ∈ (p.steps.map Step.category).take i

theorem repeated?_eq_none_iff {seen cs : List Category} :
    repeated? seen cs = none ↔ cs.Nodup ∧ ∀ c ∈ cs, c ∉ seen := by
  induction cs generalizing seen with
  | nil => simp [repeated?]
  | cons c cs ih =>
    rw [repeated?]
    by_cases hc : c ∈ seen
    · simp [hc]
    · rw [if_neg hc, ih, List.nodup_cons, List.forall_mem_cons]
      constructor
      · rintro ⟨hnodup, hseen⟩
        have hfresh : ∀ x ∈ cs, x ≠ c ∧ x ∉ seen := fun x hx => by simpa using hseen x hx
        exact ⟨⟨fun hmem => (hfresh c hmem).1 rfl, hnodup⟩, hc, fun x hx => (hfresh x hx).2⟩
      · rintro ⟨⟨hfresh, hnodup⟩, -, hseen⟩
        refine ⟨hnodup, fun x hx hmem => ?_⟩
        rcases List.mem_cons.1 hmem with rfl | hmem
        · exact hfresh hx
        · exact hseen x hx hmem

/-- What is found is at the first place that has a category from before. -/
theorem repeated?_some_spec {seen cs : List Category} {c : Category}
    (h : repeated? seen cs = some c) :
    ∃ i, cs[i]? = some c ∧ (c ∈ seen ∨ c ∈ cs.take i) ∧
      ∀ j x, cs[j]? = some x → x ∈ seen ∨ x ∈ cs.take j → i ≤ j := by
  induction cs generalizing seen with
  | nil => cases h
  | cons y cs ih =>
    rw [repeated?] at h
    by_cases hy : y ∈ seen
    · rw [if_pos hy] at h
      obtain rfl := Option.some.inj h
      exact ⟨0, rfl, .inl hy, fun j _ _ _ => Nat.zero_le j⟩
    · rw [if_neg hy] at h
      obtain ⟨i, hget, hbefore, hfirst⟩ := ih h
      have hmoved : ∀ {x : Category} {n : Nat}, x ∈ y :: seen ∨ x ∈ cs.take n ↔
          x ∈ seen ∨ x ∈ (y :: cs).take (n + 1) := fun {x n} => by
        rw [List.take_succ_cons, List.mem_cons, List.mem_cons, or_assoc, or_left_comm]
      refine ⟨i + 1, hget, hmoved.1 hbefore, fun j x hj hx => ?_⟩
      cases j with
      | zero =>
        obtain rfl := Option.some.inj hj
        exact absurd hx (by simp [hy])
      | succ j => exact Nat.succ_le_succ (hfirst j x hj (hmoved.2 hx))

theorem not_recurs_of_nodup {c : Category} (h : (p.steps.map Step.category).Nodup) :
    ¬ p.Recurs i c := by
  rintro ⟨hget, hmem⟩
  obtain ⟨j, hj, hjget⟩ := List.mem_take_iff_getElem.1 hmem
  obtain ⟨hji, hjlength⟩ := Nat.lt_min.1 hj
  obtain ⟨hi, -⟩ := List.getElem?_eq_some_iff.1 hget
  refine List.nodup_iff_getElem?_ne_getElem?.1 h j i hji hi ?_
  rw [hget, List.getElem?_eq_getElem hjlength, hjget]

/-! ## Deletions that come too late -/

/-- The kind at this place of the order has a dependency, at this place among them, that is one of
the kinds but not among those of later places. -/
def Misses (kinds : List Kind) (order : List (Category × Kind)) (i n : Nat) (c : Category)
    (k d : Kind) : Prop :=
  order[i]? = some (c, k) ∧ k.dependencies[n]? = some d ∧
    d ∈ kinds ∧ d ∉ (order.drop (i + 1)).map Prod.snd

section Order

variable {kinds : List Kind} {later : List (Category × Kind)} {c c' : Category} {k' : Kind}
  {n : Nat}

theorem misses_zero : Misses kinds ((c, k) :: later) 0 n c' k' d ↔
    (c = c' ∧ k = k') ∧ k'.dependencies[n]? = some d ∧ d ∈ kinds ∧ d ∉ later.map Prod.snd := by
  rw [Misses, List.getElem?_cons_zero, Option.some.injEq, Prod.mk.injEq, List.drop_succ_cons,
    List.drop_zero]

theorem misses_succ {x : Category × Kind} :
    Misses kinds (x :: later) (i + 1) n c k d ↔ Misses kinds later i n c k d := by
  rw [Misses, List.getElem?_cons_succ, List.drop_succ_cons, Misses]

theorem find?_late_eq_none
    (h : k.dependencies.find? (fun d => d ∈ kinds ∧ d ∉ later.map Prod.snd) = none) :
    ¬ Misses kinds ((c, k) :: later) 0 n c' k' d := by
  rw [misses_zero]
  rintro ⟨⟨-, rfl⟩, hdep, hkinds, hlater⟩
  exact List.find?_eq_none.1 h d (List.mem_of_getElem? hdep) (decide_eq_true ⟨hkinds, hlater⟩)

theorem find?_late_eq_some
    (h : k.dependencies.find? (fun d => d ∈ kinds ∧ d ∉ later.map Prod.snd) = some d) :
    ∃ n, Misses kinds ((c, k) :: later) 0 n c k d ∧
      ∀ n' c' k' d', Misses kinds ((c, k) :: later) 0 n' c' k' d' → n ≤ n' := by
  obtain ⟨hlate, n, hn, hget, hfirst⟩ := List.find?_eq_some_iff_getElem.1 h
  obtain ⟨hkinds, hlater⟩ := of_decide_eq_true hlate
  refine ⟨n, misses_zero.2 ⟨⟨rfl, rfl⟩, ?_, hkinds, hlater⟩, fun n' c' k' d' hmiss => ?_⟩
  · rw [List.getElem?_eq_getElem hn, hget]
  · obtain ⟨⟨-, rfl⟩, hdep, hkinds', hlater'⟩ := misses_zero.1 hmiss
    refine Nat.le_of_not_lt fun hlt => ?_
    have hearlier := hfirst n' hlt
    obtain ⟨hn', rfl⟩ := List.getElem?_eq_some_iff.1 hdep
    rw [decide_eq_true ⟨hkinds', hlater'⟩] at hearlier
    cases hearlier

theorem misplaced?_eq_none_iff {order : List (Category × Kind)} :
    misplaced? kinds order = none ↔ ∀ i n c k d, ¬ Misses kinds order i n c k d := by
  induction order with
  | nil => simp [misplaced?, Misses]
  | cons x later ih =>
    obtain ⟨c, k⟩ := x
    rw [misplaced?]
    split
    · rename_i d hfind
      obtain ⟨n, hmiss, -⟩ := find?_late_eq_some (c := c) hfind
      exact iff_of_false (Option.some_ne_none _) fun h => h 0 n c k d hmiss
    · rename_i hfind
      rw [ih]
      constructor
      · rintro h (_ | i) n c' k' d hmiss
        · exact find?_late_eq_none hfind hmiss
        · exact h i n c' k' d (misses_succ.1 hmiss)
      · intro h i n c' k' d hmiss
        exact h (i + 1) n c' k' d (misses_succ.2 hmiss)

/-- What is found is at the first place that misses a dependency, and is the first one missed. -/
theorem misplaced?_some_spec {order : List (Category × Kind)} {refusal : Refusal}
    (h : misplaced? kinds order = some refusal) :
    ∃ i n c k d, refusal = .outOfOrder c k d ∧ Misses kinds order i n c k d ∧
      ∀ i' n' c' k' d', Misses kinds order i' n' c' k' d' → i < i' ∨ i = i' ∧ n ≤ n' := by
  induction order with
  | nil => cases h
  | cons x later ih =>
    obtain ⟨c, k⟩ := x
    rw [misplaced?] at h
    split at h
    · rename_i d hfind
      obtain rfl := Option.some.inj h
      obtain ⟨n, hmiss, hfirst⟩ := find?_late_eq_some (c := c) hfind
      refine ⟨0, n, c, k, d, rfl, hmiss, ?_⟩
      rintro (_ | i') n' c' k' d' hmiss'
      · exact .inr ⟨rfl, hfirst n' c' k' d' hmiss'⟩
      · exact .inl (Nat.succ_pos i')
    · rename_i hfind
      obtain ⟨i, n, c, k, d, hrefusal, hmiss, hfirst⟩ := ih h
      refine ⟨i + 1, n, c, k, d, hrefusal, misses_succ.2 hmiss, ?_⟩
      rintro (_ | i') n' c' k' d' hmiss'
      · exact absurd hmiss' (find?_late_eq_none hfind)
      · rcases hfirst i' n' c' k' d' (misses_succ.1 hmiss') with hlt | ⟨rfl, hle⟩
        · exact .inl (Nat.succ_lt_succ hlt)
        · exact .inr ⟨rfl, hle⟩

end Order

/-! ## The check -/

/-- A plan is refused for a repeated category, or else for a deletion that comes too late, or it is
accepted. -/
theorem check_cases (p : Plan) :
    (∃ c, repeated? [] (p.steps.map Step.category) = some c ∧
      p.check = .error (.duplicateCategory c)) ∨
    repeated? [] (p.steps.map Step.category) = none ∧
      ((∃ refusal, misplaced? p.kinds p.order = some refusal ∧ p.check = .error refusal) ∨
        misplaced? p.kinds p.order = none ∧ p.check = .ok ()) := by
  cases hrepeated : repeated? [] (p.steps.map Step.category) with
  | some c => exact .inl ⟨c, rfl, by simp only [check, hrepeated]⟩
  | none =>
    cases hmisplaced : misplaced? (p.order.map Prod.snd) p.order with
    | some refusal =>
      exact .inr ⟨rfl, .inl ⟨refusal, hmisplaced, by simp only [check, hrepeated, hmisplaced]⟩⟩
    | none => exact .inr ⟨rfl, .inr ⟨hmisplaced, by simp only [check, hrepeated, hmisplaced]⟩⟩

theorem exists_recurs {c : Category}
    (h : repeated? [] (p.steps.map Step.category) = some c) :
    ∃ i, p.Recurs i c ∧ ∀ j x, p.Recurs j x → i ≤ j := by
  obtain ⟨i, hget, hbefore, hfirst⟩ := repeated?_some_spec h
  exact ⟨i, ⟨hget, hbefore.resolve_left List.not_mem_nil⟩,
    fun j x hx => hfirst j x hx.1 (.inr hx.2)⟩

theorem repeated?_eq_none_iff_nodup : repeated? [] (p.steps.map Step.category) = none ↔
    (p.steps.map Step.category).Nodup := by
  rw [repeated?_eq_none_iff]
  exact and_iff_left fun _ _ => List.not_mem_nil

theorem misplaced?_eq_none_iff_lastBefore : misplaced? p.kinds p.order = none ↔
    ∀ k d, d ∈ k.dependencies → k ∈ p.kinds → d ∈ p.kinds → LastBefore p.kinds k d := by
  rw [misplaced?_eq_none_iff, ← followed_iff_lastBefore]
  constructor
  · intro h i k d hget hdep hd
    obtain ⟨⟨c, k'⟩, horder, rfl⟩ := Option.map_eq_some_iff.1 (List.getElem?_map.symm.trans hget)
    obtain ⟨n, hn⟩ := List.mem_iff_getElem?.1 hdep
    rw [kinds, ← List.map_drop]
    exact not_not.1 fun hlater => h i n c k' d ⟨horder, hn, hd, hlater⟩
  · rintro h i n c k d ⟨horder, hn, hd, hlater⟩
    have hget : p.kinds[i]? = some k := by rw [kinds, List.getElem?_map, horder, Option.map_some]
    rw [List.map_drop] at hlater
    exact hlater (h i k d hget (List.mem_of_getElem? hn) hd)

theorem check_eq_ok_iff : p.check = .ok () ↔ (p.steps.map Step.category).Nodup ∧
    ∀ k d, d ∈ k.dependencies → k ∈ p.kinds → d ∈ p.kinds → LastBefore p.kinds k d := by
  rw [← repeated?_eq_none_iff_nodup, ← misplaced?_eq_none_iff_lastBefore]
  rcases p.check_cases with ⟨c, hrepeated, hcheck⟩ |
    ⟨hrepeated, ⟨refusal, hmisplaced, hcheck⟩ | ⟨hmisplaced, hcheck⟩⟩
  · simp [hrepeated, hcheck]
  · simp [hrepeated, hmisplaced, hcheck]
  · simp [hrepeated, hmisplaced, hcheck]

theorem check_eq_duplicate_iff {c : Category} : p.check = .error (.duplicateCategory c) ↔
    ∃ i, p.Recurs i c ∧ ∀ j x, p.Recurs j x → i ≤ j := by
  constructor
  · intro h
    rcases p.check_cases with ⟨c', hrepeated, hcheck⟩ |
      ⟨-, ⟨refusal, hmisplaced, hcheck⟩ | ⟨-, hcheck⟩⟩
    · rw [hcheck] at h
      cases h
      exact exists_recurs hrepeated
    · obtain ⟨i, n, c', k, d, rfl, -⟩ := misplaced?_some_spec hmisplaced
      rw [hcheck] at h
      cases h
    · rw [hcheck] at h
      cases h
  · rintro ⟨i, hi, hfirst⟩
    rcases p.check_cases with ⟨c', hrepeated, hcheck⟩ | ⟨hnone, -⟩
    · -- both places are the first one
      obtain ⟨i', hi', hfirst'⟩ := exists_recurs hrepeated
      obtain rfl := Nat.le_antisymm (hfirst i' c' hi') (hfirst' i c hi)
      obtain rfl := Option.some.inj (hi.1.symm.trans hi'.1)
      exact hcheck
    · exact absurd hi (not_recurs_of_nodup (repeated?_eq_none_iff_nodup.1 hnone))

theorem check_eq_outOfOrder_iff {c : Category} :
    p.check = .error (.outOfOrder c k d) ↔ (p.steps.map Step.category).Nodup ∧
      ∃ i n, Misses p.kinds p.order i n c k d ∧
        ∀ i' n' c' k' d', Misses p.kinds p.order i' n' c' k' d' → i < i' ∨ i = i' ∧ n ≤ n' := by
  constructor
  · intro h
    rcases p.check_cases with ⟨c', -, hcheck⟩ |
      ⟨hnone, ⟨refusal, hmisplaced, hcheck⟩ | ⟨-, hcheck⟩⟩
    · rw [hcheck] at h
      cases h
    · obtain ⟨i, n, c', k', d', rfl, hspec⟩ := misplaced?_some_spec hmisplaced
      rw [hcheck] at h
      cases h
      exact ⟨repeated?_eq_none_iff_nodup.1 hnone, i, n, hspec⟩
    · rw [hcheck] at h
      cases h
  · rintro ⟨hnodup, i, n, hmiss, hfirst⟩
    rcases p.check_cases with ⟨c', hrepeated, -⟩ |
      ⟨-, ⟨refusal, hmisplaced, hcheck⟩ | ⟨hnone, -⟩⟩
    · rw [repeated?_eq_none_iff_nodup.2 hnodup] at hrepeated
      cases hrepeated
    · -- both places are the first one, and so are both dependencies
      obtain ⟨i', n', c', k', d', rfl, hmiss', hfirst'⟩ := misplaced?_some_spec hmisplaced
      have hi := hfirst i' n' c' k' d' hmiss'
      have hi' := hfirst' i n c k d hmiss
      obtain rfl : i = i' := by omega
      obtain rfl : n = n' := by omega
      obtain ⟨rfl, rfl⟩ := Prod.mk.inj (Option.some.inj (hmiss.1.symm.trans hmiss'.1))
      obtain rfl := Option.some.inj (hmiss.2.1.symm.trans hmiss'.2.1)
      exact hcheck
    · exact absurd hmiss (misplaced?_eq_none_iff.1 hnone i n c k d)

/-- A plan is accepted exactly if it has each category once and, of any two kinds of which one
depends on the other, deletes the dependent one for the last time before the other; in chains of
dependencies this is then so of any two kinds.  A plan that is not accepted is refused for the
first step whose category has come before, if there is one, and otherwise for the first deletion
that comes too late for a dependency, and the first such dependency. -/
theorem accepted_iff_leaves_first (p : Plan) :
    (p.check = .ok () ↔ (p.steps.map Step.category).Nodup ∧
      ∀ k d, d ∈ k.dependencies → k ∈ p.kinds → d ∈ p.kinds → LastBefore p.kinds k d) ∧
    (p.check = .ok () → ∀ chain : List Kind, chain.IsChain (fun k d => d ∈ k.dependencies) →
      (∀ k ∈ chain, k ∈ p.kinds) → chain.Pairwise (LastBefore p.kinds)) ∧
    (∀ c, p.check = .error (.duplicateCategory c) ↔
      ∃ i, p.Recurs i c ∧ ∀ j x, p.Recurs j x → i ≤ j) ∧
    ∀ c k d, p.check = .error (.outOfOrder c k d) ↔ (p.steps.map Step.category).Nodup ∧
      ∃ i n, Misses p.kinds p.order i n c k d ∧
        ∀ i' n' c' k' d', Misses p.kinds p.order i' n' c' k' d' → i < i' ∨ i = i' ∧ n ≤ n' := by
  refine ⟨check_eq_ok_iff, fun hcheck chain hchain hkinds => ?_, fun _ => check_eq_duplicate_iff,
    fun _ _ _ => check_eq_outOfOrder_iff⟩
  obtain ⟨-, hlast⟩ := check_eq_ok_iff.1 hcheck
  have hbefore : chain.IsChain (LastBefore p.kinds) :=
    hchain.imp_of_mem_imp fun k d hk hd hdep => hlast k d hdep (hkinds k hk) (hkinds d hd)
  exact hbefore.pairwise

def twice : Plan where
  steps :=
    [{ category := .segments, kinds := [.tier1, .segment, .segmentPort, .segment] },
     { category := .tier1Routers, kinds := [.segmentPort, .segment, .tier1] }]

/-- It is accepted, though a router and a segment are deleted before the first port. -/
theorem twice_accepted : twice.check = .ok () ∧
    [Kind.segmentPort, .segment, .tier1].Pairwise (LastBefore twice.kinds) := by
  obtain ⟨haccepted, hchains, -, -⟩ := accepted_iff_leaves_first twice
  have hcheck : twice.check = .ok () := by decide
  exact ⟨hcheck, hchains hcheck _ (by decide) (by decide)⟩

/-- The order that cleanup normally runs in is accepted. -/
example : standard.check = .ok () := by decide

end NetSweep.Plan
