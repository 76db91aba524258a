import Mathlib.Data.List.Nodup
import Mathlib.Data.String.Basic
import Mathlib.Order.Defs.Unbundled
import NetSweep.Assoc

/-!
# Ordered maps as finite functions

Lookups never look at the order of an association list.  Where keys ascend strictly, a list is
determined by its lookups, membership is lookup, and binding a key that is there already changes
the list in place.
-/

namespace NetSweep.Assoc

variable {α β : Type}

/-- Keys ascend strictly, so that each is bound once. -/
def Sorted [LT α] (m : List (α × β)) : Prop := m.Pairwise (fun p q => p.1 < q.1)

theorem sorted_iff_keys [LT α] {m : List (α × β)} :
    Sorted m ↔ (keys m).Pairwise (· < ·) := by
  simp [Sorted, keys, List.pairwise_map]

theorem keys_map_pair (f : α → β) (ks : List α) : keys (ks.map fun k => (k, f k)) = ks := by
  rw [keys, List.map_map]
  exact List.map_id ks

theorem Sorted.sublist [LT α] {m n : List (α × β)} (h : Sorted n) (hs : m.Sublist n) : Sorted m :=
  List.Pairwise.sublist hs h

section Lookup

variable [DecidableEq α]

theorem find?_eq_none_iff {k : α} {m : List (α × β)} : find? k m = none ↔ k ∉ keys m := by
  induction m with
  | nil => simp [keys]
  | cons p m ih =>
    by_cases h : p.1 = k
    · simp [find?_cons, h, keys]
    · rw [find?_cons, if_neg h, ih]
      simp [keys, Ne.symm h]

theorem mem_keys_iff {k : α} {m : List (α × β)} : k ∈ keys m ↔ ∃ v, find? k m = some v := by
  rw [← Option.isSome_iff_exists, Option.isSome_iff_ne_none, ne_eq, find?_eq_none_iff, not_not]

theorem find?_eq_some_iff {k : α} {v : β} {m : List (α × β)} (h : (keys m).Nodup) :
    find? k m = some v ↔ (k, v) ∈ m := by
  refine ⟨mem_of_find?, fun hm => ?_⟩
  induction m with
  | nil => simp at hm
  | cons p m ih =>
    obtain ⟨hp, hn⟩ := List.nodup_cons.1 h
    rcases List.mem_cons.1 hm with rfl | hm
    · simp [find?_cons]
    · have hne : p.1 ≠ k := fun e => hp (e ▸ List.mem_map_of_mem hm)
      rw [find?_cons, if_neg hne]
      exact ih hn hm

/-- A lookup finds the first binding of a key. -/
theorem find?_eq_some_iff_append {k : α} {v : β} {m : List (α × β)} :
    find? k m = some v ↔
      ∃ before after, m = before ++ (k, v) :: after ∧ ∀ p ∈ before, p.1 ≠ k := by
  induction m with
  | nil => simp
  | cons p m ih =>
    rw [find?_cons]
    by_cases hp : p.1 = k
    · rw [if_pos hp, Option.some.injEq]
      constructor
      · rintro rfl
        exact ⟨[], m, by rw [← hp]; rfl, by simp⟩
      · rintro ⟨before, after, hsplit, hbefore⟩
        cases before with
        | nil => rw [(List.cons.inj hsplit).1]
        | cons q before =>
          obtain rfl := (List.cons.inj hsplit).1
          exact absurd hp (hbefore p List.mem_cons_self)
    · rw [if_neg hp, ih]
      constructor
      · rintro ⟨before, after, rfl, hbefore⟩
        exact ⟨p :: before, after, rfl, List.forall_mem_cons.2 ⟨hp, hbefore⟩⟩
      · rintro ⟨before, after, hsplit, hbefore⟩
        cases before with
        | nil => exact absurd (congrArg Prod.fst (List.cons.inj hsplit).1) hp
        | cons q before =>
          exact ⟨before, after, (List.cons.inj hsplit).2, (List.forall_mem_cons.1 hbefore).2⟩

theorem find?_append (k : α) (m n : List (α × β)) :
    find? k (m ++ n) = (find? k m).or (find? k n) := by
  induction m with
  | nil => simp
  | cons p m ih =>
    by_cases h : p.1 = k
    · simp [find?_cons, h]
    · simp [find?_cons, h, ih]

/-- Keeping keys by a test does to lookups what one expects, whatever the order. -/
theorem find?_filter (q : α → Bool) (k : α) (m : List (α × β)) :
    find? k (m.filter (fun p => q p.1)) = if q k then find? k m else none := by
  induction m with
  | nil => simp
  | cons p m ih =>
    rw [List.filter_cons]
    by_cases h : p.1 = k
    · subst h
      by_cases hq : q p.1 = true
      · simp [hq, find?_cons]
      · rw [if_neg hq, ih, if_neg hq, if_neg hq]
    · split
      · rw [find?_cons, if_neg h, ih, find?_cons, if_neg h]
      · rw [ih, find?_cons, if_neg h]

/-- Lookups of keys whose bindings all pass do not see a filter. -/
theorem find?_filter_of_kept {q : α × β → Bool} {k : α} (h : ∀ v, q (k, v) = true)
    (m : List (α × β)) : find? k (m.filter q) = find? k m := by
  induction m with
  | nil => rfl
  | cons p m ih =>
    by_cases hp : p.1 = k
    · subst hp
      rw [List.filter_cons_of_pos (h p.2), find?_cons, if_pos rfl, find?_cons, if_pos rfl]
    · rw [List.filter_cons]
      split
      · rw [find?_cons, if_neg hp, ih, find?_cons, if_neg hp]
      · rw [ih, find?_cons, if_neg hp]

/-- Where each key is bound once, a filter passes or drops what a lookup finds. -/
theorem find?_filter_of_nodup (q : α × β → Bool) (k : α) {m : List (α × β)}
    (h : (keys m).Nodup) : find? k (m.filter q) = (find? k m).filter fun v => q (k, v) := by
  induction m with
  | nil => rfl
  | cons p m ih =>
    obtain ⟨hp, hm⟩ := List.nodup_cons.1 h
    by_cases hk : p.1 = k
    · subst hk
      have hnone : find? p.1 m = none := find?_eq_none_iff.2 hp
      rw [List.filter_cons, find?_cons, if_pos rfl, Option.filter_some]
      split
      · rw [find?_cons, if_pos rfl]
      · rw [ih hm, hnone, Option.filter_none]
    · rw [List.filter_cons, find?_cons, if_neg hk, ← ih hm]
      split
      · rw [find?_cons, if_neg hk]
      · rfl

theorem find?_map {γ : Type} (g : β → γ) (k : α) (m : List (α × β)) :
    find? k (m.map fun p => (p.1, g p.2)) = (find? k m).map g := by
  induction m with
  | nil => rfl
  | cons p m ih =>
    rw [List.map_cons, find?_cons, find?_cons, ih]
    split <;> rfl

/-- Of a key that is bound once, the order of the bindings does not matter. -/
theorem find?_reverse_of_once {k : α} {m : List (α × β)}
    (h : (m.filter fun p => p.1 == k).length ≤ 1) : find? k m.reverse = find? k m := by
  have honly : ∀ n : List (α × β), find? k (n.filter fun p => p.1 == k) = find? k n := fun n =>
    find?_filter_of_kept (fun _ => beq_self_eq_true k) n
  have hsame : (m.filter fun p => p.1 == k).reverse = m.filter fun p => p.1 == k := by
    generalize (m.filter fun p => p.1 == k) = found at h
    match found, h with
    | [], _ | [_], _ => rfl
  rw [← honly, List.filter_reverse, hsame, honly]

theorem erase_eq_filter (k : α) (m : List (α × β)) : erase k m = m.filter (fun p => p.1 ≠ k) := rfl

theorem find?_erase (k k' : α) (m : List (α × β)) :
    find? k' (erase k m) = if k' = k then none else find? k' m := by
  split
  · rename_i h
    rw [h, find?_erase_self]
  · rename_i h
    exact find?_erase_ne h m

theorem find?_insert [LT α] [DecidableLT α] (k k' : α) (v : β) (m : List (α × β)) :
    find? k' (insert k v m) = if k' = k then some v else find? k' m := by
  split
  · rename_i h
    rw [h, find?_insert_self]
  · rename_i h
    exact find?_insert_ne h v m

end Lookup

section Order

variable [DecidableEq α] [LT α] [IsStrictTotalOrder α (· < ·)]

omit [DecidableEq α] in
theorem Sorted.nodup {m : List (α × β)} (h : Sorted m) : (keys m).Nodup := by
  refine (sorted_iff_keys.1 h).imp ?_
  rintro a _ hlt rfl
  exact irrefl_of (· < ·) a hlt

theorem Sorted.find?_eq_some_iff {k : α} {v : β} {m : List (α × β)} (h : Sorted m) :
    find? k m = some v ↔ (k, v) ∈ m := Assoc.find?_eq_some_iff h.nodup

/-- Lookups determine an ordered map. -/
theorem Sorted.ext {m n : List (α × β)} (hm : Sorted m) (hn : Sorted n)
    (h : ∀ k, find? k m = find? k n) : m = n := by
  refine List.Perm.eq_of_pairwise (fun a b _ _ hab hba => ?_) hm hn ?_
  · exact absurd (trans_of (· < ·) hab hba) (irrefl_of (· < ·) _)
  · have hm' : m.Nodup := .of_map Prod.fst hm.nodup
    have hn' : n.Nodup := .of_map Prod.fst hn.nodup
    refine (List.perm_ext_iff_of_nodup hm' hn').2 fun p => ?_
    rw [← hm.find?_eq_some_iff (k := p.1) (v := p.2), h, hn.find?_eq_some_iff]

variable [DecidableLT α]

theorem sorted_insert (k : α) (v : β) {m : List (α × β)} (h : Sorted m) :
    Sorted (insert k v m) := by
  induction m with
  | nil => simp [insert, Sorted]
  | cons p m ih =>
    obtain ⟨hp, hm⟩ := List.pairwise_cons.1 h
    unfold insert
    split
    · rename_i hk
      subst hk
      exact List.pairwise_cons.2 ⟨hp, hm⟩
    · rename_i hk
      split
      · rename_i hlt
        refine List.pairwise_cons.2 ⟨fun q hq => ?_, h⟩
        rcases List.mem_cons.1 hq with rfl | hq
        · exact hlt
        · exact trans_of (· < ·) hlt (hp q hq)
      · rename_i hlt
        have hpk : p.1 < k := ((trichotomous_of (· < ·) p.1 k).resolve_right
          (fun e => e.elim hk hlt))
        refine List.pairwise_cons.2 ⟨fun q hq => ?_, ih hm⟩
        rcases mem_insert hq with rfl | hq
        · exact hpk
        · exact hp q hq

theorem sorted_foldl_insert (pairs : List (α × β)) {m : List (α × β)} (h : Sorted m) :
    Sorted (pairs.foldl (fun m p => insert p.1 p.2 m) m) := by
  induction pairs generalizing m with
  | nil => exact h
  | cons p pairs ih => exact ih (sorted_insert p.1 p.2 h)

theorem sorted_ofList (pairs : List (α × β)) : Sorted (ofList pairs) :=
  sorted_foldl_insert pairs List.Pairwise.nil

omit [IsStrictTotalOrder α (· < ·)] in
theorem mem_of_mem_ofList {p : α × β} {pairs : List (α × β)} (h : p ∈ ofList pairs) :
    p ∈ pairs := by
  have general : ∀ m : List (α × β), p ∈ pairs.foldl (fun m q => insert q.1 q.2 m) m →
      p ∈ pairs ∨ p ∈ m := by
    clear h
    induction pairs with
    | nil => exact fun m hm => .inr hm
    | cons q pairs ih =>
      intro m hm
      rcases ih _ hm with hp | hp
      · exact .inl (List.mem_cons_of_mem _ hp)
      · rcases mem_insert hp with rfl | hp
        · exact .inl List.mem_cons_self
        · exact .inr hp
  exact (general [] h).resolve_right List.not_mem_nil

omit [IsStrictTotalOrder α (· < ·)] in
/-- The last binding of a key wins. -/
theorem find?_ofList (k : α) (pairs : List (α × β)) :
    find? k (ofList pairs) = find? k pairs.reverse := by
  have general : ∀ m : List (α × β), find? k (pairs.foldl (fun m p => insert p.1 p.2 m) m) =
      (find? k pairs.reverse).or (find? k m) := by
    induction pairs with
    | nil => simp
    | cons p pairs ih =>
      intro m
      rw [List.foldl_cons, ih, List.reverse_cons, find?_append, Option.or_assoc]
      congr 1
      by_cases h : p.1 = k
      · subst h
        simp [find?_cons]
      · simp [find?_cons, h, find?_insert_ne (Ne.symm h)]
  simpa [ofList] using general []

omit [IsStrictTotalOrder α (· < ·)] in
/-- A map made of pairs binds a key to the value that the last of them gives it. -/
theorem find?_ofList_eq_some_iff {k : α} {v : β} {pairs : List (α × β)} :
    find? k (ofList pairs) = some v ↔
      ∃ before after, pairs = before ++ (k, v) :: after ∧ ∀ p ∈ after, p.1 ≠ k := by
  rw [find?_ofList, find?_eq_some_iff_append]
  constructor
  · rintro ⟨before, after, hsplit, hbefore⟩
    refine ⟨after.reverse, before.reverse, ?_, fun p hp => hbefore p (List.mem_reverse.1 hp)⟩
    rw [← List.reverse_reverse pairs, hsplit, List.reverse_append, List.reverse_cons,
      List.append_assoc, List.singleton_append]
  · rintro ⟨before, after, rfl, hafter⟩
    refine ⟨after.reverse, before.reverse, ?_, fun p hp => hafter p (List.mem_reverse.1 hp)⟩
    rw [List.reverse_append, List.reverse_cons, List.append_assoc, List.singleton_append]

omit [IsStrictTotalOrder α (· < ·)] in
theorem mem_keys_ofList {k : α} {pairs : List (α × β)} :
    k ∈ keys (ofList pairs) ↔ k ∈ keys pairs := by
  rw [mem_keys_iff, find?_ofList, ← mem_keys_iff, keys, List.map_reverse, List.mem_reverse, keys]

omit [IsStrictTotalOrder α (· < ·)] in
theorem find?_ofList_of_nodup (k : α) {pairs : List (α × β)} (h : (keys pairs).Nodup) :
    find? k (ofList pairs) = find? k pairs := by
  have hr : (keys pairs.reverse).Nodup := by
    simpa only [keys, List.map_reverse, List.nodup_reverse] using h
  ext v
  rw [find?_ofList, find?_eq_some_iff hr, find?_eq_some_iff h, List.mem_reverse]

theorem ofList_of_sorted {m : List (α × β)} (h : Sorted m) : ofList m = m :=
  (sorted_ofList m).ext h fun k => find?_ofList_of_nodup k h.nodup

/-- It does not matter whether keys are kept by a test before or after pairs are made a map. -/
theorem filter_ofList (q : α → Bool) (pairs : List (α × β)) :
    (ofList pairs).filter (fun p => q p.1) = ofList (pairs.filter fun p => q p.1) := by
  refine ((sorted_ofList pairs).sublist List.filter_sublist).ext (sorted_ofList _) fun k => ?_
  rw [find?_filter, find?_ofList, find?_ofList, ← List.filter_reverse, find?_filter]

/-- Binding a key anew changes an ordered map in place. -/
theorem Sorted.insert_eq_map {k : α} {m : List (α × β)} (h : Sorted m) (hk : k ∈ keys m)
    (v : β) : insert k v m = m.map (fun p => if p.1 = k then (k, v) else p) := by
  induction m with
  | nil => simp [keys] at hk
  | cons p m ih =>
    obtain ⟨hp, hm⟩ := List.pairwise_cons.1 h
    have later : ∀ q ∈ m, q.1 ≠ p.1 := by
      rintro q hq e
      exact irrefl_of (· < ·) p.1 (e ▸ hp q hq)
    unfold insert
    by_cases hpk : p.1 = k
    · have hmap : m.map (fun q => if q.1 = k then (k, v) else q) = m := by
        refine (List.map_congr_left fun q hq => ?_).trans (List.map_id m)
        simp [hpk ▸ later q hq]
      rw [if_pos hpk, List.map_cons, if_pos hpk, hmap]
    · have hkm : k ∈ keys m := by
        rcases List.mem_cons.1 hk with e | hkm
        · exact absurd e.symm hpk
        · exact hkm
      obtain ⟨q, hq, rfl⟩ := List.mem_map.1 hkm
      have hnot : ¬ q.1 < p.1 := fun hlt => irrefl_of (· < ·) p.1 (trans_of (· < ·) (hp q hq) hlt)
      rw [if_neg hpk, if_neg hnot, ih hm hkm, List.map_cons, if_neg hpk]

end Order

end NetSweep.Assoc
