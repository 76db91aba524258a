/-!
# Ordered association lists

A finite map is a list of pairs in ascending key order with each key once.  Lookups and removals
never look at the order, so their equations hold for every list; only `insert` keeps the order.
The lemmas beside the definitions say what each operation does to `find?`.
-/

namespace NetSweep.Assoc

variable {α β γ : Type}

section Equality

variable [DecidableEq α]

/-- The value bound to a key: the first one, should a list bind it twice. -/
def find? (k : α) : List (α × β) → Option β
  | [] => none
  | (k', v) :: rest => if k' = k then some v else find? k rest

def contains (k : α) (m : List (α × β)) : Bool := (find? k m).isSome

def erase (k : α) (m : List (α × β)) : List (α × β) := m.filter (fun p => p.1 ≠ k)

@[simp] theorem find?_nil (k : α) : find? k ([] : List (α × β)) = none := rfl

theorem find?_cons (k : α) (p : α × β) (m : List (α × β)) :
    find? k (p :: m) = if p.1 = k then some p.2 else find? k m := rfl

@[simp] theorem find?_erase_self (k : α) (m : List (α × β)) : find? k (erase k m) = none := by
  induction m with
  | nil => rfl
  | cons p m ih =>
    by_cases h : p.1 = k
    · simpa [erase, h] using ih
    · simpa [erase, h, find?_cons] using ih

theorem find?_erase_ne {k k' : α} (h : k' ≠ k) (m : List (α × β)) :
    find? k' (erase k m) = find? k' m := by
  induction m with
  | nil => rfl
  | cons p m ih =>
    by_cases hp : p.1 = k
    · have hp' : p.1 ≠ k' := fun e => h (e.symm.trans hp)
      rw [find?_cons, if_neg hp', ← ih]
      simp [erase, hp]
    · rw [find?_cons, ← ih]
      simp [erase, hp, find?_cons]

theorem mem_of_find? {k : α} {v : β} {m : List (α × β)} (h : find? k m = some v) :
    (k, v) ∈ m := by
  induction m with
  | nil => simp at h
  | cons p m ih =>
    rw [find?_cons] at h
    split at h
    · rename_i hp
      obtain rfl := Option.some.inj h
      exact hp ▸ List.mem_cons_self
    · exact List.mem_cons_of_mem _ (ih h)

theorem mem_erase {k : α} {p : α × β} {m : List (α × β)} :
    p ∈ erase k m ↔ p ∈ m ∧ p.1 ≠ k := by simp [erase]

end Equality

section Order

variable [DecidableEq α] [LT α] [DecidableLT α]

/-- Binds a key at its place in the order; a value it was bound to before is replaced. -/
def insert (k : α) (v : β) : List (α × β) → List (α × β)
  | [] => [(k, v)]
  | (k', v') :: rest =>
    if k' = k then (k, v) :: rest
    else if k < k' then (k, v) :: (k', v') :: rest
    else (k', v') :: insert k v rest

/-- The map that binds each key to the last value the pairs give it. -/
def ofList (pairs : List (α × β)) : List (α × β) :=
  pairs.foldl (fun m p => insert p.1 p.2 m) []

@[simp] theorem find?_insert_self (k : α) (v : β) (m : List (α × β)) :
    find? k (insert k v m) = some v := by
  induction m with
  | nil => simp [insert, find?_cons]
  | cons p m ih =>
    unfold insert
    split
    · simp [find?_cons]
    · rename_i h
      split
      · simp [find?_cons]
      · simp [find?_cons, h, ih]

theorem find?_insert_ne {k k' : α} (h : k' ≠ k) (v : β) (m : List (α × β)) :
    find? k' (insert k v m) = find? k' m := by
  induction m with
  | nil => simp [insert, find?_cons, Ne.symm h]
  | cons p m ih =>
    unfold insert
    split
    · rename_i hp
      simp [find?_cons, hp, Ne.symm h]
    · split
      · simp [find?_cons, Ne.symm h]
      · simp [find?_cons, ih]

theorem mem_insert {k : α} {v : β} {p : α × β} {m : List (α × β)} (h : p ∈ insert k v m) :
    p = (k, v) ∨ p ∈ m := by
  induction m with
  | nil => simpa [insert] using h
  | cons q m ih =>
    unfold insert at h
    split at h
    · rcases List.mem_cons.1 h with h | h
      · exact .inl h
      · exact .inr (List.mem_cons_of_mem _ h)
    · split at h
      · exact List.mem_cons.1 h
      · rcases List.mem_cons.1 h with h | h
        · exact .inr (h ▸ List.mem_cons_self)
        · exact (ih h).imp_right (List.mem_cons_of_mem _)

end Order

def keys (m : List (α × β)) : List α := m.map Prod.fst

end NetSweep.Assoc
