import NetSweep.Proofs.PreparedFields

/-!
# Objects inside a load balancer

Preparing fails for two reasons only: the source's value is no object, or an object that is created
inside a load balancer is given none, or none with an id.  A prepared load balancer has the id of
the source's, so that each of its children can be prepared with it.
-/

namespace NetSweep.Migration

variable {kind : ObjectKind} {options : Options} {object out balancer : Members} {raw id : Json}
  {parent : Option Json} {log : List Log.Record}

def ObjectKind.children : List ObjectKind :=
  [loadbalancerListener, loadbalancerPool, loadbalancerMember]

theorem needsParent_iff (kind : ObjectKind) :
    kind.needsParent = true ↔ kind ∈ ObjectKind.children := by
  cases kind <;> decide

def IsIdentified (v : Json) : Prop :=
  ∃ members id, v = .object members ∧ Assoc.find? "id" members = some id ∧ id ≠ .null

/-! ## When preparing fails -/

theorem insideParent_unidentified {v : Json} (h : ¬IsIdentified v) :
    insideParent kind (some v) object = .error (.parentWithoutId kind) := by
  cases v with
  | object members =>
    unfold insideParent
    cases hid : Assoc.find? "id" members with
    | none => simp [hid]
    | some id =>
      by_cases hnull : id = .null
      · simp [hid, hnull]
      · exact absurd ⟨members, id, rfl, hid, hnull⟩ h
  | _ => rfl

theorem prepare_of_no_object (h : raw.object? = none) :
    prepare options kind raw parent = .error (.notAnObject kind) := by
  cases raw with
  | object members => cases h
  | _ => rfl

theorem prepare_orphan (hkind : kind ∈ ObjectKind.children) :
    prepare options kind (.object object) none = .error (.missingParent kind) := by
  rw [prepare_child ((needsParent_iff kind).2 hkind)]
  rfl

theorem prepare_unidentified {v : Json} (hkind : kind ∈ ObjectKind.children)
    (hv : ¬IsIdentified v) :
    prepare options kind (.object object) (some v) = .error (.parentWithoutId kind) := by
  rw [prepare_child ((needsParent_iff kind).2 hkind), insideParent_unidentified hv]
  rfl

theorem prepare_identified (options : Options) (object : Members) {members : Members}
    (hkind : kind ∈ ObjectKind.children) (hid : Assoc.find? "id" members = some id)
    (hnull : id ≠ .null) :
    prepare options kind (.object object) (some (.object members)) =
      .ok (Assoc.insert "loadbalancer_id" id
        (Assoc.insert "loadbalancer" (embedded (.object members)) (reduced kind object)), []) := by
  rw [prepare_child ((needsParent_iff kind).2 hkind),
    insideParent_eq_ok_iff.2 ⟨members, id, rfl, hid, hnull, rfl⟩]
  rfl

theorem prepare_independent (options : Options) (object : Members) (parent : Option Json)
    (hkind : kind ∉ ObjectKind.children) :
    ∃ adjusted, prepare options kind (.object object) parent = .ok adjusted :=
  ⟨_, prepare_alone (Bool.eq_false_iff.2 fun h => hkind ((needsParent_iff kind).1 h))⟩

/-- The three reasons, each with what it takes. -/
theorem prepare_eq_error_iff (e : PreparationError) : prepare options kind raw parent = .error e ↔
    (raw.object? = none ∧ e = .notAnObject kind) ∨
    (raw.object? ≠ none ∧ kind ∈ ObjectKind.children ∧ parent = none ∧ e = .missingParent kind) ∨
    (raw.object? ≠ none ∧ kind ∈ ObjectKind.children ∧ (∃ v, parent = some v ∧ ¬IsIdentified v) ∧
      e = .parentWithoutId kind) := by
  cases hraw : raw.object? with
  | none =>
    rw [prepare_of_no_object hraw]
    simp [eq_comm]
  | some object =>
    obtain rfl : raw = .object object := by
      cases raw with
      | object members => exact congrArg Json.object (Option.some.inj hraw)
      | _ => cases hraw
    by_cases hkind : kind ∈ ObjectKind.children
    · cases parent with
      | none =>
        rw [prepare_orphan hkind]
        simp [hkind, eq_comm]
      | some v =>
        by_cases hv : IsIdentified v
        · obtain ⟨members, id, rfl, hid, hnull⟩ := id hv
          rw [prepare_identified options object hkind hid hnull]
          simp [hv]
        · rw [prepare_unidentified hkind hv]
          simp [hkind, hv, eq_comm]
    · obtain ⟨adjusted, hadjusted⟩ := prepare_independent options object parent hkind
      rw [hadjusted]
      simp [hkind]

/-! ## What a child carries -/

/-- A load balancer as its children carry it: without listeners, and else as it is. -/
def IsEmbedded (members inner : Members) : Prop :=
  Assoc.find? "listeners" inner = some (.array []) ∧
    (∀ key, key ≠ "listeners" → Assoc.find? key inner = Assoc.find? key members) ∧
    (Assoc.Sorted members → Assoc.Sorted inner)

theorem isEmbedded_insert (members : Members) :
    IsEmbedded members (Assoc.insert "listeners" (.array []) members) :=
  ⟨Assoc.find?_insert_self _ _ _, fun _ hkey => Assoc.find?_insert_ne hkey _ _,
    fun hsorted => Assoc.sorted_insert _ _ hsorted⟩

/-- A child carries its parent, without listeners, and the parent's id. -/
def Carries (members out : Members) : Prop :=
  Assoc.find? "loadbalancer_id" out = Assoc.find? "id" members ∧
    ∃ inner, Assoc.find? "loadbalancer" out = some (.object inner) ∧ IsEmbedded members inner

theorem carries_of_insideParent {members : Members}
    (h : insideParent kind (some (.object members)) object = .ok out) : Carries members out := by
  obtain ⟨_, id, hparent, hid, -, rfl⟩ := insideParent_eq_ok_iff.1 h
  obtain rfl := Json.object.inj (Option.some.inj hparent)
  refine ⟨?_, _, ?_, isEmbedded_insert members⟩
  · rw [Assoc.find?_insert_self, hid]
  · rw [Assoc.find?_insert_ne (by decide), Assoc.find?_insert_self]
    rfl

theorem prepare_child_carries (hkind : kind ∈ ObjectKind.children)
    (h : prepare options kind raw parent = .ok (out, log)) :
    ∃ members, parent = some (.object members) ∧ Carries members out := by
  cases raw with
  | object object =>
    have hneeds := (needsParent_iff kind).2 hkind
    have hinside := ((prepare_cases h).resolve_left fun halone => by
      rw [hneeds] at halone
      cases halone.1).2
    obtain ⟨members, id, rfl, -⟩ := insideParent_eq_ok_iff.1 hinside
    exact ⟨members, rfl, carries_of_insideParent hinside⟩
  | _ => cases h

/-! ## A child of a prepared load balancer -/

theorem find?_id_prepared_balancer
    (h : prepare options .loadbalancer (.object balancer) parent = .ok (out, log)) :
    Assoc.find? "id" out = Assoc.find? "id" balancer := by
  rw [prepare_passes h (by decide) (by decide), if_neg fun hkey => absurd hkey.1 (by decide)]

theorem child_of_prepared_balancer (hkind : kind ∈ ObjectKind.children)
    (hid : Assoc.find? "id" balancer = some id) (hnull : id ≠ .null) (object : Members)
    (parent : Option Json) :
    ∃ lb log out log', prepare options .loadbalancer (.object balancer) parent = .ok (lb, log) ∧
      prepare options kind (.object object) (some (.object lb)) = .ok (out, log') ∧
      Assoc.find? "loadbalancer_id" out = some id ∧
      ∃ inner, Assoc.find? "loadbalancer" out = some (.object inner) ∧
        Assoc.find? "listeners" inner = some (.array []) ∧
        ∀ key ∈ ObjectKind.loadbalancer.dropFields, key ≠ "listeners" →
          key ∉ Assoc.keys inner := by
  have hbalancer : ObjectKind.loadbalancer ∉ ObjectKind.children := by decide
  obtain ⟨⟨lb, log⟩, hlb⟩ := prepare_independent options balancer parent hbalancer
  have hid' : Assoc.find? "id" lb = some id := (find?_id_prepared_balancer hlb).trans hid
  have hout := prepare_identified options object hkind hid' hnull
  obtain ⟨members, hparent, hsame, inner, hinner, hemptied, hothers, -⟩ :=
    prepare_child_carries hkind hout
  obtain rfl := Json.object.inj (Option.some.inj hparent)
  refine ⟨lb, log, _, _, hlb, hout, hsame.trans hid', inner, hinner, hemptied, ?_⟩
  intro key hdrop hkey
  rw [← Assoc.find?_eq_none_iff, hothers key hkey]
  exact prepare_drops hlb hdrop

/-- Preparing fails exactly if the value is no object, or else if an object that is created inside
a load balancer is given no parent, or one that is no object with an id that is not null.  What is
prepared as a child has the parent's id and, under a name of its own, the parent with an empty list
of listeners.  So any load balancer with an id that is not null can be prepared and then be the
parent of any object; what stands in the child has none of the fields that load balancers drop, but
for the emptied listeners. -/
theorem children_carry_identified_parent :
    (∀ (options : Options) (kind : ObjectKind) (raw : Json) (parent : Option Json)
        (e : PreparationError), prepare options kind raw parent = .error e ↔
      (raw.object? = none ∧ e = .notAnObject kind) ∨
      (raw.object? ≠ none ∧ kind ∈ ObjectKind.children ∧ parent = none ∧ e = .missingParent kind) ∨
      (raw.object? ≠ none ∧ kind ∈ ObjectKind.children ∧
        (∃ v, parent = some v ∧ ¬IsIdentified v) ∧ e = .parentWithoutId kind)) ∧
    (∀ (options : Options) (kind : ObjectKind) (raw : Json) (parent : Option Json) (out : Members)
        (log : List Log.Record), kind ∈ ObjectKind.children →
      prepare options kind raw parent = .ok (out, log) →
      ∃ members, parent = some (.object members) ∧ Carries members out) ∧
    ∀ (options : Options) (kind : ObjectKind) (balancer object : Members) (id : Json)
        (parent : Option Json), kind ∈ ObjectKind.children →
      Assoc.find? "id" balancer = some id → id ≠ .null →
      ∃ lb log out log', prepare options .loadbalancer (.object balancer) parent = .ok (lb, log) ∧
        prepare options kind (.object object) (some (.object lb)) = .ok (out, log') ∧
        Assoc.find? "loadbalancer_id" out = some id ∧
        ∃ inner, Assoc.find? "loadbalancer" out = some (.object inner) ∧
          Assoc.find? "listeners" inner = some (.array []) ∧
          ∀ key ∈ ObjectKind.loadbalancer.dropFields, key ≠ "listeners" →
            key ∉ Assoc.keys inner :=
  ⟨fun _ _ _ _ e => prepare_eq_error_iff e,
    fun _ _ _ _ _ _ hkind h => prepare_child_carries hkind h,
    fun _ _ _ object _ parent hkind hid hnull =>
      child_of_prepared_balancer hkind hid hnull object parent⟩

def webBalancer : Members :=
  [("id", .string "lb-1"), ("listeners", .array [.object [("id", .string "l1")]]),
   ("name", .string "web"), ("provisioning_status", .string "ACTIVE")]

/-- A listener needs the load balancer, not its name alone, and carries it without its state. -/
theorem listener_carries_web_balancer :
    prepare .default .loadbalancerListener (.object [("id", .string "l1")]) none =
      .error (.missingParent .loadbalancerListener) ∧
    prepare .default .loadbalancerListener (.object [("id", .string "l1")]) (some (.string "web")) =
      .error (.parentWithoutId .loadbalancerListener) ∧
    ∃ lb log out log', prepare .default .loadbalancer (.object webBalancer) none = .ok (lb, log) ∧
      prepare .default .loadbalancerListener (.object [("id", .string "l1")]) (some (.object lb)) =
        .ok (out, log') ∧
      Carries lb out ∧ Assoc.find? "loadbalancer_id" out = some (.string "lb-1") ∧
      ∃ inner, Assoc.find? "loadbalancer" out = some (.object inner) ∧
        Assoc.find? "listeners" inner = some (.array []) ∧
        "provisioning_status" ∉ Assoc.keys inner := by
  obtain ⟨hfails, hcarry, hchain⟩ := children_carry_identified_parent
  have hname : ¬IsIdentified (.string "web") := by
    rintro ⟨members, id, hobject, -⟩
    cases hobject
  refine ⟨(hfails _ _ _ _ _).2 (.inr (.inl ⟨by simp [Json.object?], by decide, rfl, rfl⟩)),
    (hfails _ _ _ _ _).2
      (.inr (.inr ⟨by simp [Json.object?], by decide, ⟨_, rfl, hname⟩, rfl⟩)), ?_⟩
  obtain ⟨lb, log, out, log', hlb, hout, hid, inner, hinner, hemptied, hdropped⟩ :=
    hchain .default .loadbalancerListener webBalancer [("id", .string "l1")] (.string "lb-1") none
      (by decide) rfl (by decide)
  obtain ⟨members, hparent, hcarries⟩ := hcarry _ _ _ _ _ _ (by decide) hout
  obtain rfl := Json.object.inj (Option.some.inj hparent)
  exact ⟨lb, log, out, log', hlb, hout, hcarries, hid, inner, hinner, hemptied,
    hdropped _ (by decide) (by decide)⟩

end NetSweep.Migration
