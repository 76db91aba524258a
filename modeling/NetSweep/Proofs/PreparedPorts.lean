import NetSweep.Proofs.PreparationLogs

/-!
# Prepared ports

A port is prepared by four adjustments that do not get into each other's way, so that each of its
fields follows from the source's port.  The destination then takes it: it has no more address pairs
than allowed, no empty list of them, and not both port security and learning of addresses.
-/

namespace NetSweep.Migration

variable {kind : ObjectKind} {options : Options} {object out found m n : Members}
  {parent : Option Json} {key : String} {pairs : List Json} {log : List Log.Record}

/-! ## A port's fields -/

/-- A field of a port as the destination gets it. -/
def portField (options : Options) (object : Members) (key : String) : Option Json :=
  if key = "vif_id" then
    ((Assoc.find? (idText object) options.interfaces).map .string).or (Assoc.find? key object)
  else if isTorn object ∧ key = "security_groups" then some (.array [])
  else if isTorn object ∧ key = "port_security_enabled" then some (.bool false)
  else if key = "allowed_address_pairs" then (Assoc.find? key object).bind (fewPairs options)
  else if key = "qos_policy_id" ∧ options.withoutQosPolicy = true then none
  else Assoc.find? key object

def portFacts : List String :=
  ["id", "mac_learning_enabled", "port_security_enabled", "security_groups", "vif_id",
    "allowed_address_pairs", "qos_policy_id"]

theorem Alike.portField_eq (h : Alike portFacts m n) (hkey : key ∈ portFacts) :
    portField options m key = portField options n key := by
  have htorn : isTorn m = isTorn n := by
    rw [isTorn, h.isTrueAt_eq (by decide), h.isTrueAt_eq (by decide), isTorn]
  rw [portField, portField, htorn, h.idText_eq (by decide), h key hkey]

theorem find?_port_adjusted (options : Options) (m : Members) (key : String) :
    Assoc.find? key (adjustAll .port options (adjustments .port) m).1 =
      portField options m key := by
  have hpairs : WrittenWithin ["qos_policy_id", "allowed_address_pairs"]
      [withoutQosPolicy, fewEnoughPairs] :=
    .cons within_withoutQosPolicy (by decide) (.cons within_fewEnoughPairs (by decide) .nil)
  have hlearning : WrittenWithin
      ["qos_policy_id", "allowed_address_pairs", "port_security_enabled", "security_groups"]
      [withoutQosPolicy, fewEnoughPairs, securityOrLearning] :=
    (hpairs.mono (by decide)).append (.cons within_securityOrLearning (by decide) .nil)
  have htorn : isTorn (adjustAll .port options [withoutQosPolicy, fewEnoughPairs] m).1 =
      isTorn m := by
    rw [isTorn, isTrueAt, isTrueAt, hpairs.keeps (by decide), hpairs.keeps (by decide), isTorn,
      isTrueAt, isTrueAt]
  have hid : idText (adjustAll .port options
      [withoutQosPolicy, fewEnoughPairs, securityOrLearning] m).1 = idText m := by
    rw [idText, hlearning.keeps (by decide), idText]
  have hlast : (adjustAll .port options (adjustments .port) m).1 =
      (destinationInterface .port options
        (adjustAll .port options [withoutQosPolicy, fewEnoughPairs, securityOrLearning] m).1).1 :=
    rfl
  have hmiddle : (adjustAll .port options
        [withoutQosPolicy, fewEnoughPairs, securityOrLearning] m).1 =
      (securityOrLearning .port options
        (adjustAll .port options [withoutQosPolicy, fewEnoughPairs] m).1).1 := rfl
  have hfirst : (adjustAll .port options [withoutQosPolicy, fewEnoughPairs] m).1 =
      (fewEnoughPairs .port options (withoutQosPolicy .port options m).1).1 := rfl
  rw [hlast, find?_destinationInterface, hid, hmiddle, find?_securityOrLearning, htorn, hfirst,
    rebinds_fewEnoughPairs, rebinds_withoutQosPolicy, portField]
  -- no field is written by two adjustments
  by_cases hvif : key = "vif_id"
  · simp [hvif]
  · by_cases hpairs : key = "allowed_address_pairs"
    · simp [hpairs]
    · by_cases hpolicy : key = "qos_policy_id"
      · simp [hpolicy]
      · simp [hvif, hpairs, hpolicy]

/-! ## Address pairs that are cut off -/

/-- The longest beginning of a list that has at most some number of items. -/
structure IsLongestStart {α : Type} (limit : Nat) (kept items : List α) : Prop where
  start : kept <+: items
  fits : kept.length ≤ limit
  longest : ∀ other, other <+: items → other.length ≤ limit → other <+: kept

theorem isLongestStart_take {α : Type} (limit : Nat) (items : List α) :
    IsLongestStart limit (items.take limit) items where
  start := List.take_prefix limit items
  fits := List.length_take_le limit items
  longest _ hother hfits := List.prefix_take_iff.2 ⟨hother, hfits⟩

theorem fewPairs_eq_none_iff {v : Json} : fewPairs options v = none ↔ v = .array [] := by
  cases v with
  | array pairs => cases pairs <;> simp [fewPairs]
  | _ => simp [fewPairs]

theorem fewPairs_array (h : pairs ≠ []) : fewPairs options (.array pairs) =
    some (.array (pairs.take options.maxAddressPairs)) := by
  cases pairs with
  | nil => exact absurd rfl h
  | cons pair pairs => rfl

theorem fewPairs_of_no_array {v : Json} (h : ∀ pairs, v ≠ .array pairs) :
    fewPairs options v = some v := by
  cases v with
  | array pairs => exact absurd rfl (h pairs)
  | _ => rfl

def pairsTruncated : String := "truncating allowed address pairs"

def truncationRecord (options : Options) (object : Members) (pairs : List Json) : Log.Record :=
  Log.warning pairsTruncated [("port", idText object), ("count", Decimal.natText pairs.length),
    ("max", Decimal.natText options.maxAddressPairs)]

theorem log_fewEnoughPairs (hpairs : Assoc.find? "allowed_address_pairs" m = some (.array pairs)) :
    (fewEnoughPairs kind options m).2 =
      if options.maxAddressPairs < pairs.length then [truncationRecord options m pairs]
      else [] := by
  simp only [fewEnoughPairs, hpairs]
  cases pairs with
  | nil => rfl
  | cons pair pairs =>
    rw [if_neg (by simp)]
    split <;> rfl

theorem log_fewEnoughPairs_quiet
    (h : ∀ pairs, Assoc.find? "allowed_address_pairs" m ≠ some (.array pairs)) :
    (fewEnoughPairs kind options m).2 = [] := by
  unfold fewEnoughPairs
  split
  · rename_i pairs hpairs
    exact absurd hpairs (h pairs)
  · rfl

theorem surrounds_fewEnoughPairs :
    Surrounds ["qos_policy_id", "port_security_enabled", "security_groups", "vif_id"]
      learningMessages .port fewEnoughPairs [withoutQosPolicy]
      [securityOrLearning, destinationInterface] where
  all := rfl
  first := .cons within_withoutQosPolicy (by decide) .nil
  last := .cons within_securityOrLearning (by decide) <|
    .cons within_destinationInterface (by decide) .nil
  logs_first := List.forall_mem_singleton.2 (quiet_withoutQosPolicy.logs _)
  logs_last := List.forall_mem_cons.2 ⟨logs_securityOrLearning,
    List.forall_mem_singleton.2 (quiet_destinationInterface.logs _)⟩

/-! ## Prepared ports -/

def pairFacts : List String := ["allowed_address_pairs", "id"]

/-- Any port is prepared, field by field, and only what is said of its address pairs is said of
address pairs. -/
theorem port_prepared (options : Options) (object : Members) (parent : Option Json) :
    ∃ out log found, prepare options .port (.object object) parent = .ok (out, log) ∧
      (∀ key ∈ portFacts, Assoc.find? key out = portField options object key) ∧
      Alike pairFacts found object ∧
      recordsOf pairsTruncated log =
        recordsOf pairsTruncated (fewEnoughPairs .port options found).2 := by
  have hown : ∀ key ∈ pairFacts,
      key ∉ ["qos_policy_id", "port_security_enabled", "security_groups", "vif_id"] ∧
        key ∉ ObjectKind.port.dropFields ∧ key ≠ "description" := by decide
  obtain ⟨out, log, found, hprepare, hfound, -, hlog⟩ :=
    surrounds_fewEnoughPairs.prepare rfl hown options object parent
  have hout : (adjustAll .port options (adjustments .port) (reduced .port object)).1 = out :=
    congrArg Prod.fst (Except.ok.inj ((prepare_alone rfl).symm.trans hprepare))
  refine ⟨out, log, found, hprepare, fun key hkey => ?_, hfound,
    hlog pairsTruncated (by decide)⟩
  rw [← hout, find?_port_adjusted]
  exact (alike_reduced (by decide) object).portField_eq hkey

/-- What makes a port acceptable to the destination, by its source. -/
structure AcceptablePort (options : Options) (source out : Members) (log : List Log.Record) :
    Prop where
  /-- there is no empty list of address pairs, and none where the source has none -/
  no_pairs : Assoc.find? "allowed_address_pairs" out = none ↔
    Assoc.find? "allowed_address_pairs" source = none ∨
      Assoc.find? "allowed_address_pairs" source = some (.array [])
  /-- of any other list, the first ones stay, as many as the destination takes -/
  first_pairs : ∀ pairs, pairs ≠ [] →
    Assoc.find? "allowed_address_pairs" source = some (.array pairs) →
    ∃ kept, Assoc.find? "allowed_address_pairs" out = some (.array kept) ∧
      IsLongestStart options.maxAddressPairs kept pairs ∧
      (1 ≤ options.maxAddressPairs → kept ≠ [])
  /-- what is no list stays -/
  odd_pairs : ∀ v, (∀ pairs, v ≠ .array pairs) →
    Assoc.find? "allowed_address_pairs" source = some v →
    Assoc.find? "allowed_address_pairs" out = some v
  /-- a port that learns addresses has no port security -/
  whole : isTorn out = false
  /-- it loses what it has of it -/
  unsecured : isTorn source = true →
    Assoc.find? "port_security_enabled" out = some (.bool false) ∧
      Assoc.find? "security_groups" out = some (.array [])
  /-- any other port keeps it -/
  secured : isTorn source = false →
    Assoc.find? "port_security_enabled" out = Assoc.find? "port_security_enabled" source ∧
      Assoc.find? "security_groups" out = Assoc.find? "security_groups" source
  /-- there is no QoS policy if none is wanted -/
  no_policy : options.withoutQosPolicy = true → Assoc.find? "qos_policy_id" out = none
  /-- the interface is the one of the destination, if it is known -/
  interface : Assoc.find? "vif_id" out =
    ((Assoc.find? (idText source) options.interfaces).map .string).or
      (Assoc.find? "vif_id" source)
  /-- pairs that are cut off are reported once -/
  warned : ∀ pairs kept, Assoc.find? "allowed_address_pairs" source = some (.array pairs) →
    Assoc.find? "allowed_address_pairs" out = some (.array kept) →
    recordsOf pairsTruncated log =
      if kept.length < pairs.length then [truncationRecord options source pairs] else []
  /-- and nothing is if there are none -/
  silent : (¬∃ pairs kept, Assoc.find? "allowed_address_pairs" source = some (.array pairs) ∧
      Assoc.find? "allowed_address_pairs" out = some (.array kept)) →
    recordsOf pairsTruncated log = []

theorem portField_pairs (options : Options) (object : Members) :
    portField options object "allowed_address_pairs" =
      (Assoc.find? "allowed_address_pairs" object).bind (fewPairs options) := by
  simp [portField]

theorem isTorn_eq_false_of_fields
    (h : ∀ key ∈ portFacts, Assoc.find? key out = portField options object key) :
    isTorn out = false := by
  have hlearning : isTrueAt "mac_learning_enabled" out =
      isTrueAt "mac_learning_enabled" object := by
    rw [isTrueAt, h _ (by decide), isTrueAt]
    simp [portField]
  cases htorn : isTorn object with
  | true =>
    have hunsecured : Assoc.find? "port_security_enabled" out = some (.bool false) := by
      rw [h _ (by decide)]
      simp [portField, htorn]
    simp [isTorn, isTrueAt, hunsecured]
  | false =>
    have hkept : isTrueAt "port_security_enabled" out =
        isTrueAt "port_security_enabled" object := by
      rw [isTrueAt, h _ (by decide), isTrueAt]
      simp [portField, htorn]
    rwa [isTorn, hlearning, hkept]

/-- A list with more items than the destination takes is cut, and no other one. -/
theorem recordsOf_cut {kept : List Json}
    (hkept : fewPairs options (.array pairs) = some (.array kept)) :
    recordsOf pairsTruncated
        (if options.maxAddressPairs < pairs.length then [truncationRecord options object pairs]
        else []) =
      if kept.length < pairs.length then [truncationRecord options object pairs] else [] := by
  have hsome : pairs ≠ [] := by
    rintro rfl
    cases hkept
  rw [fewPairs_array hsome] at hkept
  obtain rfl := Json.array.inj (Option.some.inj hkept)
  have hcut : (pairs.take options.maxAddressPairs).length < pairs.length ↔
      options.maxAddressPairs < pairs.length := by
    rw [List.length_take]
    omega
  by_cases hmany : options.maxAddressPairs < pairs.length
  · rw [if_pos hmany, if_pos (hcut.2 hmany)]
    rfl
  · rw [if_neg hmany, if_neg fun h => hmany (hcut.1 h), recordsOf_nil]

/-- Lists of address pairs that lose some are reported. -/
theorem cut_pairs_reported (hfound : Alike pairFacts found object) {kept : List Json}
    (hpairs : Assoc.find? "allowed_address_pairs" object = some (.array pairs))
    (hkept : (Assoc.find? "allowed_address_pairs" object).bind (fewPairs options) =
      some (.array kept)) :
    recordsOf pairsTruncated (fewEnoughPairs kind options found).2 =
      if kept.length < pairs.length then [truncationRecord options object pairs] else [] := by
  rw [hpairs, Option.bind_some] at hkept
  rw [log_fewEnoughPairs ((hfound _ (by decide)).trans hpairs), truncationRecord,
    hfound.idText_eq (by decide)]
  exact recordsOf_cut hkept

/-- No others are: a list that is lost altogether is an empty one. -/
theorem uncut_pairs_unreported (hfound : Alike pairFacts found object)
    (h : ¬∃ pairs kept, Assoc.find? "allowed_address_pairs" object = some (.array pairs) ∧
      (Assoc.find? "allowed_address_pairs" object).bind (fewPairs options) =
        some (.array kept)) :
    recordsOf pairsTruncated (fewEnoughPairs kind options found).2 = [] := by
  by_cases hlist : ∃ pairs, Assoc.find? "allowed_address_pairs" object = some (.array pairs)
  · obtain ⟨pairs, hpairs⟩ := hlist
    have hempty : pairs = [] := by
      by_contra hsome
      exact h ⟨pairs, _, hpairs, (congrArg (Option.bind · (fewPairs options)) hpairs).trans
        (fewPairs_array hsome)⟩
    rw [log_fewEnoughPairs ((hfound _ (by decide)).trans hpairs), hempty]
    rfl
  · rw [log_fewEnoughPairs_quiet, recordsOf_nil]
    exact fun pairs hpairs => hlist ⟨pairs, (hfound _ (by decide)).symm.trans hpairs⟩

/-- Any port can be prepared, and is then acceptable to the destination. -/
theorem prepared_port_acceptable (options : Options) (object : Members) (parent : Option Json) :
    ∃ out log, prepare options .port (.object object) parent = .ok (out, log) ∧
      AcceptablePort options object out log := by
  obtain ⟨out, log, found, hprepare, hfields, hfound, hlog⟩ :=
    port_prepared options object parent
  have hpairs := (hfields "allowed_address_pairs" (by decide)).trans
    (portField_pairs options object)
  refine ⟨out, log, hprepare, ?_⟩
  constructor
  case no_pairs =>
    rw [hpairs]
    cases Assoc.find? "allowed_address_pairs" object with
    | none => simp
    | some v => simp [fewPairs_eq_none_iff]
  case first_pairs =>
    intro pairs hsome hsource
    refine ⟨pairs.take options.maxAddressPairs, ?_, isLongestStart_take _ _, ?_⟩
    · rw [hpairs, hsource, Option.bind_some, fewPairs_array hsome]
    · intro hmax hnone
      rcases List.take_eq_nil_iff.1 hnone with hzero | hempty
      · omega
      · exact hsome hempty
  case odd_pairs =>
    intro v hodd hsource
    rw [hpairs, hsource, Option.bind_some, fewPairs_of_no_array hodd]
  case whole => exact isTorn_eq_false_of_fields hfields
  case unsecured =>
    intro htorn
    rw [hfields _ (by decide), hfields _ (by decide)]
    simp [portField, htorn]
  case secured =>
    intro hwhole
    rw [hfields _ (by decide), hfields _ (by decide)]
    simp [portField, hwhole]
  case no_policy =>
    intro hdrop
    rw [hfields _ (by decide)]
    simp [portField, hdrop]
  case interface =>
    rw [hfields _ (by decide)]
    simp [portField]
  case warned =>
    intro pairs kept hsource hout
    rw [hlog]
    exact cut_pairs_reported hfound hsource (hpairs.symm.trans hout)
  case silent =>
    intro huncut
    rw [hpairs] at huncut
    rw [hlog]
    exact uncut_pairs_unreported hfound huncut

def busyPort : Members :=
  [("allowed_address_pairs", .array [.string "10.0.0.1", .string "10.0.0.2", .string "10.0.0.3"]),
    ("id", .string "p1"), ("mac_learning_enabled", .bool true),
    ("port_security_enabled", .bool true), ("qos_policy_id", .string "q1")]

/-- At a destination that takes two pairs, the port keeps the first two and its QoS policy. -/
example : (prepare { Options.default with maxAddressPairs := 2, interfaces := [("p1", "vif-9")] }
      .port (.object busyPort) none).toOption.map Prod.fst =
    some [("allowed_address_pairs", .array [.string "10.0.0.1", .string "10.0.0.2"]),
      ("id", .string "p1"), ("mac_learning_enabled", .bool true),
      ("port_security_enabled", .bool false), ("qos_policy_id", .string "q1"),
      ("security_groups", .array []), ("vif_id", .string "vif-9")] := rfl

end NetSweep.Migration
