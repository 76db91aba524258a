import NetSweep.Proofs.PreparationLogs

/-!
# Hints for availability zones

A network or router keeps its hints if each names a zone of the destination, and loses all of them
otherwise; the operator hears of the unknown ones unless only the default zone is lost.  If the
zones are unknown, or the hints are no list, they stay and nothing is said.
-/

namespace NetSweep.Migration

variable {kind : ObjectKind} {options : Options} {object m : Members} {zones : List String}
  {zone : String} {hints : List Json}

def hintsCleared : String := "clearing unknown availability zone hints"

def NamesUnknown (zones : List String) (hints : List Json) : Prop :=
  ∃ zone, .string zone ∈ hints ∧ zone ∉ zones

/-- Some hint names no zone of the destination, nor the default one. -/
def NamesForeign (zones : List String) (hints : List Json) : Prop :=
  ∃ zone, .string zone ∈ hints ∧ zone ∉ zones ∧ zone ≠ defaultZone

theorem mem_unknownZones :
    zone ∈ unknownZones zones hints ↔ .string zone ∈ hints ∧ zone ∉ zones := by
  have hstring : ∀ v : Json, v.string? = some zone ↔ v = .string zone := by
    intro v
    cases v <;> simp [Json.string?]
  simp [unknownZones, List.mem_filterMap, hstring]

theorem unknownZones_eq_nil_iff : unknownZones zones hints = [] ↔ ¬NamesUnknown zones hints := by
  rw [List.eq_nil_iff_forall_not_mem, NamesUnknown, not_exists]
  exact forall_congr' fun zone => not_congr mem_unknownZones

theorem any_unknownZones_iff : (unknownZones zones hints).any (· ≠ defaultZone) = true ↔
    NamesForeign zones hints := by
  simp only [List.any_eq_true, mem_unknownZones, decide_eq_true_eq, and_assoc, NamesForeign]

/-! ## One object's hints -/

def clearingRecord (kind : ObjectKind) (object : Members) (zones : List String)
    (hints : List Json) : Log.Record :=
  Log.warning hintsCleared [("kind", kind.name), ("id", idText object),
    ("hints", Text.quotedList ((hints.filterMap Json.string?).filter (· ∉ zones)))]

theorem knownHints_of_known (h : ¬NamesUnknown zones hints) (hzones : options.zones = some zones) :
    knownHints options (.array hints) = .array hints := by
  rw [knownHints, hzones, if_pos]
  simp [unknownZones_eq_nil_iff.2 h]

theorem knownHints_of_unknown (h : NamesUnknown zones hints) (hzones : options.zones = some zones) :
    knownHints options (.array hints) = .array [] := by
  rw [knownHints, hzones, if_neg]
  simpa [unknownZones_eq_nil_iff] using h

theorem knownHints_of_no_zones (h : options.zones = none) (v : Json) :
    knownHints options v = v := by
  cases v <;> simp [knownHints, h]

theorem knownHints_of_no_array {v : Json} (h : ∀ hints, v ≠ .array hints) :
    knownHints options v = v := by
  cases v with
  | array hints => exact absurd rfl (h hints)
  | _ => rfl

theorem log_knownZonesOnly (hzones : options.zones = some zones)
    (hhints : Assoc.find? "availability_zone_hints" m = some (.array hints)) :
    (knownZonesOnly kind options m).2 =
      if (unknownZones zones hints).any (· ≠ defaultZone) then [clearingRecord kind m zones hints]
      else [] := by
  simp only [knownZonesOnly, hzones, hhints]
  cases hunknown : unknownZones zones hints with
  | nil => rfl
  | cons zone rest =>
    rw [if_neg (by simp), ← hunknown]
    rfl

theorem log_knownZonesOnly_foreign (hforeign : NamesForeign zones hints)
    (hzones : options.zones = some zones)
    (hhints : Assoc.find? "availability_zone_hints" m = some (.array hints)) :
    (knownZonesOnly kind options m).2 = [clearingRecord kind m zones hints] := by
  rw [log_knownZonesOnly hzones hhints, if_pos (any_unknownZones_iff.2 hforeign)]

theorem log_knownZonesOnly_quiet (h : ∀ zones hints, options.zones = some zones →
      Assoc.find? "availability_zone_hints" m = some (.array hints) → ¬NamesForeign zones hints) :
    (knownZonesOnly kind options m).2 = [] := by
  cases hzones : options.zones with
  | none => simp [knownZonesOnly, hzones]
  | some zones =>
    by_cases hlist : ∃ hints, Assoc.find? "availability_zone_hints" m = some (.array hints)
    · obtain ⟨hints, hhints⟩ := hlist
      rw [log_knownZonesOnly hzones hhints, if_neg]
      exact fun hforeign => h zones hints hzones hhints (any_unknownZones_iff.1 hforeign)
    · unfold knownZonesOnly
      split
      · rename_i hhints
        exact absurd ⟨_, hhints⟩ hlist
      · rfl

/-! ## Networks and routers -/

def besideHints : List String := "qos_policy_id" :: hardwareFields ++ ["name"]

theorem surrounds_knownZonesOnly (hkind : kind ∈ [ObjectKind.network, .router]) :
    ∃ before after, Surrounds besideHints gatewayMessages kind knownZonesOnly before after := by
  simp only [List.mem_cons, List.not_mem_nil, or_false] at hkind
  rcases hkind with rfl | rfl
  · refine ⟨[withoutQosPolicy, withoutNullHardware, destinationNetwork, destinationGateway],
      [nameOutOfTheWay], rfl, ?_, .cons within_nameOutOfTheWay (by decide) .nil, ?_, ?_⟩
    · exact .cons within_withoutQosPolicy (by decide) <|
        .cons within_withoutNullHardware (by decide) <|
        .cons within_destinationNetwork (by decide) <|
        .cons within_destinationGateway (by decide) .nil
    · simp only [List.forall_mem_cons]
      exact ⟨quiet_withoutQosPolicy.logs _, quiet_withoutNullHardware.logs _,
        quiet_destinationNetwork.logs _, logs_destinationGateway, List.forall_mem_nil _⟩
    · exact List.forall_mem_singleton.2 (quiet_nameOutOfTheWay.logs _)
  · exact ⟨[], [], rfl, .nil, .nil, List.forall_mem_nil _, List.forall_mem_nil _⟩

def hintFacts : List String := ["availability_zone_hints", "id"]

/-- The hints of a prepared object, and what is said of them, follow from the source's. -/
theorem hints_prepared (hkind : kind ∈ [ObjectKind.network, .router]) (options : Options)
    (object : Members) (parent : Option Json) :
    ∃ out log found, prepare options kind (.object object) parent = .ok (out, log) ∧
      Assoc.find? "availability_zone_hints" out =
        (Assoc.find? "availability_zone_hints" object).map (knownHints options) ∧
      Alike hintFacts found object ∧
      recordsOf hintsCleared log =
        recordsOf hintsCleared (knownZonesOnly kind options found).2 := by
  obtain ⟨before, after, hsurrounds⟩ := surrounds_knownZonesOnly hkind
  have hplain : ∀ kind ∈ [ObjectKind.network, .router], kind.needsParent = false ∧
      ∀ key ∈ hintFacts, key ∉ besideHints ∧ key ∉ kind.dropFields ∧ key ≠ "description" := by
    decide
  obtain ⟨halone, hown⟩ := hplain kind hkind
  obtain ⟨out, log, found, hprepare, hfound, hout, hlog⟩ :=
    hsurrounds.prepare halone hown options object parent
  refine ⟨out, log, found, hprepare, ?_, hfound, hlog hintsCleared (by decide)⟩
  rw [hout _ (by decide), rebinds_knownZonesOnly, if_pos rfl, hfound _ (by decide)]

/-- What becomes of the hints of an object at a destination with some zones. -/
structure HintsChecked (zones : List String) (kind : ObjectKind) (source out : Members)
    (log : List Log.Record) : Prop where
  /-- what is left names zones of the destination -/
  known : ∀ hints, Assoc.find? "availability_zone_hints" out = some (.array hints) →
    ∀ zone, .string zone ∈ hints → zone ∈ zones
  /-- one unknown zone clears the list -/
  cleared : ∀ hints, Assoc.find? "availability_zone_hints" source = some (.array hints) →
    NamesUnknown zones hints →
    Assoc.find? "availability_zone_hints" out = some (.array [])
  /-- nothing else does -/
  kept : (∀ hints, Assoc.find? "availability_zone_hints" source = some (.array hints) →
      ¬NamesUnknown zones hints) →
    Assoc.find? "availability_zone_hints" out = Assoc.find? "availability_zone_hints" source
  /-- a foreign zone is reported once, with all the unknown ones in order -/
  warned : ∀ hints, Assoc.find? "availability_zone_hints" source = some (.array hints) →
    NamesForeign zones hints →
    recordsOf hintsCleared log = [clearingRecord kind source zones hints]
  /-- nothing else is -/
  silent : (∀ hints, Assoc.find? "availability_zone_hints" source = some (.array hints) →
      ¬NamesForeign zones hints) →
    recordsOf hintsCleared log = []

theorem hintsChecked_of_prepared {out found : Members} {log : List Log.Record}
    (hzones : options.zones = some zones)
    (hout : Assoc.find? "availability_zone_hints" out =
      (Assoc.find? "availability_zone_hints" object).map (knownHints options))
    (hfound : Alike hintFacts found object)
    (hlog : recordsOf hintsCleared log =
      recordsOf hintsCleared (knownZonesOnly kind options found).2) :
    HintsChecked zones kind object out log where
  known hints hleft zone hzone := by
    rw [hout] at hleft
    obtain ⟨v, hv, hleft⟩ := Option.map_eq_some_iff.1 hleft
    cases v with
    | array source =>
      by_cases hunknown : NamesUnknown zones source
      · rw [knownHints_of_unknown hunknown hzones] at hleft
        obtain rfl := Json.array.inj hleft
        cases hzone
      · rw [knownHints_of_known hunknown hzones] at hleft
        obtain rfl := Json.array.inj hleft
        by_contra hforeign
        exact hunknown ⟨zone, hzone, hforeign⟩
    | _ => cases hleft
  cleared hints hhints hunknown := by
    rw [hout, hhints, Option.map_some, knownHints_of_unknown hunknown hzones]
  kept hknown := by
    rw [hout]
    cases hv : Assoc.find? "availability_zone_hints" object with
    | none => rfl
    | some v =>
      cases v with
      | array hints => rw [Option.map_some, knownHints_of_known (hknown hints hv) hzones]
      | _ => rfl
  warned hints hhints hforeign := by
    rw [hlog, log_knownZonesOnly_foreign hforeign hzones ((hfound _ (by decide)).trans hhints),
      clearingRecord, hfound.idText_eq (by decide)]
    rfl
  silent hquiet := by
    rw [hlog, log_knownZonesOnly_quiet, recordsOf_nil]
    intro zones' hints hzones' hhints
    obtain rfl := Option.some.inj (hzones.symm.trans hzones')
    exact hquiet hints ((hfound _ (by decide)).symm.trans hhints)

/-- A network or router can always be prepared.  If the zones of the destination are known, then
its hints name such zones only: a list with an unknown zone is cleared and any other one kept, and
the unknown zones are reported if one of them is not the default zone.  If they are not known, or
the hints are no list, then the hints stay and nothing is said of them. -/
theorem zone_hints_checked (hkind : kind ∈ [ObjectKind.network, .router]) (options : Options)
    (object : Members) (parent : Option Json) :
    ∃ out log, prepare options kind (.object object) parent = .ok (out, log) ∧
      (∀ zones, options.zones = some zones → HintsChecked zones kind object out log) ∧
      ((options.zones = none ∨
          ∀ hints, Assoc.find? "availability_zone_hints" object ≠ some (.array hints)) →
        Assoc.find? "availability_zone_hints" out =
          Assoc.find? "availability_zone_hints" object ∧
        recordsOf hintsCleared log = []) := by
  obtain ⟨out, log, found, hprepare, hout, hfound, hlog⟩ :=
    hints_prepared hkind options object parent
  refine ⟨out, log, hprepare, fun zones hzones =>
    hintsChecked_of_prepared hzones hout hfound hlog, fun huntold => ⟨?_, ?_⟩⟩
  · rw [hout]
    cases hv : Assoc.find? "availability_zone_hints" object with
    | none => rfl
    | some v =>
      rcases huntold with hzones | hother
      · rw [Option.map_some, knownHints_of_no_zones hzones]
      · rw [Option.map_some, knownHints_of_no_array]
        exact fun hints hlist => hother hints (hv.trans (congrArg some hlist))
  · rw [hlog, log_knownZonesOnly_quiet, recordsOf_nil]
    intro zones hints hzones hhints
    rcases huntold with hnone | hother
    · rw [hnone] at hzones
      cases hzones
    · exact absurd ((hfound _ (by decide)).symm.trans hhints) (hother hints)

def Options.oneZone : Options := { Options.default with zones := some ["az-1"] }

def mixedHints : List Json := [.string "az-1", .int 7, .string "default", .string "az-9"]

/-- A router with these hints loses them all, and both unknown zones are reported. -/
theorem hinted_router_cleared :
    ∃ out log, prepare .oneZone .router
        (.object [("availability_zone_hints", .array mixedHints), ("id", .string "r1")]) none =
          .ok (out, log) ∧
      Assoc.find? "availability_zone_hints" out = some (.array []) ∧
      recordsOf hintsCleared log = [Log.warning hintsCleared [("kind", "router"), ("id", "r1"),
        ("hints", Text.quotedList ["default", "az-9"])]] := by
  have hkind : ObjectKind.router ∈ [ObjectKind.network, .router] := by decide
  obtain ⟨out, log, hprepare, hchecked, -⟩ := zone_hints_checked hkind
    .oneZone [("availability_zone_hints", .array mixedHints), ("id", .string "r1")] none
  have hhints := hchecked ["az-1"] rfl
  have hunknown : (mixedHints.filterMap Json.string?).filter (· ∉ ["az-1"]) =
      ["default", "az-9"] := by decide
  have hwarned := hhints.warned mixedHints rfl ⟨"az-9", by decide, by decide, by decide⟩
  rw [clearingRecord, hunknown] at hwarned
  exact ⟨out, log, hprepare, hhints.cleared mixedHints rfl ⟨"az-9", by decide, by decide⟩, hwarned⟩

end NetSweep.Migration
