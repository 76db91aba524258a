import NetSweep.Proofs.Aborts
import NetSweep.Proofs.FailClosed
import NetSweep.Proofs.RequestPaths

/-!
# Passthrough off

Where passthrough is off, cleanup asks for nothing of the manager API, and the client would refuse
if it did.  So the requests of a run, its version query apart, are for paths below the root of the
policy API.  That much depends on the ids, though, which the backend gives: the client leaves a
backslash in an id as it is, a URL reads it as a slash, and the segments of such an id may lead
anywhere.
-/

namespace NetSweep

def Call.kind? : Call → Option Kind
  | .version => none
  | .list kind _ | .get kind _ _ | .delete kind _ _ | .patch kind _ _ _ => some kind
  | .search kind _ => some kind

def Call.ids : Call → List String
  | .version | .search .. => []
  | .list _ parents => parents
  | .get _ parents id | .delete _ parents id | .patch _ parents id _ => parents ++ [id]

def Call.OfPolicy (call : Call) : Prop := ∃ kind, call.kind? = some kind ∧ kind.api = .policy

namespace Cleanup

namespace Setting

variable {σ : Type} {s : Setting σ}

theorem policy_of_reaches (hoff : s.backend.allowsPassthrough = false) {kind : Kind}
    (h : s.Reaches kind) : kind.api = .policy := by
  cases hapi : kind.api with
  | policy => rfl
  | manager => exact absurd (h hapi) (by simp [hoff])

theorem ofPolicy_calls {b : Backend σ} {s : Setting (σ × List Call)} (hb : s.backend = b.recorded)
    (hoff : b.allowsPassthrough = false) (category : Category) (before : List Call) :
    s.CallsKeep category fun _ x => Extends Call.OfPolicy before x.2 := by
  have hpolicy : ∀ kind, s.Reaches kind → kind.api = .policy := fun kind =>
    policy_of_reaches (hb ▸ hoff)
  constructor
  case list => exact fun kind _ _ _ hreach h => hb ▸ h.add ⟨kind, rfl, hpolicy kind hreach⟩
  case search => exact fun kind _ _ _ hreach h => hb ▸ h.add ⟨kind, rfl, hpolicy kind hreach⟩
  case delete => exact fun _ k _ _ _ hreach h => hb ▸ h.add ⟨k.kind, rfl, hpolicy k.kind hreach⟩
  case update => exact fun k _ _ _ _ _ hreach h => hb ▸ h.add ⟨k.kind, rfl, hpolicy k.kind hreach⟩
  case withheldDelete => exact fun _ _ _ _ _ _ h => h
  case withheldUpdate => exact fun _ _ _ _ _ _ h => h

/-- Whatever a step does to the report of a category, it stays the report of that category. -/
theorem category_steps (category : Category) :
    s.StepsKeep category fun r => r.report.category = category where
  note _ _ h := h
  skip _ _ _ h := h
  list _ _ _ _ h := h
  search _ _ _ _ h := h
  deleteOwned kind parents id _ _ r h := by
    obtain ⟨answer, log, result, report, -, hrun, hrecorded⟩ :=
      s.deleteOwned_effect kind parents id r
    rw [hrun]
    cases hrecorded <;> exact h
  deleteAuxiliary kind parents id _ _ r h := by
    obtain ⟨log, hrun⟩ := s.deleteAuxiliary_changes kind parents id r
    rwa [hrun]
  deleteShared kind parents id _ _ r h := by
    obtain ⟨log, hrun⟩ := s.deleteShared_changes kind parents id r
    rwa [hrun]
  update id body _ kind _ _ r h := by
    obtain ⟨log, hrun⟩ := s.update_changes kind [] id body r
    rwa [hrun]

end Setting

end Cleanup

/-! ## The report on DHCP -/

namespace Sweep

open Cleanup

variable {σ : Type} {c : Sweep σ}

theorem sweepCategory_category {category : Category} {t : Trace σ} {report : Report.Section}
    (h : (c.sweepCategory category t).1 = .ok report) : report.category = category := by
  have hsteps : (c.setting category).StepsKeep category fun r => r.report.category = category :=
    Setting.category_steps category
  rcases sweepCategory_guarded (t := t) hsteps.guards rfl with ⟨r, hr, hrun⟩ | ⟨e, r, -, hrun⟩
  · rw [hrun] at h
    obtain rfl := Except.ok.inj h
    exact hr
  · rw [hrun] at h
    cases h

theorem sweepCategory_dhcp (hoff : c.backend.allowsPassthrough = false) (t : Trace σ) :
    (c.sweepCategory .dhcp t).1 = .ok (.skip .dhcp Setting.noPassthrough) := by
  have hoff' : (c.setting .dhcp).backend.allowsPassthrough = false := hoff
  rw [sweepCategory_eq, Setting.sweep, Setting.sweepDhcp, hoff']
  rfl

theorem sweepAll_dhcp (hoff : c.backend.allowsPassthrough = false) {t : Trace σ} {report : Report}
    (h : (c.sweepAll t).1 = .ok report) :
    ∀ r ∈ report.categories, r.category = .dhcp → r = .skip .dhcp Setting.noPassthrough := by
  refine sweepAll_reports (c := c) (fun category t r hr hdhcp => ?_) h
  obtain rfl := (sweepCategory_category hr).symm.trans hdhcp
  exact Except.ok.inj (hr.symm.trans (sweepCategory_dhcp hoff t))

end Sweep

/-! ## Refusals of the client -/

namespace Manager

open Http Url

variable {σ : Type} {m : Manager σ} {kind : Kind} {parents : List String} {id : String}
  {x : σ × List Request} {plain : Prop}

/-- Every operation on the kind is refused for want of passthrough, and nothing is sent. -/
structure Refuses (m : Manager σ) (kind : Kind) : Prop where
  list : ∀ parents x, m.list kind parents x = (.error (.passthroughDisabled kind), x)
  get : ∀ parents id x, m.get kind parents id x = (.error (.passthroughDisabled kind), x)
  delete : ∀ parents id x, m.delete kind parents id x = (.error (.passthroughDisabled kind), x)
  patch : ∀ parents id body x,
    m.patch kind parents id body x = (.error (.passthroughDisabled kind), x)
  search : ∀ tags x, m.search kind tags x = (.error (.passthroughDisabled kind), x)

theorem refuses (hoff : m.allowPassthrough = false) (hkind : kind.api = .manager) :
    m.Refuses kind := by
  have hrequire : requireApi m.allowPassthrough kind = .error (.passthroughDisabled kind) := by
    simp [requireApi, hoff, hkind]
  have hcollection : ∀ parents,
      m.collectionUrl kind parents = .error (.passthroughDisabled kind) := fun parents => by
    rw [collectionUrl, requireAccess, hrequire]
  have hobject : ∀ parents id,
      m.objectUrl kind parents id = .error (.passthroughDisabled kind) := fun parents id => by
    rw [objectUrl, hcollection]
    rfl
  constructor
  case list => exact fun parents x => list_of_list? m (by rw [list?, hcollection])
  case get => exact fun parents id x => by rw [get, hobject]
  case delete => exact fun parents id x => by rw [delete, hobject]
  case patch => exact fun parents id body x => by rw [patch, hobject]
  case search => exact fun tags x => search_of_search? m (by rw [search?, hrequire])

/-! ## Requests of the client -/

theorem connect_base (network : Network σ) (patience : Patience) (c : Connection) :
    (connect network patience c).base = c.baseUrl := by
  rw [connect]

theorem connect_recorded (network : Network σ) (patience : Patience) (c : Connection) :
    (connect network patience c).recorded = connect network.recorded patience c := by
  rw [recorded, connect, connect]

/-- The requests of a call stay below the root of the policy API if its ids are plain. -/
def Stays (plain : Prop) (before after : List Request) : Prop :=
  Extends (fun r => plain → r.url.path.UnderPolicy) before after

theorem list_stays (hbase : IsOrigin m.base) (hkind : kind.api = .policy)
    (hids : plain → ∀ id ∈ parents, '\\' ∉ id.toList) :
    Stays plain x.2 (m.recorded.list kind parents x).2.2 :=
  list_keeps (m.recorded_admits (fun _ path => plain → path.UnderPolicy) x.2)
    (fun _ htext _ htarget hplain =>
      underPolicy_of_collectionUrl hbase hkind (hids hplain) htext htarget) (.refl _ x.2)

theorem search_stays (hbase : IsOrigin m.base) (hkind : kind.api = .policy)
    {tags : List TagPredicate} : Stays plain x.2 (m.recorded.search kind tags x).2.2 := by
  refine search_keeps (m.recorded_admits (fun _ path => plain → path.UnderPolicy) x.2) ?_
    (.refl _ x.2)
  intro url htarget _
  rw [hkind] at htarget
  exact underPolicy_of_searchUrl hbase htarget

theorem delete_stays (hbase : IsOrigin m.base) (hkind : kind.api = .policy)
    (hids : plain → ∀ name ∈ parents ++ [id], '\\' ∉ name.toList) :
    Stays plain x.2 (m.recorded.delete kind parents id x).2.2 :=
  delete_keeps (m.recorded_admits (fun _ path => plain → path.UnderPolicy) x.2)
    (fun _ htext _ htarget hplain =>
      underPolicy_of_objectUrl hbase hkind (hids hplain) htext htarget) (.refl _ x.2)

theorem patch_stays (hbase : IsOrigin m.base) (hkind : kind.api = .policy)
    (hids : plain → ∀ name ∈ parents ++ [id], '\\' ∉ name.toList) {body : Json} :
    Stays plain x.2 (m.recorded.patch kind parents id body x).2.2 :=
  patch_keeps (m.recorded_admits (fun _ path => plain → path.UnderPolicy) x.2) hkind
    (fun _ htext _ htarget hplain =>
      underPolicy_of_objectUrl hbase hkind (hids hplain) htext htarget) (.refl _ x.2)

end Manager

/-! ## Requests of a run -/

namespace Cleanup

open Http Url

/-- No id that the event's call gave holds a backslash. -/
def Event.Plain (event : Event) : Prop :=
  ∀ call ∈ event.call?, ∀ id ∈ call.ids, '\\' ∉ id.toList

instance : DecidablePred Event.Plain := fun event =>
  inferInstanceAs (Decidable (∀ call ∈ event.call?, ∀ id ∈ call.ids, '\\' ∉ id.toList))

/-- Where no id given between two points of a run holds a backslash, the requests between them are
for paths below the root of the policy API. -/
def Confined (before : List Event) (sent : List Request) (journal : List Event)
    (requests : List Request) : Prop :=
  ∃ events new, journal = before ++ events ∧ requests = sent ++ new ∧
    ((∀ event ∈ events, event.Plain) → ∀ r ∈ new, r.url.path.UnderPolicy)

namespace Confined

variable {before journal : List Event} {sent requests requests' : List Request}

theorem refl (before : List Event) (sent : List Request) : Confined before sent before sent :=
  ⟨[], [], (List.append_nil _).symm, (List.append_nil _).symm, fun _ => List.forall_mem_nil _⟩

theorem add (h : Confined before sent journal requests) {event : Event}
    (hstays : Manager.Stays event.Plain requests requests') :
    Confined before sent (journal ++ [event]) requests' := by
  obtain ⟨events, new, rfl, rfl, hnew⟩ := h
  obtain ⟨more, rfl, hmore⟩ := hstays
  refine ⟨events ++ [event], new ++ more, List.append_assoc .., List.append_assoc .., ?_⟩
  intro hplain
  obtain ⟨hevents, hevent⟩ := List.forall_mem_append.1 hplain
  exact List.forall_mem_append.2
    ⟨hnew hevents, fun r hr => hmore r hr (hevent event List.mem_cons_self)⟩

end Confined

namespace Setting

variable {σ : Type} {m : Manager σ} {s : Setting (σ × List Request)}

theorem confined_calls (hs : s.backend = m.recorded.backend) (hoff : m.allowPassthrough = false)
    (hbase : IsOrigin m.base) (category : Category) (before : List Event) (sent : List Request) :
    s.CallsKeep category fun journal x => Confined before sent journal x.2 := by
  have hpolicy : ∀ kind, s.Reaches kind → kind.api = .policy := fun kind =>
    policy_of_reaches (hs ▸ hoff)
  constructor
  case list =>
    intro kind parents journal x hreach h
    rw [hs]
    exact h.add (Manager.list_stays hbase (hpolicy kind hreach) fun hplain => hplain _ rfl)
  case search =>
    intro kind tags journal x hreach h
    rw [hs]
    exact h.add (Manager.search_stays hbase (hpolicy kind hreach))
  case delete =>
    intro role target journal x _ hreach h
    rw [hs]
    exact h.add (Manager.delete_stays hbase (hpolicy target.kind hreach) fun hplain =>
      hplain _ rfl)
  case update =>
    intro target body journal x _ _ hreach h
    rw [hs]
    exact h.add (Manager.patch_stays hbase (hpolicy target.kind hreach) fun hplain =>
      hplain _ rfl)
  case withheldDelete => exact fun _ _ _ x _ _ h => h.add (.refl _ x.2)
  case withheldUpdate => exact fun _ _ _ x _ _ h => h.add (.refl _ x.2)

end Setting

end Cleanup

theorem Sweep.confined {σ : Type} {m : Manager σ} {c : Sweep (σ × List Http.Request)}
    (hc : c.backend = m.recorded.backend) (hoff : m.allowPassthrough = false)
    (hbase : Http.Url.IsOrigin m.base) (t : Cleanup.Trace (σ × List Http.Request)) :
    (∀ category, Cleanup.Confined t.journal t.backend.2 (c.sweepCategory category t).2.journal
      (c.sweepCategory category t).2.backend.2) ∧
    Cleanup.Confined t.journal t.backend.2 (c.sweepAll t).2.journal (c.sweepAll t).2.backend.2 :=
  keeps_of_calls
    (fun category => Cleanup.Setting.confined_calls hc hoff hbase category t.journal t.backend.2)
    (.refl t.journal t.backend.2)

namespace Program

open Http Url Cleanup

variable {σ : Type}

/-- After start-up a run without passthrough sends nothing but requests below the root of the policy
API, as long as its ids are plain. -/
theorem Swept.requests {w : Surroundings σ} {line : CommandLine} {f : Files} {x : σ}
    {before : List Request} {found : Found (σ × List Request)} {result : Except Failure Report}
    {network : σ × List Request} (h : Swept w.recorded line f (x, before) found result network)
    (hoff : found.connection.allowPassthrough = false)
    (hbase : IsOrigin found.connection.baseUrl)
    (hplain : ∀ event ∈
      ((found.sweep w.recorded line).sweepAll (.start found.network)).2.journal, event.Plain) :
    ∃ probe sent, Probe (found.manager w.recorded) probe ∧
      network.2 = before ++ probe :: sent ∧ ∀ r ∈ sent, r.url.path.UnderPolicy := by
  have hbackend : (found.sweep w.recorded line).backend =
      (Manager.connect w.network w.patience found.connection).recorded.backend :=
    congrArg Manager.backend (Manager.connect_recorded w.network w.patience found.connection).symm
  have hname := Manager.connect_base w.network w.patience found.connection
  obtain ⟨probe, hprobe, hstart⟩ := h.sent
  obtain ⟨-, events, sent, hjournal, hsent, hunder⟩ :=
    Sweep.confined hbackend hoff (hname ▸ hbase) (.start found.network)
  refine ⟨probe, sent, hprobe, ?_, hunder fun event hevent => hplain event ?_⟩
  · rw [h.network, hsent]
    show found.network.2 ++ sent = before ++ probe :: sent
    rw [hstart, List.append_assoc, List.singleton_append]
  · rw [hjournal]
    exact hevent

/-- Where the backend does not allow passthrough, no run of cleanup asks for a kind of the manager
API, and DHCP is reported as skipped, with nothing counted.  The client without passthrough refuses
every operation on such a kind and sends nothing; and the requests of a run are for paths below the
root of the policy API, but for the version query, as long as no id that the run gives the client
holds a backslash. -/
theorem passthrough_stays_off (authority : Option Knowledge) (config : Config) (plan : Plan) :
    (∀ {σ : Type} (b : Backend σ) (t : Trace (σ × List Call)), b.allowsPassthrough = false →
      let c : Sweep (σ × List Call) := { backend := b.recorded, authority, config, plan }
      (∀ category, Extends Call.OfPolicy t.backend.2 (c.sweepCategory category t).2.backend.2) ∧
      Extends Call.OfPolicy t.backend.2 (c.sweepAll t).2.backend.2) ∧
    (∀ {σ : Type} (b : Backend σ) (t : Trace σ), b.allowsPassthrough = false →
      let c : Sweep σ := { backend := b, authority, config, plan }
      (c.sweepCategory .dhcp t).1 = .ok (.skip .dhcp Setting.noPassthrough) ∧
      ∀ report, (c.sweepAll t).1 = .ok report → ∀ r ∈ report.categories,
        r.category = .dhcp → r = .skip .dhcp Setting.noPassthrough) ∧
    (∀ {σ : Type} (m : Manager σ), m.allowPassthrough = false →
      (∀ kind : Kind, kind.api = .manager → m.Refuses kind) ∧
      (IsOrigin m.base → ∀ t : Trace (σ × List Request),
        let c : Sweep (σ × List Request) :=
          { backend := m.recorded.backend, authority, config, plan }
        (∀ category, Confined t.journal t.backend.2 (c.sweepCategory category t).2.journal
          (c.sweepCategory category t).2.backend.2) ∧
        Confined t.journal t.backend.2 (c.sweepAll t).2.journal (c.sweepAll t).2.backend.2)) ∧
    (∀ {σ : Type} (w : Surroundings σ) {line : CommandLine},
      ¬(line.connection.isSome ∧ line.snapshot.isSome) → ∀ (f : Files) (x : σ)
        (before : List Request),
      let outcome := run w.recorded line f (x, before)
      Stopped w.recorded line f before outcome.result outcome.network.2 ∨
      ∃ found, Swept w.recorded line f (x, before) found outcome.result outcome.network ∧
        (found.connection.allowPassthrough = false → IsOrigin found.connection.baseUrl →
          (∀ event ∈ ((found.sweep w.recorded line).sweepAll (.start found.network)).2.journal,
            event.Plain) →
          ∃ probe sent, Probe (found.manager w.recorded) probe ∧
            outcome.network.2 = before ++ probe :: sent ∧
              ∀ r ∈ sent, r.url.path.UnderPolicy)) := by
  refine ⟨fun b t hoff => ?_, fun b t hoff => ?_, fun m hoff => ?_,
    fun w line hline f x before => ?_⟩
  · intro c
    have hcalls : ∀ category, (c.setting category).CallsKeep category
        fun _ x => Extends Call.OfPolicy t.backend.2 x.2 := fun category =>
      Setting.ofPolicy_calls rfl hoff category t.backend.2
    exact Sweep.keeps_of_calls hcalls (.refl _ t.backend.2)
  · intro c
    exact ⟨Sweep.sweepCategory_dhcp hoff t, fun report => Sweep.sweepAll_dhcp hoff⟩
  · exact ⟨fun kind => Manager.refuses hoff, fun hbase t => Sweep.confined rfl hoff hbase t⟩
  · intro outcome
    rcases run_cases w hline f x before with hstopped | ⟨found, hswept⟩
    · exact .inl hstopped
    · exact .inr ⟨found, hswept, hswept.requests⟩

def curt : Script :=
  { rules := [{ only := none, keep := false, reply := telling.default }], default := .hangUp }

def scripted : Surroundings Script :=
  { network := Script.network, patience := .upTo 1, database := fun _ => none }

def directOnly : CommandLine :=
  { CommandLine.empty with host := some "http://nsx", allowPassthrough := some false }

def directConnection : Manager.Connection :=
  { host := "http://nsx", username := "admin", password := "", allowPassthrough := false
    insecure := false, timeout := 60 }

theorem isOrigin_direct : IsOrigin directConnection.baseUrl := by
  have hname : directConnection.baseUrl = "http://nsx" := rfl
  rw [hname]
  exact isOrigin_nsx

/-- What start-up finds by those options on that network. -/
theorem Swept.of_curt {found : Found (Script × List Request)} {result : Except Failure Report}
    {network : Script × List Request}
    (h : Swept scripted.recorded directOnly Files.empty (curt, []) found result network) :
    found.connection = directConnection ∧
      ∀ event ∈ ((found.sweep scripted.recorded directOnly).sweepAll
        (.start found.network)).2.journal, event.Plain := by
  have hfile : found.file = .default := (Except.ok.inj h.starts.read).symm
  have hconnection : found.connection = directConnection := by
    have hhost := h.starts.host
    rw [Found.settings, hfile] at hhost
    exact (Except.ok.inj hhost).symm
  have hauthority : found.authority = none := by
    have hgiven : Source.given directOnly Settings.default.database = [] := by decide
    have hloaded := h.starts.loaded
    rw [hfile, hgiven] at hloaded
    generalize found.authority = ids at hloaded
    cases hloaded
    rfl
  have hnetwork : found.network =
      ((Manager.connect scripted.recorded.network (.upTo 1) directConnection).version
        (curt, [])).2 := by
    have hanswered := congrArg Prod.snd h.starts.answered
    rw [hconnection] at hanswered
    exact hanswered.symm
  refine ⟨hconnection, ?_⟩
  rw [Found.sweep, Found.manager, Found.settings, hfile, hconnection, hauthority, hnetwork]
  decide +kernel

/-- A shared store without passthrough; and a manager that closes the connection on the first list,
which is for the policy API. -/
theorem first_list_stays_below :
    Extends Call.OfPolicy (Trace.start (Store.shared, ([] : List Call))).backend.2
      ({ backend := (Store.backend false).recorded, authority := none
         config := .default, plan := .standard : Sweep (Store × List Call) }.sweepAll
        (.start (Store.shared, []))).2.backend.2 ∧
    ({ backend := Store.backend false, authority := none
       config := .default, plan := .standard : Sweep Store }.sweepCategory .dhcp
        (.start Store.shared)).1 = .ok (.skip .dhcp Setting.noPassthrough) ∧
    (Manager.connect Script.network (.upTo 1) directConnection).Refuses .logicalPort ∧
    ∃ (found : Found (Script × List Request)) (probe : Request) (sent : List Request),
      Probe (found.manager scripted.recorded) probe ∧
      (run scripted.recorded directOnly Files.empty (curt, [])).network.2 =
        [] ++ probe :: sent ∧
      sent.length = 1 ∧ ∀ r ∈ sent, r.url.path.UnderPolicy := by
  obtain ⟨hcalls, hreport, hclient, hrun⟩ := passthrough_stays_off none .default .standard
  have hstore := hcalls (Store.backend false) (.start (Store.shared, [])) rfl
  have hdhcp := hreport (Store.backend false) (.start Store.shared) rfl
  obtain ⟨hrefuses, -⟩ := hclient (Manager.connect Script.network (.upTo 1) directConnection) rfl
  refine ⟨hstore.2, hdhcp.1, hrefuses .logicalPort rfl, ?_⟩
  have hline : ¬(directOnly.connection.isSome ∧ directOnly.snapshot.isSome) := by decide
  have htwo : (run scripted.recorded directOnly Files.empty (curt, [])).network.2.length = 2 := by
    decide +kernel
  rcases hrun scripted hline Files.empty curt [] with hstopped | ⟨found, hswept, hrequests⟩
  · rcases hstopped.sent with hsent | ⟨_, _, _, -, -, -, hsent⟩ <;> simp [hsent] at htwo
  · obtain ⟨hconnection, hplain⟩ := hswept.of_curt
    obtain ⟨probe, sent, hprobe, hsent, hunder⟩ :=
      hrequests (by rw [hconnection]; rfl) (hconnection ▸ isOrigin_direct) hplain
    exact ⟨found, probe, sent, hprobe, hsent, by simpa [hsent] using htwo, hunder⟩

/-- The id of a segment may name a logical port. -/
example : ((Manager.connect Script.network (.upTo 1) directConnection).recorded.delete .segment []
    "..\\..\\..\\..\\..\\api\\v1\\logical-ports\\lp" (telling, [])).2.2.map (·.url.path) =
      [.segments ["api", "v1", "logical-ports", "lp"]] := by decide +kernel

end Program

end NetSweep
