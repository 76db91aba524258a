import NetSweep.Proofs.PreparedFields

/-!
# What preparing logs

The log of several adjustments is what each of them says, one after another, and each says little:
an adjustment has its own messages or none.  So the records with some message are those of the one
adjustment that says it, about the object as it finds it.
-/

namespace NetSweep.Migration

variable {kind : ObjectKind} {options : Options} {m : Members} {message : String}
  {messages fields own : List String} {step : Adjustment} {steps before after : List Adjustment}

/-! ## Records with a message -/

def recordsOf (message : String) (log : List Log.Record) : List Log.Record :=
  log.filter fun record => record.message = message

@[simp] theorem recordsOf_nil (message : String) : recordsOf message [] = [] := rfl

@[simp] theorem recordsOf_append (message : String) (log more : List Log.Record) :
    recordsOf message (log ++ more) = recordsOf message log ++ recordsOf message more :=
  List.filter_append ..

def Adjustment.Logs (messages : List String) (step : Adjustment) : Prop :=
  ∀ (kind : ObjectKind) (options : Options) (m : Members),
    ∀ record ∈ (step kind options m).2, record.message ∈ messages

theorem recordsOf_of_logs (h : step.Logs messages) (hmessage : message ∉ messages) :
    recordsOf message (step kind options m).2 = [] := by
  refine List.filter_eq_nil_iff.2 fun record hrecord hsame => hmessage ?_
  rw [← of_decide_eq_true hsame]
  exact h kind options m record hrecord

theorem recordsOf_adjustAll_nil (h : ∀ step ∈ steps, step.Logs messages)
    (hmessage : message ∉ messages) :
    recordsOf message (adjustAll kind options steps m).2 = [] := by
  induction steps generalizing m with
  | nil => rfl
  | cons step steps ih =>
    rw [adjustAll_cons_snd, recordsOf_append,
      recordsOf_of_logs (h step List.mem_cons_self) hmessage,
      ih fun later hlater => h later (List.mem_cons_of_mem _ hlater), List.append_nil]

/-- A message that one adjustment only says is about the object that it finds. -/
theorem recordsOf_adjustAll (hbefore : ∀ step ∈ before, step.Logs messages)
    (hafter : ∀ step ∈ after, step.Logs messages) (hmessage : message ∉ messages) :
    recordsOf message (adjustAll kind options (before ++ step :: after) m).2 =
      recordsOf message (step kind options (adjustAll kind options before m).1).2 := by
  rw [adjustAll_append, recordsOf_append, recordsOf_adjustAll_nil hbefore hmessage,
    List.nil_append, adjustAll_cons_snd, recordsOf_append, recordsOf_adjustAll_nil hafter hmessage,
    List.append_nil]

/-! ## Who says what -/

def Adjustment.Quiet (step : Adjustment) : Prop :=
  ∀ (kind : ObjectKind) (options : Options) (m : Members), (step kind options m).2 = []

theorem Adjustment.Quiet.logs (h : step.Quiet) (messages : List String) : step.Logs messages := by
  intro kind options m record hrecord
  rw [h] at hrecord
  cases hrecord

theorem quiet_withoutQosPolicy : Adjustment.Quiet withoutQosPolicy := fun _ _ _ => rfl

theorem quiet_withoutNullHardware : Adjustment.Quiet withoutNullHardware := fun _ _ _ => rfl

theorem quiet_destinationNetwork : Adjustment.Quiet destinationNetwork := by
  intro kind options m
  unfold destinationNetwork
  split <;> rfl

theorem quiet_nameOutOfTheWay : Adjustment.Quiet nameOutOfTheWay := by
  intro kind options m
  unfold nameOutOfTheWay
  split
  · split <;> rfl
  · rfl

theorem quiet_destinationInterface : Adjustment.Quiet destinationInterface := fun _ _ _ => rfl

def gatewayMessages : List String :=
  ["dropped provider settings of external network", "external network has no mapped gateway"]

theorem logs_destinationGateway : Adjustment.Logs gatewayMessages destinationGateway := by
  intro kind options m record hrecord
  unfold destinationGateway at hrecord
  split at hrecord
  · rcases List.mem_append.1 hrecord with hdropped | hunmapped
    · split at hdropped
      · rw [List.mem_singleton.1 hdropped]
        exact List.mem_cons_self
      · cases hdropped
    · split at hunmapped
      · cases hunmapped
      · rw [List.mem_singleton.1 hunmapped]
        exact List.mem_cons_of_mem _ List.mem_cons_self
  · cases hrecord

def learningMessages : List String := ["disabling port security on port with MAC learning"]

theorem logs_securityOrLearning : Adjustment.Logs learningMessages securityOrLearning := by
  intro kind options m record hrecord
  unfold securityOrLearning at hrecord
  split at hrecord
  · rw [List.mem_singleton.1 hrecord]
    exact List.mem_cons_self
  · cases hrecord

/-! ## Prepared objects -/

/-- The adjustments of a kind around one of them: where the others write and what they say. -/
structure Surrounds (fields messages : List String) (kind : ObjectKind) (step : Adjustment)
    (before after : List Adjustment) : Prop where
  all : adjustments kind = before ++ step :: after
  first : WrittenWithin fields before
  last : WrittenWithin fields after
  logs_first : ∀ step ∈ before, step.Logs messages
  logs_last : ∀ step ∈ after, step.Logs messages

/-- An adjustment finds the fields that no other writes as they are at the source, and leaves them
and its messages as they are in the end. -/
theorem Surrounds.prepare (h : Surrounds fields messages kind step before after)
    (halone : kind.needsParent = false)
    (hown : ∀ key ∈ own, key ∉ fields ∧ key ∉ kind.dropFields ∧ key ≠ "description")
    (options : Options) (object : Members) (parent : Option Json) :
    ∃ out log found, prepare options kind (.object object) parent = .ok (out, log) ∧
      Alike own found object ∧ Alike own out (step kind options found).1 ∧
      ∀ message, message ∉ messages →
        recordsOf message log = recordsOf message (step kind options found).2 := by
  refine ⟨(adjustAll kind options (adjustments kind) (reduced kind object)).1,
    (adjustAll kind options (adjustments kind) (reduced kind object)).2,
    (adjustAll kind options before (reduced kind object)).1, prepare_alone halone,
    fun key hkey => ?_, fun key hkey => ?_, fun message hmessage => ?_⟩
  · obtain ⟨hfield, hdrop, hplain⟩ := hown key hkey
    rw [h.first.keeps hfield, find?_reduced_of_kept object hdrop hplain]
  · rw [h.all, adjustAll_append, adjustAll_cons_fst, h.last.keeps (hown key hkey).1]
  · rw [h.all, recordsOf_adjustAll h.logs_first h.logs_last hmessage]

end NetSweep.Migration
