import PlayTogether.System.Agreement

/-! What a successful action of the controller says about the writes of the native core
under it, and the two places where it says more than was written. -/

namespace PlayTogether.System
open PlayTogether.Library PlayTogether.Device PlayTogether.Pair PlayTogether.Native PlayTogether.Controller

/-- The action succeeded by its own account. -/
def Succeeded (result : ControllerActionResult) : Prop :=
  result.outcome = .accepted ∨ result.outcome = .acceptedUnconfirmed ∨ result.outcome = .idempotent

section Success
variable {J A O P S γ : Type} {c : PairController (NativePairCore J A O) P S} {action : ControllerAction}
  {result : ControllerActionResult}
  {run : Exec (ControllerEvent NativeCall γ) (PairController (NativePairCore J A O) P S) ControllerActionResult}

/-- The controller reports the evidence of the receipt it was given. -/
structure Reports (action : ControllerAction) (receipt : PairActionReceipt) (result : ControllerActionResult) :
    Prop where
  outcome : result.outcome =
    if receipt.evidence = .broadcastAcknowledgementOnly then .acceptedUnconfirmed else .accepted
  evidence : result.evidence = some receipt.evidence
  managed : result.managedState = PairController.acceptedState action

theorem record_fails {c : PairController (NativePairCore J A O) P S} {outcome : ControllerActionOutcome}
    {evidence : Option PairBackendEvidence} {failure : Option ControllerFailure}
    (failed : outcome ≠ .accepted ∧ outcome ≠ .acceptedUnconfirmed ∧ outcome ≠ .idempotent)
    (returned : some (c.record action outcome evidence failure) = some result) : ¬Succeeded result := by
  obtain rfl := Option.some.inj returned
  exact fun succeeded => succeeded.elim failed.1 fun rest => rest.elim failed.2.1 failed.2.2

/-- An uncalled action succeeds only as the repetition of a claimed state. -/
theorem uncalled_succeeds [PairBackend (NativePairCore J A O) NativeCall] (uncalled : PairController.Uncalled action c run) (returned : run.out = some result)
    (succeeded : Succeeded result) : PairController.Claims action c ∧ c.unresolvedAction = false := by
  rcases uncalled.answered result returned with rejected | ⟨-, claimed⟩
  · simp [Succeeded, rejected] at succeeded
  · exact claimed

variable [Journal.UncertaintyJournal S γ]

theorem reduce_reports {older : Bool} {attempted : PairActionResult}
    (exit : PairController.ReduceExit action older c attempted run) (returned : run.out = some result)
    (succeeded : Succeeded result) : ∃ receipt, attempted = .accepted receipt ∧ Reports action receipt result := by
  cases exit with
  | unknown => exact absurd succeeded (record_fails (by simp) returned)
  | rejectionKept => exact absurd succeeded (record_fails (by simp) returned)
  | rejection failure mayClear exit =>
    cases exit with
    | killed => cases returned
    | failed => exact absurd succeeded (record_fails (by simp) returned)
    | cleared => exact absurd succeeded (record_fails (by simp) returned)
  | unexpected => exact absurd succeeded (record_fails (by simp) returned)
  | probeKilled => cases returned
  | unconfirmed => exact absurd succeeded (record_fails (by simp) returned)
  | confirmed receipt observation probe expected ready exit =>
    cases exit with
    | killed => cases returned
    | failed => exact absurd succeeded (record_fails (by simp) returned)
    | cleared =>
      obtain rfl := Option.some.inj returned
      exact ⟨receipt, rfl, rfl, rfl, rfl⟩

variable [JblRoleControl J] [AuraRoleControl A] [BroadcastResultObserver O]

/-- A successful action called the core once, and the core accepted it. -/
structure Effected (action : ControllerAction) (c : PairController (NativePairCore J A O) P S)
    (issued : List NativeCall) (result : ControllerActionResult) : Prop where
  admitted : PairController.Admitted action c
  accepted : ∃ looks core trace after receipt,
    PairController.Looked (PairController.Claims action c) c.backend looks core ∧ issued = looks ++ trace ∧
      PairController.backendAction action core = ⟨trace, after, some (.accepted receipt)⟩ ∧ Reports action receipt result

theorem mutate_succeeds (exit : PairController.MutateExit action c run) (agree : Agree c)
    (returned : run.out = some result) (succeeded : Succeeded result) :
    Effected action c (backendCalls run.trace) result ∨
      (PairController.Claims action c ∧ c.unresolvedAction = false) ∧ roleWrites (backendCalls run.trace) = [] := by
  rcases exit.split with passed | stalled | began
  · exact .inr ⟨uncalled_succeeds passed.toUncalled returned succeeded, (looked_native passed.looked).1⟩
  · exact .inr ⟨uncalled_succeeds stalled.toUncalled returned succeeded, (looked_native stalled.looked).1⟩
  · cases began_native began agree with
    | killed => cases returned
    | called admitted free looked call issued backend reduced =>
      obtain ⟨receipt, rfl, reports⟩ := reduce_reports reduced returned succeeded
      exact .inl ⟨admitted, _, _, _, _, receipt, looked, issued, call, reports⟩

end Success

section Starts
variable {J A O P S γ : Type} [JblRoleControl J] [AuraRoleControl A] [BroadcastResultObserver O]
  [PairConfigurationProbe P] [Journal.UncertaintyJournal S γ]

/-- The native core would not answer a START from its own memory. -/
def Afresh (core : NativePairCore J A O) : Prop :=
  core.lifecycle = .linked → (AuraRoleControl.health core.aura).1 ≠ .answered .ready

theorem start_remembered {core : NativePairCore J A O} (free : core.unresolved = none)
    (arrived : core.lifecycle = .linked) (live : (AuraRoleControl.health core.aura).1 = .answered .ready) :
    roleWrites (NativePairCore.start core).trace = [] := by
  have checked : NativePairCore.alreadyAt .linked core =
      ⟨[.auraHealth (some .ready)], NativePairCore.auraField.set (AuraRoleControl.health core.aura).2 core, some true⟩ := by
    have answer : AuraRoleControl.health core.aura = (.answered .ready, (AuraRoleControl.health core.aura).2) := by
      rw [← live]
    simp only [NativePairCore.alreadyAt, get_bind_run, arrived, if_true, NativePairCore.auraHealth]
    rw [call_answered answer]
    rfl
  simp only [NativePairCore.start, NativePairCore.openTransaction, get_bind_run, free]
  rw [bind_value checked]
  rfl

theorem start_written_iff {core after : NativePairCore J A O} {trace : List NativeCall} {receipt : PairActionReceipt}
    (call : NativePairCore.start core = ⟨trace, after, some (.accepted receipt)⟩) :
    roleWrites trace = acceptedSequence startSequence ↔ Afresh core := by
  have exit := NativePairCore.start_exit core
  have remembered (free : core.unresolved = none) := start_remembered free
  rw [call] at exit remembered
  generalize attempted : PairActionResult.accepted receipt = result at exit
  cases exit with
  | latched => cases attempted
  | idempotent arrived live => exact iff_of_false (by decide) fun afresh => afresh arrived live
  | rejected => cases attempted
  | unknown => cases attempted
  | accepted writes executed lifecycle free =>
    apply iff_of_true writes
    intro arrived live
    rw [remembered free arrived live] at writes
    cases writes

variable {c : PairController (NativePairCore J A O) P S} {history : List (ControllerEvent NativeCall γ)}
  {result : ControllerActionResult}

/-- A START of an unlinked controller finds a core that cannot answer from memory. -/
def StartsAfresh (operation : ControllerOperation) (c : PairController (NativePairCore J A O) P S) : Prop :=
  operation = .mutate .start → c.managedState ≠ .linked → Afresh c.backend

/-- A START of an unlinked controller that ends linked has written its whole sequence. -/
def StartWritten (operation : ControllerOperation) (c : PairController (NativePairCore J A O) P S) : Prop :=
  operation = .mutate .start → c.managedState ≠ .linked →
    ∀ result, (PairController.mutate .start c).out = some result → Succeeded result → result.managedState = .linked →
      roleWrites (backendCalls (PairController.mutate .start c).trace) = acceptedSequence startSequence

theorem mutate_start_written_iff (agree : Agree c) (unlinked : c.managedState ≠ .linked)
    (returned : (PairController.mutate .start c).out = some result) (succeeded : Succeeded result) :
    roleWrites (backendCalls (PairController.mutate .start c).trace) = acceptedSequence startSequence ↔
      Afresh c.backend := by
  have unclaimed : ¬PairController.Claims .start c := by
    intro claimed
    obtain ⟨lifecycle, same⟩ := claimed
    exact unlinked (congrArg Prod.fst (Option.some.inj same)).symm
  rcases mutate_succeeds (PairController.mutate_exit .start c) agree returned succeeded with
    ⟨-, looks, core, trace, after, receipt, looked, issued, call, -⟩ | ⟨⟨claimed, -⟩, -⟩
  · rw [issued]
    cases looked with
    | read why => exact absurd why unclaimed
    | skipped => exact start_written_iff call
  · exact absurd claimed unclaimed

/-- A run whose every START of an unlinked controller finds a core that cannot answer
from memory writes the whole sequence in each of them; and no other START does. -/
theorem start_written_exactly_afresh {allowed : ControllerOperation → PairController (NativePairCore J A O) P S → Prop}
    (run : PairController.ControllerRun IsNew allowed c history) :
    ((∀ operation c, allowed operation c → StartsAfresh operation c) →
      PairController.ControllerRun IsNew StartWritten c history) ∧
    ∀ result, c.managedState ≠ .linked → (PairController.mutate .start c).out = some result → Succeeded result →
      (roleWrites (backendCalls (PairController.mutate .start c).trace) = acceptedSequence startSequence ↔
        Afresh c.backend) := by
  refine ⟨fun afresh => ?_, fun result unlinked returned succeeded =>
    mutate_start_written_iff (controllerRun_agrees (fun _ new => new) run) unlinked returned succeeded⟩
  induction run with
  | opened new probe journal => exact .opened new probe journal
  | @step c history operation run permitted returned written =>
    refine .step operation written ?_ returned
    intro starts unlinked result answered succeeded _
    exact (mutate_start_written_iff (controllerRun_agrees (fun _ new => new) run) unlinked answered succeeded).mpr
      (afresh operation c permitted starts unlinked)

/-- A fresh process over speakers that accept everything, whose third membership read
finds the pair unconfirmed. -/
def lostEvidence : PairController (NativePairCore RecordingJbl MockAura MockObserver) Probe Journal.FileUncertaintyJournal :=
  PairController.withJournal (NativePairCore.acceptingCore 2)
    ⟨[.ok .ready, .ok .ready, .ok .notReady, .ok .ready, .ok .ready]⟩ ⟨Journal.StateRoot.empty, .clean⟩

/-- The first START of a process. -/
theorem start_written_exactly_afresh_first :
    (∃ history, PairController.ControllerRun IsNew StartWritten
      (PairController.perform (.mutate .start) lostEvidence).state history) ∧
      roleWrites (backendCalls (PairController.mutate .start lostEvidence).trace) = acceptedSequence startSequence := by
  have opened : PairController.ControllerRun IsNew StartsAfresh lostEvidence [] :=
    .opened ⟨_, _, _, _, _, _, rfl⟩ _ _
  have started := opened.step (.mutate .start) (fun _ _ => nofun) (by decide)
  constructor
  · exact ⟨_, (start_written_exactly_afresh started).1 fun _ _ afresh => afresh⟩
  · exact ((start_written_exactly_afresh opened).2 _ (by decide) (Option.eq_some_of_isSome (by decide))
      (.inr (.inl (by decide)))).mpr
      nofun

/-- A START after a status read that lost its evidence ends accepted and linked without
one role write: the core answers from its own memory. -/
theorem start_skipped_after_lost_evidence :
    ∃ (c : PairController (NativePairCore RecordingJbl MockAura MockObserver) Probe Journal.FileUncertaintyJournal)
      (history : List (ControllerEvent NativeCall Journal.JournalEvent)) (result : ControllerActionResult),
      PairController.ControllerRun IsNew (fun _ _ => True) c history ∧ c.managedState = .unknown ∧
        (PairController.mutate .start c).out = some result ∧ result.outcome = .accepted ∧
        result.managedState = .linked ∧ roleWrites (backendCalls (PairController.mutate .start c).trace) = [] := by
  have opened : PairController.ControllerRun IsNew (fun _ _ => True) lostEvidence [] :=
    .opened ⟨_, _, _, _, _, _, rfl⟩ _ _
  have linked := opened.step (.mutate .start) trivial (by decide)
  have downgraded := linked.step .status trivial (by decide)
  exact ⟨_, _, _, downgraded, by decide, Option.eq_some_of_isSome (by decide), by decide, by decide, by decide⟩

end Starts

section StaysAck
variable {J A N M : Type}

/-- The core's broadcast observer is the acknowledgement variant. -/
def Acknowledges (core : NativePairCore J A (ProductionBroadcastObserver N M)) : Prop := core.broadcastObserver.IsAck

/-- A successful broadcast write yields an acknowledgement only. -/
def WeakEvidence (call : NativeCall) : Prop :=
  ∀ action evidence, call = .observerExecute action (some (.ok evidence)) → evidence = .ackOnly

/-- The process keeps the observer and issues no broadcast write with stronger evidence. -/
abbrev StaysAck {α : Type} (p : Proc NativeCall (NativePairCore J A (ProductionBroadcastObserver N M)) α) : Prop :=
  Keeps Acknowledges WeakEvidence p

theorem staysAck_call {X α : Type} {part : Lens X (NativePairCore J A (ProductionBroadcastObserver N M))}
    {method : X → Reply α × X} {event : Option α → NativeCall}
    (kept : ∀ x core, (part.set x core).broadcastObserver = core.broadcastObserver)
    (quiet : ∀ reply, WeakEvidence (event reply)) : StaysAck (Proc.call part method event) := by
  refine keeps_call (fun core ack => ?_) (fun _ _ => quiet _) fun _ _ _ _ => quiet _
  rw [Acknowledges, kept]
  exact ack

theorem latchUnknown_staysAck (reason : PairBackendError) (observed : Option PairLifecycle) :
    StaysAck (NativePairCore.latchUnknown reason observed :
      Proc NativeCall (NativePairCore J A (ProductionBroadcastObserver N M)) _) :=
  keeps_bind (keeps_modify fun _ ack => ack) fun _ => keeps_pure _

theorem rejectDegraded_staysAck (reason : PairBackendError) : StaysAck (NativePairCore.rejectDegraded reason :
    Proc NativeCall (NativePairCore J A (ProductionBroadcastObserver N M)) _) :=
  keeps_bind (keeps_modify fun _ ack => ack) fun _ => keeps_pure _

section Observer
variable [BroadcastBusinessObserver N] [BroadcastMutationTransport M]

theorem observerArm_staysAck (action : BroadcastAction) (identity : DeviceIdentity) :
    StaysAck (NativePairCore.observerArm action identity :
      Proc NativeCall (NativePairCore J A (ProductionBroadcastObserver N M)) _) :=
  keeps_call (fun _ => ProductionBroadcastObserver.isAck_arm) (fun _ _ => nofun) fun _ _ _ _ => nofun

theorem observerExecute_staysAck (action : BroadcastAction) (identity : DeviceIdentity) :
    StaysAck (NativePairCore.observerExecute action identity :
      Proc NativeCall (NativePairCore J A (ProductionBroadcastObserver N M)) _) := by
  apply keeps_call (fun _ => ProductionBroadcastObserver.isAck_execute) (fun _ _ => nofun)
  intro core reply ack answered action evidence same
  cases same
  exact ProductionBroadcastObserver.execute_ackOnly ack answered

theorem observerCancel_staysAck : StaysAck (NativePairCore.observerCancel :
    Proc NativeCall (NativePairCore J A (ProductionBroadcastObserver N M)) _) :=
  keeps_call (fun _ => ProductionBroadcastObserver.isAck_cancel) (fun _ _ => nofun) fun _ _ _ _ => nofun

end Observer

variable [AuraRoleControl A]

theorem auraShutdown_staysAck : StaysAck (NativePairCore.auraShutdown :
    Proc NativeCall (NativePairCore J A (ProductionBroadcastObserver N M)) _) :=
  staysAck_call (fun _ _ => rfl) fun _ => nofun

variable [BroadcastBusinessObserver N] [BroadcastMutationTransport M]

theorem openTransaction_staysAck (goal transitional : PairLifecycle) (action : BroadcastAction)
    {roles : Proc NativeCall (NativePairCore J A (ProductionBroadcastObserver N M)) PairActionResult}
    (rest : StaysAck roles) : StaysAck (NativePairCore.openTransaction goal transitional action roles) := by
  have checks : StaysAck (NativePairCore.alreadyAt goal :
      Proc NativeCall (NativePairCore J A (ProductionBroadcastObserver N M)) _) := by
    refine keeps_bind keeps_get fun self => keeps_ite (fun _ => ?_) fun _ => keeps_pure _
    exact keeps_bind (staysAck_call (fun _ _ => rfl) fun _ => nofun) fun _ => keeps_pure _
  have acquires : StaysAck (NativePairCore.acquireFreshAuraBearer :
      Proc NativeCall (NativePairCore J A (ProductionBroadcastObserver N M)) _) := by
    apply keeps_bind auraShutdown_staysAck
    intro closed
    cases closed with
    | error error => exact keeps_pure _
    | ok _ =>
      refine keeps_bind keeps_get fun self => keeps_bind (staysAck_call (fun _ _ => rfl) fun _ => nofun) fun found => ?_
      cases found with
      | error error => exact keeps_pure _
      | ok _ => exact keeps_pure _
  apply keeps_bind keeps_get
  intro self
  split
  · exact keeps_pure _
  · apply keeps_bind checks
    intro arrived
    apply keeps_ite (fun _ => keeps_pure _)
    intro _
    apply keeps_bind acquires
    intro acquired
    cases acquired with
    | error error => exact rejectDegraded_staysAck _
    | ok _ =>
      refine keeps_bind (keeps_modify fun _ ack => ack) fun _ => keeps_bind keeps_get fun self => ?_
      apply keeps_bind (observerArm_staysAck _ _)
      intro armed
      cases armed with
      | error failure => exact rejectDegraded_staysAck _
      | ok _ => exact rest

variable [JblRoleControl J]

theorem start_staysAck : StaysAck (NativePairCore.start :
    Proc NativeCall (NativePairCore J A (ProductionBroadcastObserver N M)) _) := by
  have joins : StaysAck (NativePairCore.joinSleep :
      Proc NativeCall (NativePairCore J A (ProductionBroadcastObserver N M)) _) :=
    keeps_bind keeps_get fun _ => keeps_ite (fun _ => keeps_pure _) fun _ => keeps_emit nofun
  refine openTransaction_staysAck _ _ _ (keeps_bind (staysAck_call (fun _ _ => rfl) fun _ => nofun) fun entered => ?_)
  cases entered with
  | accepted response =>
    apply keeps_bind keeps_get
    intro self
    apply keeps_bind (observerExecute_staysAck _ _)
    intro executed
    cases executed with
    | error failure => exact latchUnknown_staysAck _ _
    | ok evidence =>
      refine keeps_bind joins fun _ => keeps_bind (staysAck_call (fun _ _ => rfl) fun _ => nofun) fun joined => ?_
      cases joined with
      | accepted => exact keeps_bind (keeps_modify fun _ ack => ack) fun _ => keeps_pure _
      | rejectedBeforeSend failure => exact latchUnknown_staysAck _ _
      | outcomeUnknown failure => exact latchUnknown_staysAck _ _
  | outcomeUnknown error => exact keeps_bind observerCancel_staysAck fun _ => latchUnknown_staysAck _ _
  | rejected error =>
    cases error with
    | controlCommandRejected => exact keeps_bind observerCancel_staysAck fun _ => latchUnknown_staysAck _ _
    | _ => exact keeps_bind observerCancel_staysAck fun _ => rejectDegraded_staysAck _

theorem stop_staysAck : StaysAck (NativePairCore.stop :
    Proc NativeCall (NativePairCore J A (ProductionBroadcastObserver N M)) _) := by
  refine openTransaction_staysAck _ _ _ (keeps_bind (staysAck_call (fun _ _ => rfl) fun _ => nofun) fun stopped => ?_)
  cases stopped with
  | accepted =>
    apply keeps_bind keeps_get
    intro self
    apply keeps_bind (observerExecute_staysAck _ _)
    intro executed
    cases executed with
    | error failure => exact latchUnknown_staysAck _ _
    | ok evidence =>
      refine keeps_bind (staysAck_call (fun _ _ => rfl) fun _ => nofun) fun exited => ?_
      cases exited with
      | accepted response => exact keeps_bind (keeps_modify fun _ ack => ack) fun _ => keeps_pure _
      | rejected error => exact latchUnknown_staysAck _ _
      | outcomeUnknown error => exact latchUnknown_staysAck _ _
  | rejectedBeforeSend failure => exact keeps_bind observerCancel_staysAck fun _ => rejectDegraded_staysAck _
  | outcomeUnknown failure => exact keeps_bind observerCancel_staysAck fun _ => latchUnknown_staysAck _ _

theorem shutdown_staysAck : StaysAck (NativePairCore.shutdown :
    Proc NativeCall (NativePairCore J A (ProductionBroadcastObserver N M)) _) := by
  have releases : StaysAck (NativePairCore.releaseForShutdown :
      Proc NativeCall (NativePairCore J A (ProductionBroadcastObserver N M)) _) := by
    refine keeps_bind (keeps_modify fun _ ack => ack) fun _ => keeps_bind auraShutdown_staysAck fun closed => ?_
    cases closed with
    | error error => exact latchUnknown_staysAck _ _
    | ok _ => exact keeps_bind (keeps_modify fun _ ack => ack) fun _ => keeps_pure _
  apply keeps_bind keeps_get
  intro self
  split
  · exact keeps_pure _
  · apply keeps_ite (fun _ => releases)
    intro _
    apply keeps_bind stop_staysAck
    intro stopped
    cases stopped with
    | accepted receipt => exact releases
    | rejectedBeforeSend failure => exact keeps_pure _
    | outcomeUnknown failure => exact keeps_pure _

theorem recoverStop_staysAck : StaysAck (NativePairCore.recoverStop :
    Proc NativeCall (NativePairCore J A (ProductionBroadcastObserver N M)) _) := by
  refine keeps_bind (keeps_modify fun _ ack => ack) fun _ => keeps_bind auraShutdown_staysAck fun closed => ?_
  cases closed with
  | error error => exact latchUnknown_staysAck _ _
  | ok _ => exact keeps_bind (keeps_modify fun _ ack => ack) fun _ => stop_staysAck

theorem backendAction_staysAck (action : ControllerAction) : StaysAck (PairController.backendAction action :
    Proc NativeCall (NativePairCore J A (ProductionBroadcastObserver N M)) _) := by
  cases action with
  | start => exact start_staysAck
  | stop => exact stop_staysAck
  | shutdown => exact shutdown_staysAck
  | recoverStop => exact recoverStop_staysAck

end StaysAck

section Acknowledged
variable {trace : List NativeCall}

/-- A 7957 write was executed. -/
def Broadcasts (trace : List NativeCall) : Prop := ∃ action reply, .observerExecute action reply ∈ trace

theorem quiet_broadcasts (quiet : roleWrites trace = []) : ¬Broadcasts trace := by
  intro broadcast
  obtain ⟨action, reply, member⟩ := broadcast
  have silent := List.filterMap_eq_nil_iff.mp quiet _ member
  cases action <;> cases silent

theorem broadcasts_append {first second : List NativeCall} (broadcast : Broadcasts (first ++ second))
    (quiet : roleWrites first = []) : Broadcasts second := by
  obtain ⟨action, reply, member⟩ := broadcast
  rcases List.mem_append.mp member with early | late
  · exact absurd ⟨action, reply, early⟩ (quiet_broadcasts quiet)
  · exact ⟨action, reply, late⟩

theorem broadcasts_of_stop (writes : roleWrites trace = acceptedSequence stopSequence) : Broadcasts trace := by
  have member : (⟨.broadcastStop, .accepted⟩ : RoleWrite) ∈ roleWrites trace := by
    rw [writes]
    decide
  obtain ⟨call, issued, write⟩ := List.mem_filterMap.mp member
  cases call with
  | observerExecute action reply => exact ⟨action, reply, issued⟩
  | _ => simp [NativeCall.roleWrite] at write

variable {J A N M : Type} {core : NativePairCore J A (ProductionBroadcastObserver N M)} {receipt : PairActionReceipt}

/-- An accepted START or STOP that wrote over the acknowledgement variant says so. -/
theorem transaction_evidence [AuraRoleControl A] {action : BroadcastAction} {sequence : List RoleCommand} {goal : PairLifecycle}
    {run : Exec NativeCall (NativePairCore J A (ProductionBroadcastObserver N M)) PairActionResult}
    (exit : NativePairCore.TransactionExit action sequence goal core run) (weak : ∀ call ∈ run.trace, WeakEvidence call)
    (broadcast : Broadcasts run.trace) (returned : run.out = some (.accepted receipt)) :
    receipt.evidence = .broadcastAcknowledgementOnly := by
  cases exit with
  | latched => cases returned
  | idempotent => exact absurd broadcast (quiet_broadcasts rfl)
  | rejected => cases returned
  | unknown => cases returned
  | accepted writes executed =>
    obtain rfl := weak _ executed _ _ rfl
    cases returned
    rfl
  | killed => cases returned

variable [JblRoleControl J] [AuraRoleControl A] [BroadcastBusinessObserver N] [BroadcastMutationTransport M]
  {P S γ : Type} [PairConfigurationProbe P] [Journal.UncertaintyJournal S γ]
  {c : PairController (NativePairCore J A (ProductionBroadcastObserver N M)) P S}

/-- A shutdown is refused or finds the core at rest, so that it needs no STOP. -/
def ShutsAtRest (operation : ControllerOperation)
    (c : PairController (NativePairCore J A (ProductionBroadcastObserver N M)) P S) : Prop :=
  operation = .mutate .shutdown → c.unresolvedAction = true ∨ c.backend.AtRest

/-- A successful action that executed a 7957 write claims an acknowledgement only. -/
def EvidenceHonest (operation : ControllerOperation)
    (c : PairController (NativePairCore J A (ProductionBroadcastObserver N M)) P S) : Prop :=
  ∀ action result, operation = .mutate action → (PairController.mutate action c).out = some result →
    Broadcasts (backendCalls (PairController.mutate action c).trace) → Succeeded result →
      result.outcome = .acceptedUnconfirmed ∧ result.evidence = some .broadcastAcknowledgementOnly

/-- The core under a fresh process of the acknowledgement variant. -/
def IsNewAck (core : NativePairCore J A (ProductionBroadcastObserver N M)) : Prop := IsNew core ∧ Acknowledges core

/-- An accepted shutdown reports its own lifecycle, whether or not it had to stop the
pair first. -/
theorem shutdown_evidence (returned : (NativePairCore.shutdown core).out = some (.accepted receipt)) :
    receipt.evidence = .lifecycleAcknowledgement ∧
      (Broadcasts (NativePairCore.shutdown core).trace ↔ ¬core.AtRest) := by
  have exit := NativePairCore.shutdown_exit core
  generalize NativePairCore.shutdown core = run at exit returned
  cases exit with
  | latched => cases returned
  | released free rest release =>
    cases release with
    | unknown => cases returned
    | accepted quiet =>
      cases returned
      exact ⟨rfl, iff_of_false (quiet_broadcasts quiet) (not_not_intro rest)⟩
    | killed => cases returned
  | stopped free busy writes kept release =>
    obtain ⟨action, reply, member⟩ := broadcasts_of_stop writes
    cases release with
    | unknown => cases returned
    | accepted quiet =>
      cases returned
      exact ⟨rfl, iff_of_true ⟨action, reply, List.mem_append_left _ member⟩ busy⟩
    | killed => cases returned
  | refused free busy exit failed => exact absurd returned (failed receipt)

theorem recoverStop_evidence (weak : ∀ call ∈ (NativePairCore.recoverStop core).trace, WeakEvidence call)
    (broadcast : Broadcasts (NativePairCore.recoverStop core).trace)
    (returned : (NativePairCore.recoverStop core).out = some (.accepted receipt)) :
    receipt.evidence = .broadcastAcknowledgementOnly := by
  have exit := NativePairCore.recoverStop_exit core
  generalize NativePairCore.recoverStop core = run at exit weak broadcast returned
  cases exit with
  | closeFailed => cases returned
  | stopping closed lifecycle free exit =>
    exact transaction_evidence exit (fun call member => weak call (List.mem_append_right _ member))
      (broadcasts_append broadcast rfl) returned
  | killed => cases returned

theorem action_evidence {action : ControllerAction} {after : NativePairCore J A (ProductionBroadcastObserver N M)}
    (ack : Acknowledges core) (rest : action = .shutdown → core.AtRest)
    (call : PairController.backendAction action core = ⟨trace, after, some (.accepted receipt)⟩)
    (broadcast : Broadcasts trace) : receipt.evidence = .broadcastAcknowledgementOnly := by
  have weak := (backendAction_staysAck action core ack).2
  have returned : (PairController.backendAction action core).out = some (.accepted receipt) := by rw [call]
  obtain rfl : (PairController.backendAction action core).trace = trace := by rw [call]
  cases action with
  | start => exact transaction_evidence (NativePairCore.start_exit core) weak broadcast returned
  | stop => exact transaction_evidence (NativePairCore.stop_exit core) weak broadcast returned
  | shutdown => exact absurd (rest rfl) ((shutdown_evidence returned).2.mp broadcast)
  | recoverStop => exact recoverStop_evidence weak broadcast returned

/-- The observer stays the acknowledgement variant through every operation. -/
theorem perform_acknowledges (operation : ControllerOperation) (agree : Agree c) (ack : Acknowledges c.backend) :
    Acknowledges (PairController.perform operation c).state.backend := by
  have looks {asked : Prop} {looks : List NativeCall} {after : NativePairCore J A (ProductionBroadcastObserver N M)}
      (looked : PairController.Looked asked c.backend looks after) : Acknowledges after := by
    obtain ⟨-, aura, rfl⟩ := looked_native looked
    exact ack
  cases operation with
  | status =>
    have observed : PairController.Observed c ((PairController.status : Proc (ControllerEvent NativeCall γ) _ _) c) :=
      PairController.status_observed c
    exact looks observed.looked
  | teardownTransport =>
    obtain ⟨trace, aura, out, quiet, run⟩ := NativePairCore.teardownTransport_auraOnly c.backend
    have same : (NativePairCore.teardownTransport c.backend).state = NativePairCore.auraField.set aura c.backend := by
      rw [run]
    change Acknowledges (NativePairCore.teardownTransport c.backend).state
    rw [same]
    exact ack
  | mutate action =>
    change Acknowledges (PairController.mutate action c).state.backend
    have exit : PairController.MutateExit action c
        ((PairController.mutate action : Proc (ControllerEvent NativeCall γ) _ _) c) := PairController.mutate_exit action c
    rcases exit.split with passed | stalled | began
    · exact looks passed.looked
    · exact looks stalled.looked
    · generalize (PairController.mutate action : Proc (ControllerEvent NativeCall γ) _ _) c = run at began
      obtain ⟨-, _, core, looked, same, -⟩ := (began_native began agree).seen
      rw [same]
      exact (backendAction_staysAck action core (looks looked)).1

theorem controllerRun_acknowledges
    {allowed : ControllerOperation → PairController (NativePairCore J A (ProductionBroadcastObserver N M)) P S → Prop}
    {history : List (ControllerEvent NativeCall γ)} (run : PairController.ControllerRun IsNewAck allowed c history) :
    Agree c ∧ Acknowledges c.backend := by
  induction run with
  | opened new probe journal => exact ⟨agree_new new.1 probe journal, new.2⟩
  | step operation run permitted returned held =>
    exact ⟨perform_agrees operation held.1 returned, perform_acknowledges operation held.1 held.2⟩

/-- What a successful action said, given what it wrote. -/
theorem mutate_evidence {action : ControllerAction} {result : ControllerActionResult} (agree : Agree c)
    (ack : Acknowledges c.backend) (rest : ShutsAtRest (.mutate action) c)
    (returned : (PairController.mutate action c).out = some result)
    (broadcast : Broadcasts (backendCalls (PairController.mutate action c).trace)) (succeeded : Succeeded result) :
    result.outcome = .acceptedUnconfirmed ∧ result.evidence = some .broadcastAcknowledgementOnly := by
  rcases mutate_succeeds (PairController.mutate_exit action c) agree returned succeeded with
    ⟨admitted, looks, core, trace, after, receipt, looked, issued, call, reports⟩ | ⟨-, quiet⟩
  · obtain ⟨quiet, aura, same⟩ := looked_native looked
    have still (shutting : action = .shutdown) : core.AtRest := by
      subst shutting same
      exact (rest rfl).resolve_left (by simp [admitted.ordinary])
    have observes : Acknowledges core := by rw [same]; exact ack
    rw [issued] at broadcast
    have evidence := action_evidence observes still call (broadcasts_append broadcast quiet)
    exact ⟨by rw [reports.outcome, if_pos evidence], by rw [reports.evidence, evidence]⟩
  · exact absurd broadcast (quiet_broadcasts quiet)

/-- A successful shutdown is honest exactly where it had nothing to stop. -/
theorem mutate_shutdown_honest_iff {result : ControllerActionResult} (agree : Agree c) (ack : Acknowledges c.backend)
    (returned : (PairController.mutate .shutdown c).out = some result) (succeeded : Succeeded result) :
    EvidenceHonest (.mutate .shutdown) c ↔ c.backend.AtRest := by
  constructor
  · intro honest
    rcases mutate_succeeds (PairController.mutate_exit .shutdown c) agree returned succeeded with
      ⟨admitted, looks, core, trace, after, receipt, looked, issued, call, reports⟩ | ⟨⟨claimed, -⟩, -⟩
    · obtain ⟨-, aura, same⟩ := looked_native looked
      have accepted : (NativePairCore.shutdown core).out = some (.accepted receipt) := congrArg Exec.out call
      have written : (NativePairCore.shutdown core).trace = trace := congrArg Exec.trace call
      obtain ⟨evidence, broadcasts⟩ := shutdown_evidence accepted
      by_contra busy
      obtain ⟨action, reply, member⟩ := broadcasts.mpr (by rw [same]; exact busy)
      have claims := honest .shutdown result rfl returned
        ⟨action, reply, by rw [issued, ← written]; exact List.mem_append_right _ member⟩ succeeded
      rw [reports.outcome, evidence] at claims
      cases claims.1
    · obtain ⟨lifecycle, same⟩ := claimed
      exact .inr (agree.claimed .shutdown (congrArg Prod.fst (Option.some.inj same)).symm).1
  · intro rest action result same returned broadcast succeeded
    cases same
    exact mutate_evidence agree ack (fun _ => .inr rest) returned broadcast succeeded

/-- Over the acknowledgement variant a run whose every shutdown is refused or finds the
core at rest reports honest evidence in each of its actions, and a successful shutdown of a
core that is not at rest never does. -/
theorem evidence_honest_exactly_at_rest
    {allowed : ControllerOperation → PairController (NativePairCore J A (ProductionBroadcastObserver N M)) P S → Prop}
    {history : List (ControllerEvent NativeCall γ)} (run : PairController.ControllerRun IsNewAck allowed c history) :
    ((∀ operation c, allowed operation c → ShutsAtRest operation c) →
      PairController.ControllerRun IsNewAck EvidenceHonest c history) ∧
    ∀ result, (PairController.mutate .shutdown c).out = some result → Succeeded result →
      (EvidenceHonest (.mutate .shutdown) c ↔ c.backend.AtRest) := by
  constructor
  · intro rests
    induction run with
    | opened new probe journal => exact .opened new probe journal
    | @step c history operation run permitted returned honest =>
      refine .step operation honest ?_ returned
      obtain ⟨agree, ack⟩ := controllerRun_acknowledges run
      intro action result same answered broadcast succeeded
      subst same
      exact mutate_evidence agree ack (rests _ c permitted) answered broadcast succeeded
  · intro result returned succeeded
    obtain ⟨agree, ack⟩ := controllerRun_acknowledges run
    exact mutate_shutdown_honest_iff agree ack returned succeeded

/-- A fresh process of the acknowledgement variant over speakers that accept everything. -/
def acknowledgedPair : PairController (NativePairCore RecordingJbl MockAura MockObserver) Probe Journal.FileUncertaintyJournal :=
  PairController.withJournal (NativePairCore.acceptingCore 2) (Probe.readyReads 6) ⟨Journal.StateRoot.empty, .clean⟩

/-- A pair that was linked and stopped before its shutdown. -/
theorem evidence_honest_exactly_at_rest_stopped :
    ∃ (c : PairController (NativePairCore RecordingJbl MockAura MockObserver) Probe Journal.FileUncertaintyJournal)
      (history : List (ControllerEvent NativeCall Journal.JournalEvent)),
      PairController.ControllerRun IsNewAck EvidenceHonest c history ∧ c.managedState = .ready ∧
        EvidenceHonest (.mutate .shutdown) c := by
  have opened : PairController.ControllerRun IsNewAck ShutsAtRest acknowledgedPair [] :=
    .opened ⟨⟨_, _, _, _, _, _, rfl⟩, trivial⟩ _ _
  have linked := opened.step (.mutate .start) nofun (by decide)
  have stopped := linked.step (.mutate .stop) nofun (by decide)
  have honest := evidence_honest_exactly_at_rest stopped
  refine ⟨_, _, honest.1 fun _ _ rests => rests, by decide, ?_⟩
  exact (honest.2 _ (Option.eq_some_of_isSome (by decide)) (.inl (by decide))).mpr (by decide)

/-- A shutdown that stops a linked pair ends accepted on the word of its own lifecycle. -/
theorem shutdown_hides_acknowledgement :
    ∃ (c : PairController (NativePairCore RecordingJbl MockAura MockObserver) Probe Journal.FileUncertaintyJournal)
      (history : List (ControllerEvent NativeCall Journal.JournalEvent)) (result : ControllerActionResult),
      PairController.ControllerRun IsNewAck (fun _ _ => True) c history ∧
        (PairController.mutate .shutdown c).out = some result ∧
        Broadcasts (backendCalls (PairController.mutate .shutdown c).trace) ∧ result.outcome = .accepted ∧
        result.evidence = some .lifecycleAcknowledgement := by
  have opened : PairController.ControllerRun IsNewAck (fun _ _ => True) acknowledgedPair [] :=
    .opened ⟨⟨_, _, _, _, _, _, rfl⟩, trivial⟩ _ _
  have linked := opened.step (.mutate .start) trivial (by decide)
  exact ⟨_, _, _, linked, Option.eq_some_of_isSome (by decide), broadcasts_of_stop (by decide), by decide, by decide⟩

end Acknowledged

end PlayTogether.System
