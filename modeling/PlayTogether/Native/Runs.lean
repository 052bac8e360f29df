import PlayTogether.Library.Followed
import PlayTogether.Native.Observer
import PlayTogether.Native.Transaction

/-! What one native transaction promises, and what holds along every sequence of
operations on one native core. -/

namespace PlayTogether.Native
open PlayTogether.Library PlayTogether.Device PlayTogether.Pair

/-- Every write of the sequence was accepted. -/
def AllAccepted (sequence : List RoleCommand) (writes : List RoleWrite) : Prop :=
  ∀ command ∈ sequence, ⟨command, .accepted⟩ ∈ writes

/-- The result of a transaction is classified by what its role writes may have done. -/
structure HonestTransaction {J A O : Type} (sequence : List RoleCommand)
    (run : Exec NativeCall (NativePairCore J A O) PairActionResult) : Prop where
  ordered : OrderedPrefix sequence (roleWrites run.trace)
  once : ((roleWrites run.trace).map RoleWrite.command).Nodup
  rejected : ∀ failure, run.out = some (.rejectedBeforeSend failure) →
    ∀ write ∈ roleWrites run.trace, ¬write.reached
  accepted : ∀ receipt, run.out = some (.accepted receipt) → receipt.idempotent = false →
    AllAccepted sequence (roleWrites run.trace)
  uncertain : (∃ write ∈ roleWrites run.trace, write.reached) → ¬AllAccepted sequence (roleWrites run.trace) →
    ∀ result, run.out = some result → (∃ failure, result = .outcomeUnknown failure) ∧
      run.state.unresolved.isSome ∧ run.state.lifecycle = .degraded

theorem allAccepted_acceptedSequence (sequence : List RoleCommand) :
    AllAccepted sequence (acceptedSequence sequence) :=
  fun command member => List.mem_map.mpr ⟨command, member, rfl⟩

theorem orderedPrefix_acceptedSequence (sequence : List RoleCommand) :
    OrderedPrefix sequence (acceptedSequence sequence) := by
  constructor
  · simp [acceptedSequence, Function.comp_def]
  · intro write member
    obtain ⟨command, _, rfl⟩ := List.mem_map.mp (List.dropLast_subset _ member)
    rfl

theorem orderedPrefix_once {sequence : List RoleCommand} {writes : List RoleWrite} (distinct : sequence.Nodup)
    (ordered : OrderedPrefix sequence writes) : (writes.map RoleWrite.command).Nodup :=
  distinct.sublist ordered.1.sublist

theorem HonestTransaction.after_quiet {J A O : Type} {sequence : List RoleCommand} {first : List NativeCall}
    {run : Exec NativeCall (NativePairCore J A O) PairActionResult} (honest : HonestTransaction sequence run)
    (quiet : roleWrites first = []) : HonestTransaction sequence (run.after first) := by
  have same : roleWrites (run.after first).trace = roleWrites run.trace := by simp [quiet]
  constructor
  · rw [same]
    exact honest.ordered
  · rw [same]
    exact honest.once
  · rw [same]
    exact honest.rejected
  · rw [same]
    exact honest.accepted
  · rw [same]
    exact honest.uncertain

/-- Every device method answers, so nothing kills the process inside a transaction. -/
structure Answering (J A O : Type) [JblRoleControl J] [AuraRoleControl A] [BroadcastResultObserver O] : Prop where
  enter : ∀ jbl : J, (JblRoleControl.enter jbl).1.isAnswered
  exit : ∀ jbl : J, (JblRoleControl.exit jbl).1.isAnswered
  connect : ∀ (identity : DeviceIdentity) (aura : A), (AuraRoleControl.connectVerified identity aura).1.isAnswered
  health : ∀ aura : A, (AuraRoleControl.health aura).1.isAnswered
  start : ∀ aura : A, (AuraRoleControl.start aura).1.isAnswered
  stop : ∀ aura : A, (AuraRoleControl.stop aura).1.isAnswered
  shutdown : ∀ aura : A, (AuraRoleControl.shutdown aura).1.isAnswered
  arm : ∀ (action : BroadcastAction) (identity : DeviceIdentity) (observer : O),
    (BroadcastResultObserver.arm action identity observer).1.isAnswered
  execute : ∀ (action : BroadcastAction) (identity : DeviceIdentity) (observer : O),
    (BroadcastResultObserver.execute action identity observer).1.isAnswered
  cancel : ∀ observer : O, (BroadcastResultObserver.cancel observer).1.isAnswered

namespace NativePairCore
variable {J A O : Type}

section Honest
variable [AuraRoleControl A]

theorem TransactionExit.honest {action : BroadcastAction} {sequence : List RoleCommand} {goal : PairLifecycle}
    {core : NativePairCore J A O} {run : Exec NativeCall (NativePairCore J A O) PairActionResult}
    (exit : TransactionExit action sequence goal core run) (distinct : sequence.Nodup) :
    HonestTransaction sequence run := by
  cases exit with
  | latched held => exact ⟨orderedPrefix_nil _, by simp, by simp, by simp, by simp⟩
  | idempotent =>
    refine ⟨orderedPrefix_nil _, by simp, by simp [NativePairCore.accepted], ?_, by simp⟩
    intro receipt returned fresh
    simp only [NativePairCore.accepted, Option.some.injEq, PairActionResult.accepted.injEq] at returned
    simp [← returned] at fresh
  | rejected ordered unsent native lifecycle =>
    refine ⟨ordered, orderedPrefix_once distinct ordered, fun _ _ => unsent, by simp, ?_⟩
    intro sent
    obtain ⟨write, member, reached⟩ := sent
    exact absurd reached (unsent write member)
  | unknown ordered sent failed native lifecycle free latched =>
    refine ⟨ordered, orderedPrefix_once distinct ordered, by simp, by simp, ?_⟩
    intro _ _ result returned
    exact ⟨⟨_, (Option.some.inj returned).symm⟩, by simp [latched], lifecycle⟩
  | accepted writes =>
    have ordered := orderedPrefix_acceptedSequence sequence
    have all := allAccepted_acceptedSequence sequence
    rw [← writes] at ordered all
    refine ⟨ordered, orderedPrefix_once distinct ordered, ?_, fun _ _ _ => all, fun _ missing => absurd all missing⟩
    simp [acceptedWithBroadcastEvidence]
  | killed ordered => exact ⟨ordered, orderedPrefix_once distinct ordered, by simp, by simp, by simp⟩

theorem RecoverExit.honest {core : NativePairCore J A O}
    {run : Exec NativeCall (NativePairCore J A O) PairActionResult} (exit : RecoverExit core run) :
    HonestTransaction stopSequence run := by
  cases exit with
  | closeFailed => exact ⟨orderedPrefix_nil _, by simp, by simp, by simp, by simp⟩
  | stopping closed lifecycle free stopping => exact (stopping.honest (by decide)).after_quiet rfl
  | killed quiet =>
    refine ⟨?_, by simp [quiet], by simp, by simp, by simp⟩
    rw [quiet]
    exact orderedPrefix_nil _

end Honest

theorem latchUnknown_returns (reason : PairBackendError) (observed : Option PairLifecycle) :
    Returns (latchUnknown reason observed : Proc NativeCall (NativePairCore J A O) _) :=
  returns_bind (returns_modify _) fun _ => returns_pure _

theorem rejectDegraded_returns (reason : PairBackendError) :
    Returns (rejectDegraded reason : Proc NativeCall (NativePairCore J A O) _) :=
  returns_bind (returns_modify _) fun _ => returns_pure _

section Returns
variable [JblRoleControl J] [AuraRoleControl A] [BroadcastResultObserver O] (answering : Answering J A O)
include answering

theorem acquireAndArm_returns (transitional : PairLifecycle) (action : BroadcastAction)
    {roles : Proc NativeCall (NativePairCore J A O) PairActionResult} (rest : Returns roles) :
    Returns (acquireAndArm transitional action roles) := by
  have acquires : Returns (acquireFreshAuraBearer : Proc NativeCall (NativePairCore J A O) _) := by
    apply returns_bind (returns_call answering.shutdown)
    intro closed
    cases closed with
    | error error => exact returns_pure _
    | ok _ =>
      apply returns_bind returns_get
      intro self
      apply returns_bind (returns_call (answering.connect _))
      intro found
      cases found with
      | error error => exact returns_pure _
      | ok _ => exact returns_pure _
  apply returns_bind acquires
  intro acquired
  cases acquired with
  | error error => exact rejectDegraded_returns _
  | ok _ =>
    apply returns_bind (returns_modify _)
    intro _
    apply returns_bind returns_get
    intro self
    apply returns_bind (returns_call (answering.arm _ _))
    intro armed
    cases armed with
    | error failure => exact rejectDegraded_returns _
    | ok _ => exact rest

theorem openTransaction_returns (goal transitional : PairLifecycle) (action : BroadcastAction)
    {roles : Proc NativeCall (NativePairCore J A O) PairActionResult} (rest : Returns roles) :
    Returns (openTransaction goal transitional action roles) := by
  have checks : Returns (alreadyAt goal : Proc NativeCall (NativePairCore J A O) Bool) := by
    apply returns_bind returns_get
    intro self
    split
    · exact returns_bind (returns_call answering.health) fun _ => returns_pure _
    · exact returns_pure _
  apply returns_bind returns_get
  intro self
  split
  · exact returns_pure _
  · apply returns_bind checks
    intro arrived
    split
    · exact returns_pure _
    · exact acquireAndArm_returns answering transitional action rest

theorem startBroadcast_returns : Returns (startBroadcast : Proc NativeCall (NativePairCore J A O) _) := by
  have joins : Returns (joinSleep : Proc NativeCall (NativePairCore J A O) Unit) := by
    apply returns_bind returns_get
    intro self
    split
    · exact returns_pure _
    · exact returns_emit _
  apply returns_bind returns_get
  intro self
  apply returns_bind (returns_call (answering.execute _ _))
  intro executed
  cases executed with
  | error failure => exact latchUnknown_returns _ _
  | ok evidence =>
    apply returns_bind joins
    intro _
    apply returns_bind (returns_call answering.start)
    intro joined
    cases joined with
    | accepted => exact returns_bind (returns_modify _) fun _ => returns_pure _
    | rejectedBeforeSend failure => exact latchUnknown_returns _ _
    | outcomeUnknown failure => exact latchUnknown_returns _ _

theorem start_returns : Returns (start : Proc NativeCall (NativePairCore J A O) _) := by
  refine openTransaction_returns answering _ _ _ (returns_bind (returns_call answering.enter) fun entered => ?_)
  have cancels : Returns (observerCancel : Proc NativeCall (NativePairCore J A O) Unit) :=
    returns_call answering.cancel
  cases entered with
  | accepted response => exact startBroadcast_returns answering
  | outcomeUnknown error => exact returns_bind cancels fun _ => latchUnknown_returns _ _
  | rejected error =>
    cases error with
    | controlCommandRejected => exact returns_bind cancels fun _ => latchUnknown_returns _ _
    | _ => exact returns_bind cancels fun _ => rejectDegraded_returns _

theorem stopBroadcast_returns : Returns (stopBroadcast : Proc NativeCall (NativePairCore J A O) _) := by
  apply returns_bind returns_get
  intro self
  apply returns_bind (returns_call (answering.execute _ _))
  intro executed
  cases executed with
  | error failure => exact latchUnknown_returns _ _
  | ok evidence =>
    apply returns_bind (returns_call answering.exit)
    intro exited
    cases exited with
    | accepted response => exact returns_bind (returns_modify _) fun _ => returns_pure _
    | rejected error => exact latchUnknown_returns _ _
    | outcomeUnknown error => exact latchUnknown_returns _ _

theorem stop_returns : Returns (stop : Proc NativeCall (NativePairCore J A O) _) := by
  refine openTransaction_returns answering _ _ _ (returns_bind (returns_call answering.stop) fun stopped => ?_)
  have cancels : Returns (observerCancel : Proc NativeCall (NativePairCore J A O) Unit) :=
    returns_call answering.cancel
  cases stopped with
  | accepted => exact stopBroadcast_returns answering
  | rejectedBeforeSend failure => exact returns_bind cancels fun _ => rejectDegraded_returns _
  | outcomeUnknown failure => exact returns_bind cancels fun _ => latchUnknown_returns _ _

theorem recoverStop_returns : Returns (recoverStop : Proc NativeCall (NativePairCore J A O) _) := by
  apply returns_bind (returns_modify _)
  intro _
  apply returns_bind (returns_call answering.shutdown)
  intro closed
  cases closed with
  | error error => exact latchUnknown_returns _ _
  | ok _ => exact returns_bind (returns_modify _) fun _ => stop_returns answering

end Returns

section Histories

/-- No START write that may have been delivered lies after the last complete, accepted
STOP sequence. -/
def Normalized (writes : List RoleWrite) : Prop :=
  Followed (fun write => write.command.startsLink ∧ write.reached) (acceptedSequence stopSequence) writes

theorem normalized_append_quiet {writes later : List RoleWrite} (start : Normalized writes)
    (quiet : later = []) : Normalized (writes ++ later) := by
  rw [quiet, List.append_nil]
  exact start

theorem normalized_append_stop (writes : List RoleWrite) :
    Normalized (writes ++ acceptedSequence stopSequence) :=
  followed_append_answer (by decide)

/-- A core at rest has left nothing linked. -/
def RestsNormalized (core : NativePairCore J A O) (writes : List RoleWrite) : Prop :=
  core.AtRest → Normalized writes

theorem degraded_rests {core : NativePairCore J A O} (writes : List RoleWrite) (lifecycle : core.lifecycle = .degraded) :
    RestsNormalized core writes := by
  intro rest
  rcases rest with ready | offline
  · rw [lifecycle] at ready
    contradiction
  · rw [lifecycle] at offline
    contradiction

theorem AuraOnly.rests {α : Type} {p : Proc NativeCall (NativePairCore J A O) α} (only : AuraOnly p)
    {core : NativePairCore J A O} {writes : List RoleWrite} (rests : RestsNormalized core writes) :
    RestsNormalized (p core).state (writes ++ roleWrites (p core).trace) := by
  obtain ⟨trace, aura, out, quiet, run⟩ := only core
  rw [run]
  exact fun rest => normalized_append_quiet (rests rest) quiet

theorem ReleaseExit.normalized {core : NativePairCore J A O} {writes : List RoleWrite}
    {run : Exec NativeCall (NativePairCore J A O) PairActionResult} (exit : ReleaseExit core run)
    (start : Normalized writes) : Normalized (writes ++ roleWrites run.trace) := by
  cases exit with
  | unknown quiet => exact normalized_append_quiet start quiet
  | accepted quiet => exact normalized_append_quiet start quiet
  | killed quiet => exact normalized_append_quiet start quiet

theorem ReleaseExit.unknown_latched {core : NativePairCore J A O} {failure : PairActionFailure}
    {run : Exec NativeCall (NativePairCore J A O) PairActionResult} (exit : ReleaseExit core run)
    (returned : run.out = some (.outcomeUnknown failure)) : run.state.unresolved = some failure := by
  cases exit with
  | unknown quiet native lifecycle latched =>
    obtain rfl := PairActionResult.outcomeUnknown.inj (Option.some.inj returned)
    exact latched
  | accepted => simp [NativePairCore.accepted] at returned
  | killed => simp at returned

theorem AuraOnly.unresolved {α : Type} {p : Proc NativeCall (NativePairCore J A O) α} (only : AuraOnly p)
    (core : NativePairCore J A O) : (p core).state.unresolved = core.unresolved := by
  obtain ⟨trace, aura, out, quiet, run⟩ := only core
  rw [run]
  rfl

end Histories

section Histories
variable [AuraRoleControl A]

/-- A transaction keeps the rest normalized, if its goal is no state of rest or its own
writes leave nothing linked. -/
theorem TransactionExit.rests {action : BroadcastAction} {sequence : List RoleCommand} {goal : PairLifecycle}
    {core : NativePairCore J A O} {writes : List RoleWrite}
    {run : Exec NativeCall (NativePairCore J A O) PairActionResult}
    (exit : TransactionExit action sequence goal core run) (rests : RestsNormalized core writes)
    (settles : goal = .ready ∨ goal = .offline → Normalized (writes ++ acceptedSequence sequence))
    (returned : run.out ≠ none) : RestsNormalized run.state (writes ++ roleWrites run.trace) := by
  cases exit with
  | latched => exact fun rest => normalized_append_quiet (rests rest) rfl
  | idempotent arrived live lifecycle =>
    intro rest
    refine normalized_append_quiet (rests ?_) rfl
    simpa only [AtRest, lifecycle] using rest
  | rejected ordered unsent native lifecycle => exact degraded_rests _ lifecycle
  | unknown ordered sent failed native lifecycle => exact degraded_rests _ lifecycle
  | accepted complete executed lifecycle =>
    intro rest
    rw [complete]
    apply settles
    rw [← lifecycle]
    exact rest
  | killed => contradiction

theorem TransactionExit.unknown_latched {action : BroadcastAction} {sequence : List RoleCommand}
    {goal : PairLifecycle} {core : NativePairCore J A O} {failure : PairActionFailure}
    {run : Exec NativeCall (NativePairCore J A O) PairActionResult}
    (exit : TransactionExit action sequence goal core run) (returned : run.out = some (.outcomeUnknown failure)) :
    run.state.unresolved = some failure := by
  cases exit with
  | latched held =>
    obtain rfl := PairActionResult.outcomeUnknown.inj (Option.some.inj returned)
    exact held
  | unknown ordered sent failed native lifecycle free latched =>
    obtain rfl := PairActionResult.outcomeUnknown.inj (Option.some.inj returned)
    exact latched
  | idempotent => simp [NativePairCore.accepted] at returned
  | accepted => simp [acceptedWithBroadcastEvidence] at returned
  | rejected => simp at returned
  | killed => simp at returned

end Histories

inductive NativeOperation where
  | start
  | stop
  | shutdown
  | recoverStop
  | teardownTransport
  | health
  deriving DecidableEq, Repr

inductive NativeOutcome where
  | action (result : PairActionResult)
  | teardown (result : Except PairBackendError Unit)
  | snapshot (health : PairHealth)

/-- The failure an operation reports, if its outcome is unknown. -/
def NativeOutcome.unknown : NativeOutcome → Option PairActionFailure
  | .action (.outcomeUnknown failure) => some failure
  | .action (.accepted _) | .action (.rejectedBeforeSend _) | .teardown _ | .snapshot _ => none

theorem NativeOutcome.eq_of_unknown {outcome : NativeOutcome} {failure : PairActionFailure}
    (reported : outcome.unknown = some failure) : outcome = .action (.outcomeUnknown failure) := by
  rcases outcome with (_ | _ | _) | _ | _
  case action.outcomeUnknown other =>
    obtain rfl := Option.some.inj reported
    rfl
  all_goals contradiction

section Runs
variable [JblRoleControl J] [AuraRoleControl A] [BroadcastResultObserver O]

/-- START and STOP, alone or as a recovery, write their roles in order and classify
what the writes may have done. They return whenever the devices answer. -/
theorem transactions_honest (core : NativePairCore J A O) :
    HonestTransaction startSequence (start core) ∧ HonestTransaction stopSequence (stop core) ∧
      HonestTransaction stopSequence (recoverStop core) ∧
      (Answering J A O →
        (start core).out ≠ none ∧ (stop core).out ≠ none ∧ (recoverStop core).out ≠ none) := by
  refine ⟨(start_exit core).honest (by decide), (stop_exit core).honest (by decide), (recoverStop_exit core).honest, ?_⟩
  intro answering
  exact ⟨start_returns answering core, stop_returns answering core, recoverStop_returns answering core⟩

def perform (operation : NativeOperation) (core : NativePairCore J A O) :
    Exec NativeCall (NativePairCore J A O) NativeOutcome :=
  match operation with
  | .start => (start core).map .action
  | .stop => (stop core).map .action
  | .shutdown => (shutdown core).map .action
  | .recoverStop => (recoverStop core).map .action
  | .teardownTransport => (teardownTransport core).map .teardown
  | .health => (health core).map .snapshot

/-- States of one process between its operations, with every call issued so far. -/
inductive NativeRun : NativePairCore J A O → List NativeCall → Prop where
  | new (jbl : J) (aura : A) (broadcastObserver : O) (jblIdentity auraIdentity : DeviceIdentity) (joinDelay : Nat) :
      NativeRun (NativePairCore.new jbl aura broadcastObserver jblIdentity auraIdentity joinDelay) []
  | step {core : NativePairCore J A O} {history : List NativeCall} (operation : NativeOperation)
      (run : NativeRun core history) (returned : (perform operation core).out ≠ none) :
      NativeRun (perform operation core).state (history ++ (perform operation core).trace)

theorem start_rests {core : NativePairCore J A O} {writes : List RoleWrite} (rests : RestsNormalized core writes)
    (returned : (start core).out ≠ none) :
    RestsNormalized (start core).state (writes ++ roleWrites (start core).trace) := by
  apply (start_exit core).rests rests _ returned
  intro linked
  cases linked <;> contradiction

theorem stop_rests {core : NativePairCore J A O} {writes : List RoleWrite} (rests : RestsNormalized core writes)
    (returned : (stop core).out ≠ none) :
    RestsNormalized (stop core).state (writes ++ roleWrites (stop core).trace) :=
  (stop_exit core).rests rests (fun _ => normalized_append_stop writes) returned

theorem shutdown_rests {core : NativePairCore J A O} {writes : List RoleWrite} (rests : RestsNormalized core writes)
    (returned : (shutdown core).out ≠ none) :
    RestsNormalized (shutdown core).state (writes ++ roleWrites (shutdown core).trace) := by
  have exit := shutdown_exit core
  generalize shutdown core = run at exit returned
  cases exit with
  | latched => exact fun rest => normalized_append_quiet (rests rest) rfl
  | released free rest release => exact fun _ => release.normalized (rests rest)
  | stopped free busy complete kept release =>
    intro _
    rw [after_trace, roleWrites_append, complete, ← List.append_assoc]
    exact release.normalized (normalized_append_stop writes)
  | refused free busy exit => exact exit.rests rests (fun _ => normalized_append_stop writes) returned

theorem recoverStop_rests {core : NativePairCore J A O} {writes : List RoleWrite}
    (returned : (recoverStop core).out ≠ none) :
    RestsNormalized (recoverStop core).state (writes ++ roleWrites (recoverStop core).trace) := by
  have exit := recoverStop_exit core
  generalize recoverStop core = run at exit returned
  cases exit with
  | closeFailed native lifecycle => exact degraded_rests _ lifecycle
  | stopping closed lifecycle free exit =>
    have stopped := exit.rests (degraded_rests writes lifecycle) (fun _ => normalized_append_stop writes) returned
    simpa using stopped
  | killed => contradiction

theorem perform_rests {core : NativePairCore J A O} {writes : List RoleWrite} (operation : NativeOperation)
    (rests : RestsNormalized core writes) (returned : (perform operation core).out ≠ none) :
    RestsNormalized (perform operation core).state (writes ++ roleWrites (perform operation core).trace) := by
  cases operation with
  | start => exact start_rests rests (by simpa [perform, Exec.map] using returned)
  | stop => exact stop_rests rests (by simpa [perform, Exec.map] using returned)
  | shutdown => exact shutdown_rests rests (by simpa [perform, Exec.map] using returned)
  | recoverStop => exact recoverStop_rests (by simpa [perform, Exec.map] using returned)
  | teardownTransport => exact teardownTransport_auraOnly.rests rests
  | health => exact health_auraOnly.rests rests

theorem nativeRun_rests {core : NativePairCore J A O} {history : List NativeCall} (run : NativeRun core history) :
    RestsNormalized core (roleWrites history) := by
  induction run with
  | new => exact fun _ => followed_of_quiet (by simp)
  | step operation run returned rests =>
    rw [roleWrites_append]
    exact perform_rests operation rests returned

/-- An accepted shutdown found the pair at rest or has just stopped it. -/
theorem shutdown_accepted_normalized {core : NativePairCore J A O} {writes : List RoleWrite}
    {receipt : PairActionReceipt} (rests : RestsNormalized core writes)
    (returned : (shutdown core).out = some (.accepted receipt)) :
    Normalized (writes ++ roleWrites (shutdown core).trace) := by
  have exit := shutdown_exit core
  generalize shutdown core = run at exit returned
  cases exit with
  | latched => simp at returned
  | released free rest release => exact release.normalized (rests rest)
  | stopped free busy complete kept release =>
    rw [after_trace, roleWrites_append, complete, ← List.append_assoc]
    exact release.normalized (normalized_append_stop writes)
  | refused free busy exit failed => exact absurd returned (failed receipt)

/-- In one process a core at rest, and every accepted shutdown, has answered each START
write that may have been delivered. -/
theorem nativeRun_leaves_no_link {core : NativePairCore J A O} {history : List NativeCall}
    (run : NativeRun core history) :
    (core.lifecycle = .ready ∨ core.lifecycle = .offline → Normalized (roleWrites history)) ∧
      ∀ receipt, (shutdown core).out = some (.accepted receipt) →
        Normalized (roleWrites (history ++ (shutdown core).trace)) := by
  constructor
  · exact nativeRun_rests run
  · intro receipt returned
    rw [roleWrites_append]
    exact shutdown_accepted_normalized (nativeRun_rests run) returned

/-- A core over scripted devices whose JBL and Aura accept every write they are given. -/
def acceptingCore (rounds : Nat) : NativePairCore RecordingJbl MockAura MockObserver :=
  NativePairCore.new ⟨List.replicate rounds (.accepted ⟨⟩)⟩ (MockAura.new .offline (List.replicate rounds .accepted))
    (.ack ⟨List.replicate rounds (.ok ()), List.replicate rounds (.ok ())⟩) fixtureJblIdentity fixtureAuraIdentity 0

theorem nativeRun_leaves_no_link_linked : ∃ (core : NativePairCore RecordingJbl MockAura MockObserver)
    (history : List NativeCall), NativeRun core history ∧ core.lifecycle = .linked ∧
      (shutdown core).out = some (NativePairCore.accepted .shuttingDown false) ∧
      Normalized (roleWrites (history ++ (shutdown core).trace)) := by
  have run : NativeRun (perform .start (acceptingCore 2)).state ([] ++ (perform .start (acceptingCore 2)).trace) :=
    .step .start (.new ..) (by decide)
  exact ⟨_, _, run, rfl, rfl, (nativeRun_leaves_no_link run).2 _ rfl⟩

/-- A recovery crosses the latch once the old bearer is closed. -/
def Crosses (operation : NativeOperation) (core : NativePairCore J A O) : Prop :=
  operation = .recoverStop ∧ (AuraRoleControl.shutdown core.aura).1 = .answered (.ok ())

/-- Operations after a call that reported an unknown outcome, none of which crosses the
latch. The second index is the most recently reported failure. -/
inductive LatchedRun : NativePairCore J A O → PairActionFailure → Prop where
  | reported {core : NativePairCore J A O} {failure : PairActionFailure} (operation : NativeOperation)
      (returned : (perform operation core).out = some (.action (.outcomeUnknown failure))) :
      LatchedRun (perform operation core).state failure
  | step {core : NativePairCore J A O} {failure : PairActionFailure} {outcome : NativeOutcome}
      (operation : NativeOperation) (run : LatchedRun core failure) (kept : ¬Crosses operation core)
      (returned : (perform operation core).out = some outcome) :
      LatchedRun (perform operation core).state (outcome.unknown.getD failure)

theorem latched_refuses {core : NativePairCore J A O} {failure : PairActionFailure}
    (held : core.unresolved = some failure) :
    start core = ⟨[], core, some (.outcomeUnknown failure)⟩ ∧
      stop core = ⟨[], core, some (.outcomeUnknown failure)⟩ ∧
      shutdown core = ⟨[], core, some (.outcomeUnknown failure)⟩ := by
  refine ⟨?_, ?_, ?_⟩
  · simp only [start, openTransaction, get_bind_run, held, pure_run]
  · simp only [stop, openTransaction, get_bind_run, held, pure_run]
  · simp only [shutdown, get_bind_run, held, pure_run]

theorem shutdown_unknown_latched {core : NativePairCore J A O} {failure : PairActionFailure}
    (returned : (shutdown core).out = some (.outcomeUnknown failure)) :
    (shutdown core).state.unresolved = some failure := by
  have exit := shutdown_exit core
  generalize shutdown core = run at exit returned
  cases exit with
  | latched held =>
    obtain rfl := PairActionResult.outcomeUnknown.inj (Option.some.inj returned)
    exact held
  | released free rest release => exact release.unknown_latched returned
  | stopped free busy complete kept release => exact release.unknown_latched returned
  | refused free busy exit => exact exit.unknown_latched returned

theorem recoverStop_unknown_latched {core : NativePairCore J A O} {failure : PairActionFailure}
    (returned : (recoverStop core).out = some (.outcomeUnknown failure)) :
    (recoverStop core).state.unresolved = some failure := by
  have exit := recoverStop_exit core
  generalize recoverStop core = run at exit returned
  cases exit with
  | closeFailed native lifecycle latched =>
    obtain rfl := PairActionResult.outcomeUnknown.inj (Option.some.inj returned)
    exact latched
  | stopping closed lifecycle free exit => exact exit.unknown_latched returned
  | killed => simp at returned

theorem perform_unknown_latched {core : NativePairCore J A O} {failure : PairActionFailure}
    {operation : NativeOperation}
    (returned : (perform operation core).out = some (.action (.outcomeUnknown failure))) :
    (perform operation core).state.unresolved = some failure := by
  cases operation with
  | start => exact (start_exit core).unknown_latched (by simpa [perform, Exec.map] using returned)
  | stop => exact (stop_exit core).unknown_latched (by simpa [perform, Exec.map] using returned)
  | shutdown => exact shutdown_unknown_latched (by simpa [perform, Exec.map] using returned)
  | recoverStop => exact recoverStop_unknown_latched (by simpa [perform, Exec.map] using returned)
  | teardownTransport => simp [perform, Exec.map] at returned
  | health => simp [perform, Exec.map] at returned

theorem recoverStop_uncrossed {core : NativePairCore J A O} (kept : ¬Crosses .recoverStop core) :
    roleWrites (recoverStop core).trace = [] ∧
      ∀ result, (recoverStop core).out = some result → ∃ failure, result = .outcomeUnknown failure := by
  have exit := recoverStop_exit core
  generalize recoverStop core = run at exit
  cases exit with
  | closeFailed =>
    constructor
    · rfl
    · intro result returned
      obtain rfl := Option.some.inj returned
      exact ⟨_, rfl⟩
  | stopping closed => exact absurd ⟨rfl, closed⟩ kept
  | killed quiet => exact ⟨quiet, by simp⟩

/-- Up to a crossing, an operation leaves the failure it reports, or else the old one. -/
theorem perform_keeps_latch {core : NativePairCore J A O} {failure : PairActionFailure} {outcome : NativeOutcome}
    {operation : NativeOperation} (held : core.unresolved = some failure) (kept : ¬Crosses operation core)
    (returned : (perform operation core).out = some outcome) :
    (perform operation core).state.unresolved = some (outcome.unknown.getD failure) := by
  rcases reported : outcome.unknown with _ | latest
  · obtain ⟨starts, stops, shuts⟩ := latched_refuses held
    cases operation with
    | start =>
      simp only [perform, Exec.map, starts, Option.map_some, Option.some.injEq] at returned
      simp [← returned, NativeOutcome.unknown] at reported
    | stop =>
      simp only [perform, Exec.map, stops, Option.map_some, Option.some.injEq] at returned
      simp [← returned, NativeOutcome.unknown] at reported
    | shutdown =>
      simp only [perform, Exec.map, shuts, Option.map_some, Option.some.injEq] at returned
      simp [← returned, NativeOutcome.unknown] at reported
    | recoverStop =>
      simp only [perform, Exec.map, Option.map_eq_some_iff] at returned
      obtain ⟨result, answered, rfl⟩ := returned
      obtain ⟨latest, rfl⟩ := (recoverStop_uncrossed kept).2 result answered
      simp [NativeOutcome.unknown] at reported
    | teardownTransport => exact (teardownTransport_auraOnly.unresolved core).trans held
    | health => exact (health_auraOnly.unresolved core).trans held
  · obtain rfl := NativeOutcome.eq_of_unknown reported
    exact perform_unknown_latched returned

theorem latchedRun_held {core : NativePairCore J A O} {failure : PairActionFailure} (run : LatchedRun core failure) :
    core.unresolved = some failure := by
  induction run with
  | reported operation returned => exact perform_unknown_latched returned
  | step operation run kept returned held => exact perform_keeps_latch held kept returned

/-- After an unknown outcome every START, STOP and shutdown answers with the latest
failure and calls no device, whatever happens up to a crossing recovery. -/
theorem latch_holds_until_recovery :
    (∀ (core : NativePairCore J A O) (failure : PairActionFailure), LatchedRun core failure →
      start core = ⟨[], core, some (.outcomeUnknown failure)⟩ ∧
        stop core = ⟨[], core, some (.outcomeUnknown failure)⟩ ∧
        shutdown core = ⟨[], core, some (.outcomeUnknown failure)⟩) ∧
      (∀ core : NativePairCore J A O, (teardownTransport core).state.unresolved = core.unresolved ∧
        (health core).state.unresolved = core.unresolved) ∧
      ∀ core : NativePairCore J A O, (AuraRoleControl.shutdown core.aura).1 ≠ .answered (.ok ()) →
        roleWrites (recoverStop core).trace = [] := by
  refine ⟨fun core failure run => latched_refuses (latchedRun_held run), fun core => ⟨?_, ?_⟩, ?_⟩
  · exact teardownTransport_auraOnly.unresolved core
  · exact health_auraOnly.unresolved core
  · intro core failed
    exact (recoverStop_uncrossed fun crossed => failed crossed.2).1

/-- A core whose broadcaster never answers. -/
def silentBroadcasterCore : NativePairCore RecordingJbl MockAura MockObserver :=
  NativePairCore.new ⟨[.accepted ⟨⟩]⟩ (MockAura.new .offline [])
    (.ack ⟨[.ok ()], [.error .writeResponseTimedOut]⟩) fixtureJblIdentity fixtureAuraIdentity 0

theorem latch_holds_until_recovery_teardown : ∃ core : NativePairCore RecordingJbl MockAura MockObserver,
    core.aura.health = .offline ∧
      shutdown core =
        ⟨[], core, some (.outcomeUnknown ⟨.nativePair, .jblBroadcastResultTimedOut, some .linking⟩)⟩ := by
  have latched : LatchedRun (perform .start silentBroadcasterCore).state
      ⟨.nativePair, .jblBroadcastResultTimedOut, some .linking⟩ := .reported .start rfl
  have closed := latched.step .teardownTransport (fun crossed => by cases crossed.1) rfl
  exact ⟨_, rfl, (latch_holds_until_recovery.1 _ _ closed).2.2⟩

end Runs
end NativePairCore

end PlayTogether.Native
