import PlayTogether.Native.Core

/-! Every way a native transaction can end, stated once. START and STOP share one
table; the role sequence and the goal are its parameters. -/

namespace PlayTogether.Native
open PlayTogether.Library PlayTogether.Device PlayTogether.Pair

namespace NativePairCore
variable {J A O : Type}

/-- Exits once the first role write was accepted: nothing can be rejected any more. -/
inductive BroadcastExit (action : BroadcastAction) (remaining : List RoleCommand) (goal : PairLifecycle)
    (core : NativePairCore J A O) : Exec NativeCall (NativePairCore J A O) PairActionResult → Prop where
  | unknown {trace : List NativeCall} {after : NativePairCore J A O} {failure : PairActionFailure}
      (ordered : OrderedPrefix remaining (roleWrites trace))
      (failed : ∃ write ∈ roleWrites trace, write.delivery ≠ .accepted)
      (native : failure.backend = .nativePair)
      (lifecycle : after.lifecycle = .degraded) (latched : after.unresolved = some failure) :
      BroadcastExit action remaining goal core ⟨trace, after, some (.outcomeUnknown failure)⟩
  | accepted {trace : List NativeCall} {after : NativePairCore J A O} {evidence : BroadcastResultEvidence}
      (writes : roleWrites trace = acceptedSequence remaining)
      (executed : .observerExecute action (some (.ok evidence)) ∈ trace)
      (lifecycle : after.lifecycle = goal) (kept : after.unresolved = core.unresolved) :
      BroadcastExit action remaining goal core ⟨trace, after, some (acceptedWithBroadcastEvidence goal evidence)⟩
  | killed {trace : List NativeCall} {after : NativePairCore J A O}
      (ordered : OrderedPrefix remaining (roleWrites trace)) :
      BroadcastExit action remaining goal core ⟨trace, after, none⟩

/-- Exits of the role writes of a transaction, from its armed observer on. -/
inductive RolesExit (action : BroadcastAction) (sequence : List RoleCommand) (goal : PairLifecycle)
    (core : NativePairCore J A O) : Exec NativeCall (NativePairCore J A O) PairActionResult → Prop where
  | rejected {trace : List NativeCall} {after : NativePairCore J A O} {failure : PairActionFailure}
      (ordered : OrderedPrefix sequence (roleWrites trace))
      (unsent : ∀ write ∈ roleWrites trace, ¬write.reached)
      (native : failure.backend = .nativePair)
      (lifecycle : after.lifecycle = .degraded) (kept : after.unresolved = core.unresolved) :
      RolesExit action sequence goal core ⟨trace, after, some (.rejectedBeforeSend failure)⟩
  | unknown {trace : List NativeCall} {after : NativePairCore J A O} {failure : PairActionFailure}
      (ordered : OrderedPrefix sequence (roleWrites trace))
      (sent : ∃ write ∈ roleWrites trace, write.reached)
      (failed : ∃ write ∈ roleWrites trace, write.delivery ≠ .accepted)
      (native : failure.backend = .nativePair)
      (lifecycle : after.lifecycle = .degraded) (latched : after.unresolved = some failure) :
      RolesExit action sequence goal core ⟨trace, after, some (.outcomeUnknown failure)⟩
  | accepted {trace : List NativeCall} {after : NativePairCore J A O} {evidence : BroadcastResultEvidence}
      (writes : roleWrites trace = acceptedSequence sequence)
      (executed : .observerExecute action (some (.ok evidence)) ∈ trace)
      (lifecycle : after.lifecycle = goal) (kept : after.unresolved = core.unresolved) :
      RolesExit action sequence goal core ⟨trace, after, some (acceptedWithBroadcastEvidence goal evidence)⟩
  | killed {trace : List NativeCall} {after : NativePairCore J A O}
      (ordered : OrderedPrefix sequence (roleWrites trace)) :
      RolesExit action sequence goal core ⟨trace, after, none⟩

/-- An accepted first write in front of a broadcast stage. -/
theorem BroadcastExit.after_first {action : BroadcastAction} {first : RoleCommand} {remaining : List RoleCommand}
    {goal : PairLifecycle} {core start : NativePairCore J A O} {call : NativeCall}
    {run : Exec NativeCall (NativePairCore J A O) PairActionResult}
    (stage : BroadcastExit action remaining goal start run) (same : start.unresolved = core.unresolved)
    (write : call.roleWrite = some ⟨first, .accepted⟩) :
    RolesExit action (first :: remaining) goal core (run.after [call]) := by
  have writes (trace : List NativeCall) :
      roleWrites ([call] ++ trace) = ⟨first, .accepted⟩ :: roleWrites trace := by simp [write]
  cases stage with
  | unknown ordered failed native lifecycle latched =>
    refine .unknown ?_ ?_ ?_ native lifecycle latched
    · rw [writes]
      exact orderedPrefix_cons ordered
    · exact ⟨⟨first, .accepted⟩, by rw [writes]; simp, nofun⟩
    · obtain ⟨late, member, bad⟩ := failed
      exact ⟨late, by rw [writes]; simp [member], bad⟩
  | accepted complete executed lifecycle kept =>
    refine .accepted ?_ ?_ lifecycle (kept.trans same)
    · rw [writes, complete]
      rfl
    · exact List.mem_append_right _ executed
  | killed ordered =>
    apply RolesExit.killed
    rw [writes]
    exact orderedPrefix_cons ordered

def sleepTrace (core : NativePairCore J A O) : List NativeCall :=
  if core.joinDelay = 0 then [] else [.sleep core.joinDelay]

theorem joinSleep_bind {α : Type} (core : NativePairCore J A O)
    (f : Unit → Proc NativeCall (NativePairCore J A O) α) :
    (joinSleep >>= f) core = (f () core).after (sleepTrace core) := by
  by_cases zero : core.joinDelay = 0
  · have run : joinSleep core = ⟨[], core, some ()⟩ := by simp [joinSleep, zero]
    rw [bind_value run, sleepTrace, if_pos zero]
  · have run : joinSleep core = ⟨[.sleep core.joinDelay], core, some ()⟩ := by simp [joinSleep, zero]
    rw [bind_value run, sleepTrace, if_neg zero]

@[simp] theorem roleWrites_sleepTrace (core : NativePairCore J A O) : roleWrites (sleepTrace core) = [] := by
  unfold sleepTrace
  split <;> rfl

section Broadcasts
variable [BroadcastResultObserver O]

section Start
variable [AuraRoleControl A]

theorem startBroadcast_exit (core : NativePairCore J A O) :
    BroadcastExit .start [.broadcastStart, .auraOn] .linked core (startBroadcast core) := by
  have joined (delivery : Delivery) : OrderedPrefix [.broadcastStart, .auraOn]
      [⟨.broadcastStart, .accepted⟩, ⟨.auraOn, delivery⟩] :=
    orderedPrefix_cons (orderedPrefix_single _ _ _)
  simp only [startBroadcast, get_bind_run, observerExecute]
  rcases answer : BroadcastResultObserver.execute .start core.jblIdentity core.broadcastObserver with
    ⟨(failure | evidence) | _ | _, observer⟩
  · rw [call_answered answer]
    exact .unknown (orderedPrefix_single _ _ _) ⟨_, List.mem_cons_self, nofun⟩ rfl rfl rfl
  · rw [call_answered answer]
    simp only [startReceiver, joinSleep_bind, auraStart]
    rcases receiver : AuraRoleControl.start core.aura with ⟨(_ | failure | failure) | _ | _, aura⟩
    · rw [call_answered receiver]
      refine .accepted ?_ List.mem_cons_self rfl rfl
      simp [broadcastDelivery, auraDelivery, acceptedSequence]
    · rw [call_answered receiver]
      refine .unknown ?_ ?_ rfl rfl rfl
      · simpa [broadcastDelivery] using joined _
      · simp [broadcastDelivery, auraDelivery]
    · rw [call_answered receiver]
      refine .unknown ?_ ?_ rfl rfl rfl
      · simpa [broadcastDelivery] using joined _
      · simp [broadcastDelivery, auraDelivery]
    · rw [call_unanswered receiver]
      apply BroadcastExit.killed
      simpa [broadcastDelivery] using joined _
    · rw [call_unissued receiver]
      apply BroadcastExit.killed
      simpa using orderedPrefix_single _ _ _
  · rw [call_unanswered answer]
    exact .killed (orderedPrefix_single _ _ _)
  · rw [call_unissued answer]
    exact .killed (orderedPrefix_nil _)

end Start

section Stop
variable [JblRoleControl J]

theorem stopBroadcast_exit (core : NativePairCore J A O) :
    BroadcastExit .stop [.broadcastStop, .jblExit] .ready core (stopBroadcast core) := by
  have joined (delivery : Delivery) : OrderedPrefix [.broadcastStop, .jblExit]
      [⟨.broadcastStop, .accepted⟩, ⟨.jblExit, delivery⟩] :=
    orderedPrefix_cons (orderedPrefix_single _ _ _)
  simp only [stopBroadcast, get_bind_run, observerExecute]
  rcases answer : BroadcastResultObserver.execute .stop core.jblIdentity core.broadcastObserver with
    ⟨(failure | evidence) | _ | _, observer⟩
  · rw [call_answered answer]
    exact .unknown (orderedPrefix_single _ _ _) ⟨_, List.mem_cons_self, nofun⟩ rfl rfl rfl
  · rw [call_answered answer]
    simp only [stopBroadcaster, jblExit]
    rcases exits : JblRoleControl.exit core.jbl with ⟨(_ | error | error) | _ | _, jbl⟩
    · rw [call_answered exits]
      exact .accepted rfl List.mem_cons_self rfl rfl
    · rw [call_answered exits]
      refine .unknown (joined _) ⟨_, List.mem_cons_of_mem _ List.mem_cons_self, ?_⟩ rfl rfl rfl
      exact jblDelivery_rejected_ne error
    · rw [call_answered exits]
      exact .unknown (joined _) ⟨_, List.mem_cons_of_mem _ List.mem_cons_self, nofun⟩ rfl rfl rfl
    · rw [call_unanswered exits]
      exact .killed (joined _)
    · rw [call_unissued exits]
      exact .killed (orderedPrefix_single _ _ _)
  · rw [call_unanswered answer]
    exact .killed (orderedPrefix_single _ _ _)
  · rw [call_unissued answer]
    exact .killed (orderedPrefix_nil _)

end Stop

/-- Cancelling the observer is no role write and keeps every other field. -/
theorem observerCancel_cases {α : Type} (f : Unit → Proc NativeCall (NativePairCore J A O) α)
    (core : NativePairCore J A O) :
    (∃ observer, (observerCancel >>= f) core =
      (f () (observerField.set observer core)).after [.observerCancel (some ())]) ∨
    ∃ trace observer, roleWrites trace = [] ∧
      (observerCancel >>= f) core = ⟨trace, observerField.set observer core, none⟩ := by
  simp only [observerCancel]
  rcases cancels : BroadcastResultObserver.cancel core.broadcastObserver with ⟨_ | _ | _, observer⟩
  · exact .inl ⟨observer, call_answered cancels⟩
  · exact .inr ⟨_, observer, rfl, call_unanswered cancels⟩
  · exact .inr ⟨_, observer, rfl, call_unissued cancels⟩

section Cancelled
variable {action : BroadcastAction} {first : RoleCommand} {remaining : List RoleCommand}
  {goal : PairLifecycle} {core start : NativePairCore J A O} {call : NativeCall} {delivery : Delivery}

theorem single_ordered {trace : List NativeCall} (write : call.roleWrite = some ⟨first, delivery⟩)
    (quiet : roleWrites trace = []) : OrderedPrefix (first :: remaining) (roleWrites ([call] ++ trace)) := by
  simpa [write, quiet] using orderedPrefix_single first delivery remaining

/-- A first write that may have been delivered latches the transaction. -/
theorem cancel_unknown (reason : PairBackendError) (observed : Option PairLifecycle)
    (write : call.roleWrite = some ⟨first, .maybeSent⟩) :
    RolesExit action (first :: remaining) goal core
      (((observerCancel >>= fun _ => latchUnknown reason observed) start).after [call]) := by
  rcases observerCancel_cases (fun _ => latchUnknown reason observed) start with
    ⟨observer, run⟩ | ⟨trace, observer, quiet, run⟩
  · rw [run]
    refine .unknown (single_ordered write rfl) ⟨⟨first, .maybeSent⟩, ?_, nofun⟩ ⟨⟨first, .maybeSent⟩, ?_, nofun⟩
      rfl rfl rfl <;> simp [write]
  · rw [run]
    exact .killed (single_ordered write quiet)

/-- A first write that was certainly not sent is an ordinary rejection. -/
theorem cancel_rejected (reason : PairBackendError) (same : start.unresolved = core.unresolved)
    (write : call.roleWrite = some ⟨first, .notSent⟩) :
    RolesExit action (first :: remaining) goal core
      (((observerCancel >>= fun _ => rejectDegraded reason) start).after [call]) := by
  rcases observerCancel_cases (fun _ => rejectDegraded reason) start with
    ⟨observer, run⟩ | ⟨trace, observer, quiet, run⟩
  · rw [run]
    refine .rejected (single_ordered write rfl) ?_ rfl rfl same
    simp [write, RoleWrite.reached]
  · rw [run]
    exact .killed (single_ordered write quiet)

end Cancelled

end Broadcasts

/-- The process writes no role and changes the Aura client only. -/
def AuraOnly {α : Type} (p : Proc NativeCall (NativePairCore J A O) α) : Prop :=
  ∀ core, ∃ trace aura out, roleWrites trace = [] ∧ p core = ⟨trace, auraField.set aura core, out⟩

theorem auraOnly_pure {α : Type} (a : α) : AuraOnly (pure a : Proc NativeCall (NativePairCore J A O) α) :=
  fun core => ⟨[], core.aura, some a, rfl, rfl⟩

theorem auraOnly_get : AuraOnly (Proc.get : Proc NativeCall (NativePairCore J A O) _) :=
  fun core => ⟨[], core.aura, some core, rfl, rfl⟩

theorem auraOnly_bind {α β : Type} {p : Proc NativeCall (NativePairCore J A O) α}
    {f : α → Proc NativeCall (NativePairCore J A O) β} (first : AuraOnly p) (rest : ∀ a, AuraOnly (f a)) :
    AuraOnly (p >>= f) := by
  intro core
  obtain ⟨trace, aura, out, quiet, run⟩ := first core
  rcases out with _ | a
  · exact ⟨trace, aura, none, quiet, bind_killed run⟩
  · obtain ⟨later, aura', out', quiet', run'⟩ := rest a (auraField.set aura core)
    refine ⟨trace ++ later, aura', out', by simp [quiet, quiet'], ?_⟩
    rw [bind_value run, run']
    rfl

theorem auraOnly_call {α : Type} {method : A → Reply α × A} {event : Option α → NativeCall}
    (quiet : ∀ reply, (event reply).roleWrite = none) :
    AuraOnly (Proc.call auraField method event : Proc NativeCall (NativePairCore J A O) α) := by
  intro core
  rcases answer : method core.aura with ⟨a | _ | _, aura⟩
  · exact ⟨[event (some a)], aura, some a, by simp [quiet], by simp only [Proc.call, auraField, answer]⟩
  · exact ⟨[event none], aura, none, by simp [quiet], by simp only [Proc.call, auraField, answer]⟩
  · exact ⟨[], aura, none, rfl, by simp only [Proc.call, auraField, answer]⟩

section Bearer
variable [AuraRoleControl A]

theorem acquireFreshAuraBearer_auraOnly :
    AuraOnly (acquireFreshAuraBearer : Proc NativeCall (NativePairCore J A O) _) := by
  apply auraOnly_bind (auraOnly_call fun _ => rfl)
  intro closed
  cases closed with
  | error error => exact auraOnly_pure _
  | ok _ =>
    apply auraOnly_bind auraOnly_get
    intro self
    apply auraOnly_bind (auraOnly_call fun _ => rfl)
    intro connected
    cases connected with
    | error error => exact auraOnly_pure _
    | ok _ => exact auraOnly_pure _

theorem health_auraOnly : AuraOnly (health : Proc NativeCall (NativePairCore J A O) _) :=
  auraOnly_bind (auraOnly_call fun _ => rfl) fun _ => auraOnly_bind auraOnly_get fun _ => auraOnly_pure _

theorem teardownTransport_auraOnly : AuraOnly (teardownTransport : Proc NativeCall (NativePairCore J A O) _) := by
  apply auraOnly_bind (auraOnly_call fun _ => rfl)
  intro closed
  cases closed with
  | error error => exact auraOnly_pure _
  | ok _ => exact auraOnly_pure _

/-- Exits of a whole START or STOP. -/
inductive TransactionExit (action : BroadcastAction) (sequence : List RoleCommand) (goal : PairLifecycle)
    (core : NativePairCore J A O) : Exec NativeCall (NativePairCore J A O) PairActionResult → Prop where
  | latched {failure : PairActionFailure} (held : core.unresolved = some failure) :
      TransactionExit action sequence goal core ⟨[], core, some (.outcomeUnknown failure)⟩
  | idempotent {after : NativePairCore J A O}
      (arrived : core.lifecycle = goal) (live : (AuraRoleControl.health core.aura).1 = .answered .ready)
      (lifecycle : after.lifecycle = core.lifecycle) (free : core.unresolved = none)
      (kept : after.unresolved = none) :
      TransactionExit action sequence goal core
        ⟨[.auraHealth (some .ready)], after, some (NativePairCore.accepted goal true)⟩
  | rejected {trace : List NativeCall} {after : NativePairCore J A O} {failure : PairActionFailure}
      (ordered : OrderedPrefix sequence (roleWrites trace))
      (unsent : ∀ write ∈ roleWrites trace, ¬write.reached)
      (native : failure.backend = .nativePair)
      (lifecycle : after.lifecycle = .degraded) (free : core.unresolved = none)
      (kept : after.unresolved = none) :
      TransactionExit action sequence goal core ⟨trace, after, some (.rejectedBeforeSend failure)⟩
  | unknown {trace : List NativeCall} {after : NativePairCore J A O} {failure : PairActionFailure}
      (ordered : OrderedPrefix sequence (roleWrites trace))
      (sent : ∃ write ∈ roleWrites trace, write.reached)
      (failed : ∃ write ∈ roleWrites trace, write.delivery ≠ .accepted)
      (native : failure.backend = .nativePair)
      (lifecycle : after.lifecycle = .degraded) (free : core.unresolved = none)
      (latched : after.unresolved = some failure) :
      TransactionExit action sequence goal core ⟨trace, after, some (.outcomeUnknown failure)⟩
  | accepted {trace : List NativeCall} {after : NativePairCore J A O} {evidence : BroadcastResultEvidence}
      (writes : roleWrites trace = acceptedSequence sequence)
      (executed : .observerExecute action (some (.ok evidence)) ∈ trace)
      (lifecycle : after.lifecycle = goal) (free : core.unresolved = none)
      (kept : after.unresolved = none) :
      TransactionExit action sequence goal core ⟨trace, after, some (acceptedWithBroadcastEvidence goal evidence)⟩
  | killed {trace : List NativeCall} {after : NativePairCore J A O}
      (ordered : OrderedPrefix sequence (roleWrites trace)) (free : core.unresolved = none) :
      TransactionExit action sequence goal core ⟨trace, after, none⟩

/-- The role writes of a transaction behind calls that write no role. -/
theorem RolesExit.after_quiet {action : BroadcastAction} {sequence : List RoleCommand} {goal : PairLifecycle}
    {core start : NativePairCore J A O} {first : List NativeCall}
    {run : Exec NativeCall (NativePairCore J A O) PairActionResult}
    (stage : RolesExit action sequence goal start run) (free : core.unresolved = none)
    (same : start.unresolved = core.unresolved) (quiet : roleWrites first = []) :
    TransactionExit action sequence goal core (run.after first) := by
  have writes (trace : List NativeCall) : roleWrites (first ++ trace) = roleWrites trace := by simp [quiet]
  cases stage with
  | rejected ordered unsent native lifecycle kept =>
    exact .rejected (by rwa [writes]) (by rwa [writes]) native lifecycle free ((kept.trans same).trans free)
  | unknown ordered sent failed native lifecycle latched =>
    exact .unknown (by rwa [writes]) (by rwa [writes]) (by rwa [writes]) native lifecycle free latched
  | accepted complete executed lifecycle kept =>
    exact .accepted (by rwa [writes]) (List.mem_append_right _ executed) lifecycle free
      ((kept.trans same).trans free)
  | killed ordered => exact .killed (by rwa [writes]) free

/-- What the idempotent check can answer. -/
inductive CheckExit (goal : PairLifecycle) (core : NativePairCore J A O) :
    Exec NativeCall (NativePairCore J A O) Bool → Prop where
  | arrived {aura : A} (same : core.lifecycle = goal)
      (live : (AuraRoleControl.health core.aura).1 = .answered .ready) :
      CheckExit goal core ⟨[.auraHealth (some .ready)], auraField.set aura core, some true⟩
  | elsewhere {trace : List NativeCall} {aura : A} (quiet : roleWrites trace = []) :
      CheckExit goal core ⟨trace, auraField.set aura core, some false⟩
  | killed {trace : List NativeCall} {aura : A} (quiet : roleWrites trace = []) :
      CheckExit goal core ⟨trace, auraField.set aura core, none⟩

theorem alreadyAt_exit (goal : PairLifecycle) (core : NativePairCore J A O) :
    CheckExit goal core (alreadyAt goal core) := by
  simp only [alreadyAt, get_bind_run]
  by_cases same : core.lifecycle = goal
  · rw [if_pos same]
    simp only [auraHealth]
    rcases reads : AuraRoleControl.health core.aura with ⟨health | _ | _, aura⟩
    · rw [call_answered reads]
      cases health with
      | ready => exact .arrived same (by rw [reads])
      | _ => exact .elsewhere rfl
    · rw [call_unanswered reads]
      exact .killed rfl
    · rw [call_unissued reads]
      exact .killed rfl
  · rw [if_neg same]
    exact @CheckExit.elsewhere J A O _ goal core [] core.aura rfl

section Opening
variable {action : BroadcastAction} {sequence : List RoleCommand} {goal : PairLifecycle}
  {roles : Proc NativeCall (NativePairCore J A O) PairActionResult}

theorem quiet_ordered {trace : List NativeCall} (quiet : roleWrites trace = []) :
    OrderedPrefix sequence (roleWrites trace) := by
  rw [quiet]
  exact orderedPrefix_nil sequence

theorem quiet_rejected {core after : NativePairCore J A O} {trace : List NativeCall} {reason : PairBackendError}
    (free : core.unresolved = none) (same : after.unresolved = core.unresolved) (quiet : roleWrites trace = []) :
    TransactionExit action sequence goal core ((rejectDegraded reason after).after trace) := by
  rw [rejectDegraded_run, after_mk, List.append_nil]
  exact .rejected (quiet_ordered quiet) (by simp [quiet]) rfl rfl free (same.trans free)

variable [BroadcastResultObserver O]

theorem acquireAndArm_exit (stage : ∀ core, RolesExit action sequence goal core (roles core))
    (transitional : PairLifecycle) {core start : NativePairCore J A O} {first : List NativeCall}
    (free : core.unresolved = none) (same : start.unresolved = core.unresolved)
    (before : roleWrites first = []) :
    TransactionExit action sequence goal core ((acquireAndArm transitional action roles start).after first) := by
  obtain ⟨trace, aura, out, quiet, run⟩ := acquireFreshAuraBearer_auraOnly start
  have silent : roleWrites (first ++ trace) = [] := by simp [before, quiet]
  rcases out with _ | error | _
  · rw [acquireAndArm, bind_killed run]
    exact .killed (quiet_ordered silent) free
  · rw [acquireAndArm, bind_value run, after_after]
    exact quiet_rejected free same silent
  · rw [acquireAndArm, bind_value run, after_after]
    simp only [setLifecycle_bind, get_bind_run, observerArm]
    rcases arms : BroadcastResultObserver.arm action start.jblIdentity start.broadcastObserver with
      ⟨(failure | _) | _ | _, observer⟩
    · rw [call_answered arms, after_after]
      exact quiet_rejected free same (by simp [before, quiet])
    · rw [call_answered arms, after_after]
      exact (stage _).after_quiet free same (by simp [before, quiet])
    · rw [call_unanswered arms]
      exact .killed (quiet_ordered (by simp [before, quiet])) free
    · rw [call_unissued arms]
      exact .killed (quiet_ordered (by simp [before, quiet])) free

theorem openTransaction_exit (stage : ∀ core, RolesExit action sequence goal core (roles core))
    (transitional : PairLifecycle) (core : NativePairCore J A O) :
    TransactionExit action sequence goal core (openTransaction goal transitional action roles core) := by
  simp only [openTransaction, get_bind_run]
  rcases free : core.unresolved with _ | failure
  · dsimp only
    have checked := alreadyAt_exit goal core
    generalize run : alreadyAt goal core = answer at checked
    cases checked with
    | arrived same live =>
      rw [bind_value run]
      exact .idempotent same live rfl free free
    | elsewhere quiet =>
      rw [bind_value run]
      exact acquireAndArm_exit stage transitional free rfl quiet
    | killed quiet =>
      rw [bind_killed run]
      exact .killed (quiet_ordered quiet) free
  · exact .latched free

end Opening

/-- Releasing the bearer writes no role. -/
inductive ReleaseExit (core : NativePairCore J A O) :
    Exec NativeCall (NativePairCore J A O) PairActionResult → Prop where
  | unknown {trace : List NativeCall} {after : NativePairCore J A O} {failure : PairActionFailure}
      (quiet : roleWrites trace = []) (native : failure.backend = .nativePair)
      (lifecycle : after.lifecycle = .degraded) (latched : after.unresolved = some failure) :
      ReleaseExit core ⟨trace, after, some (.outcomeUnknown failure)⟩
  | accepted {trace : List NativeCall} {after : NativePairCore J A O}
      (quiet : roleWrites trace = []) (lifecycle : after.lifecycle = .offline)
      (kept : after.unresolved = core.unresolved) :
      ReleaseExit core ⟨trace, after, some (NativePairCore.accepted .shuttingDown false)⟩
  | killed {trace : List NativeCall} {after : NativePairCore J A O} (quiet : roleWrites trace = []) :
      ReleaseExit core ⟨trace, after, none⟩

theorem releaseForShutdown_exit (core : NativePairCore J A O) : ReleaseExit core (releaseForShutdown core) := by
  simp only [releaseForShutdown, setLifecycle_bind, auraShutdown]
  rcases closes : AuraRoleControl.shutdown core.aura with ⟨(_ | _) | _ | _, aura⟩
  · rw [call_answered closes]
    exact .unknown rfl rfl rfl rfl
  · rw [call_answered closes]
    exact .accepted rfl rfl rfl
  · rw [call_unanswered closes]
    exact .killed rfl
  · rw [call_unissued closes]
    exact .killed rfl

/-- The pair needs no STOP before its bearer is released. -/
def AtRest (core : NativePairCore J A O) : Prop := core.lifecycle = .ready ∨ core.lifecycle = .offline

instance (core : NativePairCore J A O) : Decidable core.AtRest := inferInstanceAs (Decidable (_ ∨ _))

end Bearer

section Operations
variable [JblRoleControl J] [AuraRoleControl A] [BroadcastResultObserver O]

theorem startRoles_exit (core : NativePairCore J A O) :
    RolesExit .start startSequence .linked core (startRoles core) := by
  simp only [startRoles, jblEnter]
  rcases enters : JblRoleControl.enter core.jbl with ⟨(_ | error | error) | _ | _, jbl⟩
  · rw [call_answered enters]
    exact (startBroadcast_exit (jblField.set jbl core)).after_first rfl rfl
  · rw [call_answered enters]
    cases error with
    | controlCommandRejected => exact cancel_unknown _ _ rfl
    | _ => exact cancel_rejected _ rfl rfl
  · rw [call_answered enters]
    exact cancel_unknown _ _ rfl
  · rw [call_unanswered enters]
    exact .killed (orderedPrefix_single _ _ _)
  · rw [call_unissued enters]
    exact .killed (orderedPrefix_nil _)

theorem stopRoles_exit (core : NativePairCore J A O) :
    RolesExit .stop stopSequence .ready core (stopRoles core) := by
  simp only [stopRoles, auraStop]
  rcases stops : AuraRoleControl.stop core.aura with ⟨(_ | failure | failure) | _ | _, aura⟩
  · rw [call_answered stops]
    exact (stopBroadcast_exit (auraField.set aura core)).after_first rfl rfl
  · rw [call_answered stops]
    exact cancel_rejected _ rfl rfl
  · rw [call_answered stops]
    exact cancel_unknown _ _ rfl
  · rw [call_unanswered stops]
    exact .killed (orderedPrefix_single _ _ _)
  · rw [call_unissued stops]
    exact .killed (orderedPrefix_nil _)

theorem start_exit (core : NativePairCore J A O) :
    TransactionExit .start startSequence .linked core (start core) :=
  openTransaction_exit startRoles_exit .linking core

theorem stop_exit (core : NativePairCore J A O) :
    TransactionExit .stop stopSequence .ready core (stop core) :=
  openTransaction_exit stopRoles_exit .unlinking core

inductive ShutdownExit (core : NativePairCore J A O) :
    Exec NativeCall (NativePairCore J A O) PairActionResult → Prop where
  | latched {failure : PairActionFailure} (held : core.unresolved = some failure) :
      ShutdownExit core ⟨[], core, some (.outcomeUnknown failure)⟩
  | released {run : Exec NativeCall (NativePairCore J A O) PairActionResult}
      (free : core.unresolved = none) (rest : core.AtRest) (release : ReleaseExit core run) : ShutdownExit core run
  | stopped {first : List NativeCall} {middle : NativePairCore J A O}
      {run : Exec NativeCall (NativePairCore J A O) PairActionResult}
      (free : core.unresolved = none) (busy : ¬core.AtRest)
      (writes : roleWrites first = acceptedSequence stopSequence) (kept : middle.unresolved = none)
      (release : ReleaseExit middle run) : ShutdownExit core (run.after first)
  | refused {run : Exec NativeCall (NativePairCore J A O) PairActionResult}
      (free : core.unresolved = none) (busy : ¬core.AtRest)
      (exit : TransactionExit .stop stopSequence .ready core run)
      (failed : ∀ receipt, run.out ≠ some (.accepted receipt)) : ShutdownExit core run

theorem shutdown_exit (core : NativePairCore J A O) : ShutdownExit core (shutdown core) := by
  simp only [shutdown, get_bind_run]
  rcases free : core.unresolved with _ | failure
  · dsimp only
    by_cases rest : core.lifecycle = .ready ∨ core.lifecycle = .offline
    · rw [if_pos rest]
      exact .released free rest (releaseForShutdown_exit core)
    · rw [if_neg rest]
      have exit := stop_exit core
      generalize run : stop core = stopping at exit
      cases exit with
      | latched held => exact absurd (held.symm.trans free) nofun
      | idempotent arrived => exact absurd (Or.inl arrived) rest
      | rejected ordered unsent native lifecycle _ kept =>
        rw [bind_value run]
        refine .refused free rest ?_ nofun
        simpa using .rejected ordered unsent native lifecycle free kept
      | unknown ordered sent failed native lifecycle _ latched =>
        rw [bind_value run]
        refine .refused free rest ?_ nofun
        simpa using .unknown ordered sent failed native lifecycle free latched
      | accepted writes executed lifecycle _ kept =>
        rw [bind_value run]
        exact .stopped free rest writes kept (releaseForShutdown_exit _)
      | killed ordered =>
        rw [bind_killed run]
        exact .refused free rest (.killed ordered free) nofun
  · exact .latched free

/-- Recovery either fails at the old bearer or runs one STOP from a cleared latch. -/
inductive RecoverExit (core : NativePairCore J A O) :
    Exec NativeCall (NativePairCore J A O) PairActionResult → Prop where
  | closeFailed {error : AuraTransportError} {after : NativePairCore J A O} {failure : PairActionFailure}
      (native : failure.backend = .nativePair)
      (lifecycle : after.lifecycle = .degraded) (latched : after.unresolved = some failure) :
      RecoverExit core ⟨[.auraShutdown (some (.error error))], after, some (.outcomeUnknown failure)⟩
  | stopping {cleared : NativePairCore J A O} {run : Exec NativeCall (NativePairCore J A O) PairActionResult}
      (closed : (AuraRoleControl.shutdown core.aura).1 = .answered (.ok ()))
      (lifecycle : cleared.lifecycle = .degraded) (free : cleared.unresolved = none)
      (exit : TransactionExit .stop stopSequence .ready cleared run) :
      RecoverExit core (run.after [.auraShutdown (some (.ok ()))])
  | killed {trace : List NativeCall} {after : NativePairCore J A O} (quiet : roleWrites trace = [])
      (open' : (.auraShutdown (some (.ok ()))) ∉ trace) :
      RecoverExit core ⟨trace, after, none⟩

theorem recoverStop_exit (core : NativePairCore J A O) : RecoverExit core (recoverStop core) := by
  simp only [recoverStop, setLifecycle_bind, auraShutdown]
  rcases closes : AuraRoleControl.shutdown core.aura with ⟨(error | _) | _ | _, aura⟩
  · rw [call_answered closes]
    exact .closeFailed rfl rfl rfl
  · rw [call_answered closes]
    simp only [modify_bind_run]
    exact .stopping (by rw [closes]) rfl rfl (stop_exit _)
  · rw [call_unanswered closes]
    exact .killed rfl (by simp)
  · rw [call_unissued closes]
    exact .killed rfl (by simp)

end Operations
end NativePairCore

end PlayTogether.Native
