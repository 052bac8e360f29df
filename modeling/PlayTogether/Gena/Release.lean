import PlayTogether.Gena.Observer
import PlayTogether.Native.JblGatt
import PlayTogether.Native.Runs

/-! What an action leaves behind in the broadcast observer. Arming comes early, so every later
exit of START and STOP has to undo it. -/

namespace PlayTogether.Native
open PlayTogether.Library PlayTogether.Device PlayTogether.Pair

/-- An observer that gives up what it holds: when arming fails, when it has executed and when
it is cancelled. -/
structure Releases (O : Type) [BroadcastResultObserver O] (idle : O → Prop) : Prop where
  arm : ∀ {action identity failure} {self after : O}, idle self →
    BroadcastResultObserver.arm action identity self = (.answered (.error failure), after) → idle after
  execute : ∀ {action identity result} {self after : O},
    BroadcastResultObserver.execute action identity self = (.answered result, after) → idle after
  cancel : ∀ {self after : O}, BroadcastResultObserver.cancel self = (.answered (), after) → idle after

namespace NativePairCore
variable {J A O : Type} {idle : O → Prop}

def Idle (idle : O → Prop) (core : NativePairCore J A O) : Prop := idle core.broadcastObserver

/-- Whatever the observer holds, it holds nothing when the process returns. -/
def Disarms {α : Type} (idle : O → Prop) (p : Proc NativeCall (NativePairCore J A O) α) : Prop :=
  Leads (fun _ => True) (fun _ => Idle idle) p

/-- Nothing held before, nothing held when the process returns. -/
def StaysIdle {α : Type} (idle : O → Prop) (p : Proc NativeCall (NativePairCore J A O) α) : Prop :=
  Leads (Idle idle) (fun _ => Idle idle) p

section Rules
variable {α β : Type} {p : Proc NativeCall (NativePairCore J A O) α} {f : α → Proc NativeCall (NativePairCore J A O) β}

theorem stays_pure (a : α) : StaysIdle idle (pure a : Proc NativeCall (NativePairCore J A O) α) :=
  leads_pure fun _ holds => holds

theorem stays_get : StaysIdle idle (Proc.get : Proc NativeCall (NativePairCore J A O) _) :=
  leads_get fun _ holds => holds

theorem stays_bind (first : StaysIdle idle p) (rest : ∀ a, StaysIdle idle (f a)) : StaysIdle idle (p >>= f) :=
  leads_bind first rest

theorem disarms_bind (first : Disarms idle p) (rest : ∀ a, StaysIdle idle (f a)) : Disarms idle (p >>= f) :=
  leads_bind first rest

theorem disarms_later (rest : ∀ a, Disarms idle (f a)) : Disarms idle (p >>= f) :=
  leads_bind (fun _ _ _ _ => trivial) rest

end Rules

theorem setLifecycle_idle (lifecycle : PairLifecycle) :
    StaysIdle idle (setLifecycle lifecycle : Proc NativeCall (NativePairCore J A O) Unit) :=
  leads_modify fun _ holds => holds

theorem latchUnknown_idle (reason : PairBackendError) (observed : Option PairLifecycle) :
    StaysIdle idle (latchUnknown reason observed : Proc NativeCall (NativePairCore J A O) _) :=
  stays_bind (leads_modify fun _ holds => holds) fun _ => stays_pure _

theorem rejectDegraded_idle (reason : PairBackendError) :
    StaysIdle idle (rejectDegraded reason : Proc NativeCall (NativePairCore J A O) _) :=
  stays_bind (setLifecycle_idle _) fun _ => stays_pure _

theorem aura_idle {α : Type} {method : A → Reply α × A} {event : Option α → NativeCall} :
    StaysIdle idle (Proc.call auraField method event : Proc NativeCall (NativePairCore J A O) α) :=
  leads_call fun _ _ _ holds _ => holds

theorem jbl_idle {α : Type} {method : J → Reply α × J} {event : Option α → NativeCall} :
    StaysIdle idle (Proc.call jblField method event : Proc NativeCall (NativePairCore J A O) α) :=
  leads_call fun _ _ _ holds _ => holds

theorem observerExecute_disarms [BroadcastResultObserver O] (releases : Releases O idle) (action : BroadcastAction)
    (identity : DeviceIdentity) :
    Disarms idle (observerExecute action identity : Proc NativeCall (NativePairCore J A O) _) :=
  leads_call fun _ _ _ _ answer => releases.execute answer

theorem observerCancel_disarms [BroadcastResultObserver O] (releases : Releases O idle) :
    Disarms idle (observerCancel : Proc NativeCall (NativePairCore J A O) _) :=
  leads_call fun _ _ _ _ answer => releases.cancel answer

theorem stopBroadcast_disarms [JblRoleControl J] [BroadcastResultObserver O] (releases : Releases O idle) :
    Disarms idle (stopBroadcast : Proc NativeCall (NativePairCore J A O) _) := by
  apply disarms_later
  intro self
  apply disarms_bind (observerExecute_disarms releases _ _)
  intro executed
  cases executed with
  | error failure => exact latchUnknown_idle _ _
  | ok evidence =>
    apply stays_bind jbl_idle
    intro exited
    cases exited with
    | accepted response => exact stays_bind (setLifecycle_idle _) fun _ => stays_pure _
    | rejected error => exact latchUnknown_idle _ _
    | outcomeUnknown error => exact latchUnknown_idle _ _

section Operations
variable [AuraRoleControl A]

theorem acquireFreshAuraBearer_idle :
    StaysIdle idle (acquireFreshAuraBearer : Proc NativeCall (NativePairCore J A O) _) := by
  apply stays_bind aura_idle
  intro closed
  cases closed with
  | error error => exact stays_pure _
  | ok _ =>
    apply stays_bind stays_get
    intro self
    apply stays_bind aura_idle
    intro connected
    cases connected with
    | error error => exact stays_pure _
    | ok _ => exact stays_pure _

theorem alreadyAt_idle (goal : PairLifecycle) :
    StaysIdle idle (alreadyAt goal : Proc NativeCall (NativePairCore J A O) Bool) := by
  apply stays_bind stays_get
  intro self
  refine leads_ite ?_ ?_
  · exact stays_bind aura_idle fun _ => stays_pure _
  · exact stays_pure _

theorem teardownTransport_idle :
    StaysIdle idle (teardownTransport : Proc NativeCall (NativePairCore J A O) _) := by
  apply stays_bind aura_idle
  intro closed
  cases closed with
  | error error => exact stays_pure _
  | ok _ => exact stays_pure _

theorem health_idle : StaysIdle idle (health : Proc NativeCall (NativePairCore J A O) _) :=
  stays_bind aura_idle fun _ => stays_bind stays_get fun _ => stays_pure _

theorem startBroadcast_disarms [BroadcastResultObserver O] (releases : Releases O idle) :
    Disarms idle (startBroadcast : Proc NativeCall (NativePairCore J A O) _) := by
  apply disarms_later
  intro self
  apply disarms_bind (observerExecute_disarms releases _ _)
  intro executed
  cases executed with
  | error failure => exact latchUnknown_idle _ _
  | ok evidence =>
    have joins : StaysIdle idle (joinSleep : Proc NativeCall (NativePairCore J A O) Unit) := by
      apply stays_bind stays_get
      intro self
      exact leads_ite (stays_pure _) (leads_emit fun _ holds => holds)
    apply stays_bind joins
    intro _
    apply stays_bind aura_idle
    intro joined
    cases joined with
    | accepted => exact stays_bind (setLifecycle_idle _) fun _ => stays_pure _
    | rejectedBeforeSend failure => exact latchUnknown_idle _ _
    | outcomeUnknown failure => exact latchUnknown_idle _ _

theorem acquireAndArm_idle [BroadcastResultObserver O] (releases : Releases O idle) (transitional : PairLifecycle)
    (action : BroadcastAction) {roles : Proc NativeCall (NativePairCore J A O) PairActionResult}
    (disarms : Disarms idle roles) :
    StaysIdle idle (acquireAndArm transitional action roles) := by
  apply stays_bind acquireFreshAuraBearer_idle
  intro acquired
  cases acquired with
  | error error => exact rejectDegraded_idle _
  | ok _ =>
    apply stays_bind (setLifecycle_idle _)
    intro _
    apply stays_bind stays_get
    intro self
    have arms : Leads (Idle idle) (fun armed core => armed = .ok () ∨ Idle idle core)
        (observerArm action self.jblIdentity : Proc NativeCall (NativePairCore J A O) _) := by
      apply leads_call
      intro core armed after holds answer
      cases armed with
      | ok _ => exact .inl rfl
      | error failure => exact .inr (releases.arm holds answer)
    refine leads_bind arms ?_
    intro armed
    cases armed with
    | error failure =>
      apply leads_weaken (rejectDegraded_idle _)
      intro core held
      obtain none | holds := held
      · cases none
      · exact holds
    | ok _ => exact leads_weaken disarms fun _ _ => trivial

theorem openTransaction_idle [BroadcastResultObserver O] (releases : Releases O idle) (goal transitional : PairLifecycle)
    (action : BroadcastAction) {roles : Proc NativeCall (NativePairCore J A O) PairActionResult}
    (disarms : Disarms idle roles) :
    StaysIdle idle (openTransaction goal transitional action roles) := by
  apply stays_bind stays_get
  intro self
  split
  · exact stays_pure _
  · apply stays_bind (alreadyAt_idle goal)
    intro arrived
    refine leads_ite ?_ ?_
    · exact stays_pure _
    · exact acquireAndArm_idle releases transitional action disarms

section Observer
variable [JblRoleControl J] [BroadcastResultObserver O] (releases : Releases O idle)
include releases

theorem startRoles_disarms : Disarms idle (startRoles : Proc NativeCall (NativePairCore J A O) _) := by
  have cancels := observerCancel_disarms (J := J) (A := A) releases
  apply disarms_later
  intro entered
  cases entered with
  | accepted response => exact startBroadcast_disarms releases
  | outcomeUnknown error => exact disarms_bind cancels fun _ => latchUnknown_idle _ _
  | rejected error =>
    cases error with
    | controlCommandRejected => exact disarms_bind cancels fun _ => latchUnknown_idle _ _
    | _ => exact disarms_bind cancels fun _ => rejectDegraded_idle _

theorem stopRoles_disarms : Disarms idle (stopRoles : Proc NativeCall (NativePairCore J A O) _) := by
  have cancels := observerCancel_disarms (J := J) (A := A) releases
  apply disarms_later
  intro stopped
  cases stopped with
  | accepted => exact stopBroadcast_disarms releases
  | rejectedBeforeSend failure => exact disarms_bind cancels fun _ => rejectDegraded_idle _
  | outcomeUnknown failure => exact disarms_bind cancels fun _ => latchUnknown_idle _ _

theorem start_idle : StaysIdle idle (start : Proc NativeCall (NativePairCore J A O) _) :=
  openTransaction_idle releases _ _ _ (startRoles_disarms releases)

theorem stop_idle : StaysIdle idle (stop : Proc NativeCall (NativePairCore J A O) _) :=
  openTransaction_idle releases _ _ _ (stopRoles_disarms releases)

theorem shutdown_idle : StaysIdle idle (shutdown : Proc NativeCall (NativePairCore J A O) _) := by
  have release : StaysIdle idle (releaseForShutdown : Proc NativeCall (NativePairCore J A O) _) := by
    apply stays_bind (setLifecycle_idle _)
    intro _
    apply stays_bind aura_idle
    intro closed
    cases closed with
    | error error => exact latchUnknown_idle _ _
    | ok _ => exact stays_bind (setLifecycle_idle _) fun _ => stays_pure _
  apply stays_bind stays_get
  intro self
  split
  · exact stays_pure _
  · refine leads_ite release ?_
    apply stays_bind (stop_idle releases)
    intro stopped
    cases stopped with
    | accepted outcome => exact release
    | rejectedBeforeSend failure => exact stays_pure _
    | outcomeUnknown failure => exact stays_pure _

theorem recoverStop_idle : StaysIdle idle (recoverStop : Proc NativeCall (NativePairCore J A O) _) := by
  apply stays_bind (setLifecycle_idle _)
  intro _
  apply stays_bind aura_idle
  intro closed
  cases closed with
  | error error => exact latchUnknown_idle _ _
  | ok _ => exact stays_bind (leads_modify fun _ holds => holds) fun _ => stop_idle releases

theorem perform_idle (operation : NativeOperation) {core : NativePairCore J A O} (holds : Idle idle core)
    {outcome : NativeOutcome} (returned : (perform operation core).out = some outcome) :
    Idle idle (perform operation core).state := by
  cases operation with
  | start => exact (start_idle releases).map_out holds returned
  | stop => exact (stop_idle releases).map_out holds returned
  | shutdown => exact (shutdown_idle releases).map_out holds returned
  | recoverStop => exact (recoverStop_idle releases).map_out holds returned
  | teardownTransport => exact teardownTransport_idle.map_out holds returned
  | health => exact health_idle.map_out holds returned

end Observer
end Operations
end NativePairCore

end PlayTogether.Native

namespace PlayTogether.Gena
open PlayTogether.Library PlayTogether.Device PlayTogether.Pair PlayTogether.Native
open PlayTogether.Native.NativePairCore (NativeOperation NativeOutcome perform)

section Production
variable {decoders : Decoders}

abbrev Coordinator (decoders : Decoders) :=
  ConfirmedBroadcastCoordinator (GenaBroadcastObserver decoders) JblGattBroadcastTransport

abbrev ProductionObserver (decoders : Decoders) :=
  ProductionBroadcastObserver (GenaBroadcastObserver decoders) JblGattBroadcastTransport

/-- The observer holds no subscription, and with it no callback listener, and no bearer. -/
inductive HoldsNothing : ProductionObserver decoders → Prop where
  | ack {mutation : JblGattBroadcastTransport} (dropped : mutation.bearer = none) : HoldsNothing (.ack mutation)
  | gena {coordinator : Coordinator decoders} (unsubscribed : coordinator.business.subscription = none)
      (dropped : coordinator.mutation.bearer = none) : HoldsNothing (.gena coordinator)

theorem eventRequest_subscription {method : String} {extraHeaders : List (String × Bytes)} {failure : GenaFailure}
    {self : GenaBroadcastObserver decoders} :
    (self.eventRequest method extraHeaders failure).2.subscription = self.subscription := by
  unfold GenaBroadcastObserver.eventRequest
  dsimp only
  split
  next => rfl
  next => rfl

/-- The subscription is given up whatever the answer to the request. -/
theorem cancel_gives_up {self after : GenaBroadcastObserver decoders} {result : Except GenaFailure Unit}
    (cancelled : self.cancel = (.answered result, after)) : after.subscription = none := by
  unfold GenaBroadcastObserver.cancel at cancelled
  split at cancelled
  next none =>
    cases cancelled
    exact none
  next subscription held =>
    obtain ⟨response, self', requested, answered⟩ := Reply.andThen_answered.mp cancelled
    have kept := congrArg (fun reply => reply.2.subscription) requested
    rw [eventRequest_subscription] at kept
    cases response with
    | error failure =>
      cases answered
      exact kept.symm
    | ok response =>
      cases answered
      exact kept.symm

theorem onBusiness_run {α : Type} {method : GenaBroadcastObserver decoders → Reply α × GenaBroadcastObserver decoders}
    {self after : Coordinator decoders} {reply : Reply α}
    (run : ConfirmedBroadcastCoordinator.onBusiness method self = (reply, after)) :
    ∃ business, method self.business = (reply, business) ∧ after = { self with business } := by
  unfold ConfirmedBroadcastCoordinator.onBusiness at run
  rcases inner : method self.business with ⟨answer, business⟩
  rw [inner] at run
  cases run
  exact ⟨business, rfl, rfl⟩

theorem cancelAll_gives_up {self after : Coordinator decoders} {result : Except GenaFailure Unit}
    (cancelled : self.cancelAll = (.answered result, after)) : HoldsNothing (.gena after) := by
  obtain ⟨_, self', dropped, cancelled⟩ := Reply.andThen_answered.mp cancelled
  cases dropped
  obtain ⟨business, run, rfl⟩ := onBusiness_run cancelled
  exact .gena (cancel_gives_up run) rfl

theorem failAfterCancel_gives_up {α : Type} {failure : BroadcastResultFailure} {self after : Coordinator decoders}
    {result : Except BroadcastResultFailure α} (failed : self.failAfterCancel failure = (.answered result, after)) :
    HoldsNothing (.gena after) := by
  obtain ⟨_, self', cancelled, answered⟩ := Reply.andThen_answered.mp failed
  cases answered
  exact cancelAll_gives_up cancelled

theorem coordinator_arm_gives_up {identity : DeviceIdentity} {failure : BroadcastResultFailure}
    {self after : Coordinator decoders} (armed : self.arm identity = (.answered (.error failure), after)) :
    HoldsNothing (.gena after) := by
  obtain ⟨subscribed, self', _, rest⟩ := Reply.andThen_answered.mp armed
  cases subscribed with
  | error error => exact failAfterCancel_gives_up rest
  | ok _ =>
    obtain ⟨connected, self'', _, rest⟩ := Reply.andThen_answered.mp rest
    cases connected with
    | error error => exact failAfterCancel_gives_up rest
    | ok _ => cases rest

theorem coordinator_execute_gives_up {action : BroadcastAction} {identity : DeviceIdentity}
    {result : Except BroadcastResultFailure BroadcastResultEvidence} {self after : Coordinator decoders}
    (executed : self.execute action identity = (.answered result, after)) : HoldsNothing (.gena after) := by
  obtain ⟨written, self', _, rest⟩ := Reply.andThen_answered.mp executed
  cases written with
  | error error => exact failAfterCancel_gives_up rest
  | ok _ =>
    obtain ⟨observed, self'', _, rest⟩ := Reply.andThen_answered.mp rest
    obtain ⟨cleanup, left, cancelled, combined⟩ := Reply.andThen_answered.mp rest
    have idle := cancelAll_gives_up cancelled
    cases observed with
    | error failure =>
      cases combined
      exact idle
    | ok _ =>
      cases cleanup with
      | error failure =>
        cases combined
        exact idle
      | ok _ =>
        cases combined
        exact idle

theorem transport_arm_gives_up {identity : DeviceIdentity} {failure : JblGattFailure}
    {self after : JblGattBroadcastTransport} (armed : self.arm identity = (.answered (.error failure), after)) :
    after.bearer = none := by
  unfold JblGattBroadcastTransport.arm at armed
  split at armed
  next => cases armed
  next =>
    split at armed
    next =>
      cases armed
      rfl
    next => cases armed

theorem transport_execute_gives_up {command : BroadcastCommand} {self after : JblGattBroadcastTransport}
    {reply : Reply (Except JblGattFailure Unit)} (executed : self.execute command = (reply, after)) :
    after.bearer = none := by
  unfold JblGattBroadcastTransport.execute at executed
  split at executed
  next none =>
    cases executed
    exact none
  next =>
    cases executed
    rfl

theorem production_releases : Releases (ProductionObserver decoders) HoldsNothing where
  arm := by
    intro action identity failure self after _ armed
    cases self with
    | ack mutation =>
      obtain rfl : .ack (mutation.arm identity).2 = after := congrArg Prod.snd armed
      have reply : (mutation.arm identity).1.map (Except.mapError mapJblGattFailure) = .answered (.error failure) :=
        congrArg Prod.fst armed
      rcases run : mutation.arm identity with ⟨(error | _) | _ | _, mutation'⟩
      · exact .ack (transport_arm_gives_up run)
      · rw [run] at reply
        cases reply
      · rw [run] at reply
        cases reply
      · rw [run] at reply
        cases reply
    | gena coordinator =>
      obtain rfl : .gena (coordinator.arm identity).2 = after := congrArg Prod.snd armed
      have reply : (coordinator.arm identity).1 = .answered (.error failure) := congrArg Prod.fst armed
      exact coordinator_arm_gives_up (Prod.ext reply rfl)
  execute := by
    intro action identity result self after executed
    cases self with
    | ack mutation =>
      obtain rfl : .ack (mutation.execute (broadcastCommand action identity)).2 = after := congrArg Prod.snd executed
      exact .ack (transport_execute_gives_up rfl)
    | gena coordinator =>
      obtain rfl : .gena (coordinator.execute action identity).2 = after := congrArg Prod.snd executed
      have reply : (coordinator.execute action identity).1 = .answered result := congrArg Prod.fst executed
      exact coordinator_execute_gives_up (Prod.ext reply rfl)
  cancel := by
    intro self after cancelled
    cases self with
    | ack mutation =>
      cases cancelled
      exact .ack rfl
    | gena coordinator =>
      obtain rfl : .gena coordinator.cancelAll.2 = after := congrArg Prod.snd cancelled
      have reply : (coordinator.cancelAll.1.map fun _ => ()) = .answered () := congrArg Prod.fst cancelled
      rcases run : coordinator.cancelAll with ⟨result | _ | _, coordinator'⟩
      · exact cancelAll_gives_up run
      · rw [run] at reply
        cases reply
      · rw [run] at reply
        cases reply

/-- From an observer that holds nothing, every operation that returns leaves one that holds
nothing, whatever the devices, the speaker's event service and the bearer answered. -/
theorem no_observer_outlives_an_action {J A : Type} [JblRoleControl J] [AuraRoleControl A] (decoders : Decoders)
    (core : NativePairCore J A (ProductionObserver decoders)) (idle : HoldsNothing core.broadcastObserver)
    (operation : NativeOperation) (outcome : NativeOutcome) (returned : (perform operation core).out = some outcome) :
    HoldsNothing (perform operation core).state.broadcastObserver :=
  NativePairCore.perform_idle production_releases operation idle returned

end Production

/-- A bearer that is connected, written to and acknowledged once. -/
def fixtureTransport : JblGattBroadcastTransport :=
  ⟨none, [agreeableAnswers fixtureJblIdentity 0xf4 0x01], [⟨.ready 202, [.ready [0x13]]⟩]⟩

def fixtureDecoder : Decoders := ⟨fun _ => none, fun _ => none⟩

def fixtureAckCore : NativePairCore RecordingJbl MockAura (ProductionObserver fixtureDecoder) :=
  NativePairCore.new ⟨[.accepted ⟨⟩]⟩ (MockAura.new .offline [.accepted]) (.ack fixtureTransport) fixtureJblIdentity
    fixtureAuraIdentity 0

theorem linked_core_holds_nothing : ∃ outcome, (perform .start fixtureAckCore).out = some outcome ∧
    HoldsNothing (perform .start fixtureAckCore).state.broadcastObserver := by
  have returns : (perform .start fixtureAckCore).out.isSome = true := by decide +kernel
  obtain ⟨outcome, returned⟩ := Option.isSome_iff_exists.mp returns
  exact ⟨outcome, returned, no_observer_outlives_an_action fixtureDecoder fixtureAckCore (.ack rfl) .start outcome returned⟩

end PlayTogether.Gena
