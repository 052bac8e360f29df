import PlayTogether.Native.Interfaces

/-! The native pair core: one deterministic START and one receiver-first STOP over
three independently failing interfaces, with an in-memory uncertainty latch. -/

namespace PlayTogether.Native
open PlayTogether.Library PlayTogether.Device PlayTogether.Pair

structure NativePairCore (J A O : Type) where
  jbl : J
  aura : A
  broadcastObserver : O
  jblIdentity : DeviceIdentity
  auraIdentity : DeviceIdentity
  joinDelay : Nat
  lifecycle : PairLifecycle
  unresolved : Option PairActionFailure

def mapAuraTransportError (error : AuraTransportError) : PairBackendError :=
  match error.reason with
  | .adapterUnavailable | .adapterPoweredOff => .auraAdapterUnavailable
  | .discoveryUnavailable => .auraDiscoveryUnavailable
  | .verifiedAdvertisementNotFound => .auraVerifiedAdvertisementNotFound
  | .deviceConnectionFailed => .auraDeviceConnectionFailed
  | .wakeProfileConnectFailed => .auraWakeProfileConnectFailed
  | .wakeFddfTimedOut => .auraWakeFddfTimedOut
  | .wakeFddfInvalid => .auraWakeFddfInvalid
  | .wakeFddfUnavailable => .auraWakeFddfUnavailable
  | .wakeProfileReleaseFailed => .auraWakeProfileReleaseFailed
  | .gattProfileInvalid => .auraGattProfileInvalid
  | .notificationSetupFailed => .auraNotificationSetupFailed
  | .invalidConfiguration | .runtimeUnavailable | .transportNotReady | .notificationQueueInvalid
  | .writeFailed | .acknowledgementTimedOut | .acknowledgementChannelClosed
  | .unexpectedAcknowledgement | .disconnectFailed => .unavailable

def mapAuraActionUnknown (failure : AuraActionFailure) : PairBackendError :=
  match failure.reason with
  | .writeFailed => .auraWriteUnknown
  | .acknowledgementTimedOut => .auraAcknowledgementTimedOut
  | .acknowledgementChannelClosed => .auraAcknowledgementChannelClosed
  | .unexpectedAcknowledgement => .auraUnexpectedAcknowledgement
  | .invalidConfiguration | .runtimeUnavailable | .adapterUnavailable | .adapterPoweredOff
  | .discoveryUnavailable | .verifiedAdvertisementNotFound | .deviceConnectionFailed
  | .wakeProfileConnectFailed | .wakeFddfTimedOut | .wakeFddfInvalid | .wakeFddfUnavailable
  | .wakeProfileReleaseFailed | .gattProfileInvalid | .notificationSetupFailed | .transportNotReady
  | .notificationQueueInvalid | .disconnectFailed => .unavailable

def mapBroadcastResultFailure : BroadcastResultFailure → PairBackendError
  | .timedOut => .jblBroadcastResultTimedOut
  | .unavailable => .jblBroadcastResultUnavailable
  | .rejected => .jblBroadcastResultRejected

def pairEvidence : BroadcastResultEvidence → PairBackendEvidence
  | .ackOnly => .broadcastAcknowledgementOnly
  | .confirmedNotification => .broadcastBusinessNotification

namespace NativePairCore
variable {J A O : Type}

def new (jbl : J) (aura : A) (broadcastObserver : O) (jblIdentity auraIdentity : DeviceIdentity)
    (joinDelay : Nat) : NativePairCore J A O :=
  ⟨jbl, aura, broadcastObserver, jblIdentity, auraIdentity, joinDelay, .offline, none⟩

def jblField : Lens J (NativePairCore J A O) := ⟨fun core => core.jbl, fun jbl core => { core with jbl }⟩

def auraField : Lens A (NativePairCore J A O) := ⟨fun core => core.aura, fun aura core => { core with aura }⟩

def observerField : Lens O (NativePairCore J A O) :=
  ⟨fun core => core.broadcastObserver, fun broadcastObserver core => { core with broadcastObserver }⟩

def accepted (lifecycle : PairLifecycle) (idempotent : Bool) : PairActionResult :=
  .accepted ⟨.nativePair, lifecycle,
    if idempotent then .localSessionState else .lifecycleAcknowledgement, idempotent⟩

def acceptedWithBroadcastEvidence (lifecycle : PairLifecycle) (evidence : BroadcastResultEvidence) :
    PairActionResult :=
  .accepted ⟨.nativePair, lifecycle, pairEvidence evidence, false⟩

def rejected (reason : PairBackendError) (observed : Option PairLifecycle) : PairActionResult :=
  .rejectedBeforeSend ⟨.nativePair, reason, observed⟩

def setLifecycle (lifecycle : PairLifecycle) : Proc NativeCall (NativePairCore J A O) Unit :=
  Proc.modify fun core => { core with lifecycle }

def latchUnknown (reason : PairBackendError) (observed : Option PairLifecycle) :
    Proc NativeCall (NativePairCore J A O) PairActionResult := do
  let failure : PairActionFailure := ⟨.nativePair, reason, observed⟩
  Proc.modify fun core => { core with unresolved := some failure, lifecycle := .degraded }
  pure (.outcomeUnknown failure)

/-- A rejection also leaves the lifecycle degraded. -/
def rejectDegraded (reason : PairBackendError) : Proc NativeCall (NativePairCore J A O) PairActionResult := do
  setLifecycle .degraded
  pure (rejected reason (some .degraded))

@[simp] theorem setLifecycle_bind {α : Type} (lifecycle : PairLifecycle)
    (f : Unit → Proc NativeCall (NativePairCore J A O) α) (core : NativePairCore J A O) :
    (setLifecycle lifecycle >>= f) core = f () { core with lifecycle } := rfl

@[simp] theorem latchUnknown_run (reason : PairBackendError) (observed : Option PairLifecycle)
    (core : NativePairCore J A O) :
    latchUnknown reason observed core =
      ⟨[], { core with unresolved := some ⟨.nativePair, reason, observed⟩, lifecycle := .degraded },
        some (.outcomeUnknown ⟨.nativePair, reason, observed⟩)⟩ := rfl

@[simp] theorem rejectDegraded_run (reason : PairBackendError) (core : NativePairCore J A O) :
    rejectDegraded reason core = ⟨[], { core with lifecycle := .degraded },
      some (.rejectedBeforeSend ⟨.nativePair, reason, some .degraded⟩)⟩ := rfl

section Calls
variable [JblRoleControl J] [AuraRoleControl A] [BroadcastResultObserver O]

def jblEnter : Proc NativeCall (NativePairCore J A O) PlayTogetherWriteResult :=
  Proc.call jblField JblRoleControl.enter .jblEnter

def jblExit : Proc NativeCall (NativePairCore J A O) PlayTogetherWriteResult :=
  Proc.call jblField JblRoleControl.exit .jblExit

def auraConnectVerified (identity : DeviceIdentity) :
    Proc NativeCall (NativePairCore J A O) (Except AuraTransportError Unit) :=
  Proc.call auraField (AuraRoleControl.connectVerified identity) .auraConnect

def auraHealth : Proc NativeCall (NativePairCore J A O) AuraHealth :=
  Proc.call auraField AuraRoleControl.health .auraHealth

def auraStart : Proc NativeCall (NativePairCore J A O) AuraActionResult :=
  Proc.call auraField AuraRoleControl.start .auraStart

def auraStop : Proc NativeCall (NativePairCore J A O) AuraActionResult :=
  Proc.call auraField AuraRoleControl.stop .auraStop

def auraShutdown : Proc NativeCall (NativePairCore J A O) (Except AuraTransportError Unit) :=
  Proc.call auraField AuraRoleControl.shutdown .auraShutdown

def observerArm (action : BroadcastAction) (identity : DeviceIdentity) :
    Proc NativeCall (NativePairCore J A O) (Except BroadcastResultFailure Unit) :=
  Proc.call observerField (BroadcastResultObserver.arm action identity) (.observerArm action)

def observerExecute (action : BroadcastAction) (identity : DeviceIdentity) :
    Proc NativeCall (NativePairCore J A O) (Except BroadcastResultFailure BroadcastResultEvidence) :=
  Proc.call observerField (BroadcastResultObserver.execute action identity) (.observerExecute action)

def observerCancel : Proc NativeCall (NativePairCore J A O) Unit :=
  Proc.call observerField BroadcastResultObserver.cancel .observerCancel

end Calls

section Operations
variable [JblRoleControl J] [AuraRoleControl A] [BroadcastResultObserver O]

def health : Proc NativeCall (NativePairCore J A O) PairHealth := do
  let auraHealth ← auraHealth
  let self ← Proc.get
  let healthy := self.unresolved.isNone && (self.lifecycle == .ready || self.lifecycle == .linked)
    && (auraHealth == .ready || auraHealth == .offline)
  let offline := self.unresolved.isNone && auraHealth == .offline && self.lifecycle == .offline
  let lifecycle := if healthy || offline then self.lifecycle else .degraded
  let transport : AuraControlTransport := match AuraRoleControl.transport self.aura with
    | some .le => .le
    | some .brEdr => .brEdr
    | none => .unresolved
  pure (PairHealth.newWithRoute .nativePair lifecycle (!healthy && !offline) transport
    (AuraRoleControl.acquisitionRoute self.aura))

/-- A non-idempotent transaction begins from an empty bearer slot and one fresh,
verified acquisition. The shutdown is transport-only and emits no role command. -/
def acquireFreshAuraBearer : Proc NativeCall (NativePairCore J A O) (Except PairBackendError Unit) := do
  match ← auraShutdown with
  | .error _ => pure (.error .unavailable)
  | .ok () =>
    let self ← Proc.get
    match ← auraConnectVerified self.auraIdentity with
    | .error error => pure (.error (mapAuraTransportError error))
    | .ok () => pure (.ok ())

/-- The idempotent check asks the bearer only when the lifecycle already matches. -/
def alreadyAt (goal : PairLifecycle) : Proc NativeCall (NativePairCore J A O) Bool := do
  let self ← Proc.get
  if self.lifecycle = goal then
    let health ← auraHealth
    pure (health == .ready)
  else pure false

/-- Acquire a bearer, enter the transitional lifecycle and arm the observer before the
first role write. -/
def acquireAndArm (transitional : PairLifecycle) (action : BroadcastAction)
    (roles : Proc NativeCall (NativePairCore J A O) PairActionResult) :
    Proc NativeCall (NativePairCore J A O) PairActionResult := do
  match ← acquireFreshAuraBearer with
  | .error error => rejectDegraded error
  | .ok () =>
    setLifecycle transitional
    let self ← Proc.get
    match ← observerArm action self.jblIdentity with
    | .error failure => rejectDegraded (mapBroadcastResultFailure failure)
    | .ok () => roles

/-- The common opening of START and STOP. -/
def openTransaction (goal transitional : PairLifecycle) (action : BroadcastAction)
    (roles : Proc NativeCall (NativePairCore J A O) PairActionResult) :
    Proc NativeCall (NativePairCore J A O) PairActionResult := do
  let self ← Proc.get
  match self.unresolved with
  | some failure => pure (.outcomeUnknown failure)
  | none =>
    if ← alreadyAt goal then pure (accepted goal true)
    else acquireAndArm transitional action roles

def joinSleep : Proc NativeCall (NativePairCore J A O) Unit := do
  let self ← Proc.get
  if self.joinDelay = 0 then pure () else Proc.emit (.sleep self.joinDelay)

/-- The broadcaster was started: every failure from here on is uncertain. -/
def startReceiver (evidence : BroadcastResultEvidence) :
    Proc NativeCall (NativePairCore J A O) PairActionResult := do
  joinSleep
  match ← auraStart with
  | .accepted =>
    setLifecycle .linked
    pure (acceptedWithBroadcastEvidence .linked evidence)
  | .rejectedBeforeSend _ => latchUnknown .auraStartOutcomeUnknown (some .linking)
  | .outcomeUnknown failure => latchUnknown (mapAuraActionUnknown failure) (some .linking)

def startBroadcast : Proc NativeCall (NativePairCore J A O) PairActionResult := do
  let self ← Proc.get
  match ← observerExecute .start self.jblIdentity with
  | .error failure => latchUnknown (mapBroadcastResultFailure failure) (some .linking)
  | .ok evidence => startReceiver evidence

/-- Enter JBL mode, start its broadcaster, wait the join delay, then put Aura into the
receiving role. -/
def startRoles : Proc NativeCall (NativePairCore J A O) PairActionResult := do
  match ← jblEnter with
  | .accepted _ => startBroadcast
  | .rejected .controlCommandRejected | .outcomeUnknown _ =>
    observerCancel
    latchUnknown .jblEnterOutcomeUnknown (some .linking)
  | .rejected _ =>
    observerCancel
    rejectDegraded .backendReportedFailure

def start : Proc NativeCall (NativePairCore J A O) PairActionResult :=
  openTransaction .linked .linking .start startRoles

def stopBroadcaster (evidence : BroadcastResultEvidence) :
    Proc NativeCall (NativePairCore J A O) PairActionResult := do
  match ← jblExit with
  | .accepted _ =>
    setLifecycle .ready
    pure (acceptedWithBroadcastEvidence .ready evidence)
  | .rejected _ | .outcomeUnknown _ => latchUnknown .jblExitOutcomeUnknown (some .unlinking)

def stopBroadcast : Proc NativeCall (NativePairCore J A O) PairActionResult := do
  let self ← Proc.get
  match ← observerExecute .stop self.jblIdentity with
  | .error failure => latchUnknown (mapBroadcastResultFailure failure) (some .unlinking)
  | .ok evidence => stopBroadcaster evidence

def stopRoles : Proc NativeCall (NativePairCore J A O) PairActionResult := do
  match ← auraStop with
  | .accepted => stopBroadcast
  | .rejectedBeforeSend _ =>
    observerCancel
    rejectDegraded .backendReportedFailure
  | .outcomeUnknown failure =>
    observerCancel
    latchUnknown (mapAuraActionUnknown failure) (some .unlinking)

def stop : Proc NativeCall (NativePairCore J A O) PairActionResult :=
  openTransaction .ready .unlinking .stop stopRoles

/-- Release the bearer once the pair is known to be unlinked. -/
def releaseForShutdown : Proc NativeCall (NativePairCore J A O) PairActionResult := do
  setLifecycle .shuttingDown
  match ← auraShutdown with
  | .error _ => latchUnknown .unavailable (some .shuttingDown)
  | .ok () =>
    setLifecycle .offline
    pure (accepted .shuttingDown false)

def shutdown : Proc NativeCall (NativePairCore J A O) PairActionResult := do
  let self ← Proc.get
  match self.unresolved with
  | some failure => pure (.outcomeUnknown failure)
  | none =>
    if self.lifecycle = .ready ∨ self.lifecycle = .offline then releaseForShutdown
    else
      match ← stop with
      | .accepted _ => releaseForShutdown
      | stopped => pure stopped

/-- The only method that may cross the latch. It first tears down the old bearer
without any role write. -/
def recoverStop : Proc NativeCall (NativePairCore J A O) PairActionResult := do
  setLifecycle .recovering
  match ← auraShutdown with
  | .error _ => latchUnknown .unavailable (some .recovering)
  | .ok () =>
    Proc.modify fun core => { core with unresolved := none, lifecycle := .degraded }
    stop

def teardownTransport : Proc NativeCall (NativePairCore J A O) (Except PairBackendError Unit) := do
  match ← auraShutdown with
  | .error _ => pure (.error .unavailable)
  | .ok () => pure (.ok ())

instance : PairBackend (NativePairCore J A O) NativeCall where
  kind _ := .nativePair
  health := do
    let snapshot ← health
    pure (.ok snapshot)
  start := start
  stop := stop
  shutdown := shutdown
  recoverStop := recoverStop
  teardownTransport := teardownTransport

end Operations
end NativePairCore

end PlayTogether.Native
