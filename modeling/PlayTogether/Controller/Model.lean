import PlayTogether.Journal.Uncertainty
import PlayTogether.Pair.Backend

/-! Backend-neutral, single-owner state reduction. Retained membership, managed live
state and command acknowledgement stay separate concepts. -/

namespace PlayTogether.Controller
open PlayTogether.Library PlayTogether.Pair PlayTogether.Journal

inductive PairConfigurationState where
  | ready
  | notReady
  | unavailable
  deriving DecidableEq, Repr

inductive PairMemberName where
  | jblAuthentics300
  | auraStudio5
  deriving DecidableEq, Repr

inductive PairMemberChannel where
  | frontLeft
  | frontRight
  | left
  | right
  | mono
  | stereo
  | unknown
  deriving DecidableEq, Repr

inductive PairMemberVerification where
  | verified
  | notVerified
  | unavailable
  deriving DecidableEq, Repr

structure PairMemberStatus where
  name : PairMemberName
  verification : PairMemberVerification
  channels : List PairMemberChannel
  deriving DecidableEq, Repr

/-- One sanitized observation derived from one group-info response. -/
structure PairConfigurationObservation where
  exactPairConfigured : Bool
  members : PairMemberStatus × PairMemberStatus
  deriving DecidableEq, Repr

inductive PairProbeError where
  | unavailable
  | invalidResponse
  deriving DecidableEq, Repr

/-- Read-only identity gate for the expected retained pair. -/
class PairConfigurationProbe (P : Type) where
  pairConfiguration : P → Reply (Except PairProbeError PairConfigurationObservation) × P

def unavailableMembers (verification : PairMemberVerification) : PairMemberStatus × PairMemberStatus :=
  (⟨.jblAuthentics300, verification, [.unknown]⟩, ⟨.auraStudio5, verification, [.unknown]⟩)

def configurationState : Except PairProbeError PairConfigurationObservation → PairConfigurationState
  | .ok observation => if observation.exactPairConfigured then .ready else .notReady
  | .error _ => .unavailable

def configurationMembers : Except PairProbeError PairConfigurationObservation → PairMemberStatus × PairMemberStatus
  | .ok observation => observation.members
  | .error _ => unavailableMembers .unavailable

/-- `linked` is the managed state after the last accepted START. It is no acoustic proof;
a restart, a lost bearer or an external action moves it back to `unknown`. -/
inductive ManagedLiveState where
  | unknown
  | offline
  | ready
  | linking
  | linked
  | unlinking
  | recovering
  | degraded
  | shuttingDown
  deriving DecidableEq, Repr

inductive ControllerAction where
  | start
  | stop
  | shutdown
  | recoverStop
  deriving DecidableEq, Repr

inductive ControllerActionOutcome where
  | accepted
  | acceptedUnconfirmed
  | idempotent
  | rejectedBeforeSend
  | outcomeUnknown
  | postconditionFailed
  deriving DecidableEq, Repr

inductive ControllerFailure where
  | pairConfigurationUnavailable
  | expectedPairNotConfigured
  | backendRejectedBeforeSend
  | auraAdapterUnavailable
  | auraDiscoveryUnavailable
  | auraVerifiedAdvertisementNotFound
  | auraDeviceConnectionFailed
  | auraWakeProfileConnectFailed
  | auraWakeFddfTimedOut
  | auraWakeFddfInvalid
  | auraWakeFddfUnavailable
  | auraWakeProfileReleaseFailed
  | auraGattProfileInvalid
  | auraNotificationSetupFailed
  | auraWriteUnknown
  | auraAckTimeout
  | auraAckChannelClosed
  | auraUnexpectedAck
  | jblEnterOutcomeUnknown
  | jblExitOutcomeUnknown
  | jblBroadcastResultTimedOut
  | jblBroadcastResultUnavailable
  | jblBroadcastResultRejected
  | auraStartOutcomeUnknown
  | backendOutcomeUnknown
  | unexpectedBackendLifecycle
  | membershipPostconditionFailed
  | unresolvedPriorAction
  | recoveryNotAllowed
  | journalUnavailable
  | journalCommitFailed
  deriving DecidableEq, Repr

/-- A sanitized controller mutation result. -/
structure ControllerActionResult where
  action : ControllerAction
  outcome : ControllerActionOutcome
  managedState : ManagedLiveState
  evidence : Option PairBackendEvidence
  failure : Option ControllerFailure
  revision : Nat
  deriving DecidableEq, Repr

/-- Closed summary of the latest action in this process. -/
structure LastActionStatus where
  action : ControllerAction
  outcome : ControllerActionOutcome
  evidence : Option PairBackendEvidence
  failure : Option ControllerFailure
  revision : Nat
  deriving DecidableEq, Repr

def lastActionStatus (recorded : ControllerActionResult) : LastActionStatus :=
  ⟨recorded.action, recorded.outcome, recorded.evidence, recorded.failure, recorded.revision⟩

/-- A status snapshot. The last action is not restored after a restart. -/
structure ControllerStatus where
  backend : PairBackendKind
  pairConfiguration : PairConfigurationState
  members : PairMemberStatus × PairMemberStatus
  managedState : ManagedLiveState
  backendHealth : Option PairHealth
  unresolvedAction : Bool
  consecutiveFailures : Nat
  revision : Nat
  lastAction : Option LastActionStatus
  deriving DecidableEq, Repr

def journalAction : ControllerAction → JournalAction
  | .start => .start
  | .stop => .stop
  | .shutdown => .shutdown
  | .recoverStop => .recoverStop

def controllerFailureFromBackend : PairBackendError → ControllerFailure
  | .auraAdapterUnavailable => .auraAdapterUnavailable
  | .auraDiscoveryUnavailable => .auraDiscoveryUnavailable
  | .auraVerifiedAdvertisementNotFound => .auraVerifiedAdvertisementNotFound
  | .auraDeviceConnectionFailed => .auraDeviceConnectionFailed
  | .auraWakeProfileConnectFailed => .auraWakeProfileConnectFailed
  | .auraWakeFddfTimedOut => .auraWakeFddfTimedOut
  | .auraWakeFddfInvalid => .auraWakeFddfInvalid
  | .auraWakeFddfUnavailable => .auraWakeFddfUnavailable
  | .auraWakeProfileReleaseFailed => .auraWakeProfileReleaseFailed
  | .auraGattProfileInvalid => .auraGattProfileInvalid
  | .auraNotificationSetupFailed => .auraNotificationSetupFailed
  | .auraWriteUnknown | .auraAcknowledgementTimedOut | .auraAcknowledgementChannelClosed
  | .auraUnexpectedAcknowledgement | .jblEnterOutcomeUnknown | .jblExitOutcomeUnknown
  | .jblBroadcastResultTimedOut | .jblBroadcastResultUnavailable | .jblBroadcastResultRejected
  | .auraStartOutcomeUnknown | .unavailable | .backendReportedFailure | .recoveryUnsupported
  | .backendChangedDuringTransaction => .backendRejectedBeforeSend

def controllerFailureFromUnknownBackend : PairBackendError → ControllerFailure
  | .auraWriteUnknown => .auraWriteUnknown
  | .auraAcknowledgementTimedOut => .auraAckTimeout
  | .auraAcknowledgementChannelClosed => .auraAckChannelClosed
  | .auraUnexpectedAcknowledgement => .auraUnexpectedAck
  | .jblEnterOutcomeUnknown => .jblEnterOutcomeUnknown
  | .jblExitOutcomeUnknown => .jblExitOutcomeUnknown
  | .jblBroadcastResultTimedOut => .jblBroadcastResultTimedOut
  | .jblBroadcastResultUnavailable => .jblBroadcastResultUnavailable
  | .jblBroadcastResultRejected => .jblBroadcastResultRejected
  | .auraStartOutcomeUnknown => .auraStartOutcomeUnknown
  | .unavailable | .auraAdapterUnavailable | .auraDiscoveryUnavailable
  | .auraVerifiedAdvertisementNotFound | .auraDeviceConnectionFailed | .auraWakeProfileConnectFailed
  | .auraWakeFddfTimedOut | .auraWakeFddfInvalid | .auraWakeFddfUnavailable
  | .auraWakeProfileReleaseFailed | .auraGattProfileInvalid | .auraNotificationSetupFailed
  | .backendReportedFailure | .recoveryUnsupported | .backendChangedDuringTransaction => .backendOutcomeUnknown

/-- What one controller operation issues. A backend call also records the latch and the
failure count under which it was made. -/
inductive ControllerEvent (β γ : Type) where
  | probed (reply : Option (Except PairProbeError PairConfigurationObservation))
  | marked (action : JournalAction) (result : Except JournalError Unit)
  | cleared (result : Except JournalError Unit)
  | calling (action : ControllerAction) (unresolved : Bool) (failures : Nat)
  | returned (action : ControllerAction) (result : PairActionResult)
  | backend (event : β)
  | journal (event : γ)

def maxFailures : Nat := Nat.pow 2 8 - 1

def maxRevision : Nat := Nat.pow 2 64 - 1

def saturatingSucc (limit value : Nat) : Nat := min (value + 1) limit

/-- One in-process owner of an entire backend. An uncertain write is latched, and no
later START, STOP or shutdown reaches the backend until an explicit recovery. -/
structure PairController (B P J : Type) where
  backend : B
  probe : P
  journal : J
  managedState : ManagedLiveState
  unresolvedAction : Bool
  consecutiveFailures : Nat
  revision : Nat
  lastAction : Option ControllerActionResult

namespace PairController
variable {B P J β γ : Type}

def backendField : Lens B (PairController B P J) :=
  ⟨fun self => self.backend, fun backend self => { self with backend }⟩

def probeField : Lens P (PairController B P J) := ⟨fun self => self.probe, fun probe self => { self with probe }⟩

def journalField : Lens J (PairController B P J) :=
  ⟨fun self => self.journal, fun journal self => { self with journal }⟩

def bumpRevision (self : PairController B P J) : PairController B P J :=
  { self with revision := saturatingSucc maxRevision self.revision }

def countFailure (self : PairController B P J) : PairController B P J :=
  { self with consecutiveFailures := saturatingSucc maxFailures self.consecutiveFailures }

/-- The conservative latch after anything uncertain. -/
def latch (self : PairController B P J) : PairController B P J :=
  { self.countFailure with unresolvedAction := true, managedState := .unknown }

def record (action : ControllerAction) (outcome : ControllerActionOutcome) (evidence : Option PairBackendEvidence)
    (failure : Option ControllerFailure) (self : PairController B P J) : ControllerActionResult :=
  ⟨action, outcome, self.managedState, evidence, failure, self.revision⟩

def finishWithEvidence (action : ControllerAction) (outcome : ControllerActionOutcome)
    (evidence : Option PairBackendEvidence) (failure : Option ControllerFailure) :
    Proc (ControllerEvent β γ) (PairController B P J) ControllerActionResult := do
  Proc.modify bumpRevision
  let self ← Proc.get
  let result := self.record action outcome evidence failure
  Proc.modify fun self => { self with lastAction := some result }
  pure result

def finish (action : ControllerAction) (outcome : ControllerActionOutcome) (failure : Option ControllerFailure) :
    Proc (ControllerEvent β γ) (PairController B P J) ControllerActionResult :=
  finishWithEvidence action outcome none failure

section Operations
variable [PairBackend B β] [PairConfigurationProbe P] [UncertaintyJournal J γ]

def withJournal (backend : B) (probe : P) (journal : J) : PairController B P J :=
  let pending := UncertaintyJournal.isPending journal
  ⟨backend, probe, journal, .unknown, pending, if pending then 1 else 0, 0, none⟩

def readPairConfiguration : Proc (ControllerEvent β γ) (PairController B P J)
    (Except PairProbeError PairConfigurationObservation) :=
  Proc.call probeField PairConfigurationProbe.pairConfiguration .probed

def backendHealth : Proc (ControllerEvent β γ) (PairController B P J) (Except PairBackendError PairHealth) :=
  Proc.zoom backendField .backend PairBackend.health

def markPending (action : JournalAction) :
    Proc (ControllerEvent β γ) (PairController B P J) (Except JournalError Unit) := do
  let result ← Proc.zoom journalField .journal (UncertaintyJournal.markPending action)
  Proc.emit (.marked action result)
  pure result

def clearJournal : Proc (ControllerEvent β γ) (PairController B P J) (Except JournalError Unit) := do
  let result ← Proc.zoom journalField .journal UncertaintyJournal.clear
  Proc.emit (.cleared result)
  pure result

def backendAction (action : ControllerAction) : Proc β B PairActionResult :=
  match action with
  | .start => PairBackend.start
  | .stop => PairBackend.stop
  | .shutdown => PairBackend.shutdown
  | .recoverStop => PairBackend.recoverStop

def callBackend (action : ControllerAction) :
    Proc (ControllerEvent β γ) (PairController B P J) PairActionResult := do
  let self ← Proc.get
  Proc.emit (.calling action self.unresolvedAction self.consecutiveFailures)
  let result ← Proc.zoom backendField .backend (PairBackendTransaction.transact (backendAction action))
  Proc.emit (.returned action result)
  pure result

def healthyLifecycle (health : Option PairHealth) : Option PairLifecycle :=
  match health with
  | some snapshot => if snapshot.level = .healthy ∧ snapshot.reportedError = false then some snapshot.lifecycle else none
  | none => none

def healthMatchesManagedState (managed : ManagedLiveState) (health : Option PairHealth) : Bool :=
  match managed with
  | .linked => healthyLifecycle health == some .linked
  | .ready => healthyLifecycle health == some .ready
  | .offline | .unknown | .linking | .unlinking | .recovering | .degraded | .shuttingDown => true

/-- Lost backend, unconfirmed membership or contradictory health make a claimed state
unknown. -/
def observe (configuration : PairConfigurationState) (health : Option PairHealth) (self : PairController B P J) :
    PairController B P J :=
  let lostBackend := self.managedState != .offline && health.isNone
  let membershipNotConfirmed := configuration != .ready && self.managedState == .linked
  let contradictoryHealth := !healthMatchesManagedState self.managedState health
  if lostBackend || membershipNotConfirmed || contradictoryHealth then
    if self.managedState = .unknown then self else bumpRevision { self with managedState := .unknown }
  else self

def status : Proc (ControllerEvent β γ) (PairController B P J) ControllerStatus := do
  let observation ← readPairConfiguration
  let health ← backendHealth
  let backendHealth := health.toOption
  Proc.modify (observe (configurationState observation) backendHealth)
  let self ← Proc.get
  pure ⟨PairBackend.kind self.backend, configurationState observation, configurationMembers observation,
    self.managedState, backendHealth, self.unresolvedAction, self.consecutiveFailures, self.revision,
    self.lastAction.map lastActionStatus⟩

def idempotentState : ControllerAction → Option (ManagedLiveState × PairLifecycle)
  | .start => some (.linked, .linked)
  | .stop => some (.ready, .ready)
  | .shutdown => some (.offline, .offline)
  | .recoverStop => none

def confirmsIdempotent (expected : PairLifecycle) (health : Except PairBackendError PairHealth) : Bool :=
  match health with
  | .error _ => false
  | .ok health => health.lifecycle == expected && health.level == .healthy && !health.reportedError &&
      !(health.backend == .nativePair && health.auraTransport == .unresolved)

/-- Backend health is read only when the managed state already matches. -/
def isIdempotent (action : ControllerAction) : Proc (ControllerEvent β γ) (PairController B P J) Bool := do
  let self ← Proc.get
  match idempotentState action with
  | none => pure false
  | some (managed, lifecycle) =>
    if self.managedState = managed then
      let health ← backendHealth
      pure (confirmsIdempotent lifecycle health)
    else pure false

def rejectPreflight (action : ControllerAction) (failure : ControllerFailure) :
    Proc (ControllerEvent β γ) (PairController B P J) ControllerActionResult := do
  Proc.modify countFailure
  finish action .rejectedBeforeSend (some failure)

def finishLatched (action : ControllerAction) (outcome : ControllerActionOutcome) (failure : ControllerFailure) :
    Proc (ControllerEvent β γ) (PairController B P J) ControllerActionResult := do
  Proc.modify latch
  finish action outcome (some failure)

def journalCommitFailed (action : ControllerAction) :
    Proc (ControllerEvent β γ) (PairController B P J) ControllerActionResult :=
  finishLatched action .outcomeUnknown .journalCommitFailed

/-- A journal can fail after publishing part of its marker; memory mirrors it. -/
def journalUnavailable (action : ControllerAction) :
    Proc (ControllerEvent β γ) (PairController B P J) ControllerActionResult := do
  Proc.modify fun self =>
    if UncertaintyJournal.isPending self.journal then self.latch else self.countFailure
  finish action .rejectedBeforeSend (some .journalUnavailable)

def expectedLifecycle : ControllerAction → PairLifecycle
  | .start => .linked
  | .stop => .ready
  | .shutdown => .shuttingDown
  | .recoverStop => .ready

def inProgressState : ControllerAction → ManagedLiveState
  | .start => .linking
  | .stop => .unlinking
  | .shutdown => .shuttingDown
  | .recoverStop => .recovering

def acceptedState : ControllerAction → ManagedLiveState
  | .start => .linked
  | .stop => .ready
  | .shutdown => .offline
  | .recoverStop => .ready

def finishRejected (action : ControllerAction) (reason : PairBackendError) :
    Proc (ControllerEvent β γ) (PairController B P J) ControllerActionResult := do
  Proc.modify fun self => { self.countFailure with managedState := .degraded }
  finish action .rejectedBeforeSend (some (controllerFailureFromBackend reason))

/-- Only a rejection that leaves no older uncertainty may clear its own marker. -/
def reduceRejected (action : ControllerAction) (failure : PairActionFailure) (hadPendingUncertainty : Bool) :
    Proc (ControllerEvent β γ) (PairController B P J) ControllerActionResult := do
  if action ≠ .recoverStop ∨ hadPendingUncertainty = false then
    match ← clearJournal with
    | .error _ => journalCommitFailed action
    | .ok () => finishRejected action failure.reason
  else
    Proc.modify fun self => { self with unresolvedAction := true }
    finishRejected action failure.reason

def finishAccepted (action : ControllerAction) (receipt : PairActionReceipt) :
    Proc (ControllerEvent β γ) (PairController B P J) ControllerActionResult := do
  Proc.modify fun self =>
    { self with consecutiveFailures := 0, unresolvedAction := false, managedState := acceptedState action }
  let outcome := if receipt.evidence = .broadcastAcknowledgementOnly then .acceptedUnconfirmed else .accepted
  finishWithEvidence action outcome (some receipt.evidence) none

def reduceAccepted (action : ControllerAction) (receipt : PairActionReceipt) :
    Proc (ControllerEvent β γ) (PairController B P J) ControllerActionResult := do
  if receipt.lifecycle = expectedLifecycle action then
    let observation ← readPairConfiguration
    if configurationState observation = .ready then
      match ← clearJournal with
      | .error _ => journalCommitFailed action
      | .ok () => finishAccepted action receipt
    else finishLatched action .postconditionFailed .membershipPostconditionFailed
  else finishLatched action .outcomeUnknown .unexpectedBackendLifecycle

def reduceBackendResult (action : ControllerAction) (attempted : PairActionResult) (hadPendingUncertainty : Bool) :
    Proc (ControllerEvent β γ) (PairController B P J) ControllerActionResult :=
  match attempted with
  | .rejectedBeforeSend failure => reduceRejected action failure hadPendingUncertainty
  | .outcomeUnknown failure =>
    finishLatched action .outcomeUnknown (controllerFailureFromUnknownBackend failure.reason)
  | .accepted receipt => reduceAccepted action receipt

def beginAction (action : ControllerAction) (hadPendingUncertainty : Bool) :
    Proc (ControllerEvent β γ) (PairController B P J) ControllerActionResult := do
  Proc.modify fun self => bumpRevision { self with managedState := inProgressState action }
  let attempted ← callBackend action
  reduceBackendResult action attempted hadPendingUncertainty

def mutateReady (action : ControllerAction) (hadPendingUncertainty : Bool) :
    Proc (ControllerEvent β γ) (PairController B P J) ControllerActionResult := do
  if ← isIdempotent action then
    Proc.modify fun self => { self with consecutiveFailures := 0 }
    finish action .idempotent none
  else
    match ← markPending (journalAction action) with
    | .error _ => journalUnavailable action
    | .ok () => beginAction action hadPendingUncertainty

def mutateAllowed (action : ControllerAction) (hadPendingUncertainty : Bool) :
    Proc (ControllerEvent β γ) (PairController B P J) ControllerActionResult := do
  let observation ← readPairConfiguration
  match configurationState observation with
  | .ready => mutateReady action hadPendingUncertainty
  | .notReady => rejectPreflight action .expectedPairNotConfigured
  | .unavailable => rejectPreflight action .pairConfigurationUnavailable

/-- Shutdown of a released backend is a local no-op that needs no LAN. -/
def mutate (action : ControllerAction) :
    Proc (ControllerEvent β γ) (PairController B P J) ControllerActionResult := do
  let self ← Proc.get
  if self.unresolvedAction = true ∧ action ≠ .recoverStop then
    finish action .rejectedBeforeSend (some .unresolvedPriorAction)
  else if action = .recoverStop ∧ self.unresolvedAction = false ∧ self.consecutiveFailures < 2 then
    finish action .rejectedBeforeSend (some .recoveryNotAllowed)
  else if action = .shutdown ∧ self.managedState = .offline then
    finish action .idempotent none
  else mutateAllowed action self.unresolvedAction

def start : Proc (ControllerEvent β γ) (PairController B P J) ControllerActionResult := mutate .start

def stop : Proc (ControllerEvent β γ) (PairController B P J) ControllerActionResult := mutate .stop

def shutdown : Proc (ControllerEvent β γ) (PairController B P J) ControllerActionResult := mutate .shutdown

def recoverStop : Proc (ControllerEvent β γ) (PairController B P J) ControllerActionResult := mutate .recoverStop

def teardownTransportForExit :
    Proc (ControllerEvent β γ) (PairController B P J) (Except PairBackendError Unit) :=
  Proc.zoom backendField .backend PairBackend.teardownTransport

end Operations
end PairController

/-! A scripted probe and backend with the shape of the source's own test doubles. -/

def PairConfigurationObservation.ready : PairConfigurationObservation :=
  ⟨true, ⟨.jblAuthentics300, .verified, [.unknown]⟩, ⟨.auraStudio5, .verified, [.unknown]⟩⟩

def PairConfigurationObservation.notReady : PairConfigurationObservation := ⟨false, unavailableMembers .notVerified⟩

structure Probe where
  replies : List (Except PairProbeError PairConfigurationObservation)

def Probe.readyReads (count : Nat) : Probe := ⟨List.replicate count (.ok .ready)⟩

instance : PairConfigurationProbe Probe where
  pairConfiguration self := match self.replies with
    | [] => (.answered (.error .unavailable), self)
    | reply :: replies => (.answered reply, ⟨replies⟩)

structure Backend where
  health : Except PairBackendError PairHealth
  actions : List PairActionResult

namespace Backend

def act : Proc Unit Backend PairActionResult := fun self => match self.actions with
  | [] => ⟨[], self, none⟩
  | result :: actions => ⟨[()], { self with actions }, some result⟩

instance : PairBackend Backend Unit where
  kind _ := .legacyV04WholePair
  health self := ⟨[], self, some self.health⟩
  start := act
  stop := act
  shutdown := act
  recoverStop := act

def healthy (lifecycle : PairLifecycle) (actions : List PairActionResult) : Backend :=
  ⟨.ok (PairHealth.newWithRoute .legacyV04WholePair lifecycle false .le .unresolved), actions⟩

def accepted (lifecycle : PairLifecycle) : PairActionResult :=
  .accepted ⟨.legacyV04WholePair, lifecycle, .lifecycleAcknowledgement, false⟩

def unknown : PairActionResult := .outcomeUnknown ⟨.legacyV04WholePair, .unavailable, none⟩

end Backend

end PlayTogether.Controller
