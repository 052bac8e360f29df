import PlayTogether.Library.Proc

/-! The whole-pair backend boundary. Every lifecycle method owns the complete JBL
and Aura operation; one transaction pins one backend implementation. -/

namespace PlayTogether.Pair
open PlayTogether.Library

inductive PairBackendKind where
  | legacyV04WholePair
  | nativePair
  deriving DecidableEq, Repr

inductive PairLifecycle where
  | offline
  | initializing
  | connecting
  | ready
  | linking
  | linked
  | unlinking
  | degraded
  | recovering
  | shuttingDown
  | failed
  deriving DecidableEq, Repr

inductive PairHealthLevel where
  | healthy
  | transitioning
  | degraded
  | unavailable
  deriving DecidableEq, Repr

def PairLifecycle.healthLevel : PairLifecycle → PairHealthLevel
  | .ready | .linked => .healthy
  | .initializing | .connecting | .linking | .unlinking | .recovering | .shuttingDown => .transitioning
  | .degraded => .degraded
  | .offline | .failed => .unavailable

inductive AuraControlTransport where
  | le
  | brEdr
  | unresolved
  | unknown
  deriving DecidableEq, Repr

inductive AuraAcquisitionRoute where
  | stableDirect
  | a2dpWakeThenStable
  | freshLe
  | unresolved
  deriving DecidableEq, Repr

structure PairHealth where
  backend : PairBackendKind
  lifecycle : PairLifecycle
  level : PairHealthLevel
  reportedError : Bool
  auraTransport : AuraControlTransport
  auraAcquisitionRoute : AuraAcquisitionRoute
  deriving DecidableEq, Repr

def PairHealth.newWithRoute (backend : PairBackendKind) (lifecycle : PairLifecycle) (reportedError : Bool)
    (auraTransport : AuraControlTransport) (route : AuraAcquisitionRoute) : PairHealth :=
  let level := if reportedError && (lifecycle == .ready || lifecycle == .linked) then .degraded
    else lifecycle.healthLevel
  ⟨backend, lifecycle, level, reportedError, auraTransport, route⟩

/-- No variant is acoustic evidence. A broadcast acknowledgement proves only the ATT
write response; a business notification proves the matching 7951 result. -/
inductive PairBackendEvidence where
  | localSessionState
  | lifecycleAcknowledgement
  | broadcastAcknowledgementOnly
  | broadcastBusinessNotification
  deriving DecidableEq, Repr

structure PairActionReceipt where
  backend : PairBackendKind
  lifecycle : PairLifecycle
  evidence : PairBackendEvidence
  idempotent : Bool
  deriving DecidableEq, Repr

inductive PairBackendError where
  | unavailable
  | auraAdapterUnavailable
  | auraDiscoveryUnavailable
  | auraVerifiedAdvertisementNotFound
  | auraDeviceConnectionFailed
  | auraWakeProfileConnectFailed
  | auraWakeFddfTimedOut
  | auraWakeFddfInvalid
  | auraWakeFddfUnavailable
  | auraWakeProfileReleaseFailed
  | auraGattProfileInvalid
  | auraNotificationSetupFailed
  | auraWriteUnknown
  | auraAcknowledgementTimedOut
  | auraAcknowledgementChannelClosed
  | auraUnexpectedAcknowledgement
  | jblEnterOutcomeUnknown
  | jblExitOutcomeUnknown
  | jblBroadcastResultTimedOut
  | jblBroadcastResultUnavailable
  | jblBroadcastResultRejected
  | auraStartOutcomeUnknown
  | backendReportedFailure
  | recoveryUnsupported
  | backendChangedDuringTransaction
  deriving DecidableEq, Repr

structure PairActionFailure where
  backend : PairBackendKind
  reason : PairBackendError
  observedLifecycle : Option PairLifecycle
  deriving DecidableEq, Repr

/-- `rejectedBeforeSend` is reserved for failures before any command byte was
written. After that every failure is `outcomeUnknown`. -/
inductive PairActionResult where
  | accepted (receipt : PairActionReceipt)
  | rejectedBeforeSend (failure : PairActionFailure)
  | outcomeUnknown (failure : PairActionFailure)
  deriving DecidableEq, Repr

def PairActionResult.backend : PairActionResult → PairBackendKind
  | .accepted receipt => receipt.backend
  | .rejectedBeforeSend failure | .outcomeUnknown failure => failure.backend

def PairActionResult.observedLifecycle : PairActionResult → Option PairLifecycle
  | .accepted receipt => some receipt.lifecycle
  | .rejectedBeforeSend failure | .outcomeUnknown failure => failure.observedLifecycle

/-- A complete JBL and Aura backend. The event type is what the backend itself issues
at its own device boundary. -/
class PairBackend (B : Type) (β : outParam Type) where
  kind : B → PairBackendKind
  health : Proc β B (Except PairBackendError PairHealth)
  start : Proc β B PairActionResult
  stop : Proc β B PairActionResult
  shutdown : Proc β B PairActionResult
  recoverStop : Proc β B PairActionResult := do
    let backend ← Proc.get
    pure (.rejectedBeforeSend ⟨kind backend, .recoveryUnsupported, none⟩)
  teardownTransport : Proc β B (Except PairBackendError Unit) := pure (.ok ())

/-- Pins one backend implementation for a complete controller transaction. -/
structure PairBackendTransaction (B : Type) where
  expectedKind : PairBackendKind
  backend : B
  unresolvedAction : Option PairActionFailure

namespace PairBackendTransaction
variable {B β : Type} [PairBackend B β]

def new (backend : B) : PairBackendTransaction B := ⟨PairBackend.kind backend, backend, none⟩

def backendField : Lens B (PairBackendTransaction B) :=
  ⟨fun tx => tx.backend, fun backend tx => { tx with backend }⟩

def isPinned (tx : PairBackendTransaction B) : Bool := PairBackend.kind tx.backend == tx.expectedKind

/-- A result of a backend that changed under the call is kept only as far as it stays
conservative. -/
def pinResult (tx : PairBackendTransaction B) (attempted : PairActionResult) : PairActionResult :=
  let failure : PairActionFailure :=
    ⟨tx.expectedKind, .backendChangedDuringTransaction, attempted.observedLifecycle⟩
  if tx.isPinned && attempted.backend == tx.expectedKind then attempted
  else match attempted with
    | .rejectedBeforeSend _ => .rejectedBeforeSend failure
    | .accepted _ | .outcomeUnknown _ => .outcomeUnknown failure

def recordUnknown (result : PairActionResult) (tx : PairBackendTransaction B) : PairBackendTransaction B :=
  match result with
  | .outcomeUnknown failure => { tx with unresolvedAction := some failure }
  | .accepted _ | .rejectedBeforeSend _ => tx

/-- An uncertain action is terminal for its transaction. -/
def checkedAction (call : Proc β B PairActionResult) : Proc β (PairBackendTransaction B) PairActionResult := do
  let self ← Proc.get
  match self.unresolvedAction with
  | some failure => pure (.outcomeUnknown failure)
  | none =>
    if self.isPinned then
      let attempted ← call.zoom backendField id
      let self ← Proc.get
      let result := self.pinResult attempted
      Proc.modify (recordUnknown result)
      pure result
    else
      pure (.rejectedBeforeSend ⟨self.expectedKind, .backendChangedDuringTransaction, none⟩)

/-- The controller opens a new transaction for each action and drops it afterwards. -/
def transact (call : Proc β B PairActionResult) : Proc β B PairActionResult := fun backend =>
  let run := checkedAction call (new backend)
  ⟨run.trace, run.state.backend, run.out⟩

theorem isPinned_new (backend : B) : (new backend).isPinned = true := by
  simp only [isPinned, new, beq_self_eq_true]

theorem recordUnknown_backend (result : PairActionResult) (tx : PairBackendTransaction B) :
    (recordUnknown result tx).backend = tx.backend := by
  cases result <;> rfl

theorem transact_value {call : Proc β B PairActionResult} {backend after : B} {trace : List β}
    {attempted : PairActionResult} (run : call backend = ⟨trace, after, some attempted⟩) :
    transact call backend =
      ⟨trace, after, some (pinResult { new backend with backend := after } attempted)⟩ := by
  have inner : call (backendField.get (new backend)) = ⟨trace, after, some attempted⟩ := run
  have fresh : (new backend).unresolvedAction = none := rfl
  simp only [transact, checkedAction, get_bind_run, fresh, isPinned_new, if_true]
  rw [zoom_bind_value inner]
  simp only [get_bind_run, modify_bind_run, pure_run, after_mk, List.map_id, List.append_nil,
    recordUnknown_backend, backendField]
  rfl

theorem pinResult_same {tx : PairBackendTransaction B} {attempted : PairActionResult}
    (pinned : PairBackend.kind tx.backend = tx.expectedKind) (claimed : attempted.backend = tx.expectedKind) :
    tx.pinResult attempted = attempted := by
  simp only [pinResult, isPinned, pinned, claimed, beq_self_eq_true, Bool.and_self, if_true]

theorem transact_killed {call : Proc β B PairActionResult} {backend after : B} {trace : List β}
    (run : call backend = ⟨trace, after, none⟩) : transact call backend = ⟨trace, after, none⟩ := by
  have inner : call (backendField.get (new backend)) = ⟨trace, after, none⟩ := run
  have fresh : (new backend).unresolvedAction = none := rfl
  simp only [transact, checkedAction, get_bind_run, fresh, isPinned_new, if_true]
  rw [zoom_bind_killed inner]
  simp only [List.map_id, backendField]

end PairBackendTransaction

end PlayTogether.Pair
