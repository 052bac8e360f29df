import PlayTogether.Client.Wire
import PlayTogether.Library.JsonFields

/-! The status as the client reads it: its own closed vocabularies, strict records, and the
projection it accepts. -/

namespace PlayTogether.Client
open PlayTogether.Library PlayTogether.Pair PlayTogether.Controller

set_option maxRecDepth 20000

def u8Max : Nat := 2 ^ 8 - 1

def u64Max : Nat := 2 ^ 64 - 1

/-! ## Vocabularies -/

def localBackend : List (String × PairBackendKind) :=
  [("legacy_v04_whole_pair", .legacyV04WholePair), ("native_pair", .nativePair)]

def localPairConfiguration : List (String × PairConfigurationState) :=
  [("ready", .ready), ("not_ready", .notReady), ("unavailable", .unavailable)]

def localPairMemberName : List (String × PairMemberName) :=
  [("JBL Authentics 300", .jblAuthentics300), ("Aura Studio 5", .auraStudio5)]

def localPairMemberVerification : List (String × PairMemberVerification) :=
  [("verified", .verified), ("not_verified", .notVerified), ("unavailable", .unavailable)]

def localPairMemberChannel : List (String × PairMemberChannel) :=
  [("front_left", .frontLeft), ("front_right", .frontRight), ("left", .left), ("right", .right), ("mono", .mono),
   ("stereo", .stereo), ("unknown", .unknown)]

def localManagedState : List (String × ManagedLiveState) :=
  [("unknown", .unknown), ("offline", .offline), ("ready", .ready), ("linking", .linking), ("linked", .linked),
   ("unlinking", .unlinking), ("recovering", .recovering), ("degraded", .degraded), ("shutting_down", .shuttingDown)]

def localLifecycle : List (String × PairLifecycle) :=
  [("offline", .offline), ("initializing", .initializing), ("connecting", .connecting), ("ready", .ready),
   ("linking", .linking), ("linked", .linked), ("unlinking", .unlinking), ("degraded", .degraded),
   ("recovering", .recovering), ("shutting_down", .shuttingDown), ("failed", .failed)]

def localHealthLevel : List (String × PairHealthLevel) :=
  [("healthy", .healthy), ("transitioning", .transitioning), ("degraded", .degraded), ("unavailable", .unavailable)]

def localAuraTransport : List (String × AuraControlTransport) :=
  [("le", .le), ("br_edr", .brEdr), ("unresolved", .unresolved), ("unknown", .unknown)]

def localAuraAcquisitionRoute : List (String × AuraAcquisitionRoute) :=
  [("stable_direct", .stableDirect), ("a2dp_wake_then_stable", .a2dpWakeThenStable), ("fresh_le", .freshLe),
   ("unresolved", .unresolved)]

def localActionName : List (String × ControllerAction) :=
  [("start", .start), ("stop", .stop), ("shutdown", .shutdown), ("recover_stop", .recoverStop)]

def localActionOutcome : List (String × ControllerActionOutcome) :=
  [("accepted", .accepted), ("accepted_unconfirmed", .acceptedUnconfirmed), ("idempotent", .idempotent),
   ("rejected_before_send", .rejectedBeforeSend), ("outcome_unknown", .outcomeUnknown),
   ("postcondition_failed", .postconditionFailed)]

def localActionEvidence : List (String × PairBackendEvidence) :=
  [("local_session_state", .localSessionState), ("lifecycle_acknowledgement", .lifecycleAcknowledgement),
   ("broadcast_acknowledgement_only", .broadcastAcknowledgementOnly),
   ("broadcast_business_notification", .broadcastBusinessNotification)]

def localFailure : List (String × ControllerFailure) :=
  [("pair_configuration_unavailable", .pairConfigurationUnavailable),
   ("expected_pair_not_configured", .expectedPairNotConfigured),
   ("backend_rejected_before_send", .backendRejectedBeforeSend),
   ("aura_adapter_unavailable", .auraAdapterUnavailable),
   ("aura_discovery_unavailable", .auraDiscoveryUnavailable),
   ("aura_verified_advertisement_not_found", .auraVerifiedAdvertisementNotFound),
   ("aura_device_connection_failed", .auraDeviceConnectionFailed),
   ("wake_profile_connect_failed", .auraWakeProfileConnectFailed),
   ("wake_fddf_timed_out", .auraWakeFddfTimedOut),
   ("wake_fddf_invalid", .auraWakeFddfInvalid),
   ("wake_fddf_unavailable", .auraWakeFddfUnavailable),
   ("wake_profile_release_failed", .auraWakeProfileReleaseFailed),
   ("aura_gatt_profile_invalid", .auraGattProfileInvalid),
   ("aura_notification_setup_failed", .auraNotificationSetupFailed),
   ("aura_write_unknown", .auraWriteUnknown),
   ("aura_ack_timeout", .auraAckTimeout),
   ("aura_ack_channel_closed", .auraAckChannelClosed),
   ("aura_unexpected_ack", .auraUnexpectedAck),
   ("jbl_enter_outcome_unknown", .jblEnterOutcomeUnknown),
   ("jbl_exit_outcome_unknown", .jblExitOutcomeUnknown),
   ("jbl_broadcast_result_timed_out", .jblBroadcastResultTimedOut),
   ("jbl_broadcast_result_unavailable", .jblBroadcastResultUnavailable),
   ("jbl_broadcast_result_rejected", .jblBroadcastResultRejected),
   ("aura_start_outcome_unknown", .auraStartOutcomeUnknown),
   ("backend_outcome_unknown", .backendOutcomeUnknown),
   ("unexpected_backend_lifecycle", .unexpectedBackendLifecycle),
   ("membership_postcondition_failed", .membershipPostconditionFailed),
   ("unresolved_prior_action", .unresolvedPriorAction),
   ("recovery_not_allowed", .recoveryNotAllowed),
   ("journal_unavailable", .journalUnavailable),
   ("journal_commit_failed", .journalCommitFailed)]

/-! ## Records -/

structure LocalPairMember where
  name : PairMemberName
  verification : PairMemberVerification
  channels : List PairMemberChannel
  deriving DecidableEq, Repr

structure LocalHealth where
  lifecycle : PairLifecycle
  level : PairHealthLevel
  reportedError : Bool
  auraTransport : AuraControlTransport
  auraAcquisitionRoute : AuraAcquisitionRoute
  deriving DecidableEq, Repr

structure LocalLastAction where
  action : ControllerAction
  outcome : ControllerActionOutcome
  evidence : Option PairBackendEvidence
  failure : Option ControllerFailure
  revision : Nat
  ageMs : Nat
  deriving DecidableEq, Repr

structure LocalStatus where
  backend : PairBackendKind
  pairConfiguration : PairConfigurationState
  members : LocalPairMember × LocalPairMember
  managedState : ManagedLiveState
  backendHealth : Option LocalHealth
  unresolvedAction : Bool
  consecutiveFailures : Nat
  revision : Nat
  lastAction : Option LocalLastAction
  deriving DecidableEq, Repr

open Json in
def LocalPairMember.read (value : Json) : Option LocalPairMember :=
  match readFields ["name", "verification", "channels"] value with
  | some [name, verification, channels] => do
    let name ← required (readVariant localPairMemberName) name
    let verification ← required (readVariant localPairMemberVerification) verification
    let channels ← required (readVec (readVariant localPairMemberChannel)) channels
    pure ⟨name, verification, channels⟩
  | _ => none

open Json in
def LocalHealth.read (value : Json) : Option LocalHealth :=
  match readFields ["lifecycle", "level", "reported_error", "aura_transport", "aura_acquisition_route"] value with
  | some [lifecycle, level, reportedError, auraTransport, auraAcquisitionRoute] => do
    let lifecycle ← required (readVariant localLifecycle) lifecycle
    let level ← required (readVariant localHealthLevel) level
    let reportedError ← required readBool reportedError
    let auraTransport ← required (readVariant localAuraTransport) auraTransport
    let auraAcquisitionRoute ← required (readVariant localAuraAcquisitionRoute) auraAcquisitionRoute
    pure ⟨lifecycle, level, reportedError, auraTransport, auraAcquisitionRoute⟩
  | _ => none

open Json in
def LocalLastAction.read (value : Json) : Option LocalLastAction :=
  match readFields ["action", "outcome", "evidence", "failure", "revision", "age_ms"] value with
  | some [action, outcome, evidence, failure, revision, ageMs] => do
    let action ← required (readVariant localActionName) action
    let outcome ← required (readVariant localActionOutcome) outcome
    let evidence ← optional (readVariant localActionEvidence) evidence
    let failure ← optional (readVariant localFailure) failure
    let revision ← required (readUnsigned u64Max) revision
    let ageMs ← required (readUnsigned u64Max) ageMs
    pure ⟨action, outcome, evidence, failure, revision, ageMs⟩
  | _ => none

open Json in
def LocalStatus.read (value : Json) : Option LocalStatus :=
  match readFields ["backend", "pair_configuration", "members", "managed_state", "backend_health", "unresolved_action",
      "consecutive_failures", "revision", "last_action"] value with
  | some [backend, pairConfiguration, members, managedState, backendHealth, unresolvedAction, consecutiveFailures,
      revision, lastAction] => do
    let backend ← required (readVariant localBackend) backend
    let pairConfiguration ← required (readVariant localPairConfiguration) pairConfiguration
    let members ← required (readPair LocalPairMember.read) members
    let managedState ← required (readVariant localManagedState) managedState
    let backendHealth ← optional LocalHealth.read backendHealth
    let unresolvedAction ← required readBool unresolvedAction
    let consecutiveFailures ← required (readUnsigned u8Max) consecutiveFailures
    let revision ← required (readUnsigned u64Max) revision
    let lastAction ← optional LocalLastAction.read lastAction
    pure ⟨backend, pairConfiguration, members, managedState, backendHealth, unresolvedAction, consecutiveFailures,
      revision, lastAction⟩
  | _ => none

/-! ## The projection the client accepts -/

def validMemberProjection (member : LocalPairMember) : Bool :=
  !member.channels.isEmpty && decide (member.channels.length ≤ 6) &&
    member.channels.zipIdx.all fun (channel, index) =>
      (channel != .unknown || member.channels.length == 1) && !(member.channels.take index).contains channel

def validHealthProjection (health : LocalHealth) : Bool :=
  match health.auraAcquisitionRoute with
  | .stableDirect | .a2dpWakeThenStable => health.auraTransport == .brEdr
  | .freshLe => health.auraTransport == .le
  | .unresolved => true

def validStatusProjection (status : LocalStatus) : Bool :=
  let members := [status.members.1, status.members.2]
  if status.members.1.name != .jblAuthentics300 || status.members.2.name != .auraStudio5 ||
      members.any (!validMemberProjection ·) ||
      (status.lastAction.any fun action => decide (action.revision > status.revision)) ||
      (status.backendHealth.any (!validHealthProjection ·)) then false
  else match status.pairConfiguration with
    | .ready => members.all fun member => member.verification == .verified
    | .notReady => members.all fun member => member.verification != .unavailable
    | .unavailable => members.all fun member => member.verification == .unavailable

/-- What `status` makes of a response. -/
def LocalServiceClient.status (serde : Serde) (response : LocalHttpResponse) : Except LocalClientError LocalStatus :=
  if response.status ≠ 200 then .error .serviceRejected
  else match (serde.fromSlice response.body).bind LocalStatus.read with
    | none => .error .invalidResponse
    | some status =>
      if !validStatusProjection status then .error .invalidResponse
      else if response.headers.get (ascii "etag") ≠ some ([0x22] ++ decimal status.revision ++ [0x22]) then
        .error .invalidResponse
      else .ok status

/-! ## Reading back -/

section Vocabulary
open Json Web

theorem read_backendName (kind : PairBackendKind) : readVariant localBackend (.text (backendName kind)) = some kind :=
  readVariant_text (by decide) (by cases kind <;> decide)

theorem read_pairConfigurationName (state : PairConfigurationState) :
    readVariant localPairConfiguration (.text (pairConfigurationName state)) = some state :=
  readVariant_text (by decide) (by cases state <;> decide)

theorem read_memberName (name : PairMemberName) : readVariant localPairMemberName (.text (memberName name)) = some name :=
  readVariant_text (by decide) (by cases name <;> decide)

theorem read_memberVerificationName (verification : PairMemberVerification) :
    readVariant localPairMemberVerification (.text (memberVerificationName verification)) = some verification :=
  readVariant_text (by decide) (by cases verification <;> decide)

theorem read_memberChannelName (channel : PairMemberChannel) :
    readVariant localPairMemberChannel (.text (memberChannelName channel)) = some channel :=
  readVariant_text (by decide) (by cases channel <;> decide)

theorem read_managedStateName (state : ManagedLiveState) :
    readVariant localManagedState (.text (managedStateName state)) = some state :=
  readVariant_text (by decide) (by cases state <;> decide)

theorem read_lifecycleName (lifecycle : PairLifecycle) :
    readVariant localLifecycle (.text (lifecycleName lifecycle)) = some lifecycle :=
  readVariant_text (by decide) (by cases lifecycle <;> decide)

theorem read_healthLevelName (level : PairHealthLevel) :
    readVariant localHealthLevel (.text (healthLevelName level)) = some level :=
  readVariant_text (by decide) (by cases level <;> decide)

theorem read_auraTransportName (transport : AuraControlTransport) :
    readVariant localAuraTransport (.text (auraTransportName transport)) = some transport :=
  readVariant_text (by decide) (by cases transport <;> decide)

theorem read_acquisitionRouteName (route : AuraAcquisitionRoute) :
    readVariant localAuraAcquisitionRoute (.text (acquisitionRouteName route)) = some route :=
  readVariant_text (by decide) (by cases route <;> decide)

theorem read_actionName (action : ControllerAction) :
    readVariant localActionName (.text (actionName action)) = some action :=
  readVariant_text (by decide) (by cases action <;> decide)

theorem read_outcomeName (outcome : ControllerActionOutcome) :
    readVariant localActionOutcome (.text (outcomeName outcome)) = some outcome :=
  readVariant_text (by decide) (by cases outcome <;> decide)

theorem read_evidenceName (evidence : PairBackendEvidence) :
    readVariant localActionEvidence (.text (evidenceName evidence)) = some evidence :=
  readVariant_text (by decide) (by cases evidence <;> decide)

theorem read_failureName (failure : ControllerFailure) :
    readVariant localFailure (.text (failureName failure)) = some failure :=
  readVariant_text (by decide) (by cases failure <;> decide)

end Vocabulary

section Records
open Json Web

def LocalPairMember.received (member : PairMemberStatus) : LocalPairMember :=
  ⟨member.name, member.verification, member.channels⟩

def LocalHealth.received (health : PairHealth) : LocalHealth :=
  ⟨health.lifecycle, health.level, health.reportedError, health.auraTransport, health.auraAcquisitionRoute⟩

def LocalLastAction.received (ageMs : Nat) (action : LastActionStatus) : LocalLastAction :=
  ⟨action.action, action.outcome, action.evidence, action.failure, action.revision, ageMs⟩

/-- What the client holds of a status it was sent. -/
def LocalStatus.received (snapshot : StatusSnapshot) : LocalStatus :=
  let status := snapshot.status
  ⟨status.backend, status.pairConfiguration, (.received status.members.1, .received status.members.2),
    status.managedState, status.backendHealth.map .received, status.unresolvedAction, status.consecutiveFailures,
    status.revision, status.lastAction.map (.received snapshot.ageMs)⟩

theorem read_memberBody (member : PairMemberStatus) :
    LocalPairMember.read (memberBody member) = some (.received member) := by
  have fields : readFields ["name", "verification", "channels"] (memberBody member) = some _ :=
    readFields_record rfl (by decide)
  have channels := readVec_array read_memberChannelName member.channels
  rw [List.map_id'] at channels
  unfold LocalPairMember.read
  rw [fields]
  simp only [List.map_cons, List.map_nil, required, Option.bind_some, read_memberName, read_memberVerificationName,
    channels, Option.bind_eq_bind, Option.pure_def]
  rfl

theorem read_healthBody (health : PairHealth) : LocalHealth.read (healthBody health) = some (.received health) := by
  have fields : readFields ["lifecycle", "level", "reported_error", "aura_transport", "aura_acquisition_route"]
      (healthBody health) = some _ := readFields_record rfl (by decide)
  unfold LocalHealth.read
  rw [fields]
  simp only [List.map_cons, List.map_nil, required, Option.bind_some, read_lifecycleName, read_healthLevelName,
    read_auraTransportName, read_acquisitionRouteName, readBool, Option.bind_eq_bind, Option.pure_def]
  rfl

theorem read_lastActionBody {ageMs : Nat} {action : LastActionStatus} (revision : action.revision ≤ u64Max)
    (age : ageMs ≤ u64Max) :
    LocalLastAction.read (lastActionBody ageMs action) = some (.received ageMs action) := by
  have fields : readFields ["action", "outcome", "evidence", "failure", "revision", "age_ms"]
      (lastActionBody ageMs action) = some _ := readFields_record rfl (by decide)
  have evidence := optional_nullable action.evidence (fun value _ => read_evidenceName value) (by simp [Json.text])
  have failure := optional_nullable action.failure (fun value _ => read_failureName value) (by simp [Json.text])
  rw [Option.map_id'] at evidence failure
  unfold LocalLastAction.read
  rw [fields]
  simp only [List.map_cons, List.map_nil, required, Option.bind_some, read_actionName, read_outcomeName,
    readUnsigned_cast revision, readUnsigned_cast age, Function.comp_def, evidence, failure, Option.bind_eq_bind,
    Option.pure_def]
  rfl

/-- A status whose counters are machine integers is read back as it was. -/
theorem read_statusBody {snapshot : StatusSnapshot} (failures : snapshot.status.consecutiveFailures ≤ u8Max)
    (revision : snapshot.status.revision ≤ u64Max)
    (last : ∀ action ∈ snapshot.status.lastAction, action.revision ≤ u64Max) (age : snapshot.ageMs ≤ u64Max) :
    LocalStatus.read (statusBody snapshot) = some (.received snapshot) := by
  have fields : readFields ["backend", "pair_configuration", "members", "managed_state", "backend_health",
      "unresolved_action", "consecutive_failures", "revision", "last_action"] (statusBody snapshot) = some _ :=
    readFields_record rfl (by decide)
  have health := optional_nullable snapshot.status.backendHealth (fun value _ => read_healthBody value)
    (by simp [healthBody, Json.record])
  have action := optional_nullable snapshot.status.lastAction
    (fun value member => read_lastActionBody (last value member) age) (by simp [lastActionBody, Json.record])
  have members : readPair LocalPairMember.read
      (.array [memberBody snapshot.status.members.1, memberBody snapshot.status.members.2]) =
      some (.received snapshot.status.members.1, .received snapshot.status.members.2) := by
    simp only [readPair, read_memberBody, Option.bind_eq_bind, Option.bind_some, Option.pure_def]
  unfold LocalStatus.read
  rw [fields]
  simp only [List.map_cons, List.map_nil, required, Option.bind_some, read_backendName, read_pairConfigurationName,
    members, read_managedStateName, health, readBool, readUnsigned_cast failures, readUnsigned_cast revision, action,
    Option.bind_eq_bind, Option.pure_def]
  rfl

end Records

end PlayTogether.Client
