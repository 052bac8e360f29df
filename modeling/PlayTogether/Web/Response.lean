import PlayTogether.Controller.WebActor
import PlayTogether.Library.Json
import PlayTogether.Web.Request

/-! Responses of the loopback service: allowlisted bodies under fixed headers. -/

namespace PlayTogether.Web
open PlayTogether.Library PlayTogether.Pair PlayTogether.Controller

structure HttpResponse where
  status : Nat
  headers : List (Bytes × Bytes)
  body : Bytes
  deriving DecidableEq

def reasonPhrase : Nat → Bytes
  | 200 => ascii "OK"
  | 400 => ascii "Bad Request"
  | 403 => ascii "Forbidden"
  | 404 => ascii "Not Found"
  | 405 => ascii "Method Not Allowed"
  | 409 => ascii "Conflict"
  | 411 => ascii "Length Required"
  | 413 => ascii "Payload Too Large"
  | 415 => ascii "Unsupported Media Type"
  | 428 => ascii "Precondition Required"
  | 505 => ascii "HTTP Version Not Supported"
  | _ => ascii "Error"

def HttpResponse.toHttp1Bytes (self : HttpResponse) : Bytes :=
  ascii "HTTP/1.1 " ++ decimal self.status ++ [0x20] ++ reasonPhrase self.status ++ crlf ++
    self.headers.flatMap (fun (name, value) => name ++ ascii ": " ++ value ++ crlf) ++ crlf ++ self.body

def contentSecurityPolicy : Option Bytes → Bytes
  | some nonce => ascii "default-src 'self'; script-src 'nonce-" ++ nonce ++
      (ascii "'; connect-src 'self'; " ++ ascii "object-src 'none'; " ++ ascii "base-uri 'none'; " ++
        ascii "form-action 'self'; " ++ ascii "frame-ancestors 'none'")
  | none => ascii "default-src 'self'; " ++ ascii "object-src 'none'; " ++ ascii "base-uri 'none'; " ++
      ascii "form-action 'none'; " ++ ascii "frame-ancestors 'none'"

def response (status : Nat) (contentType : String) (body : Bytes) (cspNonce : Option Bytes)
    (additionalHeaders : List (Bytes × Bytes)) : HttpResponse :=
  { status
    headers :=
      [(ascii "Content-Type", ascii contentType),
       (ascii "Content-Length", decimal body.length),
       (ascii "Connection", ascii "close"),
       (ascii "Cache-Control", ascii "no-store"),
       (ascii "Pragma", ascii "no-cache"),
       (ascii "X-Content-Type-Options", ascii "nosniff"),
       (ascii "Referrer-Policy", ascii "no-referrer"),
       (ascii "Content-Security-Policy", contentSecurityPolicy cspNonce),
       (ascii "X-Frame-Options", ascii "DENY")] ++ additionalHeaders
    body }

/-! ## Names -/

def memberName : PairMemberName → String
  | .jblAuthentics300 => "JBL Authentics 300"
  | .auraStudio5 => "Aura Studio 5"

def memberVerificationName : PairMemberVerification → String
  | .verified => "verified"
  | .notVerified => "not_verified"
  | .unavailable => "unavailable"

def memberChannelName : PairMemberChannel → String
  | .frontLeft => "front_left"
  | .frontRight => "front_right"
  | .left => "left"
  | .right => "right"
  | .mono => "mono"
  | .stereo => "stereo"
  | .unknown => "unknown"

def backendName : PairBackendKind → String
  | .legacyV04WholePair => "legacy_v04_whole_pair"
  | .nativePair => "native_pair"

def pairConfigurationName : PairConfigurationState → String
  | .ready => "ready"
  | .notReady => "not_ready"
  | .unavailable => "unavailable"

def managedStateName : ManagedLiveState → String
  | .unknown => "unknown"
  | .offline => "offline"
  | .ready => "ready"
  | .linking => "linking"
  | .linked => "linked"
  | .unlinking => "unlinking"
  | .recovering => "recovering"
  | .degraded => "degraded"
  | .shuttingDown => "shutting_down"

def lifecycleName : PairLifecycle → String
  | .offline => "offline"
  | .initializing => "initializing"
  | .connecting => "connecting"
  | .ready => "ready"
  | .linking => "linking"
  | .linked => "linked"
  | .unlinking => "unlinking"
  | .degraded => "degraded"
  | .recovering => "recovering"
  | .shuttingDown => "shutting_down"
  | .failed => "failed"

def healthLevelName : PairHealthLevel → String
  | .healthy => "healthy"
  | .transitioning => "transitioning"
  | .degraded => "degraded"
  | .unavailable => "unavailable"

def auraTransportName : AuraControlTransport → String
  | .le => "le"
  | .brEdr => "br_edr"
  | .unresolved => "unresolved"
  | .unknown => "unknown"

def acquisitionRouteName : AuraAcquisitionRoute → String
  | .stableDirect => "stable_direct"
  | .a2dpWakeThenStable => "a2dp_wake_then_stable"
  | .freshLe => "fresh_le"
  | .unresolved => "unresolved"

def actionName : ControllerAction → String
  | .start => "start"
  | .stop => "stop"
  | .shutdown => "shutdown"
  | .recoverStop => "recover_stop"

def outcomeName : ControllerActionOutcome → String
  | .accepted => "accepted"
  | .acceptedUnconfirmed => "accepted_unconfirmed"
  | .idempotent => "idempotent"
  | .rejectedBeforeSend => "rejected_before_send"
  | .outcomeUnknown => "outcome_unknown"
  | .postconditionFailed => "postcondition_failed"

def evidenceName : PairBackendEvidence → String
  | .localSessionState => "local_session_state"
  | .lifecycleAcknowledgement => "lifecycle_acknowledgement"
  | .broadcastAcknowledgementOnly => "broadcast_acknowledgement_only"
  | .broadcastBusinessNotification => "broadcast_business_notification"

def failureName : ControllerFailure → String
  | .pairConfigurationUnavailable => "pair_configuration_unavailable"
  | .expectedPairNotConfigured => "expected_pair_not_configured"
  | .backendRejectedBeforeSend => "backend_rejected_before_send"
  | .auraAdapterUnavailable => "aura_adapter_unavailable"
  | .auraDiscoveryUnavailable => "aura_discovery_unavailable"
  | .auraVerifiedAdvertisementNotFound => "aura_verified_advertisement_not_found"
  | .auraDeviceConnectionFailed => "aura_device_connection_failed"
  | .auraWakeProfileConnectFailed => "wake_profile_connect_failed"
  | .auraWakeFddfTimedOut => "wake_fddf_timed_out"
  | .auraWakeFddfInvalid => "wake_fddf_invalid"
  | .auraWakeFddfUnavailable => "wake_fddf_unavailable"
  | .auraWakeProfileReleaseFailed => "wake_profile_release_failed"
  | .auraGattProfileInvalid => "aura_gatt_profile_invalid"
  | .auraNotificationSetupFailed => "aura_notification_setup_failed"
  | .auraWriteUnknown => "aura_write_unknown"
  | .auraAckTimeout => "aura_ack_timeout"
  | .auraAckChannelClosed => "aura_ack_channel_closed"
  | .auraUnexpectedAck => "aura_unexpected_ack"
  | .jblEnterOutcomeUnknown => "jbl_enter_outcome_unknown"
  | .jblExitOutcomeUnknown => "jbl_exit_outcome_unknown"
  | .jblBroadcastResultTimedOut => "jbl_broadcast_result_timed_out"
  | .jblBroadcastResultUnavailable => "jbl_broadcast_result_unavailable"
  | .jblBroadcastResultRejected => "jbl_broadcast_result_rejected"
  | .auraStartOutcomeUnknown => "aura_start_outcome_unknown"
  | .backendOutcomeUnknown => "backend_outcome_unknown"
  | .unexpectedBackendLifecycle => "unexpected_backend_lifecycle"
  | .membershipPostconditionFailed => "membership_postcondition_failed"
  | .unresolvedPriorAction => "unresolved_prior_action"
  | .recoveryNotAllowed => "recovery_not_allowed"
  | .journalUnavailable => "journal_unavailable"
  | .journalCommitFailed => "journal_commit_failed"

/-! ## Bodies -/

/-- A status with the age its last action has when it is read. -/
structure StatusSnapshot where
  status : ControllerStatus
  ageMs : Nat
  deriving DecidableEq, Repr

def memberBody (member : PairMemberStatus) : Json :=
  .record
    [("name", .text (memberName member.name)),
     ("verification", .text (memberVerificationName member.verification)),
     ("channels", .array (member.channels.map fun channel => .text (memberChannelName channel)))]

def healthBody (health : PairHealth) : Json :=
  .record
    [("lifecycle", .text (lifecycleName health.lifecycle)),
     ("level", .text (healthLevelName health.level)),
     ("reported_error", .bool health.reportedError),
     ("aura_transport", .text (auraTransportName health.auraTransport)),
     ("aura_acquisition_route", .text (acquisitionRouteName health.auraAcquisitionRoute))]

def lastActionBody (ageMs : Nat) (action : LastActionStatus) : Json :=
  .record
    [("action", .text (actionName action.action)),
     ("outcome", .text (outcomeName action.outcome)),
     ("evidence", .nullable (.text ∘ evidenceName) action.evidence),
     ("failure", .nullable (.text ∘ failureName) action.failure),
     ("revision", .integer action.revision),
     ("age_ms", .integer ageMs)]

def statusBody (snapshot : StatusSnapshot) : Json :=
  let status := snapshot.status
  .record
    [("backend", .text (backendName status.backend)),
     ("pair_configuration", .text (pairConfigurationName status.pairConfiguration)),
     ("members", .array [memberBody status.members.1, memberBody status.members.2]),
     ("managed_state", .text (managedStateName status.managedState)),
     ("backend_health", .nullable healthBody status.backendHealth),
     ("unresolved_action", .bool status.unresolvedAction),
     ("consecutive_failures", .integer status.consecutiveFailures),
     ("revision", .integer status.revision),
     ("last_action", .nullable (lastActionBody snapshot.ageMs) status.lastAction)]

def actionBody (result : ControllerActionResult) : Json :=
  .record
    [("action", .text (actionName result.action)),
     ("outcome", .text (outcomeName result.outcome)),
     ("managed_state", .text (managedStateName result.managedState)),
     ("evidence", .nullable (.text ∘ evidenceName) result.evidence),
     ("failure", .nullable (.text ∘ failureName) result.failure),
     ("revision", .integer result.revision)]

def errorStatus : RequestError → Nat × String
  | .badRequest | .invalidJsonBody => (400, "bad_request")
  | .forbiddenHost => (403, "host_rejected")
  | .forbiddenOrigin => (403, "origin_rejected")
  | .csrfRejected => (403, "csrf_rejected")
  | .notFound => (404, "not_found")
  | .methodNotAllowed => (405, "method_not_allowed")
  | .revisionConflict => (409, "revision_conflict")
  | .lengthRequired => (411, "length_required")
  | .payloadTooLarge => (413, "payload_too_large")
  | .unsupportedMediaType => (415, "unsupported_media_type")
  | .preconditionRequired => (428, "revision_required")
  | .httpVersionNotSupported => (505, "http_version_not_supported")

section Json
variable (serde : Serde)

def jsonResponse (status : Nat) (body : Json) (revision : Option Nat) : HttpResponse :=
  let additional := match revision with
    | some revision => [(ascii "ETag", [0x22] ++ decimal revision ++ [0x22])]
    | none => []
  response status "application/json; charset=utf-8" (serde.toVec body) none additional

def readinessResponse : HttpResponse := jsonResponse serde 200 (.record [("status", .text "ready")]) none

def statusResponse (snapshot : StatusSnapshot) : HttpResponse :=
  jsonResponse serde 200 (statusBody snapshot) (some snapshot.status.revision)

def actionResponse (result : ControllerActionResult) : HttpResponse :=
  jsonResponse serde 200 (actionBody result) (some result.revision)

def errorResponse (error : RequestError) : HttpResponse :=
  jsonResponse serde (errorStatus error).1 (.record [("error", .text (errorStatus error).2)]) none

end Json

end PlayTogether.Web
