import Mathlib.Tactic.Common

/-! The closed failure and result vocabularies of the speaker transports. Raw
transport errors are mapped to these before they reach the pair backend. -/

namespace PlayTogether.Device

def IsUnicast (binary : Vector UInt8 6) : Prop := binary[0] &&& 1 = 0

instance (binary : Vector UInt8 6) : Decidable (IsUnicast binary) := inferInstanceAs (Decidable (_ = _))

/-- A Bluetooth device identity. Only non-zero unicast addresses are constructed. -/
structure DeviceIdentity where
  binary : Vector UInt8 6
  nonzero : binary ≠ Vector.replicate 6 0
  unicast : IsUnicast binary
  deriving DecidableEq

inductive JblError where
  | configUnavailable
  | configPermissions
  | configTooLarge
  | invalidConfig
  | missingSetting (name : String)
  | invalidTimeout
  | invalidAddress
  | certificateUnavailable
  | certificatePermissions
  | privateKeyUnavailable
  | privateKeyPermissions
  | invalidTlsFingerprint
  | invalidClientIdentity
  | credentialFileInvalid
  | credentialTooLarge
  | tlsConfiguration
  | peerCertificateMismatch
  | networkUnreachable
  | httpStatus (status : UInt16)
  | responseTooLarge
  | invalidJson
  | invalidXml
  | basicResponseNotObject
  | basicResponseCodeMissing
  | basicResponseCodeInvalid
  | controlCommandRejected
  | deviceInfoMissing
  | controlDeviceInfoMissing
  | unexpectedDeviceModel
  | deviceReportedError
  | groupInfoMissing
  | groupMembersMissing
  | groupDisabledInvalid
  | groupMemberInvalid
  | invalidArguments
  | outputFailed
  deriving DecidableEq, Repr

/-- A valid application-level acceptance. It proves only that OneOS returned
`error_code` zero. -/
structure BasicResponse where
  deriving DecidableEq, Repr

/-- `rejected` is kept for a command that was certainly not sent or that OneOS
explicitly rejected; every later failure is `outcomeUnknown`. -/
inductive PlayTogetherWriteResult where
  | accepted (response : BasicResponse)
  | rejected (error : JblError)
  | outcomeUnknown (error : JblError)
  deriving DecidableEq, Repr

inductive AuraHealth where
  | offline
  | ready
  | unavailable
  | outcomeUnknown
  deriving DecidableEq, Repr

inductive AuraBearerTransport where
  | le
  | brEdr
  deriving DecidableEq, Repr

inductive AuraFailureReason where
  | invalidConfiguration
  | runtimeUnavailable
  | adapterUnavailable
  | adapterPoweredOff
  | discoveryUnavailable
  | verifiedAdvertisementNotFound
  | deviceConnectionFailed
  | wakeProfileConnectFailed
  | wakeFddfTimedOut
  | wakeFddfInvalid
  | wakeFddfUnavailable
  | wakeProfileReleaseFailed
  | gattProfileInvalid
  | notificationSetupFailed
  | transportNotReady
  | notificationQueueInvalid
  | writeFailed
  | acknowledgementTimedOut
  | acknowledgementChannelClosed
  | unexpectedAcknowledgement
  | disconnectFailed
  deriving DecidableEq, Repr

structure AuraTransportError where
  reason : AuraFailureReason
  deriving DecidableEq, Repr

structure AuraActionFailure where
  reason : AuraFailureReason
  deriving DecidableEq, Repr

/-- Once the frame write has begun every failure is `outcomeUnknown`. -/
inductive AuraActionResult where
  | accepted
  | rejectedBeforeSend (failure : AuraActionFailure)
  | outcomeUnknown (failure : AuraActionFailure)
  deriving DecidableEq, Repr

inductive JblGattFailure where
  | runtimeUnavailable
  | adapterUnavailable
  | adapterPoweredOff
  | deviceConnectionFailed
  | mtuExchangeFailed
  | transportNotReady
  | frameTooLarge
  | writeFailed
  | writeResponseTimedOut
  | channelClosed
  | unexpectedResponse
  deriving DecidableEq, Repr

inductive GenaFailure where
  | invalidConfiguration
  | routeUnavailable
  | listenerUnavailable
  | subscriptionUnavailable
  | invalidSubscription
  | callbackTimedOut
  | invalidCallback
  | businessRejected
  | cleanupFailed
  deriving DecidableEq, Repr

inductive BroadcastAction where
  | start
  | stop
  deriving DecidableEq, Repr

inductive BroadcastResultEvidence where
  | ackOnly
  | confirmedNotification
  deriving DecidableEq, Repr

inductive BroadcastResultFailure where
  | timedOut
  | unavailable
  | rejected
  deriving DecidableEq, Repr

/-- The closed 7957 commands; START carries the private JBL identity. -/
inductive BroadcastCommand where
  | start (identity : DeviceIdentity)
  | stop
  deriving DecidableEq

def mapJblGattFailure : JblGattFailure → BroadcastResultFailure
  | .writeResponseTimedOut => .timedOut
  | .runtimeUnavailable | .adapterUnavailable | .adapterPoweredOff | .deviceConnectionFailed
  | .mtuExchangeFailed | .transportNotReady | .frameTooLarge | .writeFailed | .channelClosed
  | .unexpectedResponse => .unavailable

def mapGenaFailure : GenaFailure → BroadcastResultFailure
  | .callbackTimedOut => .timedOut
  | .businessRejected => .rejected
  | .invalidConfiguration | .routeUnavailable | .listenerUnavailable | .subscriptionUnavailable
  | .invalidSubscription | .invalidCallback | .cleanupFailed => .unavailable

end PlayTogether.Device
