import PlayTogether.Native.Interfaces
import PlayTogether.Library.Bytes

/-! The persistent Aura bearer: one control core with its own uncertainty latch over one ATT
socket, which is acquired in a fixed order of routes. -/

namespace PlayTogether.Aura
open PlayTogether.Library PlayTogether.Device PlayTogether.Pair PlayTogether.Native

/-! ## Protocol -/

inductive AuraPlayTogetherCommand where
  | on
  | off
  deriving DecidableEq, Repr

def AuraPlayTogetherCommand.frame : AuraPlayTogetherCommand → Bytes
  | .on => [0xaa, 0x13, 0x04, 0x00, 0x3c, 0x01, 0x01]
  | .off => [0xaa, 0x13, 0x04, 0x00, 0x3c, 0x01, 0x00]

def successAck : Bytes := [0xaa, 0x00, 0x02, 0x13, 0x00]

def attAuraWriteHandle : Nat := 0x03ea

def attAuraNotifyHandle : Nat := 0x03ec

def maxStaleNotifications : Nat := 32

def attWriteCommand (handle : Nat) (value : Bytes) : Bytes :=
  [0x52, UInt8.ofNat (handle % 256), UInt8.ofNat (handle / 256)] ++ value

inductive AttPdu where
  | writeResponse
  | notification (handle : Nat) (value : Bytes)
  | other
  deriving DecidableEq

def parseAttPdu : Bytes → AttPdu
  | [0x13] => .writeResponse
  | 0x1b :: low :: high :: value => .notification (low.toNat + 256 * high.toNat) value
  | _ => .other

inductive AckObservation where
  | accepted
  | unexpected
  deriving DecidableEq, Repr

def observeAck (packet : Bytes) : AckObservation :=
  match parseAttPdu packet with
  | .notification handle value => if handle = attAuraNotifyHandle ∧ value = successAck then .accepted else .unexpected
  | .writeResponse | .other => .unexpected

/-! ## The control core -/

class AuraIo (I : Type) where
  connectVerified : DeviceIdentity → I → Reply (Except AuraFailureReason Unit) × I
  health : I → Reply AuraHealth × I
  prepareCommand : I → Reply (Except AuraFailureReason Unit) × I
  beginWrite : AuraPlayTogetherCommand → I → Reply (Except AuraFailureReason Unit) × I
  waitForAck : I → Reply (Except AuraFailureReason AckObservation) × I
  shutdown : I → Reply (Except AuraFailureReason Unit) × I

structure AuraControlCore (I : Type) where
  io : I
  unresolved : Option AuraActionFailure

namespace AuraControlCore
variable {I : Type} [AuraIo I]

def onIo {α : Type} (method : I → Reply α × I) (self : AuraControlCore I) : Reply α × AuraControlCore I :=
  let (reply, io) := method self.io
  (reply, { self with io })

def latchUnknown (reason : AuraFailureReason) (self : AuraControlCore I) : Reply AuraActionResult × AuraControlCore I :=
  (.answered (.outcomeUnknown ⟨reason⟩), { self with unresolved := some ⟨reason⟩ })

/-- An uncertain write may have changed the peer: the bearer is torn down before a new one. -/
def releaseUncertain (self : AuraControlCore I) : Reply (Except AuraFailureReason Unit) × AuraControlCore I :=
  if self.unresolved.isSome then self.onIo AuraIo.shutdown else (.answered (.ok ()), self)

def connectVerified (identity : DeviceIdentity) (self : AuraControlCore I) :
    Reply (Except AuraTransportError Unit) × AuraControlCore I :=
  Reply.andThen self.releaseUncertain fun
    | .error reason, self => (.answered (.error ⟨reason⟩), self)
    | .ok (), self => Reply.andThen (self.onIo (AuraIo.connectVerified identity)) fun
      | .error reason, self => (.answered (.error ⟨reason⟩), self)
      | .ok (), self => (.answered (.ok ()), { self with unresolved := none })

def health (self : AuraControlCore I) : Reply AuraHealth × AuraControlCore I :=
  if self.unresolved.isSome then (.answered .outcomeUnknown, self) else self.onIo AuraIo.health

/-- From the write on, the implementation cannot prove that the peer saw no byte. -/
def command (command : AuraPlayTogetherCommand) (self : AuraControlCore I) :
    Reply AuraActionResult × AuraControlCore I :=
  match self.unresolved with
  | some failure => (.answered (.outcomeUnknown failure), self)
  | none => Reply.andThen (self.onIo AuraIo.health) fun health self =>
    if health ≠ .ready then (.answered (.rejectedBeforeSend ⟨.transportNotReady⟩), self)
    else Reply.andThen (self.onIo AuraIo.prepareCommand) fun
      | .error reason, self => (.answered (.rejectedBeforeSend ⟨reason⟩), self)
      | .ok (), self => Reply.andThen (self.onIo (AuraIo.beginWrite command)) fun
        | .error reason, self => self.latchUnknown reason
        | .ok (), self => Reply.andThen (self.onIo AuraIo.waitForAck) fun
          | .ok .accepted, self => (.answered .accepted, self)
          | .ok .unexpected, self => self.latchUnknown .unexpectedAcknowledgement
          | .error reason, self => self.latchUnknown reason

def shutdown (self : AuraControlCore I) : Reply (Except AuraTransportError Unit) × AuraControlCore I :=
  Reply.andThen (self.onIo AuraIo.shutdown) fun
    | .error reason, self => (.answered (.error ⟨reason⟩), self)
    | .ok (), self => (.answered (.ok ()), { self with unresolved := none })

end AuraControlCore

/-! ## Acquisition -/

/-- The routes that end on the classic transport. -/
def IsStable (route : AuraAcquisitionRoute) : Prop := route = .stableDirect ∨ route = .a2dpWakeThenStable

/-- The route that a bearer was acquired on decides its transport. -/
def RouteFits (transport : AuraBearerTransport) (route : AuraAcquisitionRoute) : Prop :=
  transport = .brEdr ∧ IsStable route ∨ transport = .le ∧ route = .freshLe

structure RawAttBearer where
  expectedIdentity : DeviceIdentity
  transport : AuraBearerTransport
  acquisitionRoute : AuraAcquisitionRoute
  fits : RouteFits transport acquisitionRoute

class ColdConnectOps (O : Type) (Bearer : outParam Type) where
  connectStable : (route : AuraAcquisitionRoute) → IsStable route → O → Reply (Except AuraFailureReason Bearer) × O
  wakeOnce : O → Reply (Except AuraFailureReason Unit) × O
  connectLe : O → Reply (Except AuraFailureReason Bearer) × O

def rawAttRetryEligible : AuraFailureReason → Bool
  | .deviceConnectionFailed | .gattProfileInvalid | .notificationSetupFailed => true
  | _ => false

def wakeStageFailure : AuraFailureReason → Bool
  | .wakeProfileConnectFailed | .wakeFddfTimedOut | .wakeFddfInvalid | .wakeFddfUnavailable
  | .wakeProfileReleaseFailed => true
  | _ => false

section Cold
variable {O Bearer : Type} [ColdConnectOps O Bearer]

/-- The last attempt; its own failure is reported only when no earlier one says more. -/
def connectLeFallback (fallbackFailure : AuraFailureReason) (ops : O) : Reply (Except AuraFailureReason Bearer) × O :=
  Reply.andThen (ColdConnectOps.connectLe ops) fun
    | .ok bearer, ops => (.answered (.ok bearer), ops)
    | .error reason, ops =>
      if wakeStageFailure fallbackFailure then (.answered (.error fallbackFailure), ops)
      else if reason = .verifiedAdvertisementNotFound then (.answered (.error fallbackFailure), ops)
      else (.answered (.error reason), ops)

/-- A stable attempt, one wake with one more stable attempt, and then the LE path. A profile
whose release was not confirmed forbids every fallback. -/
def connectColdBearer (ops : O) : Reply (Except AuraFailureReason Bearer) × O :=
  Reply.andThen (ColdConnectOps.connectStable .stableDirect (.inl rfl) ops) fun
    | .ok bearer, ops => (.answered (.ok bearer), ops)
    | .error reason, ops =>
      if !rawAttRetryEligible reason then (.answered (.error reason), ops)
      else Reply.andThen (ColdConnectOps.wakeOnce ops) fun
        | .error .wakeProfileReleaseFailed, ops => (.answered (.error .wakeProfileReleaseFailed), ops)
        | .error reason, ops => connectLeFallback reason ops
        | .ok (), ops => Reply.andThen (ColdConnectOps.connectStable .a2dpWakeThenStable (.inr rfl) ops) fun
          | .ok bearer, ops => (.answered (.ok bearer), ops)
          | .error reason, ops =>
            if rawAttRetryEligible reason then connectLeFallback reason ops
            else (.answered (.error reason), ops)

end Cold

/-! ## The BlueZ side -/

/-- One receive on the socket: nothing there, an end or error, or a packet. -/
inductive Receive where
  | nothing
  | closed
  | packet (bytes : Bytes)
  deriving DecidableEq

/-- What BlueZ, the wake and the socket answer. -/
structure BluezScript where
  stables : List (Except AuraFailureReason Unit)
  wakes : List (Except AuraFailureReason Unit)
  les : List (Except AuraFailureReason Unit)
  polls : List (Except Unit Bool)
  receives : List Receive
  sends : List (Option Nat)

def BluezScript.ask {α : Type} (part : Lens (List α) BluezScript) (script : BluezScript) : Reply α × BluezScript :=
  let (reply, rest) := Reply.next (part.get script)
  (reply, part.set rest script)

structure NativeColdConnectOps where
  script : BluezScript
  expectedIdentity : DeviceIdentity

namespace NativeColdConnectOps

def ask {α : Type} (part : Lens (List α) BluezScript) (self : NativeColdConnectOps) : Reply α × NativeColdConnectOps :=
  let (reply, script) := self.script.ask part
  (reply, { self with script })

instance : ColdConnectOps NativeColdConnectOps RawAttBearer where
  connectStable route stable self :=
    let (reply, ops) := self.ask ⟨BluezScript.stables, fun stables script => { script with stables }⟩
    (reply.map fun result => result.map fun _ => ⟨self.expectedIdentity, .brEdr, route, .inl ⟨rfl, stable⟩⟩, ops)
  wakeOnce self := self.ask ⟨BluezScript.wakes, fun wakes script => { script with wakes }⟩
  connectLe self :=
    let (reply, ops) := self.ask ⟨BluezScript.les, fun les script => { script with les }⟩
    (reply.map fun result => result.map fun _ => ⟨self.expectedIdentity, .le, .freshLe, .inr ⟨rfl, rfl⟩⟩, ops)

end NativeColdConnectOps

structure BluezIo where
  bearer : Option RawAttBearer
  script : BluezScript

namespace BluezIo

def ask {α : Type} (part : Lens (List α) BluezScript) (self : BluezIo) : Reply α × BluezIo :=
  let (reply, script) := self.script.ask part
  (reply, { self with script })

def receive : BluezIo → Reply Receive × BluezIo :=
  ask ⟨BluezScript.receives, fun receives script => { script with receives }⟩

/-- A bearer that is no longer healthy is dropped. -/
def projectBearerHealth (observed : Except Unit Bool) (self : BluezIo) : AuraHealth × BluezIo :=
  match observed with
  | .ok true => (.ready, self)
  | .ok false => (.offline, { self with bearer := none })
  | .error () => (.unavailable, { self with bearer := none })

def health (self : BluezIo) : Reply AuraHealth × BluezIo :=
  match self.bearer with
  | none => (.answered .offline, self)
  | some _ =>
    Reply.andThen (self.ask ⟨BluezScript.polls, fun polls script => { script with polls }⟩) fun observed self =>
      let (health, self) := self.projectBearerHealth observed
      (.answered health, self)

def shutdown (self : BluezIo) : Reply (Except AuraFailureReason Unit) × BluezIo :=
  (.answered (.ok ()), { self with bearer := none })

/-- The bearer of the same identity is kept while it is healthy. -/
def reusable (identity : DeviceIdentity) (self : BluezIo) : Reply Bool × BluezIo :=
  if self.bearer.any fun bearer => bearer.expectedIdentity = identity then
    Reply.andThen self.health fun health self => (.answered (health == .ready), self)
  else (.answered false, self)

def connectCold (identity : DeviceIdentity) (self : BluezIo) : Reply (Except AuraFailureReason Unit) × BluezIo :=
  match connectColdBearer (⟨self.script, identity⟩ : NativeColdConnectOps) with
  | (.answered (.ok bearer), ops) => (.answered (.ok ()), ⟨some bearer, ops.script⟩)
  | (.answered (.error reason), ops) => (.answered (.error reason), { self with script := ops.script })
  | (.unanswered, ops) => (.unanswered, { self with script := ops.script })
  | (.unissued, ops) => (.unissued, { self with script := ops.script })

def connectVerified (identity : DeviceIdentity) (self : BluezIo) : Reply (Except AuraFailureReason Unit) × BluezIo :=
  Reply.andThen (self.reusable identity) fun reuse self =>
    if reuse then (.answered (.ok ()), self)
    else if self.bearer.isSome then
      Reply.andThen self.shutdown fun
        | .error reason, self => (.answered (.error reason), self)
        | .ok (), self => self.connectCold identity
    else self.connectCold identity

def drainRawAttPackets : Nat → BluezIo → Reply (Except AuraFailureReason Unit) × BluezIo
  | 0, self => (.answered (.error .notificationQueueInvalid), self)
  | count + 1, self => Reply.andThen self.receive fun
    | .nothing, self => (.answered (.ok ()), self)
    | .closed, self => (.answered (.error .acknowledgementChannelClosed), self)
    | .packet _, self => drainRawAttPackets count self

def prepareCommand (self : BluezIo) : Reply (Except AuraFailureReason Unit) × BluezIo :=
  match self.bearer with
  | none => (.answered (.error .transportNotReady), self)
  | some _ => drainRawAttPackets maxStaleNotifications self

/-- A write that times out, fails or is cut short is a failed write. -/
def beginWrite (command : AuraPlayTogetherCommand) (self : BluezIo) : Reply (Except AuraFailureReason Unit) × BluezIo :=
  match self.bearer with
  | none => (.answered (.error .transportNotReady), self)
  | some _ =>
    let request := attWriteCommand attAuraWriteHandle command.frame
    Reply.andThen (self.ask ⟨BluezScript.sends, fun sends script => { script with sends }⟩) fun written self =>
      (.answered (if written = some request.length then .ok () else .error .writeFailed), self)

def waitForAck (self : BluezIo) : Reply (Except AuraFailureReason AckObservation) × BluezIo :=
  match self.bearer with
  | none => (.answered (.error .acknowledgementChannelClosed), self)
  | some _ => Reply.andThen self.receive fun
    | .nothing, self => (.answered (.error .acknowledgementTimedOut), self)
    | .closed, self => (.answered (.error .acknowledgementChannelClosed), self)
    | .packet bytes, self => (.answered (.ok (observeAck bytes)), self)

end BluezIo

instance : AuraIo BluezIo where
  connectVerified := BluezIo.connectVerified
  health := BluezIo.health
  prepareCommand := BluezIo.prepareCommand
  beginWrite := BluezIo.beginWrite
  waitForAck := BluezIo.waitForAck
  shutdown := BluezIo.shutdown

structure BluezAuraTransport where
  core : AuraControlCore BluezIo

namespace BluezAuraTransport

def new (script : BluezScript) : BluezAuraTransport := ⟨⟨none, script⟩, none⟩

def onCore {α : Type} (method : AuraControlCore BluezIo → Reply α × AuraControlCore BluezIo) (self : BluezAuraTransport) :
    Reply α × BluezAuraTransport :=
  let (reply, core) := method self.core
  (reply, ⟨core⟩)

def transport (self : BluezAuraTransport) : Option AuraBearerTransport := self.core.io.bearer.map RawAttBearer.transport

def acquisitionRoute (self : BluezAuraTransport) : AuraAcquisitionRoute :=
  (self.core.io.bearer.map RawAttBearer.acquisitionRoute).getD .unresolved

instance : AuraRoleControl BluezAuraTransport where
  connectVerified identity := onCore (AuraControlCore.connectVerified identity)
  health := onCore AuraControlCore.health
  transport := transport
  acquisitionRoute := acquisitionRoute
  start := onCore (AuraControlCore.command .on)
  stop := onCore (AuraControlCore.command .off)
  shutdown := onCore AuraControlCore.shutdown

end BluezAuraTransport

end PlayTogether.Aura
