import PlayTogether.Library.Bytes
import PlayTogether.Native.Observer

/-! The broadcaster mutation over a public LE ATT bearer: a compact JSON payload inside one PL
frame. The bearer is connected and its MTU exchanged when the observer is armed, and one write
request is sent on it later. What the adapter and the speaker answer is part of the state it
runs in. -/

namespace PlayTogether.Device
open PlayTogether.Library

def supportedJblModel : String := "JBL Authentics 300"

def commandId : Nat := 7957

/-- Two bytes, the lower one first. -/
def leBytes (value : Nat) : Bytes := [(value % 256).toUInt8, (value / 256).toUInt8]

def upperHexDigit (digit : Nat) : UInt8 := if digit < 10 then 0x30 + digit.toUInt8 else 0x37 + digit.toUInt8

def upperHex (byte : UInt8) : Bytes := [upperHexDigit (byte.toNat / 16), upperHexDigit (byte.toNat % 16)]

def addressText (binary : Vector UInt8 6) : Bytes := [0x3a].intercalate (binary.toList.map upperHex)

namespace BroadcastCommand

def payloadJson : BroadcastCommand → Bytes
  | .start identity =>
    ascii "\x7b\"action\":1,\"broadcast\":\x7b\"address\":" ++ ascii "\"" ++ addressText identity.binary ++ ascii "\"," ++
      ascii "\"name\":\"" ++ ascii supportedJblModel ++ ascii "\",\"need_access_code\":false," ++
      ascii "\"status\":2,\"subgroup\":[\x7b\"active_status\":1," ++
      ascii "\"index\":0,\"is_support\":true,\"quality\":0\x7d]\x7d\x7d"
  | .stop => ascii "\x7b\"action\":2\x7d"

/-- The payload behind its command id and its length. -/
def plFrame (command : BroadcastCommand) : Bytes :=
  ascii "PL" ++ leBytes commandId ++ leBytes command.payloadJson.length ++ command.payloadJson

end BroadcastCommand

theorem addressText_length (binary : Vector UInt8 6) : (addressText binary).length = 17 := by
  obtain ⟨⟨octets⟩, size⟩ := binary
  match octets, size with
  | [first, second, third, fourth, fifth, sixth], _ => rfl

/-- Every START has the same length, whatever the identity. -/
theorem plFrame_length (command : BroadcastCommand) :
    command.plFrame.length = match command with | .start _ => 199 | .stop => 18 := by
  cases command with
  | stop => decide
  | start identity =>
    unfold BroadcastCommand.plFrame BroadcastCommand.payloadJson
    simp only [List.length_append, addressText_length]
    decide

end PlayTogether.Device

namespace PlayTogether.Native
open PlayTogether.Library PlayTogether.Device

def attFixedCid : Nat := 0x0004

def jblValueHandle : Nat := 0x002a

def requestedMtu : Nat := 500

def receiveBufferSize : Nat := 517

def maxPacketsPerAction : Nat := 32

/-- The end of a call that is awaited up to a deadline. -/
inductive Awaited (α : Type) where
  | ready (value : α)
  | failed
  | late
  deriving DecidableEq

def timeoutAt {α : Type} (failure : JblGattFailure) : Awaited α → Except JblGattFailure α
  | .ready value => .ok value
  | .failed | .late => .error failure

/-! ## Packets -/

inductive WriteResponseKind where
  | accepted
  | notification
  | rejected
  | unexpected
  deriving DecidableEq, Repr

def parseMtuResponse : Bytes → Option Nat
  | [0x03, low, high] =>
    let serverMtu := low.toNat + 256 * high.toNat
    if 23 ≤ serverMtu then some (min serverMtu requestedMtu) else none
  | _ => none

def classifyWriteResponse : Bytes → WriteResponseKind
  | [0x13] => .accepted
  | [0x01, requestOpcode, handleLow, handleHigh, _] =>
    if requestOpcode = 0x12 ∧ handleLow.toNat + 256 * handleHigh.toNat = jblValueHandle then .rejected else .unexpected
  | 0x1b :: _ => .notification
  | _ => .unexpected

def attWritePacket (frame : Bytes) (mtu : Nat) : Except JblGattFailure Bytes :=
  if frame.length > mtu - 3 then .error .frameTooLarge else .ok ([0x12] ++ leBytes jblValueHandle ++ frame)

def sendExact (payload : Bytes) (written : Awaited Nat) (failure : JblGattFailure) : Except JblGattFailure Unit := do
  let written ← timeoutAt failure written
  if written = payload.length then .ok () else .error failure

/-- A packet longer than the buffer is cut. -/
def receive (packet : Awaited Bytes) (timeoutFailure : JblGattFailure) : Except JblGattFailure Bytes :=
  match packet with
  | .ready [] | .failed => .error .channelClosed
  | .ready (byte :: rest) => .ok ((byte :: rest).take receiveBufferSize)
  | .late => .error timeoutFailure

/-! ## Connecting -/

inductive AddressType where
  | lePublic
  | leRandom
  | brEdr
  deriving DecidableEq, Repr

structure L2capSocketAddr where
  addr : Vector UInt8 6
  addrType : AddressType
  psm : Nat
  cid : Nat
  deriving DecidableEq

def publicAttSocketAddresses (localAddress targetAddress : Vector UInt8 6) : L2capSocketAddr × L2capSocketAddr :=
  (⟨localAddress, .lePublic, 0, attFixedCid⟩, ⟨targetAddress, .lePublic, 0, attFixedCid⟩)

/-- What the host answers while a bearer is connected, in the order of the calls. -/
structure ConnectAnswers where
  session : Awaited Unit
  adapter : Bool
  powered : Awaited Bool
  address : Awaited (Vector UInt8 6)
  device : Bool
  created : Bool
  bound : L2capSocketAddr → Bool
  secured : Bool
  connected : Awaited Unit
  peer : Option L2capSocketAddr
  mtuSent : Awaited Nat
  mtuResponse : Awaited Bytes

structure JblBearer where
  mtu : Nat
  deriving DecidableEq

def require (condition : Bool) (failure : JblGattFailure) : Except JblGattFailure Unit :=
  if condition then .ok () else .error failure

def connectAttSocket (answers : ConnectAnswers) (source target : L2capSocketAddr) : Except JblGattFailure Unit := do
  require answers.created .deviceConnectionFailed
  require (answers.bound source) .deviceConnectionFailed
  require answers.secured .deviceConnectionFailed
  timeoutAt .deviceConnectionFailed answers.connected
  require (answers.peer == some target) .deviceConnectionFailed

def exchangeMtu (answers : ConnectAnswers) : Except JblGattFailure Nat := do
  sendExact ([0x02] ++ leBytes requestedMtu) answers.mtuSent .mtuExchangeFailed
  let response ← receive answers.mtuResponse .mtuExchangeFailed
  match parseMtuResponse response with
  | none => .error .mtuExchangeFailed
  | some mtu => .ok mtu

def connectPublicBearer (answers : ConnectAnswers) (identity : DeviceIdentity) : Except JblGattFailure JblBearer := do
  timeoutAt .adapterUnavailable answers.session
  require answers.adapter .adapterUnavailable
  let powered ← timeoutAt .adapterUnavailable answers.powered
  require powered .adapterPoweredOff
  let localAddress ← timeoutAt .adapterUnavailable answers.address
  require answers.device .deviceConnectionFailed
  let (source, target) := publicAttSocketAddresses localAddress identity.binary
  connectAttSocket answers source target
  let mtu ← exchangeMtu answers
  pure ⟨mtu⟩

/-! ## Writing -/

structure WriteAnswers where
  written : Awaited Nat
  packets : List (Awaited Bytes)

/-- Notifications are skipped, up to a bound. -/
def waitForWriteResponse : Nat → List (Awaited Bytes) → Reply (Except JblGattFailure Unit)
  | 0, _ => .answered (.error .unexpectedResponse)
  | _ + 1, [] => .unanswered
  | packets + 1, packet :: later => match receive packet .writeResponseTimedOut with
    | .error failure => .answered (.error failure)
    | .ok response => match classifyWriteResponse response with
      | .accepted => .answered (.ok ())
      | .notification => waitForWriteResponse packets later
      | .rejected => .answered (.error .writeFailed)
      | .unexpected => .answered (.error .unexpectedResponse)

def writeAndWaitForAck (bearer : JblBearer) (command : BroadcastCommand) (script : List WriteAnswers) :
    Reply (Except JblGattFailure Unit) × List WriteAnswers :=
  match attWritePacket command.plFrame bearer.mtu with
  | .error failure => (.answered (.error failure), script)
  | .ok packet => match script with
    | [] => (.unanswered, [])
    | answers :: script => match sendExact packet answers.written .writeFailed with
      | .error failure => (.answered (.error failure), script)
      | .ok () => (waitForWriteResponse maxPacketsPerAction answers.packets, script)

/-! ## The transport -/

structure JblGattBroadcastTransport where
  bearer : Option JblBearer
  connects : List ConnectAnswers
  writes : List WriteAnswers

namespace JblGattBroadcastTransport

/-- A bearer from before is dropped first. -/
def arm (identity : DeviceIdentity) (self : JblGattBroadcastTransport) :
    Reply (Except JblGattFailure Unit) × JblGattBroadcastTransport :=
  match self.connects with
  | [] => (.unanswered, { self with bearer := none })
  | answers :: connects => match connectPublicBearer answers identity with
    | .error failure => (.answered (.error failure), { self with bearer := none, connects })
    | .ok bearer => (.answered (.ok ()), { self with bearer := some bearer, connects })

/-- The bearer is used up, whatever becomes of the write. -/
def execute (command : BroadcastCommand) (self : JblGattBroadcastTransport) :
    Reply (Except JblGattFailure Unit) × JblGattBroadcastTransport :=
  match self.bearer with
  | none => (.answered (.error .transportNotReady), self)
  | some bearer =>
    let (reply, writes) := writeAndWaitForAck bearer command self.writes
    (reply, { self with bearer := none, writes })

def cancel (self : JblGattBroadcastTransport) : Reply Unit × JblGattBroadcastTransport :=
  (.answered (), { self with bearer := none })

instance : BroadcastMutationTransport JblGattBroadcastTransport where
  armMutation := arm
  executeMutation := execute
  cancelMutation := cancel

end JblGattBroadcastTransport

/-! ## The exchanged MTU -/

/-- The MTU in a response, before the own limit is applied. -/
def announcedMtu : Bytes → Nat
  | [_, low, high] => low.toNat + 256 * high.toNat
  | _ => 0

theorem parseMtuResponse_announced {response : Bytes} {mtu : Nat} (parsed : parseMtuResponse response = some mtu) :
    response.length = 3 ∧ 23 ≤ announcedMtu response ∧ mtu = min (announcedMtu response) requestedMtu := by
  unfold parseMtuResponse at parsed
  split at parsed
  next low high =>
    dsimp only at parsed
    split at parsed
    next large => exact ⟨rfl, large, (Option.some.inj parsed).symm⟩
    next => cases parsed
  next => cases parsed

theorem attWritePacket_fits {frame : Bytes} {mtu : Nat} (large : 3 ≤ mtu) :
    (∃ packet, attWritePacket frame mtu = .ok packet) ↔ frame.length + 3 ≤ mtu := by
  unfold attWritePacket
  constructor
  · intro fits
    obtain ⟨packet, written⟩ := fits
    split at written
    next => cases written
    next small => omega
  · intro fits
    rw [if_neg (by omega)]
    exact ⟨_, rfl⟩

/-- Every START is 199 bytes long, and every STOP is shorter than the smallest MTU. -/
theorem broadcast_packet_fits {response : Bytes} {mtu : Nat} (parsed : parseMtuResponse response = some mtu)
    (command : BroadcastCommand) :
    (∃ packet, attWritePacket command.plFrame mtu = .ok packet) ↔ command = .stop ∨ 202 ≤ announcedMtu response := by
  obtain ⟨_, large, rfl⟩ := parseMtuResponse_announced parsed
  have own : requestedMtu = 500 := rfl
  rw [attWritePacket_fits (by omega), plFrame_length]
  cases command with
  | stop =>
    dsimp only
    constructor
    · intro _
      exact .inl rfl
    · intro _
      omega
  | start identity =>
    dsimp only
    constructor
    · intro fits
      exact .inr (by omega)
    · intro condition
      obtain none | enough := condition
      · cases none
      · omega

theorem connectPublicBearer_mtu {answers : ConnectAnswers} {identity : DeviceIdentity} {bearer : JblBearer}
    (connected : connectPublicBearer answers identity = .ok bearer) :
    ∃ response, answers.mtuResponse = .ready response ∧ parseMtuResponse response = some bearer.mtu := by
  unfold connectPublicBearer at connected
  obtain ⟨_, _, connected⟩ := except_bind_ok.mp connected
  obtain ⟨_, _, connected⟩ := except_bind_ok.mp connected
  obtain ⟨_, _, connected⟩ := except_bind_ok.mp connected
  obtain ⟨_, _, connected⟩ := except_bind_ok.mp connected
  obtain ⟨_, _, connected⟩ := except_bind_ok.mp connected
  obtain ⟨_, _, connected⟩ := except_bind_ok.mp connected
  obtain ⟨_, _, connected⟩ := except_bind_ok.mp connected
  obtain ⟨mtu, exchanged, connected⟩ := except_bind_ok.mp connected
  obtain rfl := Except.ok.inj connected
  unfold exchangeMtu at exchanged
  obtain ⟨_, _, exchanged⟩ := except_bind_ok.mp exchanged
  obtain ⟨response, received, exchanged⟩ := except_bind_ok.mp exchanged
  split at exchanged
  next => cases exchanged
  next found parsed =>
    obtain rfl := Except.ok.inj exchanged
    unfold receive at received
    split at received
    next => cases received
    next => cases received
    next byte rest answer =>
      obtain rfl := Except.ok.inj received
      have length := (parseMtuResponse_announced parsed).1
      have buffer : receiveBufferSize = 517 := rfl
      rw [List.length_take] at length
      rw [List.take_of_length_le (by omega)] at parsed
      exact ⟨_, answer, parsed⟩
    next => cases received

theorem sendExact_error {payload : Bytes} {written : Awaited Nat} {failure error : JblGattFailure}
    (sent : sendExact payload written failure = .error error) : error = failure := by
  cases written with
  | ready count =>
    change (if count = payload.length then .ok () else .error failure) = Except.error error at sent
    split at sent
    next => cases sent
    next => exact (Except.error.inj sent).symm
  | failed => exact (Except.error.inj sent).symm
  | late => exact (Except.error.inj sent).symm

theorem waitForWriteResponse_fits (packets : Nat) (answers : List (Awaited Bytes)) :
    waitForWriteResponse packets answers ≠ .answered (.error .frameTooLarge) := by
  induction answers generalizing packets with
  | nil =>
    cases packets with
    | zero => nofun
    | succ packets => nofun
  | cons packet later ih =>
    cases packets with
    | zero => nofun
    | succ packets =>
      unfold waitForWriteResponse
      split
      next failure received =>
        unfold receive at received
        split at received
        next => cases received; nofun
        next => cases received; nofun
        next => cases received
        next => cases received; nofun
      next =>
        split
        next => nofun
        next => exact ih packets
        next => nofun
        next => nofun

theorem writeAndWaitForAck_fits {bearer : JblBearer} {command : BroadcastCommand} {script : List WriteAnswers} :
    (writeAndWaitForAck bearer command script).1 ≠ .answered (.error .frameTooLarge) ↔
      ∃ packet, attWritePacket command.plFrame bearer.mtu = .ok packet := by
  unfold writeAndWaitForAck
  cases written : attWritePacket command.plFrame bearer.mtu with
  | error failure =>
    have large : failure = .frameTooLarge := by
      unfold attWritePacket at written
      split at written
      next => exact (Except.error.inj written).symm
      next => cases written
    simp [large]
  | ok packet =>
    simp only [Except.ok.injEq, exists_eq', iff_true]
    split
    next => nofun
    next answers later =>
      split
      next failure sent =>
        obtain rfl := sendExact_error sent
        nofun
      next => exact waitForWriteResponse_fits _ _

/-- Every frame of a command fits an exchanged MTU just when it is a STOP or the speaker
announced at least 202, and only then an armed bearer cannot fail on the frame's size. -/
theorem armed_bearer_fits_iff (command : BroadcastCommand) :
    (∀ (response : Bytes) (mtu : Nat), parseMtuResponse response = some mtu →
      ((∃ packet, attWritePacket command.plFrame mtu = .ok packet) ↔
        command = .stop ∨ 202 ≤ announcedMtu response)) ∧
    ∀ (self after : JblGattBroadcastTransport) (identity : DeviceIdentity) (answers : ConnectAnswers)
      (connects : List ConnectAnswers), self.connects = answers :: connects →
      self.arm identity = (.answered (.ok ()), after) →
      ∃ response, answers.mtuResponse = .ready response ∧
        ((after.execute command).1 ≠ .answered (.error .frameTooLarge) ↔
          command = .stop ∨ 202 ≤ announcedMtu response) := by
  constructor
  · intro response mtu parsed
    exact broadcast_packet_fits parsed command
  · intro self after identity answers connects script armed
    unfold JblGattBroadcastTransport.arm at armed
    rw [script] at armed
    dsimp only at armed
    cases connected : connectPublicBearer answers identity with
    | error failure =>
      rw [connected] at armed
      cases armed
    | ok bearer =>
      rw [connected] at armed
      cases armed
      obtain ⟨response, answer, parsed⟩ := connectPublicBearer_mtu connected
      refine ⟨response, answer, ?_⟩
      rw [← broadcast_packet_fits parsed command, ← writeAndWaitForAck_fits]
      rfl

/-- A speaker that takes every call and announces an MTU. -/
def agreeableAnswers (identity : DeviceIdentity) (low high : UInt8) : ConnectAnswers where
  session := .ready ()
  adapter := true
  powered := .ready true
  address := .ready #v[2, 0, 0, 0, 0, 9]
  device := true
  created := true
  bound _ := true
  secured := true
  connected := .ready ()
  peer := some ⟨identity.binary, .lePublic, 0, attFixedCid⟩
  mtuSent := .ready 3
  mtuResponse := .ready [0x03, low, high]

theorem large_mtu_fits_start : ∃ after,
    (⟨none, [agreeableAnswers fixtureJblIdentity 0xf4 0x01], []⟩ : JblGattBroadcastTransport).arm fixtureJblIdentity =
      (.answered (.ok ()), after) ∧
    (∃ packet, attWritePacket (BroadcastCommand.start fixtureJblIdentity).plFrame 500 = .ok packet) ∧
    (after.execute (.start fixtureJblIdentity)).1 ≠ .answered (.error .frameTooLarge) := by
  have parsed : parseMtuResponse [0x03, 0xf4, 0x01] = some 500 := by decide
  have fits := ((armed_bearer_fits_iff (.start fixtureJblIdentity)).1 [0x03, 0xf4, 0x01] 500 parsed).mpr
    (.inr (by decide))
  obtain ⟨response, answer, executes⟩ := (armed_bearer_fits_iff (.start fixtureJblIdentity)).2
    ⟨none, [agreeableAnswers fixtureJblIdentity 0xf4 0x01], []⟩ _ fixtureJblIdentity _ [] rfl rfl
  obtain rfl := Awaited.ready.inj answer
  exact ⟨_, rfl, fits, executes.mpr (.inr (by decide))⟩

/-- The smallest MTU of the protocol is accepted, and START does not fit it. -/
theorem small_mtu_passes_the_gate :
    ¬∀ (response : Bytes) (mtu : Nat) (command : BroadcastCommand), parseMtuResponse response = some mtu →
      ∃ packet, attWritePacket command.plFrame mtu = .ok packet := by
  intro claim
  have parsed : parseMtuResponse [0x03, 23, 0] = some 23 := by decide
  obtain ⟨packet, written⟩ := claim [0x03, 23, 0] 23 (.start fixtureJblIdentity) parsed
  rw [attWritePacket, plFrame_length, if_pos (by decide)] at written
  cases written

end PlayTogether.Native
