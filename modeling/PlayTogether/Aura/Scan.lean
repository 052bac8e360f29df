import PlayTogether.Device.Vocabulary
import PlayTogether.Library.Bytes
import PlayTogether.Library.Followed
import PlayTogether.Library.Proc

/-! The scan for a fresh advertisement of the speaker. What BlueZ has cached of an object that
was there before the scan proves nothing about its presence now. -/

namespace PlayTogether.Aura
open PlayTogether.Library PlayTogether.Device

/-! ## The advertisement -/

def harmanFddfUuid : Bytes := ascii "0000fddf-0000-1000-8000-00805f9b34fb"

def auraStudio5Pid : Bytes := [0x2d, 0x21]

def stableIdentityOffset : Nat := 11

def stableIdentityEnd : Nat := stableIdentityOffset + 6

def matchesBinary (identity : DeviceIdentity) (candidate : Bytes) : Bool := candidate == identity.binary.toList

def matchesVerifiedFddf (serviceUuid payload : Bytes) (expectedIdentity : DeviceIdentity) : Bool :=
  eqIgnoreAsciiCase serviceUuid harmanFddfUuid && stableIdentityEnd ≤ payload.length &&
    payload.take 2 == auraStudio5Pid &&
    matchesBinary expectedIdentity ((payload.take stableIdentityEnd).drop stableIdentityOffset)

/-- Bluetooth device addresses. -/
abbrev Address : Type := Vector UInt8 6

abbrev Uuid : Type := BitVec 128

/-- The service both callers scan for. -/
def harmanFddf : Uuid := 0x0000fddf00001000800000805f9b34fb

inductive AddressType where
  | leRandom
  | lePublic
  | brEdr
  deriving DecidableEq, Repr

/-- Payloads by service. -/
abbrev ServiceData : Type := List (Uuid × Bytes)

/-- A changed property of a device. Only service data is told apart. -/
inductive DeviceProperty where
  | serviceData (map : ServiceData)
  | other

inductive FreshAdvertisementEvidence where
  | knownDeviceProperty (property : DeviceProperty)
  | newObjectCurrentServiceData (map : Option ServiceData)

def verifiedScanAdvertisement (addressType : AddressType) (fddfPayload : Bytes) (expectedIdentity : DeviceIdentity) :
    Bool :=
  addressType == .leRandom && matchesVerifiedFddf harmanFddfUuid fddfPayload expectedIdentity

def FreshAdvertisementEvidence.map : FreshAdvertisementEvidence → Option ServiceData
  | .knownDeviceProperty (.serviceData map) => some map
  | .knownDeviceProperty .other => none
  | .newObjectCurrentServiceData map => map

def reduceFreshAdvertisement (evidence : FreshAdvertisementEvidence) (addressType : AddressType) (serviceUuid : Uuid)
    (expectedIdentity : DeviceIdentity) : Bool :=
  match evidence.map with
  | none => false
  | some serviceData => match serviceData.lookup serviceUuid with
    | none => false
    | some payload => verifiedScanAdvertisement addressType payload expectedIdentity

/-! ## The scan -/

inductive AdapterEvent where
  | deviceAdded (address : Address)
  | deviceRemoved (address : Address)
  | propertyChanged

/-- What one turn of the scan waits for, with this many streams of device events. A stream that
ends is dropped. -/
inductive Selected (streams : Nat) where
  | deadline
  | adapter (event : Option AdapterEvent)
  | device (stream : Fin streams) (property : DeviceProperty)
  | ended (stream : Fin streams)

class ScanBluez (B : Type) where
  device : Address → B → Reply (Except Unit Unit) × B
  events : Address → B → Reply (Except Unit Unit) × B
  discoverDevices : B → Reply (Except Unit Unit) × B
  select : (streams : Nat) → B → Reply (Selected streams) × B
  addressType : Address → B → Reply (Except Unit AddressType) × B
  serviceData : Address → B → Reply (Except Unit (Option ServiceData)) × B

/-- What a turn has seen, with the address its stream belongs to. -/
inductive Turn where
  | deadline
  | adapter (event : Option AdapterEvent)
  | device (address : Address) (property : DeviceProperty)
  | ended (address : Address)

def Selected.turn (streams : List Address) : Selected streams.length → Turn
  | .deadline => .deadline
  | .adapter event => .adapter event
  | .device stream property => .device (streams.get stream) property
  | .ended stream => .ended (streams.get stream)

/-- The calls of a scan, each with its answer when it came. -/
inductive ScanEvent where
  | device (address : Address) (reply : Option (Except Unit Unit))
  | events (address : Address) (reply : Option (Except Unit Unit))
  | discoverDevices (reply : Option (Except Unit Unit))
  | turn (reply : Option Turn)
  | addressType (address : Address) (reply : Option (Except Unit AddressType))
  | serviceData (address : Address) (reply : Option (Except Unit (Option ServiceData)))

structure Scan (B : Type) where
  bluez : B
  preexisting : List Address
  subscribed : List Address
  deviceEvents : List Address

namespace Scan
variable {B : Type} [ScanBluez B]

def bluezField : Lens B (Scan B) := ⟨bluez, fun bluez scan => { scan with bluez }⟩

def subscribeDeviceEvents (address : Address) : Proc ScanEvent (Scan B) (Except AuraFailureReason Unit) := do
  match ← Proc.call bluezField (ScanBluez.events address) (.events address) with
  | .error _ => pure (.error .discoveryUnavailable)
  | .ok () => pure (.ok ())

/-- Subscribe to a device and keep its stream. -/
def watch (address : Address) : Proc ScanEvent (Scan B) Bool := do
  match ← Proc.call bluezField (ScanBluez.device address) (.device address) with
  | .error _ => pure false
  | .ok () => match ← subscribeDeviceEvents address with
    | .error _ => pure false
    | .ok () =>
      Proc.modify fun scan => { scan with
        subscribed := address :: scan.subscribed
        deviceEvents := scan.deviceEvents ++ [address] }
      pure true

def watchAll : List Address → Proc ScanEvent (Scan B) Unit
  | [] => pure ()
  | address :: rest => do
    let _ ← watch address
    watchAll rest

/-- An object of the snapshot is only subscribed to. A new one may show its first service data. -/
def deviceAdded (serviceUuid : Uuid) (expectedIdentity : DeviceIdentity) (address : Address) :
    Proc ScanEvent (Scan B) Bool := do
  let scan ← Proc.get
  if scan.preexisting.contains address then
    if !scan.subscribed.contains address then
      let _ ← watch address
      pure false
    else pure false
  else if scan.subscribed.contains address then pure false
  else
    match ← watch address with
    | false => pure false
    | true => match ← Proc.call bluezField (ScanBluez.addressType address) (.addressType address) with
      | .error _ => pure false
      | .ok addressType => match ← Proc.call bluezField (ScanBluez.serviceData address) (.serviceData address) with
        | .error _ => pure false
        | .ok serviceData =>
          pure (reduceFreshAdvertisement (.newObjectCurrentServiceData serviceData) addressType serviceUuid
            expectedIdentity)

/-- The map of this very event is the only evidence for a known object. -/
def deviceChanged (serviceUuid : Uuid) (expectedIdentity : DeviceIdentity) (address : Address) :
    DeviceProperty → Proc ScanEvent (Scan B) Bool
  | .other => pure false
  | .serviceData map => do
    match ← Proc.call bluezField (ScanBluez.device address) (.device address) with
    | .error _ => pure false
    | .ok () => match ← Proc.call bluezField (ScanBluez.addressType address) (.addressType address) with
      | .error _ => pure false
      | .ok addressType =>
        pure (reduceFreshAdvertisement (.knownDeviceProperty (.serviceData map)) addressType serviceUuid
          expectedIdentity)

/-- One turn of the loop, with the result when the scan ends there. -/
def scanTurn (serviceUuid : Uuid) (expectedIdentity : DeviceIdentity) :
    Proc ScanEvent (Scan B) (Option (Except AuraFailureReason (Option Address))) := do
  let scan ← Proc.get
  match ← Proc.call bluezField (ScanBluez.select scan.deviceEvents.length)
      fun reply => .turn (reply.map (Selected.turn scan.deviceEvents)) with
  | .deadline => pure (some (.ok none))
  | .adapter none => pure (some (.error .discoveryUnavailable))
  | .adapter (some (.deviceRemoved address)) =>
    Proc.modify fun scan => { scan with
      preexisting := scan.preexisting.filter (· != address)
      subscribed := scan.subscribed.filter (· != address) }
    pure none
  | .adapter (some .propertyChanged) => pure none
  | .adapter (some (.deviceAdded address)) =>
    match ← deviceAdded serviceUuid expectedIdentity address with
    | true => pure (some (.ok (some address)))
    | false => pure none
  | .device stream property =>
    match ← deviceChanged serviceUuid expectedIdentity (scan.deviceEvents.get stream) property with
    | true => pure (some (.ok (some (scan.deviceEvents.get stream))))
    | false => pure none
  | .ended stream =>
    Proc.modify fun scan => { scan with deviceEvents := scan.deviceEvents.eraseIdx stream }
    pure none

/-- The loop with so many turns. One that has not ended by then is still running. -/
def scanLoop (serviceUuid : Uuid) (expectedIdentity : DeviceIdentity) :
    Nat → Proc ScanEvent (Scan B) (Except AuraFailureReason (Option Address))
  | 0 => fun scan => ⟨[], scan, none⟩
  | turns + 1 => do
    match ← scanTurn serviceUuid expectedIdentity with
    | some result => pure result
    | none => scanLoop serviceUuid expectedIdentity turns

end Scan

/-- The snapshot stands in the order in which it is gone through. -/
def scanOnce {B : Type} [ScanBluez B] (known : List Address) (serviceUuid : Uuid) (expectedIdentity : DeviceIdentity)
    (turns : Nat) (bluez : B) : Exec ScanEvent (Scan B) (Except AuraFailureReason (Option Address)) :=
  (do
    Scan.watchAll known
    match ← Proc.call Scan.bluezField ScanBluez.discoverDevices .discoverDevices with
    | .error _ => pure (.error .discoveryUnavailable)
    | .ok () => Scan.scanLoop serviceUuid expectedIdentity turns :
    Proc ScanEvent (Scan B) (Except AuraFailureReason (Option Address))) ⟨bluez, known, [], []⟩

/-! ## What is evidence -/

/-- The payload names the product and the expected identity at their offsets. -/
def Advertises (identity : DeviceIdentity) (payload : Bytes) : Prop :=
  payload.take 2 = auraStudio5Pid ∧ (payload.drop stableIdentityOffset).take 6 = identity.binary.toList

theorem matchesVerifiedFddf_iff (payload : Bytes) (identity : DeviceIdentity) :
    matchesVerifiedFddf harmanFddfUuid payload identity = true ↔ Advertises identity payload := by
  have window : (payload.take stableIdentityEnd).drop stableIdentityOffset =
      (payload.drop stableIdentityOffset).take 6 := List.drop_take ..
  have name : eqIgnoreAsciiCase harmanFddfUuid harmanFddfUuid = true := beq_self_eq_true _
  rw [matchesVerifiedFddf, matchesBinary, window, name, Bool.true_and, Bool.and_eq_true, Bool.and_eq_true,
    decide_eq_true_eq, beq_iff_eq, beq_iff_eq]
  constructor
  · exact fun matched => ⟨matched.1.2, matched.2⟩
  · intro advertises
    refine ⟨⟨?_, advertises.1⟩, advertises.2⟩
    have length := congrArg List.length advertises.2
    rw [List.length_take, List.length_drop, Vector.length_toList] at length
    unfold stableIdentityEnd stableIdentityOffset at *
    omega

theorem reduceFreshAdvertisement_iff {evidence : FreshAdvertisementEvidence} {addressType : AddressType}
    {serviceUuid : Uuid} {identity : DeviceIdentity} :
    reduceFreshAdvertisement evidence addressType serviceUuid identity = true ↔
      addressType = .leRandom ∧ ∃ map payload, evidence.map = some map ∧ map.lookup serviceUuid = some payload ∧
        Advertises identity payload := by
  unfold reduceFreshAdvertisement verifiedScanAdvertisement
  cases evidence.map with
  | none => simp
  | some map =>
    cases entry : map.lookup serviceUuid with
    | none => simp [entry]
    | some payload => simp [entry, matchesVerifiedFddf_iff]

namespace ScanEvent

def addition (address : Address) : ScanEvent := .turn (some (.adapter (some (.deviceAdded address))))

def removal (address : Address) : ScanEvent := .turn (some (.adapter (some (.deviceRemoved address))))

def found (address : Address) : ScanEvent := .device address (some (.ok ()))

def subscription (address : Address) : ScanEvent := .events address (some (.ok ()))

def isRandom (address : Address) : ScanEvent := .addressType address (some (.ok .leRandom))

end ScanEvent

section Evidence
variable (known : List Address) (serviceUuid : Uuid) (identity : DeviceIdentity) (address : Address)

/-- A change that its own subscription has carried. -/
inductive Notified : List ScanEvent → Prop where
  | change {before : List ScanEvent} {map : ServiceData} {payload : Bytes}
      (own : ScanEvent.subscription address ∈ before) (entry : map.lookup serviceUuid = some payload)
      (advertises : Advertises identity payload) :
      Notified (before ++ [.turn (some (.device address (.serviceData map))), .found address, .isRandom address])

/-- The first data of an object that came up in this scan, read behind the first subscription
to it. -/
inductive Appeared : List ScanEvent → Prop where
  | object {before : List ScanEvent} {map : ServiceData} {payload : Bytes}
      (absent : address ∉ known ∨ ScanEvent.removal address ∈ before)
      (first : ¬Pending (· = ScanEvent.subscription address) (· = ScanEvent.removal address) before)
      (entry : map.lookup serviceUuid = some payload) (advertises : Advertises identity payload) :
      Appeared (before ++ [.addition address, .found address, .subscription address, .isRandom address,
        .serviceData address (some (.ok (some map)))])

def Fresh (history : List ScanEvent) : Prop :=
  Notified serviceUuid identity address history ∨ Appeared known serviceUuid identity address history

end Evidence

theorem Appeared.absent {known : List Address} {serviceUuid : Uuid} {identity : DeviceIdentity} {address : Address}
    {history : List ScanEvent} (appeared : Appeared known serviceUuid identity address history) :
    address ∉ known ∨ ScanEvent.removal address ∈ history := by
  cases appeared with
  | object absent first entry advertises => exact absent.imp_right (List.mem_append_left _)

/-! ## What a scan has tracked -/

/-- The two sets against all that was seen. -/
structure Tracked {B : Type} (known : List Address) (past : List ScanEvent) (scan : Scan B) : Prop where
  preexisting : ∀ address, address ∉ scan.preexisting → address ∉ known ∨ ScanEvent.removal address ∈ past
  subscribed : ∀ address, Pending (· = ScanEvent.subscription address) (· = ScanEvent.removal address) past →
    address ∈ scan.subscribed
  streams : ∀ address ∈ scan.deviceEvents, ScanEvent.subscription address ∈ past

namespace Tracked
variable {B : Type} {known : List Address} {past : List ScanEvent} {scan : Scan B}

theorem start (known : List Address) (bluez : B) : Tracked known [] ⟨bluez, known, [], []⟩ :=
  ⟨fun _ absent => .inl absent, fun _ pending => absurd pending not_pending_nil, nofun⟩

theorem event (tracked : Tracked known past scan) {event : ScanEvent}
    (quiet : ∀ address, event ≠ .subscription address) : Tracked known (past ++ [event]) scan := by
  refine ⟨fun address absent => ?_, fun address pending => ?_, fun address member => ?_⟩
  · exact (tracked.preexisting address absent).imp_right (List.mem_append_left _)
  · obtain same | ⟨pending, _⟩ := pending_snoc pending
    · exact absurd same (quiet address)
    · exact tracked.subscribed address pending
  · exact List.mem_append_left _ (tracked.streams address member)

theorem removed (tracked : Tracked known past scan) (address : Address) :
    Tracked known (past ++ [.removal address]) { scan with
      preexisting := scan.preexisting.filter (· != address)
      subscribed := scan.subscribed.filter (· != address) } := by
  refine ⟨fun other absent => ?_, fun other pending => ?_, fun other member => ?_⟩
  · by_cases same : other = address
    · subst same
      exact .inr (List.mem_append_right _ (List.mem_singleton_self _))
    · have absent : other ∉ scan.preexisting := fun member =>
        absent (List.mem_filter.mpr ⟨member, bne_iff_ne.mpr same⟩)
      exact (tracked.preexisting other absent).imp_right (List.mem_append_left _)
  · obtain same | ⟨pending, kept⟩ := pending_snoc pending
    · cases same
    · refine List.mem_filter.mpr ⟨tracked.subscribed other pending, bne_iff_ne.mpr fun same => ?_⟩
      exact kept (same ▸ rfl)
  · exact List.mem_append_left _ (tracked.streams other member)

theorem watched (tracked : Tracked known past scan) (address : Address) :
    Tracked known (past ++ [.subscription address]) { scan with
      subscribed := address :: scan.subscribed
      deviceEvents := scan.deviceEvents ++ [address] } := by
  refine ⟨fun other absent => ?_, fun other pending => ?_, fun other member => ?_⟩
  · exact (tracked.preexisting other absent).imp_right (List.mem_append_left _)
  · obtain same | ⟨pending, _⟩ := pending_snoc pending
    · cases same
      exact List.mem_cons_self
    · exact List.mem_cons_of_mem _ (tracked.subscribed other pending)
  · obtain inside | new := List.mem_append.mp member
    · exact List.mem_append_left _ (tracked.streams other inside)
    · obtain rfl := List.mem_singleton.mp new
      exact List.mem_append_right _ (List.mem_singleton_self _)

theorem ended (tracked : Tracked known past scan) (stream : Nat) :
    Tracked known past { scan with deviceEvents := scan.deviceEvents.eraseIdx stream } :=
  ⟨tracked.preexisting, tracked.subscribed, fun address member =>
    tracked.streams address (List.mem_of_mem_eraseIdx member)⟩

theorem bluez (tracked : Tracked known past scan) (bluez : B) : Tracked known past { scan with bluez } :=
  ⟨tracked.preexisting, tracked.subscribed, tracked.streams⟩

/-- A call that is no subscription changes neither set. -/
theorem call (tracked : Tracked known past scan) (bluez : B) (event : ScanEvent)
    (quiet : ∀ address, event ≠ .subscription address) : Tracked known (past ++ [event]) { scan with bluez } :=
  (tracked.bluez bluez).event quiet

end Tracked

namespace Scan
variable {B : Type} [ScanBluez B] {known : List Address} {past : List ScanEvent} {scan : Scan B}

theorem subscribeDeviceEvents_yields (tracked : Tracked known past scan) (address : Address) :
    Yields (fun trace scan' result => (∃ bluez, scan' = { scan with bluez }) ∧
      (result = .ok () → trace = [.subscription address]) ∧
      ∀ reason, result = .error reason → Tracked known (past ++ trace) scan') (subscribeDeviceEvents address) scan := by
  refine yields_call fun reply bluez _ => ?_
  cases reply with
  | error _ =>
    exact yields_pure ⟨⟨bluez, rfl⟩, nofun, fun _ _ => tracked.call bluez (.events address (some (.error ()))) nofun⟩
  | ok _ => exact yields_pure ⟨⟨bluez, rfl⟩, fun _ => rfl, nofun⟩

theorem watch_yields (tracked : Tracked known past scan) (address : Address) :
    Yields (fun trace scan' watched => Tracked known (past ++ trace) scan' ∧
      (watched = true → trace = [.found address, .subscription address])) (watch address) scan := by
  refine yields_call fun found bluez _ => ?_
  have looked := tracked.call bluez (.device address (some found)) nofun
  cases found with
  | error _ => exact yields_pure ⟨looked, nofun⟩
  | ok _ =>
    refine yields_bind (subscribeDeviceEvents_yields looked address) fun trace scan' result reached => ?_
    obtain ⟨⟨bluez', rfl⟩, subscribed, failed⟩ := reached
    cases result with
    | error reason =>
      refine yields_pure ⟨?_, nofun⟩
      rw [List.append_nil, List.append_cons]
      exact failed reason rfl
    | ok _ =>
      refine yields_modify (yields_pure ⟨?_, fun _ => ?_⟩)
      · rw [List.append_nil, List.append_cons, subscribed rfl]
        exact (looked.bluez bluez').watched address
      · rw [subscribed rfl]
        rfl

theorem watchAll_yields (addresses : List Address) (tracked : Tracked known past scan) :
    Yields (fun trace scan' _ => Tracked known (past ++ trace) scan') (watchAll addresses) scan := by
  induction addresses generalizing past scan with
  | nil =>
    refine yields_pure ?_
    rwa [List.append_nil]
  | cons address rest ih =>
    refine yields_bind (watch_yields tracked address) fun trace scan' _ reached => ?_
    refine yields_weaken (ih reached.1) fun later scan'' _ tracked => ?_
    rwa [← List.append_assoc]

theorem deviceAdded_yields (serviceUuid : Uuid) (identity : DeviceIdentity) (tracked : Tracked known past scan)
    (address : Address) :
    Yields (fun trace scan' matched => Tracked known (past ++ trace) scan' ∧ (matched = true →
      address ∉ scan.preexisting ∧ address ∉ scan.subscribed ∧ ∃ map payload,
        trace = [.found address, .subscription address, .isRandom address,
          .serviceData address (some (.ok (some map)))] ∧
        map.lookup serviceUuid = some payload ∧ Advertises identity payload))
      (deviceAdded serviceUuid identity address) scan := by
  have unchanged : Tracked known (past ++ []) scan := by rwa [List.append_nil]
  refine yields_get ?_
  split
  · split
    · refine yields_bind (watch_yields tracked address) fun trace scan' _ reached => yields_pure ⟨?_, nofun⟩
      rw [List.append_nil]
      exact reached.1
    · exact yields_pure ⟨unchanged, nofun⟩
  next outside =>
    split
    · exact yields_pure ⟨unchanged, nofun⟩
    next unsubscribed =>
      refine yields_bind (watch_yields tracked address) fun trace scan' watched reached => ?_
      obtain ⟨tracked, subscribed⟩ := reached
      cases watched with
      | false =>
        refine yields_pure ⟨?_, nofun⟩
        rwa [List.append_nil]
      | true =>
        obtain rfl := subscribed rfl
        refine yields_call fun kind bluez _ => ?_
        have typed := tracked.call bluez (.addressType address (some kind)) nofun
        rw [List.append_assoc] at typed
        cases kind with
        | error _ => exact yields_pure ⟨typed, nofun⟩
        | ok kind =>
          refine yields_call fun data bluez' _ => ?_
          have read := typed.call bluez' (.serviceData address (some data)) nofun
          rw [List.append_assoc] at read
          cases data with
          | error _ => exact yields_pure ⟨read, nofun⟩
          | ok data =>
            refine yields_pure ⟨read, fun matched => ?_⟩
            obtain ⟨rfl, map, payload, rfl, entry, advertises⟩ := reduceFreshAdvertisement_iff.mp matched
            refine ⟨fun member => outside ?_, fun member => unsubscribed ?_, map, payload, rfl, entry, advertises⟩
            · exact List.contains_iff_mem.mpr member
            · exact List.contains_iff_mem.mpr member

theorem deviceChanged_yields (serviceUuid : Uuid) (identity : DeviceIdentity) (tracked : Tracked known past scan)
    (address : Address) (property : DeviceProperty) :
    Yields (fun trace scan' matched => Tracked known (past ++ trace) scan' ∧ (matched = true → ∃ map payload,
      property = .serviceData map ∧ trace = [.found address, .isRandom address] ∧
        map.lookup serviceUuid = some payload ∧ Advertises identity payload))
      (deviceChanged serviceUuid identity address property) scan := by
  cases property with
  | other =>
    refine yields_pure ⟨?_, nofun⟩
    rwa [List.append_nil]
  | serviceData map =>
    refine yields_call fun found bluez _ => ?_
    have looked := tracked.call bluez (.device address (some found)) nofun
    cases found with
    | error _ => exact yields_pure ⟨looked, nofun⟩
    | ok _ =>
      refine yields_call fun kind bluez' _ => ?_
      have typed := looked.call bluez' (.addressType address (some kind)) nofun
      rw [List.append_assoc] at typed
      cases kind with
      | error _ => exact yields_pure ⟨typed, nofun⟩
      | ok kind =>
        refine yields_pure ⟨typed, fun matched => ?_⟩
        obtain ⟨rfl, map, payload, same, entry, advertises⟩ := reduceFreshAdvertisement_iff.mp matched
        obtain rfl := Option.some.inj same
        exact ⟨_, payload, rfl, rfl, entry, advertises⟩

/-- A turn goes on with both sets tracked, or ends the scan with evidence for what it returns. -/
theorem scanTurn_yields (serviceUuid : Uuid) (identity : DeviceIdentity) (tracked : Tracked known past scan) :
    Yields (fun trace scan' result => (result = none → Tracked known (past ++ trace) scan') ∧
      ∀ address, result = some (.ok (some address)) → Fresh known serviceUuid identity address (past ++ trace))
      (scanTurn serviceUuid identity) scan := by
  refine yields_get (yields_call fun selected bluez _ => ?_)
  have quiet (other : Address) :
      ScanEvent.turn (some (selected.turn scan.deviceEvents)) ≠ .subscription other := nofun
  have seen := (tracked.bluez bluez).event quiet
  rcases selected with _ | (_ | address | address | _) | ⟨stream, property⟩ | stream
  · exact yields_pure ⟨nofun, nofun⟩
  · exact yields_pure ⟨nofun, nofun⟩
  · refine yields_bind (deviceAdded_yields serviceUuid identity seen address) fun trace scan' matched reached => ?_
    obtain ⟨kept, evidence⟩ := reached
    cases matched with
    | false =>
      refine yields_pure ⟨fun _ => ?_, nofun⟩
      rwa [List.append_nil, List.append_cons]
    | true =>
      refine yields_pure ⟨nofun, fun other same => .inr ?_⟩
      cases same
      obtain ⟨outside, unsubscribed, map, payload, rfl, entry, advertises⟩ := evidence rfl
      have first := fun pending => unsubscribed (tracked.subscribed address pending)
      exact .object (tracked.preexisting address outside) first entry advertises
  · exact yields_modify (yields_pure ⟨fun _ => (tracked.bluez bluez).removed address, nofun⟩)
  · exact yields_pure ⟨fun _ => seen, nofun⟩
  · refine yields_bind (deviceChanged_yields serviceUuid identity seen (scan.deviceEvents.get stream) property)
      fun trace scan' matched reached => ?_
    obtain ⟨kept, evidence⟩ := reached
    cases matched with
    | false =>
      refine yields_pure ⟨fun _ => ?_, nofun⟩
      rwa [List.append_nil, List.append_cons]
    | true =>
      refine yields_pure ⟨nofun, fun other same => .inl ?_⟩
      cases same
      obtain ⟨map, payload, rfl, rfl, entry, advertises⟩ := evidence rfl
      exact .change (tracked.streams _ (List.get_mem _ stream)) entry advertises
  · exact yields_modify (yields_pure ⟨fun _ => seen.ended stream, nofun⟩)

theorem scanLoop_yields (serviceUuid : Uuid) (identity : DeviceIdentity) (turns : Nat)
    (tracked : Tracked known past scan) :
    Yields (fun trace _ result => ∀ address, result = .ok (some address) →
      Fresh known serviceUuid identity address (past ++ trace)) (scanLoop serviceUuid identity turns) scan := by
  induction turns generalizing past scan with
  | zero => nofun
  | succ turns ih =>
    refine yields_bind (scanTurn_yields serviceUuid identity tracked) fun trace scan' result reached => ?_
    obtain ⟨kept, evidence⟩ := reached
    cases result with
    | none =>
      refine yields_weaken (ih (kept rfl)) fun later _ result holds => ?_
      rwa [← List.append_assoc]
    | some result =>
      refine yields_pure fun address same => ?_
      rw [List.append_nil]
      exact evidence address (congrArg some same)

end Scan

/-- A scan returns a device only behind evidence of this scan. An object of the snapshot that was
not removed is returned for a change of its own only. -/
theorem scan_returns_fresh_device {B : Type} [ScanBluez B] (known : List Address) (serviceUuid : Uuid)
    (identity : DeviceIdentity) (turns : Nat) (bluez : B) (address : Address)
    (returned : (scanOnce known serviceUuid identity turns bluez).out = some (.ok (some address))) :
    let history := (scanOnce known serviceUuid identity turns bluez).trace
    Fresh known serviceUuid identity address history ∧
      (address ∈ known → ScanEvent.removal address ∉ history → Notified serviceUuid identity address history) := by
  intro history
  have fresh : Fresh known serviceUuid identity address history := by
    have scanned : Yields (fun trace _ result => ∀ address, result = .ok (some address) →
        Fresh known serviceUuid identity address trace)
        (do
          Scan.watchAll known
          match ← Proc.call Scan.bluezField ScanBluez.discoverDevices .discoverDevices with
          | .error _ => pure (.error .discoveryUnavailable)
          | .ok () => Scan.scanLoop serviceUuid identity turns) (⟨bluez, known, [], []⟩ : Scan B) := by
      refine yields_bind (Scan.watchAll_yields known (.start known bluez)) fun trace scan' _ tracked => ?_
      refine yields_call fun discovery bluez' _ => ?_
      cases discovery with
      | error _ => exact yields_pure nofun
      | ok _ =>
        have started := tracked.call bluez' (.discoverDevices (some (.ok ()))) nofun
        refine yields_weaken (Scan.scanLoop_yields serviceUuid identity turns started) fun later _ result holds => ?_
        rwa [List.nil_append, List.append_assoc] at holds
    exact scanned _ returned address rfl
  refine ⟨fresh, fun member kept => ?_⟩
  obtain notified | appeared := fresh
  · exact notified
  · obtain absent | removed := appeared.absent
    · exact absurd member absent
    · exact absurd removed kept

def fixtureSpeaker : Address := #v[0x40, 0x11, 0x22, 0x33, 0x44, 0x55]

def fixtureIdentity : DeviceIdentity := ⟨#v[0x02, 0, 0, 0, 0, 0x07], by decide, by decide⟩

def fixturePayload : Bytes := [0x2d, 0x21, 0, 0, 0, 0, 0, 0, 0, 0, 0, 0x02, 0, 0, 0, 0, 0x07, 0]

/-- The device of the snapshot is replayed first, and only then heard. -/
structure ReplayingBluez where
  replayed : Bool

instance : ScanBluez ReplayingBluez where
  device _ bluez := (.answered (.ok ()), bluez)
  events _ bluez := (.answered (.ok ()), bluez)
  discoverDevices bluez := (.answered (.ok ()), bluez)
  select streams bluez := match bluez.replayed, streams with
    | false, _ => (.answered (.adapter (some (.deviceAdded fixtureSpeaker))), ⟨true⟩)
    | true, 0 => (.answered .deadline, bluez)
    | true, _ + 1 => (.answered (.device 0 (.serviceData [(harmanFddf, fixturePayload)])), bluez)
  addressType _ bluez := (.answered (.ok .leRandom), bluez)
  serviceData _ bluez := (.answered (.ok (some [(harmanFddf, fixturePayload)])), bluez)

theorem replayed_device_is_heard :
    (scanOnce [fixtureSpeaker] harmanFddf fixtureIdentity 2 (⟨false⟩ : ReplayingBluez)).out =
        some (.ok (some fixtureSpeaker)) ∧
      Fresh [fixtureSpeaker] harmanFddf fixtureIdentity fixtureSpeaker
        (scanOnce [fixtureSpeaker] harmanFddf fixtureIdentity 2 (⟨false⟩ : ReplayingBluez)).trace := by
  have returned : (scanOnce [fixtureSpeaker] harmanFddf fixtureIdentity 2 (⟨false⟩ : ReplayingBluez)).out =
      some (.ok (some fixtureSpeaker)) := by rfl
  exact ⟨returned, (scan_returns_fresh_device _ _ _ _ _ _ returned).1⟩

end PlayTogether.Aura
