import PlayTogether.Aura.Bearer
import PlayTogether.Library.Followed
import PlayTogether.Native.Observer

/-! The wake of a sleeping speaker through its A2DP profile, and the cold connection that uses
it at most once. A profile that may still be connected forbids every further attempt. -/

namespace PlayTogether.Aura
open PlayTogether.Library PlayTogether.Device PlayTogether.Pair PlayTogether.Native

def a2dpSinkProfileUuid : String := "0000110b-0000-1000-8000-00805f9b34fb"

def auraStudio5ProductId : Nat := 0x212d

/-! ## Vocabulary -/

inductive AuraWakeIoFailure where
  | unavailable
  | timedOut
  | rejected
  deriving DecidableEq, Repr

inductive StableAddressKind where
  | isPublic
  | other
  deriving DecidableEq, Repr

structure StableAuraState where
  exactIdentity : Bool
  addressKind : StableAddressKind
  paired : Bool
  trusted : Bool
  blocked : Bool
  deriving DecidableEq, Repr

inductive FddfAddressKind where
  | resolvablePrivate
  | other
  deriving DecidableEq, Repr

structure FreshFddfObservation where
  fresh : Bool
  addressKind : FddfAddressKind
  productId : Nat
  embeddedIdentityMatches : Bool
  deriving DecidableEq, Repr

inductive AuraWakeFailure where
  | invalidConfiguration
  | stableDeviceUnavailable
  | stableIdentityMismatch
  | stableAddressInvalid
  | stableDeviceNotPaired
  | stableDeviceNotTrusted
  | stableDeviceBlocked
  | profileConnectFailed
  | freshFddfUnavailable
  | freshFddfTimedOut
  | freshFddfInvalid
  | profileReleaseFailed
  deriving DecidableEq, Repr

inductive AuraWakeCleanup where
  | notNeeded
  | released
  | releaseFailed
  deriving DecidableEq, Repr

structure AuraWakeSuccess where
  freshFddfVerified : Bool
  cleanup : AuraWakeCleanup
  deriving DecidableEq, Repr

structure AuraWakeError where
  failure : AuraWakeFailure
  cleanup : AuraWakeCleanup
  deriving DecidableEq, Repr

/-- Durations in seconds. -/
structure AuraWakeTimings where
  connectTimeout : Nat
  fddfTimeout : Nat
  releaseTimeout : Nat
  deriving DecidableEq, Repr

namespace AuraWakeTimings

def maxConnectTimeout : Nat := 20

def maxFddfTimeout : Nat := 30

def maxReleaseTimeout : Nat := 10

def validate (timings : AuraWakeTimings) : Except AuraWakeFailure Unit :=
  if timings.connectTimeout = 0 ∨ timings.connectTimeout > maxConnectTimeout ∨
      timings.fddfTimeout = 0 ∨ timings.fddfTimeout > maxFddfTimeout ∨
      timings.releaseTimeout = 0 ∨ timings.releaseTimeout > maxReleaseTimeout then .error .invalidConfiguration
  else .ok ()

def default : AuraWakeTimings := ⟨20, 30, 5⟩

end AuraWakeTimings

class AuraWakeBluez (B : Type) where
  inspectStableDevice : DeviceIdentity → B → Reply (Except AuraWakeIoFailure StableAuraState) × B
  connectProfile : DeviceIdentity → String → Nat → B → Reply (Except AuraWakeIoFailure Unit) × B
  disconnectProfile : DeviceIdentity → String → Nat → B → Reply (Except AuraWakeIoFailure Unit) × B
  waitProfileReleased : DeviceIdentity → String → Nat → B → Reply (Except AuraWakeIoFailure Bool) × B

class AuraWakeFddfObserver (F : Type) where
  waitForFreshFddf : DeviceIdentity → Nat → F → Reply (Except AuraWakeIoFailure (Option FreshFddfObservation)) × F

def validateStableState (state : StableAuraState) : Except AuraWakeFailure Unit :=
  if !state.exactIdentity then .error .stableIdentityMismatch
  else if state.addressKind ≠ .isPublic then .error .stableAddressInvalid
  else if !state.paired then .error .stableDeviceNotPaired
  else if !state.trusted then .error .stableDeviceNotTrusted
  else if state.blocked then .error .stableDeviceBlocked
  else .ok ()

def validateFddf (observation : FreshFddfObservation) : Except AuraWakeFailure Unit :=
  if observation.fresh ∧ observation.addressKind = .resolvablePrivate ∧ observation.productId = auraStudio5ProductId ∧
      observation.embeddedIdentityMatches then .ok ()
  else .error .freshFddfInvalid

/-! ## The wake -/

/-- Calls of a wake, each with its answer when it came. -/
inductive WakeCall where
  | inspect (reply : Option (Except AuraWakeIoFailure StableAuraState))
  | connect (profileUuid : String) (timeout : Nat) (reply : Option (Except AuraWakeIoFailure Unit))
  | observe (timeout : Nat) (reply : Option (Except AuraWakeIoFailure (Option FreshFddfObservation)))
  | disconnect (profileUuid : String) (timeout : Nat) (reply : Option (Except AuraWakeIoFailure Unit))
  | waitReleased (profileUuid : String) (timeout : Nat) (reply : Option (Except AuraWakeIoFailure Bool))

structure WakeSession (B F : Type) where
  bluez : B
  observer : F

namespace WakeSession
variable {B F : Type} [AuraWakeBluez B] [AuraWakeFddfObserver F]

def bluezField : Lens B (WakeSession B F) := ⟨bluez, fun bluez session => { session with bluez }⟩

def observerField : Lens F (WakeSession B F) := ⟨observer, fun observer session => { session with observer }⟩

/-- The observed release counts, also where the disconnect itself returned an error. -/
def releaseProfile (identity : DeviceIdentity) (timeout : Nat) :
    Proc WakeCall (WakeSession B F) AuraWakeCleanup := do
  let _ ← Proc.call bluezField (AuraWakeBluez.disconnectProfile identity a2dpSinkProfileUuid timeout)
    (.disconnect a2dpSinkProfileUuid timeout)
  match ← Proc.call bluezField (AuraWakeBluez.waitProfileReleased identity a2dpSinkProfileUuid timeout)
      (.waitReleased a2dpSinkProfileUuid timeout) with
  | .ok true => pure .released
  | .ok false | .error _ => pure .releaseFailed

/-- The observer is asked only behind a connected profile. -/
def connectAndObserve (identity : DeviceIdentity) (timings : AuraWakeTimings) :
    Proc WakeCall (WakeSession B F) (Except AuraWakeFailure Unit) := do
  match ← Proc.call bluezField (AuraWakeBluez.connectProfile identity a2dpSinkProfileUuid timings.connectTimeout)
      (.connect a2dpSinkProfileUuid timings.connectTimeout) with
  | .error _ => pure (.error .profileConnectFailed)
  | .ok () =>
    match ← Proc.call observerField (AuraWakeFddfObserver.waitForFreshFddf identity timings.fddfTimeout)
        (.observe timings.fddfTimeout) with
    | .ok (some observation) => pure (validateFddf observation)
    | .ok none => pure (.error .freshFddfTimedOut)
    | .error _ => pure (.error .freshFddfUnavailable)

/-- The last case is never reached: a release that was attempted is confirmed or failed. -/
def concludeWake (primary : Except AuraWakeFailure Unit) (cleanup : AuraWakeCleanup) :
    Proc WakeCall (WakeSession B F) (Except AuraWakeError AuraWakeSuccess) :=
  match primary, cleanup with
  | .ok (), .released => pure (.ok ⟨true, cleanup⟩)
  | .ok (), .releaseFailed => pure (.error ⟨.profileReleaseFailed, cleanup⟩)
  | .error failure, cleanup => pure (.error ⟨failure, cleanup⟩)
  | .ok (), .notNeeded => fun session => ⟨[], session, none⟩

def acquireAuraWake (identity : DeviceIdentity) (timings : AuraWakeTimings) :
    Proc WakeCall (WakeSession B F) (Except AuraWakeError AuraWakeSuccess) := do
  match timings.validate with
  | .error failure => pure (.error ⟨failure, .notNeeded⟩)
  | .ok () =>
    match ← Proc.call bluezField (AuraWakeBluez.inspectStableDevice identity) .inspect with
    | .error _ => pure (.error ⟨.stableDeviceUnavailable, .notNeeded⟩)
    | .ok stable =>
      match validateStableState stable with
      | .error failure => pure (.error ⟨failure, .notNeeded⟩)
      | .ok () =>
        let primary ← connectAndObserve identity timings
        let cleanup ← releaseProfile identity timings.releaseTimeout
        concludeWake primary cleanup

end WakeSession

def mapWakeError (failure : AuraWakeFailure) (cleanup : AuraWakeCleanup) : AuraFailureReason :=
  if cleanup = .releaseFailed then .wakeProfileReleaseFailed
  else match failure with
    | .profileConnectFailed => .wakeProfileConnectFailed
    | .freshFddfTimedOut => .wakeFddfTimedOut
    | .freshFddfInvalid => .wakeFddfInvalid
    | .freshFddfUnavailable => .wakeFddfUnavailable
    | .profileReleaseFailed => .wakeProfileReleaseFailed
    | .invalidConfiguration => .invalidConfiguration
    | .stableDeviceUnavailable | .stableIdentityMismatch | .stableAddressInvalid | .stableDeviceNotPaired
    | .stableDeviceNotTrusted | .stableDeviceBlocked => .deviceConnectionFailed

/-! ## The cold connection -/

/-- The raw attempts for a bearer, apart from the wake between them. -/
class RawConnector (C : Type) (Bearer : outParam Type) where
  connectStable : (route : AuraAcquisitionRoute) → IsStable route → C → Reply (Except AuraFailureReason Bearer) × C
  connectLe : C → Reply (Except AuraFailureReason Bearer) × C

inductive ColdEvent where
  | stable (route : AuraAcquisitionRoute) (reply : Option (Except AuraFailureReason Unit))
  | le (reply : Option (Except AuraFailureReason Unit))
  | wake (call : WakeCall)

/-- One cold connection with all that it has called so far. -/
structure ColdSession (B F C : Type) where
  expectedIdentity : DeviceIdentity
  wake : WakeSession B F
  connector : C
  history : List ColdEvent

namespace ColdSession
variable {B F C Bearer : Type} [AuraWakeBluez B] [AuraWakeFddfObserver F] [RawConnector C Bearer]

def attempt (method : C → Reply (Except AuraFailureReason Bearer) × C)
    (event : Option (Except AuraFailureReason Unit) → ColdEvent) (self : ColdSession B F C) :
    Reply (Except AuraFailureReason Bearer) × ColdSession B F C :=
  match method self.connector with
  | (.answered result, connector) =>
    (.answered result, { self with connector, history := self.history ++ [event (some (result.map fun _ => ()))] })
  | (.unanswered, connector) => (.unanswered, { self with connector, history := self.history ++ [event none] })
  | (.unissued, connector) => (.unissued, { self with connector })

def wakeOnce (self : ColdSession B F C) : Reply (Except AuraFailureReason Unit) × ColdSession B F C :=
  let run := WakeSession.acquireAuraWake self.expectedIdentity .default self.wake
  let self := { self with wake := run.state, history := self.history ++ run.trace.map .wake }
  match run.out with
  | some (.ok _) => (.answered (.ok ()), self)
  | some (.error error) => (.answered (.error (mapWakeError error.failure error.cleanup)), self)
  | none => (.unanswered, self)

instance : ColdConnectOps (ColdSession B F C) Bearer where
  connectStable route stable := attempt (RawConnector.connectStable route stable) (.stable route)
  wakeOnce := wakeOnce
  connectLe := attempt RawConnector.connectLe .le

end ColdSession

/-! ## What a wake has called -/

def WakeCall.isConnect : WakeCall → Bool
  | .connect .. => true
  | .inspect _ | .observe .. | .disconnect .. | .waitReleased .. => false

/-- No profile was connected by these calls. -/
def Untouched (calls : List WakeCall) : Prop := ∀ call ∈ calls, call.isConnect = false

theorem untouched_nil : Untouched [] := nofun

theorem untouched_cons {call : WakeCall} {calls : List WakeCall} (first : call.isConnect = false)
    (rest : Untouched calls) : Untouched (call :: calls) := by
  intro other member
  cases member with
  | head => exact first
  | tail _ member => exact rest other member

theorem untouched_append {first second : List WakeCall} (before : Untouched first) (after : Untouched second) :
    Untouched (first ++ second) := by
  intro call member
  obtain early | late := List.mem_append.mp member
  · exact before call early
  · exact after call late

/-- The calls of a cleanup that ended. -/
def releaseCalls (timeout : Nat) (disconnected : Except AuraWakeIoFailure Unit)
    (released : Except AuraWakeIoFailure Bool) : List WakeCall :=
  [.disconnect a2dpSinkProfileUuid timeout (some disconnected),
    .waitReleased a2dpSinkProfileUuid timeout (some released)]

/-- How a wake ends: without a profile connection, killed behind one, or behind its cleanup. -/
inductive WakeExit : List WakeCall → Option (Except AuraWakeError AuraWakeSuccess) → Prop where
  | untouched {calls : List WakeCall} {out : Option (Except AuraWakeError AuraWakeSuccess)} (quiet : Untouched calls) :
      WakeExit calls out
  | killed {before after : List WakeCall} {profileUuid : String} {timeout : Nat}
      {reply : Option (Except AuraWakeIoFailure Unit)} (early : Untouched before) (late : Untouched after) :
      WakeExit (before ++ .connect profileUuid timeout reply :: after) none
  | cleaned {before observed : List WakeCall} {profileUuid : String} {timeout releaseTimeout : Nat}
      {reply : Option (Except AuraWakeIoFailure Unit)} {disconnected : Except AuraWakeIoFailure Unit}
      {released : Except AuraWakeIoFailure Bool} {result : Except AuraWakeError AuraWakeSuccess}
      (early : Untouched before) (late : Untouched observed)
      (confirmed : released = .ok true ∨ ∃ failure, result = .error ⟨failure, .releaseFailed⟩) :
      WakeExit (before ++ .connect profileUuid timeout reply ::
        (observed ++ releaseCalls releaseTimeout disconnected released)) (some result)

namespace WakeSession
variable {B F : Type}

theorem concludeWake_run (primary : Except AuraWakeFailure Unit) (session : WakeSession B F) :
    (∃ success, concludeWake primary .released session = ⟨[], session, some success⟩) ∧
      ∃ failure, concludeWake primary .releaseFailed session =
        ⟨[], session, some (.error ⟨failure, .releaseFailed⟩)⟩ := by
  cases primary with
  | error failure => exact ⟨⟨_, rfl⟩, ⟨_, rfl⟩⟩
  | ok _ => exact ⟨⟨_, rfl⟩, ⟨_, rfl⟩⟩

inductive ReleaseExit (timeout : Nat) (run : Exec WakeCall (WakeSession B F) AuraWakeCleanup) : Prop where
  | killed (quiet : Untouched run.trace) (out : run.out = none)
  | finished (disconnected : Except AuraWakeIoFailure Unit) (released : Except AuraWakeIoFailure Bool)
      (trace : run.trace = releaseCalls timeout disconnected released)
      (out : run.out = some .released ∧ released = .ok true ∨ run.out = some .releaseFailed)

variable [AuraWakeBluez B]

theorem releaseProfile_exit (identity : DeviceIdentity) (timeout : Nat) (session : WakeSession B F) :
    ReleaseExit timeout (releaseProfile identity timeout session) := by
  unfold releaseProfile
  rcases first : AuraWakeBluez.disconnectProfile identity a2dpSinkProfileUuid timeout (bluezField.get session)
    with ⟨disconnected | _ | _, bluez⟩
  · rw [call_answered first]
    rcases second : AuraWakeBluez.waitProfileReleased identity a2dpSinkProfileUuid timeout
        (bluezField.get (bluezField.set bluez session)) with ⟨released | _ | _, bluez'⟩
    · rw [call_answered second]
      rcases released with failure | _ | _
      · exact .finished disconnected _ rfl (.inr rfl)
      · exact .finished disconnected _ rfl (.inr rfl)
      · exact .finished disconnected _ rfl (.inl ⟨rfl, rfl⟩)
    · rw [call_unanswered second]
      exact .killed (untouched_cons rfl (untouched_cons rfl untouched_nil)) rfl
    · rw [call_unissued second]
      exact .killed (untouched_cons rfl untouched_nil) rfl
  · rw [call_unanswered first]
    exact .killed (untouched_cons rfl untouched_nil) rfl
  · rw [call_unissued first]
    exact .killed untouched_nil rfl

variable [AuraWakeFddfObserver F]

inductive ConnectExit (run : Exec WakeCall (WakeSession B F) (Except AuraWakeFailure Unit)) : Prop where
  | unissued (trace : run.trace = []) (out : run.out = none)
  | connected (profileUuid : String) (timeout : Nat) (reply : Option (Except AuraWakeIoFailure Unit))
      (observed : List WakeCall) (trace : run.trace = .connect profileUuid timeout reply :: observed)
      (quiet : Untouched observed)

theorem connectAndObserve_exit (identity : DeviceIdentity) (timings : AuraWakeTimings) (session : WakeSession B F) :
    ConnectExit (connectAndObserve identity timings session) := by
  unfold connectAndObserve
  rcases first : AuraWakeBluez.connectProfile identity a2dpSinkProfileUuid timings.connectTimeout
      (bluezField.get session) with ⟨connected | _ | _, bluez⟩
  · rw [call_answered first]
    cases connected with
    | error failure => exact .connected _ _ _ [] rfl untouched_nil
    | ok _ =>
      rcases second : AuraWakeFddfObserver.waitForFreshFddf identity timings.fddfTimeout
          (observerField.get (bluezField.set bluez session)) with ⟨observed | _ | _, observer⟩
      · dsimp only
        rw [call_answered second]
        rcases observed with failure | _ | observation
        · exact .connected _ _ _ [_] rfl (untouched_cons rfl untouched_nil)
        · exact .connected _ _ _ [_] rfl (untouched_cons rfl untouched_nil)
        · exact .connected _ _ _ [_] rfl (untouched_cons rfl untouched_nil)
      · dsimp only
        rw [call_unanswered second]
        exact .connected _ _ _ [_] rfl (untouched_cons rfl untouched_nil)
      · dsimp only
        rw [call_unissued second]
        exact .connected _ _ _ [] rfl untouched_nil
  · rw [call_unanswered first]
    exact .connected _ _ _ [] rfl untouched_nil
  · rw [call_unissued first]
    exact .unissued rfl rfl

/-- Behind the checks: the profile is connected, and released whatever was observed. -/
theorem transaction_exit (identity : DeviceIdentity) (timings : AuraWakeTimings) (session : WakeSession B F)
    {first : List WakeCall} (early : Untouched first) {out : Option (Except AuraWakeError AuraWakeSuccess)}
    {trace : List WakeCall} {after : WakeSession B F}
    (run : (do
      let primary ← connectAndObserve identity timings
      let cleanup ← releaseProfile identity timings.releaseTimeout
      concludeWake primary cleanup : Proc WakeCall (WakeSession B F) _) session = ⟨trace, after, out⟩) :
    WakeExit (first ++ trace) out := by
  have connects := connectAndObserve_exit identity timings session
  rcases connected : connectAndObserve identity timings session with ⟨calls, middle, _ | primary⟩
  · rw [connected] at connects
    rw [bind_killed connected] at run
    cases run
    cases connects with
    | unissued trace out =>
      cases trace
      rw [List.append_nil]
      exact .untouched early
    | connected profileUuid timeout reply observed trace quiet =>
      cases trace
      exact .killed early quiet
  · rw [connected] at connects
    rw [bind_value connected] at run
    cases connects with
    | unissued trace out => cases out
    | connected profileUuid timeout reply observed shape quiet =>
      obtain rfl : calls = _ := shape
      have releases := releaseProfile_exit identity timings.releaseTimeout middle
      rcases released : releaseProfile identity timings.releaseTimeout middle with ⟨calls', last, _ | cleanup⟩
      · rw [released] at releases
        rw [bind_killed released] at run
        cases run
        cases releases with
        | killed quiet' out => exact .killed early (untouched_append quiet quiet')
        | finished disconnected released trace out =>
          obtain ⟨other, _⟩ | other := out
          · cases other
          · cases other
      · rw [released] at releases
        rw [bind_value released] at run
        cases releases with
        | killed quiet' out => cases out
        | finished disconnected confirmed trace out =>
          obtain rfl : calls' = _ := trace
          obtain ⟨⟨success, ends⟩, failure, fails⟩ := concludeWake_run primary last
          obtain ⟨same, rfl⟩ | same := out
          · obtain rfl := Option.some.inj same
            rw [ends] at run
            cases run
            exact .cleaned early quiet (.inl rfl)
          · obtain rfl := Option.some.inj same
            rw [fails] at run
            cases run
            exact .cleaned early quiet (.inr ⟨failure, rfl⟩)

theorem acquireAuraWake_exit (identity : DeviceIdentity) (timings : AuraWakeTimings) (session : WakeSession B F) :
    WakeExit (acquireAuraWake identity timings session).trace (acquireAuraWake identity timings session).out := by
  unfold acquireAuraWake
  cases timings.validate with
  | error failure => exact .untouched untouched_nil
  | ok _ =>
    rcases inspected : AuraWakeBluez.inspectStableDevice identity (bluezField.get session) with ⟨stable | _ | _, bluez⟩
    · dsimp only
      rw [call_answered inspected]
      cases stable with
      | error failure => exact .untouched (untouched_cons rfl untouched_nil)
      | ok state =>
        dsimp only
        cases validateStableState state with
        | error failure => exact .untouched (untouched_cons rfl untouched_nil)
        | ok _ => exact transaction_exit identity timings _ (untouched_cons rfl untouched_nil) rfl
    · dsimp only
      rw [call_unanswered inspected]
      exact .untouched (untouched_cons rfl untouched_nil)
    · dsimp only
      rw [call_unissued inspected]
      exact .untouched untouched_nil

end WakeSession

/-! ## What a cold connection has called -/

namespace ColdEvent

def isProfileConnect : ColdEvent → Bool
  | .wake call => call.isConnect
  | .stable .. | .le _ => false

def isAttempt : ColdEvent → Bool
  | .stable .. | .le _ => true
  | .wake _ => false

def isDisconnect : ColdEvent → Bool
  | .wake (.disconnect ..) => true
  | .wake _ | .stable .. | .le _ => false

/-- A release that was confirmed. -/
def isReleased : ColdEvent → Bool
  | .wake (.waitReleased _ _ (some (.ok true))) => true
  | .wake _ | .stable .. | .le _ => false

end ColdEvent

def Attempts (events : List ColdEvent) : Prop := ∀ event ∈ events, event.isAttempt = true

theorem attempts_nil : Attempts [] := nofun

theorem Attempts.untouched {events : List ColdEvent} (attempts : Attempts events) :
    ∀ event ∈ events, ¬event.isProfileConnect = true := by
  intro event member
  have attempt := attempts event member
  cases event with
  | stable route reply => exact Bool.false_ne_true
  | le reply => exact Bool.false_ne_true
  | wake call => cases attempt

/-- How a cold connection ends: before its wake, or with what the wake allows behind it. -/
inductive ColdExit {Bearer : Type} : List ColdEvent → Reply (Except AuraFailureReason Bearer) → Prop where
  | direct {events : List ColdEvent} {reply : Reply (Except AuraFailureReason Bearer)} (attempts : Attempts events) :
      ColdExit events reply
  | woken {reason : AuraFailureReason} {calls : List WakeCall} {out : Option (Except AuraWakeError AuraWakeSuccess)}
      {attempts : List ColdEvent} {reply : Reply (Except AuraFailureReason Bearer)}
      (eligible : rawAttRetryEligible reason = true) (wake : WakeExit calls out) (later : Attempts attempts)
      (allowed : attempts ≠ [] → ∃ result, out = some result ∧ ∀ failure, result ≠ .error ⟨failure, .releaseFailed⟩)
      (reported : ∀ failure, out = some (.error ⟨failure, .releaseFailed⟩) →
        reply = .answered (.error .wakeProfileReleaseFailed))
      (silent : out = none → ∀ result, reply ≠ .answered result) :
      ColdExit (.stable .stableDirect (some (.error reason)) :: (calls.map .wake ++ attempts)) reply

namespace ColdSession
variable {B F C Bearer : Type}

/-- The session has only made further attempts. -/
def Attempting (start after : ColdSession B F C) : Prop :=
  ∃ events, after.history = start.history ++ events ∧ Attempts events

theorem attempting_refl (start : ColdSession B F C) : Attempting start start :=
  ⟨[], (List.append_nil _).symm, attempts_nil⟩

theorem Attempting.trans {start middle after : ColdSession B F C} (first : Attempting start middle)
    (second : Attempting middle after) : Attempting start after := by
  obtain ⟨events, early, attempts⟩ := first
  obtain ⟨later, late, others⟩ := second
  refine ⟨events ++ later, by rw [late, early, List.append_assoc], fun event member => ?_⟩
  obtain inside | behind := List.mem_append.mp member
  · exact attempts event inside
  · exact others event behind

theorem attempt_attempting {method : C → Reply (Except AuraFailureReason Bearer) × C}
    {event : Option (Except AuraFailureReason Unit) → ColdEvent} (self : ColdSession B F C)
    (attempts : ∀ reply, (event reply).isAttempt = true) : Attempting self (self.attempt method event).2 := by
  unfold attempt
  rcases method self.connector with ⟨result | _ | _, connector⟩
  · exact ⟨[_], rfl, fun other member => List.mem_singleton.mp member ▸ attempts _⟩
  · exact ⟨[_], rfl, fun other member => List.mem_singleton.mp member ▸ attempts _⟩
  · exact attempting_refl self

theorem attempt_answered {method : C → Reply (Except AuraFailureReason Bearer) × C}
    {event : Option (Except AuraFailureReason Unit) → ColdEvent} {self after : ColdSession B F C}
    {result : Except AuraFailureReason Bearer} (answered : self.attempt method event = (.answered result, after)) :
    after.history = self.history ++ [event (some (result.map fun _ => ()))] := by
  unfold attempt at answered
  split at answered
  next =>
    cases answered
    rfl
  next => cases answered
  next => cases answered

variable [AuraWakeBluez B] [AuraWakeFddfObserver F] [RawConnector C Bearer]

theorem connectLeFallback_attempting (reason : AuraFailureReason) (self : ColdSession B F C) :
    Attempting self (connectLeFallback reason self : Reply (Except AuraFailureReason Bearer) × _).2 := by
  have tried : Attempting self (ColdConnectOps.connectLe self : Reply (Except AuraFailureReason Bearer) × _).2 :=
    attempt_attempting self fun _ => rfl
  apply Reply.andThen_state tried
  intro result after answered
  rw [answered] at tried
  cases result with
  | ok bearer => exact tried
  | error failure =>
    dsimp only
    split
    · exact tried
    · split
      · exact tried
      · exact tried

theorem mapWakeError_released {error : AuraWakeError}
    (other : mapWakeError error.failure error.cleanup ≠ .wakeProfileReleaseFailed) (failure : AuraWakeFailure) :
    (.error error : Except AuraWakeError AuraWakeSuccess) ≠ .error ⟨failure, .releaseFailed⟩ := by
  intro same
  obtain rfl := Except.error.inj same
  exact other rfl

theorem isStable_woken : IsStable .a2dpWakeThenStable := .inr rfl

/-- The part of the cold connection behind its wake. -/
def afterWake (woken : Except AuraFailureReason Unit) (ops : ColdSession B F C) :
    Reply (Except AuraFailureReason Bearer) × ColdSession B F C :=
  match woken, ops with
  | .error .wakeProfileReleaseFailed, ops => (.answered (.error .wakeProfileReleaseFailed), ops)
  | .error reason, ops => connectLeFallback reason ops
  | .ok (), ops => Reply.andThen (ColdConnectOps.connectStable .a2dpWakeThenStable isStable_woken ops) fun
    | .ok bearer, ops => (.answered (.ok bearer), ops)
    | .error reason, ops =>
      if rawAttRetryEligible reason then connectLeFallback reason ops
      else (.answered (.error reason), ops)

theorem afterWake_attempting (woken : Except AuraFailureReason Unit) (self : ColdSession B F C) :
    Attempting self (afterWake woken self : Reply (Except AuraFailureReason Bearer) × _).2 := by
  unfold afterWake
  split
  next => exact attempting_refl _
  next => exact connectLeFallback_attempting _ _
  next =>
    have tried : Attempting self (ColdConnectOps.connectStable .a2dpWakeThenStable isStable_woken self :
        Reply (Except AuraFailureReason Bearer) × _).2 := attempt_attempting self fun _ => rfl
    apply Reply.andThen_state tried
    intro result middle answered
    rw [answered] at tried
    cases result with
    | ok bearer => exact tried
    | error reason =>
      dsimp only
      split
      · exact tried.trans (connectLeFallback_attempting _ _)
      · exact tried

/-- Behind an eligible failure: the wake, and the attempts that its end allows. -/
theorem woken_exit {reason : AuraFailureReason} (eligible : rawAttRetryEligible reason = true)
    {self after : ColdSession B F C} {reply : Reply (Except AuraFailureReason Bearer)}
    (run : Reply.andThen self.wakeOnce afterWake = (reply, after)) :
    ∃ events, after.history = self.history ++ events ∧
      ColdExit (.stable .stableDirect (some (.error reason)) :: events) reply := by
  have wake := WakeSession.acquireAuraWake_exit self.expectedIdentity .default self.wake
  unfold wakeOnce at run
  dsimp only at run
  generalize WakeSession.acquireAuraWake self.expectedIdentity .default self.wake = woken at wake run
  obtain ⟨calls, session, out⟩ := woken
  -- the attempts behind a wake that has answered
  have tried (result : Except AuraFailureReason Unit)
      (run : Reply.andThen (.answered result, { self with wake := session, history := self.history ++ calls.map .wake })
        afterWake = (reply, after)) : ∃ attempts, after.history = self.history ++ (calls.map .wake ++ attempts) ∧
      Attempts attempts := by
    have later : Attempting { self with wake := session, history := self.history ++ calls.map .wake } after := by
      obtain rfl : (Reply.andThen _ afterWake).2 = after := congrArg Prod.snd run
      apply Reply.andThen_state (attempting_refl _)
      intro result' middle answered
      cases answered
      exact afterWake_attempting result _
    obtain ⟨attempts, history, later⟩ := later
    exact ⟨attempts, by rw [history, List.append_assoc], later⟩
  rcases out with _ | error | success
  · cases run
    refine ⟨calls.map .wake ++ [], by rw [List.append_nil], .woken eligible wake attempts_nil ?_ ?_ ?_⟩
    · exact fun some_attempt => absurd rfl some_attempt
    · nofun
    · exact fun _ result => nofun
  · by_cases released : mapWakeError error.failure error.cleanup = .wakeProfileReleaseFailed
    · dsimp only at run
      rw [released] at run
      cases run
      refine ⟨calls.map .wake ++ [], by rw [List.append_nil], .woken eligible wake attempts_nil ?_ ?_ nofun⟩
      · exact fun some_attempt => absurd rfl some_attempt
      · exact fun _ _ => rfl
    · obtain ⟨attempts, history, later⟩ := tried _ run
      refine ⟨calls.map .wake ++ attempts, history, .woken eligible wake later ?_ ?_ nofun⟩
      · exact fun _ => ⟨_, rfl, mapWakeError_released released⟩
      · exact fun failure same => absurd (Option.some.inj same) (mapWakeError_released released failure)
  · obtain ⟨attempts, history, later⟩ := tried _ run
    refine ⟨calls.map .wake ++ attempts, history, .woken eligible wake later ?_ ?_ nofun⟩
    · exact fun _ => ⟨_, rfl, fun _ => nofun⟩
    · nofun

theorem issued_exit {events : List ColdEvent}
    (exit : ColdExit events (.unissued : Reply (Except AuraFailureReason Bearer))) :
    ColdExit events (.unanswered : Reply (Except AuraFailureReason Bearer)) := by
  cases exit with
  | direct attempts => exact .direct attempts
  | woken eligible wake later allowed reported silent =>
    exact .woken eligible wake later allowed (fun failure same => nomatch reported failure same) fun _ _ => nofun

/-- An eligible failure of the first attempt leads to the wake. -/
theorem connectColdBearer_woken {reason : AuraFailureReason} (eligible : rawAttRetryEligible reason = true)
    {self middle : ColdSession B F C}
    (first : (ColdConnectOps.connectStable .stableDirect (.inl rfl) self :
      Reply (Except AuraFailureReason Bearer) × _) = (.answered (.error reason), middle))
    {reply : Reply (Except AuraFailureReason Bearer)} {after : ColdSession B F C}
    (run : Reply.andThen middle.wakeOnce afterWake = (reply, after)) :
    connectColdBearer self = (reply, after) ∨ reply = .unissued ∧ connectColdBearer self = (.unanswered, after) := by
  unfold connectColdBearer
  rw [first]
  generalize body : (fun (result : Except AuraFailureReason Bearer) (ops : ColdSession B F C) => _) = next
  have same : next (.error reason) middle = (reply, after) := by
    rw [← body]
    dsimp only
    rw [eligible, Bool.not_true, if_neg Bool.false_ne_true, ← run]
    apply congrArg (Reply.andThen middle.wakeOnce)
    funext woken ops
    rcases woken with failure | _
    · cases failure <;> rfl
    · unfold afterWake
      apply congrArg (Reply.andThen _)
      funext result ops
      cases result with
      | error reason => rfl
      | ok bearer => rfl
  have ends := Reply.andThen_next (.error reason) middle next
  rw [same] at ends
  exact ends

theorem connectColdBearer_exit (self : ColdSession B F C) :
    ∃ events, (connectColdBearer self : Reply (Except AuraFailureReason Bearer) × _).2.history =
        self.history ++ events ∧
      ColdExit events (connectColdBearer self : Reply (Except AuraFailureReason Bearer) × _).1 := by
  have tried : Attempting self (ColdConnectOps.connectStable .stableDirect (.inl rfl) self :
      Reply (Except AuraFailureReason Bearer) × _).2 := attempt_attempting self fun _ => rfl
  rcases first : (ColdConnectOps.connectStable .stableDirect (.inl rfl) self :
      Reply (Except AuraFailureReason Bearer) × _) with ⟨reply, middle⟩
  rw [first] at tried
  -- a connection that ends with its first attempt has only made that one
  have direct (ends : (connectColdBearer self : Reply (Except AuraFailureReason Bearer) × _).2 = middle) :
      ∃ events, (connectColdBearer self : Reply (Except AuraFailureReason Bearer) × _).2.history =
          self.history ++ events ∧
        ColdExit events (connectColdBearer self : Reply (Except AuraFailureReason Bearer) × _).1 := by
    obtain ⟨events, same, attempts⟩ := tried
    exact ⟨events, by rw [ends]; exact same, .direct attempts⟩
  rcases reply with (reason | bearer) | _ | _
  · cases eligible : rawAttRetryEligible reason with
    | false =>
      apply direct
      unfold connectColdBearer
      simp [first, Reply.andThen, eligible]
    | true =>
      rcases run : (Reply.andThen middle.wakeOnce afterWake : Reply (Except AuraFailureReason Bearer) × _)
        with ⟨reply, after⟩
      obtain ⟨events, behind, exit⟩ := woken_exit eligible run
      rw [attempt_answered first, List.append_assoc] at behind
      obtain same | ⟨rfl, same⟩ := connectColdBearer_woken eligible first run
      · rw [same]
        exact ⟨_, behind, exit⟩
      · rw [same]
        exact ⟨_, behind, issued_exit exit⟩
  · apply direct
    unfold connectColdBearer
    rw [first]
    rfl
  · apply direct
    unfold connectColdBearer
    rw [first]
    rfl
  · apply direct
    unfold connectColdBearer
    rw [first]
    rfl

end ColdSession

/-! ## The cleanup gate -/

/-- What the cleanup of a wake owes: the profile is connected once at most, behind an eligible
failure, and no attempt follows unless its release was confirmed. -/
structure CleanupGated {Bearer : Type} (events : List ColdEvent) (reply : Reply (Except AuraFailureReason Bearer)) :
    Prop where
  once : events.countP ColdEvent.isProfileConnect ≤ 1
  eligible : ∀ before event after, events = before ++ event :: after → event.isProfileConnect = true →
    ∃ reason, rawAttRetryEligible reason = true ∧
      before.head? = some (.stable .stableDirect (some (.error reason)))
  disconnected : Separated (ColdEvent.isProfileConnect · = true) (ColdEvent.isDisconnect · = true)
    (ColdEvent.isAttempt · = true) events
  released : Separated (ColdEvent.isProfileConnect · = true) (ColdEvent.isReleased · = true)
    (ColdEvent.isAttempt · = true) events
  cleaned : ∀ before event after, events = before ++ event :: after → event.isProfileConnect = true →
    ∀ result, reply = .answered result → ∃ timeout disconnected released,
      (releaseCalls timeout disconnected released).map ColdEvent.wake <:+: after
  forbidden : ∀ before event after, events = before ++ event :: after → event.isProfileConnect = true →
    (∀ later ∈ after, ¬later.isReleased = true) → (∀ later ∈ after, ¬later.isAttempt = true) ∧
      ∀ result, reply = .answered result → result = .error .wakeProfileReleaseFailed

section Gate
variable {Bearer : Type} {events : List ColdEvent} {reply : Reply (Except AuraFailureReason Bearer)}

theorem gated_of_quiet (quiet : ∀ event ∈ events, ¬event.isProfileConnect = true) : CleanupGated events reply := by
  have never {before after : List ColdEvent} {event : ColdEvent} (split : events = before ++ event :: after) :
      ¬event.isProfileConnect = true := quiet event (by rw [split]; simp)
  refine ⟨?_, ?_, separated_of_quiet quiet, separated_of_quiet quiet, ?_, ?_⟩
  · rw [List.countP_eq_zero.mpr quiet]
    exact Nat.zero_le 1
  · exact fun before event after split connects => absurd connects (never split)
  · exact fun before event after split connects => absurd connects (never split)
  · exact fun before event after split connects => absurd connects (never split)

/-- One profile connection with the calls that close it and the attempts behind them. -/
theorem gated_single {reason : AuraFailureReason} {before closing later : List ColdEvent} {event : ColdEvent}
    (eligible : rawAttRetryEligible reason = true) (early : ∀ other ∈ before, ¬other.isProfileConnect = true)
    (late : ∀ other ∈ closing ++ later, ¬other.isProfileConnect = true)
    (unguarded : ∀ other ∈ closing, ¬other.isAttempt = true)
    (closed : later ≠ [] → (∃ other ∈ closing, other.isDisconnect = true) ∧ ∃ other ∈ closing, other.isReleased = true)
    (cleaned : ∀ result, reply = .answered result → ∃ timeout disconnected released,
      (releaseCalls timeout disconnected released).map ColdEvent.wake <:+: closing)
    (forbidden : (∀ other ∈ closing, ¬other.isReleased = true) →
      ∀ result, reply = .answered result → result = .error .wakeProfileReleaseFailed) :
    CleanupGated (.stable .stableDirect (some (.error reason)) :: (before ++ event :: (closing ++ later))) reply := by
  rw [← List.cons_append]
  have first : ∀ other ∈ .stable .stableDirect (some (.error reason)) :: before, ¬other.isProfileConnect = true := by
    intro other member
    cases member with
    | head => exact Bool.false_ne_true
    | tail _ member => exact early other member
  -- the only profile connection of the run is the one named here
  have unique {before' after : List ColdEvent} {event' : ColdEvent}
      (split : .stable .stableDirect (some (.error reason)) :: before ++ event :: (closing ++ later) =
        before' ++ event' :: after) (connects : event'.isProfileConnect = true) :
      before' = .stable .stableDirect (some (.error reason)) :: before ∧ after = closing ++ later := by
    obtain ⟨same, rfl⟩ := split_unique first late split connects
    subst same
    exact ⟨rfl, ((List.cons.inj (List.append_cancel_left split)).2).symm⟩
  refine ⟨?_, ?_, ?_, ?_, ?_, ?_⟩
  · rw [List.countP_append, List.countP_eq_zero.mpr first, List.countP_cons, List.countP_eq_zero.mpr late]
    split
    · exact Nat.le_refl 1
    · exact Nat.zero_le 1
  · intro before' event' after split connects
    obtain ⟨rfl, _⟩ := unique split connects
    exact ⟨reason, eligible, rfl⟩
  · exact separated_single first late unguarded fun attempts => (closed attempts).1
  · exact separated_single first late unguarded fun attempts => (closed attempts).2
  · intro before' event' after split connects result answered
    obtain ⟨_, rfl⟩ := unique split connects
    obtain ⟨timeout, disconnected, released, inside⟩ := cleaned result answered
    exact ⟨timeout, disconnected, released, inside.trans (List.infix_append' [] closing later)⟩
  · intro before' event' after split connects unreleased
    obtain ⟨_, rfl⟩ := unique split connects
    have still : ∀ other ∈ closing, ¬other.isReleased = true := fun other member =>
      unreleased other (List.mem_append_left _ member)
    refine ⟨fun other member => ?_, forbidden still⟩
    obtain inside | behind := List.mem_append.mp member
    · exact unguarded other inside
    · obtain ⟨_, other, inside, releases⟩ := closed (List.ne_nil_of_mem behind)
      exact absurd releases (still other inside)

end Gate

theorem wakes_not_attempts (calls : List WakeCall) : ∀ event ∈ calls.map ColdEvent.wake, ¬event.isAttempt = true := by
  intro event member
  obtain ⟨call, _, rfl⟩ := List.mem_map.mp member
  exact Bool.false_ne_true

theorem Untouched.events {calls : List WakeCall} (quiet : Untouched calls) :
    ∀ event ∈ calls.map ColdEvent.wake, ¬event.isProfileConnect = true := by
  intro event member
  obtain ⟨call, inside, rfl⟩ := List.mem_map.mp member
  exact Bool.not_eq_true _ ▸ quiet call inside

theorem mem_append_of_quiet {first second : List ColdEvent} (early : ∀ event ∈ first, ¬event.isProfileConnect = true)
    (late : ∀ event ∈ second, ¬event.isProfileConnect = true) :
    ∀ event ∈ first ++ second, ¬event.isProfileConnect = true := by
  intro event member
  obtain inside | behind := List.mem_append.mp member
  · exact early event inside
  · exact late event behind

theorem untouched_releaseCalls (timeout : Nat) (disconnected : Except AuraWakeIoFailure Unit)
    (released : Except AuraWakeIoFailure Bool) : Untouched (releaseCalls timeout disconnected released) :=
  untouched_cons rfl (untouched_cons rfl untouched_nil)

/-- Without a confirmed release nothing is allowed behind the wake, and the reply reports it. -/
theorem ColdExit.gated {Bearer : Type} {events : List ColdEvent} {reply : Reply (Except AuraFailureReason Bearer)}
    (exit : ColdExit events reply) : CleanupGated events reply := by
  cases exit with
  | direct attempts => exact gated_of_quiet attempts.untouched
  | @woken reason calls out attempts _ eligible wake later allowed reported silent =>
    cases wake with
    | untouched quiet =>
      apply gated_of_quiet
      intro event member
      cases member with
      | head => exact Bool.false_ne_true
      | tail _ member => exact mem_append_of_quiet quiet.events later.untouched event member
    | @killed before after _ _ _ early late =>
      have none : attempts = [] := by
        by_contra some_attempt
        obtain ⟨_, answered, _⟩ := allowed some_attempt
        cases answered
      have unanswered (result) (answered : reply = .answered result) : False := silent rfl result answered
      rw [List.map_append, List.map_cons, List.append_assoc, List.cons_append]
      refine gated_single eligible early.events (mem_append_of_quiet late.events later.untouched)
        (wakes_not_attempts after) (fun some_attempt => absurd none some_attempt) ?_ ?_
      · exact fun result answered => (unanswered result answered).elim
      · exact fun _ result answered => (unanswered result answered).elim
    | @cleaned before observed _ _ releaseTimeout _ disconnected released _ early late confirmed =>
      have quiet := untouched_append late (untouched_releaseCalls releaseTimeout disconnected released)
      rw [List.map_append, List.map_cons, List.append_assoc, List.cons_append]
      refine gated_single eligible early.events (mem_append_of_quiet quiet.events later.untouched)
        (wakes_not_attempts _) (fun some_attempt => ?_) (fun _ _ => ?_) (fun unreleased result answered => ?_)
      · obtain ⟨_, same, other⟩ := allowed some_attempt
        obtain rfl := Option.some.inj same
        obtain rfl | ⟨failure, failed⟩ := confirmed
        · refine ⟨⟨.wake (.disconnect a2dpSinkProfileUuid releaseTimeout (some disconnected)), ?_, rfl⟩,
            ⟨.wake (.waitReleased a2dpSinkProfileUuid releaseTimeout (some (.ok true))), ?_, rfl⟩⟩
          · simp [releaseCalls]
          · simp [releaseCalls]
        · exact absurd failed (other failure)
      · refine ⟨releaseTimeout, disconnected, released, ?_⟩
        rw [List.map_append]
        exact (List.suffix_append _ _).isInfix
      · obtain rfl | ⟨failure, rfl⟩ := confirmed
        · refine absurd ?_ (unreleased (.wake (.waitReleased a2dpSinkProfileUuid releaseTimeout (some (.ok true)))) ?_)
          · rfl
          · simp [releaseCalls]
        · rw [reported failure rfl] at answered
          cases answered
          rfl

/-- Whatever BlueZ, the observer and the raw attempts answer, the cleanup gates the cold connection. -/
theorem cold_connection_gated_by_cleanup {B F C Bearer : Type} [AuraWakeBluez B] [AuraWakeFddfObserver F]
    [RawConnector C Bearer] (self : ColdSession B F C) :
    ∃ events, (connectColdBearer self : Reply (Except AuraFailureReason Bearer) × _).2.history =
        self.history ++ events ∧
      CleanupGated events (connectColdBearer self : Reply (Except AuraFailureReason Bearer) × _).1 := by
  obtain ⟨events, history, exit⟩ := self.connectColdBearer_exit
  exact ⟨events, history, exit.gated⟩

end PlayTogether.Aura
