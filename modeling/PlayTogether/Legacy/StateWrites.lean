import PlayTogether.Legacy.Supervisor

/-! Which daemon writes the state file, and when. Until its cleanup a daemon writes under the
lock only; a cleanup in any state but failed or degraded writes after the lock was closed. -/

namespace PlayTogether.Legacy
open PlayTogether.Library

/-- What a daemon knows of its own: its lock, that both sessions got connected, that it gave
its lock away with a word still to write, and its temporary file with the word in it. -/
structure DaemonToken where
  held : Bool
  connected : Bool
  left : Bool
  created : Bool
  staged : Option Word
  deriving DecidableEq

namespace DaemonToken

def fresh : DaemonToken := ⟨false, false, false, false, none⟩

def MayWrite (token : DaemonToken) : Prop := token.held = true ∨ token.left = true

def MaySay (token : DaemonToken) (word : Word) : Prop :=
  (word = .ready → token.connected = true) ∧ (word = .offline → token.left = true)

def permitted (_ : Config) (token : DaemonToken) : DaemonCall → Prop
  | .flock => token = .fresh
  | .close _ => token.held = true
  | .create => token.MayWrite
  | .write record => token.MayWrite ∧ token.created = true ∧ token.MaySay record.state
  | .replace => token.MayWrite ∧ ∃ word, token.staged = some word ∧ token.MaySay word
  | .check | .ask | .rounds | .blocked | .readState | .gatt _ | .send _ | .resolve | .accept => True

def advance (_ : Config) (token : DaemonToken) : (call : DaemonCall) → call.Answer → DaemonToken
  | .flock, (locked : Bool) => { token with held := locked }
  | .close state, _ => { token with held := false, left := !state.isFinal, created := false, staged := none }
  | .create, (outcome : Except Fault Unit) => { token with created := outcome.isOk, staged := none }
  | .write record, (outcome : Except Fault Unit) =>
      { token with staged := if outcome.isOk then some record.state else none }
  | .replace, _ => { token with created := false, staged := none }
  | .gatt .jblMtu, (outcome : Except Fault Unit) => { token with connected := token.connected || outcome.isOk }
  | _, _ => token

end DaemonToken

def stateWrites : Discipline Config DaemonToken DaemonCall DaemonCall.Answer where
  permitted := DaemonToken.permitted
  advance := DaemonToken.advance

/-! ## The program keeps to it -/

namespace Supervisor
variable {α β : Type} {config : Config}

/-- What the daemon wrote may have changed, its standing has not. -/
def Settled (before after : DaemonToken) : Prop :=
  after.held = before.held ∧ after.connected = before.connected ∧ after.left = before.left

theorem Settled.refl (token : DaemonToken) : Settled token token := ⟨rfl, rfl, rfl⟩

theorem Settled.trans {one two three : DaemonToken} (first : Settled one two) (second : Settled two three) :
    Settled one three :=
  ⟨second.1.trans first.1, second.2.1.trans first.2.1, second.2.2.trans first.2.2⟩

/-- Between taking the lock and the cleanup. -/
def HasLockFd (self : Supervisor) : Prop := self.lockFd = true

/-- A method for a daemon that holds its lock and, where it must, has got connected. -/
def Calm (config : Config) (connected : Bool) (method : Python α) : Prop :=
  ∀ token : DaemonToken, token.held = true → (connected = true → token.connected = true) →
    Method.Obeys stateWrites HasLockFd config token method fun _ after => Settled token after

theorem calm_pure (connected : Bool) (value : α) : Calm config connected (pure value) :=
  fun token _ _ => Method.obeys_pure (Settled.refl token)

theorem calm_throw (connected : Bool) (fault : Fault) : Calm config connected (throw fault : Python α) :=
  fun token _ _ => Method.obeys_throw (Settled.refl token)

theorem calm_get (connected : Bool) : Calm config connected (get : Python Supervisor) :=
  fun token _ _ => Method.obeys_get fun _ _ => Settled.refl token

theorem calm_modify (connected : Bool) {change : Supervisor → Supervisor}
    (keeps : ∀ self, (change self).lockFd = self.lockFd) : Calm config connected (modify change : Python Unit) :=
  fun token _ _ => Method.obeys_modify (fun self has => (keeps self).trans has) (Settled.refl token)

theorem Calm.later {connected : Bool} {method : Python α} (calm : Calm config connected method)
    {first token : DaemonToken} (settled : Settled first token) (held : first.held = true)
    (ready : connected = true → first.connected = true) :
    Method.Obeys stateWrites HasLockFd config token method fun _ after => Settled first after := by
  apply Method.obeys_weaken (calm token (settled.1.trans held) fun needs => settled.2.1.trans (ready needs))
  intro outcome after still
  exact settled.trans still

theorem calm_bind {connected : Bool} {first : Python α} {rest : α → Python β} (opening : Calm config connected first)
    (closing : ∀ value, Calm config connected (rest value)) : Calm config connected (first >>= rest) := by
  intro token held ready
  apply Method.obeys_bind (opening token held ready)
  · intro value middle settled
    exact (closing value).later settled held ready
  · intro fault middle settled
    exact settled

theorem calm_tryCatch {connected : Bool} {body : Python α} {handler : Fault → Python α}
    (opening : Calm config connected body) (closing : ∀ fault, Calm config connected (handler fault)) :
    Calm config connected (tryCatch body handler) := by
  intro token held ready
  apply Method.obeys_tryCatch (opening token held ready)
  · intro value middle settled
    exact settled
  · intro fault middle settled
    exact (closing fault).later settled held ready

theorem calm_ite {connected : Bool} {test : Prop} [Decidable test] {yes no : Python α}
    (left : Calm config connected yes) (right : Calm config connected no) :
    Calm config connected (if test then yes else no) := by
  split
  · exact left
  · exact right

theorem Calm.once {method : Python α} (calm : Calm config false method) (connected : Bool) :
    Calm config connected method :=
  fun token held _ => calm token held nofun

/-- A call that the rules do not speak of. -/
theorem calm_call (connected : Bool) (call : DaemonCall) (free : ∀ token, DaemonToken.permitted config token call)
    (kept : ∀ token answer, DaemonToken.advance config token call answer = token) :
    Calm config connected (Method.call call) := by
  intro token _ _
  apply Method.obeys_call (free token)
  intro answer
  change Settled token (DaemonToken.advance config token call answer)
  rw [kept]
  exact Settled.refl token

theorem calm_raising (connected : Bool) (answer : Except Fault α) : Calm config connected (raising answer) := by
  cases answer with
  | ok value => exact calm_pure connected value
  | error fault => exact calm_throw connected fault

theorem calm_check (connected : Bool) : Calm config connected check :=
  calm_bind (calm_call connected .check (fun _ => trivial) fun _ _ => rfl) (calm_raising connected)

theorem calm_ask (connected : Bool) : Calm config connected ask :=
  calm_call connected .ask (fun _ => trivial) fun _ _ => rfl

theorem calm_send (connected : Bool) (frame : Frame) : Calm config connected (send frame) :=
  calm_bind (calm_call connected (.send frame) (fun _ => trivial) fun _ _ => rfl) (calm_raising connected)

/-- All steps but the last one before `ready`. -/
theorem calm_gatt (connected : Bool) (step : GattStep) (before : step ≠ .jblMtu) :
    Calm config connected (gatt step) := by
  refine calm_bind (calm_call connected (.gatt step) (fun _ => trivial) fun token answer => ?_) (calm_raising connected)
  cases step with
  | jblMtu => exact absurd rfl before
  | auraStart | auraConnect | auraNotify | auraMtu | jblStart | jblConnect => rfl

theorem calm_exceptSession {connected : Bool} {body : Python α} {handler : String → Python α}
    (opening : Calm config connected body) (closing : ∀ text, Calm config connected (handler text)) :
    Calm config connected (exceptSession body handler) := by
  apply calm_tryCatch opening
  intro fault
  cases fault with
  | session text => exact closing text
  | value text => exact calm_throw connected _
  | os => exact calm_throw connected _
  | other => exact calm_throw connected _

theorem calm_whenever {connected : Bool} (test : Bool) {body : Python Unit} (calm : Calm config connected body) :
    Calm config connected (whenever test body) :=
  calm_ite calm (calm_pure connected ())

theorem calm_attempted {connected : Bool} {attempt : Python Unit} (calm : Calm config connected attempt) :
    Calm config connected (attempted attempt) :=
  calm_exceptSession (calm_bind calm fun _ => calm_pure connected true) fun _ => calm_pure connected false

theorem calm_isShutdownRequested (connected : Bool) : Calm config connected isShutdownRequested := by
  apply calm_bind (calm_get connected)
  intro self
  apply calm_ite (calm_pure connected true)
  apply calm_bind (calm_ask connected)
  intro requested
  exact calm_bind (calm_modify connected fun _ => rfl) fun _ => calm_pure connected requested

/-! ### Writing -/

/-- Who may write may write the word it may say. -/
theorem writeState_obeys {token : DaemonToken} {self : Supervisor} (may : token.MayWrite)
    (allowed : token.MaySay self.state) :
    stateWrites.Obeys config token (writeState self) fun outcome after =>
      outcome.2.lockFd = self.lockFd ∧ Settled token after := by
  have settled : self.lockFd = self.lockFd ∧ Settled token token := ⟨rfl, Settled.refl token⟩
  refine ⟨trivial, fun parent => ?_⟩
  cases parent with
  | error fault => exact settled
  | ok =>
    refine ⟨trivial, fun links => ?_⟩
    cases links with
    | error fault => exact settled
    | ok =>
      refine ⟨may, fun created => ?_⟩
      cases created with
      | error fault => exact settled
      | ok =>
        refine ⟨⟨may, rfl, allowed⟩, fun wrote => ?_⟩
        cases wrote with
        | error fault => exact settled
        | ok =>
          refine ⟨trivial, fun moded => ?_⟩
          cases moded with
          | error fault => exact settled
          | ok =>
            refine ⟨⟨may, self.state, rfl, allowed⟩, fun replaced => ?_⟩
            cases replaced with
            | error fault => exact settled
            | ok => exact settled

theorem calm_setState {connected : Bool} (state : Word) (error : Option String)
    (ready : state = .ready → connected = true) (online : state ≠ .offline) :
    Calm config connected (setState state error) := by
  intro token held arrived self has
  apply Discipline.obeys_weaken (writeState_obeys (.inl held) ⟨fun said => arrived (ready said), fun said => absurd said online⟩)
  intro outcome after kept
  exact ⟨kept.1.trans has, kept.2⟩

/-! ### Connecting -/

theorem calm_previousStateRequiresNormalization (connected : Bool) :
    Calm config connected previousStateRequiresNormalization := by
  apply calm_bind (calm_call connected .readState (fun _ => trivial) fun _ _ => rfl)
  intro word
  cases word with
  | none => exact calm_pure connected false
  | some word => exact calm_pure connected _

theorem calm_closeAura (connected : Bool) : Calm config connected closeAura := by
  apply calm_bind (calm_get connected)
  intro self
  exact calm_whenever _ (calm_bind (calm_check connected) fun _ => calm_modify connected fun _ => rfl)

theorem calm_waitForAuraRetry (connected : Bool) : Calm config connected waitForAuraRetry := by
  apply calm_bind (calm_isShutdownRequested connected)
  intro requested
  exact calm_ite (calm_throw connected _) (calm_check connected)

theorem calm_connectAuraOnce (connected : Bool) (transport : Transport) :
    Calm config connected (connectAuraOnce transport) := by
  apply calm_bind (calm_ask connected)
  intro expired
  apply calm_ite (calm_throw connected _)
  apply calm_bind (calm_closeAura connected)
  intro _
  refine calm_bind (calm_modify connected fun _ => ?_) fun _ => ?_
  · rfl
  refine calm_bind (calm_exceptSession ?_ ?_) fun _ => calm_modify connected fun _ => rfl
  · apply calm_bind (calm_gatt connected .auraStart nofun)
    intro _
    apply calm_bind (calm_gatt connected .auraConnect nofun)
    intro _
    exact calm_bind (calm_gatt connected .auraNotify nofun) fun _ => calm_gatt connected .auraMtu nofun
  · intro text
    exact calm_bind (calm_closeAura connected) fun _ => calm_throw connected _

theorem calm_scanForAura (connected : Bool) (left attempt : Nat) (summaries : List String) (hint : String) :
    Calm config connected (scanForAura attempt summaries hint left) := by
  induction left generalizing attempt summaries hint with
  | zero => exact calm_pure connected _
  | succ left ih =>
    apply calm_bind (calm_isShutdownRequested connected)
    intro requested
    apply calm_ite (calm_throw connected _)
    apply calm_bind (calm_ask connected)
    intro expired
    apply calm_ite (calm_pure connected _)
    apply calm_bind (calm_call connected .resolve (fun _ => trivial) fun _ _ => rfl)
    intro answer
    apply calm_bind (calm_raising connected answer)
    intro scan
    dsimp only
    have wait (summaries : List String) : Calm config connected
        (do
          if left ≠ 0 then
            if !(← ask) then waitForAuraRetry
          scanForAura (attempt + 1) summaries scan.hint left) := by
      dsimp only
      apply calm_ite
      · apply calm_bind (calm_ask connected)
        intro late
        apply calm_ite
        · exact calm_bind (calm_waitForAuraRetry connected) fun _ => ih _ _ _
        · exact ih _ _ _
      · exact ih _ _ _
    apply calm_ite
    · apply calm_bind (calm_attempted (calm_connectAuraOnce connected .le))
      intro done
      exact calm_ite (calm_pure connected _) (wait _)
    · exact wait _

theorem calm_connectAuraBredr (connected : Bool) (left : Nat) : Calm config connected (connectAuraBredr left) := by
  induction left with
  | zero => exact calm_throw connected _
  | succ left ih =>
    apply calm_bind (calm_isShutdownRequested connected)
    intro requested
    apply calm_ite (calm_throw connected _)
    apply calm_bind (calm_attempted (calm_connectAuraOnce connected .bredr))
    intro done
    exact calm_ite (calm_pure connected ()) (calm_bind (calm_check connected) fun _ => ih)

theorem calm_connectAura (connected : Bool) (setup : Config) : Calm config connected (connectAura setup) := by
  have scans : Calm config connected (connectAuraLe setup) :=
    calm_ite (calm_pure connected _) (calm_scanForAura connected _ _ _ _)
  apply calm_bind scans
  intro scanned
  apply calm_ite (calm_pure connected ())
  apply calm_ite (calm_throw connected _)
  exact calm_bind (calm_call connected .rounds (fun _ => trivial) fun _ _ => rfl) (calm_connectAuraBredr connected)

/-! ### Links -/

theorem calm_bestEffortStop (connected : Bool) : Calm config connected bestEffortStop := by
  apply calm_bind (calm_attempted (calm_send connected .auraOff))
  intro off
  apply calm_bind (calm_attempted (calm_send connected .stop))
  intro stop
  exact calm_bind (calm_attempted (calm_send connected .exit)) fun _ => calm_pure connected _

theorem calm_stopOrDegrade (error : String) : Calm config true (stopOrDegrade error) := by
  apply calm_bind (calm_bestEffortStop true)
  intro stopped
  apply calm_ite
  · exact calm_bind (calm_setState .degraded (some error) nofun nofun) fun _ => calm_throw true _
  · exact calm_setState .ready none (fun _ => rfl) nofun

theorem calm_startLink : Calm config true startLink := by
  apply calm_bind (calm_get true)
  intro self
  apply calm_ite (calm_pure true ())
  apply calm_ite (calm_throw true _)
  apply calm_bind (calm_setState .starting none nofun nofun)
  intro _
  refine calm_bind (calm_exceptSession ?_ ?_) fun _ => calm_setState .linked none nofun nofun
  · apply calm_bind (calm_send true .enter)
    intro _
    apply calm_bind (calm_send true .start)
    intro _
    exact calm_bind (calm_check true) fun _ => calm_send true .auraOn
  · intro text
    apply calm_bind (calm_setState .degraded (some text) nofun nofun)
    intro _
    exact calm_bind (calm_bestEffortStop true) fun _ => calm_throw true _

theorem calm_stopLink : Calm config true stopLink := by
  apply calm_bind (calm_get true)
  intro self
  apply calm_ite (calm_pure true ())
  apply calm_ite (calm_throw true _)
  exact calm_bind (calm_setState .stopping none nofun nofun) fun _ => calm_stopOrDegrade _

/-! ### Serving -/

theorem calm_handle (command : String) : Calm config true (handle command) := by
  apply calm_ite (calm_pure true ())
  apply calm_ite calm_startLink
  apply calm_ite calm_stopLink
  refine calm_ite ?_ (calm_throw true _)
  apply calm_bind (calm_get true)
  intro self
  exact calm_bind (calm_whenever _ calm_stopLink) fun _ => calm_modify true fun _ => rfl

theorem calm_answer (data : Except Fault String) : Calm config true (answer data) := by
  refine calm_bind (calm_tryCatch (calm_bind (calm_raising true data) calm_handle) ?_) fun _ => calm_check true
  intro fault
  cases fault with
  | session text => exact calm_pure true ()
  | value text => exact calm_pure true ()
  | os => exact calm_throw true _
  | other => exact calm_throw true _

theorem calm_serveRounds (left : Nat) : Calm config true (serveRounds left) := by
  induction left with
  | zero =>
    apply calm_bind (calm_call true .blocked (fun _ => trivial) fun _ _ => rfl)
    intro never
    cases never
  | succ left ih =>
    apply calm_bind (calm_get true)
    intro self
    apply calm_ite (calm_pure true ())
    apply calm_bind (calm_isShutdownRequested true)
    intro requested
    apply calm_ite (calm_pure true ())
    apply calm_bind (calm_get true)
    intro self
    apply calm_ite (calm_throw true _)
    refine calm_bind (calm_bind (calm_get true) fun self => calm_ite (calm_ask true) (calm_pure true false)) ?_
    intro connected
    apply calm_ite (calm_throw true _)
    apply calm_bind (calm_call true .accept (fun _ => trivial) fun _ _ => rfl)
    intro accepted
    cases accepted with
    | timeout => exact ih
    | received data => exact calm_bind (calm_answer data) fun _ => ih
    | broken fault => exact calm_throw true fault

/-- Both sessions are connected when the method returns. -/
def Arrives (before : DaemonToken) (outcome : Except Fault α) (after : DaemonToken) : Prop :=
  after.held = before.held ∧ after.left = before.left ∧ (outcome.isOk = true → after.connected = true)

def Arriving (config : Config) (method : Python α) : Prop :=
  ∀ token : DaemonToken, token.held = true → Method.Obeys stateWrites HasLockFd config token method (Arrives token)

theorem arriving_bind {first : Python α} {rest : α → Python β} (opening : Calm config false first)
    (closing : ∀ value, Arriving config (rest value)) : Arriving config (first >>= rest) := by
  intro token held
  apply Method.obeys_bind (opening token held nofun)
  · intro value middle settled
    apply Method.obeys_weaken (closing value middle (settled.1.trans held))
    intro outcome after arrived
    exact ⟨arrived.1.trans settled.1, arrived.2.1.trans settled.2.2, arrived.2.2⟩
  · intro fault middle settled
    exact ⟨settled.1, settled.2.2, nofun⟩

/-- The last step of connecting. -/
theorem arriving_jblMtu {rest : Unit → Python Unit} (closing : ∀ value, Calm config true (rest value)) :
    Arriving config (gatt .jblMtu >>= rest) := by
  intro token held
  have tuned : Method.Obeys stateWrites HasLockFd config token (gatt .jblMtu) (Arrives token) := by
    refine fun self has => ⟨trivial, fun outcome => ?_⟩
    cases outcome with
    | ok => exact ⟨has, rfl, rfl, fun _ => Bool.or_true _⟩
    | error fault => exact ⟨has, rfl, rfl, nofun⟩
  apply Method.obeys_bind tuned
  · intro value middle arrived
    apply Method.obeys_weaken (closing value middle (arrived.1.trans held) fun _ => arrived.2.2 rfl)
    intro outcome after settled
    exact ⟨settled.1.trans arrived.1, settled.2.2.trans arrived.2.1, fun _ => settled.2.1.trans (arrived.2.2 rfl)⟩
  · intro fault middle arrived
    exact ⟨arrived.1, arrived.2.1, nofun⟩

theorem arriving_connectSessions (setup : Config) : Arriving config (connectSessions setup) := by
  apply arriving_bind (calm_previousStateRequiresNormalization false)
  intro normalizeRoles
  apply arriving_bind (calm_setState .connecting none nofun nofun)
  intro _
  apply arriving_bind (calm_connectAura false setup)
  intro _
  refine arriving_bind (calm_modify false fun _ => ?_) fun _ => ?_
  · rfl
  apply arriving_bind (calm_gatt false .jblStart nofun)
  intro _
  apply arriving_bind (calm_gatt false .jblConnect nofun)
  intro _
  apply arriving_jblMtu
  intro _
  apply calm_bind (calm_setState .ready none (fun _ => rfl) nofun)
  intro _
  exact calm_whenever normalizeRoles (calm_stopOrDegrade _)

/-- The daemon still holds what it held. -/
def Remains (before : DaemonToken) (_ : Except Fault α) (after : DaemonToken) : Prop :=
  after.held = before.held ∧ after.left = before.left

theorem serveConnected_remains (setup : Config) {token : DaemonToken} (held : token.held = true) :
    Method.Obeys stateWrites HasLockFd config token (serveConnected setup) (Remains token) := by
  apply Method.obeys_bind (arriving_connectSessions setup token held)
  · intro _ middle arrived
    have served : Calm config true (do
        bindServer
        serveRounds (← Method.call DaemonCall.rounds)
        let self ← get
        whenever (self.shutdownRequested && self.state ≠ .ready) do
          exceptSession stopLink fun _ => pure ()) := by
      refine calm_bind (calm_bind (calm_check true) fun _ => calm_modify true fun _ => ?_) fun _ => ?_
      · rfl
      apply calm_bind (calm_call true .rounds (fun _ => trivial) fun _ _ => rfl)
      intro rounds
      apply calm_bind (calm_serveRounds rounds)
      intro _
      apply calm_bind (calm_get true)
      intro self
      exact calm_whenever _ (calm_exceptSession calm_stopLink fun _ => calm_pure true ())
    apply Method.obeys_weaken (served middle (arrived.1.trans held) fun _ => arrived.2.2 rfl)
    intro outcome after settled
    exact ⟨settled.1.trans arrived.1, settled.2.2.trans arrived.2.1⟩
  · intro fault middle arrived
    exact ⟨arrived.1, arrived.2.1⟩

theorem guarded_remains (setup : Config) {token : DaemonToken} (held : token.held = true) :
    Method.Obeys stateWrites HasLockFd config token
      (exceptSession (serveConnected setup) fun text => setState .failed (some text)) (Remains token) := by
  apply Method.obeys_tryCatch (serveConnected_remains setup held)
  · intro value middle remains
    exact remains
  · intro fault middle remains
    cases fault with
    | session text =>
      have fails : Calm config false (setState .failed (some text)) := calm_setState .failed (some text) nofun nofun
      apply Method.obeys_weaken (fails middle (remains.1.trans held) nofun)
      intro outcome after settled
      exact ⟨settled.1.trans remains.1, settled.2.2.trans remains.2⟩
    | value text => exact Method.obeys_throw remains
    | os => exact Method.obeys_throw remains
    | other => exact Method.obeys_throw remains

/-! ### Cleaning up -/

theorem publishOffline_obeys {token : DaemonToken} (left : token.left = true) (self : Supervisor) :
    stateWrites.Obeys config token (publishOffline self) fun _ _ => True := by
  have silent : token.MaySay .offline := ⟨nofun, fun _ => left⟩
  apply Discipline.obeys_bind (writeState_obeys (.inr left) silent)
  intro outcome middle _
  obtain ⟨result, self⟩ := outcome
  cases result with
  | ok => exact trivial
  | error fault => cases fault <;> exact trivial

/-- The lock is closed first. Only a daemon that leaves in another state than failed or
degraded has something to write afterwards. -/
theorem cleanup_obeys {token : DaemonToken} {self : Supervisor} (held : token.held = true) (has : HasLockFd self) :
    stateWrites.Obeys config token (cleanup self) fun _ _ => True := by
  have closing : Calm config false (do closeChildren (← get)) := by
    apply calm_bind (calm_get false)
    intro self
    apply calm_bind (calm_whenever self.server (calm_check false))
    intro _
    apply calm_bind (calm_whenever self.jbl (calm_check false))
    intro _
    exact calm_bind (calm_whenever self.aura (calm_check false)) fun _ => calm_check false
  apply Discipline.obeys_bind (closing token held nofun self has)
  intro outcome middle reached
  obtain ⟨result, self⟩ := outcome
  obtain ⟨has, settled⟩ := reached
  cases result with
  | error fault => exact trivial
  | ok =>
    change stateWrites.Obeys config middle ((whenever self.lockFd (closeLock self) >>= fun _ => get >>= fun last =>
      whenever (!last.state.isFinal) publishOffline) self) _
    rw [show self.lockFd = true from has]
    refine ⟨settled.1.trans held, fun _ => ?_⟩
    change stateWrites.Obeys config _ (whenever (!self.state.isFinal) publishOffline { self with lockFd := false }) _
    cases final : self.state.isFinal with
    | true => exact trivial
    | false =>
      apply publishOffline_obeys
      change (!self.state.isFinal) = true
      rw [final]
      rfl

/-- However the body ended, the cleanup comes next and is made once. -/
theorem afterwards_obeys {token : DaemonToken} {body : Python Unit} {self : Supervisor} (held : token.held = true)
    (has : HasLockFd self) (inside : Method.Obeys stateWrites HasLockFd config token body (Remains token)) :
    stateWrites.Obeys config token (afterwards body cleanup self) fun _ _ => True := by
  have caught : stateWrites.Obeys config token
      ((tryCatch body fun fault => do cleanup; throw fault : Python Unit) self)
      fun outcome after => outcome.1.isOk = true → HasLockFd outcome.2 ∧ after.held = true := by
    apply Discipline.obeys_bind (inside self has)
    intro outcome middle reached
    obtain ⟨result, self⟩ := outcome
    have still : middle.held = true := reached.2.1.trans held
    cases result with
    | ok => exact fun _ => ⟨reached.1, still⟩
    | error fault =>
      apply Discipline.obeys_bind (cleanup_obeys still reached.1)
      intro outcome last _
      obtain ⟨result, self⟩ := outcome
      cases result <;> exact nofun
  apply Discipline.obeys_bind caught
  intro outcome middle reached
  obtain ⟨result, self⟩ := outcome
  cases result with
  | error fault => exact trivial
  | ok =>
    obtain ⟨has, still⟩ := reached rfl
    apply Discipline.obeys_bind (cleanup_obeys still has)
    intro outcome last _
    obtain ⟨result, self⟩ := outcome
    cases result <;> exact trivial

theorem serve_obeys (setup : Config) : stateWrites.Obeys config .fresh (serve setup Supervisor.new) fun _ _ => True := by
  refine ⟨trivial, fun parent => ?_⟩
  cases parent with
  | error fault => exact trivial
  | ok =>
    refine ⟨trivial, fun links => ?_⟩
    cases links with
    | error fault => exact trivial
    | ok =>
      refine ⟨rfl, fun locked => ?_⟩
      cases locked with
      | false => exact trivial
      | true => exact afterwards_obeys rfl rfl (guarded_remains setup rfl)

theorem program_obeys (setup : Config) : stateWrites.Obeys setup .fresh (program setup) fun _ _ => True := by
  apply Discipline.obeys_bind (serve_obeys setup)
  intro outcome after _
  exact trivial

end Supervisor
end PlayTogether.Legacy
