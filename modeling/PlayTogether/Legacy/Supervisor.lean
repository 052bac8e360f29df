import PlayTogether.Library.Interleaving

/-! The v0.4 session daemon. One state word on disk is all that a replacement daemon knows
of the one before; the daemon is a program of single calls and may be killed at any of them. -/

namespace PlayTogether.Legacy
open PlayTogether.Library

/-- The words of the state file. -/
inductive Word where
  | initializing
  | connecting
  | ready
  | starting
  | linked
  | stopping
  | degraded
  | failed
  | offline
  deriving DecidableEq, Repr

namespace Word

/-- How the word stands in the texts of errors. -/
def text : Word → String
  | .initializing => "initializing"
  | .connecting => "connecting"
  | .ready => "ready"
  | .starting => "starting"
  | .linked => "linked"
  | .stopping => "stopping"
  | .degraded => "degraded"
  | .failed => "failed"
  | .offline => "offline"

/-- The words after which a replacement daemon normalizes the roles. -/
def requiresNormalization (word : Word) : Bool :=
  [linked, starting, stopping, degraded, failed].contains word

/-- The words that `cleanup` leaves on disk. -/
def isFinal (word : Word) : Bool := [failed, degraded].contains word

end Word

inductive Transport where
  | unresolved
  | le
  | bredr
  deriving DecidableEq, Repr

inductive TransportChoice where
  | auto
  | le
  | bredr
  deriving DecidableEq, Repr

structure Config where
  auraTransport : TransportChoice
  auraLeRetries : Nat
  deriving DecidableEq, Repr

/-- The role writes of a link and of its end. -/
inductive Frame where
  | enter
  | start
  | auraOn
  | auraOff
  | stop
  | exit
  deriving DecidableEq, Repr

def Frame.starts : Frame → Bool
  | .enter | .start | .auraOn => true
  | .auraOff | .stop | .exit => false

inductive GattStep where
  | auraStart
  | auraConnect
  | auraNotify
  | auraMtu
  | jblStart
  | jblConnect
  | jblMtu
  deriving DecidableEq, Repr

/-- A `SessionError`, a decoding or value error, an `OSError`, and any other exception. -/
inductive Fault where
  | session (text : String)
  | value (text : String)
  | os
  | other
  deriving DecidableEq, Repr

structure Record where
  state : Word
  lastError : Option String
  auraTransport : Transport
  deriving DecidableEq, Repr

/-- One LE scan: whether a candidate was resolved, and the resolver's texts. -/
structure Scan where
  candidate : Bool
  summary : String
  hint : String

inductive Accepted where
  | timeout
  | received (data : Except Fault String)
  | broken (fault : Fault)

/-- Single calls. A check is any step that only may raise; `blocked` never returns. The
word that `close` carries is the state in which the daemon gives its lock away. -/
inductive DaemonCall where
  | check
  | ask
  | rounds
  | blocked
  | flock
  | close (state : Word)
  | readState
  | create
  | write (record : Record)
  | replace
  | gatt (step : GattStep)
  | send (frame : Frame)
  | resolve
  | accept

def DaemonCall.Answer : DaemonCall → Type
  | .check | .create | .write _ | .replace | .gatt _ | .send _ => Except Fault Unit
  | .ask | .flock => Bool
  | .rounds => Nat
  | .blocked => Empty
  | .close _ => Unit
  | .readState => Option Word
  | .resolve => Except Fault Scan
  | .accept => Accepted

structure Supervisor where
  state : Word
  lastError : Option String
  running : Bool
  shutdownRequested : Bool
  server : Bool
  lockFd : Bool
  aura : Bool
  jbl : Bool
  auraTransport : Transport

abbrev Python (α : Type) : Type := Method Fault Supervisor DaemonCall DaemonCall.Answer α

namespace Supervisor

def new : Supervisor where
  state := .initializing
  lastError := none
  running := true
  shutdownRequested := false
  server := false
  lockFd := false
  aura := false
  jbl := false
  auraTransport := .unresolved

/-- A call that returns or raises. -/
def raising (answer : Except Fault α) : Python α :=
  match answer with
  | .ok value => pure value
  | .error fault => throw fault

/-- `except SessionError as error` -/
def exceptSession (body : Python α) (handler : String → Python α) : Python α :=
  tryCatch body fun fault =>
    match fault with
    | .session text => handler text
    | fault => throw fault

/-- `try` and `finally` -/
def afterwards (body : Python α) (last : Python Unit) : Python α := do
  let value ← tryCatch body fun fault => do
    last
    throw fault
  last
  return value

def whenever (test : Bool) (body : Python Unit) : Python Unit :=
  if test then body else pure ()

def check : Python Unit := do raising (← Method.call DaemonCall.check)

def ask : Python Bool := Method.call DaemonCall.ask

def gatt (step : GattStep) : Python Unit := do raising (← Method.call (DaemonCall.gatt step))

def send (frame : Frame) : Python Unit := do raising (← Method.call (DaemonCall.send frame))

/-- The signal handler sets the flag at any time and never clears it. -/
def isShutdownRequested : Python Bool := do
  if (← get).shutdownRequested then return true
  let requested ← ask
  modify fun self => { self with shutdownRequested := requested }
  return requested

/-! ## The state file -/

def previousStateRequiresNormalization : Python Bool := do
  match ← Method.call DaemonCall.readState with
  | none => return false
  | some word => return word.requiresNormalization

def acquireLock : Python Unit := do
  check
  check
  modify fun self => { self with lockFd := true }
  if !(← Method.call DaemonCall.flock) then throw (.session "another persistent session is already running")

def writeState : Python Unit := do
  check
  let self ← get
  check
  raising (← Method.call DaemonCall.create)
  raising (← Method.call (DaemonCall.write ⟨self.state, self.lastError, self.auraTransport⟩))
  check
  raising (← Method.call DaemonCall.replace)

def setState (state : Word) (error : Option String) : Python Unit := do
  modify fun self => { self with state := state, lastError := error }
  writeState

/-! ## Connecting -/

def closeAura : Python Unit := do
  whenever (← get).aura do
    check
    modify fun self => { self with aura := false }

def waitForAuraRetry : Python Unit := do
  if ← isShutdownRequested then throw (.session "shutdown requested while waiting for Aura")
  check

def connectAuraOnce (transport : Transport) : Python Unit := do
  if ← ask then throw (.session "Aura connection deadline expired")
  closeAura
  modify fun self => { self with aura := true }
  exceptSession (do
      gatt .auraStart
      gatt .auraConnect
      gatt .auraNotify
      gatt .auraMtu)
    fun text => do
      closeAura
      throw (.session text)
  modify fun self => { self with auraTransport := transport }

/-- Whether there was no `SessionError`. -/
def attempted (attempt : Python Unit) : Python Bool :=
  exceptSession (do attempt; return true) fun _ => return false

/-- The attempts from number `attempt` on, with the texts of the scans so far. Whether a
bearer was connected, and the texts. -/
def scanForAura (attempt : Nat) (summaries : List String) (hint : String) :
    Nat → Python (Bool × List String × String)
  | 0 => return (false, summaries, hint)
  | left + 1 => do
    if ← isShutdownRequested then throw (.session "shutdown requested while waiting for Aura")
    if ← ask then return (false, summaries, hint)
    let scan ← raising (← Method.call DaemonCall.resolve)
    let summaries := summaries ++ ["scan " ++ toString attempt ++ ": " ++ scan.summary]
    if scan.candidate then
      if ← attempted (connectAuraOnce .le) then return (true, summaries, scan.hint)
    if left ≠ 0 then
      if !(← ask) then waitForAuraRetry
    scanForAura (attempt + 1) summaries scan.hint left

/-- The stable address again and again until the deadline. -/
def connectAuraBredr : Nat → Python Unit
  | 0 => throw (.session "Aura did not become connectable through verified BR/EDR or LE paths")
  | left + 1 => do
    if ← isShutdownRequested then throw (.session "shutdown requested while waiting for Aura")
    if ← attempted (connectAuraOnce .bredr) then return
    check
    connectAuraBredr left

def leSummary (summaries : List String) : String :=
  if summaries.isEmpty then "not scanned" else "; ".intercalate summaries

def connectAuraLe (config : Config) : Python (Bool × List String × String) :=
  if config.auraTransport = .bredr then return (false, [], "")
  else scanForAura 1 [] "" (config.auraLeRetries + 1)

def connectAura (config : Config) : Python Unit := do
  let scanned ← connectAuraLe config
  if scanned.1 then return
  if config.auraTransport = .le then
    throw (.session ("no verified Aura LE advertisement became connectable (" ++ leSummary scanned.2.1 ++ ")"
      ++ scanned.2.2))
  connectAuraBredr (← Method.call DaemonCall.rounds)

/-! ## Links -/

/-- A `SessionError` of one write is logged, and the next one is made all the same. -/
def bestEffortStop : Python Bool := do
  let off ← attempted (send .auraOff)
  let stop ← attempted (send .stop)
  let exit ← attempted (send .exit)
  return off && stop && exit

/-- A stop that was not acknowledged leaves the daemon degraded. -/
def stopOrDegrade (error : String) : Python Unit := do
  if !(← bestEffortStop) then
    setState .degraded (some error)
    throw (.session error)
  setState .ready none

def connectSessions (config : Config) : Python Unit := do
  let normalizeRoles ← previousStateRequiresNormalization
  setState .connecting none
  connectAura config
  modify fun self => { self with jbl := true }
  gatt .jblStart
  gatt .jblConnect
  gatt .jblMtu
  setState .ready none
  whenever normalizeRoles do
    stopOrDegrade "could not normalize roles after an unclean prior session"

def startLink : Python Unit := do
  let self ← get
  if self.state = .linked then return
  if self.state ≠ .ready then throw (.session ("cannot start from state " ++ self.state.text))
  setState .starting none
  exceptSession (do
      send .enter
      send .start
      check
      send .auraOn)
    fun text => do
      setState .degraded (some text)
      let _ ← bestEffortStop
      throw (.session text)
  setState .linked none

def stopLink : Python Unit := do
  let self ← get
  if self.state = .ready then return
  if self.state ≠ .linked ∧ self.state ≠ .degraded then
    throw (.session ("cannot stop from state " ++ self.state.text))
  setState .stopping none
  stopOrDegrade "one or more persistent stop acknowledgements failed"

/-! ## Serving -/

def handle (command : String) : Python Unit := do
  if command = "status" then return
  else if command = "start" then startLink
  else if command = "stop" then stopLink
  else if command = "shutdown" then
    whenever ((← get).state ≠ .ready) stopLink
    modify fun self => { self with running := false }
  else throw (.session ("unknown local command: " ++ command))

/-- The reply tells the client what went wrong; the daemon goes on. -/
def answer (data : Except Fault String) : Python Unit := do
  tryCatch (do handle (← raising data)) fun fault =>
    match fault with
    | .session _ | .value _ => pure ()
    | fault => throw fault
  check

def bindServer : Python Unit := do
  check
  modify fun self => { self with server := true }

def controlSessionsConnected : Python Bool := do
  let self ← get
  if self.aura && self.jbl then ask else return false

/-- As many rounds as the daemon has lived for. -/
def serveRounds : Nat → Python Unit
  | 0 => do nomatch ← Method.call DaemonCall.blocked
  | left + 1 => do
    if !(← get).running then return
    if ← isShutdownRequested then return
    let self ← get
    if self.state = .degraded then
      throw (.session ((self.lastError.filter (· ≠ "")).getD "managed session entered degraded state"))
    if !(← controlSessionsConnected) then
      throw (.session ("control bearer disconnected while state=" ++ self.state.text))
    match ← Method.call DaemonCall.accept with
    | .timeout => serveRounds left
    | .received data =>
      answer data
      serveRounds left
    | .broken fault => throw fault

def serveConnected (config : Config) : Python Unit := do
  connectSessions config
  bindServer
  serveRounds (← Method.call DaemonCall.rounds)
  let self ← get
  whenever (self.shutdownRequested && self.state ≠ .ready) do
    exceptSession stopLink fun _ => pure ()

def closeChildren (self : Supervisor) : Python Unit := do
  whenever self.server check
  whenever self.jbl check
  whenever self.aura check
  check

/-- An `OSError` of the last write is passed over. -/
def publishOffline : Python Unit := do
  modify fun self => { self with state := .offline, lastError := none }
  tryCatch writeState fun fault =>
    match fault with
    | .os => pure ()
    | fault => throw fault

def closeLock (self : Supervisor) : Python Unit := do
  Method.call (DaemonCall.close self.state)
  modify fun self => { self with lockFd := false }

def cleanup : Python Unit := do
  closeChildren (← get)
  whenever (← get).lockFd (closeLock (← get))
  whenever (!(← get).state.isFinal) publishOffline

def serve (config : Config) : Python Unit := do
  acquireLock
  afterwards (exceptSession (serveConnected config) fun text => setState .failed (some text)) cleanup

def program (config : Config) : Code DaemonCall DaemonCall.Answer Unit := do
  let _ ← serve config Supervisor.new

end Supervisor

/-! ## The runtime directory -/

structure Payload (π : Type) where
  pid : π
  record : Record
  deriving DecidableEq

/-- What can be seen from outside: a lock was taken, a role write was made and may have been
delivered, the state file was replaced. -/
inductive DaemonEvent (π : Type) where
  | locked (p : π)
  | sent (p : π) (frame : Frame) (acknowledged : Bool)
  | published (p : π) (word : Option Word)
  deriving DecidableEq

/-- The session lock, the two names of the state file with what they stand for, the open
temporary files, and the events so far, the latest first. A file without a payload is empty
or cannot be read as one. -/
structure Disk (π : Type) where
  holder : Option π
  temporary : Option Nat
  stateFile : Option Nat
  content : Nat → Option (Payload π)
  fresh : Nat
  opened : π → Option Nat
  trace : List (DaemonEvent π)

namespace Disk
variable {π : Type} [DecidableEq π]

def word (w : Disk π) : Option Word := do
  let file ← w.stateFile
  let payload ← w.content file
  return payload.record.state

def lock (p : π) (w : Disk π) : Disk π := { w with holder := some p, trace := .locked p :: w.trace }

def release (p : π) (w : Disk π) : Disk π := if w.holder = some p then { w with holder := none } else w

/-- The file is emptied, or a new one made. -/
def create (p : π) (w : Disk π) : Disk π :=
  match w.temporary with
  | some file => { w with content := Function.update w.content file none, opened := Function.update w.opened p (some file) }
  | none =>
    { w with
      temporary := some w.fresh
      content := Function.update w.content w.fresh none
      fresh := w.fresh + 1
      opened := Function.update w.opened p (some w.fresh) }

/-- What is written goes to the open file, whatever its name has become. -/
def write (p : π) (file : Nat) (record : Record) (w : Disk π) : Disk π :=
  { w with content := Function.update w.content file (some ⟨p, record⟩) }

def publish (p : π) (file : Nat) (w : Disk π) : Disk π :=
  { w with
    temporary := none
    stateFile := some file
    trace := .published p ((w.content file).map fun payload => payload.record.state) :: w.trace }

def deliver (p : π) (frame : Frame) (outcome : Except Fault Unit) (w : Disk π) : Disk π :=
  { w with trace := .sent p frame outcome.isOk :: w.trace }

/-- What a call may answer and do. -/
inductive Performs (p : π) (w : Disk π) : (call : DaemonCall) → call.Answer → Disk π → Prop where
  | checked (outcome : Except Fault Unit) : Performs p w .check outcome w
  | asked (answer : Bool) : Performs p w .ask answer w
  | counted (rounds : Nat) : Performs p w .rounds rounds w
  | locked (free : w.holder = none) : Performs p w .flock true (w.lock p)
  | busy : Performs p w .flock false w
  | closed {state : Word} : Performs p w (.close state) () (w.release p)
  | read : Performs p w .readState w.word w
  | unread : Performs p w .readState none w
  | created : Performs p w .create (.ok ()) (w.create p)
  | uncreated (fault : Fault) : Performs p w .create (.error fault) w
  | wrote {record : Record} {file : Nat} (opened : w.opened p = some file) :
      Performs p w (.write record) (.ok ()) (w.write p file record)
  | unwritten {record : Record} (fault : Fault) : Performs p w (.write record) (.error fault) w
  | replaced {file : Nat} (there : w.temporary = some file) : Performs p w .replace (.ok ()) (w.publish p file)
  | unreplaced (fault : Fault) : Performs p w .replace (.error fault) w
  | stepped {step : GattStep} (outcome : Except Fault Unit) : Performs p w (.gatt step) outcome w
  | sent {frame : Frame} (outcome : Except Fault Unit) : Performs p w (.send frame) outcome (w.deliver p frame outcome)
  | resolved (outcome : Except Fault Scan) : Performs p w .resolve outcome w
  | accepted (outcome : Accepted) : Performs p w .accept outcome w

/-- Nobody holds the lock; any state file may have been left behind. -/
structure AtRest (w : Disk π) : Prop where
  holder : w.holder = none
  trace : w.trace = []
  apart : ∀ file, w.temporary = some file → file < w.fresh ∧ w.stateFile ≠ some file
  below : ∀ file, w.stateFile = some file → file < w.fresh

end Disk

/-- Daemons that run at the same time, under a condition on their steps. A killed daemon
loses its lock and its open file. -/
def daemons (π : Type) [DecidableEq π] (admits : (π → Option Config) → Prop)
    (meets : Disk π → (call : DaemonCall) → call.Answer → Prop) :
    Machine π Config (Disk π) DaemonCall DaemonCall.Answer where
  program := Supervisor.program
  admits running _ := admits running
  performs p call w answer after := w.Performs p call answer after ∧ meets w call answer
  leaves p w after := after = { w.release p with opened := Function.update w.opened p none }

namespace Disk
variable {π : Type} [DecidableEq π] {p : π} {yes : Bool}

/-- Answers under which nothing fails: one round, in which a client asks for the link. -/
def favourable (p : π) (yes : Bool) : (call : DaemonCall) → Disk π → Option (call.Answer × Disk π)
  | .check, w => some (Except.ok (), w)
  | .ask, w => some (yes, w)
  | .rounds, w => some ((1 : Nat), w)
  | .blocked, _ => none
  | .flock, w => if w.holder = none then some (true, w.lock p) else some (false, w)
  | .close _, w => some ((), w.release p)
  | .readState, w => some (w.word, w)
  | .create, w => some (Except.ok (), w.create p)
  | .write record, w => (w.opened p).map fun file => (Except.ok (), w.write p file record)
  | .replace, w => w.temporary.map fun file => (Except.ok (), w.publish p file)
  | .gatt _, w => some (Except.ok (), w)
  | .send frame, w => some (Except.ok (), w.deliver p frame (.ok ()))
  | .resolve, w => some (Except.ok ⟨true, "", ""⟩, w)
  | .accept, w => some (Accepted.received (.ok "start"), w)

theorem favourable_performs {call : DaemonCall} {w after : Disk π} {answer : call.Answer}
    (found : favourable p yes call w = some (answer, after)) : w.Performs p call answer after := by
  cases call with
  | check => cases found; exact .checked _
  | ask => cases found; exact .asked _
  | rounds => cases found; exact .counted _
  | blocked => cases found
  | flock =>
    simp only [favourable] at found
    split at found
    next free => cases found; exact .locked free
    next => cases found; exact .busy
  | close state => cases found; exact .closed
  | readState => cases found; exact .read
  | create => cases found; exact .created
  | write record =>
    obtain ⟨file, opened, same⟩ := Option.map_eq_some_iff.mp found
    cases same
    exact .wrote opened
  | replace =>
    obtain ⟨file, there, same⟩ := Option.map_eq_some_iff.mp found
    cases same
    exact .replaced there
  | gatt step => cases found; exact .stepped _
  | send frame => cases found; exact .sent _
  | resolve => cases found; exact .resolved _
  | accept => cases found; exact .accepted _

end Disk

end PlayTogether.Legacy
