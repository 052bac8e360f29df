import PlayTogether.Library.Interleaving

/-! Who may own the speakers. The v0.4 commands, its systemd hooks and daemons and the Rust
service share two lock files and one marker directory below the runtime directory; each of
them is a program of single system calls. -/

namespace PlayTogether.Legacy
open PlayTogether.Library

inductive LockFile where
  | operation
  | session
  deriving DecidableEq, Repr

/-- What `launch.reservation` may hold: the claim of a service invocation, or anything else. -/
inductive Entry (ι : Type) where
  | claim (invocation : ι)
  | other (name : String)
  deriving DecidableEq

inductive Marker (ι : Type) where
  | reservation
  | entry (entry : Entry ι)
  deriving DecidableEq

/-- Points of a program that its callers can tell. -/
inductive Milestone (ι : Type) where
  | entered
  | constructed
  | claimed (invocation : ι)
  deriving DecidableEq

/-- Single system calls. What depends on file ownership and modes, on the devices and on
systemd is asked from the environment. -/
inductive SystemCall (ι : Type) where
  | flock (lock : LockFile)
  | unlock (lock : LockFile)
  | mkdir (path : Marker ι)
  | rmdir (path : Marker ι)
  | stat (path : Marker ι)
  | readdir
  | ask
  | reach (milestone : Milestone ι)

def SystemCall.Answer {ι : Type} : SystemCall ι → Type
  | .flock _ | .mkdir _ | .rmdir _ | .stat _ | .ask => Bool
  | .readdir => List (Entry ι)
  | .unlock _ | .reach _ => Unit

abbrev Shell (ι α : Type) : Type := Code (SystemCall ι) SystemCall.Answer α

namespace Shell
variable {ι : Type}

def flock (lock : LockFile) : Shell ι Bool := Code.step (SystemCall.flock lock)

def unlock (lock : LockFile) : Shell ι Unit := Code.step (SystemCall.unlock lock)

def mkdir (path : Marker ι) : Shell ι Bool := Code.step (SystemCall.mkdir path)

def rmdir (path : Marker ι) : Shell ι Bool := Code.step (SystemCall.rmdir path)

def stat (path : Marker ι) : Shell ι Bool := Code.step (SystemCall.stat path)

def readdir : Shell ι (List (Entry ι)) := Code.step SystemCall.readdir

def ask : Shell ι Bool := Code.step SystemCall.ask

def reach (milestone : Milestone ι) : Shell ι Unit := Code.step (SystemCall.reach milestone)

/-! ## Locks and the reservation -/

/-- The runtime directory is private; no program ever removes it. -/
def ensurePrivateDirectory : Shell ι Bool := ask

def acquireLock (held : Bool) : Shell ι Bool := do
  if held then return true
  if !(← ensurePrivateDirectory) then return false
  flock .operation

def launchReservationPresent : Shell ι Bool := stat .reservation

/-- Owner and mode of a path that is still there. -/
def trusted (path : Marker ι) : Shell ι Bool := do
  if !(← stat path) then return false
  ask

def validateLaunchReservation : Shell ι Bool := do
  if !(← ensurePrivateDirectory) then return false
  if !(← stat .reservation) then return false
  trusted .reservation

def createLaunchReservation : Shell ι Bool := do
  if !(← ensurePrivateDirectory) then return false
  if ← launchReservationPresent then
    let _ ← validateLaunchReservation
    return false
  if !(← mkdir .reservation) then return false
  if ← validateLaunchReservation then return true
  let _ ← rmdir .reservation
  return false

def adoptOrCreateLaunchReservation : Shell ι Bool := do
  if ← launchReservationPresent then validateLaunchReservation else createLaunchReservation

def validateServiceInvocationClaim (invocation : ι) : Shell ι Bool := do
  if !(← stat (.entry (.claim invocation))) then return false
  trusted (.entry (.claim invocation))

section Claims
variable [DecidableEq ι]

/-- The listed entries one by one; those that have gone since are skipped. -/
def onlyClaim (invocation : ι) : List (Entry ι) → Shell ι Bool
  | [] => return true
  | entry :: rest => do
    if !(← stat (.entry entry)) then onlyClaim invocation rest
    else if entry ≠ .claim invocation then return false
    else onlyClaim invocation rest

def succeedClaim (invocation : ι) : Shell ι Bool := do
  if ← validateServiceInvocationClaim invocation then
    reach (.claimed invocation)
    return true
  return false

/-- A hook without a valid invocation id has no claim path. -/
def claimLaunchReservationForService (invocation : Option ι) : Shell ι Bool := do
  if !(← validateLaunchReservation) then return false
  match invocation with
  | none => return false
  | some invocation =>
    let entries ← readdir
    if !(← onlyClaim invocation entries) then return false
    if ← stat (.entry (.claim invocation)) then succeedClaim invocation
    else
      if !(← mkdir (.entry (.claim invocation))) then return false
      succeedClaim invocation

end Claims

def clearLaunchReservation : Shell ι Bool := do
  if !(← launchReservationPresent) then return true
  if !(← validateLaunchReservation) then return false
  rmdir .reservation

/-- Another invocation's claim, or an empty reservation, is left alone. -/
def clearServiceLaunchReservation (invocation : Option ι) : Shell ι Bool := do
  if !(← launchReservationPresent) then return true
  if !(← validateLaunchReservation) then return false
  match invocation with
  | none => return false
  | some invocation =>
    if !(← stat (.entry (.claim invocation))) then return true
    if !(← validateServiceInvocationClaim invocation) then return false
    if !(← rmdir (.entry (.claim invocation))) then return false
    rmdir .reservation

def rejectLaunchInProgress : Shell ι Bool := do
  if !(← launchReservationPresent) then return true
  let _ ← validateLaunchReservation
  return false

def acquirePublicOperationLock (held : Bool) : Shell ι Bool := do
  if !(← acquireLock held) then return false
  if ← rejectLaunchInProgress then
    reach .entered
    return true
  unlock .operation
  return false

/-! ## Hooks -/

def rollback (invocation : Option ι) : Shell ι Unit := do
  if ← clearServiceLaunchReservation invocation then return
  let _ ← clearLaunchReservation

/-- The part of the preflight behind its exit trap. -/
def claimAndPrepare [DecidableEq ι] (invocation : Option ι) : Shell ι Bool := do
  if !(← claimLaunchReservationForService invocation) then return false
  ask

/-- A hook that fails or is terminated behind the trap rolls back before it exits. -/
def servicePreflight [DecidableEq ι] (invocation : Option ι) : Shell ι Unit := do
  if !(← ask) then return
  if !(← acquireLock false) then return
  if !(← adoptOrCreateLaunchReservation) then return
  match ← (claimAndPrepare invocation).interruptible .ask id with
  | some true => return
  | _ => rollback invocation

def servicePostStart (invocation : Option ι) : Shell ι Unit := do
  if !(← ask) then return
  let _ ← clearServiceLaunchReservation invocation

def serviceCleanup (invocation : Option ι) : Shell ι Unit := do
  let _ ← clearServiceLaunchReservation invocation

/-! ## Public commands -/

/-- After a failed unit start only an empty reservation of a stopped unit is cleared. -/
def afterFailedStart : Shell ι Unit := do
  if ← launchReservationPresent then
    if ← ask then
      let _ ← clearLaunchReservation

/-- The installed unit runs its own preflight, so the reservation bridges the time in which
the caller gives its lock away. -/
def launchSessionDaemon : Shell ι Bool := do
  if ← ask then return true
  if !(← createLaunchReservation) then return false
  unlock .operation
  let started ← ask
  if !(← acquireLock false) then return false
  if !started then
    afterFailedStart
    return false
  if ← launchReservationPresent then
    if ← ask then clearLaunchReservation else return false
  else return true

def startLink : Shell ι Unit := do
  if !(← ask) then return
  if !(← acquirePublicOperationLock false) then return
  if ← ask then
    let _ ← launchSessionDaemon

/-- Stop, shutdown, status and recovery: everything happens under the lock. -/
def underOperationLock : Shell ι Unit := do
  if !(← ask) then return
  let _ ← acquirePublicOperationLock false

/-- An older session is shut down by the command of that name, inside this one. -/
def retireOlder : Shell ι Bool := do
  if ← ask then acquirePublicOperationLock true else return true

def installUserService : Shell ι Unit := do
  if !(← ask) then return
  if !(← acquirePublicOperationLock false) then return
  if !(← retireOlder) then return
  if !(← createLaunchReservation) then return
  unlock .operation
  let restarted ← ask
  if !(← acquireLock false) then return
  if !restarted then afterFailedStart
  else if ← ask then
    if ← launchReservationPresent then
      let _ ← clearLaunchReservation

/-! ## Daemons and the Rust service -/

def supervisorLock : Shell ι Unit := do
  if !(← ask) then return
  if !(← flock .session) then return
  unlock .session

/-- `ControllerProcessLock`: acquired in this order, dropped in the reverse one. -/
def controllerProcessLock : Shell ι Unit := do
  if !(← ask) then return
  if !(← flock .operation) then return
  if ← stat .reservation then unlock .operation
  else if !(← flock .session) then unlock .operation
  else
    reach .constructed
    unlock .session
    unlock .operation

end Shell

/-! ## The shared runtime directory -/

/-- The last three fields are only spoken of; no program reads them. -/
structure Runtime (π ι : Type) where
  holder : LockFile → Option π
  reservation : Option (List (Entry ι))
  entered : π → Bool
  alive : π → Bool
  claimed : ι → Bool

namespace Runtime
variable {π ι : Type} [DecidableEq π] [DecidableEq ι]

def has (w : Runtime π ι) : Marker ι → Bool
  | .reservation => w.reservation.isSome
  | .entry entry => w.reservation.any fun entries => entries.contains entry

/-- An exclusive creation. -/
def make (w : Runtime π ι) : Marker ι → Option (Runtime π ι)
  | .reservation => match w.reservation with
    | none => some { w with reservation := some [] }
    | some _ => none
  | .entry entry => match w.reservation with
    | none => none
    | some entries =>
      if entries.contains entry then none else some { w with reservation := some (entry :: entries) }

def unclaim (w : Runtime π ι) : Entry ι → Runtime π ι
  | .claim invocation => { w with claimed := Function.update w.claimed invocation false }
  | .other _ => w

/-- Only an empty directory can be removed. -/
def remove (w : Runtime π ι) : Marker ι → Option (Runtime π ι)
  | .reservation => match w.reservation with
    | some [] => some { w with reservation := none }
    | _ => none
  | .entry entry => match w.reservation with
    | none => none
    | some entries =>
      if entries.contains entry then
        some (unclaim { w with reservation := some (entries.filter (· ≠ entry)) } entry)
      else none

/-- What one lock of a process means to its milestones. -/
def release (p : π) (lock : LockFile) (w : Runtime π ι) : Runtime π ι :=
  let w := if w.holder lock = some p then { w with holder := Function.update w.holder lock none } else w
  match lock with
  | .operation => { w with entered := Function.update w.entered p false }
  | .session => { w with alive := Function.update w.alive p false }

def mark (p : π) (w : Runtime π ι) : Milestone ι → Runtime π ι
  | .entered => { w with entered := Function.update w.entered p true }
  | .constructed => { w with alive := Function.update w.alive p true }
  | .claimed invocation => { w with claimed := Function.update w.claimed invocation true }

/-- What a call may answer and do. Every call may also fail. -/
inductive Performs (p : π) (w : Runtime π ι) : (call : SystemCall ι) → call.Answer → Runtime π ι → Prop where
  | locked {lock : LockFile} (free : w.holder lock = none) :
      Performs p w (.flock lock) true { w with holder := Function.update w.holder lock (some p) }
  | busy {lock : LockFile} : Performs p w (.flock lock) false w
  | unlocked {lock : LockFile} : Performs p w (.unlock lock) () (w.release p lock)
  | made {path : Marker ι} {after : Runtime π ι} (new : w.make path = some after) : Performs p w (.mkdir path) true after
  | unmade {path : Marker ι} : Performs p w (.mkdir path) false w
  | removed {path : Marker ι} {after : Runtime π ι} (gone : w.remove path = some after) :
      Performs p w (.rmdir path) true after
  | unremoved {path : Marker ι} : Performs p w (.rmdir path) false w
  | seen {path : Marker ι} : Performs p w (.stat path) (w.has path) w
  | listed : Performs p w .readdir (w.reservation.getD []) w
  | answered (answer : Bool) : Performs p w .ask answer w
  | reached {milestone : Milestone ι} : Performs p w (.reach milestone) () (w.mark p milestone)

end Runtime

inductive Role (ι : Type) where
  | startLink
  | installUserService
  | underOperationLock
  | servicePreflight (invocation : Option ι)
  | servicePostStart (invocation : Option ι)
  | serviceCleanup (invocation : Option ι)
  | supervisor
  | serve
  deriving DecidableEq

namespace Role
variable {ι : Type}

def invocation : Role ι → Option ι
  | .servicePreflight invocation | .servicePostStart invocation | .serviceCleanup invocation => invocation
  | .startLink | .installUserService | .underOperationLock | .supervisor | .serve => none

def isPublic : Role ι → Bool
  | .startLink | .installUserService | .underOperationLock => true
  | .servicePreflight _ | .servicePostStart _ | .serviceCleanup _ | .supervisor | .serve => false

def program [DecidableEq ι] : Role ι → Shell ι Unit
  | .startLink => Shell.startLink
  | .installUserService => Shell.installUserService
  | .underOperationLock => Shell.underOperationLock
  | .servicePreflight invocation => Shell.servicePreflight invocation
  | .servicePostStart invocation => Shell.servicePostStart invocation
  | .serviceCleanup invocation => Shell.serviceCleanup invocation
  | .supervisor => Shell.supervisorLock
  | .serve => Shell.controllerProcessLock

end Role

/-- Any number of processes in any roles; systemd runs the hooks of one invocation one at a
time. The end of a process, at whatever point, releases its locks. -/
def launchMachine (π ι : Type) [DecidableEq π] [DecidableEq ι] :
    Machine π (Role ι) (Runtime π ι) (SystemCall ι) SystemCall.Answer where
  program := Role.program
  admits running role := ∀ invocation, role.invocation = some invocation →
    ∀ p other, running p = some other → other.invocation ≠ some invocation
  performs p call w answer after := w.Performs p call answer after
  leaves p w after := after = (w.release p .session).release p .operation

end PlayTogether.Legacy
