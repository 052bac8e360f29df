import PlayTogether.Legacy.StateWrites

/-! The state file belongs to the holder of the session lock as long as no daemon leaves with
a word still to write: then every write is made under the lock, and the word on disk is one
of the current or the most recent holder once that one has written. -/

namespace PlayTogether.Legacy
open PlayTogether.Library

def DaemonCall.writesState : DaemonCall → Bool
  | .create | .write _ | .replace => true
  | .check | .ask | .rounds | .blocked | .flock | .close _ | .readState | .gatt _ | .send _ | .resolve | .accept => false

section Tenure
variable {π : Type}

/-- The current or, if the lock is free, the most recent holder. -/
def locker : List (DaemonEvent π) → Option π
  | [] => none
  | .locked p :: _ => some p
  | .sent _ _ _ :: rest | .published _ _ :: rest => locker rest

/-- Who replaced the state file since the lock was taken last. -/
def publishers : List (DaemonEvent π) → List π
  | [] | .locked _ :: _ => []
  | .sent _ _ _ :: rest => publishers rest
  | .published p _ :: rest => p :: publishers rest

/-- The word on disk is one of its writer's own. -/
def Disk.WrittenBy (w : Disk π) (p : π) : Prop :=
  ∃ file payload, w.stateFile = some file ∧ w.content file = some payload ∧ payload.pid = p

/-- No daemon closes its lock in a state other than failed or degraded. -/
def LeavesFinal (_ : Disk π) : (call : DaemonCall) → call.Answer → Prop
  | .close state, _ => state.isFinal = true
  | _, _ => True

structure DaemonFits (w : Disk π) (p : π) (token : DaemonToken) : Prop where
  locks : token.held = true ↔ w.holder = some p
  stays : token.left = false
  created : token.created = true → token.held = true ∧ ∃ file, w.temporary = some file ∧ w.opened p = some file
  staged : ∀ word, token.staged = some word → token.held = true ∧
    ∃ file payload, w.temporary = some file ∧ w.content file = some payload ∧ payload.pid = p

/-- Two names never stand for one file, and the file of the present tenant is its own. -/
structure WellKept (w : Disk π) : Prop where
  apart : ∀ file, w.temporary = some file → file < w.fresh ∧ w.stateFile ≠ some file
  below : ∀ file, w.stateFile = some file → file < w.fresh
  tenant : ∀ p, w.holder = some p → locker w.trace = some p
  own : ∀ p, locker w.trace = some p →
    (∀ q ∈ publishers w.trace, q = p) ∧ (publishers w.trace ≠ [] → w.WrittenBy p)

structure Tenancy (held : π → Option (Config × DaemonToken)) (w : Disk π) : Prop where
  fits : ∀ {p config token}, held p = some (config, token) → DaemonFits w p token
  gone : ∀ {p}, held p = none → w.holder ≠ some p
  kept : WellKept w

variable {held : π → Option (Config × DaemonToken)} {w after : Disk π} {p : π} {config : Config}
  {token moved : DaemonToken}

/-- A daemon without the lock has nothing in its hands. -/
theorem DaemonFits.elsewhere (fits : DaemonFits w p token) (without : w.holder ≠ some p)
    (still : after.holder ≠ some p) : DaemonFits after p token where
  locks := ⟨fun holds => absurd (fits.locks.mp holds) without, fun holds => absurd holds still⟩
  stays := fits.stays
  created made := absurd (fits.locks.mp (fits.created made).1) without
  staged word wrote := absurd (fits.locks.mp (fits.staged word wrote).1) without

/-- The holder is alone with the files. -/
theorem alone_of_holder (holder : w.holder = some p) (same : after.holder = w.holder) :
    ∀ q, q ≠ p → w.holder ≠ some q ∧ after.holder ≠ some q := by
  intro q different
  rw [same, holder]
  exact ⟨fun other => different (Option.some.inj other).symm, fun other => different (Option.some.inj other).symm⟩

variable [DecidableEq π]

/-- One daemon moved while no other had the lock. -/
theorem Tenancy.move (tenancy : Tenancy held w) (mine : DaemonFits after p moved)
    (alone : ∀ q, q ≠ p → w.holder ≠ some q ∧ after.holder ≠ some q) (kept : WellKept after) :
    Tenancy (Function.update held p (some (config, moved))) after where
  fits := by
    intro q other beside here
    obtain ⟨rfl, same⟩ | ⟨different, before⟩ := Pool.of_update here
    · cases same
      exact mine
    · exact (tenancy.fits before).elsewhere (alone q different).1 (alone q different).2
  gone := by
    intro q absent
    obtain ⟨_, present⟩ | ⟨different, _⟩ := Pool.of_update_none absent
    · cases present
    · exact (alone q different).2
  kept := kept

/-- One daemon moved and left lock and files alone. -/
theorem Tenancy.still (tenancy : Tenancy held w) (mine : DaemonFits w p moved) {trace : List (DaemonEvent π)}
    (kept : WellKept { w with trace := trace }) :
    Tenancy (Function.update held p (some (config, moved))) { w with trace := trace } where
  fits := by
    intro q other beside here
    obtain ⟨rfl, same⟩ | ⟨_, before⟩ := Pool.of_update here
    · cases same
      exact ⟨mine.locks, mine.stays, mine.created, mine.staged⟩
    · have theirs := tenancy.fits before
      exact ⟨theirs.locks, theirs.stays, theirs.created, theirs.staged⟩
  gone := by
    intro q absent
    obtain ⟨_, present⟩ | ⟨_, before⟩ := Pool.of_update_none absent
    · cases present
    · exact tenancy.gone before
  kept := kept

theorem Tenancy.unchanged (tenancy : Tenancy held w) (mine : DaemonFits w p moved) :
    Tenancy (Function.update held p (some (config, moved))) w :=
  tenancy.still mine tenancy.kept

/-! ## The files -/

omit [DecidableEq π] in
theorem WellKept.lock (kept : WellKept w) : WellKept (w.lock p) where
  apart := kept.apart
  below := kept.below
  tenant q holds := holds
  own q last := by
    refine ⟨nofun, fun some => absurd rfl some⟩

theorem WellKept.release (kept : WellKept w) : WellKept (w.release p) := by
  unfold Disk.release
  split
  · exact ⟨kept.apart, kept.below, nofun, kept.own⟩
  · exact kept

omit [DecidableEq π] in
theorem WellKept.deliver (kept : WellKept w) (frame : Frame) (outcome : Except Fault Unit) :
    WellKept (w.deliver p frame outcome) :=
  ⟨kept.apart, kept.below, kept.tenant, kept.own⟩

omit [DecidableEq π] in
/-- A file under another name than the state file's is changed. -/
theorem WellKept.rewrite (kept : WellKept w) {file : Nat} (other : w.stateFile ≠ some file)
    (payload : Option (Payload π)) (opened : π → Option Nat) :
    WellKept { w with content := Function.update w.content file payload, opened := opened } where
  apart := kept.apart
  below := kept.below
  tenant := kept.tenant
  own q last := by
    obtain ⟨mine, written⟩ := kept.own q last
    refine ⟨mine, fun some => ?_⟩
    obtain ⟨state, payload, named, found, author⟩ := written some
    refine ⟨state, payload, named, ?_, author⟩
    have different : state ≠ file := by
      intro same
      subst same
      exact other named
    exact (Function.update_of_ne different _ _).trans found

theorem WellKept.create (kept : WellKept w) : WellKept (w.create p) := by
  unfold Disk.create
  split
  next file there => exact kept.rewrite (kept.apart file there).2 none _
  next =>
    have new : w.stateFile ≠ some w.fresh := by
      intro named
      exact Nat.lt_irrefl _ (kept.below w.fresh named)
    have rewritten := kept.rewrite new none w.opened
    refine ⟨?_, ?_, rewritten.tenant, rewritten.own⟩
    · intro file there
      obtain rfl := Option.some.inj there
      exact ⟨Nat.lt_succ_self _, new⟩
    · intro file named
      exact Nat.lt_succ_of_lt (kept.below file named)

omit [DecidableEq π] in
theorem WellKept.publish (kept : WellKept w) (holds : w.holder = some p) {file : Nat} {payload : Payload π}
    (there : w.temporary = some file) (found : w.content file = some payload) (author : payload.pid = p) :
    WellKept (w.publish p file) where
  apart := nofun
  below other named := by
    obtain rfl := Option.some.inj named
    exact (kept.apart file there).1
  tenant := kept.tenant
  own q last := by
    obtain rfl : p = q := Option.some.inj ((kept.tenant p holds).symm.trans last)
    refine ⟨?_, fun _ => ⟨file, payload, rfl, found, author⟩⟩
    intro other published
    cases published with
    | head => rfl
    | tail _ earlier => exact (kept.own p (kept.tenant p holds)).1 other earlier

/-! ## The steps -/

theorem Tenancy.step (tenancy : Tenancy held w) (found : held p = some (config, token)) {call : DaemonCall}
    {answer : call.Answer} (permitted : token.permitted config call) (performed : w.Performs p call answer after)
    (final : LeavesFinal w call answer) :
    Tenancy (Function.update held p (some (config, token.advance config call answer))) after := by
  have mine := tenancy.fits found
  have holds (may : token.MayWrite) : token.held = true := by
    cases may with
    | inl held => exact held
    | inr left =>
      rw [mine.stays] at left
      cases left
  cases performed with
  | checked | asked | counted | read | unread | resolved | accepted => exact tenancy.unchanged mine
  | locked free =>
    obtain rfl : token = .fresh := permitted
    refine tenancy.move ⟨⟨fun _ => rfl, fun _ => rfl⟩, rfl, nofun, nofun⟩ ?_ tenancy.kept.lock
    intro q different
    rw [free]
    exact ⟨nofun, fun other => different (Option.some.inj other).symm⟩
  | busy =>
    obtain rfl : token = .fresh := permitted
    exact tenancy.unchanged mine
  | @closed state =>
    have holder := mine.locks.mp permitted
    have free : (w.release p).holder = none := by simp [Disk.release, holder]
    refine tenancy.move ⟨?_, ?_, nofun, nofun⟩ ?_ tenancy.kept.release
    · rw [free]
      exact ⟨nofun, nofun⟩
    · change (!state.isFinal) = false
      rw [show state.isFinal = true from final]
      rfl
    · intro q different
      rw [holder, free]
      exact ⟨fun other => different (Option.some.inj other).symm, nofun⟩
  | created =>
    have holder := mine.locks.mp (holds permitted)
    have same : (w.create p).holder = w.holder := by
      unfold Disk.create
      split <;> rfl
    refine tenancy.move ⟨?_, mine.stays, ?_, nofun⟩ (alone_of_holder holder same) tenancy.kept.create
    · rw [same]
      exact mine.locks
    · intro _
      refine ⟨holds permitted, ?_⟩
      unfold Disk.create
      split
      next file there => exact ⟨file, there, Function.update_self _ _ _⟩
      next => exact ⟨w.fresh, rfl, Function.update_self _ _ _⟩
  | uncreated fault => exact tenancy.unchanged ⟨mine.locks, mine.stays, nofun, nofun⟩
  | @wrote record file opened =>
    obtain ⟨may, made, _⟩ := permitted
    have holder := mine.locks.mp (holds may)
    obtain ⟨_, named, there, mineOpen⟩ := mine.created made
    obtain rfl : named = file := Option.some.inj (mineOpen.symm.trans opened)
    refine tenancy.move ⟨mine.locks, mine.stays, mine.created, ?_⟩ (alone_of_holder holder rfl)
      (tenancy.kept.rewrite (tenancy.kept.apart named there).2 _ _)
    intro word staged
    exact ⟨holds may, named, ⟨p, record⟩, there, Function.update_self _ _ _, rfl⟩
  | unwritten fault => exact tenancy.unchanged ⟨mine.locks, mine.stays, mine.created, nofun⟩
  | @replaced file there =>
    obtain ⟨may, word, staged, _⟩ := permitted
    have holder := mine.locks.mp (holds may)
    obtain ⟨_, named, payload, same, content, author⟩ := mine.staged word staged
    obtain rfl : named = file := Option.some.inj (same.symm.trans there)
    exact tenancy.move ⟨mine.locks, mine.stays, nofun, nofun⟩ (alone_of_holder holder rfl)
      (tenancy.kept.publish holder there content author)
  | unreplaced fault => exact tenancy.unchanged ⟨mine.locks, mine.stays, nofun, nofun⟩
  | @stepped step outcome =>
    apply tenancy.unchanged
    cases step <;> exact ⟨mine.locks, mine.stays, mine.created, mine.staged⟩
  | sent outcome => exact tenancy.still mine (tenancy.kept.deliver _ outcome)

theorem Tenancy.start (tenancy : Tenancy held w) (absent : held p = none) :
    Tenancy (Function.update held p (some (config, .fresh))) w := by
  have free := tenancy.gone absent
  exact tenancy.unchanged ⟨⟨nofun, fun holds => absurd holds free⟩, rfl, nofun, nofun⟩

theorem Tenancy.exit (tenancy : Tenancy held w) :
    Tenancy (Function.update held p none) { w.release p with opened := Function.update w.opened p none } := by
  have released : (w.release p).holder ≠ some p ∧ ∀ q, q ≠ p → (w.holder = some q ↔ (w.release p).holder = some q) := by
    unfold Disk.release
    split
    next holds =>
      refine ⟨nofun, fun q different => ?_⟩
      rw [holds]
      exact ⟨fun other => absurd (Option.some.inj other).symm different, nofun⟩
    next without => exact ⟨without, fun _ _ => Iff.rfl⟩
  have files : (w.release p).temporary = w.temporary ∧ (w.release p).content = w.content := by
    unfold Disk.release
    split <;> exact ⟨rfl, rfl⟩
  have kept : WellKept (w.release p) := tenancy.kept.release
  refine ⟨?_, ?_, ⟨kept.apart, kept.below, kept.tenant, kept.own⟩⟩
  · intro q other beside here
    obtain ⟨_, ended⟩ | ⟨different, before⟩ := Pool.of_update here
    · cases ended
    have theirs := tenancy.fits before
    refine ⟨theirs.locks.trans (released.2 q different), theirs.stays, ?_, ?_⟩
    · intro made
      obtain ⟨holds, file, there, opened⟩ := theirs.created made
      exact ⟨holds, file, files.1.trans there, (Function.update_of_ne different _ _).trans opened⟩
    · intro word staged
      obtain ⟨holds, file, payload, there, found, author⟩ := theirs.staged word staged
      exact ⟨holds, file, payload, files.1.trans there, (congrFun files.2 file).trans found, author⟩
  · intro q absent
    obtain ⟨rfl, _⟩ | ⟨different, before⟩ := Pool.of_update_none absent
    · exact released.1
    · exact fun holds => tenancy.gone before ((released.2 q different).mpr holds)

theorem tenancy_accounted :
    Pool.Accounted (daemons π (fun _ => True) LeavesFinal) stateWrites DaemonToken.fresh Tenancy where
  programs := Supervisor.program_obeys
  starts tenancy absent _ := tenancy.start absent
  steps tenancy found permitted performed := tenancy.step found permitted performed.1 performed.2
  ends tenancy _ left := by
    subst left
    exact tenancy.exit

omit [DecidableEq π] in
theorem Disk.AtRest.tenancy (rest : w.AtRest) : Tenancy (fun _ => none) w where
  fits here := nomatch here
  gone _ := by
    rw [rest.holder]
    nofun
  kept := by
    refine ⟨rest.apart, rest.below, ?_, ?_⟩
    · rw [rest.holder]
      nofun
    · rw [rest.trace]
      nofun

/-- Every write of the state file or of its temporary file is made by the daemon that holds
the lock; nobody but the current or most recent holder has replaced the state file since it
took the lock, and once it has, the word on disk is its own. -/
def HolderOwnsState (pool : Pool π Config (Disk π) DaemonCall DaemonCall.Answer) : Prop :=
  (∀ p config call next, pool.running p = some (config, .call call next) → call.writesState = true →
    pool.shared.holder = some p) ∧
  ∀ q, locker pool.shared.trace = some q →
    (∀ p ∈ publishers pool.shared.trace, p = q) ∧ (publishers pool.shared.trace ≠ [] → pool.shared.WrittenBy q)

/-- In every interleaving of daemons that close their lock as failed or degraded only. -/
theorem holder_writes_the_state {pool : Pool π Config (Disk π) DaemonCall DaemonCall.Answer}
    (run : Pool.Run (daemons π (fun _ => True) LeavesFinal) Disk.AtRest pool) : HolderOwnsState pool := by
  obtain ⟨held, tokens⟩ := run.accounted tenancy_accounted fun _ rest => rest.tenancy
  refine ⟨?_, tokens.account.kept.own⟩
  intro p config call next here writes
  obtain ⟨token, found⟩ := tokens.of_running here
  have mine := tokens.account.fits found
  have permitted := (tokens.obeys p config _ token here found).1
  have may : token.MayWrite := by
    cases call with
    | create => exact permitted
    | write record => exact permitted.1
    | replace => exact permitted.1
    | check | ask | rounds | blocked | flock | close | readState | gatt | send | resolve | accept => cases writes
  cases may with
  | inl holds => exact mine.locks.mp holds
  | inr left =>
    rw [mine.stays] at left
    cases left

end Tenure

def emptyDisk : Disk Bool := ⟨none, none, none, fun _ => none, 0, fun _ => none, []⟩

theorem emptyDisk_atRest : emptyDisk.AtRest := ⟨rfl, rfl, nofun, nofun⟩

/-- Answers under which nothing fails; no lock is given away as anything but failed or degraded. -/
def finalAnswers (p yes : Bool) : (call : DaemonCall) → Disk Bool → Option (call.Answer × Disk Bool)
  | .close state, w => if state.isFinal then Disk.favourable p yes (.close state) w else none
  | call, w => Disk.favourable p yes call w

theorem finalAnswers_sound (p yes : Bool) : ∀ call w answer after, finalAnswers p yes call w = some (answer, after) →
    (daemons Bool (fun _ => True) LeavesFinal).performs p call w answer after := by
  intro call w answer after found
  cases call with
  | close state =>
    simp only [finalAnswers] at found
    split at found
    next final => exact ⟨Disk.favourable_performs found, final⟩
    next => cases found
  | check | ask | rounds | blocked | flock | readState | create | write | replace | gatt | send | resolve | accept =>
    exact ⟨Disk.favourable_performs (show Disk.favourable p yes _ w = _ from found), trivial⟩

/-- A daemon that is asked to stop while it connects says that it failed, and gives its lock
away. Its successor takes the lock and says that it is connecting. -/
theorem failed_daemon_leaves_state_to_successor :
    ∃ pool, Pool.Run (daemons Bool (fun _ => True) LeavesFinal) Disk.AtRest pool ∧
      pool.shared.trace = [.published true (some .connecting), .locked true, .published false (some .failed),
        .published false (some .connecting), .locked false] ∧
      HolderOwnsState pool := by
  have booted : Pool.Run (daemons Bool (fun _ => True) LeavesFinal) Disk.AtRest _ := .booted emptyDisk_atRest
  have started := booted.moved (.started false ⟨.bredr, 0⟩ rfl trivial)
  have connecting := started.driven (finalAnswers_sound false false) 10 rfl
  have failed := connecting.driven (finalAnswers_sound false true) 20 rfl
  have replacement := failed.moved (.started true ⟨.bredr, 0⟩ rfl trivial)
  have published := replacement.driven (finalAnswers_sound true false) 10 rfl
  exact ⟨_, published, rfl, holder_writes_the_state published⟩

/-- A ready daemon is asked to stop. It closes its lock, a replacement takes it and says that
it is connecting, and the first one writes its last word over that. -/
theorem exiting_daemon_overwrites_its_successor :
    ¬∀ pool, Pool.Run (daemons Bool (fun _ => True) fun _ _ _ => True) Disk.AtRest pool → HolderOwnsState pool := by
  intro always
  have sound (p yes : Bool) : ∀ call w answer after, Disk.favourable p yes call w = some (answer, after) →
      (daemons Bool (fun _ => True) fun _ _ _ => True).performs p call w answer after :=
    fun _ _ _ _ found => ⟨Disk.favourable_performs found, trivial⟩
  have booted : Pool.Run (daemons Bool (fun _ => True) fun _ _ _ => True) Disk.AtRest _ := .booted emptyDisk_atRest
  have started := booted.moved (.started false ⟨.bredr, 0⟩ rfl trivial)
  have ready := started.driven (sound false false) 28 rfl
  have closed := ready.driven (sound false true) 6 rfl
  have replacement := closed.moved (.started true ⟨.bredr, 0⟩ rfl trivial)
  have connecting := replacement.driven (sound true false) 10 rfl
  have offline := connecting.driven (sound false true) 6 rfl
  have wrong : false = true := ((always _ offline).2 true rfl).1 false (by decide)
  cases wrong

end PlayTogether.Legacy
