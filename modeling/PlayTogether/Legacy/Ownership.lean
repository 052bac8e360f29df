import PlayTogether.Legacy.Launch

/-! While the Rust service owns the speakers nobody of v0.4 does. The gap in which a launch
gives the operation lock away is covered by the reservation: it is made, and claimed, only
under that lock, and the Rust service looks for it under the same lock. -/

namespace PlayTogether.Legacy
open PlayTogether.Library

/-- What a process knows of its own: its locks, that the claim of its invocation is there,
and that the reservation was absent since it took the operation lock. -/
structure Token where
  operation : Bool
  session : Bool
  claim : Bool
  checked : Bool
  deriving DecidableEq

namespace Token
variable {ι : Type} [DecidableEq ι]

def fresh : Token := ⟨false, false, false, false⟩

def holds (token : Token) : LockFile → Bool
  | .operation => token.operation
  | .session => token.session

def permitted (role : Role ι) (token : Token) : SystemCall ι → Prop
  | .flock lock => token.holds lock = false
  | .unlock .operation => token.operation = true ∧ token.session = false
  | .unlock .session => token.session = true
  | .mkdir .reservation => token.operation = true ∧ role ≠ .serve
  | .mkdir (.entry (.claim invocation)) => token.operation = true ∧ role.invocation = some invocation
  | .rmdir (.entry (.claim invocation)) => role.invocation = some invocation
  | .mkdir (.entry (.other _)) | .rmdir (.entry (.other _)) => False
  | .reach .entered => role.isPublic = true ∧ token.operation = true
  | .reach .constructed => role = .serve ∧ token.operation = true ∧ token.session = true ∧ token.checked = true
  | .reach (.claimed invocation) => role.invocation = some invocation ∧ token.claim = true
  | .rmdir .reservation | .stat _ | .readdir | .ask => True

def advance (role : Role ι) (token : Token) : (call : SystemCall ι) → call.Answer → Token
  | .flock .operation, (locked : Bool) => { token with operation := token.operation || locked }
  | .flock .session, (locked : Bool) => { token with session := token.session || locked }
  | .unlock .operation, _ => { token with operation := false, checked := false }
  | .unlock .session, _ => { token with session := false }
  | .mkdir .reservation, (made : Bool) => { token with checked := token.checked && !made }
  | .mkdir (.entry (.claim _)), (made : Bool) => { token with claim := token.claim || made }
  | .rmdir (.entry (.claim _)), (gone : Bool) => { token with claim := token.claim && !gone }
  | .stat .reservation, (seen : Bool) => { token with checked := token.checked || (token.operation && !seen) }
  | .stat (.entry (.claim invocation)), (seen : Bool) =>
      { token with claim := token.claim || (decide (role.invocation = some invocation) && seen) }
  | _, _ => token

end Token

def ownership (ι : Type) [DecidableEq ι] : Discipline (Role ι) Token (SystemCall ι) SystemCall.Answer where
  permitted := Token.permitted
  advance := Token.advance

/-! ## The programs keep to it -/

section Programs
variable {ι α β : Type} [DecidableEq ι] {role : Role ι}

/-- The locks stay what they were. -/
def Steady (before : Token) (_ : α) (after : Token) : Prop :=
  after.operation = before.operation ∧ after.session = before.session

/-- A program that leaves the locks alone and, where it must, runs under the operation lock. -/
def Quiet (locked : Bool) (role : Role ι) (code : Shell ι α) : Prop :=
  ∀ token : Token, (locked = true → token.operation = true) → (ownership ι).Obeys role token code (Steady token)

theorem quiet_pure (locked : Bool) (value : α) : Quiet locked role (pure value : Shell ι α) :=
  fun _ _ => ⟨rfl, rfl⟩

theorem quiet_bind {locked : Bool} {first : Shell ι α} {rest : α → Shell ι β} (opening : Quiet locked role first)
    (closing : ∀ value, Quiet locked role (rest value)) : Quiet locked role (first >>= rest) := by
  intro token under
  apply Discipline.obeys_bind (opening token under)
  intro value middle steady
  apply Discipline.obeys_weaken (closing value middle fun needs => steady.1.trans (under needs))
  intro last after still
  exact ⟨still.1.trans steady.1, still.2.trans steady.2⟩

theorem quiet_ite {locked : Bool} {test : Prop} [Decidable test] {yes no : Shell ι α} (left : Quiet locked role yes)
    (right : Quiet locked role no) : Quiet locked role (if test then yes else no) := by
  split
  · exact left
  · exact right

theorem Quiet.under {code : Shell ι α} (quiet : Quiet false role code) (locked : Bool) : Quiet locked role code :=
  fun token _ => quiet token nofun

theorem quiet_ask : Quiet false role (Shell.ask : Shell ι Bool) :=
  fun _ _ => ⟨trivial, fun _ => ⟨rfl, rfl⟩⟩

theorem quiet_readdir : Quiet false role (Shell.readdir : Shell ι (List (Entry ι))) :=
  fun _ _ => ⟨trivial, fun _ => ⟨rfl, rfl⟩⟩

theorem quiet_stat (path : Marker ι) : Quiet false role (Shell.stat path) := by
  intro token _
  apply Discipline.obeys_step trivial
  intro seen
  rcases path with _ | ⟨_ | _⟩ <;> exact ⟨rfl, rfl⟩

theorem quiet_rmdir_reservation : Quiet false role (Shell.rmdir Marker.reservation : Shell ι Bool) := by
  intro token _
  exact Discipline.obeys_step trivial fun _ => ⟨rfl, rfl⟩

theorem quiet_rmdir_claim {invocation : ι} (own : role.invocation = some invocation) :
    Quiet false role (Shell.rmdir (.entry (.claim invocation))) := by
  intro token _
  exact Discipline.obeys_step own fun _ => ⟨rfl, rfl⟩

theorem quiet_mkdir_reservation (older : role ≠ .serve) :
    Quiet true role (Shell.mkdir Marker.reservation : Shell ι Bool) := by
  intro token under
  exact Discipline.obeys_step ⟨under rfl, older⟩ fun _ => ⟨rfl, rfl⟩

/-- Give up unless the first part reports yes. -/
theorem quiet_unless {locked : Bool} {first : Shell ι Bool} {refusal : α} {rest : Shell ι α}
    (opening : Quiet locked role first) (closing : Quiet locked role rest) :
    Quiet locked role (first >>= fun fine => if !fine then pure refusal else rest) :=
  quiet_bind opening fun _ => quiet_ite (quiet_pure locked refusal) closing

theorem quiet_trusted (path : Marker ι) : Quiet false role (Shell.trusted path) :=
  quiet_unless (quiet_stat path) quiet_ask

theorem quiet_validateLaunchReservation : Quiet false role (Shell.validateLaunchReservation : Shell ι Bool) :=
  quiet_unless quiet_ask (quiet_unless (quiet_stat _) (quiet_trusted _))

theorem quiet_createLaunchReservation (older : role ≠ .serve) :
    Quiet true role (Shell.createLaunchReservation : Shell ι Bool) := by
  have validate : Quiet true role (Shell.validateLaunchReservation : Shell ι Bool) :=
    quiet_validateLaunchReservation.under true
  apply quiet_unless (quiet_ask.under true)
  apply quiet_bind ((quiet_stat _).under true)
  intro present
  apply quiet_ite
  · exact quiet_bind validate fun _ => quiet_pure true false
  apply quiet_unless (quiet_mkdir_reservation older)
  apply quiet_bind validate
  intro valid
  apply quiet_ite
  · exact quiet_pure true true
  exact quiet_bind (quiet_rmdir_reservation.under true) fun _ => quiet_pure true false

theorem quiet_adoptOrCreateLaunchReservation (older : role ≠ .serve) :
    Quiet true role (Shell.adoptOrCreateLaunchReservation : Shell ι Bool) := by
  apply quiet_bind ((quiet_stat _).under true)
  intro present
  exact quiet_ite (quiet_validateLaunchReservation.under true) (quiet_createLaunchReservation older)

theorem quiet_clearLaunchReservation : Quiet false role (Shell.clearLaunchReservation : Shell ι Bool) :=
  quiet_unless (quiet_stat _) (quiet_unless quiet_validateLaunchReservation quiet_rmdir_reservation)

theorem quiet_rejectLaunchInProgress : Quiet false role (Shell.rejectLaunchInProgress : Shell ι Bool) :=
  quiet_unless (quiet_stat _) (quiet_bind quiet_validateLaunchReservation fun _ => quiet_pure false false)

theorem quiet_validateServiceInvocationClaim (invocation : ι) :
    Quiet false role (Shell.validateServiceInvocationClaim invocation) :=
  quiet_unless (quiet_stat _) (quiet_trusted _)

theorem quiet_clearServiceLaunchReservation {invocation : Option ι} (own : role.invocation = invocation) :
    Quiet false role (Shell.clearServiceLaunchReservation invocation) := by
  apply quiet_unless (quiet_stat _)
  apply quiet_unless quiet_validateLaunchReservation
  cases invocation with
  | none => exact quiet_pure false false
  | some invocation =>
    apply quiet_unless (quiet_stat _)
    apply quiet_unless (quiet_validateServiceInvocationClaim invocation)
    exact quiet_unless (quiet_rmdir_claim own) quiet_rmdir_reservation

theorem quiet_onlyClaim (invocation : ι) (entries : List (Entry ι)) :
    Quiet false role (Shell.onlyClaim invocation entries) := by
  induction entries with
  | nil => exact quiet_pure false true
  | cons entry rest ih =>
    apply quiet_bind (quiet_stat _)
    intro present
    exact quiet_ite ih (quiet_ite (quiet_pure false false) ih)

/-- A claim that was validated is known to be there. -/
theorem validateServiceInvocationClaim_claims {invocation : ι} (own : role.invocation = some invocation)
    (token : Token) :
    (ownership ι).Obeys role token (Shell.validateServiceInvocationClaim invocation) fun valid after =>
      Steady token valid after ∧ (valid = true → after.claim = true) := by
  have remains : ∀ (path : Marker ι) (token : Token), token.claim = true →
      (ownership ι).Obeys role token (Shell.trusted path) fun valid after =>
        Steady token valid after ∧ after.claim = true := by
    intro path token claimed
    refine ⟨trivial, fun seen => ?_⟩
    have still : ((ownership ι).advance role token (.stat path) seen).claim = true := by
      rcases path with _ | ⟨_ | _⟩ <;> simp [ownership, Token.advance, claimed]
    have steady : Steady token seen ((ownership ι).advance role token (.stat path) seen) := by
      rcases path with _ | ⟨_ | _⟩ <;> exact ⟨rfl, rfl⟩
    cases seen with
    | false => exact ⟨steady, still⟩
    | true => exact ⟨trivial, fun _ => ⟨steady, still⟩⟩
  refine ⟨trivial, fun seen => ?_⟩
  cases seen with
  | false => exact ⟨⟨rfl, rfl⟩, nofun⟩
  | true =>
    apply Discipline.obeys_weaken (remains _ _ (by simp [ownership, Token.advance, own]))
    intro valid after kept
    exact ⟨kept.1, fun _ => kept.2⟩

theorem quiet_succeedClaim {invocation : ι} (own : role.invocation = some invocation) :
    Quiet false role (Shell.succeedClaim invocation) := by
  intro token _
  apply Discipline.obeys_bind (validateServiceInvocationClaim_claims own token)
  intro valid middle promised
  cases valid with
  | false => exact promised.1
  | true => exact ⟨⟨own, promised.2 rfl⟩, fun _ => promised.1⟩

theorem quiet_claimLaunchReservationForService {invocation : Option ι} (own : role.invocation = invocation) :
    Quiet true role (Shell.claimLaunchReservationForService invocation) := by
  apply quiet_unless (quiet_validateLaunchReservation.under true)
  cases invocation with
  | none => exact quiet_pure true false
  | some invocation =>
    have succeeds := (quiet_succeedClaim own).under true
    apply quiet_bind (quiet_readdir.under true)
    intro entries
    apply quiet_unless ((quiet_onlyClaim invocation entries).under true)
    apply quiet_bind ((quiet_stat _).under true)
    intro present
    apply quiet_ite succeeds
    refine quiet_unless ?_ succeeds
    intro token under
    exact Discipline.obeys_step ⟨under rfl, own⟩ fun _ => ⟨rfl, rfl⟩

theorem quiet_rollback {invocation : Option ι} (own : role.invocation = invocation) :
    Quiet false role (Shell.rollback invocation) := by
  apply quiet_bind (quiet_clearServiceLaunchReservation own)
  intro cleared
  apply quiet_ite (quiet_pure false ())
  exact quiet_bind quiet_clearLaunchReservation fun _ => quiet_pure false ()

theorem quiet_afterFailedStart : Quiet false role (Shell.afterFailedStart : Shell ι Unit) := by
  apply quiet_bind (quiet_stat _)
  intro present
  refine quiet_ite (quiet_bind quiet_ask fun stopped => ?_) (quiet_pure false ())
  exact quiet_ite (quiet_bind quiet_clearLaunchReservation fun _ => quiet_pure false ()) (quiet_pure false ())

/-- The operation lock is held exactly when the answer is yes. -/
def Reports (before : Token) (locked : Bool) (after : Token) : Prop :=
  after.operation = locked ∧ after.session = before.session

abbrev Ends (role : Role ι) (token : Token) (code : Shell ι α) : Prop :=
  (ownership ι).Obeys role token code fun _ _ => True

theorem Quiet.ends {locked : Bool} {code : Shell ι α} (quiet : Quiet locked role code) {token : Token}
    (under : locked = true → token.operation = true) : Ends role token code :=
  Discipline.obeys_weaken (quiet token under) fun _ _ _ => trivial

theorem ends_pure (role : Role ι) (token : Token) (value : α) : Ends role token (pure value : Shell ι α) := trivial

/-- Continue after a quiet question. -/
theorem ends_unless {token : Token} {first : Shell ι Bool} {refusal : α} {rest : Shell ι α}
    (opening : Quiet false role first) (closing : ∀ after, Steady token true after → Ends role after rest) :
    Ends role token (first >>= fun fine => if !fine then pure refusal else rest) := by
  apply Discipline.obeys_bind (opening token nofun)
  intro fine middle steady
  cases fine with
  | false => exact ends_pure role middle refusal
  | true => exact closing middle steady

theorem ends_unless_locked {token : Token} {first : Shell ι Bool} {refusal : α} {rest : Shell ι α}
    (opening : (ownership ι).Obeys role token first (Reports token))
    (closing : ∀ after, Reports token true after → Ends role after rest) :
    Ends role token (first >>= fun fine => if !fine then pure refusal else rest) := by
  apply Discipline.obeys_bind opening
  intro fine middle reports
  cases fine with
  | false => exact ends_pure role middle refusal
  | true => exact closing middle reports

theorem acquireLock_reports {token : Token} {held : Bool} (same : token.operation = held) :
    (ownership ι).Obeys role token (Shell.acquireLock held) (Reports token) := by
  cases held with
  | true => exact ⟨same, rfl⟩
  | false =>
    refine ⟨trivial, fun safe => ?_⟩
    cases safe with
    | false => exact ⟨same, rfl⟩
    | true =>
      refine ⟨same, fun locked => ⟨?_, rfl⟩⟩
      change (token.operation || locked) = locked
      rw [same]
      exact Bool.false_or locked

theorem acquirePublicOperationLock_reports (isPublic : role.isPublic = true) {token : Token} {held : Bool}
    (same : token.operation = held) (apart : token.session = false) :
    (ownership ι).Obeys role token (Shell.acquirePublicOperationLock held) (Reports token) := by
  apply Discipline.obeys_bind (acquireLock_reports same)
  intro locked middle reports
  cases locked with
  | false => exact reports
  | true =>
    apply Discipline.obeys_bind (quiet_rejectLaunchInProgress middle nofun)
    intro free last steady
    have kept : last.operation = true := steady.1.trans reports.1
    have alike : last.session = token.session := steady.2.trans reports.2
    cases free with
    | true => exact ⟨⟨isPublic, kept⟩, fun _ => ⟨kept, alike⟩⟩
    | false => exact ⟨⟨kept, alike.trans apart⟩, fun _ => ⟨rfl, alike⟩⟩

theorem servicePreflight_ends (invocation : Option ι) :
    Ends (.servicePreflight invocation) .fresh (Shell.servicePreflight invocation) := by
  apply ends_unless quiet_ask
  intro asked steady
  apply ends_unless_locked (acquireLock_reports steady.1)
  intro locked reports
  have older : Role.servicePreflight invocation ≠ .serve := nofun
  apply Discipline.obeys_bind (quiet_adoptOrCreateLaunchReservation older locked fun _ => reports.1)
  intro reserved middle still
  cases reserved with
  | false => exact ends_pure _ middle ()
  | true =>
    have prepare : Quiet true (.servicePreflight invocation) (Shell.claimAndPrepare invocation) :=
      quiet_unless (quiet_claimLaunchReservationForService rfl) (quiet_ask.under true)
    have asks (token : Token) : (ownership ι).permitted (.servicePreflight invocation) token .ask ∧
        ∀ answer, (ownership ι).advance (.servicePreflight invocation) token .ask answer = token :=
      ⟨trivial, fun _ => rfl⟩
    have trapped := Discipline.obeys_interruptible id asks (prepare middle fun _ => still.1.trans reports.1)
    rw [if_neg (by decide)]
    apply Discipline.obeys_bind trapped
    intro outcome last _
    rcases outcome with _ | ⟨_ | _⟩
    · exact (quiet_rollback rfl).ends nofun
    · exact (quiet_rollback rfl).ends nofun
    · exact ends_pure _ last ()

theorem servicePostStart_ends (invocation : Option ι) :
    Ends (.servicePostStart invocation) .fresh (Shell.servicePostStart invocation) := by
  have clear : Quiet false (.servicePostStart invocation) (Shell.clearServiceLaunchReservation invocation) :=
    quiet_clearServiceLaunchReservation rfl
  exact (quiet_unless quiet_ask (quiet_bind clear fun _ => quiet_pure false ())).ends nofun

theorem serviceCleanup_ends (invocation : Option ι) :
    Ends (.serviceCleanup invocation) .fresh (Shell.serviceCleanup invocation) := by
  have clear : Quiet false (.serviceCleanup invocation) (Shell.clearServiceLaunchReservation invocation) :=
    quiet_clearServiceLaunchReservation rfl
  exact (quiet_bind clear fun _ => quiet_pure false ()).ends nofun

/-- A caller waits for its unit without the lock and takes it again before it looks. -/
theorem relock_ends {token : Token} {refusal : α} {rest : Bool → Shell ι α} (locked : token.operation = true)
    (apart : token.session = false) (closing : ∀ started, Quiet false role (rest started)) :
    Ends role token (do
      Shell.unlock .operation
      let started ← Shell.ask
      if !(← Shell.acquireLock false) then return refusal
      rest started) := by
  refine ⟨⟨locked, apart⟩, fun _ => ⟨trivial, fun started => ?_⟩⟩
  apply ends_unless_locked (acquireLock_reports rfl)
  intro after _
  exact (closing started).ends nofun

theorem launchSessionDaemon_ends (older : role ≠ .serve) {token : Token} (locked : token.operation = true)
    (apart : token.session = false) :
    Ends role token (Shell.launchSessionDaemon : Shell ι Bool) := by
  apply Discipline.obeys_bind (quiet_ask token nofun)
  intro available asked steady
  cases available with
  | true => exact ends_pure role asked true
  | false =>
    have kept : asked.operation = true := steady.1.trans locked
    apply Discipline.obeys_bind (quiet_createLaunchReservation older asked fun _ => kept)
    intro created reserved still
    cases created with
    | false => exact ends_pure role reserved false
    | true =>
      apply relock_ends (still.1.trans kept) ((still.2.trans steady.2).trans apart)
      intro started
      apply quiet_ite (quiet_bind quiet_afterFailedStart fun _ => quiet_pure false false)
      apply quiet_bind (quiet_stat _)
      intro present
      refine quiet_ite (quiet_bind quiet_ask fun ready => ?_) (quiet_pure false true)
      exact quiet_ite quiet_clearLaunchReservation (quiet_pure false false)

theorem startLink_ends : Ends .startLink .fresh (Shell.startLink : Shell ι Unit) := by
  apply ends_unless quiet_ask
  intro asked steady
  apply ends_unless_locked (acquirePublicOperationLock_reports rfl steady.1 steady.2)
  intro locked reports
  apply Discipline.obeys_bind (quiet_ask locked nofun)
  intro absent middle still
  cases absent with
  | false => exact ends_pure _ middle ()
  | true =>
    have apart : middle.session = false := (still.2.trans reports.2).trans steady.2
    have older : (Role.startLink : Role ι) ≠ .serve := nofun
    apply Discipline.obeys_bind (launchSessionDaemon_ends older (still.1.trans reports.1) apart)
    intro launched last _
    exact ends_pure _ last ()

theorem underOperationLock_ends : Ends .underOperationLock .fresh (Shell.underOperationLock : Shell ι Unit) := by
  apply ends_unless quiet_ask
  intro asked steady
  apply Discipline.obeys_bind (acquirePublicOperationLock_reports rfl steady.1 steady.2)
  intro locked last _
  exact ends_pure _ last ()

theorem installUserService_ends : Ends .installUserService .fresh (Shell.installUserService : Shell ι Unit) := by
  apply ends_unless quiet_ask
  intro asked steady
  apply ends_unless_locked (acquirePublicOperationLock_reports rfl steady.1 steady.2)
  intro locked reports
  have apart : locked.session = false := reports.2.trans steady.2
  have retire : (ownership ι).Obeys .installUserService locked Shell.retireOlder (Reports locked) := by
    apply Discipline.obeys_bind (quiet_ask locked nofun)
    intro older middle still
    have kept : middle.operation = true := still.1.trans reports.1
    cases older with
    | false => exact ⟨kept, still.2⟩
    | true =>
      apply Discipline.obeys_weaken (acquirePublicOperationLock_reports rfl kept (still.2.trans apart))
      intro again last told
      exact ⟨told.1, told.2.trans still.2⟩
  apply ends_unless_locked retire
  intro retired still
  have older : (Role.installUserService : Role ι) ≠ .serve := nofun
  apply Discipline.obeys_bind (quiet_createLaunchReservation older retired fun _ => still.1)
  intro created reserved stays
  cases created with
  | false => exact ends_pure _ reserved ()
  | true =>
    apply relock_ends (stays.1.trans still.1) ((stays.2.trans still.2).trans apart)
    intro restarted
    apply quiet_ite quiet_afterFailedStart
    apply quiet_bind quiet_ask
    intro active
    refine quiet_ite (quiet_bind (quiet_stat _) fun present => ?_) (quiet_pure false ())
    exact quiet_ite (quiet_bind quiet_clearLaunchReservation fun _ => quiet_pure false ()) (quiet_pure false ())

theorem supervisorLock_ends : Ends .supervisor .fresh (Shell.supervisorLock : Shell ι Unit) := by
  apply ends_unless quiet_ask
  intro asked steady
  refine ⟨steady.2, fun locked => ?_⟩
  cases locked with
  | false => exact trivial
  | true => exact ⟨Bool.or_true _, fun _ => trivial⟩

theorem controllerProcessLock_ends : Ends .serve .fresh (Shell.controllerProcessLock : Shell ι Unit) := by
  refine ⟨trivial, fun opened => ?_⟩
  cases opened with
  | false => exact trivial
  | true =>
    refine ⟨rfl, fun locked => ?_⟩
    cases locked with
    | false => exact trivial
    | true =>
      refine ⟨trivial, fun reserved => ?_⟩
      cases reserved with
      | true => exact ⟨⟨rfl, rfl⟩, fun _ => trivial⟩
      | false =>
        refine ⟨rfl, fun owned => ?_⟩
        cases owned with
        | false => exact ⟨⟨rfl, rfl⟩, fun _ => trivial⟩
        | true => exact ⟨⟨rfl, rfl, rfl, rfl⟩, fun _ => ⟨rfl, fun _ => ⟨⟨rfl, rfl⟩, fun _ => trivial⟩⟩⟩

theorem program_ends (role : Role ι) : Ends role .fresh role.program := by
  cases role with
  | startLink => exact startLink_ends
  | installUserService => exact installUserService_ends
  | underOperationLock => exact underOperationLock_ends
  | servicePreflight invocation => exact servicePreflight_ends invocation
  | servicePostStart invocation => exact servicePostStart_ends invocation
  | serviceCleanup invocation => exact serviceCleanup_ends invocation
  | supervisor => exact supervisorLock_ends
  | serve => exact controllerProcessLock_ends

end Programs

/-! ## What the calls change -/

namespace Runtime
variable {π ι : Type} [DecidableEq π] (p : π) (lock : LockFile) (w : Runtime π ι)

@[simp] theorem release_reservation : (w.release p lock).reservation = w.reservation := by
  unfold release
  cases lock <;> dsimp only <;> split <;> rfl

@[simp] theorem release_claimed : (w.release p lock).claimed = w.claimed := by
  unfold release
  cases lock <;> dsimp only <;> split <;> rfl

theorem release_holder (other : LockFile) (q : π) :
    (w.release p lock).holder other = some q ↔ w.holder other = some q ∧ ¬(other = lock ∧ q = p) := by
  have holder : (w.release p lock).holder =
      if w.holder lock = some p then Function.update w.holder lock none else w.holder := by
    unfold release
    cases lock <;> dsimp only <;> split <;> rfl
  rw [holder]
  by_cases same : other = lock
  · subst same
    by_cases owns : w.holder other = some p
    · simp [owns, eq_comm]
    · rw [if_neg owns]
      grind
  · split <;> simp [same]

theorem release_entered (q : π) :
    (w.release p lock).entered q = if lock = .operation ∧ q = p then false else w.entered q := by
  unfold release
  cases lock <;> dsimp only <;> split <;> simp [Function.update_apply]

theorem release_alive (q : π) :
    (w.release p lock).alive q = if lock = .session ∧ q = p then false else w.alive q := by
  unfold release
  cases lock <;> dsimp only <;> split <;> simp [Function.update_apply]

variable {p lock w} {after : Runtime π ι}

omit [DecidableEq π] in
theorem make_reservation [DecidableEq ι] (made : w.make .reservation = some after) :
    w.reservation = none ∧ after = { w with reservation := some [] } := by
  simp only [make] at made
  split at made
  next absent => exact ⟨absent, (Option.some.inj made).symm⟩
  next => cases made

omit [DecidableEq π] in
theorem make_entry [DecidableEq ι] {entry : Entry ι} (made : w.make (.entry entry) = some after) :
    ∃ entries, w.reservation = some entries ∧ after = { w with reservation := some (entry :: entries) } := by
  simp only [make] at made
  split at made
  next => cases made
  next entries present =>
    split at made
    · cases made
    · exact ⟨entries, present, (Option.some.inj made).symm⟩

omit [DecidableEq π] in
theorem remove_reservation [DecidableEq ι] (gone : w.remove .reservation = some after) :
    w.reservation = some [] ∧ after = { w with reservation := none } := by
  simp only [remove] at gone
  split at gone
  next empty => exact ⟨empty, (Option.some.inj gone).symm⟩
  next => cases gone

omit [DecidableEq π] in
theorem remove_claim [DecidableEq ι] {invocation : ι} (gone : w.remove (.entry (.claim invocation)) = some after) :
    ∃ entries, w.reservation = some entries ∧
      after = { w with
        reservation := some (entries.filter (· ≠ .claim invocation))
        claimed := Function.update w.claimed invocation false } := by
  simp only [remove] at gone
  split at gone
  next => cases gone
  next entries present =>
    split at gone
    · exact ⟨entries, present, (Option.some.inj gone).symm⟩
    · cases gone

end Runtime

/-! ## The account of all processes -/

section Account
variable {π ι : Type} [DecidableEq ι]

/-- What a process knows of its own is true of the runtime directory. -/
structure Fits (w : Runtime π ι) (p : π) (role : Role ι) (token : Token) : Prop where
  locks : ∀ lock, token.holds lock = true ↔ w.holder lock = some p
  known : ∀ invocation, role.invocation = some invocation → token.claim = true →
    w.has (.entry (.claim invocation)) = true
  checked : token.checked = true → token.operation = true ∧ w.reservation = none
  entered : w.entered p = true → role.isPublic = true ∧ token.operation = true
  alive : w.alive p = true → role = .serve ∧ token.operation = true ∧ token.session = true ∧ token.checked = true

structure Account (held : π → Option (Role ι × Token)) (w : Runtime π ι) : Prop where
  fits : ∀ {p role token}, held p = some (role, token) → Fits w p role token
  gone : ∀ {p}, held p = none → (∀ lock, w.holder lock ≠ some p) ∧ w.entered p = false ∧ w.alive p = false
  alone : ∀ {p q role other token beside invocation}, held p = some (role, token) → held q = some (other, beside) →
    role.invocation = some invocation → other.invocation = some invocation → p = q
  claimed : ∀ invocation, w.claimed invocation = true → w.has (.entry (.claim invocation)) = true

/-- What one process changes, the others need not notice. -/
structure Apart (p : π) (w after : Runtime π ι) : Prop where
  holder : ∀ lock q, q ≠ p → (after.holder lock = some q ↔ w.holder lock = some q)
  entered : ∀ q, q ≠ p → after.entered q = w.entered q
  alive : ∀ q, q ≠ p → after.alive q = w.alive q

variable {held : π → Option (Role ι × Token)} {w after : Runtime π ι} {p : π} {role : Role ι} {token moved : Token}

theorem Fits.apart {q : π} {other : Role ι} {beside : Token} (fits : Fits w q other beside) (apart : Apart p w after)
    (different : q ≠ p)
    (known : ∀ invocation, other.invocation = some invocation → w.has (.entry (.claim invocation)) = true →
      after.has (.entry (.claim invocation)) = true)
    (checked : beside.checked = true → after.reservation = none) : Fits after q other beside where
  locks lock := (fits.locks lock).trans (apart.holder lock q different).symm
  known invocation own claim := known invocation own (fits.known invocation own claim)
  checked looked := ⟨(fits.checked looked).1, checked looked⟩
  entered now := fits.entered ((apart.entered q different).symm.trans now)
  alive now := fits.alive ((apart.alive q different).symm.trans now)

/-- Two processes never hold one lock. -/
theorem Account.holds_alone (account : Account held w) (lock : LockFile) {q : π} {other : Role ι} {beside : Token}
    (here : held p = some (role, token)) (there : held q = some (other, beside)) (locks : token.holds lock = true)
    (also : beside.holds lock = true) : q = p := by
  have mine := ((account.fits here).locks lock).mp locks
  have theirs := ((account.fits there).locks lock).mp also
  exact Option.some.inj (theirs.symm.trans mine)

theorem Account.unchecked (account : Account held w) {entries : List (Entry ι)} (present : w.reservation = some entries)
    (here : held p = some (role, token)) : token.checked ≠ true := by
  intro looked
  have absent := ((account.fits here).checked looked).2
  rw [present] at absent
  cases absent

variable [DecidableEq π]

/-- One process moved; what the others know is still true. -/
theorem Account.move (account : Account held w) (found : held p = some (role, token)) (apart : Apart p w after)
    (mine : Fits after p role moved)
    (known : ∀ q other beside invocation, q ≠ p → held q = some (other, beside) → other.invocation = some invocation →
      w.has (.entry (.claim invocation)) = true → after.has (.entry (.claim invocation)) = true)
    (checked : ∀ q other beside, q ≠ p → held q = some (other, beside) → beside.checked = true →
      after.reservation = none)
    (claimed : ∀ invocation, after.claimed invocation = true → after.has (.entry (.claim invocation)) = true) :
    Account (Function.update held p (some (role, moved))) after where
  fits := by
    intro q other beside here
    obtain ⟨rfl, same⟩ | ⟨different, before⟩ := Pool.of_update here
    · cases same
      exact mine
    · exact (account.fits before).apart apart different
        (fun invocation => known q other beside invocation different before) (checked q other beside different before)
  gone := by
    intro q absent
    obtain ⟨_, present⟩ | ⟨different, before⟩ := Pool.of_update_none absent
    · cases present
    obtain ⟨unheld, outside, dead⟩ := account.gone before
    refine ⟨fun lock holds => unheld lock ((apart.holder lock q different).mp holds), ?_, ?_⟩
    · exact (apart.entered q different).trans outside
    · exact (apart.alive q different).trans dead
  alone := by
    have before : ∀ {q : π} {other : Role ι} {beside : Token},
        Function.update held p (some (role, moved)) q = some (other, beside) → ∃ kept, held q = some (other, kept) := by
      intro q other beside here
      obtain ⟨rfl, same⟩ | ⟨_, before⟩ := Pool.of_update here
      · cases same
        exact ⟨token, found⟩
      · exact ⟨beside, before⟩
    intro q r one other token beside invocation here there
    obtain ⟨_, first⟩ := before here
    obtain ⟨_, second⟩ := before there
    exact account.alone first second
  claimed := claimed

/-- A step that changes nothing. -/
theorem Account.still (account : Account held w) (found : held p = some (role, token))
    (mine : Fits w p role moved) : Account (Function.update held p (some (role, moved))) w := by
  apply account.move found ⟨fun _ _ _ => Iff.rfl, fun _ _ => rfl, fun _ _ => rfl⟩ mine
  · intro q other beside invocation _ _ _ present
    exact present
  · intro q other beside _ here looked
    exact ((account.fits here).checked looked).2
  · exact account.claimed

theorem Account.locked (account : Account held w) (found : held p = some (role, token)) {lock : LockFile}
    (free : w.holder lock = none) :
    Account (Function.update held p (some (role, token.advance role (.flock lock) true)))
      { w with holder := Function.update w.holder lock (some p) } := by
  have mine := account.fits found
  apply account.move found
  · refine ⟨?_, fun _ _ => rfl, fun _ _ => rfl⟩
    intro other q different
    by_cases same : other = lock
    · subst same
      simp [free, different.symm]
    · simp [same]
  · refine ⟨?_, ?_, ?_, ?_, ?_⟩
    · intro other
      have before := mine.locks other
      cases lock <;> cases other <;> simp_all [Token.holds, Token.advance]
    · have known := mine.known
      cases lock <;> exact known
    · have checked := mine.checked
      cases lock <;> simp_all [Token.advance]
    · have entered := mine.entered
      cases lock <;> simp_all [Token.advance]
    · have alive := mine.alive
      cases lock <;> simp_all [Token.advance]
  · intro q other beside invocation _ _ _ present
    exact present
  · intro q other beside _ here looked
    exact ((account.fits here).checked looked).2
  · exact account.claimed

theorem Account.unlocked (account : Account held w) (found : held p = some (role, token)) {lock : LockFile}
    (holds : token.permitted role (.unlock lock)) :
    Account (Function.update held p (some (role, token.advance role (.unlock lock) ()))) (w.release p lock) := by
  have mine := account.fits found
  apply account.move found
  · refine ⟨?_, ?_, ?_⟩
    · intro other q different
      simp [Runtime.release_holder, different]
    · intro q different
      simp [Runtime.release_entered, different]
    · intro q different
      simp [Runtime.release_alive, different]
  · refine ⟨?_, ?_, ?_, ?_, ?_⟩
    · intro other
      have before := mine.locks other
      cases lock <;> cases other <;> simp_all [Token.holds, Token.advance, Runtime.release_holder]
    · have known := mine.known
      cases lock <;> simpa [Runtime.has, Token.advance] using known
    · have checked := mine.checked
      cases lock <;> simp_all [Token.advance]
    · have entered := mine.entered
      cases lock with
      | operation => simp [Runtime.release_entered]
      | session => simpa [Token.advance, Runtime.release_entered] using entered
    · have alive := mine.alive
      cases lock with
      | operation =>
        intro living
        rw [Runtime.release_alive, if_neg (by simp)] at living
        have held := (alive living).2.2.1
        rw [holds.2] at held
        cases held
      | session => simp [Runtime.release_alive]
  · intro q other beside invocation _ _ _ present
    simpa [Runtime.has] using present
  · intro q other beside _ here looked
    rw [Runtime.release_reservation]
    exact ((account.fits here).checked looked).2
  · simpa [Runtime.has] using account.claimed

/-- A step on the marker alone. -/
theorem Account.remarked (account : Account held w) (found : held p = some (role, token))
    {entries : Option (List (Entry ι))} {claimed : ι → Bool}
    (locks : moved.operation = token.operation ∧ moved.session = token.session)
    (mine : (∀ invocation, role.invocation = some invocation → moved.claim = true →
        { w with reservation := entries, claimed := claimed }.has (.entry (.claim invocation)) = true) ∧
      (moved.checked = true → token.checked = true ∧ entries = none) ∧ (w.alive p = true → moved.checked = true))
    (known : ∀ q other beside invocation, q ≠ p → held q = some (other, beside) → other.invocation = some invocation →
      w.has (.entry (.claim invocation)) = true →
      { w with reservation := entries, claimed := claimed }.has (.entry (.claim invocation)) = true)
    (checked : ∀ q other beside, q ≠ p → held q = some (other, beside) → beside.checked = true → entries = none)
    (still : ∀ invocation, claimed invocation = true →
      { w with reservation := entries, claimed := claimed }.has (.entry (.claim invocation)) = true) :
    Account (Function.update held p (some (role, moved))) { w with reservation := entries, claimed := claimed } := by
  have fits := account.fits found
  refine account.move found ⟨fun _ _ _ => Iff.rfl, fun _ _ => rfl, fun _ _ => rfl⟩ ?_ known checked still
  refine ⟨?_, mine.1, ?_, ?_, ?_⟩
  · intro lock
    rw [← fits.locks lock]
    cases lock with
    | operation => simp only [Token.holds, locks.1]
    | session => simp only [Token.holds, locks.2]
  · intro looked
    obtain ⟨before, absent⟩ := mine.2.1 looked
    exact ⟨locks.1.trans (fits.checked before).1, absent⟩
  · intro inside
    exact ⟨(fits.entered inside).1, locks.1.trans (fits.entered inside).2⟩
  · intro living
    obtain ⟨serves, operation, session, _⟩ := fits.alive living
    exact ⟨serves, locks.1.trans operation, locks.2.trans session, mine.2.2 living⟩

theorem Account.made (account : Account held w) (found : held p = some (role, token)) {path : Marker ι}
    (permitted : token.permitted role (.mkdir path)) (new : w.make path = some after) :
    Account (Function.update held p (some (role, token.advance role (.mkdir path) true))) after := by
  have mine := account.fits found
  cases path with
  | reservation =>
    obtain ⟨absent, rfl⟩ := Runtime.make_reservation new
    have none_known (invocation : ι) : w.has (.entry (.claim invocation)) = false := by simp [Runtime.has, absent]
    apply account.remarked found
    · exact ⟨rfl, rfl⟩
    · refine ⟨?_, ?_, ?_⟩
      · intro invocation own claim
        have present := mine.known invocation own claim
        rw [none_known] at present
        cases present
      · simp [Token.advance]
      · intro living
        exact absurd (mine.alive living).1 permitted.2
    · intro q other beside invocation _ _ _ present
      rw [none_known] at present
      cases present
    · intro q other beside different here looked
      exact absurd (account.holds_alone .operation found here permitted.1 ((account.fits here).checked looked).1) different
    · intro invocation claims
      have present := account.claimed invocation claims
      rw [none_known] at present
      cases present
  | entry entry =>
    cases entry with
    | other name => exact permitted.elim
    | claim invocation =>
      obtain ⟨entries, present, rfl⟩ := Runtime.make_entry new
      have kept (other : ι) (before : w.has (.entry (.claim other)) = true) :
          { w with reservation := some (.claim invocation :: entries) }.has (.entry (.claim other)) = true := by
        simp only [Runtime.has, present, Option.any_some, List.contains_cons] at before ⊢
        rw [before, Bool.or_true]
      apply account.remarked found
      · exact ⟨rfl, rfl⟩
      · refine ⟨?_, ?_, ?_⟩
        · intro other own _
          obtain rfl := Option.some.inj (permitted.2.symm.trans own)
          simp [Runtime.has]
        · intro looked
          exact (account.unchecked present found looked).elim
        · intro living
          exact (mine.alive living).2.2.2
      · intro q other beside invocation _ _ _ before
        exact kept invocation before
      · intro q other beside _ here looked
        exact (account.unchecked present here looked).elim
      · intro other claims
        exact kept other (account.claimed other claims)

theorem Account.removed (account : Account held w) (found : held p = some (role, token)) {path : Marker ι}
    (permitted : token.permitted role (.rmdir path)) (gone : w.remove path = some after) :
    Account (Function.update held p (some (role, token.advance role (.rmdir path) true))) after := by
  have mine := account.fits found
  cases path with
  | reservation =>
    obtain ⟨empty, rfl⟩ := Runtime.remove_reservation gone
    have none_known (invocation : ι) : w.has (.entry (.claim invocation)) = false := by simp [Runtime.has, empty]
    apply account.remarked found
    · exact ⟨rfl, rfl⟩
    · refine ⟨?_, fun looked => ⟨looked, rfl⟩, fun living => (mine.alive living).2.2.2⟩
      intro invocation own claim
      have present := mine.known invocation own claim
      rw [none_known] at present
      cases present
    · intro q other beside invocation _ _ _ present
      rw [none_known] at present
      cases present
    · intro q other beside _ _ _
      rfl
    · intro invocation claims
      have present := account.claimed invocation claims
      rw [none_known] at present
      cases present
  | entry entry =>
    cases entry with
    | other name => exact permitted.elim
    | claim invocation =>
      obtain ⟨entries, present, rfl⟩ := Runtime.remove_claim gone
      have kept (other : ι) (different : other ≠ invocation) (before : w.has (.entry (.claim other)) = true) :
          { w with
            reservation := some (entries.filter (· ≠ Entry.claim invocation))
            claimed := Function.update w.claimed invocation false }.has (.entry (.claim other)) = true := by
        simp_all [Runtime.has]
      apply account.remarked found
      · exact ⟨rfl, rfl⟩
      · refine ⟨?_, ?_, ?_⟩
        · simp [Token.advance]
        · intro looked
          exact (account.unchecked present found looked).elim
        · intro living
          exact (mine.alive living).2.2.2
      · intro q other beside mark different here own before
        refine kept mark ?_ before
        intro same
        subst same
        exact different (account.alone here found own permitted)
      · intro q other beside _ here looked
        exact (account.unchecked present here looked).elim
      · intro other claims
        by_cases same : other = invocation
        · subst same
          simp at claims
        · rw [Function.update_of_ne same] at claims
          exact kept other same (account.claimed other claims)

theorem Account.seen (account : Account held w) (found : held p = some (role, token)) (path : Marker ι) :
    Account (Function.update held p (some (role, token.advance role (.stat path) (w.has path)))) w := by
  have mine := account.fits found
  apply account.still found
  cases path with
  | reservation =>
    refine ⟨mine.locks, mine.known, ?_, mine.entered, ?_⟩
    · intro looked
      simp only [Token.advance, Bool.or_eq_true, Bool.and_eq_true, Runtime.has] at looked
      cases looked with
      | inl already => exact mine.checked already
      | inr now => exact ⟨now.1, by simpa using now.2⟩
    · intro living
      obtain ⟨serves, operation, session, looked⟩ := mine.alive living
      exact ⟨serves, operation, session, by simp [Token.advance, looked]⟩
  | entry entry =>
    cases entry with
    | other name => exact mine
    | claim invocation =>
      refine ⟨mine.locks, ?_, mine.checked, mine.entered, mine.alive⟩
      intro other own known
      have before := mine.known other own
      simp_all only [Token.advance, Bool.or_eq_true, Bool.and_eq_true, decide_eq_true_eq]
      cases known with
      | inl already => exact before already
      | inr found =>
        obtain rfl := Option.some.inj found.1
        exact found.2

theorem Account.reached (account : Account held w) (found : held p = some (role, token)) {milestone : Milestone ι}
    (permitted : token.permitted role (.reach milestone)) :
    Account (Function.update held p (some (role, token))) (w.mark p milestone) := by
  have mine := account.fits found
  have others : ∀ q other beside, q ≠ p → held q = some (other, beside) → beside.checked = true →
      w.reservation = none := fun q other beside _ here looked => ((account.fits here).checked looked).2
  cases milestone with
  | entered =>
    refine account.move found ⟨fun _ _ _ => Iff.rfl, ?_, fun _ _ => rfl⟩ ?_ (fun _ _ _ _ _ _ _ present => present)
      others account.claimed
    · intro q different
      exact Function.update_of_ne different _ _
    · exact ⟨mine.locks, mine.known, mine.checked, fun _ => permitted, mine.alive⟩
  | constructed =>
    refine account.move found ⟨fun _ _ _ => Iff.rfl, fun _ _ => rfl, ?_⟩ ?_ (fun _ _ _ _ _ _ _ present => present)
      others account.claimed
    · intro q different
      exact Function.update_of_ne different _ _
    · exact ⟨mine.locks, mine.known, mine.checked, mine.entered, fun _ => permitted⟩
  | claimed invocation =>
    refine account.move found ⟨fun _ _ _ => Iff.rfl, fun _ _ => rfl, fun _ _ => rfl⟩
      ⟨mine.locks, mine.known, mine.checked, mine.entered, mine.alive⟩ (fun _ _ _ _ _ _ _ present => present) others ?_
    intro other claims
    by_cases same : other = invocation
    · subst same
      exact mine.known other permitted.1 permitted.2
    · exact account.claimed other ((Function.update_of_ne same _ _).symm.trans claims)

theorem Account.step (account : Account held w) (found : held p = some (role, token)) {call : SystemCall ι}
    {answer : call.Answer} (permitted : token.permitted role call) (performed : w.Performs p call answer after) :
    Account (Function.update held p (some (role, token.advance role call answer))) after := by
  have mine := account.fits found
  cases performed with
  | locked free => exact account.locked found free
  | @busy lock =>
    apply account.still found
    cases lock <;> simpa [Token.advance] using mine
  | unlocked => exact account.unlocked found permitted
  | made new => exact account.made found permitted new
  | @unmade path =>
    apply account.still found
    rcases path with _ | ⟨_ | _⟩ <;> simpa [Token.advance] using mine
  | removed gone => exact account.removed found permitted gone
  | @unremoved path =>
    apply account.still found
    rcases path with _ | ⟨_ | _⟩ <;> simpa [Token.advance] using mine
  | seen => exact account.seen found _
  | listed => exact account.still found mine
  | answered answer => exact account.still found mine
  | reached => exact account.reached found permitted

theorem Account.start (account : Account held w) (absent : held p = none)
    (admitted : (launchMachine π ι).admits (fun q => (held q).map Prod.fst) role) :
    Account (Function.update held p (some (role, Token.fresh))) w := by
  obtain ⟨unheld, outside, dead⟩ := account.gone absent
  refine ⟨?_, ?_, ?_, account.claimed⟩
  · intro q other beside here
    obtain ⟨rfl, same⟩ | ⟨_, before⟩ := Pool.of_update here
    · cases same
      refine ⟨?_, fun _ _ => nofun, nofun, ?_, ?_⟩
      · intro lock
        have free := unheld lock
        cases lock <;> simpa [Token.fresh, Token.holds] using free
      · simp [outside]
      · simp [dead]
    · exact account.fits before
  · intro q idle
    obtain ⟨_, present⟩ | ⟨_, before⟩ := Pool.of_update_none idle
    · cases present
    · exact account.gone before
  · intro q r one other token beside invocation here there own also
    obtain ⟨rfl, same⟩ | ⟨_, first⟩ := Pool.of_update here
    · cases same
      obtain ⟨rfl, _⟩ | ⟨_, second⟩ := Pool.of_update there
      · rfl
      · exact absurd also (admitted invocation own r other (by simp [second]))
    · obtain ⟨rfl, same⟩ | ⟨_, second⟩ := Pool.of_update there
      · cases same
        exact absurd own (admitted invocation also q one (by simp [first]))
      · exact account.alone first second own also

theorem Account.exit (account : Account held w) :
    Account (Function.update held p none) ((w.release p .session).release p .operation) := by
  have others {q : π} {other : Role ι} {beside : Token}
      (here : Function.update held p none q = some (other, beside)) : q ≠ p ∧ held q = some (other, beside) := by
    obtain ⟨_, absent⟩ | stayed := Pool.of_update here
    · cases absent
    · exact stayed
  have apart : Apart p w ((w.release p .session).release p .operation) := by
    refine ⟨?_, ?_, ?_⟩
    · intro lock q different
      simp [Runtime.release_holder, different]
    · intro q different
      simp [Runtime.release_entered, different]
    · intro q different
      simp [Runtime.release_alive, different]
  refine ⟨?_, ?_, ?_, ?_⟩
  · intro q other beside here
    obtain ⟨different, before⟩ := others here
    refine (account.fits before).apart apart different ?_ ?_
    · intro invocation _ present
      simpa [Runtime.has] using present
    · intro looked
      simpa using ((account.fits before).checked looked).2
  · intro q idle
    obtain ⟨rfl, _⟩ | ⟨same, before⟩ := Pool.of_update_none idle
    · refine ⟨?_, ?_, ?_⟩
      · intro lock
        cases lock <;> simp [Runtime.release_holder]
      · simp [Runtime.release_entered]
      · simp [Runtime.release_alive]
    · obtain ⟨unheld, outside, dead⟩ := account.gone before
      refine ⟨fun lock holds => unheld lock ((apart.holder lock q same).mp holds), ?_, ?_⟩
      · exact (apart.entered q same).trans outside
      · exact (apart.alive q same).trans dead
  · intro q r one other token beside invocation here there
    exact account.alone (others here).2 (others there).2
  · simpa [Runtime.has] using account.claimed

theorem launch_accounted : Pool.Accounted (launchMachine π ι) (ownership ι) Token.fresh Account where
  programs := program_ends
  starts account absent admitted := account.start absent admitted
  steps account found permitted performed := account.step found permitted performed
  ends account _ left := by
    subst left
    exact account.exit

/-- Nobody is running. A reservation may have been left behind. -/
structure Idle (w : Runtime π ι) : Prop where
  holder : ∀ lock, w.holder lock = none
  entered : ∀ p, w.entered p = false
  alive : ∀ p, w.alive p = false
  claimed : ∀ invocation, w.claimed invocation = false

omit [DecidableEq π] in
theorem Idle.account (idle : Idle w) : Account (fun _ => none) w where
  fits here := nomatch here
  gone _ := ⟨fun lock holds => (nomatch (idle.holder lock).symm.trans holds), idle.entered _, idle.alive _⟩
  alone here := nomatch here
  claimed invocation claims := nomatch (idle.claimed invocation).symm.trans claims

/-- In every interleaving, while a `ControllerProcessLock` is alive no public command is
inside its operation, no daemon holds the session lock and no service invocation has a
claim on the launch reservation. -/
theorem live_controller_owns_alone {pool : Pool π (Role ι) (Runtime π ι) (SystemCall ι) SystemCall.Answer}
    (run : Pool.Run (launchMachine π ι) Idle pool) (alive : pool.shared.alive p = true) :
    (∀ q, pool.shared.entered q = false) ∧
    (∀ q, pool.roles q = some .supervisor → pool.shared.holder .session ≠ some q) ∧
    (∀ invocation, pool.shared.claimed invocation = false) := by
  obtain ⟨held, tokens⟩ := run.accounted launch_accounted fun state idle => idle.account
  have account := tokens.account
  have living : ∃ role token, held p = some (role, token) := by
    cases here : held p with
    | none =>
      have dead := (account.gone here).2.2
      rw [alive] at dead
      cases dead
    | some own => exact ⟨own.1, own.2, rfl⟩
  obtain ⟨role, token, here⟩ := living
  obtain ⟨rfl, operation, session, looked⟩ := (account.fits here).alive alive
  have absent := ((account.fits here).checked looked).2
  refine ⟨?_, ?_, ?_⟩
  · intro q
    by_contra inside
    rw [Bool.not_eq_false] at inside
    cases there : held q with
    | none =>
      have outside := (account.gone there).2.1
      rw [inside] at outside
      cases outside
    | some own =>
      obtain ⟨other, beside⟩ := own
      obtain ⟨isPublic, also⟩ := (account.fits there).entered inside
      obtain rfl := account.holds_alone .operation here there operation also
      rw [here] at there
      cases there
      cases isPublic
  · intro q supervises holds
    have mine := ((account.fits here).locks .session).mp session
    obtain rfl := Option.some.inj (mine.symm.trans holds)
    have role := tokens.roles p
    rw [here, supervises] at role
    cases role
  · intro invocation
    by_contra claims
    rw [Bool.not_eq_false] at claims
    have present := account.claimed invocation claims
    rw [Runtime.has, absent] at present
    cases present

/-- A controller that found no reservation, with a daemon that is about to try its lock. -/
theorem controller_constructs :
    ∃ pool, Pool.Run (launchMachine Bool Bool) Idle pool ∧ pool.shared.alive true = true ∧
      pool.roles false = some .supervisor := by
  have idle : Idle (⟨fun _ => none, none, fun _ => false, fun _ => false, fun _ => false⟩ : Runtime Bool Bool) :=
    ⟨fun _ => rfl, fun _ => rfl, fun _ => rfl, fun _ => rfl⟩
  have booted : Pool.Run (launchMachine Bool Bool) Idle _ := .booted idle
  have started := booted.moved (.started true .serve rfl nofun)
  have beside := started.moved (.started false .supervisor rfl nofun)
  have opened := beside.moved (.stepped (p := true) rfl (Runtime.Performs.answered true))
  have operating := opened.moved (.stepped (p := true) rfl (Runtime.Performs.locked rfl))
  have checked := operating.moved (.stepped (p := true) rfl Runtime.Performs.seen)
  have owning := checked.moved (.stepped (p := true) rfl (Runtime.Performs.locked rfl))
  have constructed := owning.moved (.stepped (p := true) rfl Runtime.Performs.reached)
  exact ⟨_, constructed, rfl, rfl⟩

theorem constructed_controller_owns_alone :
    ∃ pool, Pool.Run (launchMachine Bool Bool) Idle pool ∧ pool.shared.alive true = true ∧
      (∀ q, pool.shared.entered q = false) ∧ pool.shared.holder .session ≠ some false ∧
      ∀ invocation, pool.shared.claimed invocation = false := by
  obtain ⟨pool, run, alive, supervises⟩ := controller_constructs
  obtain ⟨outside, apart, unclaimed⟩ := live_controller_owns_alone run alive
  exact ⟨pool, run, alive, outside, apart false supervises, unclaimed⟩

end Account
end PlayTogether.Legacy
