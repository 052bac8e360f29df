import PlayTogether.Controller.Latch
import PlayTogether.Native.Runs

/-! The controller over the native core in one process: what each action leaves in the
core, and how far the state the controller claims is the core's own. -/

namespace PlayTogether.System
open PlayTogether.Library PlayTogether.Device PlayTogether.Pair PlayTogether.Native PlayTogether.Controller

/-- The lifecycle an accepted action leaves in the core. -/
def restingLifecycle : ControllerAction → PairLifecycle
  | .start => .linked
  | .stop | .recoverStop => .ready
  | .shutdown => .offline

/-- What the controller may conclude from a native result. -/
structure Settles {J A O : Type} (goal : PairLifecycle) (after : NativePairCore J A O) (attempted : PairActionResult) :
    Prop where
  native : attempted.backend = .nativePair
  accepted : ∀ receipt, attempted = .accepted receipt → after.lifecycle = goal ∧ after.unresolved = none
  rejected : ∀ failure, attempted = .rejectedBeforeSend failure → after.unresolved = none

section Native
variable {J A O : Type} {core after : NativePairCore J A O} {trace : List NativeCall} {attempted : PairActionResult}
  {run : Exec NativeCall (NativePairCore J A O) PairActionResult}

theorem release_settles (exit : NativePairCore.ReleaseExit core run) (free : core.unresolved = none)
    (returned : run.out = some attempted) : Settles .offline run.state attempted := by
  cases exit with
  | unknown quiet native lifecycle latched =>
    obtain rfl := Option.some.inj returned
    exact ⟨native, by simp, by simp⟩
  | accepted quiet lifecycle kept =>
    obtain rfl := Option.some.inj returned
    exact ⟨rfl, fun _ _ => ⟨lifecycle, kept.trans free⟩, by simp [NativePairCore.accepted]⟩
  | killed => cases returned

variable [AuraRoleControl A]

theorem transaction_settles {action : BroadcastAction} {sequence : List RoleCommand} {goal : PairLifecycle}
    (exit : NativePairCore.TransactionExit action sequence goal core run) (free : core.unresolved = none)
    (returned : run.out = some attempted) : Settles goal run.state attempted := by
  cases exit with
  | latched held => exact absurd (held.symm.trans free) nofun
  | idempotent arrived live lifecycle free kept =>
    obtain rfl := Option.some.inj returned
    exact ⟨rfl, fun _ _ => ⟨lifecycle.trans arrived, kept⟩, by simp [NativePairCore.accepted]⟩
  | rejected ordered unsent native lifecycle free kept =>
    obtain rfl := Option.some.inj returned
    exact ⟨native, by simp, fun _ _ => kept⟩
  | unknown ordered sent failed native lifecycle free latched =>
    obtain rfl := Option.some.inj returned
    exact ⟨native, by simp, by simp⟩
  | accepted writes executed lifecycle free kept =>
    obtain rfl := Option.some.inj returned
    exact ⟨rfl, fun _ _ => ⟨lifecycle, kept⟩, by simp [NativePairCore.acceptedWithBroadcastEvidence]⟩
  | killed => cases returned

theorem health_looks : NativePairCore.AuraOnly (do
    let snapshot ← NativePairCore.health
    pure (.ok snapshot) : Proc NativeCall (NativePairCore J A O) (Except PairBackendError PairHealth)) :=
  NativePairCore.auraOnly_bind NativePairCore.health_auraOnly fun _ => NativePairCore.auraOnly_pure _

variable [JblRoleControl J] [BroadcastResultObserver O]

theorem shutdown_settles (free : core.unresolved = none)
    (returned : (NativePairCore.shutdown core).out = some attempted) :
    Settles .offline (NativePairCore.shutdown core).state attempted := by
  have exit := NativePairCore.shutdown_exit core
  generalize NativePairCore.shutdown core = run at exit returned
  cases exit with
  | latched held => exact absurd (held.symm.trans free) nofun
  | released _ rest release => exact release_settles release free returned
  | stopped _ busy writes kept release =>
    have settled := release_settles release kept returned
    exact settled
  | refused _ busy exit failed =>
    obtain ⟨native, accepted, rejected⟩ := transaction_settles exit free returned
    refine ⟨native, ?_, rejected⟩
    intro receipt same
    subst same
    exact absurd returned (failed receipt)

theorem recoverStop_settles (returned : (NativePairCore.recoverStop core).out = some attempted) :
    Settles .ready (NativePairCore.recoverStop core).state attempted := by
  have exit := NativePairCore.recoverStop_exit core
  generalize NativePairCore.recoverStop core = run at exit returned
  cases exit with
  | closeFailed native =>
    obtain rfl := Option.some.inj returned
    exact ⟨native, by simp, by simp⟩
  | stopping closed lifecycle free exit =>
    have settled := transaction_settles exit free returned
    exact settled
  | killed => cases returned

/-- Every action that may be called settles what it reports. -/
theorem backendAction_settles {action : ControllerAction} (free : action ≠ .recoverStop → core.unresolved = none)
    (call : PairController.backendAction action core = ⟨trace, after, some attempted⟩) :
    Settles (restingLifecycle action) after attempted := by
  have returned : (PairController.backendAction action core).out = some attempted := by rw [call]
  obtain rfl : (PairController.backendAction action core).state = after := by rw [call]
  cases action with
  | start => exact transaction_settles (NativePairCore.start_exit core) (free nofun) returned
  | stop => exact transaction_settles (NativePairCore.stop_exit core) (free nofun) returned
  | shutdown => exact shutdown_settles (free nofun) returned
  | recoverStop => exact recoverStop_settles returned

/-- The native core never changes its kind, so pinning it changes no result. -/
theorem transact_native {action : ControllerAction} (free : action ≠ .recoverStop → core.unresolved = none) :
    PairBackendTransaction.transact (PairController.backendAction action) core =
      PairController.backendAction action core := by
  rcases call : PairController.backendAction action core with ⟨trace, after, _ | attempted⟩
  · exact PairBackendTransaction.transact_killed call
  · have settled := backendAction_settles free call
    rw [PairBackendTransaction.transact_value call, PairBackendTransaction.pinResult_same rfl settled.native]

/-- Looking at the core's health writes no role and changes the Aura client only. -/
theorem looked_native {asked : Prop} (looked : PairController.Looked asked core trace after) :
    roleWrites trace = [] ∧ ∃ aura, after = NativePairCore.auraField.set aura core := by
  cases looked with
  | skipped => exact ⟨rfl, core.aura, rfl⟩
  | read =>
    obtain ⟨looks, aura, out, quiet, run⟩ := health_looks core
    have same : PairBackend.health core = ⟨looks, NativePairCore.auraField.set aura core, out⟩ := run
    rw [same]
    exact ⟨quiet, aura, rfl⟩

end Native

section Agree
variable {J A O P S γ : Type} {c : PairController (NativePairCore J A O) P S} {action : ControllerAction} {older : Bool} {attempted : PairActionResult}
  {run : Exec (ControllerEvent NativeCall γ) (PairController (NativePairCore J A O) P S) ControllerActionResult}

/-- A core as its constructor leaves it. -/
def IsNew (core : NativePairCore J A O) : Prop :=
  ∃ jbl aura broadcastObserver jblIdentity auraIdentity joinDelay,
    core = NativePairCore.new jbl aura broadcastObserver jblIdentity auraIdentity joinDelay

/-- A claimed managed state is the core's own, and a latched core is known to be. -/
structure Agree (c : PairController (NativePairCore J A O) P S) : Prop where
  claimed : ∀ action, c.managedState = PairController.acceptedState action →
    c.backend.lifecycle = restingLifecycle action ∧ c.backend.unresolved = none
  latched : c.backend.unresolved.isSome → c.unresolvedAction = true

theorem agree_latched (unknown : c.managedState = .unknown) (held : c.unresolvedAction = true) : Agree c := by
  constructor
  · intro action claimed
    rw [unknown] at claimed
    cases action <;> contradiction
  · intro _
    exact held

theorem agree_degraded (degraded : c.managedState = .degraded)
    (latched : c.backend.unresolved.isSome → c.unresolvedAction = true) : Agree c := by
  constructor
  · intro action claimed
    rw [degraded] at claimed
    cases action <;> contradiction
  · exact latched

theorem agree_accepted (managed : c.managedState = PairController.acceptedState action)
    (arrived : c.backend.lifecycle = restingLifecycle action) (free : c.backend.unresolved = none) : Agree c := by
  refine ⟨fun other claimed => ⟨?_, free⟩, fun latched => by simp [free] at latched⟩
  rw [managed] at claimed
  rw [arrived]
  cases action <;> cases other <;> first | rfl | contradiction

/-- A look at the core and a claim given up keep the agreement. -/
theorem Agree.looked (agree : Agree c) {after : PairController (NativePairCore J A O) P S} {aura : A}
    (same : after.backend = NativePairCore.auraField.set aura c.backend)
    (managed : after.managedState = c.managedState ∨ after.managedState = .unknown)
    (flag : after.unresolvedAction = c.unresolvedAction ∨ after.unresolvedAction = true) : Agree after := by
  constructor
  · intro action claimed
    rw [same]
    rcases managed with kept | unknown
    · exact agree.claimed action (kept.symm.trans claimed)
    · rw [unknown] at claimed
      cases action <;> contradiction
  · intro latched
    rw [same] at latched
    rcases flag with kept | held
    · exact kept.trans (agree.latched latched)
    · exact held

theorem Agree.admits (agree : Agree c) (admitted : PairController.Admitted action c) (ordinary : action ≠ .recoverStop) :
    c.backend.unresolved = none := by
  rw [← Option.not_isSome_iff_eq_none]
  intro latched
  exact absurd (agree.latched latched) (by simp [admitted.ordinary ordinary])

variable [Journal.UncertaintyJournal S γ]

theorem agree_new {core : NativePairCore J A O} (new : IsNew core) (probe : P) (journal : S) :
    Agree (PairController.withJournal core probe journal) := by
  obtain ⟨jbl, aura, observer, jblIdentity, auraIdentity, joinDelay, rfl⟩ := new
  constructor
  · intro action claimed
    cases action <;> contradiction
  · intro latched
    cases latched

/-- Whatever the core reported and however the journal took it, both sides agree. -/
theorem reduce_agrees (exit : PairController.ReduceExit action older c attempted run)
    (settled : Settles (restingLifecycle action) c.backend attempted) (returned : run.out ≠ none) : Agree run.state := by
  cases exit with
  | unknown => exact agree_latched rfl rfl
  | rejectionKept => exact agree_degraded rfl fun _ => rfl
  | rejection failure mayClear exit =>
    have free := settled.rejected failure rfl
    cases exit with
    | killed => contradiction
    | failed => exact agree_latched rfl rfl
    | cleared => exact agree_degraded rfl fun latched => by simp [PairController.Finish, free] at latched
  | unexpected => exact agree_latched rfl rfl
  | probeKilled => contradiction
  | unconfirmed => exact agree_latched rfl rfl
  | confirmed receipt observation probe expected ready exit =>
    obtain ⟨arrived, free⟩ := settled.accepted receipt rfl
    cases exit with
    | killed => contradiction
    | failed => exact agree_latched rfl rfl
    | cleared => exact agree_accepted rfl arrived free

end Agree

section Runs
variable {J A O P S γ : Type} [JblRoleControl J] [AuraRoleControl A] [BroadcastResultObserver O]
  [Journal.UncertaintyJournal S γ] {c : PairController (NativePairCore J A O) P S} {action : ControllerAction}
  {run : Exec (ControllerEvent NativeCall γ) (PairController (NativePairCore J A O) P S) ControllerActionResult}

/-- An action that called the core: what the core did, and what the controller made of it. -/
inductive NativeExit (action : ControllerAction) (c : PairController (NativePairCore J A O) P S) :
    Exec (ControllerEvent NativeCall γ) (PairController (NativePairCore J A O) P S) ControllerActionResult → Prop where
  | killed {looks trace : List NativeCall} {core after : NativePairCore J A O} {first : List (ControllerEvent NativeCall γ)}
      {state : PairController (NativePairCore J A O) P S}
      (admitted : PairController.Admitted action c) (free : action ≠ .recoverStop → core.unresolved = none)
      (looked : PairController.Looked (PairController.Claims action c) c.backend looks core)
      (call : PairController.backendAction action core = ⟨trace, after, none⟩)
      (issued : backendCalls first = looks ++ trace) (backend : state.backend = after) :
      NativeExit action c ⟨first, state, none⟩
  | called {looks trace : List NativeCall} {core after : NativePairCore J A O} {first : List (ControllerEvent NativeCall γ)}
      {start : PairController (NativePairCore J A O) P S} {attempted : PairActionResult}
      {run : Exec (ControllerEvent NativeCall γ) (PairController (NativePairCore J A O) P S) ControllerActionResult}
      (admitted : PairController.Admitted action c) (free : action ≠ .recoverStop → core.unresolved = none)
      (looked : PairController.Looked (PairController.Claims action c) c.backend looks core)
      (call : PairController.backendAction action core = ⟨trace, after, some attempted⟩)
      (issued : backendCalls (first ++ run.trace) = looks ++ trace) (backend : start.backend = after)
      (reduced : PairController.ReduceExit action c.unresolvedAction start attempted run) :
      NativeExit action c (run.after first)

theorem began_native (began : PairController.Began action c run) (agree : Agree c) : NativeExit action c run := by
  rcases began with @⟨first, core, steps, probe, journal, rest, admitted, early, looked, mark, exit⟩
  obtain ⟨-, aura, same⟩ := looked_native looked
  have free (ordinary : action ≠ .recoverStop) : core.unresolved = none := by
    rw [same]
    exact agree.admits admitted ordinary
  have pinned := transact_native free
  cases exit with
  | killed call => exact .killed admitted free looked (pinned.symm.trans call) (by simp [ControllerEvent.backendCall]) rfl
  | called call reduced =>
    rw [after_after]
    refine .called admitted free looked (pinned.symm.trans call) ?_ rfl reduced
    simp [ControllerEvent.backendCall, reduced.issues_nothing.1]

/-- The action as the core saw it: behind a look, and once. -/
theorem NativeExit.seen (exit : NativeExit action c run) : PairController.Admitted action c ∧ ∃ looks core,
    PairController.Looked (PairController.Claims action c) c.backend looks core ∧
      run.state.backend = (PairController.backendAction action core).state ∧
      backendCalls run.trace = looks ++ (PairController.backendAction action core).trace ∧
      (run.out ≠ none → (PairController.backendAction action core).out ≠ none) := by
  cases exit with
  | @killed looks trace core after first state admitted free looked call issued backend =>
    exact ⟨admitted, looks, core, looked, by rw [call, backend], by rw [call, issued], nofun⟩
  | @called looks trace core after first start attempted run admitted free looked call issued backend reduced =>
    refine ⟨admitted, looks, core, looked, ?_, by rw [call, ← issued, after_trace], fun _ => by rw [call]; nofun⟩
    rw [call, after_state, reduced.issues_nothing.2, backend]

theorem mutate_agrees (exit : PairController.MutateExit action c run) (agree : Agree c) (returned : run.out ≠ none) :
    Agree run.state := by
  rcases exit.split with passed | stalled | began
  · obtain ⟨-, aura, same⟩ := looked_native passed.looked
    exact agree.looked same (.inl passed.managed) (.inl passed.flag)
  · obtain ⟨-, aura, same⟩ := looked_native stalled.looked
    exact agree.looked same stalled.managed stalled.flag
  · cases began_native began agree with
    | killed => contradiction
    | called admitted free looked call issued backend reduced =>
      subst backend
      have settled := backendAction_settles free call
      have agreed := reduce_agrees reduced settled returned
      exact agreed

variable [PairConfigurationProbe P]

theorem perform_agrees (operation : ControllerOperation) (agree : Agree c)
    (returned : (PairController.perform operation c).out ≠ none) :
    Agree (PairController.perform operation c).state := by
  cases operation with
  | mutate action =>
    exact mutate_agrees (PairController.mutate_exit action c) agree
      (by simpa [PairController.perform, Exec.map] using returned)
  | status =>
    have observed : PairController.Observed c ((PairController.status : Proc (ControllerEvent NativeCall γ) _ _) c) :=
      PairController.status_observed c
    obtain ⟨-, aura, same⟩ := looked_native observed.looked
    exact agree.looked same observed.managed (.inl observed.flag)
  | teardownTransport =>
    obtain ⟨trace, aura, out, quiet, run⟩ := NativePairCore.teardownTransport_auraOnly c.backend
    have same : (NativePairCore.teardownTransport c.backend).state = NativePairCore.auraField.set aura c.backend := by
      rw [run]
    exact agree.looked same (.inl rfl) (.inl rfl)

theorem controllerRun_agrees {fresh : NativePairCore J A O → Prop}
    {allowed : ControllerOperation → PairController (NativePairCore J A O) P S → Prop}
    {history : List (ControllerEvent NativeCall γ)} (new : ∀ core, fresh core → IsNew core)
    (run : PairController.ControllerRun fresh allowed c history) : Agree c :=
  run.keeps (fun core probe journal here => agree_new (new core here) probe journal)
    fun operation _ agree _ returned => perform_agrees operation agree returned

/-- Between the operations of one process every claimed managed state is the native
core's own, and a latched core is never forgotten by the controller. -/
theorem controller_and_core_agree
    {allowed : ControllerOperation → PairController (NativePairCore J A O) P S → Prop}
    {history : List (ControllerEvent NativeCall γ)} (run : PairController.ControllerRun IsNew allowed c history) :
    (c.managedState = .linked → c.backend.lifecycle = .linked ∧ c.backend.unresolved = none) ∧
      (c.managedState = .ready → c.backend.lifecycle = .ready ∧ c.backend.unresolved = none) ∧
      (c.managedState = .offline → c.backend.lifecycle = .offline ∧ c.backend.unresolved = none) ∧
      (c.backend.unresolved.isSome → c.unresolvedAction = true) := by
  have agree := controllerRun_agrees (fun _ new => new) run
  exact ⟨agree.claimed .start, agree.claimed .stop, agree.claimed .shutdown, agree.latched⟩

/-- A process that has just linked the pair. -/
theorem controller_and_core_agree_linked :
    ∃ (c : PairController (NativePairCore RecordingJbl MockAura MockObserver) Probe Journal.FileUncertaintyJournal)
      (history : List (ControllerEvent NativeCall Journal.JournalEvent)),
      PairController.ControllerRun IsNew (fun _ _ => True) c history ∧ c.managedState = .linked ∧
        c.backend.lifecycle = .linked ∧ c.backend.unresolved = none := by
  let c : PairController (NativePairCore RecordingJbl MockAura MockObserver) Probe Journal.FileUncertaintyJournal :=
    PairController.withJournal (NativePairCore.acceptingCore 1) (Probe.readyReads 2) ⟨Journal.StateRoot.empty, .clean⟩
  have run : PairController.ControllerRun IsNew (fun _ _ => True) (PairController.perform (.mutate .start) c).state
      ([] ++ (PairController.perform (.mutate .start) c).trace) :=
    .step _ (.opened ⟨_, _, _, _, _, _, rfl⟩ _ _) trivial (by decide)
  have linked : (PairController.perform (.mutate .start) c).state.managedState = .linked := by decide
  exact ⟨_, _, run, linked, (controller_and_core_agree run).1 linked⟩

end Runs

end PlayTogether.System
