import PlayTogether.System.CrashLatch
import PlayTogether.System.Evidence

/-! Shutdown across processes. The knowledge that the pair is linked lives in the memory
of one process; a shutdown answers for every earlier one exactly as far as the journal
remembers what they left. -/

namespace PlayTogether.System
open PlayTogether.Library PlayTogether.Pair PlayTogether.Native PlayTogether.Journal PlayTogether.Controller

/-- Every role write of a run, in the order it was issued. -/
def delivered : List (Trace NativeCall) → List RoleWrite
  | [] => []
  | trace :: history => delivered history ++ roleWrites (backendCalls trace)

section Process
variable {J A O P : Type} [JblRoleControl J] [AuraRoleControl A] [BroadcastResultObserver O]
  {c : PairController (NativePairCore J A O) P FileUncertaintyJournal} {history : List (Trace NativeCall)}

/-- Unless it is latched, a process whose core is at rest has left no link behind. -/
structure Tied (history : List (Trace NativeCall)) (c : PairController (NativePairCore J A O) P FileUncertaintyJournal) :
    Prop where
  agree : Agree c
  rests : c.unresolvedAction = false → NativePairCore.RestsNormalized c.backend (delivered history)

theorem looked_rests {asked : Prop} {core after : NativePairCore J A O} {looks : List NativeCall} {writes : List RoleWrite}
    (looked : PairController.Looked asked core looks after) (rests : NativePairCore.RestsNormalized core writes) :
    NativePairCore.RestsNormalized after (writes ++ roleWrites looks) := by
  obtain ⟨quiet, aura, rfl⟩ := looked_native looked
  rw [quiet, List.append_nil]
  exact rests

theorem backendAction_rests {action : ControllerAction} {core : NativePairCore J A O} {writes : List RoleWrite}
    (rests : action ≠ .recoverStop → NativePairCore.RestsNormalized core writes)
    (returned : (PairController.backendAction action core).out ≠ none) :
    NativePairCore.RestsNormalized (PairController.backendAction action core).state
      (writes ++ roleWrites (PairController.backendAction action core).trace) := by
  cases action with
  | start => exact NativePairCore.start_rests (rests nofun) returned
  | stop => exact NativePairCore.stop_rests (rests nofun) returned
  | shutdown => exact NativePairCore.shutdown_rests (rests nofun) returned
  | recoverStop => exact NativePairCore.recoverStop_rests returned

theorem mutate_rests {action : ControllerAction}
    {run : Exec (ControllerEvent NativeCall JournalEvent) (PairController (NativePairCore J A O) P FileUncertaintyJournal)
      ControllerActionResult}
    (exit : PairController.MutateExit action c run) (tied : Tied history c) (returned : run.out ≠ none)
    (free : run.state.unresolvedAction = false) :
    NativePairCore.RestsNormalized run.state.backend (delivered (run.trace :: history)) := by
  rcases exit.split with passed | stalled | began
  · exact looked_rests passed.looked (tied.rests (passed.flag ▸ free))
  · rcases stalled.flag with kept | held
    · exact looked_rests stalled.looked (tied.rests (kept ▸ free))
    · rw [held] at free
      cases free
  · obtain ⟨admitted, looks, core, looked, same, issued, answers⟩ := (began_native began tied.agree).seen
    rw [same, delivered, issued, roleWrites_append, ← List.append_assoc]
    refine backendAction_rests (fun ordinary => ?_) (answers returned)
    exact looked_rests looked (tied.rests (admitted.ordinary ordinary))

variable [PairConfigurationProbe P]

theorem perform_tied (operation : ControllerOperation) (tied : Tied history c)
    (returned : (PairController.perform operation c).out ≠ none) :
    Tied ((PairController.perform operation c).trace :: history) (PairController.perform operation c).state := by
  constructor
  · exact perform_agrees operation tied.agree returned
  · intro free
    cases operation with
    | mutate action =>
      exact mutate_rests (PairController.mutate_exit action c) tied
        (by simpa [PairController.perform, Exec.map] using returned) free
    | status =>
      have observed : PairController.Observed c ((PairController.status : Proc (ControllerEvent NativeCall JournalEvent) _ _) c) :=
        PairController.status_observed c
      exact looked_rests observed.looked (tied.rests (observed.flag ▸ free))
    | teardownTransport =>
      have rests := NativePairCore.teardownTransport_auraOnly.rests (tied.rests free)
      simp only [delivered, PairController.perform, Exec.map, PairController.teardownTransportForExit, Proc.zoom,
        backendCalls_backend]
      exact rests

/-- A successful shutdown of a tied process answers every START write of the whole run. -/
theorem shutdown_normalizes {result : ControllerActionResult} (tied : Tied history c)
    (returned : (PairController.mutate .shutdown c).out = some result) (succeeded : Succeeded result) :
    NativePairCore.Normalized (delivered ((PairController.mutate .shutdown c).trace :: history)) := by
  rcases mutate_succeeds (PairController.mutate_exit .shutdown c) tied.agree returned succeeded with
    ⟨admitted, looks, core, trace, after, receipt, looked, issued, call, -⟩ | ⟨⟨claimed, free⟩, quiet⟩
  · have accepted : (NativePairCore.shutdown core).out = some (.accepted receipt) := congrArg Exec.out call
    have written : (NativePairCore.shutdown core).trace = trace := congrArg Exec.trace call
    have rests := looked_rests looked (tied.rests (admitted.ordinary nofun))
    rw [delivered, issued, roleWrites_append, ← List.append_assoc, ← written]
    exact NativePairCore.shutdown_accepted_normalized rests accepted
  · obtain ⟨lifecycle, same⟩ := claimed
    have offline := (tied.agree.claimed .shutdown (congrArg Prod.fst (Option.some.inj same)).symm).1
    exact NativePairCore.normalized_append_quiet (tied.rests free (.inr offline)) quiet

end Process

section Processes
variable {J A O P : Type} [JblRoleControl J] [AuraRoleControl A] [BroadcastResultObserver O] [PairConfigurationProbe P]
  {history : List (Trace NativeCall)}

/-- What a process leaves to its successors: nothing linked, or a marker that says so. -/
def Remembered (history : List (Trace NativeCall)) (root : StateRoot) : Prop :=
  NativePairCore.Normalized (delivered history) ∨ StateRoot.MarkerPending .visible root

/-- Between its pending marker and the unlink of its clear, an operation may be killed: the
marker says what it left. -/
theorem killed_remembers (operation : ControllerOperation)
    {c : PairController (NativePairCore J A O) P FileUncertaintyJournal}
    (calling : ∃ event ∈ (PairController.perform operation c).trace, event.isCalling = true)
    (linked : .journal .unlinkPending ∉ (PairController.perform operation c).trace) :
    Remembered ((PairController.perform operation c).trace :: history)
      (PairController.perform operation c).state.journal.directory :=
  .inr (perform_marked operation c calling linked)

/-- Processes over the native core on one state directory that end when they may. -/
def killing (ends : List (Trace NativeCall) → StateRoot → Prop) : Environment (NativePairCore J A O) NativeCall :=
  ⟨fun _ => True, IsNew, ends, fun _ _ => False⟩

def Accounted (history : List (Trace NativeCall)) : Host (NativePairCore J A O) P → Prop
  | .running c => Tied history c
  | .stopped root => Remembered history root

theorem systemRun_accounted {host : Host (NativePairCore J A O) P} (run : SystemRun (killing Remembered) host history) :
    Accounted history host := by
  induction run with
  | booted => exact .inl (followed_of_quiet (by simp [delivered]))
  | @opened root after steps state history backend run opening new probe held =>
    have post := ends_run (StateRoot.openUnder_ends root) opening
    constructor
    · exact agree_new new probe _
    · intro free
      rcases held with normalized | marked
      · exact fun _ => normalized
      · have pending : state.isPending = true := post.pending .visible marked state rfl
        have clean : state.isPending = false := free
        rw [pending] at clean
        cases clean
  | @openFailed root history run failed held =>
    have post := StateRoot.openUnder_ends root
    exact held.imp_right (post.marker .visible)
  | operated operation run returned held => exact perform_tied operation held returned
  | died operation run killed ending held => exact ending
  | exited run ending held => exact ending
  | crashed run crash held => exact crash.elim

/-- When every process ends with its START writes answered or its marker in place, a
successful shutdown of any later process leaves no link behind. -/
theorem shutdown_remembers_links {c : PairController (NativePairCore J A O) P FileUncertaintyJournal}
    (run : SystemRun (killing Remembered) (.running c) history) :
    ∀ result, (PairController.mutate .shutdown c).out = some result → Succeeded result →
      NativePairCore.Normalized (delivered ((PairController.mutate .shutdown c).trace :: history)) :=
  fun _ returned succeeded => shutdown_normalizes (systemRun_accounted run) returned succeeded

/-- A process over speakers that accept everything. -/
def acceptingProcess (rounds : Nat) (journal : FileUncertaintyJournal) :
    PairController (NativePairCore RecordingJbl MockAura MockObserver) Probe FileUncertaintyJournal :=
  PairController.withJournal (NativePairCore.acceptingCore rounds) (Probe.readyReads 4) journal

theorem acceptingProcess_opens {ends : List (Trace NativeCall) → StateRoot → Prop} {root : StateRoot}
    (run : SystemRun (killing ends) (.stopped root :
      Host (NativePairCore RecordingJbl MockAura MockObserver) Probe) history)
    (clean : (StateRoot.openUnder root).out = some (.ok .clean)) (rounds : Nat) :
    SystemRun (killing ends) (.running (acceptingProcess rounds ⟨(StateRoot.openUnder root).state, .clean⟩)) history := by
  have opening : StateRoot.openUnder root =
      ⟨(StateRoot.openUnder root).trace, (StateRoot.openUnder root).state, some (.ok .clean)⟩ := by rw [← clean]
  exact run.opened opening ⟨_, _, _, _, _, _, rfl⟩ _

/-- The pair is linked and stopped by one process and shut down by the next. -/
theorem shutdown_remembers_links_stopped :
    ∃ (c : PairController (NativePairCore RecordingJbl MockAura MockObserver) Probe FileUncertaintyJournal)
      (history : List (Trace NativeCall)) (result : ControllerActionResult),
      SystemRun (killing Remembered) (.running c) history ∧
        (PairController.mutate .shutdown c).out = some result ∧ result.outcome = .accepted ∧
        NativePairCore.Normalized (delivered ((PairController.mutate .shutdown c).trace :: history)) := by
  have booted : SystemRun (killing Remembered) (.stopped StateRoot.empty :
      Host (NativePairCore RecordingJbl MockAura MockObserver) Probe) [] := .booted trivial
  have linked := (acceptingProcess_opens booted (by decide) 2).operated (.mutate .start) (by decide)
  have stopped := linked.operated (.mutate .stop) (by decide)
  have exited := stopped.exited (.inl (NativePairCore.normalized_append_stop _))
  have reopened := acceptingProcess_opens exited (by decide) 0
  refine ⟨_, _, _, reopened, Option.eq_some_of_isSome (by decide), by decide, ?_⟩
  exact shutdown_remembers_links reopened _ (Option.eq_some_of_isSome (by decide)) (.inl (by decide))

/-- The pair is linked by one process, and the next shuts down without a word to it. -/
theorem shutdown_forgets_link :
    ∃ (c : PairController (NativePairCore RecordingJbl MockAura MockObserver) Probe FileUncertaintyJournal)
      (history : List (Trace NativeCall)) (result : ControllerActionResult),
      SystemRun (killing fun _ _ => True) (.running c) history ∧
        (PairController.mutate .shutdown c).out = some result ∧ result.outcome = .accepted ∧
        result.managedState = .offline ∧
        ¬NativePairCore.Normalized (delivered ((PairController.mutate .shutdown c).trace :: history)) := by
  have booted : SystemRun (killing fun _ _ => True) (.stopped StateRoot.empty :
      Host (NativePairCore RecordingJbl MockAura MockObserver) Probe) [] := .booted trivial
  have linked := (acceptingProcess_opens booted (by decide) 1).operated (.mutate .start) (by decide)
  have reopened := acceptingProcess_opens (linked.exited trivial) (by decide) 0
  refine ⟨_, _, _, reopened, Option.eq_some_of_isSome (by decide), by decide, by decide, fun normalized => ?_⟩
  have answered := normalized [⟨.jblEnter, .accepted⟩, ⟨.broadcastStart, .accepted⟩] ⟨.auraOn, .accepted⟩ [] (by decide)
    (by decide)
  exact absurd answered (by decide)

end Processes

end PlayTogether.System
