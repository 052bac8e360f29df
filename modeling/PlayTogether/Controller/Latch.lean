import PlayTogether.Controller.Exits
import PlayTogether.Journal.Durability
import PlayTogether.Library.Followed

/-! The controller's uncertainty latch along every run of one process. -/

namespace PlayTogether.Controller
open PlayTogether.Library PlayTogether.Pair PlayTogether.Journal

/-- A backend mutation is called under the latch only as a recovery. -/
def GuardedCall (action : ControllerAction) (unresolved : Bool) (failures : Nat) : Prop :=
  (action ≠ .recoverStop → unresolved = false) ∧ (action = .recoverStop → unresolved = true ∨ 2 ≤ failures)

/-- At most one backend mutation, right behind its own pending mark. -/
inductive CallShape {β γ : Type} (trace : List (ControllerEvent β γ)) : Prop where
  | uncalled (quiet : ∀ event ∈ trace, event.isCalling = false)
  | called (action : ControllerAction) (unresolved : Bool) (failures : Nat) (before after : List (ControllerEvent β γ))
      (shape : trace = (before ++ [.marked (journalAction action) (.ok ())]) ++
        .calling action unresolved failures :: after)
      (early : ∀ event ∈ before, event.isCalling = false) (late : ∀ event ∈ after, event.isCalling = false)
      (guarded : GuardedCall action unresolved failures)

section Shape
variable {β γ : Type} {trace first rest : List (ControllerEvent β γ)} {action : ControllerAction}
  {unresolved : Bool} {failures : Nat}

theorem CallShape.split (shape : CallShape trace) (found : trace = first ++ .calling action unresolved failures :: rest) :
    GuardedCall action unresolved failures ∧ ∃ earlier, first = earlier ++ [.marked (journalAction action) (.ok ())] := by
  cases shape with
  | uncalled quiet =>
    have contradiction := quiet (.calling action unresolved failures) (by rw [found]; simp)
    cases contradiction
  | called action' unresolved' failures' before after shape early late guarded =>
    rw [shape] at found
    have early' : ∀ event ∈ before ++ [ControllerEvent.marked (journalAction action') (.ok ())],
        ¬event.isCalling = true := by
      intro event member
      rcases List.mem_append.mp member with old | last
      · simp [early event old]
      · simp [List.mem_singleton.mp last, ControllerEvent.isCalling]
    obtain ⟨rfl, same⟩ := split_unique early' (fun event member => by simp [late event member]) found rfl
    obtain ⟨rfl, rfl, rfl⟩ := ControllerEvent.calling.inj same
    exact ⟨guarded, before, rfl⟩

end Shape

namespace PairController
variable {B P J β γ : Type} [UncertaintyJournal J γ]

theorem ClearExit.uncalled {action : ControllerAction}
    {closing : PairController B P J → Exec (ControllerEvent β γ) (PairController B P J) ControllerActionResult}
    {c : PairController B P J} {run : Exec (ControllerEvent β γ) (PairController B P J) ControllerActionResult}
    (exit : ClearExit action closing c run) (quiet : ∀ c, (closing c).trace = []) :
    ∀ event ∈ run.trace, event.isCalling = false := by
  cases exit with
  | killed => simp [ControllerEvent.isCalling]
  | failed => simp [Finish, ControllerEvent.isCalling, or_imp, forall_and]
  | cleared => simp [quiet, ControllerEvent.isCalling, or_imp, forall_and]

theorem ReduceExit.uncalled {action : ControllerAction} {older : Bool} {attempted : PairActionResult}
    {c : PairController B P J} {run : Exec (ControllerEvent β γ) (PairController B P J) ControllerActionResult}
    (exit : ReduceExit action older c attempted run) : ∀ event ∈ run.trace, event.isCalling = false := by
  cases exit with
  | unknown => simp [Finish]
  | rejectionKept => simp [Finish]
  | rejection failure mayClear exit => exact exit.uncalled fun _ => rfl
  | unexpected => simp [Finish]
  | probeKilled receipt quiet => rcases quiet with rfl | rfl <;> simp [ControllerEvent.isCalling]
  | unconfirmed => simp [Finish, ControllerEvent.isCalling]
  | confirmed receipt observation probe expected ready exit =>
    have quiet := exit.uncalled fun _ => rfl
    simpa [ControllerEvent.isCalling] using quiet

variable [PairBackend B β]

theorem BeginExit.calls {action : ControllerAction} {older : Bool} {c : PairController B P J}
    {run : Exec (ControllerEvent β γ) (PairController B P J) ControllerActionResult}
    (exit : BeginExit action older c run) : ∃ after,
      run.trace = .calling action c.unresolvedAction c.consecutiveFailures :: after ∧
        ∀ event ∈ after, event.isCalling = false := by
  cases exit with
  | killed call => exact ⟨_, rfl, backend_uncalled _⟩
  | called call exit =>
    refine ⟨_, rfl, ?_⟩
    have late := exit.uncalled
    intro event member
    rcases List.mem_append.mp member with early | later
    · rcases List.mem_append.mp early with issued | last
      · exact backend_uncalled _ event issued
      · rw [List.mem_singleton.mp last]
        rfl
    · exact late event later

theorem MutateExit.shape {action : ControllerAction} {c : PairController B P J}
    {run : Exec (ControllerEvent β γ) (PairController B P J) ControllerActionResult}
    (exit : MutateExit action c run) : CallShape run.trace := by
  rcases exit.split with passed | stalled | ⟨admitted, early, looked, mark, began⟩
  · exact .uncalled passed.quiet
  · exact .uncalled stalled.quiet
  · obtain ⟨after, shape, late⟩ := began.calls
    refine .called action c.unresolvedAction c.consecutiveFailures _ after ?_ early late
      ⟨admitted.ordinary, admitted.recovery⟩
    rw [after_trace, shape]
    rfl

end PairController

inductive ControllerOperation where
  | status
  | mutate (action : ControllerAction)
  | teardownTransport
  deriving DecidableEq, Repr

inductive ControllerReply where
  | status (snapshot : ControllerStatus)
  | action (result : ControllerActionResult)
  | teardown (result : Except PairBackendError Unit)

namespace PairController
variable {B P J β γ : Type} [UncertaintyJournal J γ] [PairBackend B β] [PairConfigurationProbe P]

def perform (operation : ControllerOperation) (c : PairController B P J) :
    Exec (ControllerEvent β γ) (PairController B P J) ControllerReply :=
  match operation with
  | .status => (status c).map .status
  | .mutate action => (mutate action c).map .action
  | .teardownTransport => (teardownTransportForExit c).map .teardown

/-- States of one process between its operations. The process starts on a fresh backend
and each operation is called in a state that allows it. -/
inductive ControllerRun (fresh : B → Prop) (allowed : ControllerOperation → PairController B P J → Prop) :
    PairController B P J → List (ControllerEvent β γ) → Prop where
  | opened {backend : B} (new : fresh backend) (probe : P) (journal : J) :
      ControllerRun fresh allowed (withJournal backend probe journal) []
  | step {c : PairController B P J} {history : List (ControllerEvent β γ)} (operation : ControllerOperation)
      (run : ControllerRun fresh allowed c history) (permitted : allowed operation c)
      (returned : (perform operation c).out ≠ none) :
      ControllerRun fresh allowed (perform operation c).state (history ++ (perform operation c).trace)

/-- What holds at the start and across each allowed operation holds along every run. -/
theorem ControllerRun.keeps {fresh : B → Prop} {allowed : ControllerOperation → PairController B P J → Prop}
    {holds : PairController B P J → Prop}
    (start : ∀ backend (probe : P) (journal : J), fresh backend → holds (withJournal backend probe journal))
    (step : ∀ operation c, holds c → allowed operation c → (perform operation c).out ≠ none →
      holds (perform operation c).state)
    {c : PairController B P J} {history : List (ControllerEvent β γ)} (run : ControllerRun fresh allowed c history) :
    holds c := by
  induction run with
  | opened new probe journal => exact start _ probe journal new
  | step operation run permitted returned held => exact step operation _ held permitted returned

theorem perform_shape (operation : ControllerOperation) (c : PairController B P J) :
    CallShape (perform operation c).trace := by
  cases operation with
  | mutate action => exact (mutate_exit action c).shape
  | teardownTransport => exact .uncalled (backend_uncalled _)
  | status => exact .uncalled (status_observed c).quiet

end PairController

namespace PairController
variable {B P β : Type}

/-- The flag is the journal's own state. -/
def Mirrors (c : PairController B P FileUncertaintyJournal) : Prop :=
  c.unresolvedAction = UncertaintyJournal.isPending c.journal

/-- A recovery that was accepted, confirmed and cleared. -/
def ClearedByRecovery (trace : List (ControllerEvent β JournalEvent)) : Prop :=
  ∃ receipt observation middle, receipt.lifecycle = .ready ∧ configurationState observation = .ready ∧
    .returned .recoverStop (.accepted receipt) :: .probed (some observation) :: middle ++ [.cleared (.ok ())] <:+ trace

section Journal
variable {journal after : FileUncertaintyJournal} {steps : List JournalEvent} {result : Except JournalError Unit}
  {action : JournalAction}

theorem pending_of_mark {out : Option (Except JournalError Unit)}
    (mark : UncertaintyJournal.markPending action journal = ⟨steps, after, out⟩) :
    UncertaintyJournal.isPending after = true := by
  have post := ends_run (FileUncertaintyJournal.markPending_ends action journal) mark
  change after.state.isPending = true
  rw [post.state]
  rfl

theorem pending_of_failed_clear {error : JournalError}
    (clear : UncertaintyJournal.clear journal = ⟨steps, after, some (.error error)⟩) :
    UncertaintyJournal.isPending after = UncertaintyJournal.isPending journal := by
  have post := ends_run (FileUncertaintyJournal.clear_ends journal) clear
  change after.state.isPending = journal.state.isPending
  rw [post.state (failed_error error)]

theorem clean_of_clear (clear : UncertaintyJournal.clear journal = ⟨steps, after, some (.ok ())⟩) :
    UncertaintyJournal.isPending after = false := by
  have post := ends_run (FileUncertaintyJournal.clear_ends journal) clear
  change after.state.isPending = false
  rw [(post.cleared rfl).1]
  rfl

end Journal

section Mirrors
variable {action : ControllerAction} {older : Bool} {attempted : PairActionResult}
  {c : PairController B P FileUncertaintyJournal}
  {run : Exec (ControllerEvent β JournalEvent) (PairController B P FileUncertaintyJournal) ControllerActionResult}

theorem ClearExit.mirrors {closing : PairController B P FileUncertaintyJournal →
      Exec (ControllerEvent β JournalEvent) (PairController B P FileUncertaintyJournal) ControllerActionResult}
    (exit : ClearExit action closing c run) (pending : UncertaintyJournal.isPending c.journal = true)
    (closes : ∀ journal, (closing { c with journal }).state.journal = journal ∧
      (closing { c with journal }).state.unresolvedAction = false) (returned : run.out ≠ none) : Mirrors run.state := by
  cases exit with
  | killed => contradiction
  | failed clear => exact ((pending_of_failed_clear clear).trans pending).symm
  | @cleared _ journal clear =>
    change (closing _).state.unresolvedAction = UncertaintyJournal.isPending (closing _).state.journal
    rw [(closes journal).1, (closes journal).2, clean_of_clear clear]

/-- Whatever the backend answered, flag and journal agree again afterwards. -/
theorem ReduceExit.mirrors (exit : ReduceExit action older c attempted run)
    (pending : UncertaintyJournal.isPending c.journal = true) (flag : c.unresolvedAction = older)
    (ordinary : action ≠ .recoverStop → older = false) (returned : run.out ≠ none) : Mirrors run.state := by
  cases exit with
  | unknown => exact pending.symm
  | rejectionKept => exact pending.symm
  | rejection failure mayClear exit =>
    refine exit.mirrors pending (fun journal => ⟨rfl, ?_⟩) returned
    exact flag.trans (mayClear.elim ordinary id)
  | unexpected => exact pending.symm
  | probeKilled => contradiction
  | unconfirmed => exact pending.symm
  | confirmed receipt observation probe expected ready exit =>
    exact exit.mirrors pending (fun journal => ⟨rfl, rfl⟩) returned

/-- An older uncertainty is resolved only by an accepted, confirmed and cleared action. -/
theorem ReduceExit.resolves (exit : ReduceExit action older c attempted run)
    (held : older = true) (recovering : action = .recoverStop) (returned : run.out ≠ none)
    (free : run.state.unresolvedAction = false) :
    ∃ receipt observation middle, attempted = .accepted receipt ∧ receipt.lifecycle = expectedLifecycle action ∧
      configurationState observation = .ready ∧
      run.trace = .probed (some observation) :: middle ++ [.cleared (.ok ())] := by
  cases exit with
  | unknown => simp [Finish] at free
  | rejectionKept => simp [Finish] at free
  | rejection failure mayClear => simp [recovering, held] at mayClear
  | unexpected => simp [Finish] at free
  | probeKilled => contradiction
  | unconfirmed => simp [Finish] at free
  | confirmed receipt observation probe expected ready exit =>
    cases exit with
    | killed => contradiction
    | failed => simp [Finish] at free
    | @cleared trace journal clear =>
      exact ⟨receipt, observation, trace.map .journal, rfl, expected, ready, by simp [Finish]⟩

variable [PairBackend B β]

theorem MutateExit.mirrors (exit : MutateExit action c run) (mirrors : Mirrors c) (returned : run.out ≠ none) :
    Mirrors run.state := by
  rcases exit.split with passed | stalled | ⟨admitted, early, looked, mark, began⟩
  · rw [Mirrors, passed.flag, passed.journal]
    exact mirrors
  · obtain ⟨steps, out, failed, mark⟩ := stalled.mark
    have pending := pending_of_mark mark
    exact (stalled.mirrored returned pending).trans pending.symm
  · have pending := pending_of_mark mark
    cases began with
    | killed => contradiction
    | called call reduced => exact reduced.mirrors pending rfl admitted.ordinary returned

theorem MutateExit.resolves (exit : MutateExit action c run) (held : c.unresolvedAction = true)
    (returned : run.out ≠ none) (free : run.state.unresolvedAction = false) :
    action = .recoverStop ∧ ClearedByRecovery run.trace := by
  rcases exit.split with passed | stalled | ⟨admitted, early, looked, mark, began⟩
  · rw [passed.flag, held] at free
    cases free
  · obtain ⟨steps, out, failed, mark⟩ := stalled.mark
    rw [stalled.mirrored returned (pending_of_mark mark)] at free
    cases free
  · have recovering : action = .recoverStop := by
      by_contra ordinary
      exact absurd (admitted.ordinary ordinary) (by simp [held])
    refine ⟨recovering, ?_⟩
    subst recovering
    cases began with
    | killed => contradiction
    | called call reduced =>
      obtain ⟨receipt, confirmed, middle, rfl, expected, again, shape⟩ := reduced.resolves held rfl returned free
      refine ⟨receipt, confirmed, middle, expected, again, ?_⟩
      rw [after_trace, after_trace, shape]
      refine List.IsSuffix.trans ?_ (List.suffix_append _ _)
      rw [List.append_assoc]
      exact List.suffix_append _ _

end Mirrors

variable [PairBackend B β] [PairConfigurationProbe P]

theorem perform_mirrors (operation : ControllerOperation) {c : PairController B P FileUncertaintyJournal}
    (mirrors : Mirrors c) (returned : (perform operation c).out ≠ none) : Mirrors (perform operation c).state := by
  cases operation with
  | mutate action => exact (mutate_exit action c).mirrors mirrors (by simpa [perform, Exec.map] using returned)
  | teardownTransport => exact mirrors
  | status =>
    have observed : Observed c ((status : Proc (ControllerEvent β JournalEvent) _ _) c) := status_observed c
    simp only [perform, Exec.map, Mirrors, observed.flag, observed.journal]
    exact mirrors

theorem perform_resolves {operation : ControllerOperation} {c : PairController B P FileUncertaintyJournal}
    (held : c.unresolvedAction = true) (returned : (perform operation c).out ≠ none)
    (free : (perform operation c).state.unresolvedAction = false) :
    operation = .mutate .recoverStop ∧ ClearedByRecovery (perform operation c).trace := by
  cases operation with
  | mutate action =>
    obtain ⟨rfl, cleared⟩ := (mutate_exit action c).resolves held (by simpa [perform, Exec.map] using returned) free
    exact ⟨rfl, cleared⟩
  | teardownTransport => exact absurd (held.symm.trans free) nofun
  | status =>
    have observed : Observed c ((status : Proc (ControllerEvent β JournalEvent) _ _) c) := status_observed c
    simp only [perform, Exec.map, observed.flag, held] at free
    cases free

/-- The latch discipline of one process over the file journal: the flag mirrors the
journal between operations, no ordinary action is called under it, every call is directly
behind its own successful mark, and only a completed recovery releases it. -/
theorem latch_discipline {allowed : ControllerOperation → PairController B P FileUncertaintyJournal → Prop}
    {fresh : B → Prop} {c : PairController B P FileUncertaintyJournal}
    {history : List (ControllerEvent β JournalEvent)} (run : ControllerRun fresh allowed c history) :
    c.unresolvedAction = UncertaintyJournal.isPending c.journal ∧
      (∀ operation first rest action unresolved failures,
        (perform operation c).trace = first ++ .calling action unresolved failures :: rest →
          ((action ≠ .recoverStop → unresolved = false) ∧
            (action = .recoverStop → unresolved = true ∨ 2 ≤ failures)) ∧
          ∃ earlier, first = earlier ++ [.marked (journalAction action) (.ok ())]) ∧
      ∀ operation, c.unresolvedAction = true → (perform operation c).out ≠ none →
        (perform operation c).state.unresolvedAction = false →
          operation = .mutate .recoverStop ∧ ClearedByRecovery (perform operation c).trace := by
  refine ⟨?_, ?_, fun operation => perform_resolves⟩
  · have mirrors : Mirrors c := run.keeps (fun _ _ _ _ => rfl) fun operation c held _ => perform_mirrors operation held
    exact mirrors
  · intro operation first rest action unresolved failures found
    exact (perform_shape operation c).split found

/-- A START whose outcome is unknown, over an empty state directory. -/
theorem latch_discipline_unknown : ∃ (c : PairController Backend Probe FileUncertaintyJournal)
    (history : List (ControllerEvent Unit JournalEvent)),
    ControllerRun (fun _ => True) (fun _ _ => True) c history ∧ c.unresolvedAction = true ∧
      UncertaintyJournal.isPending c.journal = true := by
  let c : PairController Backend Probe FileUncertaintyJournal :=
    withJournal (Backend.healthy .ready [Backend.unknown]) (Probe.readyReads 1) ⟨StateRoot.empty, .clean⟩
  have run : ControllerRun (fun _ => True) (fun _ _ => True) (perform (.mutate .start) c).state
      ([] ++ (perform (.mutate .start) c).trace) := .step _ (.opened trivial _ _) trivial (by decide)
  have held : (perform (.mutate .start) c).state.unresolvedAction = true := by decide
  exact ⟨_, _, run, held, (latch_discipline run).1 ▸ held⟩

end PairController

end PlayTogether.Controller
