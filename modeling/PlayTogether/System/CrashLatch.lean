import PlayTogether.Controller.Latch

/-! Runs of the whole program on one state directory: operations of a controller, the end of
its process at any moment, host crashes, and the processes opened after them. An uncertainty
that was not resolved outlives every crash: whatever process is opened next is refused its
journal or starts latched. -/

namespace PlayTogether.System
open PlayTogether.Library PlayTogether.Pair PlayTogether.Journal PlayTogether.Controller

/-! ## Runs -/

/-- What one operation issued. -/
abbrev Trace (β : Type) : Type := List (ControllerEvent β JournalEvent)

/-- A process at work, or only what its predecessors left on disk. -/
inductive Host (B P : Type) where
  | running (c : PairController B P FileUncertaintyJournal)
  | stopped (root : StateRoot)

/-- Where a run may begin, which backend a process is built on, what must hold when a
process ends and what a host crash may do. -/
structure Environment (B β : Type) where
  boots : StateRoot → Prop
  fresh : B → Prop
  ends : List (Trace β) → StateRoot → Prop
  crashes : StateRoot → StateRoot → Prop

section Runs
variable {B P β : Type} [PairBackend B β] [PairConfigurationProbe P]

/-- A run and its operations, the latest first. An operation that does not return is one
during which its process was killed. -/
inductive SystemRun (world : Environment B β) : Host B P → List (Trace β) → Prop where
  | booted {root : StateRoot} (here : world.boots root) : SystemRun world (.stopped root) []
  | opened {root after : StateRoot} {steps : List JournalEvent} {state : JournalState} {history : List (Trace β)}
      {backend : B} (run : SystemRun world (.stopped root) history)
      (opening : StateRoot.openUnder root = ⟨steps, after, some (.ok state)⟩) (new : world.fresh backend) (probe : P) :
      SystemRun world (.running (PairController.withJournal backend probe ⟨after, state⟩)) history
  | openFailed {root : StateRoot} {history : List (Trace β)} (run : SystemRun world (.stopped root) history)
      (failed : Failed (StateRoot.openUnder root).out) :
      SystemRun world (.stopped (StateRoot.openUnder root).state) history
  | operated {c : PairController B P FileUncertaintyJournal} {history : List (Trace β)}
      (operation : ControllerOperation) (run : SystemRun world (.running c) history)
      (returned : (PairController.perform operation c).out ≠ none) :
      SystemRun world (.running (PairController.perform operation c).state)
        ((PairController.perform operation c).trace :: history)
  | died {c : PairController B P FileUncertaintyJournal} {history : List (Trace β)}
      (operation : ControllerOperation) (run : SystemRun world (.running c) history)
      (killed : (PairController.perform operation c).out = none)
      (ending : world.ends ((PairController.perform operation c).trace :: history)
        (PairController.perform operation c).state.journal.directory) :
      SystemRun world (.stopped (PairController.perform operation c).state.journal.directory)
        ((PairController.perform operation c).trace :: history)
  | exited {c : PairController B P FileUncertaintyJournal} {history : List (Trace β)}
      (run : SystemRun world (.running c) history) (ending : world.ends history c.journal.directory) :
      SystemRun world (.stopped c.journal.directory) history
  | crashed {root after : StateRoot} {history : List (Trace β)} (run : SystemRun world (.stopped root) history)
      (crash : world.crashes root after) : SystemRun world (.stopped after) history

end Runs

/-! ## The latch -/

section Outstanding
variable {β : Type}

/-- The operation's backend call was accepted in its expected lifecycle and confirmed by
a ready re-probe, or rejected with nothing older outstanding, and the clear behind it
executed its marker unlink. -/
inductive Resolves (older : Prop) : Trace β → Prop where
  | accepted {action : ControllerAction} {receipt : PairActionReceipt}
      {observation : Except PairProbeError PairConfigurationObservation} {before after : Trace β}
      {steps : List JournalEvent} (expected : receipt.lifecycle = PairController.expectedLifecycle action)
      (ready : configurationState observation = .ready) (unlinked : .unlinkPending ∈ steps) :
      Resolves older (before ++ .returned action (.accepted receipt) :: .probed (some observation) ::
        steps.map .journal ++ after)
  | rejected {action : ControllerAction} {failure : PairActionFailure} {before after : Trace β}
      {steps : List JournalEvent} (nothing : ¬older) (unlinked : .unlinkPending ∈ steps) :
      Resolves older (before ++ .returned action (.rejectedBeforeSend failure) :: steps.map .journal ++ after)

/-- Some backend action was begun and has not been resolved. -/
def Outstanding : List (Trace β) → Prop
  | [] => False
  | trace :: history =>
    ((∃ event ∈ trace, event.isCalling = true) ∨ Outstanding history) ∧ ¬Resolves (Outstanding history) trace

theorem outstanding_of_quiet {trace : Trace β} {history : List (Trace β)}
    (quiet : ∀ event ∈ trace, event.isCalling = false) (outstanding : Outstanding (trace :: history)) :
    Outstanding history := by
  rcases outstanding.1 with ⟨event, member, calling⟩ | older
  · rw [quiet event member] at calling
    cases calling
  · exact older

theorem Resolves.after {older : Prop} {first trace : Trace β} (resolved : Resolves older trace) :
    Resolves older (first ++ trace) := by
  cases resolved with
  | accepted expected ready unlinked =>
    rw [← List.append_assoc, ← List.append_assoc]
    exact .accepted expected ready unlinked
  | rejected nothing unlinked =>
    rw [← List.append_assoc, ← List.append_assoc]
    exact .rejected nothing unlinked

theorem Resolves.returned {older : Prop} {trace : Trace β} (resolved : Resolves older trace) :
    ∃ event ∈ trace, event.isReturned = true := by
  cases resolved with
  | accepted => exact ⟨_, List.mem_append_left _ (List.mem_append_right _ List.mem_cons_self), rfl⟩
  | rejected => exact ⟨_, List.mem_append_left _ (List.mem_append_right _ List.mem_cons_self), rfl⟩

theorem Resolves.unlinks {older : Prop} {trace : Trace β} (resolved : Resolves older trace) :
    .journal .unlinkPending ∈ trace := by
  cases resolved with
  | accepted _ _ unlinked => simp [unlinked]
  | rejected _ unlinked => simp [unlinked]

end Outstanding

section Operations
variable {B P β : Type} {action : ControllerAction} {older : Bool} {attempted : PairActionResult} {reach : Cell.Reach}
  {c : PairController B P FileUncertaintyJournal} {history : List (Trace β)}
  {run : Exec (ControllerEvent β JournalEvent) (PairController B P FileUncertaintyJournal) ControllerActionResult}

/-- The operation left the marker on disk, and its process knows if it is still there. -/
structure Held {α : Type} (reach : Cell.Reach)
    (run : Exec (ControllerEvent β JournalEvent) (PairController B P FileUncertaintyJournal) α) : Prop where
  marked : StateRoot.MarkerPending reach run.state.journal.directory
  known : run.out ≠ none → run.state.unresolvedAction = true

/-- A clear that did not reach its unlink leaves the action held. -/
theorem clear_held {closing : PairController B P FileUncertaintyJournal →
      Exec (ControllerEvent β JournalEvent) (PairController B P FileUncertaintyJournal) ControllerActionResult}
    (exit : PairController.ClearExit action closing c run)
    (marked : StateRoot.MarkerPending reach c.journal.directory) :
    Held reach run ∨ ∃ (steps : List JournalEvent) (rest : Trace β),
      run.trace = steps.map .journal ++ rest ∧ .unlinkPending ∈ steps := by
  cases exit with
  | @killed steps journal clear =>
    have post := ends_run (FileUncertaintyJournal.clear_ends c.journal) clear
    by_cases unlinked : JournalEvent.unlinkPending ∈ steps
    · exact .inr ⟨steps, [], by simp, unlinked⟩
    · exact .inl ⟨post.kept unlinked reach marked, nofun⟩
  | @failed steps journal error clear =>
    have post := ends_run (FileUncertaintyJournal.clear_ends c.journal) clear
    by_cases unlinked : JournalEvent.unlinkPending ∈ steps
    · exact .inr ⟨steps, _, List.append_assoc .., unlinked⟩
    · exact .inl ⟨post.kept unlinked reach marked, fun _ => rfl⟩
  | @cleared steps journal clear =>
    have post := ends_run (FileUncertaintyJournal.clear_ends c.journal) clear
    exact .inr ⟨steps, _, List.append_assoc .., (post.cleared rfl).2⟩

/-- However the backend answered, the action stays held unless it is resolved. -/
theorem reduce_held (exit : PairController.ReduceExit action older c attempted run)
    (marked : StateRoot.MarkerPending reach c.journal.directory)
    (known : Outstanding history → older = true) (ordinary : action ≠ .recoverStop → older = false) :
    Held reach run ∨ Resolves (Outstanding history) (.returned action attempted :: run.trace) := by
  cases exit with
  | unknown => exact .inl ⟨marked, fun _ => rfl⟩
  | rejectionKept => exact .inl ⟨marked, fun _ => rfl⟩
  | rejection failure mayClear exit =>
    apply (clear_held exit marked).imp_right
    intro cleared
    obtain ⟨steps, rest, shape, unlinked⟩ := cleared
    have settled : older = false := mayClear.elim ordinary id
    have nothing : ¬Outstanding history := fun outstanding => by simp [known outstanding] at settled
    have resolved : Resolves (Outstanding history)
        ([] ++ .returned action (.rejectedBeforeSend failure) :: steps.map .journal ++ rest) := .rejected nothing unlinked
    rw [shape]
    exact resolved
  | unexpected => exact .inl ⟨marked, fun _ => rfl⟩
  | probeKilled => exact .inl ⟨marked, nofun⟩
  | unconfirmed => exact .inl ⟨marked, fun _ => rfl⟩
  | confirmed receipt observation probe expected ready exit =>
    apply (clear_held exit marked).imp (fun held => ⟨held.marked, held.known⟩)
    intro cleared
    obtain ⟨steps, rest, shape, unlinked⟩ := cleared
    have resolved : Resolves (Outstanding history) ([] ++ .returned action (.accepted receipt) ::
        .probed (some observation) :: steps.map .journal ++ rest) := .accepted expected ready unlinked
    rw [after_trace, shape]
    exact resolved

theorem clear_root {closing : PairController B P FileUncertaintyJournal →
      Exec (ControllerEvent β JournalEvent) (PairController B P FileUncertaintyJournal) ControllerActionResult}
    (exit : PairController.ClearExit action closing c run)
    (closes : ∀ journal, (closing { c with journal }).state.journal = journal) :
    StateRoot.SameRoot c.journal.directory run.state.journal.directory := by
  cases exit with
  | killed clear =>
    have post := ends_run (FileUncertaintyJournal.clear_ends c.journal) clear
    exact post.same
  | failed clear =>
    have post := ends_run (FileUncertaintyJournal.clear_ends c.journal) clear
    exact post.same
  | cleared clear =>
    have post := ends_run (FileUncertaintyJournal.clear_ends c.journal) clear
    rw [after_state, closes]
    exact post.same

theorem reduce_root (exit : PairController.ReduceExit action older c attempted run) :
    StateRoot.SameRoot c.journal.directory run.state.journal.directory := by
  cases exit with
  | unknown => exact .refl _
  | rejectionKept => exact .refl _
  | rejection failure mayClear exit => exact clear_root exit fun _ => rfl
  | unexpected => exact .refl _
  | probeKilled => exact .refl _
  | unconfirmed => exact .refl _
  | confirmed receipt observation probe expected ready exit =>
    have same := clear_root exit fun _ => rfl
    exact same

variable [PairBackend B β]

theorem mutate_root (exit : PairController.MutateExit action c run) :
    StateRoot.SameRoot c.journal.directory run.state.journal.directory := by
  rcases exit.split with passed | stalled | ⟨admitted, early, looked, mark, began⟩
  · rw [passed.journal]
    exact .refl _
  · obtain ⟨steps, out, failed, mark⟩ := stalled.mark
    have post := ends_run (FileUncertaintyJournal.markPending_ends _ c.journal) mark
    exact post.same
  · have post := ends_run (FileUncertaintyJournal.markPending_ends _ c.journal) mark
    cases began with
    | killed => exact post.same
    | called call reduced => exact post.same.trans (reduce_root reduced)

/-- Whatever is outstanding is marked on disk, and the process knows. -/
def Latched (history : List (Trace β)) (c : PairController B P FileUncertaintyJournal) : Prop :=
  Outstanding history → StateRoot.MarkerPending .durable c.journal.directory ∧ c.unresolvedAction = true

theorem mutate_held (exit : PairController.MutateExit action c run) (latched : Latched history c)
    (outstanding : Outstanding (run.trace :: history)) : Held .durable run := by
  rcases exit.split with passed | stalled | ⟨admitted, early, looked, mark, began⟩
  · obtain ⟨marked, known⟩ := latched (outstanding_of_quiet passed.quiet outstanding)
    exact ⟨by rw [passed.journal]; exact marked, fun _ => passed.flag.trans known⟩
  · obtain ⟨steps, out, failed, mark⟩ := stalled.mark
    have pending := PairController.pending_of_mark mark
    have post := ends_run (FileUncertaintyJournal.markPending_ends _ c.journal) mark
    obtain ⟨marked, known⟩ := latched (outstanding_of_quiet stalled.quiet outstanding)
    exact ⟨post.kept .durable marked, fun returned => stalled.mirrored returned pending⟩
  · have post := ends_run (FileUncertaintyJournal.markPending_ends _ c.journal) mark
    have marked := post.marked rfl .durable
    cases began with
    | killed => exact ⟨marked, by simp⟩
    | called call reduced =>
      rcases reduce_held reduced marked (fun older => (latched older).2) admitted.ordinary with held | resolved
      · exact ⟨held.marked, held.known⟩
      · refine absurd ?_ outstanding.2
        rw [after_trace, after_trace]
        apply Resolves.after
        rw [List.append_assoc]
        exact resolved.after

/-- From its pending marker on until the unlink of the clear, a mutation leaves the marker in place. -/
theorem mutate_marked (exit : PairController.MutateExit action c run) (calling : ∃ event ∈ run.trace, event.isCalling = true)
    (linked : .journal .unlinkPending ∉ run.trace) : StateRoot.MarkerPending reach run.state.journal.directory := by
  obtain ⟨event, member, called⟩ := calling
  rcases exit.split with passed | stalled | ⟨admitted, early, looked, mark, began⟩
  · exact absurd called (by simp [passed.quiet event member])
  · exact absurd called (by simp [stalled.quiet event member])
  · have post := ends_run (FileUncertaintyJournal.markPending_ends _ c.journal) mark
    have marked := post.marked rfl reach
    cases began with
    | killed => exact marked
    | called call reduced =>
      rcases reduce_held reduced marked (fun older : Outstanding [] => older.elim) admitted.ordinary with held | resolved
      · exact held.marked
      · refine absurd ?_ linked
        rw [after_trace, after_trace]
        exact List.mem_append_right _ (List.mem_append_right _ ((List.mem_cons.mp resolved.unlinks).resolve_left nofun))

end Operations

section Runs
variable {B P β : Type} [PairBackend B β] [PairConfigurationProbe P] {history : List (Trace β)}

/-- Faults, process kills and host crashes on an existing application directory. -/
def crashing : Environment B β :=
  ⟨StateRoot.Established, fun _ => True, fun _ _ => True, StateRoot.Crash⟩

theorem perform_root (operation : ControllerOperation) (c : PairController B P FileUncertaintyJournal) :
    StateRoot.SameRoot c.journal.directory (PairController.perform operation c).state.journal.directory := by
  cases operation with
  | mutate action => exact mutate_root (PairController.mutate_exit action c)
  | teardownTransport => exact .refl _
  | status =>
    have observed : PairController.Observed c ((PairController.status : Proc (ControllerEvent β JournalEvent) _ _) c) :=
      PairController.status_observed c
    simp only [PairController.perform, Exec.map, observed.journal]
    exact .refl _

theorem perform_marked (operation : ControllerOperation) (c : PairController B P FileUncertaintyJournal) {reach : Cell.Reach}
    (calling : ∃ event ∈ (PairController.perform operation c).trace, event.isCalling = true)
    (linked : .journal .unlinkPending ∉ (PairController.perform operation c).trace) :
    StateRoot.MarkerPending reach (PairController.perform operation c).state.journal.directory := by
  cases operation with
  | mutate action => exact mutate_marked (PairController.mutate_exit action c) calling linked
  | teardownTransport =>
    obtain ⟨event, member, called⟩ := calling
    exact absurd called (by simp [backend_uncalled _ event member])
  | status =>
    have observed : PairController.Observed c ((PairController.status : Proc (ControllerEvent β JournalEvent) _ _) c) :=
      PairController.status_observed c
    obtain ⟨event, member, called⟩ := calling
    exact absurd called (by simp [observed.quiet event member])

theorem perform_held (operation : ControllerOperation) {c : PairController B P FileUncertaintyJournal}
    (latched : Latched history c) (outstanding : Outstanding ((PairController.perform operation c).trace :: history)) :
    Held .durable (PairController.perform operation c) := by
  cases operation with
  | mutate action =>
    obtain ⟨marked, known⟩ := mutate_held (PairController.mutate_exit action c) latched outstanding
    exact ⟨marked, fun returned => known (by simpa [PairController.perform, Exec.map] using returned)⟩
  | teardownTransport =>
    obtain ⟨marked, known⟩ := latched (outstanding_of_quiet (backend_uncalled _) outstanding)
    exact ⟨marked, fun _ => known⟩
  | status =>
    have observed : PairController.Observed c ((PairController.status : Proc (ControllerEvent β JournalEvent) _ _) c) :=
      PairController.status_observed c
    obtain ⟨marked, known⟩ := latched (outstanding_of_quiet observed.quiet outstanding)
    constructor
    · simp only [PairController.perform, Exec.map, observed.journal]
      exact marked
    · intro _
      exact observed.flag.trans known

/-- The invariant across processes and crashes. -/
def Guarded (history : List (Trace β)) : Host B P → Prop
  | .running c => c.journal.directory.Established ∧ Latched history c
  | .stopped root => root.Established ∧ (Outstanding history → StateRoot.MarkerPending .durable root)

theorem systemRun_guarded {host : Host B P} (run : SystemRun crashing host history) : Guarded history host := by
  induction run with
  | booted here => exact ⟨here, nofun⟩
  | @opened root after steps state history backend run opening new probe held =>
    have post := ends_run (StateRoot.openUnder_ends root) opening
    constructor
    · exact post.established held.1
    · intro outstanding
      have marked := held.2 outstanding
      constructor
      · exact post.marker .durable marked
      · have pending := post.pending .durable marked state rfl
        exact pending
  | @openFailed root history run failed held =>
    have post := StateRoot.openUnder_ends root
    exact ⟨post.established held.1, fun outstanding => post.marker .durable (held.2 outstanding)⟩
  | operated operation run returned held =>
    constructor
    · exact (perform_root operation _).established held.1
    · intro outstanding
      have kept := perform_held operation held.2 outstanding
      exact ⟨kept.marked, kept.known returned⟩
  | died operation run killed ending held =>
    constructor
    · exact (perform_root operation _).established held.1
    · intro outstanding
      exact (perform_held operation held.2 outstanding).marked
  | exited run ending held => exact ⟨held.1, fun outstanding => (held.2 outstanding).1⟩
  | crashed run crash held =>
    exact ⟨crash.established held.1, fun outstanding => crash.keeps_marker held.1 (held.2 outstanding)⟩

/-- START, STOP and shutdown are turned away before anything is issued. -/
def Refuses (c : PairController B P FileUncertaintyJournal) : Prop :=
  ∀ action, action ≠ .recoverStop → ∃ after result,
    (PairController.mutate action : Proc (ControllerEvent β JournalEvent) _ _) c = ⟨[], after, some result⟩ ∧
      after.backend = c.backend ∧ result.outcome = .rejectedBeforeSend ∧
      result.failure = some .unresolvedPriorAction

theorem refuses_of_unresolved {c : PairController B P FileUncertaintyJournal} (held : c.unresolvedAction = true) :
    Refuses c := by
  intro action ordinary
  have run : (PairController.mutate action : Proc (ControllerEvent β JournalEvent) _ _) c =
      PairController.Finish action .rejectedBeforeSend none (some .unresolvedPriorAction) c := by
    simp only [PairController.mutate, get_bind_run, held, ordinary, ne_eq, not_false_eq_true, and_self, if_true]
    exact PairController.finish_run ..
  exact ⟨_, _, run, rfl, rfl, rfl⟩

/-- While a begun backend action is unresolved, every reopening after a crash fails or
reports pending, and every controller, reopened or still running, refuses. -/
theorem outstanding_survives_crashes {history : List (Trace β)} (outstanding : Outstanding history) :
    (∀ root, SystemRun crashing (.stopped root : Host B P) history → ∀ steps after result,
      StateRoot.openUnder root = ⟨steps, after, some result⟩ → (∃ error, result = .error error) ∨
        ∃ pending, result = .ok (.pending pending) ∧ ∀ (backend : B) (probe : P),
          Refuses (PairController.withJournal backend probe ⟨after, .pending pending⟩)) ∧
      ∀ c, SystemRun crashing (.running c : Host B P) history → Refuses c := by
  constructor
  · intro root run steps after result opening
    have marked := (systemRun_guarded run).2 outstanding
    rcases result with error | _ | pending
    · exact .inl ⟨error, rfl⟩
    · have post := ends_run (StateRoot.openUnder_ends root) opening
      exact absurd (post.pending .durable marked _ rfl) nofun
    · exact .inr ⟨pending, rfl, fun backend probe => refuses_of_unresolved rfl⟩
  · intro c run
    exact refuses_of_unresolved ((systemRun_guarded run).2 outstanding).2

/-- A process killed inside its START call, a host crash, and the next process. -/
theorem outstanding_survives_crashes_start : ∃ (root : StateRoot) (history : List (Trace Unit)),
    SystemRun crashing (.stopped root : Host Backend Probe) history ∧ Outstanding history ∧
      (StateRoot.openUnder root).out = some (.ok (.pending .start)) ∧
      Refuses (PairController.withJournal (Backend.healthy .ready []) (Probe.readyReads 1)
        ⟨(StateRoot.openUnder root).state, .pending .start⟩) := by
  let c : PairController Backend Probe FileUncertaintyJournal :=
    PairController.withJournal (Backend.healthy .ready []) (Probe.readyReads 1) ⟨StateRoot.empty, .clean⟩
  let root := (PairController.perform (.mutate .start) c).state.journal.directory
  have opened : SystemRun crashing (.running c) [] := .opened (.booted StateRoot.empty_established) rfl trivial _
  have killed := opened.died (.mutate .start) (by decide) trivial
  have survives (value : Option FileEntry) : if root.application.current.isSome then StateRoot.FileSurvives value value
      else value = none := by
    rw [if_pos (by decide)]
    cases value with
    | none => rfl
    | some entry => exact fun _ => rfl
  have crash : StateRoot.Crash root root :=
    ⟨⟨rfl, rfl, rfl, rfl⟩, ⟨_, List.mem_cons_self, _, rfl, by decide⟩, ⟨_, List.mem_cons_self, _, rfl, by decide⟩,
      ⟨_, List.mem_cons_self, _, survives _, by decide⟩, ⟨_, List.mem_cons_self, _, survives _, by decide⟩⟩
  have run := killed.crashed crash
  have outstanding : Outstanding [(PairController.perform (.mutate .start) c).trace] :=
    ⟨.inl (by decide), fun resolved => absurd resolved.returned (by decide)⟩
  have answer : (StateRoot.openUnder root).out = some (.ok (.pending .start)) := by decide
  refine ⟨root, _, run, outstanding, answer, ?_⟩
  have opening : StateRoot.openUnder root = ⟨(StateRoot.openUnder root).trace, (StateRoot.openUnder root).state,
      some (.ok (.pending .start))⟩ := by rw [← answer]
  rcases (outstanding_survives_crashes outstanding).1 root run _ _ _ opening with ⟨error, failed⟩ | ⟨pending, same, refuses⟩
  · cases failed
  · cases same
    exact refuses _ _

end Runs

end PlayTogether.System
