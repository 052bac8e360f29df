import PlayTogether.Controller.Model

/-! Every way a controller operation can end, stated once: what it issued, how it left
its parts, and under which answers. -/

namespace PlayTogether.Controller
open PlayTogether.Library PlayTogether.Pair PlayTogether.Journal

section Events
variable {β γ : Type}

def ControllerEvent.isCalling : ControllerEvent β γ → Bool
  | .calling _ _ _ => true
  | .probed _ | .marked _ _ | .cleared _ | .returned _ _ | .backend _ | .journal _ => false

def ControllerEvent.isReturned : ControllerEvent β γ → Bool
  | .returned _ _ => true
  | .probed _ | .marked _ _ | .cleared _ | .calling _ _ _ | .backend _ | .journal _ => false

def ControllerEvent.backendCall : ControllerEvent β γ → Option β
  | .backend event => some event
  | .probed _ | .marked _ _ | .cleared _ | .calling _ _ _ | .returned _ _ | .journal _ => none

/-- What the backend itself issued at its own boundary. -/
def backendCalls (trace : List (ControllerEvent β γ)) : List β := trace.filterMap ControllerEvent.backendCall

@[simp] theorem backendCalls_nil : backendCalls ([] : List (ControllerEvent β γ)) = [] := rfl

@[simp] theorem backendCalls_append (first second : List (ControllerEvent β γ)) :
    backendCalls (first ++ second) = backendCalls first ++ backendCalls second := List.filterMap_append

@[simp] theorem backendCalls_cons (event : ControllerEvent β γ) (trace : List (ControllerEvent β γ)) :
    backendCalls (event :: trace) = event.backendCall.toList ++ backendCalls trace := by
  simp only [backendCalls, List.filterMap_cons]
  cases event.backendCall <;> rfl

@[simp] theorem backendCalls_backend (trace : List β) :
    backendCalls (trace.map (ControllerEvent.backend : β → ControllerEvent β γ)) = trace := by
  simp [backendCalls, List.filterMap_map, Function.comp_def, ControllerEvent.backendCall]

@[simp] theorem backendCalls_journal (trace : List γ) :
    backendCalls (trace.map (ControllerEvent.journal : γ → ControllerEvent β γ)) = [] := by
  simp [backendCalls, List.filterMap_map, Function.comp_def, ControllerEvent.backendCall]

@[simp] theorem backend_uncalled (trace : List β) :
    ∀ event ∈ trace.map (ControllerEvent.backend : β → ControllerEvent β γ), event.isCalling = false := by
  simp [ControllerEvent.isCalling]

@[simp] theorem journal_uncalled (trace : List γ) :
    ∀ event ∈ trace.map (ControllerEvent.journal : γ → ControllerEvent β γ), event.isCalling = false := by
  simp [ControllerEvent.isCalling]

end Events

namespace PairController
variable {B P J β γ : Type}

@[simp] theorem latch_backend (c : PairController B P J) : c.latch.backend = c.backend := rfl

@[simp] theorem latch_unresolvedAction (c : PairController B P J) : c.latch.unresolvedAction = true := rfl

@[simp] theorem countFailure_backend (c : PairController B P J) : c.countFailure.backend = c.backend := rfl

def finished (action : ControllerAction) (outcome : ControllerActionOutcome) (evidence : Option PairBackendEvidence)
    (failure : Option ControllerFailure) (c : PairController B P J) : PairController B P J :=
  { c.bumpRevision with lastAction := some (c.bumpRevision.record action outcome evidence failure) }

@[simp] theorem finished_backend (action : ControllerAction) (outcome : ControllerActionOutcome)
    (evidence : Option PairBackendEvidence) (failure : Option ControllerFailure) (c : PairController B P J) :
    (finished action outcome evidence failure c).backend = c.backend := rfl

@[simp] theorem finished_unresolvedAction (action : ControllerAction) (outcome : ControllerActionOutcome)
    (evidence : Option PairBackendEvidence) (failure : Option ControllerFailure) (c : PairController B P J) :
    (finished action outcome evidence failure c).unresolvedAction = c.unresolvedAction := rfl

/-- The end of every completed operation. -/
def Finish (action : ControllerAction) (outcome : ControllerActionOutcome) (evidence : Option PairBackendEvidence)
    (failure : Option ControllerFailure) (c : PairController B P J) :
    Exec (ControllerEvent β γ) (PairController B P J) ControllerActionResult :=
  ⟨[], c.finished action outcome evidence failure, some (c.bumpRevision.record action outcome evidence failure)⟩

theorem finish_run (action : ControllerAction) (outcome : ControllerActionOutcome)
    (failure : Option ControllerFailure) (c : PairController B P J) :
    (finish action outcome failure : Proc (ControllerEvent β γ) _ _) c = Finish action outcome none failure c := rfl

/-- Observation changes at most the managed state, and then the revision. -/
theorem observe_cases (configuration : PairConfigurationState) (health : Option PairHealth)
    (c : PairController B P J) : observe configuration health c = c ∨
      c.managedState ≠ .unknown ∧ observe configuration health c = bumpRevision { c with managedState := .unknown } := by
  dsimp only [observe]
  by_cases unknown : c.managedState = .unknown
  · rw [if_pos unknown]
    exact .inl (ite_self c)
  · rw [if_neg unknown]
    split
    · exact .inr ⟨unknown, rfl⟩
    · exact .inl rfl

theorem observe_flags (configuration : PairConfigurationState) (health : Option PairHealth)
    (c : PairController B P J) : (observe configuration health c).unresolvedAction = c.unresolvedAction ∧
      (observe configuration health c).consecutiveFailures = c.consecutiveFailures ∧
      (observe configuration health c).journal = c.journal ∧
      (observe configuration health c).backend = c.backend := by
  rcases observe_cases configuration health c with same | ⟨_, changed⟩
  · rw [same]
    exact ⟨rfl, rfl, rfl, rfl⟩
  · rw [changed]
    exact ⟨rfl, rfl, rfl, rfl⟩

/-- The action has begun: managed state in progress, one revision further. -/
def begun (action : ControllerAction) (c : PairController B P J) : PairController B P J :=
  bumpRevision { c with managedState := inProgressState action }

/-- The managed state is already the one the action leads to. -/
def Claims (action : ControllerAction) (c : PairController B P J) : Prop :=
  ∃ lifecycle, idempotentState action = some (c.managedState, lifecycle)

theorem Claims.ordinary {action : ControllerAction} {c : PairController B P J} (claimed : Claims action c) :
    action ≠ .recoverStop := by
  intro recovering
  subst recovering
  obtain ⟨lifecycle, none⟩ := claimed
  cases none

/-- The latch and the failure count let the action pass. -/
structure Admitted (action : ControllerAction) (c : PairController B P J) : Prop where
  ordinary : action ≠ .recoverStop → c.unresolvedAction = false
  recovery : action = .recoverStop → c.unresolvedAction = true ∨ 2 ≤ c.consecutiveFailures

section Journal
variable [UncertaintyJournal J γ]

/-- The three ends of a journal clear and what follows it. -/
inductive ClearExit (action : ControllerAction)
    (closing : PairController B P J → Exec (ControllerEvent β γ) (PairController B P J) ControllerActionResult)
    (c : PairController B P J) : Exec (ControllerEvent β γ) (PairController B P J) ControllerActionResult → Prop where
  | killed {trace : List γ} {journal : J} (clear : UncertaintyJournal.clear c.journal = ⟨trace, journal, none⟩) :
      ClearExit action closing c ⟨trace.map .journal, { c with journal }, none⟩
  | failed {trace : List γ} {journal : J} {error : JournalError}
      (clear : UncertaintyJournal.clear c.journal = ⟨trace, journal, some (.error error)⟩) :
      ClearExit action closing c
        ((Finish action .outcomeUnknown none (some .journalCommitFailed) (latch { c with journal })).after
          (trace.map .journal ++ [.cleared (.error error)]))
  | cleared {trace : List γ} {journal : J}
      (clear : UncertaintyJournal.clear c.journal = ⟨trace, journal, some (.ok ())⟩) :
      ClearExit action closing c ((closing { c with journal }).after (trace.map .journal ++ [.cleared (.ok ())]))

theorem clearJournal_exit (action : ControllerAction)
    {rest : Proc (ControllerEvent β γ) (PairController B P J) ControllerActionResult} (c : PairController B P J) :
    ClearExit action rest c ((do
      match ← clearJournal with
      | .error _ => journalCommitFailed action
      | .ok () => rest) c) := by
  rcases clear : (UncertaintyJournal.clear : Proc γ J _) c.journal with ⟨trace, journal, _ | error | _⟩
  · have run : (clearJournal : Proc (ControllerEvent β γ) (PairController B P J) _) c =
        ⟨trace.map .journal, { c with journal }, none⟩ := zoom_bind_killed clear
    rw [bind_killed run]
    exact .killed clear
  · have run : (clearJournal : Proc (ControllerEvent β γ) (PairController B P J) _) c =
        ⟨trace.map .journal ++ [.cleared (.error error)], { c with journal }, some (.error error)⟩ :=
      zoom_bind_value clear
    rw [bind_value run]
    exact .failed clear
  · have run : (clearJournal : Proc (ControllerEvent β γ) (PairController B P J) _) c =
        ⟨trace.map .journal ++ [.cleared (.ok ())], { c with journal }, some (.ok ())⟩ := zoom_bind_value clear
    rw [bind_value run]
    exact .cleared clear

/-- Ends of the reduction of one backend result. -/
inductive ReduceExit (action : ControllerAction) (older : Bool) (c : PairController B P J) :
    PairActionResult → Exec (ControllerEvent β γ) (PairController B P J) ControllerActionResult → Prop where
  | unknown (failure : PairActionFailure) :
      ReduceExit action older c (.outcomeUnknown failure)
        (Finish action .outcomeUnknown none (some (controllerFailureFromUnknownBackend failure.reason)) c.latch)
  | rejectionKept (failure : PairActionFailure) (recovering : action = .recoverStop) (pending : older = true) :
      ReduceExit action older c (.rejectedBeforeSend failure)
        (Finish action .rejectedBeforeSend none (some (controllerFailureFromBackend failure.reason))
          { c.countFailure with unresolvedAction := true, managedState := .degraded })
  | rejection {run : Exec (ControllerEvent β γ) (PairController B P J) ControllerActionResult}
      (failure : PairActionFailure) (mayClear : action ≠ .recoverStop ∨ older = false)
      (exit : ClearExit action (fun c => Finish action .rejectedBeforeSend none
        (some (controllerFailureFromBackend failure.reason)) { c.countFailure with managedState := .degraded }) c run) :
      ReduceExit action older c (.rejectedBeforeSend failure) run
  | unexpected (receipt : PairActionReceipt) (other : receipt.lifecycle ≠ expectedLifecycle action) :
      ReduceExit action older c (.accepted receipt)
        (Finish action .outcomeUnknown none (some .unexpectedBackendLifecycle) c.latch)
  | probeKilled (receipt : PairActionReceipt) {trace : List (ControllerEvent β γ)} {probe : P}
      (quiet : trace = [] ∨ trace = [.probed none]) :
      ReduceExit action older c (.accepted receipt) ⟨trace, { c with probe }, none⟩
  | unconfirmed (receipt : PairActionReceipt) (observation : Except PairProbeError PairConfigurationObservation)
      (probe : P) (gone : configurationState observation ≠ .ready) :
      ReduceExit action older c (.accepted receipt)
        ((Finish action .postconditionFailed none (some .membershipPostconditionFailed) (latch { c with probe })).after
          [.probed (some observation)])
  | confirmed {run : Exec (ControllerEvent β γ) (PairController B P J) ControllerActionResult}
      (receipt : PairActionReceipt) (observation : Except PairProbeError PairConfigurationObservation) (probe : P)
      (expected : receipt.lifecycle = expectedLifecycle action) (ready : configurationState observation = .ready)
      (exit : ClearExit action (fun c => Finish action
        (if receipt.evidence = .broadcastAcknowledgementOnly then .acceptedUnconfirmed else .accepted)
        (some receipt.evidence) none
        { c with consecutiveFailures := 0, unresolvedAction := false, managedState := acceptedState action })
        { c with probe } run) :
      ReduceExit action older c (.accepted receipt) (run.after [.probed (some observation)])

theorem ClearExit.issues_nothing {action : ControllerAction}
    {closing : PairController B P J → Exec (ControllerEvent β γ) (PairController B P J) ControllerActionResult}
    {c : PairController B P J} {run : Exec (ControllerEvent β γ) (PairController B P J) ControllerActionResult}
    (exit : ClearExit action closing c run)
    (closes : ∀ journal, (closing { c with journal }).trace = [] ∧ (closing { c with journal }).state.backend = c.backend) :
    backendCalls run.trace = [] ∧ run.state.backend = c.backend := by
  cases exit with
  | killed => exact ⟨backendCalls_journal _, rfl⟩
  | failed => exact ⟨by simp [Finish, ControllerEvent.backendCall], rfl⟩
  | cleared => exact ⟨by simp [closes, ControllerEvent.backendCall], (closes _).2⟩

/-- Once the backend has answered, it is not called again. -/
theorem ReduceExit.issues_nothing {action : ControllerAction} {older : Bool} {attempted : PairActionResult}
    {c : PairController B P J} {run : Exec (ControllerEvent β γ) (PairController B P J) ControllerActionResult}
    (exit : ReduceExit action older c attempted run) : backendCalls run.trace = [] ∧ run.state.backend = c.backend := by
  cases exit with
  | unknown => exact ⟨rfl, rfl⟩
  | rejectionKept => exact ⟨rfl, rfl⟩
  | rejection failure mayClear exit => exact exit.issues_nothing fun _ => ⟨rfl, rfl⟩
  | unexpected => exact ⟨rfl, rfl⟩
  | probeKilled receipt quiet => exact ⟨by rcases quiet with rfl | rfl <;> rfl, rfl⟩
  | unconfirmed => exact ⟨rfl, rfl⟩
  | confirmed receipt observation probe expected ready exit =>
    obtain ⟨silent, same⟩ := exit.issues_nothing fun _ => ⟨rfl, rfl⟩
    exact ⟨by simp [silent, ControllerEvent.backendCall], same⟩

theorem markPending_run {action : JournalAction} {c : PairController B P J} {steps : List γ} {journal : J}
    {result : Except JournalError Unit}
    (mark : UncertaintyJournal.markPending action c.journal = ⟨steps, journal, some result⟩) :
    (markPending action : Proc (ControllerEvent β γ) (PairController B P J) _) c =
      ⟨steps.map .journal ++ [.marked action result], { c with journal }, some result⟩ := by
  rw [markPending, zoom_bind_value mark]
  rfl

variable [PairConfigurationProbe P]

theorem reduceBackendResult_exit (action : ControllerAction) (attempted : PairActionResult) (older : Bool)
    (c : PairController B P J) : ReduceExit action older c attempted
      ((reduceBackendResult action attempted older : Proc (ControllerEvent β γ) _ _) c) := by
  cases attempted with
  | outcomeUnknown failure => exact .unknown failure
  | rejectedBeforeSend failure =>
    simp only [reduceBackendResult, reduceRejected]
    by_cases mayClear : action ≠ .recoverStop ∨ older = false
    · rw [if_pos mayClear]
      exact .rejection failure mayClear (clearJournal_exit action c)
    · rw [if_neg mayClear]
      rw [not_or, not_not, Bool.not_eq_false] at mayClear
      exact .rejectionKept failure mayClear.1 mayClear.2
  | accepted receipt =>
    simp only [reduceBackendResult, reduceAccepted]
    by_cases expected : receipt.lifecycle = expectedLifecycle action
    · rw [if_pos expected]
      simp only [readPairConfiguration]
      rcases answer : PairConfigurationProbe.pairConfiguration c.probe with ⟨observation | _ | _, probe⟩
      · rw [call_answered answer]
        by_cases ready : configurationState observation = .ready
        · rw [if_pos ready]
          exact .confirmed receipt observation probe expected ready (clearJournal_exit action _)
        · rw [if_neg ready]
          exact .unconfirmed receipt observation probe ready
      · rw [call_unanswered answer]
        exact .probeKilled receipt (.inr rfl)
      · rw [call_unissued answer]
        exact .probeKilled receipt (.inl rfl)
    · rw [if_neg expected]
      exact .unexpected receipt expected

end Journal

section Mutations
variable [PairBackend B β]

/-- Health may have been read on the way, if it is asked for at all. It is the only
backend call that is no transaction. -/
inductive Looked (asked : Prop) (backend : B) : List β → B → Prop where
  | skipped : Looked asked backend [] backend
  | read (why : asked) : Looked asked backend (PairBackend.health backend).trace (PairBackend.health backend).state

/-- What the idempotence check can answer. -/
inductive IdempotentExit (action : ControllerAction) (c : PairController B P J) :
    Exec (ControllerEvent β γ) (PairController B P J) Bool → Prop where
  | answered {trace : List β} {backend : B} {answer : Bool} (looked : Looked (Claims action c) c.backend trace backend)
      (claimed : answer = true → Claims action c) :
      IdempotentExit action c ⟨trace.map .backend, { c with backend }, some answer⟩
  | killed {trace : List β} {backend : B} (looked : Looked (Claims action c) c.backend trace backend) :
      IdempotentExit action c ⟨trace.map .backend, { c with backend }, none⟩

theorem isIdempotent_exit (action : ControllerAction) (c : PairController B P J) :
    IdempotentExit action c ((isIdempotent action : Proc (ControllerEvent β γ) _ _) c) := by
  simp only [isIdempotent, get_bind_run]
  rcases expected : idempotentState action with _ | ⟨managed, lifecycle⟩
  · exact .answered .skipped nofun
  · dsimp only
    by_cases same : c.managedState = managed
    · rw [if_pos same]
      subst same
      have looked : Looked (Claims action c) c.backend _ _ := .read ⟨lifecycle, expected⟩
      rcases health : (PairBackend.health : Proc β B _) c.backend with ⟨trace, backend, _ | answer⟩
      · rw [health] at looked
        have run : (backendHealth : Proc (ControllerEvent β γ) (PairController B P J) _) c =
            ⟨trace.map .backend, { c with backend }, none⟩ := by
          simp only [backendHealth, Proc.zoom, backendField, health]
        rw [bind_killed run]
        exact .killed looked
      · rw [health] at looked
        have run : (backendHealth : Proc (ControllerEvent β γ) (PairController B P J) _) c =
            ⟨trace.map .backend, { c with backend }, some answer⟩ := by
          simp only [backendHealth, Proc.zoom, backendField, health]
        rw [bind_value run, pure_run, after_mk, List.append_nil]
        exact .answered looked fun _ => ⟨lifecycle, expected⟩
    · rw [if_neg same]
      exact .answered .skipped nofun

/-- An operation that called no backend action. At most it read the backend's health,
and it neither claims nor changes anything that an action would. -/
structure Uncalled (action : ControllerAction) (c : PairController B P J)
    (run : Exec (ControllerEvent β γ) (PairController B P J) ControllerActionResult) : Prop where
  quiet : ∀ event ∈ run.trace, event.isCalling = false
  looked : Looked (Claims action c) c.backend (backendCalls run.trace) run.state.backend
  answered : ∀ result, run.out = some result → result.outcome = .rejectedBeforeSend ∨
    result.outcome = .idempotent ∧ Claims action c ∧ c.unresolvedAction = false

/-- An operation that ended without a call and says so. -/
theorem finish_uncalled {action : ControllerAction} {c before : PairController B P J}
    {first : List (ControllerEvent β γ)} {outcome : ControllerActionOutcome} {failure : Option ControllerFailure}
    (quiet : ∀ event ∈ first, event.isCalling = false)
    (looked : Looked (Claims action c) c.backend (backendCalls first) before.backend)
    (answered : outcome = .rejectedBeforeSend ∨ outcome = .idempotent ∧ Claims action c ∧ c.unresolvedAction = false) :
    Uncalled action c ((Finish action outcome none failure before).after first) := by
  constructor
  · simpa [Finish] using quiet
  · simpa [Finish] using looked
  · intro result returned
    obtain rfl := Option.some.inj returned
    exact answered

variable [UncertaintyJournal J γ]

/-- Ends of an action whose pending marker is in place. -/
inductive BeginExit (action : ControllerAction) (older : Bool) (c : PairController B P J) :
    Exec (ControllerEvent β γ) (PairController B P J) ControllerActionResult → Prop where
  | killed {trace : List β} {backend : B}
      (call : PairBackendTransaction.transact (backendAction action) c.backend = ⟨trace, backend, none⟩) :
      BeginExit action older c ⟨.calling action c.unresolvedAction c.consecutiveFailures :: trace.map .backend,
        { c with backend }, none⟩
  | called {trace : List β} {backend : B} {attempted : PairActionResult}
      {run : Exec (ControllerEvent β γ) (PairController B P J) ControllerActionResult}
      (call : PairBackendTransaction.transact (backendAction action) c.backend = ⟨trace, backend, some attempted⟩)
      (exit : ReduceExit action older { c with backend } attempted run) :
      BeginExit action older c (run.after
        (.calling action c.unresolvedAction c.consecutiveFailures :: trace.map .backend ++ [.returned action attempted]))

/-- Every end of a mutation. -/
inductive MutateExit (action : ControllerAction) (c : PairController B P J) :
    Exec (ControllerEvent β γ) (PairController B P J) ControllerActionResult → Prop where
  | unresolvedPrior (held : c.unresolvedAction = true) (ordinary : action ≠ .recoverStop) :
      MutateExit action c (Finish action .rejectedBeforeSend none (some .unresolvedPriorAction) c)
  | recoveryNotAllowed (recovering : action = .recoverStop) (free : c.unresolvedAction = false) :
      MutateExit action c (Finish action .rejectedBeforeSend none (some .recoveryNotAllowed) c)
  | alreadyOffline (shutting : action = .shutdown) (offline : c.managedState = .offline)
      (free : c.unresolvedAction = false) :
      MutateExit action c (Finish action .idempotent none none c)
  | probeKilled {trace : List (ControllerEvent β γ)} {probe : P} (quiet : trace = [] ∨ trace = [.probed none]) :
      MutateExit action c ⟨trace, { c with probe }, none⟩
  | preflight (observation : Except PairProbeError PairConfigurationObservation) (probe : P)
      (failure : ControllerFailure) (admitted : Admitted action c) :
      MutateExit action c ((Finish action .rejectedBeforeSend none (some failure) (countFailure { c with probe })).after
        [.probed (some observation)])
  | lookKilled (observation : Except PairProbeError PairConfigurationObservation) (probe : P) {trace : List β}
      {backend : B} (looked : Looked (Claims action c) c.backend trace backend) :
      MutateExit action c ⟨.probed (some observation) :: trace.map .backend, { c with probe, backend }, none⟩
  | idempotent (observation : Except PairProbeError PairConfigurationObservation) (probe : P) {trace : List β}
      {backend : B} (admitted : Admitted action c) (looked : Looked (Claims action c) c.backend trace backend)
      (claimed : Claims action c) :
      MutateExit action c ((Finish action .idempotent none none { c with probe, backend, consecutiveFailures := 0 }).after
        (.probed (some observation) :: trace.map .backend))
  | markKilled (observation : Except PairProbeError PairConfigurationObservation) (probe : P) {trace : List β}
      {backend : B} {steps : List γ} {journal : J} (looked : Looked (Claims action c) c.backend trace backend)
      (mark : UncertaintyJournal.markPending (journalAction action) c.journal = ⟨steps, journal, none⟩) :
      MutateExit action c ⟨.probed (some observation) :: trace.map .backend ++ steps.map .journal,
        { c with probe, backend, journal }, none⟩
  | markFailed (observation : Except PairProbeError PairConfigurationObservation) (probe : P) {trace : List β}
      {backend : B} {steps : List γ} {journal : J} {error : JournalError} (admitted : Admitted action c)
      (looked : Looked (Claims action c) c.backend trace backend)
      (mark : UncertaintyJournal.markPending (journalAction action) c.journal = ⟨steps, journal, some (.error error)⟩) :
      MutateExit action c ((Finish action .rejectedBeforeSend none (some .journalUnavailable)
        (if UncertaintyJournal.isPending journal then latch { c with probe, backend, journal }
          else countFailure { c with probe, backend, journal })).after
        (.probed (some observation) :: trace.map .backend ++ steps.map .journal ++
          [.marked (journalAction action) (.error error)]))
  | began (observation : Except PairProbeError PairConfigurationObservation) (probe : P) {trace : List β}
      {backend : B} {steps : List γ} {journal : J}
      {run : Exec (ControllerEvent β γ) (PairController B P J) ControllerActionResult} (admitted : Admitted action c)
      (ready : configurationState observation = .ready) (looked : Looked (Claims action c) c.backend trace backend)
      (mark : UncertaintyJournal.markPending (journalAction action) c.journal = ⟨steps, journal, some (.ok ())⟩)
      (exit : BeginExit action c.unresolvedAction (begun action { c with probe, backend, journal }) run) :
      MutateExit action c (run.after (.probed (some observation) :: trace.map .backend ++ steps.map .journal ++
          [.marked (journalAction action) (.ok ())]))

/-- A mutation that stopped short of its pending marker. -/
structure Passed (action : ControllerAction) (c : PairController B P J)
    (run : Exec (ControllerEvent β γ) (PairController B P J) ControllerActionResult) : Prop
    extends Uncalled action c run where
  managed : run.state.managedState = c.managedState
  flag : run.state.unresolvedAction = c.unresolvedAction
  journal : run.state.journal = c.journal

/-- A mutation that stopped at its pending marker. -/
structure Stalled (action : ControllerAction) (c : PairController B P J)
    (run : Exec (ControllerEvent β γ) (PairController B P J) ControllerActionResult) : Prop
    extends Uncalled action c run where
  mark : ∃ steps out, Failed out ∧
    UncertaintyJournal.markPending (journalAction action) c.journal = ⟨steps, run.state.journal, out⟩
  managed : run.state.managedState = c.managedState ∨ run.state.managedState = .unknown
  flag : run.state.unresolvedAction = c.unresolvedAction ∨ run.state.unresolvedAction = true
  mirrored : run.out ≠ none → UncertaintyJournal.isPending run.state.journal = true →
    run.state.unresolvedAction = true

/-- A mutation that placed its pending marker and called the backend. -/
inductive Began (action : ControllerAction) (c : PairController B P J) :
    Exec (ControllerEvent β γ) (PairController B P J) ControllerActionResult → Prop where
  | called {first : List (ControllerEvent β γ)} {backend : B} {steps : List γ} {probe : P} {journal : J}
      {run : Exec (ControllerEvent β γ) (PairController B P J) ControllerActionResult} (admitted : Admitted action c)
      (early : ∀ event ∈ first, event.isCalling = false) (looked : Looked (Claims action c) c.backend (backendCalls first) backend)
      (mark : UncertaintyJournal.markPending (journalAction action) c.journal = ⟨steps, journal, some (.ok ())⟩)
      (exit : BeginExit action c.unresolvedAction (begun action { c with probe, backend, journal }) run) :
      Began action c (run.after (first ++ [.marked (journalAction action) (.ok ())]))

/-- The ends of a mutation by how far it came. -/
theorem MutateExit.split {action : ControllerAction} {c : PairController B P J}
    {run : Exec (ControllerEvent β γ) (PairController B P J) ControllerActionResult}
    (exit : MutateExit action c run) : Passed action c run ∨ Stalled action c run ∨ Began action c run := by
  have silent : ∀ event ∈ ([] : List (ControllerEvent β γ)), event.isCalling = false := by simp
  cases exit with
  | unresolvedPrior => exact .inl ⟨finish_uncalled silent .skipped (.inl rfl), rfl, rfl, rfl⟩
  | recoveryNotAllowed => exact .inl ⟨finish_uncalled silent .skipped (.inl rfl), rfl, rfl, rfl⟩
  | alreadyOffline shutting offline free =>
    have claimed : Claims action c := ⟨.offline, by rw [shutting, offline]; rfl⟩
    exact .inl ⟨finish_uncalled silent .skipped (.inr ⟨rfl, claimed, free⟩), rfl, rfl, rfl⟩
  | probeKilled quiet =>
    refine .inl ⟨⟨?_, ?_, by simp⟩, rfl, rfl, rfl⟩
    · rcases quiet with rfl | rfl <;> simp [ControllerEvent.isCalling]
    · rcases quiet with rfl | rfl <;> exact .skipped
  | preflight =>
    exact .inl ⟨finish_uncalled (by simp [ControllerEvent.isCalling]) .skipped (.inl rfl), rfl, rfl, rfl⟩
  | lookKilled observation probe looked =>
    refine .inl ⟨⟨by simp [ControllerEvent.isCalling], ?_, by simp⟩, rfl, rfl, rfl⟩
    simpa [ControllerEvent.backendCall] using looked
  | idempotent observation probe admitted looked claimed =>
    refine .inl ⟨finish_uncalled (by simp [ControllerEvent.isCalling]) ?_ (.inr ⟨rfl, claimed, ?_⟩), rfl, rfl, rfl⟩
    · simpa [ControllerEvent.backendCall] using looked
    · exact admitted.ordinary claimed.ordinary
  | markKilled observation probe looked mark =>
    refine .inr (.inl ⟨⟨by simp [ControllerEvent.isCalling, or_imp, forall_and], ?_, by simp⟩,
      ⟨_, _, failed_none, mark⟩, .inl rfl, .inl rfl, by simp⟩)
    simpa [ControllerEvent.backendCall] using looked
  | @markFailed observation probe trace backend steps journal error admitted looked mark =>
    have uncalled (before : PairController B P J) (same : before.backend = backend) :
        Uncalled action c ((Finish action .rejectedBeforeSend none (some .journalUnavailable) before).after
          (.probed (some observation) :: trace.map .backend ++ steps.map .journal ++
            [.marked (journalAction action) (.error error)])) := by
      apply finish_uncalled _ _ (.inl rfl)
      · simp [ControllerEvent.isCalling, or_imp, forall_and]
      · simpa [ControllerEvent.backendCall, same] using looked
    apply Or.inr
    apply Or.inl
    by_cases pending : UncertaintyJournal.isPending journal = true
    · rw [if_pos pending]
      exact ⟨uncalled _ rfl, ⟨_, _, failed_error error, mark⟩, .inr rfl, .inr rfl, fun _ _ => rfl⟩
    · rw [if_neg pending]
      exact ⟨uncalled _ rfl, ⟨_, _, failed_error error, mark⟩, .inl rfl, .inl rfl, fun _ held => absurd held pending⟩
  | @began observation probe trace backend steps journal run admitted ready looked mark exit =>
    refine .inr (.inr (.called admitted ?_ ?_ mark exit))
    · simp [ControllerEvent.isCalling, or_imp, forall_and]
    · simpa [ControllerEvent.backendCall] using looked

variable [PairConfigurationProbe P]

theorem beginAction_exit (action : ControllerAction) (older : Bool) (c : PairController B P J) :
    BeginExit action older (c.begun action) (beginAction action older c) := by
  have started : (beginAction action older : Proc (ControllerEvent β γ) (PairController B P J) _) c =
      (callBackend action >>= fun attempted => reduceBackendResult action attempted older) (c.begun action) := rfl
  rw [started]
  generalize c.begun action = c
  rcases call : PairBackendTransaction.transact (backendAction action) c.backend with ⟨trace, backend, _ | attempted⟩
  · have run : (callBackend action : Proc (ControllerEvent β γ) (PairController B P J) _) c =
        ⟨.calling action c.unresolvedAction c.consecutiveFailures :: trace.map .backend, { c with backend }, none⟩ := by
      simp only [callBackend, get_bind_run, emit_bind_run]
      rw [zoom_bind_killed call]
      rfl
    rw [bind_killed run]
    exact .killed call
  · have run : (callBackend action : Proc (ControllerEvent β γ) (PairController B P J) _) c =
        ⟨.calling action c.unresolvedAction c.consecutiveFailures :: trace.map .backend ++ [.returned action attempted],
          { c with backend }, some attempted⟩ := by
      simp only [callBackend, get_bind_run, emit_bind_run]
      rw [zoom_bind_value call]
      rfl
    rw [bind_value run]
    exact .called call (reduceBackendResult_exit action attempted older _)

theorem mutateReady_exit {action : ControllerAction} {c : PairController B P J}
    {observation : Except PairProbeError PairConfigurationObservation} (probe : P) (admitted : Admitted action c)
    (ready : configurationState observation = .ready) :
    MutateExit action c (((mutateReady action c.unresolvedAction : Proc (ControllerEvent β γ) _ _)
      { c with probe }).after [.probed (some observation)]) := by
  have checked : IdempotentExit action _ ((isIdempotent action : Proc (ControllerEvent β γ) _ _) { c with probe }) :=
    isIdempotent_exit action _
  generalize run : (isIdempotent action : Proc (ControllerEvent β γ) (PairController B P J) _) { c with probe } = answer
    at checked
  cases checked with
  | killed looked =>
    rw [mutateReady, bind_killed run]
    exact .lookKilled observation probe looked
  | @answered trace backend answer looked claimed =>
    rw [mutateReady, bind_value run, after_after]
    cases answer with
    | true => exact .idempotent observation probe admitted looked (claimed rfl)
    | false =>
      rw [if_neg Bool.false_ne_true]
      rcases mark : UncertaintyJournal.markPending (journalAction action) c.journal with ⟨steps, journal, _ | error | _⟩
      · have marking : (markPending (journalAction action) : Proc (ControllerEvent β γ) (PairController B P J) _)
            { c with probe, backend } = ⟨steps.map .journal, { c with probe, backend, journal }, none⟩ :=
          zoom_bind_killed mark
        rw [bind_killed marking]
        exact .markKilled observation probe looked mark
      · have marking : (markPending (journalAction action) : Proc (ControllerEvent β γ) (PairController B P J) _)
            { c with probe, backend } = ⟨steps.map .journal ++ [.marked (journalAction action) (.error error)],
              { c with probe, backend, journal }, some (.error error)⟩ := markPending_run mark
        rw [bind_value marking, after_after]
        have exit := MutateExit.markFailed observation probe admitted looked mark
        simp only [List.cons_append, List.append_assoc] at exit
        exact exit
      · have marking : (markPending (journalAction action) : Proc (ControllerEvent β γ) (PairController B P J) _)
            { c with probe, backend } = ⟨steps.map .journal ++ [.marked (journalAction action) (.ok ())],
              { c with probe, backend, journal }, some (.ok ())⟩ := markPending_run mark
        rw [bind_value marking, after_after]
        have exit := MutateExit.began observation probe admitted ready looked mark (beginAction_exit action _ _)
        simp only [List.cons_append, List.append_assoc] at exit
        exact exit

theorem mutateAllowed_exit {action : ControllerAction} {c : PairController B P J} (admitted : Admitted action c) :
    MutateExit action c ((mutateAllowed action c.unresolvedAction : Proc (ControllerEvent β γ) _ _) c) := by
  simp only [mutateAllowed, readPairConfiguration]
  rcases answer : PairConfigurationProbe.pairConfiguration c.probe with ⟨observation | _ | _, probe⟩
  · rw [call_answered answer]
    rcases state : configurationState observation
    · exact mutateReady_exit probe admitted state
    · exact .preflight observation probe _ admitted
    · exact .preflight observation probe _ admitted
  · rw [call_unanswered answer]
    exact .probeKilled (.inr rfl)
  · rw [call_unissued answer]
    exact .probeKilled (.inl rfl)

theorem mutate_exit (action : ControllerAction) (c : PairController B P J) :
    MutateExit action c ((mutate action : Proc (ControllerEvent β γ) _ _) c) := by
  simp only [mutate, get_bind_run]
  by_cases latched : c.unresolvedAction = true ∧ action ≠ .recoverStop
  · rw [if_pos latched]
    exact .unresolvedPrior latched.1 latched.2
  rw [if_neg latched]
  by_cases early : action = .recoverStop ∧ c.unresolvedAction = false ∧ c.consecutiveFailures < 2
  · rw [if_pos early]
    exact .recoveryNotAllowed early.1 early.2.1
  rw [if_neg early]
  have admitted : Admitted action c := by
    constructor
    · intro ordinary
      rw [Bool.eq_false_iff]
      exact fun held => latched ⟨held, ordinary⟩
    · intro recovering
      by_cases held : c.unresolvedAction = true
      · exact .inl held
      · rw [Bool.not_eq_true] at held
        exact .inr (Nat.not_lt.mp fun few => early ⟨recovering, held, few⟩)
  by_cases released : action = .shutdown ∧ c.managedState = .offline
  · rw [if_pos released]
    exact .alreadyOffline released.1 released.2 (admitted.ordinary (by rw [released.1]; nofun))
  · rw [if_neg released]
    exact mutateAllowed_exit admitted

end Mutations

section Status
variable [PairBackend B β] [PairConfigurationProbe P]

/-- Every end of a status read. -/
inductive StatusExit (c : PairController B P J) :
    Exec (ControllerEvent β γ) (PairController B P J) ControllerStatus → Prop where
  | probeKilled {trace : List (ControllerEvent β γ)} {probe : P} (quiet : trace = [] ∨ trace = [.probed none]) :
      StatusExit c ⟨trace, { c with probe }, none⟩
  | lookKilled (observation : Except PairProbeError PairConfigurationObservation) (probe : P) {trace : List β}
      {backend : B} (looked : Looked True c.backend trace backend) :
      StatusExit c ⟨.probed (some observation) :: trace.map .backend, { c with probe, backend }, none⟩
  | observed (observation : Except PairProbeError PairConfigurationObservation) (probe : P) {trace : List β}
      {backend : B} {health : Option PairHealth} {snapshot : ControllerStatus} (looked : Looked True c.backend trace backend)
      (managed : snapshot.managedState =
        (observe (configurationState observation) health { c with probe, backend }).managedState)
      (unresolved : snapshot.unresolvedAction = c.unresolvedAction)
      (failures : snapshot.consecutiveFailures = c.consecutiveFailures)
      (revision : snapshot.revision =
        (observe (configurationState observation) health { c with probe, backend }).revision) :
      StatusExit c ⟨.probed (some observation) :: trace.map .backend,
        observe (configurationState observation) health { c with probe, backend }, some snapshot⟩

theorem status_exit (c : PairController B P J) :
    StatusExit c ((status : Proc (ControllerEvent β γ) _ _) c) := by
  simp only [status, readPairConfiguration]
  rcases answer : PairConfigurationProbe.pairConfiguration c.probe with ⟨observation | _ | _, probe⟩
  · rw [call_answered answer]
    have looked : Looked True c.backend _ _ := .read trivial
    rcases health : (PairBackend.health : Proc β B _) c.backend with ⟨trace, backend, _ | found⟩
    · rw [health] at looked
      have run : (backendHealth : Proc (ControllerEvent β γ) (PairController B P J) _) (probeField.set probe c) =
          ⟨trace.map .backend, { c with probe, backend }, none⟩ := by
        simp only [backendHealth, Proc.zoom, backendField, probeField, health]
      rw [bind_killed run]
      exact .lookKilled observation probe looked
    · rw [health] at looked
      have run : (backendHealth : Proc (ControllerEvent β γ) (PairController B P J) _) (probeField.set probe c) =
          ⟨trace.map .backend, { c with probe, backend }, some found⟩ := by
        simp only [backendHealth, Proc.zoom, backendField, probeField, health]
      rw [bind_value run, after_after]
      simp only [modify_bind_run, get_bind_run, pure_run, after_mk, List.append_nil]
      have flags := observe_flags (configurationState observation) found.toOption { c with probe, backend }
      exact .observed observation probe looked rfl flags.1 flags.2.1 rfl
  · rw [call_unanswered answer]
    exact .probeKilled (.inr rfl)
  · rw [call_unissued answer]
    exact .probeKilled (.inl rfl)

/-- A status read may look at the backend and may give up a claimed state. -/
structure Observed (c : PairController B P J)
    (run : Exec (ControllerEvent β γ) (PairController B P J) ControllerStatus) : Prop where
  quiet : ∀ event ∈ run.trace, event.isCalling = false
  looked : Looked True c.backend (backendCalls run.trace) run.state.backend
  journal : run.state.journal = c.journal
  flag : run.state.unresolvedAction = c.unresolvedAction
  managed : run.state.managedState = c.managedState ∨ run.state.managedState = .unknown

theorem status_observed (c : PairController B P J) :
    Observed c ((status : Proc (ControllerEvent β γ) _ _) c) := by
  have exit : StatusExit c ((status : Proc (ControllerEvent β γ) _ _) c) := status_exit c
  generalize (status : Proc (ControllerEvent β γ) (PairController B P J) _) c = run at exit
  cases exit with
  | probeKilled quiet =>
    refine ⟨?_, ?_, rfl, rfl, .inl rfl⟩
    · rcases quiet with rfl | rfl <;> simp [ControllerEvent.isCalling]
    · rcases quiet with rfl | rfl <;> exact .skipped
  | lookKilled observation probe looked =>
    refine ⟨by simp [ControllerEvent.isCalling], ?_, rfl, rfl, .inl rfl⟩
    simpa [ControllerEvent.backendCall] using looked
  | @observed observation probe _ backend health _ looked =>
    obtain ⟨flag, -, journal, same⟩ := observe_flags (configurationState observation) health { c with probe, backend }
    refine ⟨by simp [ControllerEvent.isCalling], ?_, journal, flag, ?_⟩
    · simpa [ControllerEvent.backendCall, same] using looked
    · rcases observe_cases (configurationState observation) health { c with probe, backend } with kept | ⟨-, given⟩
      · exact .inl (by rw [kept])
      · exact .inr (by rw [given]; rfl)

end Status
end PairController

end PlayTogether.Controller
