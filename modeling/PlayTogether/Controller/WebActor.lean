import PlayTogether.Controller.Exits

/-! The one actor behind the Web boundary. Requests of any number of clients are
served one at a time; a mutation carries the revision its client last read. -/

namespace PlayTogether.Controller
open PlayTogether.Library PlayTogether.Pair PlayTogether.Journal

inductive WebMutation where
  | start
  | stop
  | recoverStop
  deriving DecidableEq, Repr

/-- The revision changed before the mutation could be applied. -/
structure RevisionConflict where
  deriving DecidableEq, Repr

structure ControllerWebActor (B P J : Type) where
  controller : PairController B P J
  teardownDone : Bool

inductive WebRequest where
  | status
  | mutate (expectedRevision : Nat) (mutation : WebMutation)
  deriving DecidableEq, Repr

inductive WebResponse where
  | status (snapshot : ControllerStatus)
  | action (result : ControllerActionResult)
  | conflict (error : RevisionConflict)
  deriving DecidableEq, Repr

namespace ControllerWebActor
variable {B P J β γ : Type}

def controllerField : Lens (PairController B P J) (ControllerWebActor B P J) :=
  ⟨fun self => self.controller, fun controller self => { self with controller }⟩

section Operations
variable [PairBackend B β] [PairConfigurationProbe P] [UncertaintyJournal J γ]

def onController {α : Type} (p : Proc (ControllerEvent β γ) (PairController B P J) α) :
    Proc (ControllerEvent β γ) (ControllerWebActor B P J) α := p.zoom controllerField id

def controllerMutation : WebMutation → Proc (ControllerEvent β γ) (PairController B P J) ControllerActionResult
  | .start => PairController.start
  | .stop => PairController.stop
  | .recoverStop => PairController.recoverStop

def mutateIfRevision (expectedRevision : Nat) (mutation : WebMutation) :
    Proc (ControllerEvent β γ) (ControllerWebActor B P J) (Except RevisionConflict ControllerActionResult) := do
  let self ← Proc.get
  if self.controller.revision ≠ expectedRevision then pure (.error ⟨⟩)
  else
    let result ← onController (controllerMutation mutation)
    pure (.ok result)

def serve (request : WebRequest) : Proc (ControllerEvent β γ) (ControllerWebActor B P J) WebResponse := do
  match request with
  | .status =>
    let snapshot ← onController PairController.status
    pure (.status snapshot)
  | .mutate expectedRevision mutation =>
    match ← mutateIfRevision expectedRevision mutation with
    | .error conflict => pure (.conflict conflict)
    | .ok result => pure (.action result)

/-- One served request with the states around it. -/
structure Exchange (B P J β γ : Type) where
  before : PairController B P J
  request : WebRequest
  trace : List (ControllerEvent β γ)
  response : WebResponse
  after : PairController B P J

/-- A log of served requests, none of them at the end of the revision range. -/
inductive Served : ControllerWebActor B P J → List (Exchange B P J β γ) → Prop where
  | idle (actor : ControllerWebActor B P J) : Served actor []
  | served {actor : ControllerWebActor B P J} {response : WebResponse} {log : List (Exchange B P J β γ)}
      (request : WebRequest) (below : actor.controller.revision < maxRevision - 1)
      (answered : (serve request actor).out = some response) (rest : Served (serve request actor).state log) :
      Served actor (⟨actor.controller, request, (serve request actor).trace, response,
        (serve request actor).state.controller⟩ :: log)

end Operations

/-- The parts of the state a client acts on. -/
def view (c : PairController B P J) : ManagedLiveState × Bool × Nat :=
  (c.managedState, c.unresolvedAction, c.consecutiveFailures)

namespace Exchange

/-- A mutation carrying the revision was executed. -/
def Executes (exchange : Exchange B P J β γ) (revision : Nat) : Prop :=
  (∃ mutation, exchange.request = .mutate revision mutation) ∧ ∃ result, exchange.response = .action result

/-- A client read the snapshot. -/
def Reads (exchange : Exchange B P J β γ) (snapshot : ControllerStatus) : Prop :=
  exchange.response = .status snapshot

end Exchange
end ControllerWebActor

theorem saturatingSucc_lt {limit value : Nat} (below : value < limit) : value < saturatingSucc limit value := by
  unfold saturatingSucc
  omega

theorem saturatingSucc_below {limit value : Nat} (below : value < limit - 1) : saturatingSucc limit value < limit := by
  unfold saturatingSucc
  omega

namespace PairController
variable {B P J β γ : Type} [UncertaintyJournal J γ]

theorem ClearExit.bumps {action : ControllerAction} {c : PairController B P J}
    {closing : PairController B P J → Exec (ControllerEvent β γ) (PairController B P J) ControllerActionResult}
    {run : Exec (ControllerEvent β γ) (PairController B P J) ControllerActionResult}
    (exit : ClearExit action closing c run)
    (closes : ∀ journal, (closing { c with journal }).state.revision = saturatingSucc maxRevision c.revision)
    (returned : run.out ≠ none) : run.state.revision = saturatingSucc maxRevision c.revision := by
  cases exit with
  | killed => contradiction
  | failed => rfl
  | @cleared _ journal => exact closes journal

theorem ReduceExit.bumps {action : ControllerAction} {older : Bool} {attempted : PairActionResult}
    {c : PairController B P J} {run : Exec (ControllerEvent β γ) (PairController B P J) ControllerActionResult}
    (exit : ReduceExit action older c attempted run) (returned : run.out ≠ none) :
    run.state.revision = saturatingSucc maxRevision c.revision := by
  cases exit with
  | unknown => rfl
  | rejectionKept => rfl
  | rejection failure mayClear exit => exact exit.bumps (fun _ => rfl) returned
  | unexpected => rfl
  | probeKilled => contradiction
  | unconfirmed => rfl
  | confirmed receipt observation probe expected ready exit => exact exit.bumps (fun _ => rfl) returned

variable [PairBackend B β]

/-- Every completed mutation moves the revision on. -/
theorem MutateExit.advances {action : ControllerAction} {c : PairController B P J}
    {run : Exec (ControllerEvent β γ) (PairController B P J) ControllerActionResult} (exit : MutateExit action c run)
    (below : c.revision < maxRevision - 1) (returned : run.out ≠ none) : c.revision < run.state.revision := by
  have once : c.revision < saturatingSucc maxRevision c.revision := saturatingSucc_lt (by omega)
  cases exit with
  | unresolvedPrior => exact once
  | recoveryNotAllowed => exact once
  | alreadyOffline => exact once
  | probeKilled => contradiction
  | preflight => exact once
  | lookKilled => contradiction
  | idempotent => exact once
  | markKilled => contradiction
  | markFailed => split <;> exact once
  | began observation probe admitted ready looked mark exit =>
    cases exit with
    | killed => contradiction
    | called call exit =>
      have twice := exit.bumps returned
      have further : saturatingSucc maxRevision c.revision <
          saturatingSucc maxRevision (saturatingSucc maxRevision c.revision) :=
        saturatingSucc_lt (saturatingSucc_below below)
      rw [after_state, after_state, twice]
      exact Nat.lt_trans once further

end PairController

namespace ControllerWebActor
variable {B P J β γ : Type}

/-- What serving one request does to the controller. -/
structure Advances (before after : PairController B P J) : Prop where
  monotone : before.revision ≤ after.revision
  visible : view before ≠ view after → before.revision < after.revision

theorem Advances.same {before after : PairController B P J} (advances : Advances before after)
    (unmoved : before.revision = after.revision) : view before = view after := by
  by_contra changed
  exact absurd (advances.visible changed) (by omega)

theorem observe_advances (configuration : PairConfigurationState) (health : Option PairHealth)
    {c : PairController B P J} (below : c.revision < maxRevision) :
    Advances c (PairController.observe configuration health c) := by
  rcases PairController.observe_cases configuration health c with same | ⟨_, changed⟩
  · rw [same]
    exact ⟨Nat.le_refl _, fun moved => absurd rfl moved⟩
  · rw [changed]
    have further := saturatingSucc_lt below
    exact ⟨Nat.le_of_lt further, fun _ => further⟩

/-- The three ways a request is answered. -/
inductive ServeExit (actor : ControllerWebActor B P J) : WebRequest →
    Exec (ControllerEvent β γ) (ControllerWebActor B P J) WebResponse → WebResponse → Prop where
  | read {run : Exec (ControllerEvent β γ) (ControllerWebActor B P J) WebResponse} (snapshot : ControllerStatus)
      (advances : Advances actor.controller run.state.controller)
      (seen : view run.state.controller =
        (snapshot.managedState, snapshot.unresolvedAction, snapshot.consecutiveFailures))
      (revision : run.state.controller.revision = snapshot.revision) :
      ServeExit actor .status run (.status snapshot)
  | executed {run : Exec (ControllerEvent β γ) (ControllerWebActor B P J) WebResponse} (mutation : WebMutation)
      (result : ControllerActionResult) (advances : actor.controller.revision < run.state.controller.revision) :
      ServeExit actor (.mutate actor.controller.revision mutation) run (.action result)
  | conflicted (expectedRevision : Nat) (mutation : WebMutation) (conflict : RevisionConflict) :
      ServeExit actor (.mutate expectedRevision mutation) ⟨[], actor, some (.conflict conflict)⟩ (.conflict conflict)

theorem ServeExit.advances {request : WebRequest} {response : WebResponse} {actor : ControllerWebActor B P J}
    {run : Exec (ControllerEvent β γ) (ControllerWebActor B P J) WebResponse}
    (exit : ServeExit actor request run response) : Advances actor.controller run.state.controller := by
  cases exit with
  | read snapshot advances => exact advances
  | executed mutation result advances => exact ⟨Nat.le_of_lt advances, fun _ => advances⟩
  | conflicted => exact ⟨Nat.le_refl _, fun moved => absurd rfl moved⟩

theorem ServeExit.seen {request : WebRequest} {response : WebResponse} {actor : ControllerWebActor B P J}
    {run : Exec (ControllerEvent β γ) (ControllerWebActor B P J) WebResponse} {snapshot : ControllerStatus}
    (exit : ServeExit actor request run response) (read : response = .status snapshot) :
    view run.state.controller = (snapshot.managedState, snapshot.unresolvedAction, snapshot.consecutiveFailures) ∧
      run.state.controller.revision = snapshot.revision := by
  cases exit with
  | read found advances seen revision =>
    obtain rfl := WebResponse.status.inj read
    exact ⟨seen, revision⟩
  | executed => cases read
  | conflicted => cases read

/-- What one exchange does to revision and view. -/
structure Compared (exchange : Exchange B P J β γ) : Prop where
  monotone : exchange.before.revision ≤ exchange.after.revision
  visible : view exchange.before ≠ view exchange.after → exchange.before.revision < exchange.after.revision
  executed : ∀ revision, exchange.Executes revision →
    exchange.before.revision = revision ∧ revision < exchange.after.revision
  inert : ∀ conflict, exchange.response = .conflict conflict →
    exchange.trace = [] ∧ exchange.after = exchange.before

/-- What holds between two exchanges of one log. -/
structure Ordered (first later : Exchange B P J β γ) : Prop where
  monotone : first.after.revision ≤ later.before.revision
  once : ∀ revision, first.Executes revision → ¬later.Executes revision
  observes : ∀ snapshot, first.Reads snapshot → later.Executes snapshot.revision →
    view later.before = (snapshot.managedState, snapshot.unresolvedAction, snapshot.consecutiveFailures)

theorem ServeExit.compared {request : WebRequest} {response : WebResponse} {actor : ControllerWebActor B P J}
    {run : Exec (ControllerEvent β γ) (ControllerWebActor B P J) WebResponse}
    (exit : ServeExit actor request run response) :
    Compared ⟨actor.controller, request, run.trace, response, run.state.controller⟩ := by
  have advances := exit.advances
  refine ⟨advances.monotone, advances.visible, ?_, ?_⟩
  · intro revision executes
    obtain ⟨⟨mutation, asked⟩, result, answer⟩ := executes
    cases exit with
    | read => cases asked
    | executed mutation result moved =>
      obtain ⟨rfl, -⟩ := WebRequest.mutate.inj asked
      exact ⟨rfl, moved⟩
    | conflicted => cases answer
  · intro conflict answer
    cases exit with
    | read => cases answer
    | executed => cases answer
    | conflicted => exact ⟨rfl, rfl⟩

variable [PairBackend B β] [PairConfigurationProbe P]

theorem status_advances {c : PairController B P J} {snapshot : ControllerStatus} (below : c.revision < maxRevision)
    (returned : ((PairController.status : Proc (ControllerEvent β γ) _ _) c).out = some snapshot) :
    Advances c ((PairController.status : Proc (ControllerEvent β γ) _ _) c).state ∧
      view ((PairController.status : Proc (ControllerEvent β γ) _ _) c).state =
        (snapshot.managedState, snapshot.unresolvedAction, snapshot.consecutiveFailures) ∧
      ((PairController.status : Proc (ControllerEvent β γ) _ _) c).state.revision = snapshot.revision := by
  have exit : PairController.StatusExit c ((PairController.status : Proc (ControllerEvent β γ) _ _) c) :=
    PairController.status_exit c
  generalize (PairController.status : Proc (ControllerEvent β γ) (PairController B P J) _) c = run at exit returned
  cases exit with
  | probeKilled => simp at returned
  | lookKilled => simp at returned
  | @observed observation probe _ backend health found looked managed unresolved failures revision =>
    obtain rfl := Option.some.inj returned
    have flags := PairController.observe_flags (configurationState observation) health { c with probe, backend }
    have advances : Advances { c with probe, backend } _ :=
      observe_advances (configurationState observation) health below
    refine ⟨⟨advances.monotone, advances.visible⟩, ?_, revision.symm⟩
    rw [view, flags.1, flags.2.1, managed, unresolved, failures]

variable [UncertaintyJournal J γ]

theorem mutation_advances (mutation : WebMutation) {c : PairController B P J} (below : c.revision < maxRevision - 1)
    (returned : ((controllerMutation mutation : Proc (ControllerEvent β γ) _ _) c).out ≠ none) :
    c.revision < ((controllerMutation mutation : Proc (ControllerEvent β γ) _ _) c).state.revision := by
  cases mutation with
  | start => exact (PairController.mutate_exit .start c).advances below returned
  | stop => exact (PairController.mutate_exit .stop c).advances below returned
  | recoverStop => exact (PairController.mutate_exit .recoverStop c).advances below returned

theorem serve_exit {request : WebRequest} {actor : ControllerWebActor B P J} {response : WebResponse}
    (below : actor.controller.revision < maxRevision - 1)
    (answered : ((serve request : Proc (ControllerEvent β γ) _ _) actor).out = some response) :
    ServeExit actor request ((serve request : Proc (ControllerEvent β γ) _ _) actor) response := by
  cases request with
  | status =>
    rcases run : (PairController.status : Proc (ControllerEvent β γ) _ _) actor.controller with ⟨trace, after, _ | snapshot⟩
    · simp only [serve, onController] at answered
      rw [zoom_bind_killed run] at answered
      simp at answered
    · have observed := status_advances (γ := γ) (by omega) (congrArg Exec.out run)
      rw [run] at observed
      simp only [serve, onController] at answered ⊢
      rw [zoom_bind_value run] at answered ⊢
      obtain rfl := Option.some.inj answered
      exact .read snapshot observed.1 observed.2.1 observed.2.2
  | mutate expectedRevision mutation =>
    by_cases stale : actor.controller.revision ≠ expectedRevision
    · have conflicting : (mutateIfRevision expectedRevision mutation : Proc (ControllerEvent β γ) _ _) actor =
          ⟨[], actor, some (.error ⟨⟩)⟩ := by
        simp only [mutateIfRevision, get_bind_run, if_pos stale, pure_run]
      simp only [serve] at answered ⊢
      rw [bind_value conflicting] at answered ⊢
      obtain rfl := Option.some.inj answered
      exact .conflicted expectedRevision mutation ⟨⟩
    · obtain rfl := not_not.mp stale
      have advances := mutation_advances (β := β) (γ := γ) mutation below
      rcases run : (controllerMutation mutation : Proc (ControllerEvent β γ) _ _) actor.controller with
        ⟨trace, after, _ | result⟩
      · have executing : (mutateIfRevision actor.controller.revision mutation : Proc (ControllerEvent β γ) _ _) actor =
            ⟨trace, controllerField.set after actor, none⟩ := by
          simp only [mutateIfRevision, get_bind_run, if_neg stale, onController]
          rw [zoom_bind_killed run, List.map_id]
        simp only [serve] at answered
        rw [bind_killed executing] at answered
        simp at answered
      · have executing : (mutateIfRevision actor.controller.revision mutation : Proc (ControllerEvent β γ) _ _) actor =
            ⟨trace, controllerField.set after actor, some (.ok result)⟩ := by
          simp only [mutateIfRevision, get_bind_run, if_neg stale, onController]
          rw [zoom_bind_value run, List.map_id, pure_run, after_mk, List.append_nil]
        rw [run] at advances
        simp only [serve] at answered ⊢
        rw [bind_value executing] at answered ⊢
        obtain rfl := Option.some.inj answered
        exact .executed mutation result (advances (by simp))

/-- A later request finds the same view whenever it finds the same revision. -/
theorem Served.later {actor : ControllerWebActor B P J} {log : List (Exchange B P J β γ)} (run : Served actor log) :
    ∀ exchange ∈ log, actor.controller.revision ≤ exchange.before.revision ∧
      (actor.controller.revision = exchange.before.revision → view actor.controller = view exchange.before) := by
  induction run with
  | idle => simp
  | served request below answered rest later =>
    intro exchange member
    have advances := (serve_exit below answered).advances
    rcases List.mem_cons.mp member with rfl | behind
    · exact ⟨Nat.le_refl _, fun _ => rfl⟩
    · obtain ⟨monotone, same⟩ := later exchange behind
      have start := advances.monotone
      refine ⟨Nat.le_trans start monotone, fun unmoved => ?_⟩
      exact (advances.same (by omega)).trans (same (by omega))

/-- Compare and mutate: along every log the revision never decreases, every executed
mutation and every visible change moves it, so a revision admits one mutation at most,
and that mutation acts on what its client read. -/
theorem served_compare_and_mutate {actor : ControllerWebActor B P J} {log : List (Exchange B P J β γ)}
    (run : Served actor log) : (∀ exchange ∈ log, Compared exchange) ∧ log.Pairwise Ordered := by
  induction run with
  | idle => simp
  | @served actor response log request below answered rest settled =>
    have exit := serve_exit below answered
    have compared := exit.compared
    refine ⟨?_, .cons ?_ settled.2⟩
    · intro exchange member
      rcases List.mem_cons.mp member with rfl | behind
      · exact compared
      · exact settled.1 exchange behind
    · intro later behind
      obtain ⟨monotone, same⟩ := rest.later later behind
      have follows := settled.1 later behind
      refine ⟨monotone, ?_, ?_⟩
      · intro revision first second
        have moved := (compared.executed revision first).2
        have stands := (follows.executed revision second).1
        dsimp only at moved
        omega
      · intro snapshot read second
        have stands := (follows.executed _ second).1
        obtain ⟨seen, revision⟩ := exit.seen read
        rw [← same (by omega), seen]

/-- Two clients read revision zero; the first START wins, the second is a conflict. -/
theorem served_compare_and_mutate_race :
    ∃ log : List (Exchange Backend Probe FileUncertaintyJournal Unit JournalEvent), log.map Exchange.request =
        [.status, .mutate 0 .start, .mutate 0 .start] ∧
      log.map (fun exchange => exchange.after.revision) = [0, 2, 2] ∧ (∀ exchange ∈ log, Compared exchange) ∧
      log.Pairwise Ordered := by
  let controller : PairController Backend Probe FileUncertaintyJournal :=
    PairController.withJournal (Backend.healthy .ready [Backend.accepted .linked]) (Probe.readyReads 3)
      ⟨StateRoot.empty, .clean⟩
  let actor : ControllerWebActor Backend Probe FileUncertaintyJournal := ⟨controller, false⟩
  let won := (serve .status actor).state
  let lost := (serve (.mutate 0 .start) won).state
  have last : Served lost _ := .served (.mutate 0 .start) (by decide) (Option.eq_some_of_isSome (by decide)) (.idle _)
  have second : Served won _ := .served (.mutate 0 .start) (by decide) (Option.eq_some_of_isSome (by decide)) last
  have run : Served actor _ := .served .status (by decide) (Option.eq_some_of_isSome (by decide)) second
  refine ⟨_, ?_, ?_, served_compare_and_mutate run⟩
  · decide
  · decide

end ControllerWebActor

end PlayTogether.Controller
