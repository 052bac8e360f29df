import PlayTogether.Aura.Bearer
import PlayTogether.Client.Agreement
import PlayTogether.Client.Status
import PlayTogether.Controller.Latch
import PlayTogether.Controller.Membership
import PlayTogether.Native.Core
import PlayTogether.Native.Observer

/-! Every status the controller gives out is one its own client accepts: the member
projection, the counters and the bearer of the native backend, along every run. -/

namespace PlayTogether.Controller.PairController
open PlayTogether.Library PlayTogether.Pair PlayTogether.Journal

set_option maxRecDepth 20000

/-! ## The counters of a run -/

section Counters
variable {B P J β γ : Type}

/-- The counters are machine integers and no recorded action is ahead of the revision. -/
structure Counted (c : PairController B P J) : Prop where
  failures : c.consecutiveFailures ≤ maxFailures
  revision : c.revision ≤ maxRevision
  last : ∀ action ∈ c.lastAction, action.revision ≤ c.revision

variable {c : PairController B P J}

theorem Counted.bump (counted : Counted c) : Counted c.bumpRevision := by
  constructor
  · exact counted.failures
  · exact Nat.min_le_right _ _
  · intro action member
    have early := counted.last action member
    have range := counted.revision
    change action.revision ≤ min (c.revision + 1) maxRevision
    omega

theorem Counted.countFailure (counted : Counted c) : Counted c.countFailure :=
  ⟨Nat.min_le_right _ _, counted.revision, counted.last⟩

theorem Counted.latch (counted : Counted c) : Counted c.latch :=
  ⟨counted.countFailure.failures, counted.revision, counted.last⟩

theorem Counted.finished (counted : Counted c) (action : ControllerAction) (outcome : ControllerActionOutcome)
    (evidence : Option PairBackendEvidence) (failure : Option ControllerFailure) :
    Counted (c.finished action outcome evidence failure) := by
  constructor
  · exact counted.failures
  · exact counted.bump.revision
  · intro recorded member
    obtain rfl := Option.some.inj member
    exact Nat.le_refl _

theorem Counted.observe (counted : Counted c) (configuration : PairConfigurationState) (health : Option PairHealth) :
    Counted (observe configuration health c) := by
  rcases observe_cases configuration health c with same | ⟨_, changed⟩
  · rw [same]
    exact counted
  · rw [changed]
    exact Counted.bump ⟨counted.failures, counted.revision, counted.last⟩

variable [UncertaintyJournal J γ]

theorem ClearExit.counted {action : ControllerAction}
    {closing : PairController B P J → Exec (ControllerEvent β γ) (PairController B P J) ControllerActionResult}
    {run : Exec (ControllerEvent β γ) (PairController B P J) ControllerActionResult}
    (exit : ClearExit action closing c run) (counted : Counted c)
    (closes : ∀ journal, Counted (closing { c with journal }).state) : Counted run.state := by
  cases exit with
  | killed => exact ⟨counted.failures, counted.revision, counted.last⟩
  | @failed _ journal _ =>
    have same : Counted { c with journal } := ⟨counted.failures, counted.revision, counted.last⟩
    exact same.latch.finished _ _ _ _
  | @cleared _ journal => exact closes journal

theorem ReduceExit.counted {action : ControllerAction} {older : Bool} {attempted : PairActionResult}
    {run : Exec (ControllerEvent β γ) (PairController B P J) ControllerActionResult}
    (exit : ReduceExit action older c attempted run) (counted : Counted c) : Counted run.state := by
  cases exit with
  | unknown => exact counted.latch.finished _ _ _ _
  | rejectionKept =>
    apply Counted.finished
    exact ⟨counted.countFailure.failures, counted.revision, counted.last⟩
  | rejection failure mayClear exit =>
    apply exit.counted counted
    intro journal
    apply Counted.finished
    exact ⟨counted.countFailure.failures, counted.revision, counted.last⟩
  | unexpected => exact counted.latch.finished _ _ _ _
  | probeKilled => exact ⟨counted.failures, counted.revision, counted.last⟩
  | unconfirmed _ _ probe =>
    have same : Counted { c with probe } := ⟨counted.failures, counted.revision, counted.last⟩
    exact same.latch.finished _ _ _ _
  | confirmed receipt observation probe expected ready exit =>
    apply exit.counted ⟨counted.failures, counted.revision, counted.last⟩
    intro journal
    apply Counted.finished
    exact ⟨Nat.zero_le _, counted.revision, counted.last⟩

variable [PairBackend B β]

theorem MutateExit.counted {action : ControllerAction}
    {run : Exec (ControllerEvent β γ) (PairController B P J) ControllerActionResult} (exit : MutateExit action c run)
    (counted : Counted c) : Counted run.state := by
  cases exit with
  | unresolvedPrior => exact counted.finished _ _ _ _
  | recoveryNotAllowed => exact counted.finished _ _ _ _
  | alreadyOffline => exact counted.finished _ _ _ _
  | probeKilled => exact ⟨counted.failures, counted.revision, counted.last⟩
  | preflight _ probe =>
    have same : Counted { c with probe } := ⟨counted.failures, counted.revision, counted.last⟩
    exact same.countFailure.finished _ _ _ _
  | lookKilled => exact ⟨counted.failures, counted.revision, counted.last⟩
  | idempotent =>
    apply Counted.finished
    exact ⟨Nat.zero_le _, counted.revision, counted.last⟩
  | markKilled => exact ⟨counted.failures, counted.revision, counted.last⟩
  | @markFailed _ probe _ backend _ journal =>
    have same : Counted { c with probe, backend, journal } := ⟨counted.failures, counted.revision, counted.last⟩
    apply Counted.finished
    split
    · exact same.latch
    · exact same.countFailure
  | @began _ probe _ backend _ journal _ _ _ _ _ exit =>
    have begun : Counted (begun action { c with probe, backend, journal }) :=
      Counted.bump ⟨counted.failures, counted.revision, counted.last⟩
    cases exit with
    | killed => exact ⟨begun.failures, begun.revision, begun.last⟩
    | called call exit => exact exit.counted ⟨begun.failures, begun.revision, begun.last⟩

variable [PairConfigurationProbe P]

theorem perform_counted (operation : ControllerOperation) (counted : Counted c) :
    Counted (perform operation c).state := by
  cases operation with
  | mutate action => exact (mutate_exit action c).counted counted
  | teardownTransport => exact ⟨counted.failures, counted.revision, counted.last⟩
  | status =>
    have exit : StatusExit c ((status : Proc (ControllerEvent β γ) _ _) c) := status_exit c
    change Counted ((status : Proc (ControllerEvent β γ) (PairController B P J) _) c).state
    generalize (status : Proc (ControllerEvent β γ) (PairController B P J) _) c = run at exit
    cases exit with
    | probeKilled => exact ⟨counted.failures, counted.revision, counted.last⟩
    | lookKilled => exact ⟨counted.failures, counted.revision, counted.last⟩
    | observed =>
      apply Counted.observe
      exact ⟨counted.failures, counted.revision, counted.last⟩

theorem ControllerRun.counted {fresh : B → Prop} {allowed : ControllerOperation → PairController B P J → Prop}
    {history : List (ControllerEvent β γ)} (run : ControllerRun fresh allowed c history) : Counted c := by
  apply run.keeps
  · intro backend probe journal _
    constructor
    · unfold withJournal
      dsimp only
      split <;> decide
    · exact Nat.zero_le _
    · intro action member
      cases member
  · intro operation c counted _ _
    exact perform_counted operation counted

end Counters

/-! ## What a status is made of -/

section Status
variable {B P J β γ : Type} [PairBackend B β] [PairConfigurationProbe P]

/-- A status shows one reading of the probe and one of the backend's health. -/
theorem status_returned {c : PairController B P J} {snapshot : ControllerStatus}
    (returned : ((status : Proc (ControllerEvent β γ) (PairController B P J) _) c).out = some snapshot) :
    ∃ observation probe trace backend found,
      PairConfigurationProbe.pairConfiguration c.probe = (.answered observation, probe) ∧
      PairBackend.health c.backend = (⟨trace, backend, some found⟩ : Exec β B _) ∧
      snapshot.pairConfiguration = configurationState observation ∧
      snapshot.members = configurationMembers observation ∧ snapshot.backendHealth = found.toOption ∧
      let after := observe (configurationState observation) found.toOption { c with probe, backend }
      snapshot.consecutiveFailures = after.consecutiveFailures ∧ snapshot.revision = after.revision ∧
      snapshot.lastAction = after.lastAction.map lastActionStatus := by
  simp only [status, readPairConfiguration] at returned
  rcases answer : PairConfigurationProbe.pairConfiguration c.probe with ⟨observation | _ | _, probe⟩
  · rw [call_answered answer] at returned
    rcases health : (PairBackend.health : Proc β B _) c.backend with ⟨trace, backend, _ | found⟩
    · have run : (backendHealth : Proc (ControllerEvent β γ) (PairController B P J) _) (probeField.set probe c) =
          ⟨trace.map .backend, { c with probe, backend }, none⟩ := by
        simp only [backendHealth, Proc.zoom, backendField, probeField, health]
      rw [bind_killed run] at returned
      cases returned
    · have run : (backendHealth : Proc (ControllerEvent β γ) (PairController B P J) _) (probeField.set probe c) =
          ⟨trace.map .backend, { c with probe, backend }, some found⟩ := by
        simp only [backendHealth, Proc.zoom, backendField, probeField, health]
      rw [bind_value run] at returned
      simp only [modify_bind_run, get_bind_run, pure_run, after_mk, Option.some.injEq] at returned
      subst returned
      exact ⟨observation, probe, trace, backend, found, rfl, rfl, rfl, rfl, rfl, rfl, rfl, rfl⟩
  · rw [call_unanswered answer] at returned
    cases returned
  · rw [call_unissued answer] at returned
    cases returned

end Status

end PlayTogether.Controller.PairController

namespace PlayTogether.Controller

theorem ChannelsShown.length_le {channels : List PairMemberChannel}
    (shown : ChannelsShown channels) : channels.length ≤ 6 := by
  by_cases unknown : .unknown ∈ channels
  · rw [shown.2.2 unknown]
    decide
  · have named : channels ⊆ [.frontLeft, .frontRight, .left, .right, .mono, .stereo] := by
      intro channel member
      cases channel with
      | unknown => exact absurd member unknown
      | _ => decide
    exact (shown.2.1.subperm named).length_le

end PlayTogether.Controller

namespace PlayTogether.Client
open PlayTogether.Library PlayTogether.Pair PlayTogether.Controller

/-! ## What the client accepts -/

theorem nodup_iff_unseen {α : Type} {items : List α} :
    items.Nodup ↔ ∀ index item, items[index]? = some item → item ∉ items.take index := by
  have taken (index : Nat) (item : α) :
      item ∈ items.take index ↔ ∃ early, early < index ∧ items[early]? = some item := by
    rw [List.mem_iff_getElem?]
    simp only [List.getElem?_take, Option.ite_none_right_eq_some]
  rw [List.nodup_iff_getElem?_ne_getElem?]
  constructor
  · intro distinct index item found seen
    obtain ⟨early, before, same⟩ := (taken index item).mp seen
    have inside := (List.getElem?_eq_some_iff.mp found).1
    exact distinct early index before inside (same.trans found.symm)
  · intro unseen early index before inside same
    have found : items[index]? = some items[index] := List.getElem?_eq_getElem inside
    exact unseen index items[index] found ((taken index _).mpr ⟨early, before, same.trans found⟩)

/-- The meaning of `validMemberProjection`. -/
structure MemberAcceptable (member : LocalPairMember) : Prop where
  shown : ChannelsShown member.channels
  short : member.channels.length ≤ 6

theorem validMemberProjection_eq_true {member : LocalPairMember} :
    validMemberProjection member = true ↔ MemberAcceptable member := by
  simp only [validMemberProjection, Bool.and_eq_true, decide_eq_true_eq, List.all_eq_true, Bool.not_eq_true',
    Bool.or_eq_true, bne_iff_ne, beq_iff_eq, List.isEmpty_eq_false_iff, Prod.forall, List.mk_mem_zipIdx_iff_getElem?,
    List.contains_eq_mem, decide_eq_false_iff_not]
  constructor
  · intro valid
    obtain ⟨⟨present, short⟩, each⟩ := valid
    refine ⟨⟨present, ?_, ?_⟩, short⟩
    · rw [nodup_iff_unseen]
      intro index channel found
      exact (each channel index found).2
    · intro unknown
      obtain ⟨index, found⟩ := List.mem_iff_getElem?.mp unknown
      have alone : member.channels.length = 1 := (each .unknown index found).1.resolve_left fun other => other rfl
      obtain ⟨channel, single⟩ := List.length_eq_one_iff.mp alone
      rw [single, List.mem_singleton] at unknown
      rw [single, unknown]
  · intro acceptable
    obtain ⟨⟨present, distinct, alone⟩, short⟩ := acceptable
    refine ⟨⟨present, short⟩, ?_⟩
    intro channel index found
    refine ⟨?_, nodup_iff_unseen.mp distinct index channel found⟩
    by_cases unknown : channel = .unknown
    · rw [unknown] at found
      rw [alone (List.mem_of_getElem? found)]
      exact .inr rfl
    · exact .inl unknown

/-- The meaning of `validStatusProjection`. -/
structure Acceptable (status : LocalStatus) : Prop where
  names : status.members.1.name = .jblAuthentics300 ∧ status.members.2.name = .auraStudio5
  members : MemberAcceptable status.members.1 ∧ MemberAcceptable status.members.2
  last : ∀ action ∈ status.lastAction, action.revision ≤ status.revision
  health : ∀ health ∈ status.backendHealth, validHealthProjection health = true
  ready : status.pairConfiguration = .ready →
    status.members.1.verification = .verified ∧ status.members.2.verification = .verified
  notReady : status.pairConfiguration = .notReady →
    status.members.1.verification ≠ .unavailable ∧ status.members.2.verification ≠ .unavailable
  unavailable : status.pairConfiguration = .unavailable →
    status.members.1.verification = .unavailable ∧ status.members.2.verification = .unavailable

theorem validStatusProjection_of_acceptable {status : LocalStatus} (acceptable : Acceptable status) :
    validStatusProjection status = true := by
  obtain ⟨names, members, last, health, ready, notReady, unavailable⟩ := acceptable
  have first := validMemberProjection_eq_true.mpr members.1
  have second := validMemberProjection_eq_true.mpr members.2
  have recorded : (status.lastAction.any fun action => decide (action.revision > status.revision)) = false := by
    rw [Option.any_eq_false]
    intro action member
    simpa using last action member
  have routed : (status.backendHealth.any (!validHealthProjection ·)) = false := by
    rw [Option.any_eq_false]
    intro snapshot member
    simp [health snapshot member]
  simp only [validStatusProjection, names, recorded, routed]
  cases configuration : status.pairConfiguration with
  | ready => simp [ready configuration, first, second]
  | notReady => simp [notReady configuration, first, second]
  | unavailable => simp [unavailable configuration, first, second]

end PlayTogether.Client

namespace PlayTogether.System
open PlayTogether.Library PlayTogether.Pair PlayTogether.Journal PlayTogether.Device PlayTogether.Native
open PlayTogether.Aura PlayTogether.Controller PlayTogether.Web PlayTogether.Client

/-- The age of a record as the status carries it. -/
def ageMs (elapsedMs : Nat) : Nat := if elapsedMs ≤ u64Max then elapsedMs else u64Max

theorem ageMs_le (elapsedMs : Nat) : ageMs elapsedMs ≤ u64Max := by
  unfold ageMs
  split
  · assumption
  · exact Nat.le_refl _

section Health
variable {J O : Type} [JblRoleControl J] [BroadcastResultObserver O]

/-- Transport and route come from the same bearer, or there is none. -/
theorem health_projection {core after : NativePairCore J BluezAuraTransport O} {trace : List NativeCall}
    {found : Except PairBackendError PairHealth} (ran : PairBackend.health core = ⟨trace, after, some found⟩) :
    ∀ health ∈ found.toOption, validHealthProjection (.received health) = true := by
  change (NativePairCore.health >>= fun snapshot => pure (Except.ok snapshot)) core = _ at ran
  rcases answer : AuraRoleControl.health core.aura with ⟨observed | _ | _, aura⟩
  · have run : NativePairCore.health core = ⟨_, _, some _⟩ := call_answered answer
    rw [bind_value run] at ran
    simp only [pure_run, after_mk, Exec.mk.injEq, Option.some.injEq] at ran
    obtain ⟨_, _, rfl⟩ := ran
    intro health member
    obtain rfl := Option.some.inj member
    obtain ⟨⟨⟨bearer, script⟩, unresolved⟩⟩ := aura
    cases bearer with
    | none => rfl
    | some bearer =>
      obtain ⟨identity, transport, route, fits⟩ := bearer
      rcases fits with ⟨rfl, rfl | rfl⟩ | ⟨rfl, rfl⟩
      · rfl
      · rfl
      · rfl
  · have run : NativePairCore.health core = ⟨_, _, none⟩ := call_unanswered answer
    rw [bind_killed run] at ran
    cases ran
  · have run : NativePairCore.health core = ⟨_, _, none⟩ := call_unissued answer
    rw [bind_killed run] at ran
    cases ran

end Health

/-- The client accepts what the service sends of an acceptable status. -/
theorem status_read {serde : Serde} {snapshot : StatusSnapshot}
    (read : LocalStatus.read (statusBody snapshot) = some (.received snapshot))
    (valid : validStatusProjection (.received snapshot) = true)
    (written : serde.fromSlice (serde.toVec (statusBody snapshot)) = some (statusBody snapshot))
    (fits : Fits (statusResponse serde snapshot)) :
    ∃ response, parseResponse (statusResponse serde snapshot).toHttp1Bytes = .ok response ∧
      LocalServiceClient.status serde response = .ok (.received snapshot) := by
  have readable : Readable (statusResponse serde snapshot) := jsonResponse_readable (by decide) (by decide) _ _
  refine ⟨_, parseResponse_written readable fits, ?_⟩
  have tagged : HeaderMap.get ⟨lowerNames (statusResponse serde snapshot).headers, readable.distinct⟩ (ascii "etag") =
      some ([0x22] ++ decimal snapshot.status.revision ++ [0x22]) := by
    rw [HeaderMap.get_eq_some]
    change _ ∈ _ :: _ :: _ :: _ :: _ :: _ :: _ :: _ :: _ ::
      [(ascii "etag", [0x22] ++ decimal snapshot.status.revision ++ [0x22])]
    simp
  have accepted : (statusResponse serde snapshot).status = 200 := rfl
  have body : (statusResponse serde snapshot).body = serde.toVec (statusBody snapshot) := rfl
  have revision : (LocalStatus.received snapshot).revision = snapshot.status.revision := rfl
  simp only [LocalServiceClient.status, accepted, body, written, Option.bind_some, read, valid, tagged, revision,
    ne_eq, not_true_eq_false, if_false, Bool.not_true, Bool.false_eq_true]

variable {J O Jn γ : Type} [JblRoleControl J] [BroadcastResultObserver O] [UncertaintyJournal Jn γ]

/-- In every state that a run of the controller over the native backend can reach, and
whatever the JBL replies, a returned status is read back as it was sent and accepted. -/
theorem every_status_is_acceptable {fresh : NativePairCore J BluezAuraTransport O → Prop}
    {allowed : ControllerOperation →
      PairController (NativePairCore J BluezAuraTransport O) JblPairConfigurationProbe Jn → Prop}
    {c : PairController (NativePairCore J BluezAuraTransport O) JblPairConfigurationProbe Jn}
    {history : List (ControllerEvent NativeCall γ)} (run : PairController.ControllerRun fresh allowed c history)
    {status : ControllerStatus}
    (returned : ((PairController.status : Proc (ControllerEvent NativeCall γ) _ _) c).out = some status)
    (elapsedMs : Nat) :
    let snapshot : StatusSnapshot := ⟨status, ageMs elapsedMs⟩
    LocalStatus.read (statusBody snapshot) = some (.received snapshot) ∧
      validStatusProjection (.received snapshot) = true ∧
      ∀ serde : Serde, serde.fromSlice (serde.toVec (statusBody snapshot)) = some (statusBody snapshot) →
        Fits (statusResponse serde snapshot) →
        ∃ response, parseResponse (statusResponse serde snapshot).toHttp1Bytes = .ok response ∧
          LocalServiceClient.status serde response = .ok (.received snapshot) := by
  intro snapshot
  obtain ⟨observation, probe, trace, backend, found, probed, looked, configuration, members, health, failures,
    revision, last⟩ := PairController.status_returned returned
  have before := run.counted
  have counted : PairController.Counted { c with probe, backend } := ⟨before.failures, before.revision, before.last⟩
  have after := counted.observe (configurationState observation) found.toOption
  have shown := pairConfiguration_shown probed
  rw [← configuration, ← members] at shown
  have recorded : ∀ action ∈ status.lastAction, action.revision ≤ status.revision := by
    intro action member
    rw [last] at member
    obtain ⟨result, stored, rfl⟩ := Option.mem_map.mp member
    rw [revision]
    exact after.last result stored
  have range : status.revision ≤ u64Max := revision ▸ after.revision
  have read : LocalStatus.read (statusBody snapshot) = some (.received snapshot) := by
    apply read_statusBody
    · exact failures ▸ after.failures
    · exact range
    · intro action member
      exact Nat.le_trans (recorded action member) range
    · exact ageMs_le elapsedMs
  have valid : validStatusProjection (.received snapshot) = true := by
    apply validStatusProjection_of_acceptable
    refine ⟨shown.names, ⟨⟨shown.channels.1, shown.channels.1.length_le⟩, ⟨shown.channels.2, shown.channels.2.length_le⟩⟩,
      ?_, ?_, shown.ready, shown.notReady, shown.unavailable⟩
    · intro action member
      obtain ⟨result, stored, rfl⟩ := Option.mem_map.mp member
      exact recorded result stored
    · intro projected member
      obtain ⟨snapshot, stored, rfl⟩ := Option.mem_map.mp member
      exact health_projection looked snapshot (health ▸ stored)
  exact ⟨read, valid, fun serde => status_read read valid⟩

/-- The retained pair as the JBL reports it. -/
def fixtureGroup : Json :=
  .record
    [("error_code", .text "0"),
     ("group_info", .record
       [("disabled", .bool false),
        ("members", .array
          [.record [("device_name", .text "JBL Authentics 300"), ("id", .text "020000000001"),
             ("channel", .array [.text "stereo", .text "stereo"])],
           .record [("device_name", .text "Aura Studio 5"), ("id", .text "020000000002"),
             ("channel", .array [.text "mono", .text "side"])]])])]

/-- A bearer on the stable route, one accepted START and the reads around it. -/
def fixtureController : PairController (NativePairCore RecordingJbl BluezAuraTransport MockObserver)
    JblPairConfigurationProbe FileUncertaintyJournal :=
  PairController.withJournal
    (.new ⟨[.accepted ⟨⟩]⟩
      (.new ⟨[.ok ()], [], [], [.ok true, .ok true], [.nothing, .packet (0x1b :: 0xec :: 0x03 :: successAck)], [some 10]⟩)
      (.ack ⟨[.ok ()], [.ok ()]⟩) fixtureJblIdentity fixtureAuraIdentity 0)
    ⟨[.ok fixtureGroup, .ok fixtureGroup, .ok fixtureGroup], fixtureJblIdentity, fixtureAuraIdentity⟩
    ⟨StateRoot.empty, .clean⟩

def fixtureStatus : ControllerStatus where
  backend := .nativePair
  pairConfiguration := .ready
  members := (⟨.jblAuthentics300, .verified, [.stereo]⟩, ⟨.auraStudio5, .verified, [.unknown]⟩)
  managedState := .linked
  backendHealth := some ⟨.nativePair, .linked, .healthy, false, .brEdr, .stableDirect⟩
  unresolvedAction := false
  consecutiveFailures := 0
  revision := 2
  lastAction := some ⟨.start, .acceptedUnconfirmed, some .broadcastAcknowledgementOnly, none, 2⟩

def fixtureSnapshot : StatusSnapshot := ⟨fixtureStatus, ageMs 1500⟩

/-- A text library on the one text of a status. -/
def statusText (snapshot : StatusSnapshot) : Serde where
  fromSlice text := if text = renderPlain (statusBody snapshot) then some (statusBody snapshot) else none
  toVec := renderPlain

theorem statusText_reads (snapshot : StatusSnapshot) :
    (statusText snapshot).fromSlice ((statusText snapshot).toVec (statusBody snapshot)) = some (statusBody snapshot) :=
  if_pos rfl

/-- The status after the START of the fixture. -/
theorem linked_status_is_accepted :
    ((PairController.status : Proc (ControllerEvent NativeCall JournalEvent) _ _)
      (PairController.perform (.mutate .start) fixtureController).state).out = some fixtureStatus ∧
    validStatusProjection (.received fixtureSnapshot) = true ∧
    ∃ response, parseResponse (statusResponse (statusText fixtureSnapshot) fixtureSnapshot).toHttp1Bytes = .ok response ∧
      LocalServiceClient.status (statusText fixtureSnapshot) response = .ok (.received fixtureSnapshot) := by
  have run : PairController.ControllerRun (fun _ => True) (fun _ _ => True)
      (PairController.perform (.mutate .start) fixtureController).state
      ([] ++ (PairController.perform (.mutate .start) fixtureController).trace) :=
    .step _ (.opened trivial _ _) trivial (by decide)
  have returned : ((PairController.status : Proc (ControllerEvent NativeCall JournalEvent) _ _)
      (PairController.perform (.mutate .start) fixtureController).state).out = some fixtureStatus := by decide
  have acceptable := every_status_is_acceptable run returned 1500
  have fits : Fits (statusResponse (statusText fixtureSnapshot) fixtureSnapshot) := ⟨by decide +kernel, by decide +kernel⟩
  exact ⟨returned, acceptable.2.1, acceptable.2.2 (statusText fixtureSnapshot) (statusText_reads fixtureSnapshot) fits⟩

end PlayTogether.System
