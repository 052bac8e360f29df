import PlayTogether.Gena.Confirmation

/-! When the business result that an action reports is a result of that action: the listener
is armed before the 7957 write and read only after it, and nothing tells a notification that
was already there from a later one. -/

namespace PlayTogether.Gena
open PlayTogether.Library PlayTogether.Device PlayTogether.Native

set_option maxRecDepth 20000

/-! ## Arrival order -/

/-- What is accepted is a beginning of what had arrived and what arrives later. -/
theorem acceptedConnections_acceptTurns (queue : List Connection) (turns : List ListenerTurn) :
    acceptedConnections (acceptTurns queue turns) <+: queue ++ turns.flatMap ListenerTurn.arrivals := by
  induction turns generalizing queue with
  | nil => exact List.nil_prefix
  | cons turn turns ih =>
    have later := List.append_assoc queue turn.arrivals (turns.flatMap ListenerTurn.arrivals)
    rw [acceptTurns, List.flatMap_cons, ← later]
    by_cases fails : turn.fails = true
    · rw [if_pos fails]
      simp [acceptedConnections]
    · rw [if_neg fails]
      cases waiting : queue ++ turn.arrivals with
      | nil =>
        have rest := ih []
        by_cases passed : turn.deadlinePassed = true
        · simp [acceptedConnections, passed]
        · simpa [acceptedConnections, passed] using rest
      | cons connection others =>
        have rest := ih others
        by_cases passed : turn.deadlinePassed = true
        · simp [acceptedConnections, passed]
        · simpa [acceptedConnections, passed] using rest

/-- A turn in which nothing happens. -/
def quietTurn : ListenerTurn := ⟨false, [], false⟩

theorem acceptTurns_quiet (queue : List Connection) :
    acceptTurns queue (List.replicate queue.length quietTurn) = queue.map fun connection => ⟨false, .accepted connection⟩ := by
  induction queue with
  | nil => rfl
  | cons connection rest ih => simp [acceptTurns, List.replicate_succ, quietTurn] at ih ⊢; exact ih

section Queue
variable {decoders : Decoders} {jblAddress : Ipv4Addr} {path sid : Bytes} {action : BroadcastAction}

theorem observeLoop_of_decides {before : List Connection} {connection : Connection} {lastSeq middle next : Option Nat}
    {result : Except GenaFailure Unit} {budget : Nat}
    (awaits : Awaits decoders jblAddress path sid action lastSeq before middle)
    (decides : Decides decoders jblAddress path sid action middle connection result next)
    (within : before.length < budget) (later : List AcceptTurn) :
    (observeLoop decoders jblAddress path sid action budget
      ((before ++ [connection]).map (fun connection => ⟨false, .accepted connection⟩) ++ later) lastSeq).out = some result ∧
    (observeLoop decoders jblAddress path sid action budget
      ((before ++ [connection]).map (fun connection => ⟨false, .accepted connection⟩) ++ later) lastSeq).trace.length =
        before.length + 1 := by
  induction awaits generalizing budget with
  | nil lastSeq =>
    obtain ⟨budget, rfl⟩ := Nat.exists_eq_add_one.mpr within
    obtain ⟨own, event, outcome, handled, decided⟩ := decides
    rcases outcome with failure | _ | _ | _
    · cases decided
      simp [observeLoop, own, handled]
    · cases decided
      simp [observeLoop, own, handled]
    · cases decided
      simp [observeLoop, own, handled]
    · cases decided
  | @cons first rest lastSeq next final passes awaits ih =>
    obtain ⟨budget, rfl⟩ := Nat.exists_eq_add_one.mpr (Nat.zero_lt_of_lt within)
    have inner := ih decides (Nat.lt_of_succ_lt_succ within)
    cases passes with
    | foreign other => simpa [observeLoop, other] using inner
    | pending own handled => simpa [observeLoop, own, handled] using inner

end Queue

/-! ## Evidence -/

/-- The connections on the listener begin with one that confirms the action, within the
budget and behind nothing but foreign and undecided ones. -/
def ConfirmsQueued (decoders : Decoders) (jblAddress : Ipv4Addr) (subscription : Subscription)
    (action : BroadcastAction) : Prop :=
  ∃ before connection middle next, before ++ [connection] <+: subscription.listener ∧ before.length < maxCallbacks ∧
    Awaits decoders jblAddress subscription.path subscription.sid action subscription.lastSeq before middle ∧
    Decides decoders jblAddress subscription.path subscription.sid action middle connection (.ok ()) next

section Evidence
variable {decoders : Decoders} {M : Type} [BroadcastMutationTransport M]

/-- When the action reports a business notification, the connection that confirmed it, the
last one accepted, is not among those that were on the listener when the write was sent. -/
def FreshEvidence (action : BroadcastAction) (identity : DeviceIdentity)
    (self : ConfirmedBroadcastCoordinator (GenaBroadcastObserver decoders) M) : Prop :=
  (self.execute action identity).1 = .answered (.ok .confirmedNotification) →
    ∃ subscription turns observations, self.business.subscription = some subscription ∧
      self.business.network.observations = turns :: observations ∧
      (observeUntil decoders self.business.configuration.jblAddress subscription action
        (acceptTurns subscription.listener turns)).out = some (.ok ()) ∧
      subscription.listener.length < (observeUntil decoders self.business.configuration.jblAddress subscription action
        (acceptTurns subscription.listener turns)).trace.length

end Evidence

section Observed
variable {decoders : Decoders} {M : Type}

/-- A successful observation was a confirmed run of the accept loop. -/
theorem observe_ok {action : BroadcastAction} {self after : GenaBroadcastObserver decoders}
    (observed : self.observe action = (.answered (.ok ()), after)) :
    ∃ subscription turns observations, self.subscription = some subscription ∧
      self.network.observations = turns :: observations ∧
      (observeUntil decoders self.configuration.jblAddress subscription action
        (acceptTurns subscription.listener turns)).out = some (.ok ()) := by
  unfold GenaBroadcastObserver.observe at observed
  cases armed : self.subscription with
  | none =>
    rw [armed] at observed
    cases observed
  | some subscription =>
    simp only [armed] at observed
    cases script : self.network.observations with
    | nil =>
      rw [script] at observed
      cases observed
    | cons turns observations =>
      simp only [script] at observed
      refine ⟨subscription, turns, observations, rfl, rfl, ?_⟩
      split at observed
      · cases observed
      · rename_i result ended
        obtain ⟨cleanup, left, _, combined⟩ := Reply.andThen_answered.mp observed
        cases result with
        | error failure => cases combined
        | ok value => exact ended

theorem onBusiness_answered {α : Type} {method : GenaBroadcastObserver decoders → Reply α × GenaBroadcastObserver decoders}
    {self after : ConfirmedBroadcastCoordinator (GenaBroadcastObserver decoders) M} {value : α}
    (answered : ConfirmedBroadcastCoordinator.onBusiness method self = (.answered value, after)) :
    (method self.business).1 = .answered value := congrArg Prod.fst answered

theorem onMutation_business {α : Type} {method : M → Reply α × M} {reply : Reply α}
    {self after : ConfirmedBroadcastCoordinator (GenaBroadcastObserver decoders) M}
    (answered : ConfirmedBroadcastCoordinator.onMutation method self = (reply, after)) :
    after.business = self.business := by
  cases answered
  rfl

/-- A response that accepts the end of the subscription. -/
def unsubscribed : Bytes := writeMessage (ascii "HTTP/1.1 200 OK") [] []

theorem unsubscribed_read :
    readHttpMessage [unsubscribed] .response false = some ⟨.response 200, .empty, []⟩ := by
  decide

theorem cancel_accepted (self : GenaBroadcastObserver decoders) {subscription : Subscription}
    {replies : List (Option (List Bytes))} (armed : self.subscription = some subscription)
    (reply : self.network.replies = some [unsubscribed] :: replies) :
    ∃ after : GenaBroadcastObserver decoders, self.cancel = (.answered (.ok ()), after) ∧ after.subscription = none := by
  simp [GenaBroadcastObserver.cancel, armed, GenaBroadcastObserver.eventRequest, reply, unsubscribed_read,
    Reply.andThen, HttpMessage.status]

/-- A confirmed run of the accept loop that unsubscribes is a successful observation. -/
theorem observe_confirmed (self : GenaBroadcastObserver decoders) {action : BroadcastAction}
    {subscription : Subscription} {turns : List ListenerTurn} {observations : List (List ListenerTurn)}
    {replies : List (Option (List Bytes))} (armed : self.subscription = some subscription)
    (script : self.network.observations = turns :: observations)
    (reply : self.network.replies = some [unsubscribed] :: replies)
    (confirmed : (observeUntil decoders self.configuration.jblAddress subscription action
      (acceptTurns subscription.listener turns)).out = some (.ok ())) :
    ∃ after : GenaBroadcastObserver decoders, self.observe action = (.answered (.ok ()), after) ∧
      after.subscription = none := by
  unfold GenaBroadcastObserver.observe
  simp only [armed, script, confirmed]
  obtain ⟨after, cancelled, closed⟩ := cancel_accepted { self with
    subscription := some { subscription with lastSeq := (observeUntil decoders self.configuration.jblAddress
      subscription action (acceptTurns subscription.listener turns)).state }
    network := { self.network with observations } } rfl reply
  refine ⟨after, ?_, closed⟩
  rw [cancelled]
  rfl

end Observed

section Reports
variable {decoders : Decoders} {M : Type} [BroadcastMutationTransport M]

/-- A reported business notification was observed on the subscription that was armed. -/
theorem execute_observed {action : BroadcastAction} {identity : DeviceIdentity}
    {self : ConfirmedBroadcastCoordinator (GenaBroadcastObserver decoders) M}
    (reported : (self.execute action identity).1 = .answered (.ok .confirmedNotification)) :
    (self.business.observe action).1 = .answered (.ok ()) := by
  rcases run : self.execute action identity with ⟨reply, after⟩
  rw [run] at reported
  subst reported
  obtain ⟨written, self', write, rest⟩ := Reply.andThen_answered.mp run
  have kept := onMutation_business write
  cases written with
  | error failure =>
    obtain ⟨_, _, _, failed⟩ := Reply.andThen_answered.mp rest
    cases failed
  | ok _ =>
    obtain ⟨result, self'', observed, rest⟩ := Reply.andThen_answered.mp rest
    obtain ⟨cleanup, _, _, combined⟩ := Reply.andThen_answered.mp rest
    have answered := onBusiness_answered observed
    rw [kept] at answered
    cases result with
    | error failure => cases combined
    | ok _ => exact answered

theorem execute_reports {action : BroadcastAction} {identity : DeviceIdentity} {mutation written : M}
    {business observed : GenaBroadcastObserver decoders}
    (write : BroadcastMutationTransport.executeMutation (broadcastCommand action identity) mutation =
      (.answered (.ok ()), written))
    (released : (BroadcastMutationTransport.cancelMutation written).1 = .answered ())
    (confirmed : business.observe action = (.answered (.ok ()), observed)) (closed : observed.subscription = none) :
    (ConfirmedBroadcastCoordinator.execute action identity ⟨business, mutation⟩).1 =
      .answered (.ok .confirmedNotification) := by
  rcases release : BroadcastMutationTransport.cancelMutation written with ⟨reply, free⟩
  rw [release] at released
  subst released
  have finished : observed.cancel = (.answered (.ok ()), observed) := by
    simp [GenaBroadcastObserver.cancel, closed]
  simp [ConfirmedBroadcastCoordinator.execute, ConfirmedBroadcastCoordinator.onMutation, write, Reply.andThen,
    ConfirmedBroadcastCoordinator.onBusiness, BroadcastBusinessObserver.observeBusinessResult, confirmed,
    ConfirmedBroadcastCoordinator.cancelAll, release, BroadcastBusinessObserver.cancelBusinessObserver, finished]

/-- Whatever happens after the write, an action reports only notifications that arrived after
it, exactly when those already on the listener do not confirm it by themselves. -/
theorem evidence_fresh_iff_queue_silent (configuration : GenaConfiguration) (subscription : Subscription)
    (action : BroadcastAction) (identity : DeviceIdentity)
    (writable : ∃ mutation written : M, BroadcastMutationTransport.executeMutation (broadcastCommand action identity)
      mutation = (.answered (.ok ()), written) ∧ (BroadcastMutationTransport.cancelMutation written).1 = .answered ()) :
    (∀ (network : GenaNetwork) (mutation : M),
      FreshEvidence action identity ⟨(⟨configuration, some subscription, network⟩ : GenaBroadcastObserver decoders),
        mutation⟩) ↔
      ¬ConfirmsQueued decoders configuration.jblAddress subscription action := by
  constructor
  · intro fresh queued
    obtain ⟨before, connection, middle, next, ⟨after, listener⟩, within, awaits, decides⟩ := queued
    obtain ⟨mutation, written, write, released⟩ := writable
    have turns := acceptTurns_quiet subscription.listener
    have run := observeLoop_of_decides awaits decides within (after.map fun connection => ⟨false, .accepted connection⟩)
    rw [← List.map_append, listener, ← turns] at run
    obtain ⟨observed, observation, closed⟩ := observe_confirmed
      (⟨configuration, some subscription, ⟨[], [some [unsubscribed]], [],
        [List.replicate subscription.listener.length quietTurn]⟩⟩ : GenaBroadcastObserver decoders) rfl rfl rfl run.1
    have reported := execute_reports write released observation closed
    obtain ⟨known, turns', observations, armed, script, _, late⟩ := fresh _ mutation reported
    cases armed
    cases script
    have accepted : before.length + 1 ≤ subscription.listener.length := by simp [← listener]
    rw [observeUntil, run.2] at late
    omega
  · intro silent network mutation reported
    rcases observation : GenaBroadcastObserver.observe action
      (⟨configuration, some subscription, network⟩ : GenaBroadcastObserver decoders) with ⟨reply, observed⟩
    have answered := execute_observed reported
    rw [observation] at answered
    subst answered
    obtain ⟨known, turns, observations, armed, script, confirmed⟩ := observe_ok observation
    cases armed
    refine ⟨subscription, turns, observations, rfl, script, confirmed, ?_⟩
    cases observeLoop_ends maxCallbacks (acceptTurns subscription.listener turns) subscription.lastSeq with
    | undecided _ _ _ _ unconfirmed => exact absurd confirmed unconfirmed
    | @decided before connection middle result awaits decides within seen events out =>
      have ok : result = .ok () := Option.some.inj (out.symm.trans confirmed)
      subst ok
      by_contra early
      have count := congrArg List.length events
      rw [List.length_map] at count
      have queued : before ++ [connection] <+: subscription.listener := by
        apply List.prefix_of_prefix_length_le (seen.trans (acceptedConnections_acceptTurns _ turns))
          (List.prefix_append subscription.listener _)
        rw [← count]
        exact Nat.le_of_not_lt early
      exact silent ⟨before, connection, middle, _, queued, within, awaits, decides⟩

end Reports

def fixtureConfiguration : GenaConfiguration :=
  ⟨fixtureJblAddress, 59152, 8098, false, by decide, by decide, by decide, by decide⟩

/-- The result of an earlier start, sent by a stranger and by the speaker itself. -/
def fixtureQueue : List Connection := [{ fixtureForeign with reads := [fixtureNotify] }, fixtureConnection]

theorem fixtureConnection_pending :
    handleConnection fixtureDecoders fixturePath fixtureSid .stop none fixtureConnection =
      (.answered fixtureConnection true, .ok .pending, some 0) := by
  decide

theorem fixtureQueue_silent :
    ¬ConfirmsQueued fixtureDecoders fixtureJblAddress (fixtureSubscription fixtureQueue) .stop := by
  intro queued
  obtain ⟨before, connection, middle, next, listener, _, awaits, decides⟩ := queued
  have own := decides.own
  cases awaits with
  | nil =>
    obtain ⟨rfl, _⟩ := List.cons_prefix_cons.mp listener
    exact absurd own (by decide)
  | cons passes awaits =>
    obtain ⟨rfl, behind⟩ := List.cons_prefix_cons.mp listener
    cases passes with
    | pending first => exact absurd first (by decide)
    | foreign =>
      cases awaits with
      | nil =>
        obtain ⟨rfl, _⟩ := List.cons_prefix_cons.mp behind
        obtain ⟨_, event, outcome, handled, decided⟩ := decides
        obtain ⟨_, rfl, _⟩ := Prod.ext_iff.mp (fixtureConnection_pending.symm.trans handled)
        cases decided
      | cons =>
        obtain ⟨_, nothing⟩ := List.cons_prefix_cons.mp behind
        exact absurd (List.prefix_nil.mp nothing) (by simp)

/-- A stop is not confirmed by what stands on the listener. -/
theorem evidence_fresh_behind_other_results :
    ¬ConfirmsQueued fixtureDecoders fixtureJblAddress (fixtureSubscription fixtureQueue) .stop ∧
    ∀ (network : GenaNetwork) (mutation : MockMutationTransport), FreshEvidence .stop fixtureJblIdentity
      ⟨(⟨fixtureConfiguration, some (fixtureSubscription fixtureQueue), network⟩ : GenaBroadcastObserver fixtureDecoders),
        mutation⟩ := by
  refine ⟨fixtureQueue_silent, ?_⟩
  apply (evidence_fresh_iff_queue_silent fixtureConfiguration (fixtureSubscription fixtureQueue) .stop fixtureJblIdentity
    _).mpr fixtureQueue_silent
  exact ⟨⟨[], [.ok ()]⟩, ⟨[], []⟩, rfl, rfl⟩

/-- A speaker that accepts the subscription and sends at once, before the write, the result
of an earlier action. -/
def fixtureCoordinator : ConfirmedBroadcastCoordinator (GenaBroadcastObserver fixtureDecoders) MockMutationTransport :=
  let subscribed := writeMessage (ascii "HTTP/1.1 200 OK") [(ascii "SID", fixtureSid), (ascii "TIMEOUT", ascii "Second-30")] []
  ⟨⟨fixtureConfiguration, none, ⟨[], [some [subscribed], some [unsubscribed]],
    [⟨some ⟨#v[192, 0, 2, 1]⟩, true, true, some (Vector.replicate 32 0), [fixtureConnection]⟩], [[quietTurn]]⟩⟩,
    ⟨[.ok ()], [.ok ()]⟩⟩

theorem fixtureConnection_stale
    {self : ConfirmedBroadcastCoordinator (GenaBroadcastObserver fixtureDecoders) MockMutationTransport}
    (queued : self.business.subscription = some (fixtureSubscription [fixtureConnection]))
    (address : self.business.configuration.jblAddress = fixtureJblAddress)
    (quiet : self.business.network.observations = [[quietTurn]])
    (reported : (self.execute .start fixtureJblIdentity).1 = .answered (.ok .confirmedNotification)) :
    ¬FreshEvidence .start fixtureJblIdentity self := by
  intro fresh
  obtain ⟨subscription, turns, observations, known, script, _, late⟩ := fresh reported
  cases queued.symm.trans known
  cases quiet.symm.trans script
  have taken : acceptTurns (fixtureSubscription [fixtureConnection]).listener [quietTurn] =
      [⟨false, .accepted fixtureConnection⟩] := rfl
  rw [address, taken, fixtureConnection_observed] at late
  exact absurd late (by simp [fixtureSubscription])

theorem queued_notification_confirms :
    ¬∀ (self armed : ConfirmedBroadcastCoordinator (GenaBroadcastObserver fixtureDecoders) MockMutationTransport)
        (action : BroadcastAction) (identity : DeviceIdentity),
      self.arm identity = (.answered (.ok ()), armed) → FreshEvidence action identity armed := by
  intro claim
  have armed : (fixtureCoordinator.arm fixtureJblIdentity).1 = .answered (.ok ()) := by decide
  have fresh := claim fixtureCoordinator (fixtureCoordinator.arm fixtureJblIdentity).2 .start fixtureJblIdentity
    (Prod.ext armed rfl)
  revert fresh
  apply fixtureConnection_stale
  · decide
  · decide
  · decide
  · decide

end PlayTogether.Gena
