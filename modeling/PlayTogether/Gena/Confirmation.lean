import PlayTogether.Gena.Callbacks

/-! What a confirmation rests on: an unbroken chain of notifications from the configured
speaker, and nothing that other peers send to the listener. -/

namespace PlayTogether.Gena
open PlayTogether.Library PlayTogether.Device

set_option maxRecDepth 20000

/-! ## Event keys -/

/-- The keys after one that is already known follow each other. -/
def Consecutive (lastSeq : Option Nat) (seqs : List Nat) : Prop :=
  (lastSeq.toList ++ seqs).IsChain fun before after => after = nextSeq before

theorem consecutive_cons {lastSeq : Option Nat} {seq : Nat} {seqs : List Nat}
    (follows : ∀ previous, lastSeq = some previous → seq = nextSeq previous)
    (later : Consecutive (some seq) seqs) : Consecutive lastSeq (seq :: seqs) := by
  cases lastSeq with
  | none => exact later
  | some previous => exact List.isChain_cons_cons.mpr ⟨follows previous rfl, later⟩

/-- From one key to a later one it is as many steps as there are keys in between, with at
most one roll over the largest number. -/
theorem chain_reaches {start seq : Nat} {seqs : List Nat} (small : start ≤ u32Max) (short : seqs.length < u32Max)
    (chain : (start :: seqs).IsChain fun before after => after = nextSeq before) (member : seq ∈ seqs) :
    ∃ steps, 0 < steps ∧ steps ≤ seqs.length ∧ (seq = start + steps ∨ seq + u32Max = start + steps) := by
  induction seqs generalizing start with
  | nil => cases member
  | cons first rest ih =>
    obtain ⟨follows, later⟩ := List.isChain_cons_cons.mp chain
    have rolled : first ≤ u32Max ∧ (first = start + 1 ∨ first + u32Max = start + 1) := by
      rw [follows, nextSeq]
      split
      · constructor
        · decide
        · omega
      · omega
    rw [List.length_cons] at short
    rcases List.mem_cons.mp member with same | inside
    · subst same
      exact ⟨1, by omega, by simp, rolled.2⟩
    · obtain ⟨steps, _, bound, reached⟩ := ih rolled.1 (by omega) later inside
      refine ⟨steps + 1, by omega, by simpa using bound, ?_⟩
      omega

theorem chain_nodup {seqs : List Nat} (small : ∀ seq ∈ seqs, seq ≤ u32Max) (short : seqs.length ≤ u32Max)
    (chain : seqs.IsChain fun before after => after = nextSeq before) : seqs.Nodup := by
  induction seqs with
  | nil => exact List.nodup_nil
  | cons first rest ih =>
    rw [List.length_cons] at short
    rw [List.nodup_cons]
    constructor
    · intro again
      have start := small first List.mem_cons_self
      obtain ⟨steps, forward, bound, reached⟩ := chain_reaches start (by omega) chain again
      omega
    · apply ih
      · intro seq inside
        exact small seq (List.mem_cons_of_mem first inside)
      · omega
      · exact (List.isChain_cons.mp chain).2

/-! ## Notifications behind a confirmation -/

/-- A notification with the connection it came on and what was read from it. -/
structure Notice where
  connection : Connection
  request : HttpMessage
  seq : Nat
  code : Option Int

structure Notice.Genuine (decoders : Decoders) (jblAddress : Ipv4Addr) (path sid : Bytes) (notice : Notice) : Prop where
  own : notice.connection.peer = .v4 jblAddress
  read : readHttpMessage notice.connection.reads .request true = some notice.request
  notify : IsNotify decoders path sid notice.request notice.seq notice.code

/-- The event key of the request on a connection. -/
def seqOf (connection : Connection) : Option Nat := do
  let request ← readHttpMessage connection.reads .request true
  let text ← request.header "seq"
  parseSeq text

/-- The keys of the notifications that were answered with 200. -/
def acceptedSeqs (events : List CallbackEvent) : List Nat :=
  events.filterMap fun
    | .answered connection true => seqOf connection
    | .answered _ false | .dropped _ => none

section Chain
variable {decoders : Decoders} {jblAddress : Ipv4Addr} {path sid : Bytes} {action : BroadcastAction}
  {lastSeq next final : Option Nat} {connection : Connection} {event : CallbackEvent}

theorem handleConnection_ok {outcome : CallbackOutcome} (own : connection.peer = .v4 jblAddress)
    (handled : handleConnection decoders path sid action lastSeq connection = (event, .ok outcome, next)) :
    ∃ notice : Notice, notice.connection = connection ∧ notice.Genuine decoders jblAddress path sid ∧
      (∀ previous, lastSeq = some previous → notice.seq = nextSeq previous) ∧
      outcome = reduceAction action notice.code ∧ next = some notice.seq ∧ acceptedSeqs [event] = [notice.seq] := by
  unfold handleConnection at handled
  by_cases unset : (!connection.timeoutsSet) = true
  · rw [if_pos unset] at handled
    cases handled
  · rw [if_neg unset] at handled
    cases read : readHttpMessage connection.reads .request true with
    | none =>
      rw [read] at handled
      cases handled
    | some request =>
      simp only [read] at handled
      rcases judged : validateCallback decoders request path sid lastSeq action with ⟨accepted, key⟩
      rw [judged] at handled
      cases handled
      obtain ⟨seq, code, notify, follows, reduced, known, spelled⟩ := validateCallback_ok judged
      refine ⟨⟨connection, request, seq, code⟩, rfl, ⟨own, read, notify⟩, follows, reduced, known, ?_⟩
      have keyed : seqOf connection = some seq := by
        simpa [seqOf, read] using spelled
      simp [acceptedSeqs, Except.isOk, Except.toBool, keyed]

theorem genuine_small {notice : Notice} (genuine : notice.Genuine decoders jblAddress path sid) :
    notice.seq ≤ u32Max := by
  obtain ⟨text, _, _, _, _, small⟩ := genuine.notify.seq
  exact small

/-- Connections that leave the result open are foreign, or bring notifications in order
with a code that neither confirms nor rejects. -/
theorem awaits_notices {before : List Connection}
    (awaits : Awaits decoders jblAddress path sid action lastSeq before final) :
    ∃ notices : List Notice,
      (∀ notice ∈ notices, notice.Genuine decoders jblAddress path sid ∧
        notice.code ≠ some (confirmingCode action) ∧ notice.code ≠ some (rejectingCode action)) ∧
      notices.map Notice.connection = before.filter (fun connection => connection.peer = .v4 jblAddress) ∧
      Consecutive lastSeq (notices.map Notice.seq) ∧
      (lastSeq.toList ++ notices.map Notice.seq).getLast? = final := by
  induction awaits with
  | nil lastSeq =>
    refine ⟨[], by simp, rfl, ?_, ?_⟩
    · cases lastSeq <;> simp [Consecutive]
    · cases lastSeq <;> simp
  | @cons connection rest lastSeq next final passes later ih =>
    obtain ⟨notices, genuine, connections, ordered, last⟩ := ih
    cases passes with
    | foreign other =>
      refine ⟨notices, genuine, ?_, ordered, last⟩
      simpa [other] using connections
    | pending own handled =>
      obtain ⟨notice, same, real, follows, reduced, known, _⟩ := handleConnection_ok own handled
      subst known
      refine ⟨notice :: notices, ?_, ?_, consecutive_cons follows ordered, ?_⟩
      · intro member inside
        rcases List.mem_cons.mp inside with first | other
        · subst first
          exact ⟨real, reduceAction_pending reduced.symm⟩
        · exact genuine member other
      · simp [own, same, connections]
      · cases lastSeq with
        | none => exact last
        | some previous => simpa using last

theorem handleConnection_error {failure : GenaFailure}
    (handled : handleConnection decoders path sid action lastSeq connection = (event, .error failure, next)) :
    next = lastSeq ∧ acceptedSeqs [event] = [] := by
  unfold handleConnection at handled
  by_cases unset : (!connection.timeoutsSet) = true
  · rw [if_pos unset] at handled
    cases handled
    exact ⟨rfl, rfl⟩
  · rw [if_neg unset] at handled
    cases read : readHttpMessage connection.reads .request true with
    | none =>
      rw [read] at handled
      cases handled
      exact ⟨rfl, rfl⟩
    | some request =>
      simp only [read] at handled
      rcases judged : validateCallback decoders request path sid lastSeq action with ⟨accepted, key⟩
      rw [judged] at handled
      cases handled
      have kept := validateCallback_error (congrArg Prod.fst judged)
      rw [judged] at kept
      exact ⟨kept, rfl⟩

/-- Consecutive keys in range, no more than a budget. -/
structure Keyed (budget : Nat) (lastSeq : Option Nat) (seqs : List Nat) : Prop where
  ordered : Consecutive lastSeq seqs
  short : seqs.length ≤ budget
  small : ∀ seq ∈ seqs, seq ≤ u32Max

theorem keyed_nil (budget : Nat) (lastSeq : Option Nat) : Keyed budget lastSeq [] := by
  constructor
  · cases lastSeq <;> simp [Consecutive]
  · simp
  · simp

theorem Keyed.cons {budget : Nat} {outcome : CallbackOutcome} {events : List CallbackEvent}
    (keyed : Keyed budget next (acceptedSeqs events)) (own : connection.peer = .v4 jblAddress)
    (handled : handleConnection decoders path sid action lastSeq connection = (event, .ok outcome, next)) :
    Keyed (budget + 1) lastSeq (acceptedSeqs (event :: events)) := by
  obtain ⟨notice, _, genuine, follows, _, known, single⟩ := handleConnection_ok own handled
  subst known
  have split : acceptedSeqs (event :: events) = notice.seq :: acceptedSeqs events := by
    unfold acceptedSeqs at single ⊢
    rw [← List.singleton_append, List.filterMap_append, single, List.singleton_append]
  rw [split]
  constructor
  · exact consecutive_cons follows keyed.ordered
  · exact Nat.succ_le_succ keyed.short
  · intro seq member
    rcases List.mem_cons.mp member with first | later
    · rw [first]
      exact genuine_small genuine
    · exact keyed.small seq later

theorem Keyed.widen {budget : Nat} {seqs : List Nat} (keyed : Keyed budget lastSeq seqs) :
    Keyed (budget + 1) lastSeq seqs :=
  ⟨keyed.ordered, Nat.le_succ_of_le keyed.short, keyed.small⟩

theorem observeLoop_keyed (budget : Nat) (turns : List AcceptTurn) (lastSeq : Option Nat) :
    Keyed budget lastSeq
      (acceptedSeqs (observeLoop decoders jblAddress path sid action budget turns lastSeq).trace) := by
  fun_induction observeLoop decoders jblAddress path sid action budget turns lastSeq
  case case1 => exact keyed_nil _ _
  case case2 => exact keyed_nil _ _
  case case3 => exact keyed_nil _ _
  case case4 => exact keyed_nil _ _
  case case5 ih => exact ih
  case case6 ih => exact ih.widen
  case case7 handled =>
    rw [(handleConnection_error handled).2]
    exact keyed_nil _ _
  case case8 own _ _ handled => exact (keyed_nil _ _).cons (not_not.mp own) handled
  case case9 own _ _ handled => exact (keyed_nil _ _).cons (not_not.mp own) handled
  case case10 own _ _ handled ih => exact ih.cons (not_not.mp own) handled

theorem Keyed.nodup {budget : Nat} {seqs : List Nat} (keyed : Keyed budget lastSeq seqs) (tight : budget < u32Max) :
    (lastSeq.toList ++ seqs).Nodup := by
  cases seqs with
  | nil => cases lastSeq <;> simp
  | cons first rest =>
    have short := keyed.short
    apply chain_nodup
    · intro seq member
      rcases List.mem_append.mp member with known | accepted
      · have follows : first = nextSeq seq := by
          cases lastSeq with
          | none => cases known
          | some previous =>
            rw [List.mem_singleton.mp known]
            exact (List.isChain_cons_cons.mp keyed.ordered).1
        have small := keyed.small first List.mem_cons_self
        rw [follows, nextSeq] at small
        split at small
        · omega
        · omega
      · exact keyed.small seq accepted
    · cases lastSeq with
      | none => exact short.trans tight.le
      | some previous => exact (Nat.succ_le_succ short).trans tight
    · exact keyed.ordered

/-- The connection that confirms brings the notification the chain ends with. -/
theorem decides_confirmed (decides : Decides decoders jblAddress path sid action lastSeq connection (.ok ()) next) :
    ∃ notice : Notice, notice.connection = connection ∧ notice.Genuine decoders jblAddress path sid ∧
      (∀ previous, lastSeq = some previous → notice.seq = nextSeq previous) ∧
      notice.code = some (confirmingCode action) := by
  obtain ⟨own, event, outcome, handled, decided⟩ := decides
  have confirmed : outcome = .ok .confirmed := by
    rcases outcome with failure | _ | _ | _
    · cases decided
    · rfl
    · cases decided
    · cases decided
  rw [confirmed] at handled
  obtain ⟨notice, same, genuine, follows, reduced, _, _⟩ := handleConnection_ok own handled
  exact ⟨notice, same, genuine, follows, reduceAction_confirmed reduced.symm⟩

/-- An observation succeeds only at the end of a chain of notifications from the configured
speaker: in order, all before the last without a result for the action, and the last with its
confirming code. In every observation the keys of the accepted notifications are distinct,
and a callback that is refused leaves the last key as it was. -/
theorem confirmation_needs_ordered_notifications (decoders : Decoders) (jblAddress : Ipv4Addr)
    (subscription : Subscription) (action : BroadcastAction) (turns : List AcceptTurn) :
    ((observeUntil decoders jblAddress subscription action turns).out = some (.ok ()) →
      ∃ (earlier : List Notice) (last : Notice),
        (∀ notice ∈ earlier ++ [last], notice.Genuine decoders jblAddress subscription.path subscription.sid) ∧
        (earlier ++ [last]).map Notice.connection =
          ((observeUntil decoders jblAddress subscription action turns).trace.map CallbackEvent.connection).filter
            (fun connection => connection.peer = .v4 jblAddress) ∧
        Consecutive subscription.lastSeq ((earlier ++ [last]).map Notice.seq) ∧
        (∀ notice ∈ earlier, notice.code ≠ some (confirmingCode action) ∧ notice.code ≠ some (rejectingCode action)) ∧
        last.code = some (confirmingCode action)) ∧
    (subscription.lastSeq.toList ++
      acceptedSeqs (observeUntil decoders jblAddress subscription action turns).trace).Nodup ∧
    ∀ (request : HttpMessage) (lastSeq : Option Nat) (failure : GenaFailure),
      (validateCallback decoders request subscription.path subscription.sid lastSeq action).1 = .error failure →
      (validateCallback decoders request subscription.path subscription.sid lastSeq action).2 = lastSeq := by
  refine ⟨?_, ?_, ?_⟩
  · intro succeeded
    cases observeLoop_ends maxCallbacks turns subscription.lastSeq with
    | undecided _ _ _ _ unconfirmed => exact absurd succeeded unconfirmed
    | @decided before connection middle result awaits decides within seen events out =>
      have ok : result = .ok () := Option.some.inj (out.symm.trans succeeded)
      subst ok
      obtain ⟨earlier, genuine, connections, ordered, final⟩ := awaits_notices awaits
      obtain ⟨last, same, real, follows, confirming⟩ := decides_confirmed decides
      refine ⟨earlier, last, ?_, ?_, ?_, ?_, confirming⟩
      · intro notice member
        rcases List.mem_append.mp member with early | late
        · exact (genuine notice early).1
        · rw [List.mem_singleton.mp late]
          exact real
      · have own := decides.own
        rw [observeUntil, events, List.filter_append, List.map_append, connections]
        simp [same, own]
      · unfold Consecutive
        rw [List.map_append, ← List.append_assoc]
        apply List.IsChain.append ordered (by simp)
        intro previous known seq first
        rw [final] at known
        rw [List.map_singleton, List.head?_singleton] at first
        cases first
        exact follows previous known
      · intro notice member
        exact (genuine notice member).2
  · exact (observeLoop_keyed maxCallbacks turns subscription.lastSeq).nodup (by decide)
  · intro request lastSeq failure
    exact validateCallback_error

end Chain

theorem fixtureConnection_observed (listener : List Connection) :
    observeUntil fixtureDecoders fixtureJblAddress (fixtureSubscription listener) .start
      [⟨false, .accepted fixtureConnection⟩] = ⟨[.answered fixtureConnection true], some 0, some (.ok ())⟩ := by
  have own : fixtureConnection.peer = .v4 fixtureJblAddress := rfl
  simp [observeUntil, observeLoop, maxCallbacks, fixtureSubscription, own, fixtureConnection_confirms]

theorem fixture_confirmation :
    ∃ (earlier : List Notice) (last : Notice),
      (earlier ++ [last]).map Notice.connection = [fixtureConnection] ∧ last.code = some 33 := by
  have chain := (confirmation_needs_ordered_notifications fixtureDecoders fixtureJblAddress (fixtureSubscription [])
    .start [⟨false, .accepted fixtureConnection⟩]).1
  rw [fixtureConnection_observed] at chain
  obtain ⟨earlier, last, _, connections, _, _, code⟩ := chain rfl
  exact ⟨earlier, last, connections, code⟩

/-! ## Foreign peers -/

/-- What the listener of an observation tells about the configured speaker. -/
def ownAnswers (jblAddress : Ipv4Addr) (turns : List AcceptTurn) : List AcceptAnswer :=
  (turns.map AcceptTurn.answer).filter fun
    | .accepted connection => connection.peer = .v4 jblAddress
    | .wouldBlock => false
    | .failed => true

section Foreign
variable (decoders : Decoders) (jblAddress : Ipv4Addr) (path sid : Bytes) (action : BroadcastAction)

/-- The result on the speaker's own connections, with no other peer and no budget. -/
def ownResult : List AcceptAnswer → Option Nat → Option (Except GenaFailure Unit) × Option Nat
  | [], lastSeq => (none, lastSeq)
  | .failed :: _, lastSeq => (some (.error .listenerUnavailable), lastSeq)
  | .wouldBlock :: answers, lastSeq => ownResult answers lastSeq
  | .accepted connection :: answers, lastSeq =>
    match handleConnection decoders path sid action lastSeq connection with
    | (_, outcome, lastSeq) => match verdict outcome with
      | none => ownResult answers lastSeq
      | some result => (some result, lastSeq)

/-- The first connections, as many as the budget allows, leave the result open. -/
def BudgetSpent (budget : Nat) (turns : List AcceptTurn) (lastSeq final : Option Nat) : Prop :=
  budget ≤ (acceptedConnections turns).length ∧
    Awaits decoders jblAddress path sid action lastSeq ((acceptedConnections turns).take budget) final

end Foreign

section Budget
variable {decoders : Decoders} {jblAddress : Ipv4Addr} {path sid : Bytes} {action : BroadcastAction}
  {lastSeq next final : Option Nat} {connection : Connection}

theorem acceptedConnections_length (turns : List AcceptTurn) : (acceptedConnections turns).length ≤ turns.length := by
  fun_induction acceptedConnections turns
  case case1 => exact le_rfl
  case case2 => exact Nat.zero_le _
  case case3 ih => exact Nat.succ_le_succ ih
  case case4 ih => exact Nat.le_succ_of_le ih
  case case5 => exact Nat.zero_le _

theorem budgetSpent_cons_iff {budget : Nat} {turn : AcceptTurn} {turns : List AcceptTurn}
    (running : turn.deadlinePassed = false) (accepted : turn.answer = .accepted connection) :
    BudgetSpent decoders jblAddress path sid action (budget + 1) (turn :: turns) lastSeq final ↔
      ∃ next, Passes decoders jblAddress path sid action lastSeq connection next ∧
        BudgetSpent decoders jblAddress path sid action budget turns next final := by
  unfold BudgetSpent
  simp only [acceptedConnections, running, accepted, Bool.false_eq_true, if_false, List.length_cons,
    List.take_succ_cons, Nat.add_le_add_iff_right]
  constructor
  · intro spent
    obtain ⟨enough, awaits⟩ := spent
    cases awaits with
    | cons passes later => exact ⟨_, passes, enough, later⟩
  · intro spent
    obtain ⟨next, passes, enough, later⟩ := spent
    exact ⟨enough, .cons passes later⟩

theorem Passes.of_foreign (passes : Passes decoders jblAddress path sid action lastSeq connection next)
    (other : connection.peer ≠ .v4 jblAddress) : next = lastSeq := by
  cases passes with
  | foreign _ => rfl
  | pending own _ => exact absurd own other

theorem Passes.of_own (passes : Passes decoders jblAddress path sid action lastSeq connection next)
    (own : connection.peer = .v4 jblAddress) :
    ∃ event, handleConnection decoders path sid action lastSeq connection = (event, .ok .pending, next) := by
  cases passes with
  | foreign other => exact absurd own other
  | pending _ handled => exact ⟨_, handled⟩

/-- A speaker's own connection spends budget only while it leaves the result open. -/
theorem budgetSpent_own {budget : Nat} {turn : AcceptTurn} {turns : List AcceptTurn}
    (running : turn.deadlinePassed = false) (accepted : turn.answer = .accepted connection)
    (own : connection.peer = .v4 jblAddress)
    (spent : BudgetSpent decoders jblAddress path sid action (budget + 1) (turn :: turns) lastSeq final) :
    ∃ event next, handleConnection decoders path sid action lastSeq connection = (event, .ok .pending, next) ∧
      BudgetSpent decoders jblAddress path sid action budget turns next final := by
  obtain ⟨next, passes, later⟩ := (budgetSpent_cons_iff running accepted).mp spent
  obtain ⟨event, pending⟩ := passes.of_own own
  exact ⟨event, next, pending, later⟩

theorem observeLoop_spent {budget : Nat} {turns : List AcceptTurn}
    (spent : BudgetSpent decoders jblAddress path sid action budget turns lastSeq final) :
    (observeLoop decoders jblAddress path sid action budget turns lastSeq).out = some (.error .invalidCallback) ∧
    (observeLoop decoders jblAddress path sid action budget turns lastSeq).state = final := by
  fun_induction observeLoop decoders jblAddress path sid action budget turns lastSeq
  case case1 =>
    cases spent.2
    exact ⟨rfl, rfl⟩
  case case2 => exact absurd spent.1 (by simp [acceptedConnections])
  case case3 passed => exact absurd spent.1 (by simp [acceptedConnections, passed])
  case case4 running failed => exact absurd spent.1 (by simp [acceptedConnections, running, failed])
  case case5 running blocked ih =>
    apply ih
    simpa [BudgetSpent, acceptedConnections, running, blocked] using spent
  case case6 running connection accepted other ih =>
    obtain ⟨next, passes, later⟩ := (budgetSpent_cons_iff (by simpa using running) accepted).mp spent
    rw [passes.of_foreign other] at later
    exact ih later
  case case7 running connection accepted own event failure next handled =>
    obtain ⟨_, _, pending, _⟩ := budgetSpent_own (by simpa using running) accepted (not_not.mp own) spent
    rw [handled] at pending
    cases pending
  case case8 running connection accepted own event next handled =>
    obtain ⟨_, _, pending, _⟩ := budgetSpent_own (by simpa using running) accepted (not_not.mp own) spent
    rw [handled] at pending
    cases pending
  case case9 running connection accepted own event next handled =>
    obtain ⟨_, _, pending, _⟩ := budgetSpent_own (by simpa using running) accepted (not_not.mp own) spent
    rw [handled] at pending
    cases pending
  case case10 running connection accepted own event next handled ih =>
    obtain ⟨_, _, pending, later⟩ := budgetSpent_own (by simpa using running) accepted (not_not.mp own) spent
    rw [handled] at pending
    cases pending
    exact ih later

/-- Before the deadline a run spends its budget on connections that leave the result open, or
it ends as the speaker's own connections tell. -/
theorem observeLoop_own (budget : Nat) (turns : List AcceptTurn) (lastSeq : Option Nat)
    (calm : ∀ turn ∈ turns, turn.deadlinePassed = false) :
    (∃ final, BudgetSpent decoders jblAddress path sid action budget turns lastSeq final) ∨
    ((observeLoop decoders jblAddress path sid action budget turns lastSeq).out,
      (observeLoop decoders jblAddress path sid action budget turns lastSeq).state) =
      ownResult decoders path sid action (ownAnswers jblAddress turns) lastSeq := by
  fun_induction observeLoop decoders jblAddress path sid action budget turns lastSeq
  case case1 => exact .inl ⟨_, Nat.zero_le _, .nil _⟩
  case case2 => exact .inr rfl
  case case3 turn turns lastSeq passed => exact absurd passed (by simp [calm turn List.mem_cons_self])
  case case4 running failed =>
    right
    simp [ownAnswers, failed, ownResult]
  case case5 budget turn turns lastSeq running blocked ih =>
    have rest := ih fun turn inside => calm turn (List.mem_cons_of_mem _ inside)
    simpa [BudgetSpent, ownAnswers, acceptedConnections, running, blocked] using rest
  case case6 budget turn turns lastSeq running connection accepted other ih =>
    rcases ih fun turn inside => calm turn (List.mem_cons_of_mem _ inside) with spent | decided
    · obtain ⟨final, spent⟩ := spent
      exact .inl ⟨final, (budgetSpent_cons_iff (by simpa using running) accepted).mpr ⟨_, .foreign other, spent⟩⟩
    · right
      simpa [ownAnswers, accepted, other] using decided
  case case7 running connection accepted own event failure next handled =>
    right
    simp [ownAnswers, accepted, not_not.mp own, ownResult, handled, verdict]
  case case8 running connection accepted own event next handled =>
    right
    simp [ownAnswers, accepted, not_not.mp own, ownResult, handled, verdict]
  case case9 running connection accepted own event next handled =>
    right
    simp [ownAnswers, accepted, not_not.mp own, ownResult, handled, verdict]
  case case10 budget turn turns lastSeq running connection accepted own event next handled ih =>
    rcases ih fun turn inside => calm turn (List.mem_cons_of_mem _ inside) with spent | decided
    · obtain ⟨final, spent⟩ := spent
      exact .inl ⟨final, (budgetSpent_cons_iff (by simpa using running) accepted).mpr
        ⟨_, .pending (not_not.mp own) handled, spent⟩⟩
    · right
      simpa [ownAnswers, accepted, not_not.mp own, ownResult, handled, verdict] using decided

end Budget

/-- Two observations that see the same of the configured speaker, both before their deadline,
end alike unless one of them spends its budget of accepted connections on connections that
leave the result open; one that does fails closed. -/
theorem foreign_peers_do_not_interfere (decoders : Decoders) (jblAddress : Ipv4Addr) (subscription : Subscription)
    (action : BroadcastAction) (left right : List AcceptTurn)
    (leftCalm : ∀ turn ∈ left, turn.deadlinePassed = false) (rightCalm : ∀ turn ∈ right, turn.deadlinePassed = false)
    (same : ownAnswers jblAddress left = ownAnswers jblAddress right) :
    ((¬∃ final, BudgetSpent decoders jblAddress subscription.path subscription.sid action maxCallbacks left
        subscription.lastSeq final) →
      (¬∃ final, BudgetSpent decoders jblAddress subscription.path subscription.sid action maxCallbacks right
        subscription.lastSeq final) →
      (observeUntil decoders jblAddress subscription action left).out =
        (observeUntil decoders jblAddress subscription action right).out ∧
      (observeUntil decoders jblAddress subscription action left).state =
        (observeUntil decoders jblAddress subscription action right).state) ∧
    ∀ turns, (∃ final, BudgetSpent decoders jblAddress subscription.path subscription.sid action maxCallbacks turns
        subscription.lastSeq final) →
      (observeUntil decoders jblAddress subscription action turns).out = some (.error .invalidCallback) := by
  constructor
  · intro leftOpen rightOpen
    have leftEnds := (observeLoop_own maxCallbacks left subscription.lastSeq leftCalm).resolve_left leftOpen
    have rightEnds := (observeLoop_own maxCallbacks right subscription.lastSeq rightCalm).resolve_left rightOpen
    rw [same, ← rightEnds] at leftEnds
    exact Prod.mk.inj leftEnds
  · intro turns spent
    obtain ⟨final, spent⟩ := spent
    exact (observeLoop_spent spent).1

def fixtureForeign : Connection := ⟨.v4 ⟨#v[192, 0, 2, 99]⟩, true, []⟩

theorem foreign_peer_ignored :
    (observeUntil fixtureDecoders fixtureJblAddress (fixtureSubscription []) .start
      [⟨false, .accepted fixtureForeign⟩, ⟨false, .accepted fixtureConnection⟩]).out = some (.ok ()) := by
  have alike := (foreign_peers_do_not_interfere fixtureDecoders fixtureJblAddress (fixtureSubscription []) .start
    [⟨false, .accepted fixtureForeign⟩, ⟨false, .accepted fixtureConnection⟩] [⟨false, .accepted fixtureConnection⟩]
    (by simp) (by simp) (by decide)).1
  have short : ∀ turns : List AcceptTurn, turns.length < maxCallbacks →
      ¬∃ final, BudgetSpent fixtureDecoders fixtureJblAddress fixturePath fixtureSid .start maxCallbacks turns none
        final := by
    intro turns few spent
    obtain ⟨_, enough, _⟩ := spent
    exact absurd (enough.trans (acceptedConnections_length turns)) (by omega)
  rw [(alike (short _ (by decide)) (short _ (by decide))).1, fixtureConnection_observed]

/-- Sixty-four foreign connections in front of a confirming notification hide it. -/
theorem foreign_peers_can_spend_the_budget :
    ¬∀ (decoders : Decoders) (jblAddress : Ipv4Addr) (subscription : Subscription) (action : BroadcastAction)
        (left right : List AcceptTurn), (∀ turn ∈ left, turn.deadlinePassed = false) →
      (∀ turn ∈ right, turn.deadlinePassed = false) → ownAnswers jblAddress left = ownAnswers jblAddress right →
      (observeUntil decoders jblAddress subscription action left).out ≠ none →
      (observeUntil decoders jblAddress subscription action right).out ≠ none →
      (observeUntil decoders jblAddress subscription action left).out =
        (observeUntil decoders jblAddress subscription action right).out ∧
      (observeUntil decoders jblAddress subscription action left).state =
        (observeUntil decoders jblAddress subscription action right).state := by
  intro claim
  have hidden : (observeUntil fixtureDecoders fixtureJblAddress (fixtureSubscription []) .start
      (List.replicate 64 ⟨false, .accepted fixtureForeign⟩ ++ [⟨false, .accepted fixtureConnection⟩])).out =
      some (.error .invalidCallback) := by
    decide
  have same := claim fixtureDecoders fixtureJblAddress (fixtureSubscription []) .start
    [⟨false, .accepted fixtureConnection⟩]
    (List.replicate 64 ⟨false, .accepted fixtureForeign⟩ ++ [⟨false, .accepted fixtureConnection⟩])
    (by simp) (by decide) (by decide) (by simp [fixtureConnection_observed])
    (by rw [hidden]; simp)
  rw [fixtureConnection_observed, hidden] at same
  exact absurd same.1 (by simp)

end PlayTogether.Gena
