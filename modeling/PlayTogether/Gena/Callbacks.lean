import PlayTogether.Gena.Observer

/-! What the accept loop does with a history of connections: as long as they are foreign or
undecided it waits, the first decided one ends it, and so does the budget. -/

namespace PlayTogether.Gena
open PlayTogether.Library PlayTogether.Device

set_option maxRecDepth 20000

/-! ## Notifications -/

def confirmingCode : BroadcastAction → Int
  | .start => 33
  | .stop => 34

def rejectingCode : BroadcastAction → Int
  | .start => 31
  | .stop => 32

def nextSeq (seq : Nat) : Nat := if seq = u32Max then 1 else seq + 1

/-- A request that is an event of the subscription, with its key and its action code. -/
structure IsNotify (decoders : Decoders) (path sid : Bytes) (request : HttpMessage) (seq : Nat)
    (code : Option Int) : Prop where
  line : request.startLine = .request (ascii "NOTIFY") path
  sid : request.header "sid" = some sid
  nt : ∃ value, request.header "nt" = some value ∧ eqIgnoreAsciiCase value (ascii "upnp:event") = true
  nts : ∃ value, request.header "nts" = some value ∧ eqIgnoreAsciiCase value (ascii "upnp:propchange") = true
  seq : ∃ text, request.header "seq" = some text ∧ text ≠ [] ∧ (∀ byte ∈ text, isDigit byte = true) ∧
    decimalValue text = seq ∧ seq ≤ u32Max
  body : parseEventBody decoders request.body = some code

section Verdicts
variable {decoders : Decoders} {request : HttpMessage} {path sid : Bytes} {action : BroadcastAction}
  {lastSeq next : Option Nat}

theorem parseSeq_eq_some {text : Bytes} {seq : Nat} (parsed : parseSeq text = some seq) :
    text ≠ [] ∧ (∀ byte ∈ text, isDigit byte = true) ∧ decimalValue text = seq ∧ seq ≤ u32Max := by
  unfold parseSeq at parsed
  by_cases refused : (text.isEmpty || !text.all isDigit) = true
  · rw [if_pos refused] at parsed
    cases parsed
  · rw [if_neg refused] at parsed
    simp only [Bool.or_eq_true, Bool.not_eq_true', not_or, Bool.not_eq_false, List.isEmpty_iff, List.all_eq_true]
      at refused
    obtain ⟨filled, digits⟩ := refused
    have unsigned : text.head? ≠ some 0x2b := by
      intro plus
      have digit := digits 0x2b (List.mem_of_mem_head? plus)
      exact absurd digit (by decide)
    simp only [parseUnsigned, if_neg unsigned] at parsed
    by_cases small : text ≠ [] ∧ text.all isDigit ∧ decimalValue text ≤ u32Max
    · rw [if_pos small] at parsed
      cases parsed
      exact ⟨filled, digits, rfl, small.2.2⟩
    · rw [if_neg small] at parsed
      cases parsed

theorem validateCallback_error {failure : GenaFailure}
    (refused : (validateCallback decoders request path sid lastSeq action).1 = .error failure) :
    (validateCallback decoders request path sid lastSeq action).2 = lastSeq := by
  revert refused
  unfold validateCallback
  intro refused
  split
  · rfl
  · split
    · rfl
    · split
      · rfl
      · split
        · rfl
        · split
          · rfl
          · split
            · rfl
            · split
              · rfl
              · simp_all

/-- A request is accepted exactly for an event of the subscription whose key is next. -/
theorem validateCallback_ok {outcome : CallbackOutcome}
    (accepted : validateCallback decoders request path sid lastSeq action = (.ok outcome, next)) :
    ∃ seq code, IsNotify decoders path sid request seq code ∧ (∀ previous, lastSeq = some previous → seq = nextSeq previous) ∧
      outcome = reduceAction action code ∧ next = some seq ∧ (request.header "seq").bind parseSeq = some seq := by
  unfold validateCallback at accepted
  split at accepted
  · cases accepted
  · rename_i method target line
    split at accepted
    · cases accepted
    · rename_i addressed
      split at accepted
      · cases accepted
      · rename_i subscribed
        split at accepted
        · cases accepted
        · split at accepted
          · cases accepted
          · rename_i seq key
            split at accepted
            · cases accepted
            · rename_i ordered
              split at accepted
              · cases accepted
              · rename_i code body
                cases accepted
                obtain ⟨text, stored, parsed⟩ := Option.bind_eq_some_iff.mp key
                have spelled := parseSeq_eq_some parsed
                push Not at addressed
                simp only [headerEqIgnoreAsciiCase, Bool.or_eq_true, Bool.not_eq_true', not_or, decide_eq_true_eq,
                  not_not, Bool.not_eq_false, Option.any_eq_true] at subscribed
                refine ⟨seq, code, ⟨?_, subscribed.1.1, ?_, ?_, ?_, body⟩, ?_, rfl, rfl, key⟩
                · rw [line, addressed.1, addressed.2]
                · exact subscribed.1.2
                · exact subscribed.2
                · exact ⟨text, stored, spelled⟩
                · intro previous known
                  subst known
                  unfold nextSeq
                  by_cases last : previous = u32Max
                  · rw [if_pos last]
                    simpa [sequenceIsNext, last] using ordered
                  · rw [if_neg last]
                    simpa [sequenceIsNext, last] using ordered

theorem reduceAction_confirmed {code : Option Int} (confirmed : reduceAction action code = .confirmed) :
    code = some (confirmingCode action) := by
  unfold reduceAction at confirmed
  split at confirmed <;> first | rfl | cases confirmed

theorem reduceAction_pending {code : Option Int} (pending : reduceAction action code = .pending) :
    code ≠ some (confirmingCode action) ∧ code ≠ some (rejectingCode action) := by
  constructor
  · intro same
    subst same
    cases action <;> cases pending
  · intro same
    subst same
    cases action <;> cases pending

end Verdicts

/-! ## Runs of the accept loop -/

/-- The connections a run can accept, up to the deadline or a failing listener. -/
def acceptedConnections : List AcceptTurn → List Connection
  | [] => []
  | turn :: turns =>
    if turn.deadlinePassed then []
    else match turn.answer with
      | .accepted connection => connection :: acceptedConnections turns
      | .wouldBlock => acceptedConnections turns
      | .failed => []

section Loop
variable (decoders : Decoders) (jblAddress : Ipv4Addr) (path sid : Bytes) (action : BroadcastAction)

/-- One connection that leaves the result open, with the event keys before and after it. -/
inductive Passes (lastSeq : Option Nat) (connection : Connection) : Option Nat → Prop where
  | foreign (other : connection.peer ≠ .v4 jblAddress) : Passes lastSeq connection lastSeq
  | pending {event : CallbackEvent} {next : Option Nat} (own : connection.peer = .v4 jblAddress)
      (handled : handleConnection decoders path sid action lastSeq connection = (event, .ok .pending, next)) :
      Passes lastSeq connection next

inductive Awaits : Option Nat → List Connection → Option Nat → Prop where
  | nil (lastSeq : Option Nat) : Awaits lastSeq [] lastSeq
  | cons {connection : Connection} {rest : List Connection} {lastSeq next final : Option Nat}
      (passes : Passes decoders jblAddress path sid action lastSeq connection next) (later : Awaits next rest final) :
      Awaits lastSeq (connection :: rest) final

/-- What the verdict on one connection makes of the loop; no result lets it go on. -/
def verdict : Except GenaFailure CallbackOutcome → Option (Except GenaFailure Unit)
  | .error failure => some (.error failure)
  | .ok .confirmed => some (.ok ())
  | .ok .rejected => some (.error .businessRejected)
  | .ok .pending => none

/-- A connection that ends the loop. -/
structure Decides (lastSeq : Option Nat) (connection : Connection) (result : Except GenaFailure Unit)
    (next : Option Nat) : Prop where
  own : connection.peer = .v4 jblAddress
  handled : ∃ event outcome, handleConnection decoders path sid action lastSeq connection = (event, outcome, next) ∧
    verdict outcome = some result

/-- How a run ends on the connections it can accept: without a confirmation while the result
is open, or with the first connection that decides it. -/
inductive Ended (budget : Nat) (accepted : List Connection) (lastSeq : Option Nat)
    (run : Exec CallbackEvent (Option Nat) (Except GenaFailure Unit)) : Prop where
  | undecided {before : List Connection} (awaits : Awaits decoders jblAddress path sid action lastSeq before run.state)
      (within : before.length ≤ budget) (seen : before <+: accepted)
      (events : run.trace.map CallbackEvent.connection = before) (unconfirmed : run.out ≠ some (.ok ()))
  | decided {before : List Connection} {connection : Connection} {middle : Option Nat}
      {result : Except GenaFailure Unit}
      (awaits : Awaits decoders jblAddress path sid action lastSeq before middle)
      (decides : Decides decoders jblAddress path sid action middle connection result run.state)
      (within : before.length < budget) (seen : before ++ [connection] <+: accepted)
      (events : run.trace.map CallbackEvent.connection = before ++ [connection]) (result : run.out = some result)

end Loop

section Runs
variable {decoders : Decoders} {jblAddress : Ipv4Addr} {path sid : Bytes} {action : BroadcastAction}
  {lastSeq next : Option Nat} {connection : Connection} {event : CallbackEvent}

theorem handleConnection_connection {outcome : Except GenaFailure CallbackOutcome}
    (handled : handleConnection decoders path sid action lastSeq connection = (event, outcome, next)) :
    event.connection = connection := by
  unfold handleConnection at handled
  split at handled
  · cases handled
    rfl
  · split at handled
    · cases handled
      rfl
    · cases handled
      rfl

/-- A connection that leaves the result open extends the run behind it. -/
theorem Ended.cons {budget : Nat} {accepted : List Connection}
    {run : Exec CallbackEvent (Option Nat) (Except GenaFailure Unit)}
    (ended : Ended decoders jblAddress path sid action budget accepted next run)
    (passes : Passes decoders jblAddress path sid action lastSeq connection next)
    (same : event.connection = connection) :
    Ended decoders jblAddress path sid action (budget + 1) (connection :: accepted) lastSeq (run.after [event]) := by
  cases ended with
  | undecided awaits within seen events unconfirmed =>
    exact .undecided (.cons passes awaits) (Nat.succ_le_succ within) ((List.prefix_cons_inj connection).mpr seen)
      (by simp [events, same]) unconfirmed
  | decided awaits decides within seen events result =>
    exact .decided (.cons passes awaits) decides (Nat.succ_lt_succ within)
      ((List.prefix_cons_inj connection).mpr seen) (by simp [events, same]) result

theorem Ended.at_once {budget : Nat} {accepted : List Connection} {out : Option (Except GenaFailure Unit)}
    (unconfirmed : out ≠ some (.ok ())) :
    Ended decoders jblAddress path sid action budget accepted lastSeq ⟨[], lastSeq, out⟩ :=
  .undecided (.nil lastSeq) (Nat.zero_le budget) List.nil_prefix rfl unconfirmed

theorem Ended.first {budget : Nat} {accepted : List Connection} {outcome : Except GenaFailure CallbackOutcome}
    {result : Except GenaFailure Unit} (own : connection.peer = .v4 jblAddress)
    (handled : handleConnection decoders path sid action lastSeq connection = (event, outcome, next))
    (decided : verdict outcome = some result) :
    Ended decoders jblAddress path sid action (budget + 1) (connection :: accepted) lastSeq
      ⟨[event], next, some result⟩ :=
  .decided (.nil lastSeq) ⟨own, event, outcome, handled, decided⟩ (Nat.zero_lt_succ budget) (by simp)
    (by simp [handleConnection_connection handled]) rfl

theorem observeLoop_ends (budget : Nat) (turns : List AcceptTurn) (lastSeq : Option Nat) :
    Ended decoders jblAddress path sid action budget (acceptedConnections turns) lastSeq
      (observeLoop decoders jblAddress path sid action budget turns lastSeq) := by
  fun_induction observeLoop decoders jblAddress path sid action budget turns lastSeq
  case case1 => exact .at_once (by simp)
  case case2 => exact .at_once (by simp)
  case case3 => exact .at_once (by simp)
  case case4 => exact .at_once (by simp)
  case case5 budget turn turns lastSeq running blocked ih =>
    simpa [acceptedConnections, running, blocked] using ih
  case case6 budget turn turns lastSeq running connection accepted other ih =>
    simpa [acceptedConnections, running, accepted] using ih.cons (.foreign other) rfl
  case case7 budget turn turns lastSeq running connection accepted own event failure next handled =>
    simpa [acceptedConnections, running, accepted] using Ended.first (not_not.mp own) handled rfl
  case case8 budget turn turns lastSeq running connection accepted own event next handled =>
    simpa [acceptedConnections, running, accepted] using Ended.first (not_not.mp own) handled rfl
  case case9 budget turn turns lastSeq running connection accepted own event next handled =>
    simpa [acceptedConnections, running, accepted] using Ended.first (not_not.mp own) handled rfl
  case case10 budget turn turns lastSeq running connection accepted own event next handled ih =>
    simpa [acceptedConnections, running, accepted] using
      ih.cons (.pending (not_not.mp own) handled) (handleConnection_connection handled)

end Runs

/-! A notification in the shape of the source's own test callbacks, and decoders that know
this one text. -/

def fixtureJblAddress : Ipv4Addr := ⟨#v[192, 0, 2, 10]⟩

def fixturePath : Bytes := ascii callbackPrefix ++ hex (List.replicate 32 0)

def fixtureSid : Bytes := ascii "uuid:fixture"

def fixtureNotification (code : Int) : Json :=
  .record [("pass_through", .record [("pass_string", .record [("command", .text notificationCommand),
    ("payload", .record [("info", .record [("action_code", .integer code)])])])])]

def fixtureEvent (code : Int) : Bytes :=
  ascii "<e:propertyset xmlns:e=" ++ [0x22] ++ ascii eventNamespace ++ [0x22] ++ ascii "><e:property><PassThrough>" ++
    renderPlain (fixtureNotification code) ++ ascii "</PassThrough></e:property>" ++ ascii "</e:propertyset>"

def fixtureDocument (code : Int) : XmlDocument where
  before := 0
  rootElement := .element (some (ascii eventNamespace)) (ascii "propertyset") []
    [.element (some (ascii eventNamespace)) (ascii "property") []
      [.element none (ascii "PassThrough") [] [.text (renderPlain (fixtureNotification code))]]]
  after := 0
  isElement := rfl

def fixtureDecoders : Decoders where
  parseXml text := if text = fixtureEvent 33 then some (fixtureDocument 33) else none
  fromStr text := if text = renderPlain (fixtureNotification 33) then some (fixtureNotification 33) else none

def fixtureNotify : Bytes :=
  writeMessage (ascii "NOTIFY " ++ fixturePath ++ ascii " HTTP/1.1")
    [(ascii "SID", fixtureSid), (ascii "NT", ascii "upnp:event"), (ascii "NTS", ascii "upnp:propchange"),
      (ascii "SEQ", ascii "0"), (ascii "Content-Length", decimal (fixtureEvent 33).length)] (fixtureEvent 33)

def fixtureConnection : Connection := ⟨.v4 fixtureJblAddress, true, [fixtureNotify]⟩

def fixtureSubscription (listener : List Connection) : Subscription := ⟨listener, fixtureSid, fixturePath, none⟩

theorem fixtureConnection_confirms :
    handleConnection fixtureDecoders fixturePath fixtureSid .start none fixtureConnection =
      (.answered fixtureConnection true, .ok .confirmed, some 0) := by
  decide

end PlayTogether.Gena
