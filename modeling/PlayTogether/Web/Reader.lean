import PlayTogether.Web.App
import PlayTogether.Web.Framing

/-! The bounded reader in front of the handler. It reruns the framing test on a growing
buffer; what the socket and the clock do in each turn is part of the input. -/

namespace PlayTogether.Web
open PlayTogether.Library

set_option maxRecDepth 20000

def readChunkBytes : Nat := 2048

/-- One answer of a blocking read. Bytes come as many as there are, up to one more than
the given count; none left means that the peer has closed. -/
inductive ReadAnswer where
  | bytes (count : Nat)
  | interrupted
  | wouldBlock (deadlinePassed : Bool)
  | failed
  deriving DecidableEq, Repr

/-- Looking for queued bytes: a failing socket call counts as bytes, otherwise only those
that have arrived are seen. -/
inductive PeekAnswer where
  | failed
  | looked (arrived : Bool)
  deriving DecidableEq, Repr

structure ReadTurn where
  shutdown : Bool
  peek : PeekAnswer
  deadlinePassed : Bool
  timeoutSet : Bool
  answer : ReadAnswer
  deriving DecidableEq, Repr

inductive ReadOutcome where
  | complete (request : Bytes)
  | rejected (request : Bytes)
  | closed
  deriving DecidableEq

def hasQueuedBytes (peek : PeekAnswer) (unread : Bytes) : Bool :=
  match peek with
  | .failed => true
  | .looked arrived => arrived && !unread.isEmpty

/-- No outcome means that the turns ended before the reader did. -/
def readLoop : List ReadTurn → Bytes → Bytes → Option ReadOutcome
  | [], _, _ => none
  | turn :: turns, request, unread =>
    if turn.shutdown then some .closed
    else match requestFrame request with
      | .complete =>
        if hasQueuedBytes turn.peek unread then some (.rejected (request ++ [0])) else some (.complete request)
      | .rejected => some (.rejected request)
      | .incomplete =>
        if turn.deadlinePassed then some .closed
        else if !turn.timeoutSet then some .closed
        else
          let remainingCapacity := maxRequestBytes + 1 - request.length
          if remainingCapacity = 0 then some (.rejected request)
          else match turn.answer with
            | .bytes count =>
              let limit := min (count + 1) (min remainingCapacity readChunkBytes)
              if unread.isEmpty then some .closed
              else readLoop turns (request ++ unread.take limit) (unread.drop limit)
            | .interrupted => readLoop turns request unread
            | .wouldBlock deadlinePassed => if deadlinePassed then some .closed else readLoop turns request unread
            | .failed => some .closed

def readOneRequest (deadlineFits : Bool) (turns : List ReadTurn) (stream : Bytes) : Option ReadOutcome :=
  if deadlineFits then readLoop turns [] stream else some .closed

/-! ## What the reader returns -/

/-- The outcomes of a reader that has read some buffer. -/
def Judged (buffer : Bytes) : ReadOutcome → Prop
  | .complete request => requestFrame buffer = .complete ∧ request = buffer
  | .rejected request =>
    requestFrame buffer = .complete ∧ request = buffer ++ [0] ∨ requestFrame buffer ≠ .complete ∧ request = buffer
  | .closed => True

/-- Every outcome is the judgement of one buffer, a prefix of the stream. -/
theorem readLoop_judged {turns : List ReadTurn} {request unread : Bytes} {outcome : ReadOutcome}
    (returned : readLoop turns request unread = some outcome) :
    ∃ buffer, buffer <+: request ++ unread ∧ Judged buffer outcome := by
  induction turns generalizing request unread with
  | nil => cases returned
  | cons turn turns ih =>
    have here : request <+: request ++ unread := List.prefix_append request unread
    rw [readLoop] at returned
    split at returned
    · cases returned
      exact ⟨request, here, trivial⟩
    · split at returned
      · rename_i complete
        split at returned
        · cases returned
          exact ⟨request, here, .inl ⟨complete, rfl⟩⟩
        · cases returned
          exact ⟨request, here, complete, rfl⟩
      · rename_i refused
        cases returned
        exact ⟨request, here, .inr ⟨by simp [refused], rfl⟩⟩
      · rename_i incomplete
        split at returned
        · cases returned
          exact ⟨request, here, trivial⟩
        · split at returned
          · cases returned
            exact ⟨request, here, trivial⟩
          · dsimp only at returned
            split at returned
            · cases returned
              exact ⟨request, here, .inr ⟨by simp [incomplete], rfl⟩⟩
            · split at returned
              · split at returned
                · cases returned
                  exact ⟨request, here, trivial⟩
                · have inner := ih returned
                  rw [List.append_assoc, List.take_append_drop] at inner
                  exact inner
              · exact ih returned
              · split at returned
                · cases returned
                  exact ⟨request, here, trivial⟩
                · exact ih returned
              · cases returned
                exact ⟨request, here, trivial⟩

theorem readOneRequest_judged {deadlineFits : Bool} {turns : List ReadTurn} {stream : Bytes} {outcome : ReadOutcome}
    (returned : readOneRequest deadlineFits turns stream = some outcome) :
    ∃ buffer, buffer <+: stream ∧ Judged buffer outcome := by
  unfold readOneRequest at returned
  by_cases fits : deadlineFits = true
  · rw [if_pos fits] at returned
    exact readLoop_judged returned
  · rw [if_neg fits] at returned
    cases returned
    exact ⟨[], List.nil_prefix, trivial⟩

/-! ## Calm connections -/

/-- A turn without shutdown, timeout or socket failure. -/
def ReadTurn.Calm (turn : ReadTurn) : Prop :=
  turn.shutdown = false ∧ turn.peek ≠ .failed ∧ turn.deadlinePassed = false ∧ turn.timeoutSet = true ∧
    turn.answer ≠ .failed ∧ turn.answer ≠ .wouldBlock true

/-- How many bytes a turn takes when there are that many. -/
def ReadTurn.room (turn : ReadTurn) : Nat :=
  match turn.answer with
  | .bytes count => min (count + 1) readChunkBytes
  | _ => 0

theorem readLoop_end {turn : ReadTurn} {turns : List ReadTurn} {request : Bytes} (calm : turn.Calm)
    (complete : requestFrame request = .complete) :
    readLoop (turn :: turns) request [] = some (.complete request) := by
  obtain ⟨running, peek, _⟩ := calm
  cases looked : turn.peek with
  | failed => exact absurd looked peek
  | looked arrived => simp [readLoop, running, complete, hasQueuedBytes, looked]

theorem requestFrame_length {raw : Bytes} (complete : requestFrame raw = .complete) :
    raw.length ≤ maxRequestBytes := by
  obtain ⟨headEnd, length, framed⟩ := requestFrame_complete_iff.mp complete
  have fits := framed.fits
  have whole := framed.whole
  omega

/-- Reading the bytes of one complete request in calm turns with room for all of them. -/
theorem readLoop_calm {turns : List ReadTurn} {last : ReadTurn} {request unread : Bytes}
    (complete : requestFrame (request ++ unread) = .complete) (calm : ∀ turn ∈ turns ++ [last], turn.Calm)
    (room : unread.length ≤ (turns.map ReadTurn.room).sum) :
    readLoop (turns ++ [last]) request unread = some (.complete (request ++ unread)) := by
  induction turns generalizing request unread with
  | nil =>
    obtain rfl : unread = [] := by simpa using room
    rw [List.append_nil] at complete ⊢
    exact readLoop_end (calm last (by simp)) complete
  | cons turn turns ih =>
    have quiet := calm turn (by simp)
    have rest : ∀ other ∈ turns ++ [last], other.Calm := by
      intro other member
      exact calm other (List.mem_cons_of_mem turn member)
    by_cases done : unread = []
    · subst done
      rw [List.append_nil] at complete ⊢
      exact readLoop_end quiet complete
    · obtain ⟨running, _, inTime, timeout, working, waiting⟩ := quiet
      have some_left := List.length_pos_of_ne_nil done
      have total := requestFrame_length complete
      rw [List.length_append] at total
      have incomplete : requestFrame request = .incomplete := by
        have shorter : request.length < (request ++ unread).length := by simpa using some_left
        have cut := requestFrame_take complete shorter
        rwa [List.take_left] at cut
      have capacity : maxRequestBytes + 1 - request.length ≠ 0 := by omega
      rw [List.map_cons, List.sum_cons] at room
      rw [List.cons_append, readLoop]
      simp only [running, incomplete, inTime, timeout, Bool.not_true, Bool.false_eq_true, if_false, if_neg capacity]
      cases answer : turn.answer with
      | bytes count =>
        have roomHere : turn.room = min (count + 1) readChunkBytes := by simp [ReadTurn.room, answer]
        have unfinished : unread.isEmpty = false := by simpa using done
        simp only [unfinished, Bool.false_eq_true, if_false]
        rw [ih _ rest]
        · rw [List.append_assoc, List.take_append_drop]
        · rw [List.length_drop]
          omega
        · rwa [List.append_assoc, List.take_append_drop]
      | interrupted =>
        have roomHere : turn.room = 0 := by simp [ReadTurn.room, answer]
        exact ih complete rest (by omega)
      | wouldBlock deadlinePassed =>
        have roomHere : turn.room = 0 := by simp [ReadTurn.room, answer]
        cases deadlinePassed with
        | true => exact absurd answer waiting
        | false => exact ih complete rest (by omega)
      | failed => exact absurd answer working

/-! ## Framing and parsing -/

theorem parseRequest_error_of_incomplete {raw : Bytes} (unframed : requestFrame raw ≠ .complete) :
    ∃ error, parseRequest raw = .error error := by
  cases parsed : parseRequest raw with
  | error error => exact ⟨error, rfl⟩
  | ok request => exact absurd (requestFrame_of_parseRequest parsed) unframed

theorem parseRequest_error_behind {raw : Bytes} (complete : requestFrame raw = .complete) :
    ∃ error, parseRequest (raw ++ [0]) = .error error := by
  cases parsed : parseRequest (raw ++ [0]) with
  | error error => exact ⟨error, rfl⟩
  | ok request => exact absurd parsed (parseRequest_behind_complete complete 0 request)

/-- Bytes that do not parse never reach the actor. -/
theorem handle_of_error {A ε : Type} [WebActor A ε] (serde : Serde) (pageHtml : Bytes) (app : WebApp A)
    {raw : Bytes} {error : RequestError} (unparsed : parseRequest raw = .error error) :
    WebApp.handle serde pageHtml raw app = ⟨[], app, some (errorResponse serde error)⟩ := by
  unfold WebApp.handle
  rw [unparsed]
  rfl

/-- The two parsers over the same bytes agree on what a request is, so a buffer the reader
refuses is answered without a call of the actor. -/
theorem framing_agrees_with_parsing :
    (∀ raw request, parseRequest raw = .ok request → requestFrame raw = .complete) ∧
    (∀ raw, requestFrame raw = .rejected ∨ requestFrame raw = .incomplete →
      ∃ error, parseRequest raw = .error error) ∧
    (∀ raw, requestFrame raw = .complete → ∃ error, parseRequest (raw ++ [0]) = .error error) ∧
    ∀ (A ε : Type) [WebActor A ε] (serde : Serde) (pageHtml : Bytes) (app : WebApp A) (deadlineFits : Bool)
      (turns : List ReadTurn) (stream buffer : Bytes),
      readOneRequest deadlineFits turns stream = some (.rejected buffer) →
        ∃ error, WebApp.handle serde pageHtml buffer app = ⟨[], app, some (errorResponse serde error)⟩ := by
  refine ⟨fun _ _ => requestFrame_of_parseRequest, ?_, fun _ => parseRequest_error_behind, ?_⟩
  · intro raw unframed
    apply parseRequest_error_of_incomplete
    intro complete
    rw [complete] at unframed
    simp at unframed
  · intro A ε _ serde pageHtml app deadlineFits turns stream buffer returned
    obtain ⟨front, _, judged⟩ := readOneRequest_judged returned
    have unparsed : ∃ error, parseRequest buffer = .error error := by
      rcases judged with ⟨complete, same⟩ | ⟨unframed, same⟩
      · rw [same]
        exact parseRequest_error_behind complete
      · rw [same]
        exact parseRequest_error_of_incomplete unframed
    obtain ⟨error, unparsed⟩ := unparsed
    exact ⟨error, handle_of_error serde pageHtml app unparsed⟩

/-- The shortest request a browser sends for the page. -/
def pageRequest : Bytes := ascii "GET / HTTP/1.1" ++ crlf ++ ascii "Host: localhost" ++ blankLine

def calmTurn (count : Nat) : ReadTurn := ⟨false, .looked true, false, true, .bytes count⟩

theorem pageRequest_framing_agrees :
    (∃ request, parseRequest pageRequest = .ok request) ∧ requestFrame pageRequest = .complete ∧
    (∃ error, parseRequest (pageRequest.take 20) = .error error) ∧
    (∃ error, parseRequest (pageRequest ++ [0]) = .error error) ∧
    readOneRequest true [calmTurn 34, calmTurn 0] (pageRequest ++ [0x47]) = some (.rejected (pageRequest ++ [0])) := by
  have parsed : (parseRequest pageRequest).toOption.isSome = true := by decide
  obtain ⟨request, found⟩ : ∃ request, parseRequest pageRequest = .ok request := by
    cases same : parseRequest pageRequest with
    | error error => simp [same, Except.toOption] at parsed
    | ok request => exact ⟨request, rfl⟩
  have complete := framing_agrees_with_parsing.1 pageRequest request found
  have short := framing_agrees_with_parsing.2.1 (pageRequest.take 20) (.inr (by decide))
  have behind := framing_agrees_with_parsing.2.2.1 pageRequest complete
  exact ⟨⟨request, found⟩, complete, short, behind, by decide⟩

/-! ## Fragmentation -/

/-- How a request is cut into reads does not matter, and what is read as complete is the
only complete prefix of the stream. -/
theorem reader_independent_of_fragmentation :
    (∀ raw, requestFrame raw = .complete →
      (∀ front, front <+: raw → front ≠ raw → requestFrame front = .incomplete) ∧
      ∀ (turns : List ReadTurn) (last : ReadTurn), (∀ turn ∈ turns ++ [last], turn.Calm) →
        raw.length ≤ (turns.map ReadTurn.room).sum →
        readOneRequest true (turns ++ [last]) raw = some (.complete raw)) ∧
    ∀ (deadlineFits : Bool) (turns : List ReadTurn) (stream request : Bytes),
      readOneRequest deadlineFits turns stream = some (.complete request) →
        request <+: stream ∧ requestFrame request = .complete ∧
        ∀ front, front <+: stream → requestFrame front = .complete → front = request := by
  constructor
  · intro raw complete
    constructor
    · intro front inside proper
      have shorter : front.length < raw.length := by
        have bound := inside.length_le
        have lengths : front.length ≠ raw.length := fun same => proper (inside.eq_of_length same)
        omega
      rw [List.prefix_iff_eq_take.mp inside]
      exact requestFrame_take complete shorter
    · intro turns last calm room
      exact @readLoop_calm turns last [] raw complete calm room
  · intro deadlineFits turns stream request returned
    obtain ⟨buffer, inside, complete, same⟩ := readOneRequest_judged returned
    subst same
    refine ⟨inside, complete, ?_⟩
    intro front other framed
    rcases List.prefix_or_prefix_of_prefix other inside with shorter | longer
    · exact requestFrame_prefix_unique shorter framed complete
    · exact (requestFrame_prefix_unique longer complete framed).symm

theorem pageRequest_fragmented :
    requestFrame (pageRequest.take 34) = .incomplete ∧
    readOneRequest true [calmTurn 29, calmTurn 3, calmTurn 40, calmTurn 0] pageRequest = some (.complete pageRequest) ∧
    ∀ front, front <+: pageRequest → requestFrame front = .complete → front = pageRequest := by
  have complete : requestFrame pageRequest = .complete := by decide
  have cut := reader_independent_of_fragmentation.1 pageRequest complete
  have read := cut.2 [calmTurn 29, calmTurn 3, calmTurn 40] (calmTurn 0) (by simp [ReadTurn.Calm, calmTurn])
    (by decide)
  have unique := (reader_independent_of_fragmentation.2 true _ pageRequest pageRequest read).2.2
  exact ⟨cut.1 (pageRequest.take 34) (List.take_prefix 34 pageRequest) (by decide), read, unique⟩

end PlayTogether.Web
