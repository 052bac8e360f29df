import PlayTogether.Legacy.GattSession

/-! The bounded buffer answers every wait as the whole text would. The reader forgets the
front of the output, and a command holds an offset into all of it. -/

namespace PlayTogether.Legacy
open PlayTogether.Library

/-! ## The whole text -/

/-- A session with all the text it received, and what of it came since the last command was
issued. -/
structure Tracked where
  running : Running
  received : Text
  since : Text

namespace Tracked
variable (characters : Characters) (redactions : List Text)

def new : Tracked := ⟨.new, [], []⟩

/-- The text that a step adds. -/
def heard : SessionEvent → Text
  | .output chunk => decodeReplace chunk
  | _ => []

/-- A command is issued when none is in progress. -/
def issues (self : Tracked) : SessionEvent → Bool
  | .issue _ _ => self.running.command.isNone
  | _ => false

def step (self : Tracked) (event : SessionEvent) : Tracked :=
  ⟨(self.running.step characters redactions event).1, self.received ++ heard event,
    if self.issues event then [] else self.since ++ heard event⟩

def run (events : List SessionEvent) : Tracked := events.foldl (step characters redactions) new

end Tracked

/-- What a wait would decide that had all the text since its command before it. -/
def unboundedWait (characters : Characters) (redactions : List Text) (pattern : Pattern) (running expired : Bool)
    (since : Text) : Decision :=
  judge characters pattern since (strip (redact characters redactions (lastChars 600 since))) running expired

/-! ## The buffer -/

/-- The buffer holds the end of the text, and lost the front only when full. -/
structure Keeps (session : GattSession) (received : Text) : Prop where
  total : session.bufferOffset + session.buffer.length = received.length
  suffix : session.buffer <:+ received
  bounded : session.buffer.length ≤ maxBufferChars
  full : session.bufferOffset = 0 ∨ session.buffer.length = maxBufferChars

section Keeps
variable {characters : Characters} {redactions : List Text} {session : GattSession} {received : Text}

theorem keeps_new : Keeps .new [] := ⟨rfl, List.suffix_refl [], Nat.zero_le _, .inl rfl⟩

theorem Keeps.flag {connected : Bool} (keeps : Keeps session received) :
    Keeps { session with connected := connected } received :=
  ⟨keeps.total, keeps.suffix, keeps.bounded, keeps.full⟩

theorem Keeps.readOutput (keeps : Keeps session received) (chunk : Bytes) :
    Keeps (session.readOutput characters chunk) (received ++ decodeReplace chunk) := by
  obtain ⟨total, ⟨lost, rfl⟩, bounded, full⟩ := keeps
  rw [List.length_append] at total
  have sizes : (session.buffer ++ decodeReplace chunk).length = session.buffer.length + (decodeReplace chunk).length :=
    List.length_append
  have behind : session.buffer ++ decodeReplace chunk <:+ lost ++ session.buffer ++ decodeReplace chunk :=
    ⟨lost, (List.append_assoc lost session.buffer (decodeReplace chunk)).symm⟩
  dsimp only [GattSession.readOutput]
  split
  · rename_i exceeds
    have dropped : ((session.buffer ++ decodeReplace chunk).drop
        ((session.buffer ++ decodeReplace chunk).length - maxBufferChars)).length = maxBufferChars := by
      rw [List.length_drop]
      omega
    have kept : (session.buffer ++ decodeReplace chunk).drop
        ((session.buffer ++ decodeReplace chunk).length - maxBufferChars) <:+
          lost ++ session.buffer ++ decodeReplace chunk := (List.drop_suffix _ _).trans behind
    constructor <;> dsimp only
    · rw [dropped, sizes, List.length_append, List.length_append]
      omega
    · exact kept
    · exact Nat.le_of_eq dropped
    · exact .inr dropped
  · rename_i fits
    refine ⟨?_, behind, Nat.le_of_not_lt fits, ?_⟩
    · dsimp only
      rw [sizes, List.length_append, List.length_append]
      omega
    · dsimp only
      rcases full with none_lost | full
      · exact .inl none_lost
      · right
        omega

/-- What the buffer holds from an offset on is the text from there on. -/
theorem Keeps.drop {start : Nat} (keeps : Keeps session received) (held : session.bufferOffset ≤ start) :
    session.buffer.drop (start - session.bufferOffset) = received.drop start := by
  obtain ⟨lost, rfl⟩ := keeps.suffix
  have total := keeps.total
  rw [List.length_append] at total
  have offset : session.bufferOffset = lost.length := by omega
  rw [offset] at held ⊢
  rw [List.drop_append, List.drop_of_length_le held, List.nil_append]

/-- An offset is lost when more text came behind it than the buffer holds. -/
theorem Keeps.lost {start : Nat} (keeps : Keeps session received) (passed : start ≤ received.length) :
    start < session.bufferOffset ↔ maxBufferChars < (received.drop start).length := by
  obtain ⟨total, _, bounded, full⟩ := keeps
  rw [List.length_drop]
  omega

theorem Keeps.wait {start : Nat} (keeps : Keeps session received) (passed : start ≤ received.length) (pattern : Pattern)
    (running expired : Bool) :
    wait characters redactions pattern start running expired session =
      if maxBufferChars < (received.drop start).length then .raised .tooMuchOutput
      else unboundedWait characters redactions pattern running expired (received.drop start) := by
  unfold Legacy.wait
  by_cases gone : start < session.bufferOffset
  · rw [if_pos gone, if_pos ((keeps.lost passed).mp gone)]
  · rw [if_neg gone, if_neg (mt (keeps.lost passed).mpr gone), GattSession.tail, keeps.drop (Nat.le_of_not_lt gone)]
    rfl

end Keeps

/-! ## Runs -/

/-- The step touches at most the flag of the session, and starts no command. -/
def Untouched (before after : Running) : Prop :=
  (∃ connected, after.session = { before.session with connected := connected }) ∧
    ∀ command ∈ after.command, ∃ earlier ∈ before.command, command.start = earlier.start

section Untouched
variable {characters : Characters} {redactions : List Text} {running : Running}

theorem untouched_refl : Untouched running running := ⟨⟨running.session.connected, rfl⟩, fun command present => ⟨command, present, rfl⟩⟩

theorem untouched_fail {connecting : Bool} {error : SessionError} : Untouched running (running.fail connecting error).1 := by
  constructor
  · cases connecting with
    | true => exact ⟨false, rfl⟩
    | false => exact ⟨running.session.connected, rfl⟩
  · intro command present
    cases present

theorem untouched_poll {alive expired : Bool} : Untouched running (running.poll characters redactions alive expired).1 := by
  unfold Running.poll
  split
  · exact untouched_refl
  · rename_i command present
    split
    · exact untouched_refl
    · exact untouched_fail
    · split
      · refine ⟨⟨running.session.connected, rfl⟩, ?_⟩
        intro after same
        cases same
        exact ⟨command, present, rfl⟩
      · exact ⟨⟨running.session.connected, rfl⟩, fun after none_left => nomatch none_left⟩

end Untouched

namespace Tracked
variable {characters : Characters} {redactions : List Text} {tracked : Tracked}

/-- The invariant of a run. -/
structure Holds (tracked : Tracked) : Prop where
  keeps : Keeps tracked.running.session tracked.received
  command : ∀ command ∈ tracked.running.command,
    command.start ≤ tracked.received.length ∧ tracked.since = tracked.received.drop command.start

theorem holds_new : new.Holds := ⟨keeps_new, fun _ none_left => nomatch none_left⟩

theorem holds_untouched {next : Running} (holds : tracked.Holds) (untouched : Untouched tracked.running next) :
    Holds ⟨next, tracked.received, tracked.since⟩ := by
  obtain ⟨⟨connected, session⟩, command⟩ := untouched
  constructor
  · dsimp only
    rw [session]
    exact holds.keeps.flag
  · intro after present
    obtain ⟨before, present, same⟩ := command after present
    rw [same]
    exact holds.command before present

/-- Output is added to both ends of the comparison. -/
theorem holds_output (holds : tracked.Holds) (chunk : Bytes) :
    (tracked.step characters redactions (.output chunk)).Holds := by
  refine ⟨holds.keeps.readOutput chunk, ?_⟩
  intro command present
  obtain ⟨passed, same⟩ := holds.command command present
  constructor
  · exact passed.trans (List.sublist_append_left _ _).length_le
  · change tracked.since ++ decodeReplace chunk = (tracked.received ++ decodeReplace chunk).drop command.start
    rw [List.drop_append_of_le_length passed, same]

/-- A command starts behind all the text received. -/
theorem holds_issue (holds : tracked.Holds) (command : Command) (written : Bool) :
    (tracked.step characters redactions (.issue command written)).Holds := by
  obtain ⟨⟨session, busy⟩, received, since⟩ := tracked
  unfold step
  dsimp only [heard]
  rw [List.append_nil, List.append_nil]
  cases busy with
  | some other => exact holds
  | none =>
    have total := holds.keeps.total
    cases written with
    | true =>
      refine ⟨holds.keeps, ?_⟩
      intro started same
      cases same
      change session.bufferOffset + session.buffer.length ≤ received.length ∧
        [] = received.drop (session.bufferOffset + session.buffer.length)
      have whole : session.bufferOffset + session.buffer.length = received.length := total
      rw [whole, List.drop_length]
      exact ⟨Nat.le_refl _, rfl⟩
    | false =>
      have untouched : Untouched ⟨session, none⟩ (Running.fail command.connecting .pipeFailed ⟨session, none⟩).1 := untouched_fail
      exact ⟨(holds_untouched holds untouched).keeps, fun started none_left => nomatch none_left⟩

theorem holds_step (holds : tracked.Holds) (event : SessionEvent) : (tracked.step characters redactions event).Holds := by
  have still {next : Running} (untouched : Untouched tracked.running next) :
      Holds ⟨next, tracked.received ++ [], tracked.since ++ []⟩ := by
    rw [List.append_nil, List.append_nil]
    exact holds_untouched holds untouched
  cases event with
  | output chunk => exact holds_output holds chunk
  | issue command written => exact holds_issue holds command written
  | ended => exact still ⟨⟨false, rfl⟩, untouched_refl.2⟩
  | connecting => exact still ⟨⟨true, rfl⟩, untouched_refl.2⟩
  | poll alive expired => exact still untouched_poll

theorem holds_run (events : List SessionEvent) : (run characters redactions events).Holds := by
  have from_here {tracked : Tracked} (holds : tracked.Holds) :
      (events.foldl (step characters redactions) tracked).Holds := by
    induction events generalizing tracked with
    | nil => exact holds
    | cons event events ih => exact ih (holds_step holds event)
  exact from_here holds_new

/-- A wait looks at what came since its command, unless that is more than the buffer holds. -/
theorem wait_run {events : List SessionEvent} {waiting : Waiting}
    (present : (run characters redactions events).running.command = some waiting) (pattern : Pattern)
    (alive expired : Bool) :
    wait characters redactions pattern waiting.start alive expired (run characters redactions events).running.session =
      if maxBufferChars < (run characters redactions events).since.length then .raised .tooMuchOutput
      else unboundedWait characters redactions pattern alive expired (run characters redactions events).since := by
  have holds : (run characters redactions events).Holds := holds_run events
  obtain ⟨passed, same⟩ := holds.command waiting present
  rw [same]
  exact holds.keeps.wait passed pattern alive expired

end Tracked

/-! ## Refinement -/

section Refinement
variable (characters : Characters) (redactions : List Text)

/-- The buffer is the end of the text, and a wait looks at exactly what came since its
command, unless that is more than the buffer holds. -/
structure Refines (tracked : Tracked) : Prop where
  total : tracked.running.session.bufferOffset + tracked.running.session.buffer.length = tracked.received.length
  suffix : tracked.running.session.buffer <:+ tracked.received
  since : ∀ command ∈ tracked.running.command, tracked.received = tracked.received.take command.start ++ tracked.since
  decides : ∀ command ∈ tracked.running.command, ∀ pattern running expired,
    wait characters redactions pattern command.start running expired tracked.running.session =
      if maxBufferChars < tracked.since.length then .raised .tooMuchOutput
      else unboundedWait characters redactions pattern running expired tracked.since
  own : ∀ command ∈ tracked.running.command, ∀ pattern running expired found,
    wait characters redactions pattern command.start running expired tracked.running.session = .matched found →
      found <:+: tracked.since

theorem search_within {pattern : Pattern} {text found : Text}
    (matched : search characters.isWord pattern text = some found) : found <:+: text := by
  obtain ⟨front, after, rfl, _⟩ := searchFrom_sound matched
  exact ⟨front, after, (List.append_assoc front found after)⟩

theorem unboundedWait_within {pattern : Pattern} {running expired : Bool} {since found : Text}
    (matched : unboundedWait characters redactions pattern running expired since = .matched found) :
    found <:+: since := by
  unfold unboundedWait judge at matched
  split at matched
  · rename_i here
    cases matched
    exact search_within characters here
  · split at matched
    · cases matched
    · split at matched
      · cases matched
      · split at matched <;> cases matched

/-- In every run, the bounded buffer decides as the unbounded one. -/
theorem reply_buffer_refines (events : List SessionEvent) :
    Refines characters redactions (Tracked.run characters redactions events) := by
  have holds : (Tracked.run characters redactions events).Holds := Tracked.holds_run events
  constructor
  · exact holds.keeps.total
  · exact holds.keeps.suffix
  · intro command present
    rw [(holds.command command present).2, List.take_append_drop]
  · intro command present pattern running expired
    exact Tracked.wait_run present pattern running expired
  · intro command present pattern running expired found matched
    rw [Tracked.wait_run present] at matched
    split at matched
    · cases matched
    · exact unboundedWait_within characters redactions matched

end Refinement

end PlayTogether.Legacy
