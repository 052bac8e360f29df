import PlayTogether.Gena.Http

/-! How a message is cut into reads makes no difference to the reader: it takes the one front
of the stream that ends where its own head announces. -/

namespace PlayTogether.Gena
open PlayTogether.Library

set_option maxRecDepth 20000

def readBufferBytes : Nat := 4096

/-- What consecutive calls return from a stream: each some bytes, not more than fit. -/
structure Fragments (stream : Bytes) (reads : List Bytes) : Prop where
  joined : reads.flatten <+: stream
  filled : ∀ chunk ∈ reads, chunk ≠ []
  fits : ∀ chunk ∈ reads, chunk.length ≤ readBufferBytes

section Reader
variable {kind : MessageKind} {contentLengthRequired : Bool}

/-- Bytes that end exactly where their head announces, and the message in them. -/
def Frames (kind : MessageKind) (contentLengthRequired : Bool) (bytes : Bytes) (message : HttpMessage) : Prop :=
  ∃ index head, findSubslice blankLine bytes = some index ∧ index ≤ maxHeaderBytes ∧
    parseHttpHead (bytes.take index) kind contentLengthRequired = some head ∧
    bytes.length = index + 4 + head.contentLength ∧
    message = ⟨head.startLine, head.headers, bytes.drop (index + 4)⟩

theorem take_of_append {front later : Bytes} {index : Nat} (found : findSubslice blankLine front = some index) :
    (front ++ later).take index = front.take index := by
  have bound := findSubslice_bound found
  exact List.take_append_of_le_length (by omega)

/-- No two fronts of one stream are messages. -/
theorem Frames.unique {stream left right : Bytes} {first second : HttpMessage}
    (inLeft : left <+: stream) (inRight : right <+: stream) (one : Frames kind contentLengthRequired left first)
    (other : Frames kind contentLengthRequired right second) : left = right ∧ first = second := by
  obtain ⟨index, head, found, _, parsed, length, rfl⟩ := one
  obtain ⟨index', head', found', _, parsed', length', rfl⟩ := other
  obtain ⟨later, rfl⟩ := inLeft
  obtain ⟨later', same⟩ := inRight
  have position := findSubslice_append found later
  rw [← same, findSubslice_append found' later'] at position
  obtain rfl := Option.some.inj position
  have heads : right.take index' = left.take index' := by
    rw [← take_of_append found', same, take_of_append found]
  rw [heads, parsed] at parsed'
  obtain rfl := Option.some.inj parsed'
  have equal : left = right := (List.append_inj same (by omega)).1.symm
  rw [equal]
  exact ⟨rfl, rfl⟩

/-! ## What is read -/

theorem readBody_spec {total : Nat} {reads : List Bytes} {bytes whole : Bytes}
    (read : readBody total reads bytes = some whole) :
    ∃ used later, reads = used ++ later ∧ whole = bytes ++ used.flatten ∧ whole.length = total ∧
      ∀ others, readBody total (used ++ others) bytes = some whole := by
  induction reads generalizing bytes with
  | nil =>
    simp only [readBody] at read
    split at read
    next full =>
      obtain rfl := Option.some.inj read
      refine ⟨[], [], rfl, (List.append_nil _).symm, full, fun others => ?_⟩
      cases others with
      | nil => simp [readBody, full]
      | cons chunk others => simp [readBody, full]
    next => cases read
  | cons chunk reads ih =>
    simp only [readBody] at read
    split at read
    next => cases read
    next notOver =>
      split at read
      next full =>
        obtain rfl := Option.some.inj read
        refine ⟨[], chunk :: reads, rfl, (List.append_nil _).symm, full, fun others => ?_⟩
        cases others with
        | nil => simp [readBody, full]
        | cons chunk others => simp [readBody, full]
      next short =>
        split at read
        next => cases read
        next filled =>
          obtain ⟨used, later, rfl, joined, length, alike⟩ := ih read
          refine ⟨chunk :: used, later, rfl, ?_, length, fun others => ?_⟩
          · rw [joined, List.flatten_cons, List.append_assoc]
          · rw [List.cons_append, readBody, if_neg notOver, if_neg short, if_neg filled]
            exact alike others

/-- A message that is returned is the front that the used reads make up, whatever follows. -/
theorem readHead_spec {reads : List Bytes} {before : Bytes} {message : HttpMessage}
    (read : readHead kind contentLengthRequired reads before = some message) :
    ∃ used later, reads = used ++ later ∧ Frames kind contentLengthRequired (before ++ used.flatten) message ∧
      ∀ others, readHead kind contentLengthRequired (used ++ others) before = some message := by
  induction reads generalizing before with
  | nil => cases read
  | cons chunk reads ih =>
    simp only [readHead] at read
    split at read
    next => cases read
    next filled =>
      split at read
      next => cases read
      next bounded =>
        split at read
        next index found =>
          split at read
          next => cases read
          next small =>
            obtain ⟨head, parsed, read⟩ := Option.bind_eq_some_iff.mp read
            obtain ⟨whole, body, read⟩ := Option.bind_eq_some_iff.mp read
            obtain rfl := Option.some.inj read
            obtain ⟨used, later, rfl, rfl, length, alike⟩ := readBody_spec body
            refine ⟨chunk :: used, later, rfl, ?_, fun others => ?_⟩
            · rw [List.flatten_cons, ← List.append_assoc]
              refine ⟨index, head, findSubslice_append found _, by omega, ?_, length, rfl⟩
              rw [take_of_append found]
              exact parsed
            · simp only [List.cons_append, readHead, if_neg filled, if_neg bounded, found, if_neg small, parsed,
                Option.bind_eq_bind, Option.bind_some, alike]
        next missing =>
          split at read
          next => cases read
          next short =>
            obtain ⟨used, later, rfl, frames, alike⟩ := ih read
            refine ⟨chunk :: used, later, rfl, ?_, fun others => ?_⟩
            · rw [List.flatten_cons, ← List.append_assoc]
              exact frames
            · simp only [List.cons_append, readHead, if_neg filled, if_neg bounded, missing, if_neg short]
              exact alike others

/-! ## What is accepted -/

theorem readBody_complete {total : Nat} {reads : List Bytes} {bytes : Bytes} (filled : ∀ chunk ∈ reads, chunk ≠ [])
    (length : (bytes ++ reads.flatten).length = total) : readBody total reads bytes = some (bytes ++ reads.flatten) := by
  induction reads generalizing bytes with
  | nil =>
    rw [List.flatten_nil, List.append_nil] at length ⊢
    exact if_pos length
  | cons chunk reads ih =>
    have some_bytes := filled chunk List.mem_cons_self
    have positive := List.length_pos_of_ne_nil some_bytes
    have whole : bytes ++ (chunk :: reads).flatten = bytes ++ chunk ++ reads.flatten := by
      rw [List.flatten_cons, List.append_assoc]
    rw [whole] at length ⊢
    have lengths := length
    rw [List.length_append, List.length_append] at lengths
    have open_end : ¬chunk.isEmpty = true := fun empty => some_bytes (List.isEmpty_iff.mp empty)
    rw [readBody, if_neg (by omega), if_neg (by omega), if_neg open_end]
    exact ih (fun other member => filled other (List.mem_cons_of_mem chunk member)) length

theorem parseHttpHead_inv {head : Bytes} {parsed : HttpHead}
    (accepted : parseHttpHead head kind contentLengthRequired = some parsed) :
    parsed.contentLength ≤ maxBodyBytes ∧ ∃ first lines, splitCrlf head = first :: lines ∧
      readHeaders (loweredField isFieldByte) maxHeaderCount .empty lines = some parsed.headers := by
  unfold parseHttpHead at accepted
  split at accepted
  next => cases accepted
  next =>
    split at accepted
    next => cases accepted
    next first lines cut =>
      obtain ⟨startLine, _, accepted⟩ := Option.bind_eq_some_iff.mp accepted
      obtain ⟨headers, read, accepted⟩ := Option.bind_eq_some_iff.mp accepted
      split at accepted
      next => cases accepted
      next =>
        obtain ⟨contentLength, _, accepted⟩ := Option.bind_eq_some_iff.mp accepted
        split at accepted
        next => cases accepted
        next small =>
          obtain rfl := Option.some.inj accepted
          exact ⟨Nat.le_of_not_lt small, first, lines, cut, read⟩

/-- Reads that make up a message are read as it, as long as its head has not yet ended. -/
theorem readHead_complete {reads : List Bytes} {before : Bytes} {message : HttpMessage}
    (filled : ∀ chunk ∈ reads, chunk ≠ []) (open_head : findSubslice blankLine before = none)
    (frames : Frames kind contentLengthRequired (before ++ reads.flatten) message) :
    readHead kind contentLengthRequired reads before = some message := by
  induction reads generalizing before with
  | nil =>
    obtain ⟨index, head, found, _⟩ := frames
    rw [List.flatten_nil, List.append_nil, open_head] at found
    cases found
  | cons chunk reads ih =>
    have others : ∀ chunk ∈ reads, chunk ≠ [] := fun other member => filled other (List.mem_cons_of_mem chunk member)
    have some_bytes : ¬chunk.isEmpty = true := fun empty => filled chunk List.mem_cons_self (List.isEmpty_iff.mp empty)
    rw [List.flatten_cons, ← List.append_assoc] at frames
    have whole := frames
    obtain ⟨index, head, found, small, parsed, length, rfl⟩ := frames
    have announced := (parseHttpHead_inv parsed).1
    have lengths := length
    rw [List.length_append] at lengths
    rw [readHead, if_neg some_bytes]
    dsimp only
    rw [if_neg (by omega)]
    cases ended : findSubslice blankLine (before ++ chunk) with
    | some position =>
      have same := findSubslice_append ended reads.flatten
      rw [found] at same
      obtain rfl := Option.some.inj same
      rw [take_of_append ended] at parsed
      have body := readBody_complete others length
      simp only [if_neg (Nat.not_lt_of_le small), parsed, body, Option.bind_eq_bind, Option.bind_some]
    | none =>
      have short : (before ++ chunk).length < index + blankLine.length := by
        by_contra long
        have early := findSubslice_take_long found (by decide) (Nat.le_of_not_lt long)
        rw [List.take_left, ended] at early
        cases early
      have four : blankLine.length = 4 := rfl
      dsimp only
      rw [if_neg (by omega)]
      exact ih others ended whole

/-- An accepted head has no empty line, so the first blank line is behind it. -/
theorem parseHttpHead_ends {head : Bytes} {parsed : HttpHead}
    (accepted : parseHttpHead head kind contentLengthRequired = some parsed) (body : Bytes) :
    findSubslice blankLine (head ++ (blankLine ++ body)) = some head.length := by
  obtain ⟨_, first, lines, cut, read⟩ := parseHttpHead_inv accepted
  obtain ⟨_, fields, spelled, _⟩ := readHeaders_eq_some.mp read
  apply findSubslice_lines
  rw [cut, List.tail_cons]
  intro line member empty
  obtain ⟨field, taken⟩ := mapM_member spelled member
  rw [empty] at taken
  cases taken

theorem readHttpMessage_complete {head body : Bytes} {parsed : HttpHead} {reads : List Bytes}
    (accepted : parseHttpHead head kind contentLengthRequired = some parsed) (small : head.length ≤ maxHeaderBytes)
    (announced : body.length = parsed.contentLength) (filled : ∀ chunk ∈ reads, chunk ≠ [])
    (whole : reads.flatten = head ++ (blankLine ++ body)) :
    readHttpMessage reads kind contentLengthRequired = some ⟨parsed.startLine, parsed.headers, body⟩ := by
  apply readHead_complete filled rfl
  rw [List.nil_append, whole]
  refine ⟨head.length, parsed, parseHttpHead_ends accepted body, small, ?_, ?_, ?_⟩
  · rw [List.take_left]
    exact accepted
  · rw [List.length_append, List.length_append, ← announced, Nat.add_assoc]
    rfl
  · rw [← List.drop_drop, List.drop_left]
    rfl

/-- What a successful run has read: the shortest front of the stream that ends where its head
announces, and no read behind it. -/
structure Consumed (kind : MessageKind) (contentLengthRequired : Bool) (stream : Bytes) (reads : List Bytes)
    (front : Bytes) (message : HttpMessage) : Prop where
  inside : front <+: stream
  framed : Frames kind contentLengthRequired front message
  shortest : ∀ other message, other <+: stream → Frames kind contentLengthRequired other message →
    front.length ≤ other.length
  used : ∃ used later, reads = used ++ later ∧ used.flatten = front ∧
    ∀ others, readHttpMessage (used ++ others) kind contentLengthRequired = some message

theorem readHttpMessage_consumed {stream : Bytes} {reads : List Bytes} {message : HttpMessage}
    (fragments : Fragments stream reads) (read : readHttpMessage reads kind contentLengthRequired = some message) :
    ∃ front, Consumed kind contentLengthRequired stream reads front message := by
  obtain ⟨used, later, rfl, framed, alike⟩ := readHead_spec read
  rw [List.nil_append] at framed
  have inside : used.flatten <+: stream := by
    refine List.IsPrefix.trans ?_ fragments.joined
    rw [List.flatten_append]
    exact List.prefix_append _ _
  refine ⟨used.flatten, inside, framed, fun other message' within frames => ?_, used, later, rfl, rfl, alike⟩
  rw [(framed.unique inside within frames).1]

/-- A message is read the same in whatever pieces it comes, and two runs on one stream that
succeed have read the same front of it. -/
theorem reading_ignores_fragmentation (kind : MessageKind) (contentLengthRequired : Bool) :
    (∀ (head body : Bytes) (parsed : HttpHead) (reads : List Bytes),
      parseHttpHead head kind contentLengthRequired = some parsed → head.length ≤ maxHeaderBytes →
      body.length = parsed.contentLength → Fragments (head ++ (blankLine ++ body)) reads →
      reads.flatten = head ++ (blankLine ++ body) →
      readHttpMessage reads kind contentLengthRequired = some ⟨parsed.startLine, parsed.headers, body⟩) ∧
    ∀ (stream : Bytes) (left right : List Bytes) (first second : HttpMessage),
      Fragments stream left → Fragments stream right →
      readHttpMessage left kind contentLengthRequired = some first →
      readHttpMessage right kind contentLengthRequired = some second →
      first = second ∧ ∃ front, Consumed kind contentLengthRequired stream left front first ∧
        Consumed kind contentLengthRequired stream right front second := by
  constructor
  · intro head body parsed reads accepted small announced fragments whole
    exact readHttpMessage_complete accepted small announced fragments.filled whole
  · intro stream left right first second inLeft inRight one other
    obtain ⟨front, consumed⟩ := readHttpMessage_consumed inLeft one
    obtain ⟨front', consumed'⟩ := readHttpMessage_consumed inRight other
    obtain ⟨same, equal⟩ := consumed.framed.unique consumed.inside consumed'.inside consumed'.framed
    subst same
    exact ⟨equal, front, consumed, consumed'⟩

end Reader

/-! An answer whose blank line, or whose body, is cut in two. -/

def answerHead : Bytes := ascii "HTTP/1.1 200 OK" ++ crlf ++ ascii "Content-Length: 2"

def cutHead : List Bytes := [answerHead ++ [0x0d, 0x0a, 0x0d], [0x0a], ascii "ok"]

def cutBody : List Bytes := [answerHead ++ blankLine ++ ascii "o", ascii "k"]

theorem cut_answer_is_read : ∃ parsed front message, parseHttpHead answerHead .response false = some parsed ∧
    readHttpMessage cutHead .response false = some ⟨parsed.startLine, parsed.headers, ascii "ok"⟩ ∧
    Consumed .response false (answerHead ++ (blankLine ++ ascii "ok")) cutHead front message ∧
    Consumed .response false (answerHead ++ (blankLine ++ ascii "ok")) cutBody front message := by
  obtain ⟨parsed, accepted⟩ : ∃ parsed, parseHttpHead answerHead .response false = some parsed :=
    Option.isSome_iff_exists.mp (by decide)
  have announced : (parseHttpHead answerHead .response false).map HttpHead.contentLength = some 2 := by decide
  rw [accepted] at announced
  have length : (ascii "ok").length = parsed.contentLength := (Option.some.inj announced).symm
  have fragments : Fragments (answerHead ++ (blankLine ++ ascii "ok")) cutHead :=
    ⟨by decide, by decide, by decide⟩
  have others : Fragments (answerHead ++ (blankLine ++ ascii "ok")) cutBody :=
    ⟨by decide, by decide, by decide⟩
  have read (reads : List Bytes) (inside : Fragments (answerHead ++ (blankLine ++ ascii "ok")) reads) :=
    (reading_ignores_fragmentation .response false).1 answerHead (ascii "ok") parsed reads accepted (by decide)
      length inside
  have first := read cutHead fragments (by decide)
  have second := read cutBody others (by decide)
  obtain ⟨_, front, consumed, consumed'⟩ := (reading_ignores_fragmentation .response false).2 _ cutHead cutBody _ _
    fragments others first second
  exact ⟨parsed, front, _, accepted, first, consumed, consumed'⟩

end PlayTogether.Gena
