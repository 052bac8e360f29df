import PlayTogether.Web.Request

/-! Framing and parsing agree. A buffer that parses is one the framing test takes for
complete, and the framing test changes its answer only once while a buffer grows. -/

namespace PlayTogether.Web
open PlayTogether.Library

/-- The head ends at a position and announces a body of some length, and the bytes are
exactly that head and that body. -/
structure Framed (raw : Bytes) (headEnd length : Nat) : Prop where
  found : findSubslice blankLine raw = some headEnd
  headFits : headEnd ≤ maxHeaderBytes
  announced : frameHead (raw.take headEnd) = some length
  fits : headEnd + 4 + length ≤ maxRequestBytes
  whole : raw.length = headEnd + 4 + length

theorem requestFrame_complete_iff {raw : Bytes} :
    requestFrame raw = .complete ↔ ∃ headEnd length, Framed raw headEnd length := by
  unfold requestFrame
  constructor
  · intro complete
    split at complete
    · cases complete
    · split at complete
      · split at complete <;> cases complete
      · rename_i headEnd found
        split at complete
        · cases complete
        · split at complete
          · cases complete
          · rename_i length announced
            split at complete
            · cases complete
            · split at complete
              · cases complete
              · rename_i same
                exact ⟨headEnd, length, found, by omega, announced, by omega, Nat.compare_eq_eq.mp same⟩
              · cases complete
  · intro framed
    obtain ⟨headEnd, length, found, headFits, announced, fits, size⟩ := framed
    have total : ¬raw.length > maxRequestBytes := by omega
    have head : ¬headEnd > maxHeaderBytes := by omega
    have whole : ¬headEnd + 4 + length > maxRequestBytes := by omega
    have same : compare raw.length (headEnd + 4 + length) = .eq := Nat.compare_eq_eq.mpr size
    rw [if_neg total, found]
    simp only [if_neg head, announced, if_neg whole, same]

/-- Before its last byte a complete request is incomplete. -/
theorem requestFrame_take {raw : Bytes} (complete : requestFrame raw = .complete) {count : Nat}
    (cut : count < raw.length) : requestFrame (raw.take count) = .incomplete := by
  obtain ⟨headEnd, length, found, headFits, announced, fits, size⟩ := requestFrame_complete_iff.mp complete
  have cutSize : (raw.take count).length = count := by
    rw [List.length_take]
    omega
  have total : ¬(raw.take count).length > maxRequestBytes := by omega
  unfold requestFrame
  rw [if_neg total]
  by_cases inHead : count < headEnd + 4
  · have small : ¬(raw.take count).length > maxHeaderBytes + 4 := by omega
    rw [findSubslice_take_short found inHead]
    exact if_neg small
  · have seen : findSubslice blankLine (raw.take count) = some headEnd := by
      apply findSubslice_take_long found (by decide)
      change headEnd + 4 ≤ count
      omega
    have sameHead : (raw.take count).take headEnd = raw.take headEnd := by
      rw [List.take_take]
      congr 1
      omega
    have head : ¬headEnd > maxHeaderBytes := by omega
    have whole : ¬headEnd + 4 + length > maxRequestBytes := by omega
    have less : compare (raw.take count).length (headEnd + 4 + length) = .lt := by
      rw [Nat.compare_eq_lt]
      omega
    rw [seen]
    simp only [if_neg head, sameHead, announced, if_neg whole, less]

/-- Two prefixes of one stream are not both complete unless they are equal. -/
theorem requestFrame_prefix_unique {left right : Bytes} (inside : left <+: right)
    (leftComplete : requestFrame left = .complete) (rightComplete : requestFrame right = .complete) :
    left = right := by
  by_contra different
  have shorter : left.length < right.length := by
    have bound := inside.length_le
    have lengths : left.length ≠ right.length := fun same => different (inside.eq_of_length same)
    omega
  have unfinished := requestFrame_take rightComplete shorter
  rw [← List.prefix_iff_eq_take.mp inside, leftComplete] at unfinished
  cases unfinished

/-! ## A parsed request is a framed one -/

/-- What a successful parse has checked. -/
structure Parsed (raw : Bytes) (request : ParsedRequest) (headEnd : Nat) : Prop where
  found : findSubslice blankLine raw = some headEnd
  headFits : headEnd ≤ maxHeaderBytes
  head : parseHead (raw.take headEnd) = .ok (request.method, request.target, request.headers)
  body : request.body = raw.drop (headEnd + 4)
  announced : parseBody request.method (request.headers.get (ascii "content-length")) request.body =
    .ok request.contentLength

theorem parseRequest_ok {raw : Bytes} {request : ParsedRequest} (parsed : parseRequest raw = .ok request) :
    ∃ headEnd, Parsed raw request headEnd := by
  unfold parseRequest at parsed
  split at parsed
  · cases parsed
  · rename_i headEnd found
    split at parsed
    · cases parsed
    · split at parsed
      · cases parsed
      · rename_i method target headers head
        dsimp only at parsed
        split at parsed
        · cases parsed
        · rename_i contentLength announced
          cases parsed
          exact ⟨headEnd, found, by omega, head, rfl, announced⟩

/-- What a successful parse of the head has checked. -/
structure ParsedHead (head : Bytes) (method : Method) (target : Bytes) (headers : HeaderMap)
    (methodText : Bytes) (lines : List Bytes) : Prop where
  utf8 : validUtf8 head = true
  cut : ∃ requestLine, splitCrlf head = requestLine :: lines ∧
    requestLine.splitOn 0x20 = [methodText, target, ascii "HTTP/1.1"]
  named : methodText.all isTchar = true
  method : method = methodOf methodText
  target : validTarget target = true
  fields : readHeaders (loweredField isPrintable) maxHeaderCount .empty lines = some headers
  allowed : ∀ name ∈ forbiddenHeaders, headers.get name = none

theorem parseRequestLine_ok {line target : Bytes} {method : Method}
    (parsed : parseRequestLine line = .ok (method, target)) :
    ∃ methodText, line.splitOn 0x20 = [methodText, target, ascii "HTTP/1.1"] ∧ methodText.all isTchar = true ∧
      method = methodOf methodText ∧ validTarget target = true := by
  unfold parseRequestLine at parsed
  split at parsed
  · rename_i methodText sentTarget version parts
    split at parsed
    · cases parsed
    · by_cases current : version = ascii "HTTP/1.1"
      · rw [if_neg (not_not.mpr current)] at parsed
        cases token : methodText.all isTchar with
        | false => simp [token] at parsed
        | true =>
          cases valid : validTarget sentTarget with
          | false => simp [token, valid] at parsed
          | true =>
            simp only [token, valid, Bool.not_true, Bool.false_eq_true, if_false, Except.ok.injEq,
              Prod.mk.injEq] at parsed
            obtain ⟨named, same⟩ := parsed
            exact ⟨methodText, by rw [parts, same, current], token, named.symm, by rw [← same, valid]⟩
      · rw [if_pos current] at parsed
        cases parsed
  · cases parsed

theorem parseHead_ok {head target : Bytes} {method : Method} {headers : HeaderMap}
    (parsed : parseHead head = .ok (method, target, headers)) :
    ∃ methodText lines, ParsedHead head method target headers methodText lines := by
  unfold parseHead at parsed
  split at parsed
  · cases parsed
  · cases utf8 : validUtf8 head with
    | false => simp [utf8] at parsed
    | true =>
      simp only [utf8, Bool.not_true, Bool.false_eq_true, if_false] at parsed
      split at parsed
      · cases parsed
      · rename_i requestLine lines cut
        split at parsed
        · cases parsed
        · rename_i sentMethod sentTarget first
          obtain ⟨methodText, parts, token, named, valid⟩ := parseRequestLine_ok first
          split at parsed
          · cases parsed
          · rename_i read fields
            split at parsed
            · cases parsed
            · rename_i free
              cases parsed
              refine ⟨methodText, lines, utf8, ⟨requestLine, cut, parts⟩, token, named, valid, fields, ?_⟩
              intro name forbidden
              by_contra present
              apply free
              rw [List.any_eq_true]
              exact ⟨name, forbidden, Option.isSome_iff_ne_none.mpr present⟩

theorem parseContentLength_bound {method : Method} {value body : Bytes} {contentLength : Option Nat}
    (parsed : parseBody method (some value) body = .ok contentLength) :
    ∃ length, parseContentLength value = .ok length ∧ length ≤ maxBodyBytes ∧ body.length = length ∧
      contentLength = some length := by
  unfold parseBody at parsed
  dsimp only at parsed
  split at parsed
  · cases parsed
  · rename_i length read
    split at parsed
    · cases parsed
    · split at parsed
      · cases parsed
      · split at parsed
        · cases parsed
        · cases parsed
          exact ⟨length, read, by omega, by omega, rfl⟩

theorem parseBody_none {method : Method} {body : Bytes} {contentLength : Option Nat}
    (parsed : parseBody method none body = .ok contentLength) :
    method ≠ .post ∧ body = [] ∧ contentLength = none := by
  unfold parseBody at parsed
  by_cases post : method = .post
  · simp [post] at parsed
  · by_cases empty : body = []
    · simp [post, empty] at parsed
      exact ⟨post, empty, parsed.symm⟩
    · simp [post, empty] at parsed

/-- The framing loop reads the content length that the header map holds. -/
theorem frameHeaders_of_fields {lines : List Bytes} {fields : List (Bytes × Bytes)} (before : Option Nat)
    (spelled : lines.mapM (loweredField isPrintable) = some fields) (distinct : (fields.map Prod.fst).Nodup)
    (untransferred : ascii "transfer-encoding" ∉ fields.map Prod.fst)
    (length : ∀ value, (ascii "content-length", value) ∈ fields →
      before = none ∧ ∃ length, parseContentLength value = .ok length ∧ length ≤ maxBodyBytes) :
    lines.foldlM frameHeader before = some (match fields.lookup (ascii "content-length") with
      | none => before
      | some value => (parseContentLength value).toOption) := by
  induction lines generalizing fields before with
  | nil =>
    cases spelled
    rfl
  | cons line rest ih =>
    obtain ⟨⟨lowered, value⟩, others, read, restSpelled, whole⟩ := mapM_cons_eq_some.mp spelled
    obtain ⟨name, field, same⟩ := loweredField_eq_some.mp read
    subst whole same
    rw [List.map_cons, List.nodup_cons] at distinct
    rw [List.map_cons, List.mem_cons, not_or] at untransferred
    have plain : ¬eqIgnoreAsciiCase name (ascii "transfer-encoding") = true := by
      rw [eqIgnoreAsciiCase_lowered (by decide)]
      exact Ne.symm untransferred.1
    have step : (line :: rest).foldlM frameHeader before =
        (frameHeader before line).bind fun next => rest.foldlM frameHeader next := List.foldlM_cons
    rw [step, frameHeader, field]
    simp only [if_neg plain]
    by_cases named : asciiLower name = ascii "content-length"
    · obtain ⟨empty, announced, parsed, fits⟩ := length value (by simp [named])
      have absent : ∀ value, (ascii "content-length", value) ∉ others := by
        intro other inside
        exact distinct.1 (List.mem_map.mpr ⟨_, inside, named.symm⟩)
      have unlisted : others.lookup (ascii "content-length") = none := by
        rw [List.lookup_eq_none_iff]
        intro entry inside
        rw [bne_iff_ne]
        intro key
        exact absent entry.2 (by rwa [key])
      have small : ¬announced > maxBodyBytes := by omega
      have inner := ih (some announced) restSpelled distinct.2 untransferred.2
        fun other inside => absurd inside (absent other)
      rw [unlisted] at inner
      simp only [(eqIgnoreAsciiCase_lowered (by decide)).mpr named, if_true, empty, Option.isSome_none,
        Bool.false_eq_true, if_false, parsed, if_neg small, Option.bind_some, inner, List.lookup_cons, named,
        beq_self_eq_true, Except.toOption]
    · have other : ¬eqIgnoreAsciiCase name (ascii "content-length") = true := by
        rwa [eqIgnoreAsciiCase_lowered (by decide)]
      have unnamed : (ascii "content-length" == asciiLower name) = false := by
        rw [beq_eq_false_iff_ne]
        exact Ne.symm named
      have inner := ih before restSpelled distinct.2 untransferred.2
        fun value inside => length value (List.mem_cons_of_mem _ inside)
      simp only [if_neg other, Option.bind_some, inner, List.lookup_cons, unnamed]

theorem methodOf_post {text : Bytes} : methodOf text = .post ↔ text = ascii "POST" := by
  unfold methodOf
  by_cases isGet : text = ascii "GET"
  · subst isGet
    decide
  · rw [if_neg isGet]
    by_cases isPost : text = ascii "POST"
    · simp [isPost]
    · simp [isPost]

/-- The framing test reads the same body length as the parser. -/
theorem frameHead_of_parsed {head body target : Bytes} {method : Method} {headers : HeaderMap}
    {contentLength : Option Nat} (parsed : parseHead head = .ok (method, target, headers))
    (announced : parseBody method (headers.get (ascii "content-length")) body = .ok contentLength) :
    frameHead head = some body.length ∧ body.length ≤ maxBodyBytes := by
  obtain ⟨methodText, lines, utf8, ⟨requestLine, cut, parts⟩, _, named, _, fields, allowed⟩ := parseHead_ok parsed
  obtain ⟨_, entries, spelled, whole⟩ := readHeaders_eq_some.mp fields
  have same : headers.entries = entries := whole
  have distinct := headers.distinct
  have untransferred : ascii "transfer-encoding" ∉ headers.entries.map Prod.fst := by
    rw [← HeaderMap.get_eq_none]
    exact allowed (ascii "transfer-encoding") (by simp [forbiddenHeaders])
  have found (value : Bytes) (inside : (ascii "content-length", value) ∈ headers.entries) :
      ∃ length, parseContentLength value = .ok length ∧ length ≤ maxBodyBytes := by
    rw [HeaderMap.get_eq_some.mpr inside] at announced
    obtain ⟨length, read, fits, _⟩ := parseContentLength_bound announced
    exact ⟨length, read, fits⟩
  rw [← same] at spelled
  have framed := frameHeaders_of_fields none spelled distinct untransferred
    fun value inside => ⟨rfl, found value inside⟩
  unfold frameHead
  simp only [utf8, Bool.not_true, Bool.false_eq_true, if_false, cut, parts, framed]
  unfold HeaderMap.get at announced
  cases stored : headers.entries.lookup (ascii "content-length") with
  | none =>
    rw [stored] at announced
    obtain ⟨notPost, empty, _⟩ := parseBody_none announced
    have text : methodText ≠ ascii "POST" := by
      intro post
      exact notPost (named.trans (methodOf_post.mpr post))
    simp [text, empty]
  | some value =>
    rw [stored] at announced
    obtain ⟨length, read, fits, size, _⟩ := parseContentLength_bound announced
    simp only [read, Except.toOption, Option.isNone_some, Bool.false_eq_true, and_false, if_false,
      Option.getD_some, Option.some.injEq]
    omega

/-- A buffer that parses is complete. -/
theorem requestFrame_of_parseRequest {raw : Bytes} {request : ParsedRequest}
    (parsed : parseRequest raw = .ok request) : requestFrame raw = .complete := by
  obtain ⟨headEnd, found, headFits, head, body, announced⟩ := parseRequest_ok parsed
  obtain ⟨length, fits⟩ := frameHead_of_parsed head announced
  have bound : headEnd + 4 ≤ raw.length := findSubslice_bound found
  have size : request.body.length = raw.length - (headEnd + 4) := by rw [body, List.length_drop]
  have limit : maxRequestBytes = maxHeaderBytes + 4 + maxBodyBytes := rfl
  rw [requestFrame_complete_iff]
  exact ⟨headEnd, request.body.length, found, headFits, length, by omega, by omega⟩

/-- One byte behind a complete request makes it unparseable. -/
theorem parseRequest_behind_complete {raw : Bytes} (complete : requestFrame raw = .complete) (byte : UInt8)
    (request : ParsedRequest) : parseRequest (raw ++ [byte]) ≠ .ok request := by
  intro parsed
  have longer := requestFrame_of_parseRequest parsed
  have same := requestFrame_prefix_unique (List.prefix_append raw [byte]) complete longer
  simp at same

end PlayTogether.Web
