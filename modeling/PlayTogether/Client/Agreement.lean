import PlayTogether.Client.Wire
import PlayTogether.Web.Gate

/-! The client and the service agree on the wire: what one writes the other reads. -/

namespace PlayTogether.Client
open PlayTogether.Library PlayTogether.Controller PlayTogether.Web

set_option maxRecDepth 20000

/-! ## The service reads a written request -/

theorem validTarget_bytes {target : Bytes} (valid : validTarget target = true) :
    target ≠ [] ∧ ∀ byte ∈ target, isPrintable byte = true ∧ byte ≠ 0x20 := by
  have graphic : ∀ byte : UInt8, (0x21 ≤ byte && byte ≤ 0x7e) = true → isPrintable byte = true ∧ byte ≠ 0x20 := by
    apply forall_byte
    decide
  simp only [validTarget, Bool.not_eq_true', Bool.or_eq_false_iff, bne_eq_false_iff_eq, List.any_eq_false] at valid
  constructor
  · intro empty
    rw [empty] at valid
    simp at valid
  · intro byte member
    apply graphic
    simpa using valid.2 byte member

theorem splitOn_requestLine {methodText target : Bytes} (token : ∀ byte ∈ methodText, isTchar byte = true)
    (valid : validTarget target = true) :
    (methodText ++ [0x20] ++ target ++ ascii " HTTP/1.1").splitOn 0x20 =
      [methodText, target, ascii "HTTP/1.1"] := by
  have noSpace : 0x20 ∉ methodText := by
    intro space
    exact absurd (token _ space) (by decide)
  have noSpaceTarget : 0x20 ∉ target := by
    intro space
    exact ((validTarget_bytes valid).2 _ space).2 rfl
  have shape : methodText ++ [0x20] ++ target ++ ascii " HTTP/1.1" =
      methodText ++ 0x20 :: (target ++ 0x20 :: ascii "HTTP/1.1") := by
    simp [ascii]
  rw [shape, List.splitOn_append_cons_self_of_not_mem noSpace, List.splitOn_append_cons_self_of_not_mem noSpaceTarget,
    List.splitOn_eq_singleton (by decide)]

section Request
variable {methodText target body : Bytes} {headers : List (Bytes × Bytes)} {stored : HeaderMap}
  {contentLength : Option Nat}

theorem parseRequestLine_written (named : methodText ≠ []) (token : ∀ byte ∈ methodText, isTchar byte = true)
    (valid : validTarget target = true) :
    parseRequestLine (methodText ++ [0x20] ++ target ++ ascii " HTTP/1.1") = .ok (methodOf methodText, target) := by
  have filled : (methodText.isEmpty || target.isEmpty || (ascii "HTTP/1.1").isEmpty) = false := by
    simp [named, (validTarget_bytes valid).1, ascii]
  have tokens : methodText.all isTchar = true := List.all_eq_true.mpr token
  unfold parseRequestLine
  rw [splitOn_requestLine token valid]
  simp [filled, tokens, valid]

/-- The strict parser takes back a message of distinct, allowed fields within its limits. -/
theorem parseRequest_written (named : methodText ≠ []) (token : ∀ byte ∈ methodText, isTchar byte = true)
    (valid : validTarget target = true) (sendable : ∀ field ∈ headers, Sendable field)
    (few : headers.length ≤ Web.maxHeaderCount) (entries : stored.entries = lowerNames headers)
    (allowed : ∀ name ∈ forbiddenHeaders, stored.get name = none)
    (headFits : (headText (methodText ++ [0x20] ++ target ++ ascii " HTTP/1.1") headers).length ≤ Web.maxHeaderBytes)
    (announced : parseBody (methodOf methodText) (stored.get (ascii "content-length")) body = .ok contentLength) :
    parseRequest (writeMessage (methodText ++ [0x20] ++ target ++ ascii " HTTP/1.1") headers body) =
      .ok ⟨methodOf methodText, target, stored, body, contentLength⟩ := by
  have printable : ∀ byte ∈ methodText ++ [0x20] ++ target ++ ascii " HTTP/1.1", isPrintable byte = true := by
    have version : ∀ byte ∈ ascii " HTTP/1.1", isPrintable byte = true := List.all_eq_true.mp (by decide)
    intro byte member
    simp only [List.mem_append, List.mem_singleton] at member
    rcases member with ((inMethod | space) | inTarget) | inVersion
    · exact (isTchar_printable (token byte inMethod)).1
    · rw [space]
      decide
    · exact ((validTarget_bytes valid).2 byte inTarget).1
    · exact version byte inVersion
  have headBytes : ¬((headText (methodText ++ [0x20] ++ target ++ ascii " HTTP/1.1") headers).any
      fun byte => !(byte == 0x09 || isPrintable byte || byte == 0x0d || byte == 0x0a)) = true := by
    rw [List.any_eq_true, not_exists]
    intro byte bad
    rcases headText_bytes printable sendable bad.1 with shown | rfl | rfl
    · simp [shown] at bad
    · simp at bad
    · simp at bad
  have free : ¬(forbiddenHeaders.any stored.containsKey) = true := by
    rw [List.any_eq_true, not_exists]
    intro name bad
    rw [HeaderMap.containsKey, allowed name bad.1] at bad
    exact absurd bad.2 (by simp)
  have head : parseHead (headText (methodText ++ [0x20] ++ target ++ ascii " HTTP/1.1") headers) =
      .ok (methodOf methodText, target, stored) := by
    have fields := readHeaders_headerLines (fun entry member => loweredField_headerLine (sendable entry member))
      few entries
    unfold parseHead
    rw [if_neg headBytes]
    simp only [headText_utf8 printable sendable, splitCrlf_headText printable sendable,
      parseRequestLine_written named token valid, fields, if_neg free, Bool.not_true, Bool.false_eq_true, if_false]
  have short : ¬(headText (methodText ++ [0x20] ++ target ++ ascii " HTTP/1.1") headers).length > Web.maxHeaderBytes :=
    Nat.not_lt.mpr headFits
  unfold parseRequest
  simp only [findSubslice_writeMessage printable sendable, if_neg short, take_writeMessage, head, drop_writeMessage,
    announced]

end Request

/-! ## The requests of the client -/

namespace LocalServiceClient
variable (self : LocalServiceClient)

def fixedHeaders (body : Bytes) : List (Bytes × Bytes) :=
  [(ascii "Host", self.authority),
   (ascii "Accept", ascii "application/json"),
   (ascii "Accept-Encoding", ascii "identity"),
   (ascii "Connection", ascii "close"),
   (ascii "Content-Length", decimal body.length)]

theorem port_small : self.port.toNat < 2 ^ 16 := self.port.toNat_lt

theorem authority_graphic {byte : UInt8} (member : byte ∈ self.authority) : isGraphic byte = true := by
  have literal : ∀ byte ∈ ascii "127.0.0.1:", isGraphic byte = true := List.all_eq_true.mp (by decide)
  rcases List.mem_append.mp member with inHost | inPort
  · exact literal byte inHost
  · exact decimal_isGraphic inPort

theorem fixedHeaders_sendable (body : Bytes) : ∀ field ∈ self.fixedHeaders body, Sendable field := by
  intro field member
  simp only [fixedHeaders, List.mem_cons, List.not_mem_nil, or_false] at member
  rcases member with rfl | rfl | rfl | rfl | rfl
  · exact sendable_graphic (by decide) (by decide) fun _ => self.authority_graphic
  · decide
  · decide
  · decide
  · exact sendable_graphic (by decide) (by decide) fun _ => decimal_isGraphic

theorem mutationHeaders_sendable {csrf : Bytes} (minted : ∀ byte ∈ csrf, isLowerHex byte = true) (revision : Nat) :
    ∀ field ∈ self.mutationHeaders csrf revision, Sendable field := by
  have cookie : ∀ byte ∈ csrfCookieName ++ ascii "=", isGraphic byte = true := List.all_eq_true.mp (by decide)
  have scheme : ∀ byte ∈ ascii "http://", isGraphic byte = true := List.all_eq_true.mp (by decide)
  have token {byte : UInt8} (member : byte ∈ csrf) : isGraphic byte = true := isLowerHex_isGraphic (minted byte member)
  intro field member
  simp only [mutationHeaders, List.mem_cons, List.not_mem_nil, or_false] at member
  rcases member with rfl | rfl | rfl | rfl | rfl
  · apply sendable_graphic (by decide) (by decide)
    intro byte member
    rcases List.mem_append.mp member with inScheme | inAuthority
    · exact scheme byte inScheme
    · exact self.authority_graphic inAuthority
  · decide
  · apply sendable_graphic (by decide) (by decide)
    intro byte member
    simp only [List.mem_append, List.mem_singleton] at member
    rcases member with (quote | digit) | quote
    · rw [quote]
      decide
    · exact decimal_isGraphic digit
    · rw [quote]
      decide
  · exact sendable_graphic (by decide) (by decide) fun _ => token
  · apply sendable_graphic (by decide) (by decide)
    intro byte member
    rcases List.mem_append.mp member with inName | inToken
    · exact cookie byte inName
    · exact token inToken

/-- The fields of a request as the service stores them. -/
def storedFixed (body : Bytes) : HeaderMap where
  entries :=
    [(ascii "host", self.authority),
     (ascii "accept", ascii "application/json"),
     (ascii "accept-encoding", ascii "identity"),
     (ascii "connection", ascii "close"),
     (ascii "content-length", decimal body.length)]
  distinct := by
    simp only [List.map_cons, List.map_nil]
    decide

def storedMutation (csrf body : Bytes) (revision : Nat) : HeaderMap where
  entries :=
    [(ascii "host", self.authority),
     (ascii "accept", ascii "application/json"),
     (ascii "accept-encoding", ascii "identity"),
     (ascii "connection", ascii "close"),
     (ascii "content-length", decimal body.length),
     (ascii "origin", self.origin),
     (ascii "content-type", ascii "application/json"),
     (ascii "if-match", [0x22] ++ decimal revision ++ [0x22]),
     (ascii "x-csrf-token", csrf),
     (ascii "cookie", csrfCookieName ++ ascii "=" ++ csrf)]
  distinct := by
    simp only [List.map_cons, List.map_nil]
    decide

theorem parseContentLength_decimal {length : Nat} (small : length ≤ maxBodyBytes) :
    parseContentLength (decimal length) = .ok length := by
  have range : maxBodyBytes ≤ usizeMax := by decide
  unfold parseContentLength
  rw [decimal_canonical, parseUnsigned_decimal (small.trans range)]
  rfl

theorem authority_length : self.authority.length ≤ 15 := by
  have small := self.port_small
  have digits : (decimal self.port.toNat).length ≤ 5 := decimal_length (by decide) (by omega)
  have host : (ascii "127.0.0.1:").length = 10 := rfl
  rw [authority, List.length_append]
  omega

/-- A request with no more than the fixed headers is read back. -/
theorem parseRequest_get {path : String} (valid : validTarget (ascii path) = true)
    (short : (ascii path).length ≤ 64) :
    parseRequest (writeMessage (ascii "GET" ++ [0x20] ++ ascii path ++ ascii " HTTP/1.1") (self.fixedHeaders []) []) =
      .ok ⟨.get, ascii path, self.storedFixed [], [], some 0⟩ := by
  have sent : (self.storedFixed []).get (ascii "content-length") = some (decimal 0) :=
    HeaderMap.get_eq_some.mpr (by simp [storedFixed])
  apply parseRequest_written (by decide) (List.all_eq_true.mp (by decide)) valid (self.fixedHeaders_sendable []) (show 5 ≤ 64 by decide) rfl
  · intro name forbidden
    rw [HeaderMap.get_eq_none]
    simp only [storedFixed, List.map_cons, List.map_nil]
    revert name
    decide
  · have host := self.authority_length
    have zero : (decimal 0).length = 1 := rfl
    rw [headText_length]
    simp only [ascii, List.length_map] at short
    simp only [fixedHeaders, ascii, Web.maxHeaderBytes, List.map_cons, List.map_nil, List.sum_cons, List.sum_nil,
      List.length_append, List.length_map, List.length_cons, List.length_nil]
    simp
    omega
  · rw [sent]
    rfl

theorem clientBody_length (mutation : WebMutation) : (clientBody mutation).length ≤ 26 := by
  cases mutation <;> decide

/-- The POST of a mutation is read back. -/
theorem parseRequest_mutation {csrf : Bytes} (minted : ∀ byte ∈ csrf, isLowerHex byte = true)
    (tokenLength : csrf.length = 64) {revision : Nat} (range : revision < 2 ^ 64) (mutation : WebMutation) :
    parseRequest (writeMessage (ascii "POST" ++ [0x20] ++ ascii (clientPath mutation) ++ ascii " HTTP/1.1")
        (self.fixedHeaders (clientBody mutation) ++ self.mutationHeaders csrf revision) (clientBody mutation)) =
      .ok ⟨.post, mutationPath mutation, self.storedMutation csrf (clientBody mutation) revision,
        clientBody mutation, some (clientBody mutation).length⟩ := by
  have path : ascii (clientPath mutation) = mutationPath mutation := by cases mutation <;> rfl
  have bodyLength := clientBody_length mutation
  have limit : maxBodyBytes = 4096 := rfl
  have sent : (self.storedMutation csrf (clientBody mutation) revision).get (ascii "content-length") =
      some (decimal (clientBody mutation).length) := HeaderMap.get_eq_some.mpr (by simp [storedMutation])
  rw [path]
  apply parseRequest_written (by decide) (List.all_eq_true.mp (by decide))
  · cases mutation <;> decide
  · intro field member
    rcases List.mem_append.mp member with fixed | added
    · exact self.fixedHeaders_sendable _ field fixed
    · exact self.mutationHeaders_sendable minted revision field added
  · change 10 ≤ 64
    decide
  · rfl
  · intro name forbidden
    rw [HeaderMap.get_eq_none]
    simp only [storedMutation, List.map_cons, List.map_nil]
    revert name
    decide
  · have host := self.authority_length
    have number : (decimal revision).length ≤ 20 := decimal_length (by decide) (by omega)
    have announced : (decimal (clientBody mutation).length).length ≤ 2 := decimal_length (by decide) (by omega)
    have target : (mutationPath mutation).length ≤ 22 := by cases mutation <;> decide
    rw [headText_length]
    simp only [fixedHeaders, mutationHeaders, origin, csrfCookieName, ascii, Web.maxHeaderBytes, List.map_append,
      List.sum_append, List.map_cons, List.map_nil, List.sum_cons, List.sum_nil, List.length_append, List.length_map,
      List.length_cons, List.length_nil]
    simp
    omega
  · have post : methodOf (ascii "POST") = .post := by decide
    have fits : ¬(clientBody mutation).length > maxBodyBytes := by omega
    rw [sent, post]
    unfold parseBody
    simp only [parseContentLength_decimal (show (clientBody mutation).length ≤ maxBodyBytes by omega), if_neg fits]
    simp

end LocalServiceClient

/-! ## The token and the cookie -/

theorem csrfToken_isLowerHex (security : WebSecurity) {byte : UInt8} (member : byte ∈ security.csrfToken) :
    isLowerHex byte = true := by
  obtain ⟨token, _, minted⟩ := security.minted
  rw [minted] at member
  exact hex_isLowerHex member

theorem csrfToken_length (security : WebSecurity) : security.csrfToken.length = 64 := by
  obtain ⟨token, _, minted⟩ := security.minted
  rw [minted, hex_length, token.length_toList]

theorem lowerHex_clean {text : Bytes} (digits : ∀ byte ∈ text, isLowerHex byte = true) :
    0x3b ∉ text ∧ 0x3d ∉ text ∧ ∀ byte ∈ text, isBlank byte = false := by
  refine ⟨?_, ?_, fun byte member => (isGraphic_printable (isLowerHex_isGraphic (digits byte member))).2⟩
  · intro semicolon
    exact absurd (digits _ semicolon) (by decide)
  · intro equals
    exact absurd (digits _ equals) (by decide)

/-- The cookie the client sends back holds the token under the expected name, alone. -/
theorem cookies_sent {csrf : Bytes} (digits : ∀ byte ∈ csrf, isLowerHex byte = true) :
    cookies (csrfCookieName ++ ascii "=" ++ csrf) = some [(csrfCookie, csrf)] := by
  obtain ⟨semicolon, _, blank⟩ := lowerHex_clean digits
  have front : 0x3b ∉ csrfCookieName ++ ascii "=" := by decide
  have solid : ∀ byte ∈ csrfCookieName ++ ascii "=", isGraphic byte = true := List.all_eq_true.mp (by decide)
  have single : 0x3b ∉ csrfCookieName ++ ascii "=" ++ csrf := by
    intro member
    rcases List.mem_append.mp member with name | token
    · exact front name
    · exact semicolon token
  have trimmed : trimBlank (csrfCookieName ++ ascii "=" ++ csrf) = csrfCookieName ++ 0x3d :: csrf := by
    have shape : csrfCookieName ++ ascii "=" ++ csrf = csrfCookieName ++ 0x3d :: csrf := by simp [ascii]
    rw [← shape]
    apply trimmed_of_noBlank
    intro byte member
    rcases List.mem_append.mp member with name | token
    · exact (isGraphic_printable (solid byte name)).2
    · exact blank byte token
  unfold cookies
  rw [List.splitOn_eq_singleton single, mapM_cons_eq_some]
  refine ⟨(csrfCookie, csrf), [], ?_, rfl, rfl⟩
  rw [cookieField, trimmed]
  exact splitOnce_append (by decide) csrf

theorem csrfValues_sent (csrf : Bytes) : csrfValues [(csrfCookie, csrf)] = [csrf] := by
  rw [csrfValues_cons, if_pos rfl]
  rfl

namespace LocalServiceClient
variable (self : LocalServiceClient)

theorem authority_spelled {security : WebSecurity} (ports : self.port = security.bindAddr.port) :
    Authority self.authority security.port ⟨.ipv4Loopback, security.port⟩ := by
  have same : self.port.toNat = security.port := by rw [ports, WebSecurity.port]
  have positive : 0 < security.port := by
    apply Nat.pos_of_ne_zero
    intro zero
    exact security.numbered (UInt16.toNat_inj.mp zero)
  have small : security.port < 2 ^ 16 := security.bindAddr.port.toNat_lt
  refine ⟨some security.port, ⟨ascii "127.0.0.1", rfl, ?_, positive, small⟩, .inr ⟨rfl, rfl⟩⟩
  rw [authority, same]
  simp [ascii]

/-- What the client writes for a mutation carries everything the service asks for. -/
theorem mutation_allowed {serde : Serde} {security : WebSecurity} (ports : self.port = security.bindAddr.port)
    {mutation : WebMutation} (reads : serde.fromSlice (clientBody mutation) = some (mutationJson mutation))
    {revision : Nat} (range : revision < 2 ^ 64) :
    MutationAllowed serde security
      (writeMessage (ascii "POST" ++ [0x20] ++ ascii (clientPath mutation) ++ ascii " HTTP/1.1")
        (self.fixedHeaders (clientBody mutation) ++ self.mutationHeaders security.csrfToken revision)
        (clientBody mutation))
      ⟨.post, mutationPath mutation, self.storedMutation security.csrfToken (clientBody mutation) revision,
        clientBody mutation, some (clientBody mutation).length⟩ revision mutation := by
  have digits : ∀ byte ∈ security.csrfToken, isLowerHex byte = true := fun _ => csrfToken_isLowerHex security
  have parsed := self.parseRequest_mutation digits (csrfToken_length security) range mutation
  have spelled := self.authority_spelled ports
  exact
    { parsed
      line := requestLine_of_parsed parsed rfl
      method := rfl
      target := rfl
      authority := ⟨_, self.authority, self.authority, HeaderMap.get_eq_some.mpr (by simp [storedMutation]), spelled,
        HeaderMap.get_eq_some.mpr (by simp [storedMutation, origin]), spelled⟩
      contentType := HeaderMap.get_eq_some.mpr (by simp [storedMutation])
      body := reads
      csrfHeader := HeaderMap.get_eq_some.mpr (by simp [storedMutation])
      csrfCookie := ⟨csrfCookieName ++ ascii "=" ++ security.csrfToken, _,
        HeaderMap.get_eq_some.mpr (by simp [storedMutation]), cookies_sent digits, csrfValues_sent _⟩
      ifMatch := HeaderMap.get_eq_some.mpr (by simp [storedMutation])
      range }

end LocalServiceClient

/-! ## The client reads a written response -/

theorem validHeaderValue_of_sendable {field : Bytes × Bytes} (sendable : Sendable field) :
    validHeaderValue field.2 = true := by
  rw [validHeaderValue, List.all_eq_true]
  intro byte member
  simp [sendable.printable byte member]

theorem validHeaderName_of_sendable {field : Bytes × Bytes} (sendable : Sendable field) :
    validHeaderName field.1 = true := by
  have token : field.1.all isTchar = true := List.all_eq_true.mpr sendable.token
  simp [validHeaderName, sendable.named, token]

theorem responseField_headerLine {field : Bytes × Bytes} (sendable : Sendable field) :
    responseField (headerLine field) = some (asciiLower field.1, field.2) := by
  have name : validHeaderName (asciiLower field.1) = true := by
    simp only [validHeaderName, asciiLower, Bool.and_eq_true, Bool.not_eq_true', List.all_map, List.all_eq_true]
    constructor
    · simpa using sendable.named
    · intro byte member
      exact isTchar_toLower (sendable.token byte member)
  unfold responseField
  rw [headerLine_notBlank sendable, splitOnce_headerLine sendable]
  simp [trimBlank_blank sendable.trimmed, name, validHeaderValue_of_sendable sendable]

/-- A response the client's parser takes back. -/
structure Readable (response : HttpResponse) : Prop where
  threeDigits : 100 ≤ response.status ∧ response.status < 1000
  sendable : ∀ field ∈ response.headers, Sendable field
  few : response.headers.length ≤ maxHeaderCount
  distinct : ((lowerNames response.headers).map Prod.fst).Nodup
  plain : ascii "transfer-encoding" ∉ (lowerNames response.headers).map Prod.fst
  announced : (ascii "content-length", decimal response.body.length) ∈ lowerNames response.headers

def statusLine (response : HttpResponse) : Bytes :=
  ascii "HTTP/1.1 " ++ decimal response.status ++ [0x20] ++ reasonPhrase response.status

/-- Within the limits of the client. -/
structure Fits (response : HttpResponse) : Prop where
  head : (headText (statusLine response) response.headers).length ≤ maxHeaderBytes
  body : response.body.length ≤ maxResponseBytes

theorem toHttp1Bytes_eq (response : HttpResponse) :
    response.toHttp1Bytes = writeMessage (statusLine response) response.headers response.body := rfl

theorem reasonPhrase_printable (status : Nat) : ∀ byte ∈ reasonPhrase status, isPrintable byte = true := by
  rw [← List.all_eq_true]
  unfold reasonPhrase
  split <;> decide

theorem statusLine_printable (response : HttpResponse) : ∀ byte ∈ statusLine response, isPrintable byte = true := by
  have version : ∀ byte ∈ ascii "HTTP/1.1 ", isPrintable byte = true := List.all_eq_true.mp (by decide)
  intro byte member
  simp only [statusLine, List.mem_append, List.mem_singleton] at member
  rcases member with ((inVersion | digit) | space) | reason
  · exact version byte inVersion
  · exact (isGraphic_printable (decimal_isGraphic digit)).1
  · rw [space]
    decide
  · exact reasonPhrase_printable response.status byte reason

theorem decimal_threeDigits {status : Nat} (low : 100 ≤ status) (high : status < 1000) :
    (decimal status).length = 3 := by
  have upper : (decimal status).length ≤ 3 := decimal_length (by decide) (by omega)
  have positive : status ≠ 0 := by omega
  have lower : ¬(decimal status).length ≤ 2 := by
    unfold decimal
    rw [if_neg positive, List.length_map, List.length_reverse, Nat.digits_length_le_iff (by decide)]
    omega
  omega

theorem parseStatusLine_written {response : HttpResponse} (low : 100 ≤ response.status)
    (high : response.status < 1000) : parseStatusLine (statusLine response) = some response.status := by
  have shape : statusLine response =
      ascii "HTTP/1.1" ++ 0x20 :: (decimal response.status ++ 0x20 :: reasonPhrase response.status) := by
    simp [statusLine, ascii]
  have noSpace : 0x20 ∉ decimal response.status := by
    intro space
    exact absurd (decimal_isDigit space) (by decide)
  have digits : (decimal response.status).all isDigit = true :=
    List.all_eq_true.mpr fun _ member => decimal_isDigit member
  unfold parseStatusLine
  rw [shape, splitOnce_append (by decide)]
  dsimp only
  rw [splitOnce_append noSpace]
  simp only [decimal_threeDigits low high, digits, ne_eq, not_true_eq_false, if_false, decide_false, Bool.not_true,
    Bool.or_self, Bool.false_eq_true]
  exact parseUnsigned_decimal (by omega)

theorem parseResponse_written {response : HttpResponse} (readable : Readable response) (fits : Fits response) :
    parseResponse response.toHttp1Bytes =
      .ok ⟨response.status, ⟨lowerNames response.headers, readable.distinct⟩, response.body⟩ := by
  have printable := statusLine_printable response
  have sendable := readable.sendable
  have fields : readHeaders responseField maxHeaderCount .empty (response.headers.map headerLine) =
      some ⟨lowerNames response.headers, readable.distinct⟩ :=
    readHeaders_headerLines (fun entry member => responseField_headerLine (sendable entry member)) readable.few rfl
  have bytes : (headText (statusLine response) response.headers).all
      (fun byte => byte == 0x09 || byte == 0x0d || byte == 0x0a || isPrintable byte) = true := by
    rw [List.all_eq_true]
    intro byte member
    rcases headText_bytes printable sendable member with shown | rfl | rfl
    · simp [shown]
    · decide
    · decide
  have head : parseResponseHead (headText (statusLine response) response.headers) =
      some (response.status, ⟨lowerNames response.headers, readable.distinct⟩) := by
    unfold parseResponseHead
    simp only [headText_utf8 printable sendable, bytes, splitCrlf_headText printable sendable,
      parseStatusLine_written readable.threeDigits.1 readable.threeDigits.2, fields, Bool.not_true,
      Bool.false_eq_true, if_false, Option.map_some]
  have small : ¬(headText (statusLine response) response.headers).length > maxHeaderBytes := Nat.not_lt.mpr fits.head
  have plain : HeaderMap.containsKey ⟨lowerNames response.headers, readable.distinct⟩ (ascii "transfer-encoding") =
      false := by
    rw [HeaderMap.containsKey, HeaderMap.get_eq_none.mpr readable.plain]
    rfl
  have announced : HeaderMap.get ⟨lowerNames response.headers, readable.distinct⟩ (ascii "content-length") =
      some (decimal response.body.length) := HeaderMap.get_eq_some.mpr readable.announced
  have range : response.body.length ≤ usizeMax := fits.body.trans (by decide)
  have whole : ¬(response.body.length ≠ response.body.length ∨ response.body.length > maxResponseBytes) := by
    have limit := fits.body
    omega
  rw [toHttp1Bytes_eq]
  unfold parseResponse
  simp only [findSubslice_writeMessage printable sendable, if_neg small, take_writeMessage, head, plain,
    Bool.false_eq_true, if_false, announced, Option.bind_some, parseUnsigned_decimal range, drop_writeMessage,
    if_neg whole]

/-! ## Every response of the service is readable -/

/-- The responses the service builds. -/
inductive Emitted (serde : Serde) (pageHtml : Bytes) (security : WebSecurity) : HttpResponse → Prop where
  | page : Emitted serde pageHtml security (WebApp.pageResponse pageHtml security)
  | status (snapshot : StatusSnapshot) : Emitted serde pageHtml security (statusResponse serde snapshot)
  | readiness : Emitted serde pageHtml security (readinessResponse serde)
  | action (result : ControllerActionResult) : Emitted serde pageHtml security (actionResponse serde result)
  | error (error : RequestError) : Emitted serde pageHtml security (errorResponse serde error)

/-- The names of the fixed headers of a response, as the client stores them. -/
def responseNames : List Bytes :=
  [ascii "content-type", ascii "content-length", ascii "connection", ascii "cache-control", ascii "pragma",
   ascii "x-content-type-options", ascii "referrer-policy", ascii "content-security-policy", ascii "x-frame-options"]

theorem response_names (status : Nat) (contentType : String) (body : Bytes) (cspNonce : Option Bytes)
    (additional : List (Bytes × Bytes)) :
    (lowerNames (response status contentType body cspNonce additional).headers).map Prod.fst =
      responseNames ++ (lowerNames additional).map Prod.fst := rfl

/-- The policy behind the nonce. -/
def policyTail : Bytes :=
  ascii "'; connect-src 'self'; " ++ ascii "object-src 'none'; " ++ ascii "base-uri 'none'; " ++
    ascii "form-action 'self'; " ++ ascii "frame-ancestors 'none'"

theorem policyTail_last : policyTail.getLast? = some 0x27 := by decide

theorem policyTail_printable : ∀ byte ∈ policyTail, isPrintable byte = true := List.all_eq_true.mp (by decide)

theorem csp_sendable {cspNonce : Option Bytes} (digits : ∀ nonce ∈ cspNonce, ∀ byte ∈ nonce, isLowerHex byte = true) :
    Sendable (ascii "Content-Security-Policy", contentSecurityPolicy cspNonce) := by
  cases cspNonce with
  | none => decide
  | some nonce =>
    have front : ∀ byte ∈ ascii "default-src 'self'; script-src 'nonce-", isPrintable byte = true := List.all_eq_true.mp (by decide)
    have named : ascii "Content-Security-Policy" ≠ [] := by decide
    have token : ∀ byte ∈ ascii "Content-Security-Policy", isTchar byte = true := List.all_eq_true.mp (by decide)
    refine ⟨named, token, ?_, ?_⟩
    · apply trimmed_of_ends
      · intro byte first
        obtain rfl : byte = 0x64 := by
          cases first
          rfl
        decide
      · intro byte last
        rw [contentSecurityPolicy, List.getLast?_append] at last
        change policyTail.getLast?.or _ = some byte at last
        rw [policyTail_last] at last
        obtain rfl : 0x27 = byte := Option.some.inj last
        decide
    · intro byte member
      rcases List.mem_append.mp member with before | inBack
      · rcases List.mem_append.mp before with inFront | inNonce
        · exact front byte inFront
        · exact (isGraphic_printable (isLowerHex_isGraphic (digits nonce rfl byte inNonce))).1
      · exact policyTail_printable byte inBack

theorem response_readable {status : Nat} {contentType : String} {body : Bytes} {cspNonce : Option Bytes}
    {additional : List (Bytes × Bytes)} (low : 100 ≤ status) (high : status < 1000)
    (media : Sendable (ascii "Content-Type", ascii contentType))
    (digits : ∀ nonce ∈ cspNonce, ∀ byte ∈ nonce, isLowerHex byte = true)
    (sendable : ∀ field ∈ additional, Sendable field)
    (names : (lowerNames additional).map Prod.fst ∈ [[], [ascii "etag"], [ascii "set-cookie"]]) :
    Readable (response status contentType body cspNonce additional) := by
  have distinct : (responseNames ++ (lowerNames additional).map Prod.fst).Nodup ∧
      ascii "transfer-encoding" ∉ responseNames ++ (lowerNames additional).map Prod.fst ∧
      additional.length ≤ 1 := by
    have size : additional.length = ((lowerNames additional).map Prod.fst).length := by simp [lowerNames]
    rw [size]
    have all : ∀ names ∈ [[], [ascii "etag"], [ascii "set-cookie"]], (responseNames ++ names).Nodup ∧
        ascii "transfer-encoding" ∉ responseNames ++ names ∧ names.length ≤ 1 := by decide
    exact all _ names
  refine ⟨⟨low, high⟩, ?_, ?_, ?_, ?_, ?_⟩
  · intro field member
    simp only [response, List.mem_append, List.mem_cons, List.not_mem_nil, or_false] at member
    rcases member with (rfl | rfl | rfl | rfl | rfl | rfl | rfl | rfl | rfl) | added
    · exact media
    · exact sendable_graphic (by decide) (by decide) fun _ => decimal_isGraphic
    · decide
    · decide
    · decide
    · decide
    · decide
    · exact csp_sendable digits
    · decide
    · exact sendable field added
  · change additional.length + 9 ≤ 64
    omega
  · rw [response_names]
    exact distinct.1
  · rw [response_names]
    exact distinct.2.1
  · change _ ∈ (_, _) :: (ascii "content-length", decimal body.length) :: _
    exact List.mem_cons_of_mem _ List.mem_cons_self

theorem jsonResponse_readable {serde : Serde} {status : Nat} (low : 100 ≤ status) (high : status < 1000)
    (body : Json) (revision : Option Nat) : Readable (jsonResponse serde status body revision) := by
  have media : Sendable (ascii "Content-Type", ascii "application/json; charset=utf-8") := by decide
  cases revision with
  | none => exact response_readable low high media (by simp) (by simp) (by decide)
  | some revision =>
    apply response_readable low high media (by simp)
    · intro field member
      rw [List.mem_singleton.mp member]
      apply sendable_graphic (by decide) (by decide)
      intro byte inside
      simp only [List.mem_append, List.mem_singleton] at inside
      rcases inside with (quote | digit) | quote
      · rw [quote]
        decide
      · exact decimal_isGraphic digit
      · rw [quote]
        decide
    · change [ascii "etag"] ∈ _
      decide

/-- The cookie of the page. -/
def pageCookie (security : WebSecurity) : Bytes :=
  csrfCookie ++ ascii "=" ++ security.csrfToken ++ ascii "; Path=/; SameSite=Strict"

theorem pageCookie_sendable (security : WebSecurity) : Sendable (ascii "Set-Cookie", pageCookie security) := by
  have named : ascii "Set-Cookie" ≠ [] := by decide
  have token : ∀ byte ∈ ascii "Set-Cookie", isTchar byte = true := List.all_eq_true.mp (by decide)
  have front : ∀ byte ∈ csrfCookie ++ ascii "=", isPrintable byte = true := List.all_eq_true.mp (by decide)
  have back : ∀ byte ∈ ascii "; Path=/; SameSite=Strict", isPrintable byte = true := List.all_eq_true.mp (by decide)
  have ending : (ascii "; Path=/; SameSite=Strict").getLast? = some 0x74 := by decide
  refine ⟨named, token, ?_, ?_⟩
  · apply trimmed_of_ends
    · intro byte first
      obtain rfl : byte = 0x6a := by
        cases first
        rfl
      decide
    · intro byte last
      rw [pageCookie, List.getLast?_append, ending] at last
      obtain rfl : 0x74 = byte := Option.some.inj last
      decide
  · intro byte member
    rcases List.mem_append.mp member with inside | behind
    · rcases List.mem_append.mp inside with name | digit
      · exact front byte name
      · exact (isGraphic_printable (isLowerHex_isGraphic (csrfToken_isLowerHex security digit))).1
    · exact back byte behind

theorem pageResponse_readable (pageHtml : Bytes) (security : WebSecurity) :
    Readable (WebApp.pageResponse pageHtml security) := by
  apply response_readable (by decide) (by decide) (by decide)
  · intro nonce same byte member
    obtain rfl : security.csrfToken = nonce := Option.some.inj same
    exact csrfToken_isLowerHex security member
  · intro field member
    rw [List.mem_singleton.mp member]
    exact pageCookie_sendable security
  · change [ascii "set-cookie"] ∈ _
    decide

theorem emitted_readable {serde : Serde} {pageHtml : Bytes} {security : WebSecurity} {response : HttpResponse}
    (emitted : Emitted serde pageHtml security response) : Readable response := by
  cases emitted with
  | page => exact pageResponse_readable pageHtml security
  | status snapshot => exact jsonResponse_readable (by decide) (by decide) _ _
  | readiness => exact jsonResponse_readable (by decide) (by decide) _ _
  | action result => exact jsonResponse_readable (by decide) (by decide) _ _
  | error error => exact jsonResponse_readable (by cases error <;> decide) (by cases error <;> decide) _ _

section Handled
variable {A ε : Type}

theorem zoom_answered {α : Type} {p : Proc ε A α} {answer : α → Proc (WebEvent ε) (WebApp A) HttpResponse}
    {app : WebApp A} {response : HttpResponse}
    (answered : ((p.zoom WebApp.actorField .actor >>= answer) app).out = some response) :
    ∃ value app', (answer value app').out = some response := by
  rcases run : p app.actor with ⟨trace, actor, _ | value⟩
  · rw [zoom_bind_killed run] at answered
    cases answered
  · rw [zoom_bind_value run] at answered
    exact ⟨value, _, answered⟩

variable [WebActor A ε] {serde : Serde} {pageHtml raw : Bytes}

theorem routed_emitted {request : ParsedRequest} {app : WebApp A} {response : HttpResponse}
    (answered : (WebApp.routed serde pageHtml request app).out = some response) :
    Emitted serde pageHtml app.security response := by
  unfold WebApp.routed at answered
  cases planned : route request.method request.target with
  | page =>
    rw [planned] at answered
    cases answered
    exact .page
  | status =>
    rw [planned] at answered
    obtain ⟨snapshot, _, same⟩ := zoom_answered answered
    cases same
    exact .status snapshot
  | readiness =>
    rw [planned] at answered
    cases answered
    exact .readiness
  | mutation mutation rule =>
    rw [planned] at answered
    simp only [WebApp.mutationResponse, get_bind_run] at answered
    cases gate : mutationGate serde app.security request rule with
    | error error =>
      rw [gate] at answered
      cases answered
      exact .error error
    | ok revision =>
      rw [gate] at answered
      obtain ⟨result, _, same⟩ := zoom_answered answered
      cases result with
      | error conflict =>
        cases same
        exact .error .revisionConflict
      | ok result =>
        cases same
        exact .action result
  | notFound =>
    rw [planned] at answered
    cases answered
    exact .error .notFound
  | methodNotAllowed =>
    rw [planned] at answered
    cases answered
    exact .error .methodNotAllowed

/-- Whatever is sent, the answer is one of these responses. -/
theorem handle_emitted {app : WebApp A} {response : HttpResponse}
    (answered : (WebApp.handle serde pageHtml raw app).out = some response) :
    Emitted serde pageHtml app.security response := by
  unfold WebApp.handle at answered
  cases parsed : parseRequest raw with
  | error error =>
    rw [parsed] at answered
    cases answered
    exact .error error
  | ok request =>
    rw [parsed] at answered
    dsimp only at answered
    rw [get_bind_run] at answered
    cases accepted : (request.singleHeader "host").bind (LoopbackAuthority.parse · app.security.port) with
    | none =>
      rw [accepted] at answered
      cases answered
      exact .error .forbiddenHost
    | some host =>
      rw [accepted] at answered
      dsimp only at answered
      by_cases foreign : (request.singleHeader "origin").any (!originIsSame · host) = true
      · rw [if_pos foreign] at answered
        cases answered
        exact .error .forbiddenOrigin
      · rw [if_neg foreign] at answered
        exact routed_emitted answered

end Handled

/-- The client finds the server's token in the page. -/
theorem csrfCookie_page {pageHtml : Bytes} {security : WebSecurity}
    (fits : Fits (WebApp.pageResponse pageHtml security)) :
    ∃ response, parseResponse (WebApp.pageResponse pageHtml security).toHttp1Bytes = .ok response ∧
      LocalServiceClient.csrfCookie response = .ok security.csrfToken := by
  have digits : ∀ byte ∈ security.csrfToken, isLowerHex byte = true := fun _ => csrfToken_isLowerHex security
  obtain ⟨semicolon, equals, _⟩ := lowerHex_clean digits
  refine ⟨_, parseResponse_written (pageResponse_readable pageHtml security) fits, ?_⟩
  have stored : HeaderMap.get ⟨lowerNames (WebApp.pageResponse pageHtml security).headers,
      (pageResponse_readable pageHtml security).distinct⟩ (ascii "set-cookie") = some (pageCookie security) := by
    rw [HeaderMap.get_eq_some]
    change _ ∈ _ :: _ :: _ :: _ :: _ :: _ :: _ :: _ :: _ :: [(ascii "set-cookie", pageCookie security)]
    simp
  have front : 0x3b ∉ csrfCookie ++ 0x3d :: security.csrfToken := by
    have name : 0x3b ∉ csrfCookie := by decide
    simpa [name] using semicolon
  have shape : pageCookie security =
      (csrfCookie ++ 0x3d :: security.csrfToken) ++ 0x3b :: ascii " Path=/; SameSite=Strict" := by
    simp [pageCookie, ascii]
  have checked : ¬(csrfCookie ≠ csrfCookieName ∨ security.csrfToken.length ≠ 64 ∨
      ¬security.csrfToken.all isLowerHex = true) := by
    have allDigits : security.csrfToken.all isLowerHex = true := List.all_eq_true.mpr digits
    simp [csrfToken_length security, allDigits, csrfCookie, csrfCookieName]
  have accepted : (WebApp.pageResponse pageHtml security).status = 200 := rfl
  unfold LocalServiceClient.csrfCookie
  simp only [accepted, ne_eq, not_true_eq_false, if_false, stored]
  rw [shape, List.splitOn_append_cons_self_of_not_mem front]
  dsimp only
  rw [splitOnce_append (by decide)]
  exact if_neg checked

/-! ## The agreement -/

section Agreement
variable {A ε : Type} [WebActor A ε] (serde : Serde) (pageHtml : Bytes) (app : WebApp A) (client : LocalServiceClient)

/-- What the client reads with a GET is routed by its path alone. -/
theorem handle_get (ports : client.port = app.security.bindAddr.port) (path : String)
    (valid : validTarget (ascii path) = true) (short : (ascii path).length ≤ 64) :
    ∃ request, client.requestBytes "GET" path [] [] = .ok request ∧
      WebApp.handle serde pageHtml request app =
        WebApp.routed serde pageHtml ⟨.get, ascii path, client.storedFixed [], [], some 0⟩ app := by
  refine ⟨_, rfl, ?_⟩
  have parsed := client.parseRequest_get valid short
  have host : (client.storedFixed []).get (ascii "host") = some client.authority :=
    HeaderMap.get_eq_some.mpr (by simp [LocalServiceClient.storedFixed])
  have origin : (client.storedFixed []).get (ascii "origin") = none := by
    rw [HeaderMap.get_eq_none]
    simp only [LocalServiceClient.storedFixed, List.map_cons, List.map_nil]
    decide
  have accepted := LoopbackAuthority.parse_eq_some.mpr (client.authority_spelled ports)
  unfold LocalServiceClient.fixedHeaders at parsed
  unfold WebApp.handle
  simp only [List.append_nil, parsed]
  rw [get_bind_run]
  simp only [ParsedRequest.singleHeader, host, origin, Option.bind_some, accepted, Option.any_none,
    Bool.false_eq_true, if_false]

/-- For every token, every revision and a client on the port of the service: the client
gets the token from the page, reads the status, and its one POST performs the mutation it
means at the revision it read; and it reads every response the service gives. -/
theorem client_and_service_agree
    (reads : ∀ mutation, serde.fromSlice (LocalServiceClient.clientBody mutation) = some (mutationJson mutation))
    (ports : client.port = app.security.bindAddr.port) :
    (Fits (WebApp.pageResponse pageHtml app.security) →
      ∃ pageRequest page token statusRequest,
        client.requestBytes "GET" "/" [] [] = .ok pageRequest ∧
        WebApp.handle serde pageHtml pageRequest app = ⟨[], app, some (WebApp.pageResponse pageHtml app.security)⟩ ∧
        parseResponse (WebApp.pageResponse pageHtml app.security).toHttp1Bytes = .ok page ∧
        LocalServiceClient.csrfCookie page = .ok token ∧
        client.requestBytes "GET" "/api/status" [] [] = .ok statusRequest ∧
        WebApp.handle serde pageHtml statusRequest app =
          ⟨.statusCalled :: (WebActor.status app.actor).trace.map WebEvent.actor,
            { app with actor := (WebActor.status app.actor).state },
            (WebActor.status app.actor).out.map (statusResponse serde)⟩ ∧
        ∀ revision, revision < 2 ^ 64 → ∀ mutation,
          ∃ request, client.mutationRequest token revision mutation = .ok request ∧
            WebApp.handle serde pageHtml request app =
              ⟨.mutateCalled revision mutation ::
                  (WebActor.mutateIfRevision revision mutation app.actor).trace.map WebEvent.actor,
                { app with actor := (WebActor.mutateIfRevision revision mutation app.actor).state },
                (WebActor.mutateIfRevision revision mutation app.actor).out.map (mutationAnswer serde)⟩) ∧
    (∀ raw response, (WebApp.handle serde pageHtml raw app).out = some response →
      Emitted serde pageHtml app.security response) ∧
    ∀ response, Emitted serde pageHtml app.security response → Fits response →
      ∃ stored : HeaderMap, stored.entries = lowerNames response.headers ∧
        parseResponse response.toHttp1Bytes = .ok ⟨response.status, stored, response.body⟩ := by
  refine ⟨?_, fun _ _ => handle_emitted, ?_⟩
  · intro fits
    obtain ⟨pageRequest, pageSent, pageHandled⟩ :=
      handle_get serde pageHtml app client ports "/" (by decide) (by decide)
    obtain ⟨page, pageRead, token⟩ := csrfCookie_page fits
    obtain ⟨statusRequest, statusSent, statusHandled⟩ :=
      handle_get serde pageHtml app client ports "/api/status" (by decide) (by decide)
    refine ⟨pageRequest, page, _, statusRequest, pageSent, pageHandled, pageRead, token, statusSent, ?_, ?_⟩
    · rw [statusHandled]
      change (Proc.emit WebEvent.statusCalled >>= fun _ => WebActor.status.zoom WebApp.actorField .actor >>=
        fun snapshot => pure (statusResponse serde snapshot)) app = _
      rw [emit_bind_run]
      rcases run : WebActor.status app.actor with ⟨trace, actor, _ | snapshot⟩
      · rw [zoom_bind_killed run]
        rfl
      · rw [zoom_bind_value run]
        simp [WebApp.actorField]
    · intro revision range mutation
      have allowed := client.mutation_allowed ports (reads mutation) range
      have valid : (client.mutationHeaders app.security.csrfToken revision).all
          (fun field => validHeaderName field.1 && validHeaderValue field.2) = true := by
        rw [List.all_eq_true]
        intro field member
        have sendable := client.mutationHeaders_sendable (fun _ => csrfToken_isLowerHex app.security) revision
          field member
        simp [validHeaderName_of_sendable sendable, validHeaderValue_of_sendable sendable]
      refine ⟨_, ?_, handle_of_allowed allowed⟩
      unfold LocalServiceClient.mutationRequest LocalServiceClient.requestBytes
      rw [if_pos valid]
      rfl
  · intro response emitted fits
    exact ⟨_, rfl, parseResponse_written (emitted_readable emitted) fits⟩

end Agreement

/-- The default port, an empty page and the actor with one result to give. -/
theorem fixture_client_agrees :
    (∃ page token, LocalServiceClient.csrfCookie page = .ok token ∧
      ∃ request, (LocalServiceClient.mk 8096).mutationRequest token 7 .start = .ok request ∧
        (WebApp.handle fixtureSerde [] request fixtureApp).trace = [.mutateCalled 7 .start]) ∧
    ∃ stored, parseResponse (errorResponse fixtureSerde .revisionConflict).toHttp1Bytes =
      .ok ⟨409, stored, ascii "\x7b\"error\":\"revision_conflict\"\x7d"⟩ := by
  have reads (mutation : WebMutation) :
      fixtureSerde.fromSlice (LocalServiceClient.clientBody mutation) = some (mutationJson mutation) := by
    cases mutation <;> rfl
  have agree := client_and_service_agree fixtureSerde [] fixtureApp ⟨8096⟩ reads rfl
  have pageFits : Fits (WebApp.pageResponse [] fixtureApp.security) := ⟨by decide, by decide⟩
  have conflictFits : Fits (errorResponse fixtureSerde .revisionConflict) := ⟨by decide, by decide⟩
  obtain ⟨_, page, token, _, _, _, _, read, _, _, mutate⟩ := agree.1 pageFits
  obtain ⟨request, sent, handled⟩ := mutate 7 (by decide) .start
  obtain ⟨stored, _, parsed⟩ := agree.2.2 _ (.error .revisionConflict) conflictFits
  exact ⟨⟨page, token, read, request, sent, by rw [handled]; rfl⟩, stored, parsed⟩

end PlayTogether.Client
