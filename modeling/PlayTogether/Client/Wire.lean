import PlayTogether.Web.App

/-! The bounded client of the loopback service: the requests it writes and the responses
it reads. It never leaves loopback, follows no redirect and repeats no mutation. -/

namespace PlayTogether.Client
open PlayTogether.Library PlayTogether.Controller

def maxResponseBytes : Nat := 64 * 1024

def maxHeaderBytes : Nat := 16 * 1024

def maxHeaderCount : Nat := 64

def csrfCookieName : Bytes := ascii "jbl_aura_csrf"

inductive LocalClientError where
  | unavailable
  | timedOut
  | responseTooLarge
  | invalidResponse
  | serviceRejected
  | revisionConflict
  deriving DecidableEq, Repr

structure LocalHttpResponse where
  status : Nat
  headers : HeaderMap
  body : Bytes
  deriving DecidableEq

def validHeaderName (value : Bytes) : Bool := !value.isEmpty && value.all isTchar

def validHeaderValue (value : Bytes) : Bool := value.all fun byte => byte == 0x09 || isPrintable byte

/-! ## Responses -/

def parseStatusLine (line : Bytes) : Option Nat :=
  match splitOnce 0x20 line with
  | none => none
  | some (version, rest) =>
    if version ≠ ascii "HTTP/1.1" then none
    else match splitOnce 0x20 rest with
      | none => none
      | some (statusText, _) =>
        if statusText.length ≠ 3 || !statusText.all isDigit then none else parseUnsigned (2 ^ 16 - 1) statusText

/-- The name is lower-cased before it is checked. -/
def responseField (line : Bytes) : Option (Bytes × Bytes) :=
  if line.isEmpty || line.head?.any isBlank then none
  else match splitOnce 0x3a line with
    | none => none
    | some (rawName, rawValue) =>
      let name := asciiLower rawName
      let value := trimBlank rawValue
      if !validHeaderName name || !validHeaderValue value then none else some (name, value)

def parseResponseHead (head : Bytes) : Option (Nat × HeaderMap) :=
  if !validUtf8 head then none
  else if !head.all fun byte => byte == 0x09 || byte == 0x0d || byte == 0x0a || isPrintable byte then none
  else match splitCrlf head with
    | [] => none
    | statusLine :: lines => match parseStatusLine statusLine with
      | none => none
      | some status => (readHeaders responseField maxHeaderCount .empty lines).map fun headers => (status, headers)

def parseResponse (payload : Bytes) : Except LocalClientError LocalHttpResponse :=
  match findSubslice blankLine payload with
  | none => .error .invalidResponse
  | some headEnd =>
    if headEnd > maxHeaderBytes then .error .responseTooLarge
    else match parseResponseHead (payload.take headEnd) with
      | none => .error .invalidResponse
      | some (status, headers) =>
        if headers.containsKey (ascii "transfer-encoding") then .error .invalidResponse
        else match (headers.get (ascii "content-length")).bind (parseUnsigned Web.usizeMax) with
          | none => .error .invalidResponse
          | some contentLength =>
            let body := payload.drop (headEnd + 4)
            if body.length ≠ contentLength ∨ body.length > maxResponseBytes then .error .invalidResponse
            else .ok { status, headers, body }

/-! ## Requests -/

/-- A client fixed to IPv4 loopback. -/
structure LocalServiceClient where
  port : UInt16
  deriving DecidableEq

namespace LocalServiceClient

def authority (self : LocalServiceClient) : Bytes := ascii "127.0.0.1:" ++ decimal self.port.toNat

def origin (self : LocalServiceClient) : Bytes := ascii "http://" ++ self.authority

/-- The bytes one request puts on the connection. -/
def requestBytes (self : LocalServiceClient) (method path : String) (headers : List (Bytes × Bytes))
    (body : Bytes) : Except LocalClientError Bytes :=
  if headers.all fun (name, value) => validHeaderName name && validHeaderValue value then
    .ok (writeMessage (ascii method ++ [0x20] ++ ascii path ++ ascii " HTTP/1.1")
      ([(ascii "Host", self.authority),
        (ascii "Accept", ascii "application/json"),
        (ascii "Accept-Encoding", ascii "identity"),
        (ascii "Connection", ascii "close"),
        (ascii "Content-Length", decimal body.length)] ++ headers)
      body)
  else .error .invalidResponse

/-- The token in the cookie of the page. -/
def csrfCookie (response : LocalHttpResponse) : Except LocalClientError Bytes :=
  if response.status ≠ 200 then .error .serviceRejected
  else match response.headers.get (ascii "set-cookie") with
    | none => .error .invalidResponse
    | some cookie => match cookie.splitOn 0x3b with
      | [] => .error .invalidResponse
      | first :: _ => match splitOnce 0x3d first with
        | none => .error .invalidResponse
        | some (name, token) =>
          if name ≠ csrfCookieName ∨ token.length ≠ 64 ∨ ¬token.all isLowerHex then .error .invalidResponse
          else .ok token

def mutationHeaders (self : LocalServiceClient) (csrf : Bytes) (revision : Nat) : List (Bytes × Bytes) :=
  [(ascii "Origin", self.origin),
   (ascii "Content-Type", ascii "application/json"),
   (ascii "If-Match", [0x22] ++ decimal revision ++ [0x22]),
   (ascii "X-CSRF-Token", csrf),
   (ascii "Cookie", csrfCookieName ++ ascii "=" ++ csrf)]

def clientPath : WebMutation → String
  | .start => "/api/start"
  | .stop => "/api/stop"
  | .recoverStop => "/internal/recover-stop"

def clientBody : WebMutation → Bytes
  | .start | .stop => ascii "\x7b\x7d"
  | .recoverStop => ascii "\x7b\"confirm\":\"recover-stop\"\x7d"

/-- The one POST of `mutate_with_body`, once the token and the revision have been read. -/
def mutationRequest (self : LocalServiceClient) (csrf : Bytes) (revision : Nat) (mutation : WebMutation) :
    Except LocalClientError Bytes :=
  self.requestBytes "POST" (clientPath mutation) (self.mutationHeaders csrf revision) (clientBody mutation)

end LocalServiceClient

end PlayTogether.Client
