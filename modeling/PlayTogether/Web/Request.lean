import PlayTogether.Library.HttpHead

/-! One HTTP/1.1 request as the loopback service reads it: the framing test on a growing
buffer and the strict parser behind it, each with its own order of checks. -/

namespace PlayTogether.Web
open PlayTogether.Library

def maxHeaderBytes : Nat := 16 * 1024

def maxHeaderCount : Nat := 64

def maxBodyBytes : Nat := 4 * 1024

def maxRequestBytes : Nat := maxHeaderBytes + 4 + maxBodyBytes

def usizeMax : Nat := 2 ^ 64 - 1

inductive Method where
  | get
  | post
  | other
  deriving DecidableEq, Repr

inductive RequestError where
  | badRequest
  | forbiddenHost
  | forbiddenOrigin
  | csrfRejected
  | notFound
  | methodNotAllowed
  | revisionConflict
  | lengthRequired
  | payloadTooLarge
  | unsupportedMediaType
  | preconditionRequired
  | invalidJsonBody
  | httpVersionNotSupported
  deriving DecidableEq, Repr

structure ParsedRequest where
  method : Method
  target : Bytes
  headers : HeaderMap
  body : Bytes
  contentLength : Option Nat
  deriving DecidableEq

def ParsedRequest.singleHeader (request : ParsedRequest) (name : String) : Option Bytes :=
  request.headers.get (ascii name)

inductive RequestFrame where
  | incomplete
  | complete
  | rejected
  deriving DecidableEq, Repr

def parseContentLength (value : Bytes) : Except RequestError Nat :=
  if !isCanonicalDecimal value then .error .badRequest
  else match parseUnsigned usizeMax value with
    | none => .error .payloadTooLarge
    | some length => .ok length

/-! ## Framing -/

/-- One field line of the framing loop; no value means that the request is rejected. -/
def frameHeader (contentLength : Option Nat) (line : Bytes) : Option (Option Nat) :=
  match headerField isPrintable line with
  | none => none
  | some (name, value) =>
    if eqIgnoreAsciiCase name (ascii "transfer-encoding") then none
    else if eqIgnoreAsciiCase name (ascii "content-length") then
      if contentLength.isSome then none
      else match parseContentLength value with
        | .error _ => none
        | .ok length => if length > maxBodyBytes then none else some (some length)
    else some contentLength

/-- The body length a head announces. -/
def frameHead (head : Bytes) : Option Nat :=
  if !validUtf8 head then none
  else match splitCrlf head with
    | [] => none
    | requestLine :: lines => match requestLine.splitOn 0x20 with
      | [method, _, _] => match lines.foldlM frameHeader none with
        | none => none
        | some contentLength =>
          if method = ascii "POST" ∧ contentLength.isNone then none else some (contentLength.getD 0)
      | _ => none

def requestFrame (raw : Bytes) : RequestFrame :=
  if raw.length > maxRequestBytes then .rejected
  else match findSubslice blankLine raw with
    | none => if raw.length > maxHeaderBytes + 4 then .rejected else .incomplete
    | some headEnd =>
      if headEnd > maxHeaderBytes then .rejected
      else match frameHead (raw.take headEnd) with
        | none => .rejected
        | some contentLength =>
          if headEnd + 4 + contentLength > maxRequestBytes then .rejected
          else match compare raw.length (headEnd + 4 + contentLength) with
            | .lt => .incomplete
            | .eq => .complete
            | .gt => .rejected

/-! ## Parsing -/

def methodOf (text : Bytes) : Method :=
  if text = ascii "GET" then .get else if text = ascii "POST" then .post else .other

def validTarget (target : Bytes) : Bool :=
  !(target.head? != some 0x2f || (ascii "//").isPrefixOf target || target.contains 0x3f || target.contains 0x23 ||
    target.any fun byte => !(0x21 ≤ byte && byte ≤ 0x7e))

def parseRequestLine (line : Bytes) : Except RequestError (Method × Bytes) :=
  match line.splitOn 0x20 with
  | [methodText, target, version] =>
    if methodText.isEmpty || target.isEmpty || version.isEmpty then .error .badRequest
    else if version ≠ ascii "HTTP/1.1" then .error .httpVersionNotSupported
    else if !methodText.all isTchar then .error .badRequest
    else if !validTarget target then .error .badRequest
    else .ok (methodOf methodText, target)
  | _ => .error .badRequest

def forbiddenHeaders : List Bytes :=
  [ascii "transfer-encoding", ascii "trailer", ascii "upgrade", ascii "proxy-connection"]

def parseHead (head : Bytes) : Except RequestError (Method × Bytes × HeaderMap) :=
  if head.any fun byte => !(byte == 0x09 || isPrintable byte || byte == 0x0d || byte == 0x0a) then .error .badRequest
  else if !validUtf8 head then .error .badRequest
  else match splitCrlf head with
    | [] => .error .badRequest
    | requestLine :: lines => match parseRequestLine requestLine with
      | .error error => .error error
      | .ok (method, target) =>
        match readHeaders (loweredField isPrintable) maxHeaderCount .empty lines with
        | none => .error .badRequest
        | some headers =>
          if forbiddenHeaders.any headers.containsKey then .error .badRequest else .ok (method, target, headers)

/-- The announced length of a body that matches the announcement. -/
def parseBody (method : Method) (announced : Option Bytes) (body : Bytes) : Except RequestError (Option Nat) :=
  match announced with
  | none =>
    if method = .post then .error .lengthRequired else if body.isEmpty then .ok none else .error .badRequest
  | some value => match parseContentLength value with
    | .error error => .error error
    | .ok length =>
      if length > maxBodyBytes then .error .payloadTooLarge
      else if body.length ≠ length then .error .badRequest
      else if method = .get ∧ length ≠ 0 then .error .badRequest
      else .ok (some length)

def parseRequest (raw : Bytes) : Except RequestError ParsedRequest :=
  match findSubslice blankLine raw with
  | none => .error (if raw.length > maxHeaderBytes then .payloadTooLarge else .badRequest)
  | some headEnd =>
    if headEnd > maxHeaderBytes then .error .payloadTooLarge
    else match parseHead (raw.take headEnd) with
      | .error error => .error error
      | .ok (method, target, headers) =>
        let body := raw.drop (headEnd + 4)
        match parseBody method (headers.get (ascii "content-length")) body with
        | .error error => .error error
        | .ok contentLength => .ok { method, target, headers, body, contentLength }

end PlayTogether.Web
