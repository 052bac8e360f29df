import PlayTogether.Web.Response

/-! The request handler behind the loopback listener. It opens no socket; every mutation
crosses the compare-and-mutate boundary of one actor. -/

namespace PlayTogether.Web
open PlayTogether.Library PlayTogether.Controller

def csrfCookie : Bytes := ascii "jbl_aura_csrf"

class WebActor (A : Type) (ε : outParam Type) where
  status : Proc ε A StatusSnapshot
  mutateIfRevision : Nat → WebMutation → Proc ε A (Except RevisionConflict ControllerActionResult)

/-! ## Security inputs -/

inductive IpAddr where
  | v4 (octets : Vector UInt8 4)
  | v6 (segments : Vector UInt16 8)
  deriving DecidableEq

def ipv4Localhost : IpAddr := .v4 #v[127, 0, 0, 1]

def ipv6Localhost : IpAddr := .v6 #v[0, 0, 0, 0, 0, 0, 0, 1]

structure SocketAddr where
  ip : IpAddr
  port : UInt16
  deriving DecidableEq

inductive WebConfigError where
  | nonLoopbackBind
  | invalidPort
  | invalidCsrfToken
  deriving DecidableEq, Repr

/-- A loopback address with a port and an encoded token that was not all zero. -/
structure WebSecurity where
  bindAddr : SocketAddr
  csrfToken : Bytes
  loopback : bindAddr.ip = ipv4Localhost ∨ bindAddr.ip = ipv6Localhost
  numbered : bindAddr.port ≠ 0
  minted : ∃ token : Vector UInt8 32, token.toList.all (· == 0) = false ∧ csrfToken = hex token.toList

namespace WebSecurity

def new (bindAddr : SocketAddr) (csrfToken : Vector UInt8 32) : Except WebConfigError WebSecurity :=
  if loopback : bindAddr.ip = ipv4Localhost ∨ bindAddr.ip = ipv6Localhost then
    if numbered : bindAddr.port = 0 then .error .invalidPort
    else match zero : csrfToken.toList.all (· == 0) with
      | true => .error .invalidCsrfToken
      | false => .ok ⟨bindAddr, hex csrfToken.toList, loopback, numbered, csrfToken, zero, rfl⟩
  else .error .nonLoopbackBind

def port (self : WebSecurity) : Nat := self.bindAddr.port.toNat

end WebSecurity

/-! ## Authorities -/

inductive AuthorityHost where
  | localhost
  | ipv4Loopback
  | ipv6Loopback
  deriving DecidableEq, Repr

structure LoopbackAuthority where
  host : AuthorityHost
  effectivePort : Nat
  deriving DecidableEq, Repr

def isAsciiWhitespace (byte : UInt8) : Bool :=
  byte == 0x20 || byte == 0x09 || byte == 0x0a || byte == 0x0c || byte == 0x0d

def parsePort (value : Bytes) : Option Nat :=
  if !isCanonicalDecimal value then none
  else match parseUnsigned (2 ^ 16 - 1) value with
    | none => none
    | some port => if port ≠ 0 then some port else none

namespace LoopbackAuthority

/-- The host and the port, if one is given, of a value with a bracketed address. -/
def parseBracketed (rest : Bytes) : Option (AuthorityHost × Option Nat) :=
  match splitOnce 0x5d rest with
  | none => none
  | some (address, suffix) =>
    if address ≠ ascii "::1" then none
    else match suffix with
      | [] => some (.ipv6Loopback, none)
      | byte :: port => if byte = 0x3a then (parsePort port).map fun port => (.ipv6Loopback, some port) else none

def plainHost (rawHost : Bytes) : Option AuthorityHost :=
  if eqIgnoreAsciiCase rawHost (ascii "localhost") then some .localhost
  else if rawHost = ascii "127.0.0.1" then some .ipv4Loopback
  else none

def parsePlain (value : Bytes) : Option (AuthorityHost × Option Nat) :=
  match rsplitOnce 0x3a value with
  | some (rawHost, rawPort) => match parsePort rawPort with
    | none => none
    | some port => (plainHost rawHost).map fun host => (host, some port)
  | none => (plainHost value).map fun host => (host, none)

def hostAndPort : Bytes → Option (AuthorityHost × Option Nat)
  | [] => none
  | byte :: rest => if byte = 0x5b then parseBracketed rest else parsePlain (byte :: rest)

def parse (value : Bytes) (configuredPort : Nat) : Option LoopbackAuthority :=
  if value.isEmpty || value.any isAsciiWhitespace then none
  else match hostAndPort value with
    | none => none
    | some (host, port) => if port.any (· ≠ configuredPort) then none else some ⟨host, port.getD 80⟩

end LoopbackAuthority

def originIsSame (value : Bytes) (host : LoopbackAuthority) : Bool :=
  if (ascii "http://").isPrefixOf value then
    let authority := value.drop 7
    if authority.any fun byte => (ascii "/?#@").contains byte then false
    else LoopbackAuthority.parse authority host.effectivePort == some host
  else false

/-! ## Mutation checks -/

inductive MutationBody where
  | emptyObject
  | recoverStopConfirmation
  deriving DecidableEq, Repr

def MutationBody.accepts (serde : Serde) (self : MutationBody) (body : Bytes) : Bool :=
  match serde.fromSlice body with
  | some (.object fields) => match self with
    | .emptyObject => fields.isEmpty
    | .recoverStopConfirmation =>
      fields.length == 1 &&
        ((Json.object fields).get "confirm").bind Json.asStr == some (ascii "recover-stop")
  | _ => false

/-- One cookie of the header; no value means that the header is refused. -/
def csrfCookieField (found : Option Bytes) (field : Bytes) : Option (Option Bytes) :=
  match splitOnce 0x3d (trimBlank field) with
  | none => none
  | some (name, value) =>
    if name = csrfCookie then
      if found.isSome || value.isEmpty then none else some (some value)
    else some found

def csrfCookieValue (header : Bytes) : Option Bytes := ((header.splitOn 0x3b).foldlM csrfCookieField none).join

/-- Runs over both texts whatever they hold; the answer is that of an equality test. -/
def constantTimeEq (left right : Bytes) : Bool := if left.length ≠ right.length then false else left == right

def validCsrf (security : WebSecurity) (request : ParsedRequest) : Bool :=
  match request.singleHeader "x-csrf-token" with
  | none => false
  | some headerToken => match (request.singleHeader "cookie").bind csrfCookieValue with
    | none => false
    | some cookieToken =>
      constantTimeEq headerToken cookieToken && constantTimeEq headerToken security.csrfToken &&
        constantTimeEq cookieToken security.csrfToken

def parseStrongRevision (value : Bytes) : Option Nat :=
  match value with
  | [] => none
  | first :: rest =>
    if first = 0x22 ∧ rest.getLast? = some 0x22 then
      if !isCanonicalDecimal rest.dropLast then none else parseUnsigned (2 ^ 64 - 1) rest.dropLast
    else none

/-- The checks in front of the actor, in their order, and the revision they let through. -/
def mutationGate (serde : Serde) (security : WebSecurity) (request : ParsedRequest) (rule : MutationBody) :
    Except RequestError Nat :=
  if (request.singleHeader "origin").isNone then .error .forbiddenOrigin
  else if request.singleHeader "content-type" ≠ some (ascii "application/json") then .error .unsupportedMediaType
  else match request.contentLength with
    | none => .error .lengthRequired
    | some contentLength =>
      if contentLength > maxBodyBytes then .error .payloadTooLarge
      else if !rule.accepts serde request.body then .error .invalidJsonBody
      else if !validCsrf security request then .error .csrfRejected
      else match (request.singleHeader "if-match").bind parseStrongRevision with
        | none => .error .preconditionRequired
        | some expectedRevision => .ok expectedRevision

inductive Route where
  | page
  | status
  | readiness
  | mutation (mutation : WebMutation) (rule : MutationBody)
  | notFound
  | methodNotAllowed
  deriving DecidableEq, Repr

def route (method : Method) (target : Bytes) : Route :=
  match method with
  | .get =>
    if target = ascii "/" then .page
    else if target = ascii "/api/status" then .status
    else if target = ascii "/healthz" then .readiness
    else .notFound
  | .post =>
    if target = ascii "/api/start" then .mutation .start .emptyObject
    else if target = ascii "/api/stop" then .mutation .stop .emptyObject
    else if target = ascii "/internal/recover-stop" then .mutation .recoverStop .recoverStopConfirmation
    else .notFound
  | .other => .methodNotAllowed

/-! ## The handler -/

/-- Calls of the actor, and what the actor itself issues. -/
inductive WebEvent (ε : Type) where
  | statusCalled
  | mutateCalled (expectedRevision : Nat) (mutation : WebMutation)
  | actor (event : ε)
  deriving DecidableEq, Repr

structure WebApp (A : Type) where
  actor : A
  security : WebSecurity

namespace WebApp
variable {A ε : Type}

def actorField : Lens A (WebApp A) := ⟨fun self => self.actor, fun actor self => { self with actor }⟩

/-- The page with the token in place of its nonce, and the token as a cookie. -/
def pageResponse (pageHtml : Bytes) (security : WebSecurity) : HttpResponse :=
  let page := replace pageHtml (ascii "__CSP_NONCE__") security.csrfToken
  let cookie := csrfCookie ++ ascii "=" ++ security.csrfToken ++ ascii "; Path=/; SameSite=Strict"
  response 200 "text/html; charset=utf-8" page (some security.csrfToken) [(ascii "Set-Cookie", cookie)]

section Handle
variable [WebActor A ε] (serde : Serde) (pageHtml : Bytes)

def mutationResponse (request : ParsedRequest) (mutation : WebMutation) (rule : MutationBody) :
    Proc (WebEvent ε) (WebApp A) HttpResponse := do
  let self ← Proc.get
  match mutationGate serde self.security request rule with
  | .error error => pure (errorResponse serde error)
  | .ok expectedRevision =>
    Proc.emit (.mutateCalled expectedRevision mutation)
    match ← (WebActor.mutateIfRevision expectedRevision mutation).zoom actorField .actor with
    | .ok result => pure (actionResponse serde result)
    | .error _ => pure (errorResponse serde .revisionConflict)

def routed (request : ParsedRequest) : Proc (WebEvent ε) (WebApp A) HttpResponse := do
  match route request.method request.target with
  | .page =>
    let self ← Proc.get
    pure (pageResponse pageHtml self.security)
  | .status =>
    Proc.emit .statusCalled
    let snapshot ← WebActor.status.zoom actorField .actor
    pure (statusResponse serde snapshot)
  | .readiness => pure (readinessResponse serde)
  | .mutation mutation rule => mutationResponse serde request mutation rule
  | .notFound => pure (errorResponse serde .notFound)
  | .methodNotAllowed => pure (errorResponse serde .methodNotAllowed)

def handle (rawRequest : Bytes) : Proc (WebEvent ε) (WebApp A) HttpResponse := do
  match parseRequest rawRequest with
  | .error error => pure (errorResponse serde error)
  | .ok request =>
    let self ← Proc.get
    match (request.singleHeader "host").bind (LoopbackAuthority.parse · self.security.port) with
    | none => pure (errorResponse serde .forbiddenHost)
    | some host =>
      if (request.singleHeader "origin").any (!originIsSame · host) then pure (errorResponse serde .forbiddenOrigin)
      else routed serde pageHtml request

end Handle

end WebApp

end PlayTogether.Web
