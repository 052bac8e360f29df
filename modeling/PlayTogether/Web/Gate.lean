import PlayTogether.Web.Framing
import PlayTogether.Web.Grammar

/-! What a request has to carry before the handler calls the actor to change anything. -/

namespace PlayTogether.Web
open PlayTogether.Library PlayTogether.Controller

set_option maxRecDepth 20000

/-! ## The calls of the handler -/

def WebEvent.isCall {ε : Type} : WebEvent ε → Bool
  | .statusCalled | .mutateCalled _ _ => true
  | .actor _ => false

section Calls
variable {A ε : Type}

theorem filter_actor (trace : List ε) : (trace.map WebEvent.actor).filter WebEvent.isCall = [] := by
  rw [List.filter_eq_nil_iff]
  intro event member
  obtain ⟨inner, _, rfl⟩ := List.mem_map.mp member
  simp [WebEvent.isCall]

/-- A call of the actor whose answer is only turned into a response. -/
theorem calls_zoom {α : Type} (p : Proc ε A α) (answer : α → Proc (WebEvent ε) (WebApp A) HttpResponse)
    (quiet : ∀ value app, (answer value app).trace = []) (app : WebApp A) :
    ((p.zoom WebApp.actorField .actor >>= answer) app).trace.filter WebEvent.isCall = [] := by
  rcases run : p app.actor with ⟨trace, actor, _ | value⟩
  · rw [zoom_bind_killed run]
    exact filter_actor trace
  · rw [zoom_bind_value run, after_trace, quiet, List.append_nil]
    exact filter_actor trace

variable [WebActor A ε] (serde : Serde)

theorem mutationResponse_calls (request : ParsedRequest) (mutation : WebMutation) (rule : MutationBody)
    (app : WebApp A) :
    (WebApp.mutationResponse serde request mutation rule app).trace.filter WebEvent.isCall =
      match mutationGate serde app.security request rule with
      | .error _ => []
      | .ok revision => [.mutateCalled revision mutation] := by
  unfold WebApp.mutationResponse
  rw [get_bind_run]
  cases mutationGate serde app.security request rule with
  | error error => rfl
  | ok revision =>
    dsimp only
    rw [emit_bind_run, after_trace, List.filter_append, calls_zoom]
    · rfl
    · intro value app
      cases value <;> rfl

/-- The calls the handler makes, read off the request. -/
def plannedCalls (security : WebSecurity) (request : ParsedRequest) : List (WebEvent ε) :=
  match (request.singleHeader "host").bind (LoopbackAuthority.parse · security.port) with
  | none => []
  | some host =>
    if (request.singleHeader "origin").any (!originIsSame · host) then []
    else match route request.method request.target with
      | .status => [.statusCalled]
      | .mutation mutation rule => match mutationGate serde security request rule with
        | .error _ => []
        | .ok revision => [.mutateCalled revision mutation]
      | .page | .readiness | .notFound | .methodNotAllowed => []

theorem handle_calls (pageHtml : Bytes) {raw : Bytes} {request : ParsedRequest}
    (parsed : parseRequest raw = .ok request) (app : WebApp A) :
    (WebApp.handle serde pageHtml raw app).trace.filter WebEvent.isCall = plannedCalls serde app.security request := by
  unfold WebApp.handle plannedCalls
  rw [parsed]
  dsimp only
  rw [get_bind_run]
  cases (request.singleHeader "host").bind (LoopbackAuthority.parse · app.security.port) with
  | none => rfl
  | some host =>
    dsimp only
    by_cases foreign : (request.singleHeader "origin").any (!originIsSame · host) = true
    · rw [if_pos foreign, if_pos foreign]
      rfl
    · rw [if_neg foreign, if_neg foreign]
      unfold WebApp.routed
      cases route request.method request.target with
      | page => rfl
      | status =>
        dsimp only
        rw [emit_bind_run, after_trace, List.filter_append, calls_zoom]
        · rfl
        · intro value app
          rfl
      | readiness => rfl
      | mutation mutation rule => exact mutationResponse_calls serde request mutation rule app
      | notFound => rfl
      | methodNotAllowed => rfl

end Calls

/-! ## The gate -/

def mutationPath : WebMutation → Bytes
  | .start => ascii "/api/start"
  | .stop => ascii "/api/stop"
  | .recoverStop => ascii "/internal/recover-stop"

def mutationRule : WebMutation → MutationBody
  | .start | .stop => .emptyObject
  | .recoverStop => .recoverStopConfirmation

def mutationJson : WebMutation → Json
  | .start | .stop => .object []
  | .recoverStop => .object [(ascii "confirm", .string (ascii "recover-stop"))]

/-- Everything a request has to carry for one mutation at one revision. -/
structure MutationAllowed (serde : Serde) (security : WebSecurity) (raw : Bytes) (request : ParsedRequest)
    (revision : Nat) (mutation : WebMutation) : Prop where
  parsed : parseRequest raw = .ok request
  line : ascii "POST " ++ mutationPath mutation ++ ascii " HTTP/1.1" <+: raw
  method : request.method = .post
  target : request.target = mutationPath mutation
  authority : ∃ host value origin, request.singleHeader "host" = some value ∧ Authority value security.port host ∧
    request.singleHeader "origin" = some (ascii "http://" ++ origin) ∧ Authority origin host.effectivePort host
  contentType : request.singleHeader "content-type" = some (ascii "application/json")
  body : serde.fromSlice request.body = some (mutationJson mutation)
  csrfHeader : request.singleHeader "x-csrf-token" = some security.csrfToken
  csrfCookie : ∃ header read, request.singleHeader "cookie" = some header ∧ cookies header = some read ∧
    csrfValues read = [security.csrfToken]
  ifMatch : request.singleHeader "if-match" = some (0x22 :: (decimal revision ++ [0x22]))
  range : revision < 2 ^ 64

theorem accepts_iff {serde : Serde} {mutation : WebMutation} {body : Bytes} :
    (mutationRule mutation).accepts serde body = true ↔ serde.fromSlice body = some (mutationJson mutation) := by
  unfold MutationBody.accepts
  cases read : serde.fromSlice body with
  | none => simp
  | some value =>
    cases value with
    | object fields =>
      cases mutation with
      | start => simp [mutationRule, mutationJson]
      | stop => simp [mutationRule, mutationJson]
      | recoverStop =>
        simp only [mutationRule, mutationJson, Bool.and_eq_true, beq_iff_eq, List.length_eq_one_iff,
          Option.some.injEq, Json.object.injEq]
        constructor
        · intro checked
          obtain ⟨⟨⟨key, value⟩, rfl⟩, confirmed⟩ := checked
          obtain ⟨found, stored, text⟩ := Option.bind_eq_some_iff.mp confirmed
          have same : ascii "confirm" = key ∧ value = found := by
            by_cases named : ascii "confirm" = key
            · exact ⟨named, by simpa [Json.get, named] using stored⟩
            · have other : (ascii "confirm" == key) = false := by simpa using named
              simp [Json.get, List.lookup_cons, other] at stored
          obtain ⟨rfl, rfl⟩ := same
          cases value <;> simp [Json.asStr] at text
          rw [text]
        · intro spelled
          subst spelled
          exact ⟨⟨_, rfl⟩, by simp [Json.get, Json.asStr]⟩
    | _ => cases mutation <;> simp [mutationJson]

theorem constantTimeEq_iff {left right : Bytes} : constantTimeEq left right = true ↔ left = right := by
  unfold constantTimeEq
  by_cases lengths : left.length = right.length
  · simp [lengths]
  · have different : left ≠ right := fun same => lengths (congrArg List.length same)
    simp [lengths, different]

theorem csrfToken_ne_nil (security : WebSecurity) : security.csrfToken ≠ [] := by
  obtain ⟨token, _, minted⟩ := security.minted
  have size : token.toList.length = 32 := token.length_toList
  rw [minted]
  intro empty
  obtain ⟨byte, rest, same⟩ := List.exists_cons_of_length_pos (by omega : 0 < token.toList.length)
  simp [hex, same] at empty

theorem validCsrf_iff {security : WebSecurity} {request : ParsedRequest} :
    validCsrf security request = true ↔
      request.singleHeader "x-csrf-token" = some security.csrfToken ∧
      ∃ header read, request.singleHeader "cookie" = some header ∧ cookies header = some read ∧
        csrfValues read = [security.csrfToken] := by
  have filled := csrfToken_ne_nil security
  unfold validCsrf
  constructor
  · intro valid
    split at valid
    · cases valid
    · rename_i headerToken sent
      split at valid
      · cases valid
      · rename_i cookieToken found
        simp only [Bool.and_eq_true, constantTimeEq_iff] at valid
        obtain ⟨header, stored, value⟩ := Option.bind_eq_some_iff.mp found
        obtain ⟨_, read, spelled, single⟩ := csrfCookieValue_eq_some.mp value
        exact ⟨by rw [sent, valid.1.2], header, read, stored, spelled, by rw [single, valid.2]⟩
  · intro valid
    obtain ⟨sent, header, read, stored, spelled, single⟩ := valid
    have value := csrfCookieValue_eq_some.mpr ⟨filled, read, spelled, single⟩
    simp [sent, stored, value, constantTimeEq]

theorem mutationGate_eq_ok {serde : Serde} {security : WebSecurity} {request : ParsedRequest}
    {mutation : WebMutation} {revision : Nat} :
    mutationGate serde security request (mutationRule mutation) = .ok revision ↔
      request.singleHeader "origin" ≠ none ∧
      request.singleHeader "content-type" = some (ascii "application/json") ∧
      (∃ length, request.contentLength = some length ∧ length ≤ maxBodyBytes) ∧
      serde.fromSlice request.body = some (mutationJson mutation) ∧
      validCsrf security request = true ∧
      request.singleHeader "if-match" = some (0x22 :: (decimal revision ++ [0x22])) ∧ revision < 2 ^ 64 := by
  unfold mutationGate
  constructor
  · intro passed
    split at passed
    · cases passed
    · rename_i origin
      split at passed
      · cases passed
      · rename_i contentType
        split at passed
        · cases passed
        · rename_i length announced
          split at passed
          · cases passed
          · split at passed
            · cases passed
            · rename_i body
              split at passed
              · cases passed
              · rename_i csrf
                split at passed
                · cases passed
                · rename_i found revised
                  cases passed
                  obtain ⟨value, sent, strong⟩ := Option.bind_eq_some_iff.mp revised
                  obtain ⟨spelled, small⟩ := parseStrongRevision_eq_some.mp strong
                  refine ⟨?_, not_not.mp contentType, ⟨length, announced, by omega⟩, ?_, ?_, ?_, small⟩
                  · simpa using origin
                  · rw [← accepts_iff]
                    simpa using body
                  · simpa using csrf
                  · rw [sent, spelled]
  · intro checked
    obtain ⟨origin, contentType, ⟨length, announced, fits⟩, body, csrf, sent, small⟩ := checked
    have present : ¬(request.singleHeader "origin").isNone = true := by simpa using origin
    have short : ¬length > maxBodyBytes := by omega
    have accepted := accepts_iff.mpr body
    have strong := parseStrongRevision_eq_some.mpr ⟨rfl, small⟩
    simp only [if_neg present, contentType, announced, if_neg short, accepted, csrf, sent, Option.bind_some, strong,
      ne_eq, not_true_eq_false, Bool.not_true, Bool.false_eq_true, if_false]

theorem route_eq_mutation {method : Method} {target : Bytes} {mutation : WebMutation} {rule : MutationBody} :
    route method target = .mutation mutation rule ↔
      method = .post ∧ target = mutationPath mutation ∧ rule = mutationRule mutation := by
  unfold route
  constructor
  · intro routed
    cases method with
    | get =>
      dsimp only at routed
      split at routed
      · cases routed
      · split at routed
        · cases routed
        · split at routed <;> cases routed
    | post =>
      dsimp only at routed
      split at routed
      · rename_i same
        cases routed
        exact ⟨rfl, same, rfl⟩
      · split at routed
        · rename_i same
          cases routed
          exact ⟨rfl, same, rfl⟩
        · split at routed
          · rename_i same
            cases routed
            exact ⟨rfl, same, rfl⟩
          · cases routed
    | other => cases routed
  · intro spelled
    obtain ⟨rfl, rfl, rfl⟩ := spelled
    cases mutation <;> decide

theorem route_eq_status {method : Method} {target : Bytes} (routed : route method target = .status) :
    method = .get ∧ target = ascii "/api/status" := by
  unfold route at routed
  cases method with
  | get =>
    dsimp only at routed
    split at routed
    · cases routed
    · split at routed
      · rename_i same
        exact ⟨rfl, same⟩
      · split at routed <;> cases routed
  | post =>
    dsimp only at routed
    split at routed
    · cases routed
    · split at routed
      · cases routed
      · split at routed <;> cases routed
  | other => cases routed

/-- The first line of a parsed request, as it was sent. -/
theorem requestLine_of_parsed {raw : Bytes} {request : ParsedRequest} (parsed : parseRequest raw = .ok request)
    (post : request.method = .post) : ascii "POST " ++ request.target ++ ascii " HTTP/1.1" <+: raw := by
  obtain ⟨headEnd, found⟩ := parseRequest_ok parsed
  obtain ⟨methodText, lines, head⟩ := parseHead_ok found.head
  obtain ⟨requestLine, cut, parts⟩ := head.cut
  have named : methodText = ascii "POST" := by
    rw [← methodOf_post, ← head.method, post]
  have spelled : requestLine = ascii "POST " ++ request.target ++ ascii " HTTP/1.1" := by
    have joined : [0x20].intercalate (requestLine.splitOn 0x20) = requestLine := List.intercalate_splitOn 0x20
    rw [← joined, parts, named]
    simp [List.intercalate, ascii]
  rw [← spelled]
  exact (splitCrlf_first cut).trans (List.take_prefix headEnd raw)

theorem contentLength_of_parsed {raw : Bytes} {request : ParsedRequest} (parsed : parseRequest raw = .ok request)
    (post : request.method = .post) : ∃ length, request.contentLength = some length ∧ length ≤ maxBodyBytes := by
  obtain ⟨headEnd, found⟩ := parseRequest_ok parsed
  have announced := found.announced
  cases sent : request.headers.get (ascii "content-length") with
  | none =>
    rw [sent] at announced
    exact absurd post (parseBody_none announced).1
  | some value =>
    rw [sent] at announced
    obtain ⟨length, _, fits, _, same⟩ := parseContentLength_bound announced
    exact ⟨length, same, fits⟩

section Gate
variable {A ε : Type} {serde : Serde} {security : WebSecurity} {raw : Bytes} {request : ParsedRequest}

theorem plannedCalls_single {call : WebEvent ε} (called : call ∈ plannedCalls serde security request) :
    plannedCalls serde security request = [call] := by
  have shape : plannedCalls serde security request = ([] : List (WebEvent ε)) ∨
      ∃ call : WebEvent ε, plannedCalls serde security request = [call] := by
    unfold plannedCalls
    split
    · exact .inl rfl
    · split
      · exact .inl rfl
      · split
        · exact .inr ⟨_, rfl⟩
        · split
          · exact .inl rfl
          · exact .inr ⟨_, rfl⟩
        all_goals exact .inl rfl
  rcases shape with silent | ⟨other, single⟩
  · rw [silent] at called
    cases called
  · rw [single, List.mem_singleton] at called
    rw [single, called]

/-- The checks of the handler on a request that carries everything. -/
theorem allowed_checks {revision : Nat} {mutation : WebMutation}
    (allowed : MutationAllowed serde security raw request revision mutation) :
    ∃ host, (request.singleHeader "host").bind (LoopbackAuthority.parse · security.port) = some host ∧
      ¬(request.singleHeader "origin").any (!originIsSame · host) = true ∧
      route request.method request.target = .mutation mutation (mutationRule mutation) ∧
      mutationGate serde security request (mutationRule mutation) = .ok revision := by
  obtain ⟨host, value, origin, sent, authority, originSent, named⟩ := allowed.authority
  refine ⟨host, ?_, ?_, route_eq_mutation.mpr ⟨allowed.method, allowed.target, rfl⟩, ?_⟩
  · rw [sent, Option.bind_some]
    exact LoopbackAuthority.parse_eq_some.mpr authority
  · have same := originIsSame_iff.mpr ⟨origin, rfl, named⟩
    simp [originSent, same]
  · rw [mutationGate_eq_ok]
    exact ⟨by simp [originSent], allowed.contentType, contentLength_of_parsed allowed.parsed allowed.method,
      allowed.body, validCsrf_iff.mpr ⟨allowed.csrfHeader, allowed.csrfCookie⟩, allowed.ifMatch, allowed.range⟩

theorem plannedCalls_mutation (parsed : parseRequest raw = .ok request) {revision : Nat} {mutation : WebMutation} :
    WebEvent.mutateCalled revision mutation ∈ (plannedCalls serde security request : List (WebEvent ε)) ↔
      MutationAllowed serde security raw request revision mutation := by
  constructor
  · intro called
    unfold plannedCalls at called
    split at called
    · cases called
    · rename_i host accepted
      obtain ⟨value, sent, authority⟩ := Option.bind_eq_some_iff.mp accepted
      split at called
      · cases called
      · rename_i origins
        split at called
        · simp at called
        · rename_i planned rule routed
          obtain ⟨post, target, rfl⟩ := route_eq_mutation.mp routed
          split at called
          · cases called
          · rename_i expected passed
            rw [List.mem_singleton] at called
            cases called
            obtain ⟨present, contentType, _, body, csrf, ifMatch, range⟩ := mutationGate_eq_ok.mp passed
            obtain ⟨origin, originSent⟩ := Option.ne_none_iff_exists'.mp present
            have same : originIsSame origin host = true := by simpa [originSent] using origins
            obtain ⟨originAuthority, rfl, named⟩ := originIsSame_iff.mp same
            obtain ⟨csrfHeader, csrfCookie⟩ := validCsrf_iff.mp csrf
            have line := requestLine_of_parsed parsed post
            rw [target] at line
            exact ⟨parsed, line, post, target,
              ⟨host, value, originAuthority, sent, LoopbackAuthority.parse_eq_some.mp authority, originSent, named⟩,
              contentType, body, csrfHeader, csrfCookie, ifMatch, range⟩
        all_goals cases called
  · intro allowed
    obtain ⟨host, accepted, origins, routed, passed⟩ := allowed_checks allowed
    unfold plannedCalls
    simp only [accepted, if_neg origins, routed, passed, List.mem_singleton]

variable [WebActor A ε]

theorem mem_handle_iff {pageHtml : Bytes} {app : WebApp A} (parsed : parseRequest raw = .ok request)
    {call : WebEvent ε} (isCall : call.isCall = true) :
    call ∈ (WebApp.handle serde pageHtml raw app).trace ↔ call ∈ plannedCalls serde app.security request := by
  rw [← handle_calls serde pageHtml parsed app, List.mem_filter]
  simp [isCall]

def mutationAnswer (serde : Serde) : Except RevisionConflict ControllerActionResult → HttpResponse
  | .ok result => actionResponse serde result
  | .error _ => errorResponse serde .revisionConflict

/-- The handler runs the actor's mutation on such a request and turns its answer into the
response. -/
theorem handle_of_allowed {pageHtml : Bytes} {app : WebApp A} {revision : Nat} {mutation : WebMutation}
    (allowed : MutationAllowed serde app.security raw request revision mutation) :
    WebApp.handle serde pageHtml raw app =
      ⟨.mutateCalled revision mutation ::
          ((WebActor.mutateIfRevision revision mutation) app.actor).trace.map WebEvent.actor,
        { app with actor := ((WebActor.mutateIfRevision revision mutation) app.actor).state },
        ((WebActor.mutateIfRevision revision mutation) app.actor).out.map (mutationAnswer serde)⟩ := by
  obtain ⟨host, accepted, origins, routed, passed⟩ := allowed_checks allowed
  unfold WebApp.handle
  simp only [allowed.parsed]
  rw [get_bind_run]
  simp only [accepted, if_neg origins]
  unfold WebApp.routed
  simp only [routed]
  unfold WebApp.mutationResponse
  rw [get_bind_run]
  simp only [passed]
  rw [emit_bind_run]
  rcases run : WebActor.mutateIfRevision revision mutation app.actor with ⟨trace, actor, _ | answer⟩
  · rw [zoom_bind_killed run]
    rfl
  · rw [zoom_bind_value run]
    cases answer with
    | error conflict => simp [mutationAnswer, WebApp.actorField]
    | ok result => simp [mutationAnswer, WebApp.actorField]

/-- A request reaches the actor's mutation exactly when it carries everything the gate asks
for, and then once; nothing but a POST does, and the status is read for one path only. -/
theorem mutation_only_through_gate (serde : Serde) (pageHtml raw : Bytes) (app : WebApp A) :
    (∀ revision mutation,
      WebEvent.mutateCalled revision mutation ∈ (WebApp.handle serde pageHtml raw app).trace ↔
        ∃ request, MutationAllowed serde app.security raw request revision mutation) ∧
    (∀ revision mutation,
      WebEvent.mutateCalled revision mutation ∈ (WebApp.handle serde pageHtml raw app).trace →
        (WebApp.handle serde pageHtml raw app).trace.filter WebEvent.isCall =
          [WebEvent.mutateCalled revision mutation]) ∧
    (∀ request, parseRequest raw = .ok request → request.method ≠ .post → ∀ revision mutation,
      WebEvent.mutateCalled revision mutation ∉ (WebApp.handle serde pageHtml raw app).trace) ∧
    (WebEvent.statusCalled ∈ (WebApp.handle serde pageHtml raw app).trace →
      ∃ request, parseRequest raw = .ok request ∧ request.method = .get ∧ request.target = ascii "/api/status") := by
  cases parsed : parseRequest raw with
  | error error =>
    have silent : (WebApp.handle serde pageHtml raw app).trace = [] := by
      unfold WebApp.handle
      rw [parsed]
      rfl
    refine ⟨?_, by simp [silent], by simp, by simp [silent]⟩
    intro revision mutation
    constructor
    · intro called
      simp [silent] at called
    · intro allowed
      obtain ⟨request, allowed⟩ := allowed
      rw [allowed.parsed] at parsed
      cases parsed
  | ok request =>
    have gate (revision : Nat) (mutation : WebMutation) :
        WebEvent.mutateCalled revision mutation ∈ (WebApp.handle serde pageHtml raw app).trace ↔
          MutationAllowed serde app.security raw request revision mutation := by
      rw [mem_handle_iff parsed rfl]
      exact plannedCalls_mutation parsed
    refine ⟨?_, ?_, ?_, ?_⟩
    · intro revision mutation
      rw [gate]
      constructor
      · intro allowed
        exact ⟨request, allowed⟩
      · intro allowed
        obtain ⟨other, allowed⟩ := allowed
        obtain rfl : request = other := Except.ok.inj (parsed.symm.trans allowed.parsed)
        exact allowed
    · intro revision mutation called
      rw [handle_calls serde pageHtml parsed app]
      rw [mem_handle_iff parsed rfl] at called
      exact plannedCalls_single called
    · intro other same notPost revision mutation called
      cases same
      exact notPost ((gate revision mutation).mp called).method
    · intro called
      rw [mem_handle_iff parsed rfl] at called
      have routed : route request.method request.target = .status := by
        unfold plannedCalls at called
        split at called
        · cases called
        · split at called
          · cases called
          · split at called
            · assumption
            · split at called <;> simp at called
            all_goals cases called
      exact ⟨request, rfl, route_eq_status routed⟩

end Gate

/-! A start request of the page, answered by an actor that has one result to give. -/

structure RecordingActor where
  snapshot : StatusSnapshot
  result : ControllerActionResult

instance : WebActor RecordingActor Unit where
  status := do
    let self ← Proc.get
    pure self.snapshot
  mutateIfRevision expectedRevision _ := do
    let self ← Proc.get
    if self.snapshot.status.revision ≠ expectedRevision then pure (.error ⟨⟩) else pure (.ok self.result)

def fixtureSecurity : WebSecurity :=
  ⟨⟨ipv4Localhost, 8096⟩, hex (List.replicate 32 0x11), .inl rfl, by decide, .replicate 32 0x11, by decide, rfl⟩

def fixtureStatus : ControllerStatus :=
  ⟨.nativePair, .ready, unavailableMembers .verified, .ready, none, false, 0, 7, none⟩

def fixtureApp : WebApp RecordingActor :=
  ⟨⟨⟨fixtureStatus, 0⟩, ⟨.start, .acceptedUnconfirmed, .linked, some .broadcastAcknowledgementOnly, none, 8⟩⟩,
    fixtureSecurity⟩

/-- Reads the two bodies of the mutations and writes plain texts. -/
def fixtureSerde : Serde where
  fromSlice body :=
    if body = ascii "\x7b\x7d" then some (.object [])
    else if body = ascii "\x7b\"confirm\":\"recover-stop\"\x7d" then some (mutationJson .recoverStop)
    else none
  toVec := renderPlain

def startRequest : Bytes :=
  ascii "POST /api/start HTTP/1.1" ++ crlf ++ ascii "Host: 127.0.0.1:8096" ++ crlf ++
    ascii "Origin: http://127.0.0.1:8096" ++ crlf ++ ascii "Content-Type: application/json" ++ crlf ++
    ascii "Content-Length: 2" ++ crlf ++ ascii "If-Match: \"7\"" ++ crlf ++
    ascii "X-CSRF-Token: " ++ fixtureSecurity.csrfToken ++ crlf ++
    ascii "Cookie: jbl_aura_csrf=" ++ fixtureSecurity.csrfToken ++ blankLine ++ ascii "\x7b\x7d"

theorem startRequest_through_gate :
    (∃ request, MutationAllowed fixtureSerde fixtureSecurity startRequest request 7 .start) ∧
    (WebApp.handle fixtureSerde [] startRequest fixtureApp).trace.filter WebEvent.isCall =
      [WebEvent.mutateCalled 7 .start] := by
  have called : WebEvent.mutateCalled 7 .start ∈ (WebApp.handle fixtureSerde [] startRequest fixtureApp).trace := by
    decide
  have gate := mutation_only_through_gate fixtureSerde [] startRequest fixtureApp
  exact ⟨(gate.1 7 .start).mp called, gate.2.1 7 .start called⟩

end PlayTogether.Web
