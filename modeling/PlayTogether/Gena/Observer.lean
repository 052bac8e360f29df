import PlayTogether.Gena.Event
import PlayTogether.Native.Observer

/-! The event observer: it subscribes before the 7957 write, waits on its callback listener
for the result of the action and unsubscribes. What the network answers is part of the
state it runs in. -/

namespace PlayTogether.Gena
open PlayTogether.Library PlayTogether.Device PlayTogether.Native

def maxCallbacks : Nat := 64

def maxSidBytes : Nat := 256

def minCallbackPort : Nat := 1024

def subscriptionSeconds : Nat := 30

def eventPath : String := "/upnp/event/rendercontrol1"

def callbackPrefix : String := "/jbl-aura-event/"

def u32Max : Nat := 2 ^ 32 - 1

structure Ipv4Addr where
  octets : Vector UInt8 4
  deriving DecidableEq

namespace Ipv4Addr

def isUnspecified (address : Ipv4Addr) : Bool := address.octets == #v[0, 0, 0, 0]

def isBroadcast (address : Ipv4Addr) : Bool := address.octets == #v[255, 255, 255, 255]

def isMulticast (address : Ipv4Addr) : Bool := (224 : UInt8) ≤ address.octets[0] && address.octets[0] ≤ 239

def isLoopback (address : Ipv4Addr) : Bool := address.octets[0] == 127

def text (address : Ipv4Addr) : Bytes :=
  [0x2e].intercalate (address.octets.toList.map fun octet => decimal octet.toNat)

end Ipv4Addr

inductive IpAddr where
  | v4 (address : Ipv4Addr)
  | v6 (segments : Vector UInt16 8)
  deriving DecidableEq

/-- What the constructor accepts. -/
structure GenaConfiguration where
  jblAddress : Ipv4Addr
  eventPort : Nat
  callbackPort : Nat
  allowLoopback : Bool
  eventPortUsable : eventPort ≠ 0
  callbackPortUsable : minCallbackPort ≤ callbackPort
  unicast : (jblAddress.isUnspecified || jblAddress.isMulticast || jblAddress.isBroadcast) = false
  remote : (jblAddress.isLoopback && !allowLoopback) = false

/-- One connection to the callback listener: its peer, whether both timeouts can be set on
it, and what reading from it yields. -/
structure Connection where
  peer : IpAddr
  timeoutsSet : Bool
  reads : List Bytes
  deriving DecidableEq

/-- The listener is the queue of connections that were not accepted yet. -/
structure Subscription where
  listener : List Connection
  sid : Bytes
  path : Bytes
  lastSeq : Option Nat
  deriving DecidableEq

/-! ## One callback -/

inductive CallbackOutcome where
  | confirmed
  | rejected
  | pending
  deriving DecidableEq, Repr

/-- Event keys roll from the largest number to one. -/
def sequenceIsNext (previous : Option Nat) (next : Nat) : Bool :=
  match previous with
  | none => true
  | some previous => if previous = u32Max then next == 1 else next == previous + 1

def headerEqIgnoreAsciiCase (value : Option Bytes) (expected : String) : Bool :=
  value.any fun value => eqIgnoreAsciiCase value (ascii expected)

def reduceAction (action : BroadcastAction) (actionCode : Option Int) : CallbackOutcome :=
  match action, actionCode with
  | .start, some 33 | .stop, some 34 => .confirmed
  | .start, some 31 | .stop, some 32 => .rejected
  | _, _ => .pending

def isXmlContentType (contentType : Bytes) : Bool :=
  let mediaType := trim (contentType.takeWhile (· ≠ 0x3b))
  eqIgnoreAsciiCase mediaType (ascii "text/xml") || eqIgnoreAsciiCase mediaType (ascii "application/xml")

def parseSeq (text : Bytes) : Option Nat :=
  if text.isEmpty || !text.all isDigit then none else parseUnsigned u32Max text

/-- The verdict on a request and the event key that the subscription keeps. -/
def validateCallback (decoders : Decoders) (request : HttpMessage) (path sid : Bytes) (lastSeq : Option Nat)
    (action : BroadcastAction) : Except GenaFailure CallbackOutcome × Option Nat :=
  match request.startLine with
  | .response _ => (.error .invalidCallback, lastSeq)
  | .request method target =>
    if method ≠ ascii "NOTIFY" ∨ target ≠ path then (.error .invalidCallback, lastSeq)
    else if request.header "sid" ≠ some sid || !headerEqIgnoreAsciiCase (request.header "nt") "upnp:event" ||
        !headerEqIgnoreAsciiCase (request.header "nts") "upnp:propchange" then (.error .invalidCallback, lastSeq)
    else if (request.header "content-type").any (!isXmlContentType ·) then (.error .invalidCallback, lastSeq)
    else match (request.header "seq").bind parseSeq with
      | none => (.error .invalidCallback, lastSeq)
      | some seq =>
        if !sequenceIsNext lastSeq seq then (.error .invalidCallback, lastSeq)
        else match parseEventBody decoders request.body with
          | none => (.error .invalidCallback, lastSeq)
          | some actionCode => (.ok (reduceAction action actionCode), some seq)

/-! ## The accept loop -/

inductive AcceptAnswer where
  | accepted (connection : Connection)
  | wouldBlock
  | failed
  deriving DecidableEq

structure AcceptTurn where
  deadlinePassed : Bool
  answer : AcceptAnswer
  deriving DecidableEq

/-- What became of an accepted connection: dropped, or answered with 200 or 400. -/
inductive CallbackEvent where
  | dropped (connection : Connection)
  | answered (connection : Connection) (accepted : Bool)
  deriving DecidableEq

def CallbackEvent.connection : CallbackEvent → Connection
  | .dropped connection | .answered connection _ => connection

/-- Reading and judging a connection from the configured address. -/
def handleConnection (decoders : Decoders) (path sid : Bytes) (action : BroadcastAction) (lastSeq : Option Nat)
    (connection : Connection) : CallbackEvent × Except GenaFailure CallbackOutcome × Option Nat :=
  if !connection.timeoutsSet then (.dropped connection, .error .invalidCallback, lastSeq)
  else match readHttpMessage connection.reads .request true with
    | none => (.answered connection false, .error .invalidCallback, lastSeq)
    | some request =>
      let (outcome, lastSeq) := validateCallback decoders request path sid lastSeq action
      (.answered connection outcome.isOk, outcome, lastSeq)

/-- The loop of `observe_until` with what is left of its budget of accepted connections.
Without a result the turns ended before the loop did. -/
def observeLoop (decoders : Decoders) (jblAddress : Ipv4Addr) (path sid : Bytes) (action : BroadcastAction) :
    Nat → List AcceptTurn → Option Nat → Exec CallbackEvent (Option Nat) (Except GenaFailure Unit)
  | 0, _, lastSeq => ⟨[], lastSeq, some (.error .invalidCallback)⟩
  | _ + 1, [], lastSeq => ⟨[], lastSeq, none⟩
  | budget + 1, turn :: turns, lastSeq =>
    if turn.deadlinePassed then ⟨[], lastSeq, some (.error .callbackTimedOut)⟩
    else match turn.answer with
      | .failed => ⟨[], lastSeq, some (.error .listenerUnavailable)⟩
      | .wouldBlock => observeLoop decoders jblAddress path sid action (budget + 1) turns lastSeq
      | .accepted connection =>
        if connection.peer ≠ .v4 jblAddress then
          (observeLoop decoders jblAddress path sid action budget turns lastSeq).after [.dropped connection]
        else match handleConnection decoders path sid action lastSeq connection with
          | (event, .error failure, lastSeq) => ⟨[event], lastSeq, some (.error failure)⟩
          | (event, .ok .confirmed, lastSeq) => ⟨[event], lastSeq, some (.ok ())⟩
          | (event, .ok .rejected, lastSeq) => ⟨[event], lastSeq, some (.error .businessRejected)⟩
          | (event, .ok .pending, lastSeq) =>
            (observeLoop decoders jblAddress path sid action budget turns lastSeq).after [event]

def observeUntil (decoders : Decoders) (jblAddress : Ipv4Addr) (subscription : Subscription)
    (action : BroadcastAction) (turns : List AcceptTurn) :
    Exec CallbackEvent (Option Nat) (Except GenaFailure Unit) :=
  observeLoop decoders jblAddress subscription.path subscription.sid action maxCallbacks turns subscription.lastSeq

/-! ## The listener -/

/-- One turn of the loop as the outside sees it: connections that arrive, and whether the
listener fails. -/
structure ListenerTurn where
  deadlinePassed : Bool
  arrivals : List Connection
  fails : Bool
  deriving DecidableEq

/-- Connections are accepted in the order in which they arrived. -/
def acceptTurns : List Connection → List ListenerTurn → List AcceptTurn
  | _, [] => []
  | queue, turn :: turns =>
    if turn.fails then ⟨turn.deadlinePassed, .failed⟩ :: acceptTurns (queue ++ turn.arrivals) turns
    else match queue ++ turn.arrivals with
      | [] => ⟨turn.deadlinePassed, .wouldBlock⟩ :: acceptTurns [] turns
      | connection :: rest => ⟨turn.deadlinePassed, .accepted connection⟩ :: acceptTurns rest turns

/-- What the host answers while the observer is armed. The arrivals are those on the new
listener until the 7957 write is sent; nothing looks at the listener in between. -/
structure ArmAnswers where
  localAddress : Option Ipv4Addr
  bound : Bool
  nonblocking : Bool
  random : Option (Vector UInt8 32)
  arrivals : List Connection

/-- A reply to an event request is what reading the response yields, or none when the
request could not be sent. -/
structure GenaNetwork where
  sent : List Bytes
  replies : List (Option (List Bytes))
  arms : List ArmAnswers
  observations : List (List ListenerTurn)

/-! ## The observer -/

structure GenaBroadcastObserver (decoders : Decoders) where
  configuration : GenaConfiguration
  subscription : Option Subscription
  network : GenaNetwork

def randomCallbackPath (random : Vector UInt8 32) : Bytes := ascii callbackPrefix ++ hex random.toList

def validSid (sid : Bytes) : Bool :=
  decide (sid.length ≤ maxSidBytes) && decide (5 < sid.length) && (ascii "uuid:").isPrefixOf sid &&
    sid.all (fun byte => 0x21 ≤ byte && byte ≤ 0x7e) && !sid.any (fun byte => (ascii "<>,;").contains byte)

def validSubscriptionTimeout (timeout : Bytes) : Bool :=
  (ascii "Second-").isPrefixOf timeout &&
    (parseUnsigned (2 ^ 16 - 1) (timeout.drop 7)).any fun seconds => 1 ≤ seconds && seconds ≤ subscriptionSeconds

namespace GenaBroadcastObserver
variable {decoders : Decoders}

def eventRequest (method : String) (extraHeaders : List (String × Bytes)) (failure : GenaFailure)
    (self : GenaBroadcastObserver decoders) :
    Reply (Except GenaFailure HttpMessage) × GenaBroadcastObserver decoders :=
  let target := self.configuration.jblAddress.text ++ [0x3a] ++ decimal self.configuration.eventPort
  let request := writeMessage (ascii method ++ [0x20] ++ ascii eventPath ++ ascii " HTTP/1.1")
    ([(ascii "HOST", target), (ascii "Content-Length", ascii "0"), (ascii "Connection", ascii "close")] ++
      extraHeaders.map fun (name, value) => (ascii name, value)) []
  let network := { self.network with sent := self.network.sent ++ [request] }
  match network.replies with
  | [] => (.unanswered, { self with network })
  | reply :: replies =>
    let response := match reply with
      | none => .error failure
      | some reads => match readHttpMessage reads .response false with
        | none => .error failure
        | some response => .ok response
    (.answered response, { self with network := { network with replies } })

/-- The listener is closed first, whatever becomes of the request. -/
def cancel (self : GenaBroadcastObserver decoders) :
    Reply (Except GenaFailure Unit) × GenaBroadcastObserver decoders :=
  match self.subscription with
  | none => (.answered (.ok ()), self)
  | some subscription =>
    Reply.andThen (eventRequest "UNSUBSCRIBE" [("SID", subscription.sid)] .cleanupFailed
        { self with subscription := none }) fun
      | .error failure, self => (.answered (.error failure), self)
      | .ok response, self =>
        (.answered (if response.status = some 200 then .ok () else .error .cleanupFailed), self)

/-- The subscription request on a bound listener and the checks of its response. -/
def subscribe (localAddress : Ipv4Addr) (path : Bytes) (arrivals : List Connection)
    (self : GenaBroadcastObserver decoders) : Reply (Except GenaFailure Unit) × GenaBroadcastObserver decoders :=
  let callback := ascii "<http://" ++ localAddress.text ++ [0x3a] ++ decimal self.configuration.callbackPort ++ path ++
    [0x3e]
  Reply.andThen (eventRequest "SUBSCRIBE" [("CALLBACK", callback), ("NT", ascii "upnp:event"),
      ("TIMEOUT", ascii "Second-" ++ decimal subscriptionSeconds)] .subscriptionUnavailable self) fun
    | .error failure, self => (.answered (.error failure), self)
    | .ok response, self =>
      if response.status ≠ some 200 then (.answered (.error .invalidSubscription), self)
      else match (response.header "sid").filter validSid with
        | none => (.answered (.error .invalidSubscription), self)
        | some sid =>
          if (response.header "timeout").any (!validSubscriptionTimeout ·) then
            Reply.andThen (eventRequest "UNSUBSCRIBE" [("SID", sid)] .cleanupFailed self) fun _ self =>
              (.answered (.error .invalidSubscription), self)
          else (.answered (.ok ()), { self with subscription := some ⟨arrivals, sid, path, none⟩ })

def arm (self : GenaBroadcastObserver decoders) :
    Reply (Except GenaFailure Unit) × GenaBroadcastObserver decoders :=
  Reply.andThen self.cancel fun
    | .error failure, self => (.answered (.error failure), self)
    | .ok (), self => match self.network.arms with
      | [] => (.unanswered, self)
      | answers :: arms =>
        let self := { self with network := { self.network with arms } }
        match answers.localAddress with
        | none => (.answered (.error .routeUnavailable), self)
        | some localAddress =>
          if localAddress.isUnspecified || localAddress.isMulticast ||
              (localAddress.isLoopback && !self.configuration.allowLoopback) then
            (.answered (.error .routeUnavailable), self)
          else if !answers.bound || !answers.nonblocking then (.answered (.error .listenerUnavailable), self)
          else match answers.random with
            | none => (.answered (.error .listenerUnavailable), self)
            | some random => self.subscribe localAddress (randomCallbackPath random) answers.arrivals

def observe (action : BroadcastAction) (self : GenaBroadcastObserver decoders) :
    Reply (Except GenaFailure Unit) × GenaBroadcastObserver decoders :=
  match self.subscription with
  | none => (.answered (.error .listenerUnavailable), self)
  | some subscription => match self.network.observations with
    | [] => (.unanswered, self)
    | turns :: observations =>
      let run := observeUntil decoders self.configuration.jblAddress subscription action
        (acceptTurns subscription.listener turns)
      let self := { self with
        subscription := some { subscription with lastSeq := run.state }
        network := { self.network with observations } }
      match run.out with
      | none => (.unanswered, self)
      | some result => Reply.andThen self.cancel fun cleanup self =>
        match result, cleanup with
        | .ok (), .ok () => (.answered (.ok ()), self)
        | .ok (), .error _ => (.answered (.error .cleanupFailed), self)
        | .error failure, _ => (.answered (.error failure), self)

instance : BroadcastBusinessObserver (GenaBroadcastObserver decoders) where
  armBusinessObserver := arm
  observeBusinessResult := observe
  cancelBusinessObserver := cancel

end GenaBroadcastObserver

end PlayTogether.Gena
