import PlayTogether.Aura.Bearer
import PlayTogether.Library.Followed
import PlayTogether.Native.Observer

/-! What the control core asks of its bearer, over whole runs: an uncertain write forbids the
next one until a shutdown, and only the first packet behind a write can acknowledge it. -/

namespace PlayTogether.Aura
open PlayTogether.Library PlayTogether.Device PlayTogether.Pair PlayTogether.Native

/-! ## Recorded runs -/

/-- Calls of the core on its bearer, each with its answer when it came. -/
inductive IoCall where
  | connectVerified (identity : DeviceIdentity) (reply : Option (Except AuraFailureReason Unit))
  | health (reply : Option AuraHealth)
  | prepareCommand (reply : Option (Except AuraFailureReason Unit))
  | beginWrite (command : AuraPlayTogetherCommand) (reply : Option (Except AuraFailureReason Unit))
  | waitForAck (reply : Option (Except AuraFailureReason AckObservation))
  | shutdown (reply : Option (Except AuraFailureReason Unit))

inductive AuraEvent where
  | call (call : IoCall)
  | returned (result : AuraActionResult)

/-- A bearer together with all that was asked of it and returned to the caller so far. -/
structure Recorded (I : Type) where
  io : I
  history : List AuraEvent

namespace Recorded
variable {I : Type}

def record {α : Type} (method : I → Reply α × I) (call : Option α → IoCall) (self : Recorded I) : Reply α × Recorded I :=
  match method self.io with
  | (.answered a, io) => (.answered a, ⟨io, self.history ++ [.call (call (some a))]⟩)
  | (.unanswered, io) => (.unanswered, ⟨io, self.history ++ [.call (call none)]⟩)
  | (.unissued, io) => (.unissued, ⟨io, self.history⟩)

instance [AuraIo I] : AuraIo (Recorded I) where
  connectVerified identity := record (AuraIo.connectVerified identity) (.connectVerified identity)
  health := record AuraIo.health .health
  prepareCommand := record AuraIo.prepareCommand .prepareCommand
  beginWrite command := record (AuraIo.beginWrite command) (.beginWrite command)
  waitForAck := record AuraIo.waitForAck .waitForAck
  shutdown := record AuraIo.shutdown .shutdown

theorem record_answered {α : Type} {method : I → Reply α × I} {call : Option α → IoCall} {self after : Recorded I} {a : α}
    (answered : record method call self = (.answered a, after)) :
    after.history = self.history ++ [.call (call (some a))] := by
  unfold record at answered
  split at answered
  next =>
    cases answered
    rfl
  next => cases answered
  next => cases answered

end Recorded

inductive AuraOperation where
  | connectVerified (identity : DeviceIdentity)
  | health
  | command (command : AuraPlayTogetherCommand)
  | shutdown

inductive AuraOutcome where
  | connected (result : Except AuraTransportError Unit)
  | healthy (health : AuraHealth)
  | acted (result : AuraActionResult)
  | closed (result : Except AuraTransportError Unit)

namespace AuraControlCore
variable {I : Type} [AuraIo I]

def perform (operation : AuraOperation) (self : AuraControlCore I) : Reply AuraOutcome × AuraControlCore I :=
  match operation with
  | .connectVerified identity => ((self.connectVerified identity).1.map .connected, (self.connectVerified identity).2)
  | .health => (self.health.1.map .healthy, self.health.2)
  | .command command => ((self.command command).1.map .acted, (self.command command).2)
  | .shutdown => (self.shutdown.1.map .closed, self.shutdown.2)

/-- The result of a command is noted where it is returned. -/
def note (outcome : AuraOutcome) (self : AuraControlCore (Recorded I)) : AuraControlCore (Recorded I) :=
  match outcome with
  | .acted result => { self with io := { self.io with history := self.io.history ++ [.returned result] } }
  | .connected _ | .healthy _ | .closed _ => self

end AuraControlCore

/-- States of one process between its operations, and the last one if it is killed. -/
inductive AuraRun {I : Type} [AuraIo I] : (alive : Bool) → AuraControlCore (Recorded I) → Prop where
  | new (io : I) : AuraRun true ⟨⟨io, []⟩, none⟩
  | returned {core after : AuraControlCore (Recorded I)} {outcome : AuraOutcome} (operation : AuraOperation)
      (run : AuraRun true core) (answered : core.perform operation = (.answered outcome, after)) :
      AuraRun true (after.note outcome)
  | killed {core after : AuraControlCore (Recorded I)} {reply : Reply AuraOutcome} (operation : AuraOperation)
      (run : AuraRun true core) (performed : core.perform operation = (reply, after)) (silent : ¬reply.isAnswered) :
      AuraRun false after

/-! ## The latch -/

def AuraEvent.IsUncertain (event : AuraEvent) : Prop := ∃ failure, event = .returned (.outcomeUnknown failure)

def AuraEvent.IsShutdown (event : AuraEvent) : Prop := event = .call (.shutdown (some (.ok ())))

def AuraEvent.IsWrite (event : AuraEvent) : Prop := ∃ command reply, event = .call (.beginWrite command reply)

section Latch
variable {I : Type}

/-- No write behind an uncertain result without a shutdown, and an uncertain result that no
shutdown followed is latched. -/
structure Latched (core : AuraControlCore (Recorded I)) : Prop where
  separated : Separated AuraEvent.IsUncertain AuraEvent.IsShutdown AuraEvent.IsWrite core.io.history
  held : Pending AuraEvent.IsUncertain AuraEvent.IsShutdown core.io.history → core.unresolved.isSome

theorem Latched.settled {core : AuraControlCore (Recorded I)} (latched : Latched core) (free : core.unresolved = none) :
    ¬Pending AuraEvent.IsUncertain AuraEvent.IsShutdown core.io.history := by
  intro pending
  have held := latched.held pending
  rw [free] at held
  cases held

theorem onIo_history {α : Type} {method : I → Reply α × I} {call : Option α → IoCall}
    {core after : AuraControlCore (Recorded I)} {a : α}
    (answered : core.onIo (Recorded.record method call) = (.answered a, after)) :
    after.io.history = core.io.history ++ [.call (call (some a))] ∧ after.unresolved = core.unresolved := by
  unfold AuraControlCore.onIo at answered
  rcases run : Recorded.record method call core.io with ⟨reply, io⟩
  rw [run] at answered
  cases answered
  exact ⟨Recorded.record_answered run, rfl⟩

theorem Latched.cleared {core : AuraControlCore (Recorded I)} (latched : Latched core)
    (settled : ¬Pending AuraEvent.IsUncertain AuraEvent.IsShutdown core.io.history) :
    Latched { core with unresolved := none } :=
  ⟨latched.separated, fun pending => absurd pending settled⟩

theorem Latched.latchUnknown {core : AuraControlCore (Recorded I)} (latched : Latched core) (reason : AuraFailureReason) :
    Latched (core.latchUnknown reason).2 :=
  ⟨latched.separated, fun _ => rfl⟩

/-- A call keeps the latch, unless it is a write on an uncertain bearer. -/
theorem Latched.onIo {α : Type} {method : I → Reply α × I} {call : Option α → IoCall} {core : AuraControlCore (Recorded I)}
    (latched : Latched core) (allowed : ∀ reply, AuraEvent.IsWrite (.call (call reply)) → core.unresolved = none) :
    Latched (core.onIo (Recorded.record method call)).2 := by
  have extended (reply : Option α) (io : I) : Latched
      { core with io := ⟨io, core.io.history ++ [.call (call reply)]⟩ } := by
    constructor
    · apply separated_snoc latched.separated
      intro write
      exact latched.settled (allowed reply write)
    · intro pending
      obtain opened | ⟨pending, _⟩ := pending_snoc pending
      · obtain ⟨_, other⟩ := opened
        cases other
      · exact latched.held pending
  unfold AuraControlCore.onIo Recorded.record
  rcases method core.io.io with ⟨_ | _ | _, io⟩
  · exact extended _ io
  · exact extended _ io
  · exact ⟨latched.separated, latched.held⟩

theorem Latched.onIo_quiet {α : Type} {method : I → Reply α × I} {call : Option α → IoCall}
    {core : AuraControlCore (Recorded I)} (latched : Latched core) (quiet : ∀ reply, ¬AuraEvent.IsWrite (.call (call reply))) :
    Latched (core.onIo (Recorded.record method call)).2 :=
  latched.onIo fun reply write => absurd write (quiet reply)

variable [AuraIo I]

/-- Behind a successful shutdown nothing is pending. -/
theorem shutdown_settles {core after : AuraControlCore (Recorded I)}
    (answered : core.onIo AuraIo.shutdown = (.answered (.ok ()), after)) :
    ¬Pending AuraEvent.IsUncertain AuraEvent.IsShutdown after.io.history := by
  rw [(onIo_history answered).1]
  intro pending
  obtain ⟨_, other⟩ | ⟨_, open_end⟩ := pending_snoc pending
  · cases other
  · exact open_end rfl

theorem connect_settles {core after : AuraControlCore (Recorded I)} {identity : DeviceIdentity}
    {result : Except AuraFailureReason Unit}
    (settled : ¬Pending AuraEvent.IsUncertain AuraEvent.IsShutdown core.io.history)
    (answered : core.onIo (AuraIo.connectVerified identity) = (.answered result, after)) :
    ¬Pending AuraEvent.IsUncertain AuraEvent.IsShutdown after.io.history := by
  rw [(onIo_history answered).1]
  intro pending
  obtain ⟨_, other⟩ | ⟨pending, _⟩ := pending_snoc pending
  · cases other
  · exact settled pending

section Operations
variable {core : AuraControlCore (Recorded I)} (latched : Latched core)
include latched

theorem shutdown_latched : Latched core.shutdown.2 := by
  have closed : Latched (core.onIo AuraIo.shutdown).2 := latched.onIo_quiet nofun
  apply Reply.andThen_state closed
  intro result after answered
  rw [answered] at closed
  cases result with
  | error reason => exact closed
  | ok _ => exact closed.cleared (shutdown_settles answered)

theorem releaseUncertain_latched : Latched core.releaseUncertain.2 := by
  unfold AuraControlCore.releaseUncertain
  split
  · exact latched.onIo_quiet nofun
  · exact latched

theorem releaseUncertain_settles {after : AuraControlCore (Recorded I)}
    (released : core.releaseUncertain = (.answered (.ok ()), after)) :
    ¬Pending AuraEvent.IsUncertain AuraEvent.IsShutdown after.io.history := by
  unfold AuraControlCore.releaseUncertain at released
  split at released
  next => exact shutdown_settles released
  next free =>
    cases released
    exact latched.settled (by simpa using free)

theorem connectVerified_latched (identity : DeviceIdentity) : Latched (core.connectVerified identity).2 := by
  have released := releaseUncertain_latched latched
  apply Reply.andThen_state released
  intro result middle answered
  rw [answered] at released
  cases result with
  | error reason => exact released
  | ok _ =>
    have settled := releaseUncertain_settles latched answered
    have connected : Latched (middle.onIo (AuraIo.connectVerified identity)).2 := released.onIo_quiet nofun
    apply Reply.andThen_state connected
    intro result after answered
    rw [answered] at connected
    cases result with
    | error reason => exact connected
    | ok _ => exact connected.cleared (connect_settles settled answered)

theorem health_latched : Latched core.health.2 := by
  unfold AuraControlCore.health
  split
  · exact latched
  · exact latched.onIo_quiet nofun

theorem command_latched (command : AuraPlayTogetherCommand) : Latched (core.command command).2 := by
  unfold AuraControlCore.command
  split
  next => exact latched
  next free =>
    have probed : Latched (core.onIo AuraIo.health).2 := latched.onIo_quiet nofun
    apply Reply.andThen_state probed
    intro health ready answered
    rw [answered] at probed
    have open_core : ready.unresolved = none := (onIo_history answered).2.trans free
    split
    · exact probed
    · have prepared : Latched (ready.onIo AuraIo.prepareCommand).2 := probed.onIo_quiet nofun
      apply Reply.andThen_state prepared
      intro result drained answered
      rw [answered] at prepared
      have still_open : drained.unresolved = none := (onIo_history answered).2.trans open_core
      cases result with
      | error reason => exact prepared
      | ok _ =>
        have written : Latched (drained.onIo (AuraIo.beginWrite command)).2 := prepared.onIo fun _ _ => still_open
        apply Reply.andThen_state written
        intro result sent answered
        rw [answered] at written
        cases result with
        | error reason => exact written.latchUnknown reason
        | ok _ =>
          have waited : Latched (sent.onIo AuraIo.waitForAck).2 := written.onIo_quiet nofun
          apply Reply.andThen_state waited
          intro result after answered
          rw [answered] at waited
          rcases result with reason | _ | _
          · exact waited.latchUnknown reason
          · exact waited
          · exact waited.latchUnknown _

end Operations

theorem perform_latched {core : AuraControlCore (Recorded I)} (latched : Latched core) (operation : AuraOperation) :
    Latched (core.perform operation).2 := by
  cases operation with
  | connectVerified identity => exact connectVerified_latched latched identity
  | health => exact health_latched latched
  | command command => exact command_latched latched command
  | shutdown => exact shutdown_latched latched

/-- An uncertain result is latched when it is returned. -/
theorem command_unknown {command : AuraPlayTogetherCommand} {core after : AuraControlCore I} {failure : AuraActionFailure}
    (returned : core.command command = (.answered (.outcomeUnknown failure), after)) : after.unresolved = some failure := by
  unfold AuraControlCore.command at returned
  split at returned
  next held latched =>
    cases returned
    exact latched
  next =>
    obtain ⟨health, ready, _, returned⟩ := Reply.andThen_answered.mp returned
    split at returned
    next => cases returned
    next =>
      obtain ⟨result, drained, _, returned⟩ := Reply.andThen_answered.mp returned
      cases result with
      | error reason => cases returned
      | ok _ =>
        obtain ⟨result, sent, _, returned⟩ := Reply.andThen_answered.mp returned
        cases result with
        | error reason =>
          cases returned
          rfl
        | ok _ =>
          obtain ⟨result, waited, _, returned⟩ := Reply.andThen_answered.mp returned
          rcases result with reason | _ | _
          · cases returned
            rfl
          · cases returned
          · cases returned
            rfl

theorem acted_command {core after : AuraControlCore I} {operation : AuraOperation} {result : AuraActionResult}
    (answered : core.perform operation = (.answered (.acted result), after)) :
    ∃ command, core.command command = (.answered result, after) := by
  have state := congrArg Prod.snd answered
  have reply := congrArg Prod.fst answered
  cases operation with
  | connectVerified identity =>
    obtain ⟨_, _, other⟩ := Reply.map_answered.mp reply
    cases other
  | health =>
    obtain ⟨_, _, other⟩ := Reply.map_answered.mp reply
    cases other
  | shutdown =>
    obtain ⟨_, _, other⟩ := Reply.map_answered.mp reply
    cases other
  | command command =>
    obtain ⟨value, answer, same⟩ := Reply.map_answered.mp reply
    obtain rfl := AuraOutcome.acted.inj same
    exact ⟨command, Prod.ext answer state⟩

theorem note_latched {core after : AuraControlCore (Recorded I)} {operation : AuraOperation} {outcome : AuraOutcome}
    (latched : Latched after) (answered : core.perform operation = (.answered outcome, after)) :
    Latched (after.note outcome) := by
  cases outcome with
  | connected result => exact latched
  | healthy health => exact latched
  | closed result => exact latched
  | acted result =>
    constructor
    · apply separated_snoc latched.separated
      intro write
      obtain ⟨_, _, other⟩ := write
      cases other
    · intro pending
      obtain ⟨failure, same⟩ | ⟨pending, _⟩ := pending_snoc pending
      · obtain rfl := AuraEvent.returned.inj same
        obtain ⟨command, returned⟩ := acted_command answered
        change after.unresolved.isSome = true
        rw [command_unknown returned]
        rfl
      · exact latched.held pending

theorem auraRun_latched {alive : Bool} {core : AuraControlCore (Recorded I)} (run : AuraRun alive core) : Latched core := by
  induction run with
  | new io => exact ⟨separated_nil, fun pending => absurd pending not_pending_nil⟩
  | returned operation run answered ih =>
    have latched := perform_latched ih operation
    rw [answered] at latched
    exact note_latched latched answered
  | killed operation run performed silent ih =>
    have latched := perform_latched ih operation
    rw [performed] at latched
    exact latched

/-! ## One command -/

/-- A command is accepted behind its own write, and one that is rejected has not written. -/
theorem command_calls {command : AuraPlayTogetherCommand} {core after : AuraControlCore (Recorded I)}
    {result : AuraActionResult} (returned : core.command command = (.answered result, after)) :
    ∃ calls, after.io.history = core.io.history ++ calls ∧
      (result = .accepted → calls = [.call (.health (some .ready)), .call (.prepareCommand (some (.ok ()))),
        .call (.beginWrite command (some (.ok ()))), .call (.waitForAck (some (.ok .accepted)))]) ∧
      (∀ failure, result = .rejectedBeforeSend failure → ∀ event ∈ calls, ¬event.IsWrite) := by
  unfold AuraControlCore.command at returned
  split at returned
  next =>
    cases returned
    exact ⟨[], (List.append_nil _).symm, nofun, nofun⟩
  next =>
    obtain ⟨health, ready, probed, returned⟩ := Reply.andThen_answered.mp returned
    have first := (onIo_history probed).1
    split at returned
    next unready =>
      cases returned
      refine ⟨_, first, nofun, fun _ _ event member => ?_⟩
      rw [List.mem_singleton] at member
      subst member
      nofun
    next isReady =>
      obtain rfl := not_not.mp isReady
      obtain ⟨result', drained, prepared, returned⟩ := Reply.andThen_answered.mp returned
      have second := (onIo_history prepared).1
      rw [first, List.append_assoc] at second
      cases result' with
      | error reason =>
        cases returned
        refine ⟨_, second, nofun, fun _ _ event member => ?_⟩
        rw [List.singleton_append, List.mem_cons, List.mem_singleton] at member
        obtain rfl | rfl := member
        · nofun
        · nofun
      | ok _ =>
        obtain ⟨result', sent, written, returned⟩ := Reply.andThen_answered.mp returned
        have third := (onIo_history written).1
        rw [second, List.append_assoc] at third
        cases result' with
        | error reason =>
          cases returned
          exact ⟨_, third, nofun, nofun⟩
        | ok _ =>
          obtain ⟨result', waited, acknowledged, returned⟩ := Reply.andThen_answered.mp returned
          have fourth := (onIo_history acknowledged).1
          rw [third, List.append_assoc] at fourth
          rcases result' with reason | _ | _
          · cases returned
            exact ⟨_, fourth, nofun, nofun⟩
          · cases returned
            exact ⟨_, fourth, fun _ => rfl, nofun⟩
          · cases returned
            exact ⟨_, fourth, nofun, nofun⟩

end Latch

/-! ## Packets -/

def attReceiveBufferSize : Nat := 517

/-- The one packet that acknowledges a command. -/
def ackPacket : Bytes := [0x1b, 0xec, 0x03] ++ successAck

theorem observeAck_accepted {packet : Bytes} : observeAck packet = .accepted ↔ packet = ackPacket := by
  constructor
  · intro accepted
    unfold observeAck at accepted
    split at accepted
    next handle value parsed =>
      split at accepted
      next own =>
        obtain ⟨rfl, rfl⟩ := own
        unfold parseAttPdu at parsed
        split at parsed
        next => cases parsed
        next low high rest =>
          obtain ⟨sum, rfl⟩ := AttPdu.notification.inj parsed
          have small := low.toNat_lt
          have handle : attAuraNotifyHandle = 1004 := rfl
          have lowByte : low = 0xec := UInt8.toNat_inj.mp (by change low.toNat = 236; omega)
          have highByte : high = 0x03 := UInt8.toNat_inj.mp (by change high.toNat = 3; omega)
          rw [lowByte, highByte]
          rfl
        next => cases parsed
      next => cases accepted
    next => cases accepted
    next => cases accepted
  · intro same
    rw [same]
    decide

/-- Until one receive returns: the packets that arrive, and whether the channel ends. -/
structure SocketTurn where
  arrivals : List Bytes
  closes : Bool

/-- Packets are received in the order in which they arrived, and a receive comes back empty
only where none is queued. An empty packet is read as an end. -/
def receiveTurns : List Bytes → List SocketTurn → List Receive
  | _, [] => []
  | queue, turn :: turns =>
    if turn.closes then .closed :: receiveTurns (queue ++ turn.arrivals) turns
    else match queue ++ turn.arrivals with
      | [] => .nothing :: receiveTurns [] turns
      | [] :: rest => .closed :: receiveTurns rest turns
      | (byte :: packet) :: rest => .packet ((byte :: packet).take attReceiveBufferSize) :: receiveTurns rest turns

/-- Whoever receives until nothing is left has received all that was queued. -/
theorem receiveTurns_drained {queue drained : List Bytes} {turns : List SocketTurn} {rest : List Receive}
    (received : receiveTurns queue turns = drained.map .packet ++ .nothing :: rest) :
    queue.map (·.take attReceiveBufferSize) <+: drained := by
  induction turns generalizing queue drained with
  | nil => simp [receiveTurns] at received
  | cons turn turns ih =>
    unfold receiveTurns at received
    split at received
    next =>
      cases drained with
      | nil => cases received
      | cons packet drained => cases received
    next =>
      split at received
      next none =>
        obtain ⟨rfl, _⟩ := List.append_eq_nil_iff.mp none
        exact List.nil_prefix
      next =>
        cases drained with
        | nil => cases received
        | cons packet drained => cases received
      next byte packet later queued =>
        cases drained with
        | nil => cases received
        | cons first drained =>
          obtain ⟨same, behind⟩ := List.cons.inj received
          obtain rfl := Receive.packet.inj same
          have inner := ih behind
          cases queue with
          | nil => exact List.nil_prefix
          | cons head queue =>
            obtain ⟨rfl, rfl⟩ := List.cons.inj queued
            rw [List.append_eq, List.map_append] at inner
            exact List.cons_prefix_cons.mpr ⟨rfl, (List.prefix_append _ _).trans inner⟩

namespace BluezIo

theorem receive_answered {self after : BluezIo} {received : Receive} (answered : self.receive = (.answered received, after)) :
    self.script.receives = received :: after.script.receives := by
  unfold receive ask BluezScript.ask Reply.next at answered
  dsimp only at answered
  split at answered
  next => cases answered
  next first rest script =>
    cases answered
    exact script

theorem drainRawAttPackets_drained {count : Nat} {self after : BluezIo}
    (drained : drainRawAttPackets count self = (.answered (.ok ()), after)) :
    ∃ packets : List Bytes, packets.length < count ∧
      self.script.receives = packets.map .packet ++ .nothing :: after.script.receives := by
  induction count generalizing self with
  | zero => cases drained
  | succ count ih =>
    obtain ⟨received, middle, answered, rest⟩ := Reply.andThen_answered.mp drained
    have script := receive_answered answered
    cases received with
    | nothing =>
      cases rest
      exact ⟨[], Nat.zero_lt_succ count, script⟩
    | closed => cases rest
    | packet bytes =>
      obtain ⟨packets, few, behind⟩ := ih rest
      refine ⟨bytes :: packets, Nat.succ_lt_succ few, ?_⟩
      rw [script, behind]
      rfl

theorem health_receives {self after : BluezIo} {health : AuraHealth} (answered : self.health = (.answered health, after)) :
    after.script.receives = self.script.receives := by
  unfold BluezIo.health at answered
  split at answered
  next =>
    cases answered
    rfl
  next =>
    obtain ⟨observed, middle, asked, answered⟩ := Reply.andThen_answered.mp answered
    have kept : middle.script.receives = self.script.receives := by
      obtain rfl : (self.ask _).2 = middle := congrArg Prod.snd asked
      rfl
    rw [← kept]
    rcases observed with _ | _ | _
    · cases answered
      rfl
    · cases answered
      rfl
    · cases answered
      rfl

theorem beginWrite_receives {command : AuraPlayTogetherCommand} {self after : BluezIo}
    {result : Except AuraFailureReason Unit} (answered : self.beginWrite command = (.answered result, after)) :
    after.script.receives = self.script.receives := by
  unfold beginWrite at answered
  split at answered
  next =>
    cases answered
    rfl
  next =>
    obtain ⟨written, middle, asked, answered⟩ := Reply.andThen_answered.mp answered
    cases answered
    obtain rfl : (self.ask _).2 = after := congrArg Prod.snd asked
    rfl

theorem prepareCommand_drained {self after : BluezIo} (prepared : self.prepareCommand = (.answered (.ok ()), after)) :
    ∃ packets : List Bytes, packets.length < maxStaleNotifications ∧
      self.script.receives = packets.map .packet ++ .nothing :: after.script.receives := by
  unfold prepareCommand at prepared
  split at prepared
  next => cases prepared
  next => exact drainRawAttPackets_drained prepared

theorem waitForAck_accepted {self after : BluezIo} (acknowledged : self.waitForAck = (.answered (.ok .accepted), after)) :
    self.script.receives = .packet ackPacket :: after.script.receives := by
  unfold waitForAck at acknowledged
  split at acknowledged
  next => cases acknowledged
  next =>
    obtain ⟨received, middle, answered, rest⟩ := Reply.andThen_answered.mp acknowledged
    have script := receive_answered answered
    cases received with
    | nothing => cases rest
    | closed => cases rest
    | packet bytes =>
      simp only [Prod.mk.injEq, Reply.answered.injEq, Except.ok.injEq] at rest
      obtain ⟨accepted, rfl⟩ := rest
      rw [script, observeAck_accepted.mp accepted]

theorem health_ready {self after : BluezIo} (answered : self.health = (.answered .ready, after)) :
    after.bearer.isSome = true := by
  unfold BluezIo.health at answered
  split at answered
  next => cases answered
  next bearer held =>
    obtain ⟨observed, middle, asked, answered⟩ := Reply.andThen_answered.mp answered
    have kept : middle.bearer = self.bearer := by
      obtain rfl : (self.ask _).2 = middle := congrArg Prod.snd asked
      rfl
    rcases observed with _ | _ | _
    · cases answered
    · cases answered
    · cases answered
      rw [kept, held]
      rfl

/-- A queue that is longer than the bound is refused, and nothing is sent. -/
theorem drainRawAttPackets_overflow {count : Nat} {self : BluezIo} {packets : List Bytes} {rest : List Receive}
    (many : packets.length = count) (queued : self.script.receives = packets.map .packet ++ rest) :
    ∃ after, drainRawAttPackets count self = (.answered (.error .notificationQueueInvalid), after) ∧
      after.script.sends = self.script.sends := by
  induction count generalizing self packets with
  | zero => exact ⟨self, rfl, rfl⟩
  | succ count ih =>
    cases packets with
    | nil => cases many
    | cons packet packets =>
      have received : self.receive = (.answered (.packet packet),
          { self with script := { self.script with receives := packets.map .packet ++ rest } }) := by
        unfold receive ask BluezScript.ask
        dsimp only
        rw [queued]
        rfl
      obtain ⟨after, drained, unsent⟩ := @ih { self with script := { self.script with receives := packets.map .packet ++ rest } }
        packets (Nat.succ.inj many) rfl
      exact ⟨after, Reply.andThen_answered.mpr ⟨_, _, received, drained⟩, unsent⟩

end BluezIo

/-- The calls of an accepted command on its bearer, in their order. -/
structure AcceptedCommand (command : AuraPlayTogetherCommand) (start after : BluezIo) where
  ready : BluezIo
  prepared : BluezIo
  written : BluezIo
  healthy : start.health = (.answered .ready, ready)
  drained : ready.prepareCommand = (.answered (.ok ()), prepared)
  wrote : prepared.beginWrite command = (.answered (.ok ()), written)
  acknowledged : written.waitForAck = (.answered (.ok .accepted), after)

theorem onIo_run {I α : Type} {method : I → Reply α × I} {core after : AuraControlCore I} {reply : Reply α}
    (run : core.onIo method = (reply, after)) : method core.io = (reply, after.io) := by
  unfold AuraControlCore.onIo at run
  rcases inner : method core.io with ⟨answer, io⟩
  rw [inner] at run
  cases run
  rfl

theorem command_accepted {command : AuraPlayTogetherCommand} {core after : AuraControlCore BluezIo}
    (accepted : core.command command = (.answered .accepted, after)) :
    Nonempty (AcceptedCommand command core.io after.io) := by
  unfold AuraControlCore.command at accepted
  split at accepted
  next => cases accepted
  next =>
    obtain ⟨health, ready, healthy, accepted⟩ := Reply.andThen_answered.mp accepted
    split at accepted
    next => cases accepted
    next isReady =>
      obtain rfl := not_not.mp isReady
      obtain ⟨result, prepared, drained, accepted⟩ := Reply.andThen_answered.mp accepted
      cases result with
      | error reason => cases accepted
      | ok _ =>
        obtain ⟨result, written, wrote, accepted⟩ := Reply.andThen_answered.mp accepted
        cases result with
        | error reason => cases accepted
        | ok _ =>
          obtain ⟨result, waited, acknowledged, accepted⟩ := Reply.andThen_answered.mp accepted
          rcases result with reason | _ | _
          · cases accepted
          · cases accepted
            exact ⟨⟨ready.io, prepared.io, written.io, onIo_run healthy, onIo_run drained, onIo_run wrote,
              onIo_run acknowledged⟩⟩
          · cases accepted

theorem onIo_of_run {I α : Type} {method : I → Reply α × I} {core : AuraControlCore I} {reply : Reply α} {io : I}
    (run : method core.io = (reply, io)) : core.onIo method = (reply, { core with io }) := by
  unfold AuraControlCore.onIo
  rw [run]

theorem command_overflow {command : AuraPlayTogetherCommand} {core : AuraControlCore BluezIo} {ready : BluezIo}
    {packets : List Bytes} {rest : List Receive} (free : core.unresolved = none)
    (healthy : core.io.health = (.answered .ready, ready)) (many : packets.length = maxStaleNotifications)
    (queued : ready.script.receives = packets.map .packet ++ rest) :
    ∃ after, core.command command = (.answered (.rejectedBeforeSend ⟨.notificationQueueInvalid⟩), after) ∧
      after.io.script.sends = ready.script.sends := by
  obtain ⟨bearer, held⟩ := Option.isSome_iff_exists.mp (BluezIo.health_ready healthy)
  obtain ⟨after, drained, unsent⟩ := BluezIo.drainRawAttPackets_overflow many queued
  have prepared : ready.prepareCommand = (.answered (.error .notificationQueueInvalid), after) := by
    unfold BluezIo.prepareCommand
    rw [held]
    exact drained
  obtain ⟨io, unresolved⟩ := core
  obtain rfl : unresolved = none := free
  refine ⟨⟨after, none⟩, Reply.andThen_answered.mpr ⟨.ready, ⟨ready, none⟩, onIo_of_run healthy, ?_⟩, unsent⟩
  rw [if_neg (not_not_intro rfl)]
  exact Reply.andThen_answered.mpr ⟨_, ⟨after, none⟩, @onIo_of_run _ _ _ ⟨ready, none⟩ _ _ prepared, rfl⟩

/-- A write behind an uncertain result has a shutdown before it. A command is accepted behind
its own write, by the packet that is received first behind it, and whatever was queued when
the command began was received before; a command that is rejected has not written. -/
theorem acknowledgement_follows_own_write :
    (∀ (I : Type) [AuraIo I] (alive : Bool) (core : AuraControlCore (Recorded I)), AuraRun alive core →
      Separated AuraEvent.IsUncertain AuraEvent.IsShutdown AuraEvent.IsWrite core.io.history) ∧
    (∀ (I : Type) [AuraIo I] (command : AuraPlayTogetherCommand) (core after : AuraControlCore (Recorded I))
      (result : AuraActionResult), core.command command = (.answered result, after) →
      ∃ calls, after.io.history = core.io.history ++ calls ∧
        (result = .accepted → calls = [.call (.health (some .ready)), .call (.prepareCommand (some (.ok ()))),
          .call (.beginWrite command (some (.ok ()))), .call (.waitForAck (some (.ok .accepted)))]) ∧
        (∀ failure, result = .rejectedBeforeSend failure → ∀ event ∈ calls, ¬event.IsWrite)) ∧
    (∀ (command : AuraPlayTogetherCommand) (core after : AuraControlCore BluezIo),
      core.command command = (.answered .accepted, after) →
      ∃ (calls : AcceptedCommand command core.io after.io) (stale : List Bytes), stale.length < maxStaleNotifications ∧
        core.io.script.receives = stale.map .packet ++ .nothing :: calls.written.script.receives ∧
        calls.written.script.receives = .packet ackPacket :: after.io.script.receives ∧
        ∀ queued turns, core.io.script.receives = receiveTurns queued turns →
          queued.map (·.take attReceiveBufferSize) <+: stale) ∧
    (∀ (command : AuraPlayTogetherCommand) (core : AuraControlCore BluezIo) (ready : BluezIo) (packets : List Bytes)
      (rest : List Receive), core.unresolved = none → core.io.health = (.answered .ready, ready) →
      packets.length = maxStaleNotifications → ready.script.receives = packets.map .packet ++ rest →
      ∃ after, core.command command = (.answered (.rejectedBeforeSend ⟨.notificationQueueInvalid⟩), after) ∧
        after.io.script.sends = ready.script.sends) := by
  refine ⟨?_, ?_, ?_, ?_⟩
  · intro I _ alive core run
    exact (auraRun_latched run).separated
  · intro I _ command core after result returned
    exact command_calls returned
  · intro command core after accepted
    obtain ⟨calls⟩ := command_accepted accepted
    obtain ⟨stale, few, drained⟩ := BluezIo.prepareCommand_drained calls.drained
    rw [BluezIo.health_receives calls.healthy, ← BluezIo.beginWrite_receives calls.wrote] at drained
    refine ⟨calls, stale, few, drained, BluezIo.waitForAck_accepted calls.acknowledged, fun queued turns arrived => ?_⟩
    rw [arrived] at drained
    exact receiveTurns_drained drained
  · intro command core ready packets rest free healthy many queued
    exact command_overflow free healthy many queued

/-- A bearer with an acknowledgement left over from before, and the one of this command. -/
def fixtureSocket : List SocketTurn := [⟨[], false⟩, ⟨[], false⟩, ⟨[ackPacket], false⟩]

theorem routeFits_le : RouteFits .le .freshLe := .inr ⟨rfl, rfl⟩

def fixtureControl : AuraControlCore BluezIo :=
  ⟨⟨some ⟨fixtureAuraIdentity, .le, .freshLe, routeFits_le⟩,
    ⟨[], [], [], [.ok true], receiveTurns [ackPacket] fixtureSocket, [some 10]⟩⟩, none⟩

theorem left_over_acknowledgement_is_drained : ∃ after,
    fixtureControl.command .on = (.answered .accepted, after) ∧ after.io.script.receives = [] ∧
    ∃ stale : List Bytes, stale.length < maxStaleNotifications ∧ [ackPacket] <+: stale := by
  obtain ⟨calls, stale, few, _, _, drained⟩ := acknowledgement_follows_own_write.2.2.1 .on fixtureControl _ rfl
  exact ⟨_, rfl, rfl, stale, few, drained [ackPacket] fixtureSocket rfl⟩

end PlayTogether.Aura
