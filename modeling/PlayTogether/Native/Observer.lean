import PlayTogether.Native.Interfaces

/-! The production broadcast observer: acknowledgement only, or a coordinator that
also waits for the matching business notification. -/

namespace PlayTogether.Native
open PlayTogether.Library PlayTogether.Device PlayTogether.Pair

class BroadcastMutationTransport (M : Type) where
  armMutation : DeviceIdentity → M → Reply (Except JblGattFailure Unit) × M
  executeMutation : BroadcastCommand → M → Reply (Except JblGattFailure Unit) × M
  cancelMutation : M → Reply Unit × M

class BroadcastBusinessObserver (B : Type) where
  armBusinessObserver : B → Reply (Except GenaFailure Unit) × B
  observeBusinessResult : BroadcastAction → B → Reply (Except GenaFailure Unit) × B
  cancelBusinessObserver : B → Reply (Except GenaFailure Unit) × B

def broadcastCommand (action : BroadcastAction) (identity : DeviceIdentity) : BroadcastCommand :=
  match action with
  | .start => .start identity
  | .stop => .stop

structure ConfirmedBroadcastCoordinator (B M : Type) where
  business : B
  mutation : M
  deriving DecidableEq

namespace ConfirmedBroadcastCoordinator
variable {B M : Type} [BroadcastBusinessObserver B] [BroadcastMutationTransport M]

def onBusiness {α : Type} (method : B → Reply α × B) (self : ConfirmedBroadcastCoordinator B M) :
    Reply α × ConfirmedBroadcastCoordinator B M :=
  let (reply, business) := method self.business
  (reply, { self with business })

def onMutation {α : Type} (method : M → Reply α × M) (self : ConfirmedBroadcastCoordinator B M) :
    Reply α × ConfirmedBroadcastCoordinator B M :=
  let (reply, mutation) := method self.mutation
  (reply, { self with mutation })

def cancelAll (self : ConfirmedBroadcastCoordinator B M) :
    Reply (Except GenaFailure Unit) × ConfirmedBroadcastCoordinator B M :=
  Reply.andThen (onMutation BroadcastMutationTransport.cancelMutation self) fun _ self =>
    onBusiness BroadcastBusinessObserver.cancelBusinessObserver self

/-- Clean up after a failure; the result of the cleanup itself is dropped. -/
def failAfterCancel {α : Type} (failure : BroadcastResultFailure) (self : ConfirmedBroadcastCoordinator B M) :
    Reply (Except BroadcastResultFailure α) × ConfirmedBroadcastCoordinator B M :=
  Reply.andThen self.cancelAll fun _ self => (.answered (.error failure), self)

def arm (identity : DeviceIdentity) (self : ConfirmedBroadcastCoordinator B M) :
    Reply (Except BroadcastResultFailure Unit) × ConfirmedBroadcastCoordinator B M :=
  Reply.andThen (onBusiness BroadcastBusinessObserver.armBusinessObserver self) fun
    | .error failure, self => self.failAfterCancel (mapGenaFailure failure)
    | .ok (), self =>
      Reply.andThen (onMutation (BroadcastMutationTransport.armMutation identity) self) fun
        | .error failure, self => self.failAfterCancel (mapJblGattFailure failure)
        | .ok (), self => (.answered (.ok ()), self)

/-- Success needs the business result and a clean release of both sides. -/
def execute (action : BroadcastAction) (identity : DeviceIdentity) (self : ConfirmedBroadcastCoordinator B M) :
    Reply (Except BroadcastResultFailure BroadcastResultEvidence) × ConfirmedBroadcastCoordinator B M :=
  Reply.andThen (onMutation (BroadcastMutationTransport.executeMutation (broadcastCommand action identity)) self) fun
    | .error failure, self => self.failAfterCancel (mapJblGattFailure failure)
    | .ok (), self =>
      Reply.andThen (onBusiness (BroadcastBusinessObserver.observeBusinessResult action) self) fun result self =>
        Reply.andThen self.cancelAll fun cleanup self =>
          match result, cleanup with
          | .ok (), .ok () => (.answered (.ok .confirmedNotification), self)
          | .ok (), .error failure | .error failure, _ => (.answered (.error (mapGenaFailure failure)), self)

def cancel (self : ConfirmedBroadcastCoordinator B M) : Reply Unit × ConfirmedBroadcastCoordinator B M :=
  let (reply, self) := self.cancelAll
  (reply.map fun _ => (), self)

end ConfirmedBroadcastCoordinator

inductive ProductionBroadcastObserver (B M : Type) where
  | ack (mutation : M)
  | gena (coordinator : ConfirmedBroadcastCoordinator B M)
  deriving DecidableEq

namespace ProductionBroadcastObserver
variable {B M : Type} [BroadcastBusinessObserver B] [BroadcastMutationTransport M]

def arm (identity : DeviceIdentity) :
    ProductionBroadcastObserver B M → Reply (Except BroadcastResultFailure Unit) × ProductionBroadcastObserver B M
  | .ack mutation =>
    let (reply, mutation) := BroadcastMutationTransport.armMutation identity mutation
    (reply.map (Except.mapError mapJblGattFailure), .ack mutation)
  | .gena coordinator =>
    let (reply, coordinator) := coordinator.arm identity
    (reply, .gena coordinator)

def execute (action : BroadcastAction) (identity : DeviceIdentity) :
    ProductionBroadcastObserver B M →
      Reply (Except BroadcastResultFailure BroadcastResultEvidence) × ProductionBroadcastObserver B M
  | .ack mutation =>
    let (reply, mutation) := BroadcastMutationTransport.executeMutation (broadcastCommand action identity) mutation
    (reply.map fun result => (result.map fun _ => .ackOnly).mapError mapJblGattFailure, .ack mutation)
  | .gena coordinator =>
    let (reply, coordinator) := coordinator.execute action identity
    (reply, .gena coordinator)

def cancel : ProductionBroadcastObserver B M → Reply Unit × ProductionBroadcastObserver B M
  | .ack mutation =>
    let (reply, mutation) := BroadcastMutationTransport.cancelMutation mutation
    (reply, .ack mutation)
  | .gena coordinator =>
    let (reply, coordinator) := coordinator.cancel
    (reply, .gena coordinator)

instance : BroadcastResultObserver (ProductionBroadcastObserver B M) where
  arm _ identity := arm identity
  execute := execute
  cancel := cancel

def IsAck : ProductionBroadcastObserver B M → Prop
  | .ack _ => True
  | .gena _ => False

theorem isAck_arm {identity : DeviceIdentity} {self : ProductionBroadcastObserver B M} (ack : self.IsAck) :
    (arm identity self).2.IsAck := by
  cases self with
  | ack mutation => exact trivial
  | gena coordinator => exact ack.elim

theorem isAck_execute {action : BroadcastAction} {identity : DeviceIdentity} {self : ProductionBroadcastObserver B M}
    (ack : self.IsAck) : (execute action identity self).2.IsAck := by
  cases self with
  | ack mutation => exact trivial
  | gena coordinator => exact ack.elim

theorem isAck_cancel {self : ProductionBroadcastObserver B M} (ack : self.IsAck) : (cancel self).2.IsAck := by
  cases self with
  | ack mutation => exact trivial
  | gena coordinator => exact ack.elim

/-- Without a business observer a successful write is acknowledged and nothing more. -/
theorem execute_ackOnly {action : BroadcastAction} {identity : DeviceIdentity} {self : ProductionBroadcastObserver B M}
    {evidence : BroadcastResultEvidence} (ack : self.IsAck)
    (answered : (execute action identity self).1 = .answered (.ok evidence)) : evidence = .ackOnly := by
  cases self with
  | gena coordinator => exact ack.elim
  | ack mutation =>
    simp only [execute] at answered
    generalize BroadcastMutationTransport.executeMutation (broadcastCommand action identity) mutation = reply at answered
    rcases reply with ⟨(failure | _) | _ | _, mutation⟩
    · cases answered
    · cases answered
      rfl
    · cases answered
    · cases answered

end ProductionBroadcastObserver

/-! Scripted transports with the shape of the source's own test doubles. -/

structure RecordingJbl where
  results : List PlayTogetherWriteResult
  deriving DecidableEq

def RecordingJbl.record (self : RecordingJbl) : Reply PlayTogetherWriteResult × RecordingJbl :=
  let (reply, results) := Reply.next self.results
  (reply, ⟨results⟩)

instance : JblRoleControl RecordingJbl where
  enter := RecordingJbl.record
  exit := RecordingJbl.record

structure MockAura where
  health : AuraHealth
  actions : List AuraActionResult
  nextConnectFailure : Option AuraFailureReason
  nextShutdownFailure : Option AuraFailureReason
  deriving DecidableEq

namespace MockAura

def new (health : AuraHealth) (actions : List AuraActionResult) : MockAura := ⟨health, actions, none, none⟩

def act (self : MockAura) : Reply AuraActionResult × MockAura :=
  let (reply, actions) := Reply.next self.actions
  (reply, { self with actions })

end MockAura

instance : AuraRoleControl MockAura where
  connectVerified _ self := match self.nextConnectFailure with
    | some reason => (.answered (.error ⟨reason⟩), { self with nextConnectFailure := none })
    | none => (.answered (.ok ()), { self with health := .ready })
  health self := (.answered self.health, self)
  transport self := if self.health = .ready then some .le else none
  acquisitionRoute self := if self.health = .ready then .freshLe else .unresolved
  start := MockAura.act
  stop := MockAura.act
  shutdown self := match self.nextShutdownFailure with
    | some reason => (.answered (.error ⟨reason⟩), { self with nextShutdownFailure := none })
    | none => (.answered (.ok ()), { self with health := .offline })

structure MockMutationTransport where
  armResults : List (Except JblGattFailure Unit)
  executeResults : List (Except JblGattFailure Unit)

instance : BroadcastMutationTransport MockMutationTransport where
  armMutation _ self :=
    let (reply, armResults) := Reply.next self.armResults
    (reply, { self with armResults })
  executeMutation _ self :=
    let (reply, executeResults) := Reply.next self.executeResults
    (reply, { self with executeResults })
  cancelMutation self := (.answered (), self)

structure MockBusinessObserver where
  armResults : List (Except GenaFailure Unit)
  observeResults : List (Except GenaFailure Unit)
  cancelResults : List (Except GenaFailure Unit)

instance : BroadcastBusinessObserver MockBusinessObserver where
  armBusinessObserver self :=
    let (reply, armResults) := Reply.next self.armResults
    (reply, { self with armResults })
  observeBusinessResult _ self :=
    let (reply, observeResults) := Reply.next self.observeResults
    (reply, { self with observeResults })
  cancelBusinessObserver self := match self.cancelResults with
    | [] => (.answered (.ok ()), self)
    | result :: cancelResults => (.answered result, { self with cancelResults })

abbrev MockObserver := ProductionBroadcastObserver MockBusinessObserver MockMutationTransport

/-- The addresses `02:00:00:00:00:01` and `02:00:00:00:00:02` of the source's fixtures. -/
def fixtureJblIdentity : DeviceIdentity := ⟨#v[2, 0, 0, 0, 0, 1], by decide, by decide⟩

def fixtureAuraIdentity : DeviceIdentity := ⟨#v[2, 0, 0, 0, 0, 2], by decide, by decide⟩

end PlayTogether.Native
