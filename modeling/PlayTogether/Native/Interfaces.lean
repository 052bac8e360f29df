import PlayTogether.Device.Vocabulary
import PlayTogether.Pair.Backend

/-! The three device interfaces of the native backend and the role writes that
cross them. -/

namespace PlayTogether.Native
open PlayTogether.Library PlayTogether.Device PlayTogether.Pair

class JblRoleControl (J : Type) where
  enter : J → Reply PlayTogetherWriteResult × J
  exit : J → Reply PlayTogetherWriteResult × J

class AuraRoleControl (A : Type) where
  connectVerified : DeviceIdentity → A → Reply (Except AuraTransportError Unit) × A
  health : A → Reply AuraHealth × A
  transport : A → Option AuraBearerTransport
  acquisitionRoute : A → AuraAcquisitionRoute
  start : A → Reply AuraActionResult × A
  stop : A → Reply AuraActionResult × A
  shutdown : A → Reply (Except AuraTransportError Unit) × A

/-- Closed coordinator boundary for the 7957 mutation and its 7951 evidence. -/
class BroadcastResultObserver (O : Type) where
  arm : BroadcastAction → DeviceIdentity → O → Reply (Except BroadcastResultFailure Unit) × O
  execute : BroadcastAction → DeviceIdentity → O →
    Reply (Except BroadcastResultFailure BroadcastResultEvidence) × O
  cancel : O → Reply Unit × O

/-- Calls of the native core, each with its answer. An absent answer means that the
process was killed while the call was out. -/
inductive NativeCall where
  | jblEnter (reply : Option PlayTogetherWriteResult)
  | jblExit (reply : Option PlayTogetherWriteResult)
  | auraConnect (reply : Option (Except AuraTransportError Unit))
  | auraHealth (reply : Option AuraHealth)
  | auraStart (reply : Option AuraActionResult)
  | auraStop (reply : Option AuraActionResult)
  | auraShutdown (reply : Option (Except AuraTransportError Unit))
  | observerArm (action : BroadcastAction) (reply : Option (Except BroadcastResultFailure Unit))
  | observerExecute (action : BroadcastAction)
      (reply : Option (Except BroadcastResultFailure BroadcastResultEvidence))
  | observerCancel (reply : Option Unit)
  | sleep (delay : Nat)

inductive RoleCommand where
  | jblEnter
  | broadcastStart
  | auraOn
  | auraOff
  | broadcastStop
  | jblExit
  deriving DecidableEq, Repr

/-- What is known of a role write afterwards. -/
inductive Delivery where
  | accepted
  | notSent
  | maybeSent
  deriving DecidableEq, Repr

structure RoleWrite where
  command : RoleCommand
  delivery : Delivery
  deriving DecidableEq, Repr

/-- An explicit OneOS rejection was delivered; any other rejection was not sent. -/
def jblDelivery : Option PlayTogetherWriteResult → Delivery
  | some (.accepted _) => .accepted
  | some (.rejected .controlCommandRejected) => .maybeSent
  | some (.rejected _) => .notSent
  | some (.outcomeUnknown _) | none => .maybeSent

def auraDelivery : Option AuraActionResult → Delivery
  | some .accepted => .accepted
  | some (.rejectedBeforeSend _) => .notSent
  | some (.outcomeUnknown _) | none => .maybeSent

def broadcastDelivery : Option (Except BroadcastResultFailure BroadcastResultEvidence) → Delivery
  | some (.ok _) => .accepted
  | some (.error _) | none => .maybeSent

def NativeCall.roleWrite : NativeCall → Option RoleWrite
  | .jblEnter reply => some ⟨.jblEnter, jblDelivery reply⟩
  | .jblExit reply => some ⟨.jblExit, jblDelivery reply⟩
  | .auraStart reply => some ⟨.auraOn, auraDelivery reply⟩
  | .auraStop reply => some ⟨.auraOff, auraDelivery reply⟩
  | .observerExecute .start reply => some ⟨.broadcastStart, broadcastDelivery reply⟩
  | .observerExecute .stop reply => some ⟨.broadcastStop, broadcastDelivery reply⟩
  | .auraConnect _ | .auraHealth _ | .auraShutdown _ | .observerArm _ _ | .observerCancel _
  | .sleep _ => none

section RoleWrite
variable {action : BroadcastAction} {jbl : Option PlayTogetherWriteResult} {aura : Option AuraActionResult}

@[simp] theorem roleWrite_jblEnter : (NativeCall.jblEnter jbl).roleWrite = some ⟨.jblEnter, jblDelivery jbl⟩ := rfl

@[simp] theorem roleWrite_jblExit : (NativeCall.jblExit jbl).roleWrite = some ⟨.jblExit, jblDelivery jbl⟩ := rfl

@[simp] theorem roleWrite_auraStart : (NativeCall.auraStart aura).roleWrite = some ⟨.auraOn, auraDelivery aura⟩ := rfl

@[simp] theorem roleWrite_auraStop : (NativeCall.auraStop aura).roleWrite = some ⟨.auraOff, auraDelivery aura⟩ := rfl

@[simp] theorem roleWrite_executeStart (reply : Option (Except BroadcastResultFailure BroadcastResultEvidence)) :
    (NativeCall.observerExecute .start reply).roleWrite = some ⟨.broadcastStart, broadcastDelivery reply⟩ := rfl

@[simp] theorem roleWrite_executeStop (reply : Option (Except BroadcastResultFailure BroadcastResultEvidence)) :
    (NativeCall.observerExecute .stop reply).roleWrite = some ⟨.broadcastStop, broadcastDelivery reply⟩ := rfl

@[simp] theorem roleWrite_auraConnect (reply : Option (Except AuraTransportError Unit)) :
    (NativeCall.auraConnect reply).roleWrite = none := rfl

@[simp] theorem roleWrite_auraHealth (reply : Option AuraHealth) :
    (NativeCall.auraHealth reply).roleWrite = none := rfl

@[simp] theorem roleWrite_auraShutdown (reply : Option (Except AuraTransportError Unit)) :
    (NativeCall.auraShutdown reply).roleWrite = none := rfl

@[simp] theorem roleWrite_observerArm (reply : Option (Except BroadcastResultFailure Unit)) :
    (NativeCall.observerArm action reply).roleWrite = none := rfl

@[simp] theorem roleWrite_observerCancel (reply : Option Unit) :
    (NativeCall.observerCancel reply).roleWrite = none := rfl

end RoleWrite

def roleWrites (trace : List NativeCall) : List RoleWrite := trace.filterMap NativeCall.roleWrite

@[simp] theorem roleWrites_append (first second : List NativeCall) :
    roleWrites (first ++ second) = roleWrites first ++ roleWrites second :=
  List.filterMap_append

@[simp] theorem roleWrites_nil : roleWrites [] = [] := rfl

@[simp] theorem roleWrites_cons (call : NativeCall) (trace : List NativeCall) :
    roleWrites (call :: trace) = call.roleWrite.toList ++ roleWrites trace := by
  simp only [roleWrites, List.filterMap_cons]
  cases call.roleWrite <;> rfl

/-- The write may have reached a device. -/
def RoleWrite.reached (write : RoleWrite) : Prop := write.delivery ≠ .notSent

instance (write : RoleWrite) : Decidable write.reached := inferInstanceAs (Decidable (_ ≠ _))

def RoleCommand.startsLink : RoleCommand → Bool
  | .jblEnter | .broadcastStart | .auraOn => true
  | .auraOff | .broadcastStop | .jblExit => false

def startSequence : List RoleCommand := [.jblEnter, .broadcastStart, .auraOn]

def stopSequence : List RoleCommand := [.auraOff, .broadcastStop, .jblExit]

/-- All writes of a sequence, each accepted. -/
def acceptedSequence (sequence : List RoleCommand) : List RoleWrite :=
  sequence.map fun command => ⟨command, .accepted⟩

/-- The writes are an initial part of the sequence, and each write but the last was
accepted before the next was attempted. -/
def OrderedPrefix (sequence : List RoleCommand) (writes : List RoleWrite) : Prop :=
  writes.map RoleWrite.command <+: sequence ∧ ∀ write ∈ writes.dropLast, write.delivery = .accepted

instance (sequence : List RoleCommand) (writes : List RoleWrite) : Decidable (OrderedPrefix sequence writes) :=
  inferInstanceAs (Decidable (_ ∧ _))

theorem jblDelivery_rejected_ne (error : JblError) : jblDelivery (some (.rejected error)) ≠ .accepted := by
  cases error <;> simp [jblDelivery]

theorem orderedPrefix_nil (sequence : List RoleCommand) : OrderedPrefix sequence [] :=
  ⟨List.nil_prefix, by simp⟩

theorem orderedPrefix_cons {command : RoleCommand} {sequence : List RoleCommand} {writes : List RoleWrite}
    (rest : OrderedPrefix sequence writes) :
    OrderedPrefix (command :: sequence) (⟨command, .accepted⟩ :: writes) := by
  constructor
  · simpa using rest.1
  · intro write member
    cases writes with
    | nil => simp at member
    | cons head tail =>
      rw [List.dropLast_cons_of_ne_nil (by simp)] at member
      rcases List.mem_cons.mp member with rfl | later
      · rfl
      · exact rest.2 write later

theorem orderedPrefix_single (command : RoleCommand) (delivery : Delivery) (sequence : List RoleCommand) :
    OrderedPrefix (command :: sequence) [⟨command, delivery⟩] :=
  ⟨by simp, by simp⟩

end PlayTogether.Native
