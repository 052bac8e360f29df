import PlayTogether.Device.Vocabulary
import PlayTogether.Library.Json

/-! The retained group as the JBL reports it, reduced to the two expected members. -/

namespace PlayTogether.Device
open PlayTogether.Library

def jblPublicRole : Bytes := ascii "JBL Authentics 300"

def auraPublicRole : Bytes := ascii "Aura Studio 5"

def unknownText : Bytes := ascii "unknown"

def allowedChannels : List Bytes :=
  [ascii "front_left", ascii "front_right", ascii "left", ascii "right", ascii "mono", ascii "stereo"]

/-! ## Identities -/

def hexNibble (byte : UInt8) : Option UInt8 :=
  if isDigit byte then some (byte - 0x30)
  else if 0x61 ≤ byte && byte ≤ 0x66 then some (byte - 0x61 + 10)
  else if 0x41 ≤ byte && byte ≤ 0x46 then some (byte - 0x41 + 10)
  else none

/-- The twelve digits of an identity, written together or in pairs with one separator. -/
def identityDigits (value : Bytes) : Option (Vector UInt8 12) :=
  match value with
  | [a, b, c, d, e, f, g, h, i, j, k, l] => some #v[a, b, c, d, e, f, g, h, i, j, k, l]
  | [a, b, s, c, d, s1, e, f, s2, g, h, s3, i, j, s4, k, l] =>
    if (s = 0x3a ∨ s = 0x2d) ∧ s1 = s ∧ s2 = s ∧ s3 = s ∧ s4 = s then some #v[a, b, c, d, e, f, g, h, i, j, k, l]
    else none
  | _ => none

def hexByte (high low : UInt8) : Option UInt8 := do
  let high ← hexNibble high
  let low ← hexNibble low
  some (high <<< 4 ||| low)

namespace DeviceIdentity

def ofBinary (binary : Vector UInt8 6) : Option DeviceIdentity :=
  if nonzero : binary ≠ Vector.replicate 6 0 then
    if unicast : IsUnicast binary then some ⟨binary, nonzero, unicast⟩ else none
  else none

def parse (value : Bytes) : Option DeviceIdentity := do
  let digits ← identityDigits (trim value)
  let a ← hexByte digits[0] digits[1]
  let b ← hexByte digits[2] digits[3]
  let c ← hexByte digits[4] digits[5]
  let d ← hexByte digits[6] digits[7]
  let e ← hexByte digits[8] digits[9]
  let f ← hexByte digits[10] digits[11]
  ofBinary #v[a, b, c, d, e, f]

def fromMemberId (value : Bytes) : Option DeviceIdentity := if value.length ≠ 12 then none else parse value

end DeviceIdentity

/-! ## The group -/

structure GroupMember where
  name : Bytes
  channels : List Bytes
  deriving DecidableEq

structure GroupStatus where
  expectedPairConfigured : Bool
  disabled : Option Bool
  memberCount : Nat
  members : List GroupMember
  error : Option String
  deriving DecidableEq

def errorCodeIsZero : Option Json → Bool
  | some (.string code) => code == ascii "0"
  | some (.integer code) => code == 0
  | _ => false

def asObject : Json → Option Json
  | .object fields => some (.object fields)
  | _ => none

def asArray : Json → Option (List Json)
  | .array items => some items
  | _ => none

def asBool : Json → Option Bool
  | .bool value => some value
  | _ => none

def parseChannel (raw : Json) : Except JblError Bytes :=
  match raw.asStr with
  | none => .error .groupMemberInvalid
  | some text =>
    let channel := asciiLower (trim text)
    .ok (if allowedChannels.contains channel then channel else unknownText)

/-- A member keeps its role name only together with the identity of that role. -/
def memberRole (jblIdentity auraIdentity : DeviceIdentity) (rawName : Bytes) (identity : DeviceIdentity) : Bytes :=
  if rawName = jblPublicRole ∧ identity = jblIdentity then jblPublicRole
  else if rawName = auraPublicRole ∧ identity = auraIdentity then auraPublicRole
  else unknownText

def parseMember (jblIdentity auraIdentity : DeviceIdentity) (raw : Json) : Except JblError GroupMember :=
  match asObject raw with
  | none => .error .groupMemberInvalid
  | some member => match ((member.get "device_name").bind Json.asStr).filter (!·.isEmpty) with
    | none => .error .groupMemberInvalid
    | some rawName => match ((member.get "id").bind Json.asStr).bind DeviceIdentity.fromMemberId with
      | none => .error .groupMemberInvalid
      | some identity => match (member.get "channel").bind asArray with
        | none => .error .groupMemberInvalid
        | some rawChannels => do
          let channels ← rawChannels.mapM parseChannel
          .ok ⟨memberRole jblIdentity auraIdentity rawName identity, channels⟩

/-- The counters of the two roles count the members that kept a role name. -/
def groupStatus (disabled : Bool) (members : List GroupMember) : GroupStatus :=
  let jblCount := members.countP fun member => member.name == jblPublicRole
  let auraCount := members.countP fun member => member.name == auraPublicRole
  let expectedPairConfigured := jblCount == 1 && auraCount == 1 && !disabled
  { expectedPairConfigured
    disabled := some disabled
    memberCount := members.length
    members
    error := if expectedPairConfigured then none else some "expected_pair_not_configured" }

def parseGroupStatus (response : Json) (expectedJblIdentity expectedAuraIdentity : DeviceIdentity) :
    Except JblError GroupStatus :=
  if expectedJblIdentity = expectedAuraIdentity then .error .invalidConfig
  else if !errorCodeIsZero (response.get "error_code") then .error .deviceReportedError
  else match (response.get "group_info").bind asObject with
    | none => .error .groupInfoMissing
    | some group => match (group.get "members").bind asArray with
      | none => .error .groupMembersMissing
      | some rawMembers =>
        if rawMembers.length ≠ 2 then .error .groupMemberInvalid
        else match (group.get "disabled").bind asBool with
          | none => .error .groupDisabledInvalid
          | some disabled => do
            let members ← rawMembers.mapM (parseMember expectedJblIdentity expectedAuraIdentity)
            .ok (groupStatus disabled members)

end PlayTogether.Device
