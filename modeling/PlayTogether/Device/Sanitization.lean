import PlayTogether.Device.Identity

/-! What the group status depends on, and what it can show. -/

namespace PlayTogether.Device
open PlayTogether.Library

/-- What the parser reads of a member. -/
structure RawMember where
  name : Bytes
  identity : DeviceIdentity
  channels : List Bytes

/-- A well-formed member: an object with a name, twelve digits of an identity and a list of channels. -/
structure MemberReads (raw : Json) (member : RawMember) : Prop where
  isObject : ∃ fields, raw = .object fields
  name : raw.get "device_name" = some (.string member.name)
  named : member.name ≠ []
  identity : ∃ id, raw.get "id" = some (.string id) ∧ asciiLower id = hex member.identity.binary.toList
  channels : raw.get "channel" = some (.array (member.channels.map .string))

/-- A well-formed answer: no error, and a group with a flag and exactly two well-formed members. -/
structure GroupReads (response : Json) (disabled : Bool) (one two : RawMember) : Prop where
  noError : response.get "error_code" = some (.string (ascii "0")) ∨ response.get "error_code" = some (.integer 0)
  group : ∃ fields first second, response.get "group_info" = some (.object fields) ∧
    (Json.object fields).get "members" = some (.array [first, second]) ∧
    (Json.object fields).get "disabled" = some (.bool disabled) ∧ MemberReads first one ∧ MemberReads second two

def IsJbl (jblIdentity : DeviceIdentity) (member : RawMember) : Prop :=
  member.name = jblPublicRole ∧ member.identity = jblIdentity

def IsAura (auraIdentity : DeviceIdentity) (member : RawMember) : Prop :=
  member.name = auraPublicRole ∧ member.identity = auraIdentity

def Recognized (channel : Bytes) : Prop := asciiLower (trim channel) ∈ allowedChannels

section Parse
variable {jblIdentity auraIdentity : DeviceIdentity} {raw response : Json}

def sanitizedChannel (channel : Bytes) : Bytes :=
  if allowedChannels.contains (asciiLower (trim channel)) then asciiLower (trim channel) else unknownText

def sanitized (jblIdentity auraIdentity : DeviceIdentity) (member : RawMember) : GroupMember :=
  ⟨memberRole jblIdentity auraIdentity member.name member.identity, member.channels.map sanitizedChannel⟩

theorem parseChannel_eq_ok {channel : Bytes} :
    parseChannel raw = .ok channel ↔ ∃ text, raw = .string text ∧ channel = sanitizedChannel text := by
  unfold parseChannel
  cases raw with
  | string text =>
    simp [Json.asStr, sanitizedChannel, eq_comm]
  | null | bool _ | integer _ | float _ | array _ | object _ => simp [Json.asStr]

theorem channels_eq_ok {rawChannels : List Json} {channels : List Bytes} :
    rawChannels.mapM parseChannel = .ok channels ↔
      ∃ texts : List Bytes, rawChannels = texts.map .string ∧ channels = texts.map sanitizedChannel := by
  rw [mapM_eq_ok]
  constructor
  · intro each
    induction each with
    | nil => exact ⟨[], rfl, rfl⟩
    | cons here behind ih =>
      obtain ⟨text, rfl, rfl⟩ := parseChannel_eq_ok.mp here
      obtain ⟨texts, rfl, rfl⟩ := ih
      exact ⟨text :: texts, rfl, rfl⟩
  · intro written
    obtain ⟨texts, rfl, rfl⟩ := written
    rw [List.forall₂_map_left_iff, List.forall₂_map_right_iff, List.forall₂_same]
    intro text _
    exact parseChannel_eq_ok.mpr ⟨text, rfl, rfl⟩

theorem asStr_eq_some {value : Json} {text : Bytes} : value.asStr = some text ↔ value = .string text := by
  cases value <;> simp [Json.asStr]

theorem asArray_eq_some {value : Json} {items : List Json} : asArray value = some items ↔ value = .array items := by
  cases value <;> simp [asArray]

theorem asBool_eq_some {value : Json} {flag : Bool} : asBool value = some flag ↔ value = .bool flag := by
  cases value <;> simp [asBool]

theorem asObject_eq_some {value object : Json} :
    asObject value = some object ↔ object = value ∧ ∃ fields, value = .object fields := by
  cases value <;> simp [asObject, eq_comm]

theorem parseMember_eq_ok {out : GroupMember} : parseMember jblIdentity auraIdentity raw = .ok out ↔
    ∃ member, MemberReads raw member ∧ out = sanitized jblIdentity auraIdentity member := by
  unfold parseMember
  constructor
  · intro parsed
    split at parsed
    · cases parsed
    · rename_i object isObject
      obtain ⟨rfl, fields⟩ := asObject_eq_some.mp isObject
      split at parsed
      · cases parsed
      · rename_i name named
        split at parsed
        · cases parsed
        · rename_i identity identified
          split at parsed
          · cases parsed
          · rename_i rawChannels listed
            obtain ⟨channels, mapped, same⟩ := except_bind_eq_ok.mp parsed
            obtain ⟨texts, rfl, rfl⟩ := channels_eq_ok.mp mapped
            cases same
            obtain ⟨kept, filled⟩ := Option.filter_eq_some_iff.mp named
            obtain ⟨nameValue, nameRead, isName⟩ := Option.bind_eq_some_iff.mp kept
            obtain ⟨id, idRead, accepted⟩ := Option.bind_eq_some_iff.mp identified
            obtain ⟨idValue, idGot, isId⟩ := Option.bind_eq_some_iff.mp idRead
            obtain ⟨list, listRead, isList⟩ := Option.bind_eq_some_iff.mp listed
            rw [asStr_eq_some.mp isName] at nameRead
            rw [asStr_eq_some.mp isId] at idGot
            rw [asArray_eq_some.mp isList] at listRead
            refine ⟨⟨name, identity, texts⟩, ⟨fields, nameRead, ?_, ⟨id, idGot, fromMemberId_iff.mp accepted⟩, listRead⟩, rfl⟩
            simpa using filled
  · intro written
    obtain ⟨member, reads, rfl⟩ := written
    obtain ⟨id, idRead, spelled⟩ := reads.identity
    have isObject : asObject raw = some raw := asObject_eq_some.mpr ⟨rfl, reads.isObject⟩
    have named : ((raw.get "device_name").bind Json.asStr).filter (!·.isEmpty) = some member.name := by
      rw [reads.name, Option.bind_some, asStr_eq_some.mpr rfl, Option.filter_eq_some_iff]
      simpa using reads.named
    have identified : ((raw.get "id").bind Json.asStr).bind DeviceIdentity.fromMemberId = some member.identity := by
      rw [idRead, Option.bind_some, asStr_eq_some.mpr rfl, Option.bind_some, fromMemberId_iff.mpr spelled]
    have listed : (raw.get "channel").bind asArray = some (member.channels.map .string) := by
      rw [reads.channels]
      rfl
    simp only [isObject, named, identified, listed]
    exact except_bind_eq_ok.mpr ⟨_, channels_eq_ok.mpr ⟨member.channels, rfl, rfl⟩, rfl⟩

theorem errorCodeIsZero_iff {code : Option Json} :
    errorCodeIsZero code = true ↔ code = some (.string (ascii "0")) ∨ code = some (.integer 0) := by
  unfold errorCodeIsZero
  split
  · simp
  · simp
  · rename_i noString noInteger
    simp only [Bool.false_eq_true, false_iff, not_or]
    exact ⟨fun same => noString _ same, fun same => noInteger _ same⟩

theorem parseGroupStatus_eq_ok {status : GroupStatus} :
    parseGroupStatus response jblIdentity auraIdentity = .ok status ↔
      jblIdentity ≠ auraIdentity ∧ ∃ disabled one two, GroupReads response disabled one two ∧
        status = groupStatus disabled
          [sanitized jblIdentity auraIdentity one, sanitized jblIdentity auraIdentity two] := by
  unfold parseGroupStatus
  constructor
  · intro parsed
    split at parsed
    · cases parsed
    · rename_i distinct
      split at parsed
      · cases parsed
      · rename_i noError
        split at parsed
        · cases parsed
        · rename_i group isGroup
          split at parsed
          · cases parsed
          · rename_i rawMembers isMembers
            split at parsed
            · cases parsed
            · rename_i two
              split at parsed
              · cases parsed
              · rename_i disabled isDisabled
                obtain ⟨members, mapped, same⟩ := except_bind_eq_ok.mp parsed
                cases same
                obtain ⟨groupValue, groupRead, objectRead⟩ := Option.bind_eq_some_iff.mp isGroup
                obtain ⟨rfl, fields, isObject⟩ := asObject_eq_some.mp objectRead
                subst isObject
                obtain ⟨list, listRead, isList⟩ := Option.bind_eq_some_iff.mp isMembers
                rw [asArray_eq_some.mp isList] at listRead
                obtain ⟨flag, flagRead, isFlag⟩ := Option.bind_eq_some_iff.mp isDisabled
                rw [asBool_eq_some.mp isFlag] at flagRead
                obtain ⟨first, second, rfl⟩ := List.length_eq_two.mp (not_not.mp two)
                obtain ⟨shown, others, here, behind, rfl⟩ := List.forall₂_cons_left_iff.mp (mapM_eq_ok.mp mapped)
                obtain ⟨last, none_left, there, ends, rfl⟩ := List.forall₂_cons_left_iff.mp behind
                cases ends
                obtain ⟨one, readsFirst, rfl⟩ := parseMember_eq_ok.mp here
                obtain ⟨two, readsSecond, rfl⟩ := parseMember_eq_ok.mp there
                have zero : errorCodeIsZero (response.get "error_code") = true := by simpa using noError
                exact ⟨distinct, disabled, one, two, ⟨errorCodeIsZero_iff.mp zero, fields, first, second, groupRead,
                  listRead, flagRead, readsFirst, readsSecond⟩, rfl⟩
  · intro written
    obtain ⟨distinct, disabled, one, two, reads, rfl⟩ := written
    obtain ⟨fields, first, second, isGroup, isMembers, isDisabled, readsFirst, readsSecond⟩ := reads.group
    have group : (response.get "group_info").bind asObject = some (.object fields) := by
      rw [isGroup]
      rfl
    have members : ((Json.object fields).get "members").bind asArray = some [first, second] := by
      rw [isMembers]
      rfl
    have flag : ((Json.object fields).get "disabled").bind asBool = some disabled := by
      rw [isDisabled]
      rfl
    have mapped : [first, second].mapM (parseMember jblIdentity auraIdentity) =
        .ok [sanitized jblIdentity auraIdentity one, sanitized jblIdentity auraIdentity two] := by
      apply mapM_eq_ok.mpr
      exact .cons (parseMember_eq_ok.mpr ⟨one, readsFirst, rfl⟩)
        (.cons (parseMember_eq_ok.mpr ⟨two, readsSecond, rfl⟩) .nil)
    rw [if_neg distinct, errorCodeIsZero_iff.mpr reads.noError]
    simp only [group, members, flag, List.length_cons, List.length_nil, Nat.reduceAdd, ne_eq, not_true_eq_false, if_false,
      Bool.not_true, Bool.false_eq_true]
    exact except_bind_eq_ok.mpr ⟨_, mapped, rfl⟩

theorem allowedChannels_known {channel : Bytes} :
    sanitizedChannel channel ∈ allowedChannels ∨ sanitizedChannel channel = unknownText := by
  unfold sanitizedChannel
  split
  · rename_i known
    exact .inl (List.contains_iff_mem.mp known)
  · exact .inr rfl

theorem memberRole_cases (name : Bytes) (identity : DeviceIdentity) :
    memberRole jblIdentity auraIdentity name identity ∈ [jblPublicRole, auraPublicRole, unknownText] := by
  unfold memberRole
  split
  · simp
  · split
    · simp
    · simp

theorem memberRole_jbl {member : RawMember} :
    memberRole jblIdentity auraIdentity member.name member.identity = jblPublicRole ↔ IsJbl jblIdentity member := by
  unfold memberRole IsJbl
  have other : auraPublicRole ≠ jblPublicRole := by decide
  have unknown : unknownText ≠ jblPublicRole := by decide
  split
  · simp [*]
  · split
    · simp [*]
    · simp [*]

theorem memberRole_aura {member : RawMember} :
    memberRole jblIdentity auraIdentity member.name member.identity = auraPublicRole ↔ IsAura auraIdentity member := by
  unfold memberRole IsAura
  have other : jblPublicRole ≠ auraPublicRole := by decide
  have unknown : unknownText ≠ auraPublicRole := by decide
  split
  · rename_i jbl
    simp [*]
  · split
    · simp [*]
    · simp [*]

theorem memberRole_neither {member : RawMember} (notJbl : ¬IsJbl jblIdentity member)
    (notAura : ¬IsAura auraIdentity member) :
    memberRole jblIdentity auraIdentity member.name member.identity = unknownText := by
  unfold memberRole
  exact (if_neg notJbl).trans (if_neg notAura)

theorem jbl_not_aura {member : RawMember} (jbl : IsJbl jblIdentity member) : ¬IsAura auraIdentity member := by
  intro aura
  exact absurd (jbl.1.symm.trans aura.1) (by decide)

theorem pair_configured {disabled : Bool} {one two : RawMember} :
    (groupStatus disabled [sanitized jblIdentity auraIdentity one, sanitized jblIdentity auraIdentity two]).expectedPairConfigured
      = true ↔ disabled = false ∧ (IsJbl jblIdentity one ∧ IsAura auraIdentity two ∨
        IsAura auraIdentity one ∧ IsJbl jblIdentity two) := by
  simp only [groupStatus, sanitized, Bool.and_eq_true, beq_iff_eq, Bool.not_eq_true', List.countP_cons, List.countP_nil]
  have oneJbl := @memberRole_jbl jblIdentity auraIdentity one
  have oneAura := @memberRole_aura jblIdentity auraIdentity one
  have twoJbl := @memberRole_jbl jblIdentity auraIdentity two
  have twoAura := @memberRole_aura jblIdentity auraIdentity two
  have apart := @jbl_not_aura jblIdentity auraIdentity one
  have asunder := @jbl_not_aura jblIdentity auraIdentity two
  grind

end Parse

/-- The expected pair, as the answer has to report it. -/
def ReportsPair (jblIdentity auraIdentity : DeviceIdentity) (response : Json) : Prop :=
  ∃ one two, GroupReads response false one two ∧
    (IsJbl jblIdentity one ∧ IsAura auraIdentity two ∨ IsAura auraIdentity one ∧ IsJbl jblIdentity two)

/-- Two channels are the same text, or neither text is recognized. -/
def AlikeChannels (channel other : Bytes) : Prop := channel = other ∨ ¬Recognized channel ∧ ¬Recognized other

/-- Two members agree, except that the name and the identity of one in no role and the
text of an unrecognized channel are left open. -/
structure AlikeMembers (jblIdentity auraIdentity : DeviceIdentity) (member other : RawMember) : Prop where
  role : member.name = other.name ∧ member.identity = other.identity ∨
    (¬IsJbl jblIdentity member ∧ ¬IsAura auraIdentity member) ∧ ¬IsJbl jblIdentity other ∧ ¬IsAura auraIdentity other
  channels : List.Forall₂ AlikeChannels member.channels other.channels

/-- Two well-formed answers with the same flag and alike members; no other field is compared. -/
def AlikeResponses (jblIdentity auraIdentity : DeviceIdentity) (response other : Json) : Prop :=
  ∃ disabled one two one' two', GroupReads response disabled one two ∧ GroupReads other disabled one' two' ∧
    AlikeMembers jblIdentity auraIdentity one one' ∧ AlikeMembers jblIdentity auraIdentity two two'

theorem sanitizedChannel_unrecognized {channel : Bytes} (strange : ¬Recognized channel) :
    sanitizedChannel channel = unknownText := by
  apply if_neg
  intro known
  exact strange (List.contains_iff_mem.mp known)

theorem sanitizedChannels_alike {channels others : List Bytes} (alike : List.Forall₂ AlikeChannels channels others) :
    channels.map sanitizedChannel = others.map sanitizedChannel := by
  induction alike with
  | nil => rfl
  | cons here behind ih =>
    rw [List.map_cons, List.map_cons, ih]
    rcases here with same | ⟨strange, stranger⟩
    · rw [same]
    · rw [sanitizedChannel_unrecognized strange, sanitizedChannel_unrecognized stranger]

theorem sanitized_alike {jblIdentity auraIdentity : DeviceIdentity} {member other : RawMember}
    (alike : AlikeMembers jblIdentity auraIdentity member other) :
    sanitized jblIdentity auraIdentity member = sanitized jblIdentity auraIdentity other := by
  have role : memberRole jblIdentity auraIdentity member.name member.identity =
      memberRole jblIdentity auraIdentity other.name other.identity := by
    rcases alike.role with ⟨name, identity⟩ | ⟨⟨notJbl, notAura⟩, otherNotJbl, otherNotAura⟩
    · rw [name, identity]
    · rw [memberRole_neither notJbl notAura, memberRole_neither otherNotJbl otherNotAura]
  unfold sanitized
  rw [role, sanitizedChannels_alike alike.channels]

/-- The pair is configured exactly when the answer reports it, the status shows nothing but
the allowed words, and nothing else in the answer has any influence on it. -/
theorem group_status_exact {jblIdentity auraIdentity : DeviceIdentity} (distinct : jblIdentity ≠ auraIdentity) :
    (∀ response, (∃ status, parseGroupStatus response jblIdentity auraIdentity = .ok status ∧
        status.expectedPairConfigured = true) ↔ ReportsPair jblIdentity auraIdentity response) ∧
      (∀ response status, parseGroupStatus response jblIdentity auraIdentity = .ok status →
        ∀ member ∈ status.members, member.name ∈ [jblPublicRole, auraPublicRole, unknownText] ∧
          ∀ channel ∈ member.channels, channel ∈ allowedChannels ∨ channel = unknownText) ∧
      ∀ response other, AlikeResponses jblIdentity auraIdentity response other →
        ∃ status, parseGroupStatus response jblIdentity auraIdentity = .ok status ∧
          parseGroupStatus other jblIdentity auraIdentity = .ok status := by
  refine ⟨?_, ?_, ?_⟩
  · intro response
    constructor
    · intro configured
      obtain ⟨status, parsed, pair⟩ := configured
      obtain ⟨_, disabled, one, two, reads, rfl⟩ := parseGroupStatus_eq_ok.mp parsed
      obtain ⟨rfl, roles⟩ := pair_configured.mp pair
      exact ⟨one, two, reads, roles⟩
    · intro reported
      obtain ⟨one, two, reads, roles⟩ := reported
      exact ⟨_, parseGroupStatus_eq_ok.mpr ⟨distinct, false, one, two, reads, rfl⟩, pair_configured.mpr ⟨rfl, roles⟩⟩
  · intro response status parsed member shown
    obtain ⟨_, disabled, one, two, reads, rfl⟩ := parseGroupStatus_eq_ok.mp parsed
    obtain ⟨raw, rfl⟩ : ∃ raw, member = sanitized jblIdentity auraIdentity raw := by
      rcases List.mem_pair.mp shown with first | second
      · exact ⟨one, first⟩
      · exact ⟨two, second⟩
    refine ⟨memberRole_cases raw.name raw.identity, ?_⟩
    intro channel inside
    obtain ⟨text, _, rfl⟩ := List.mem_map.mp inside
    exact allowedChannels_known
  · intro response other alike
    obtain ⟨disabled, one, two, one', two', reads, others, first, second⟩ := alike
    refine ⟨_, parseGroupStatus_eq_ok.mpr ⟨distinct, disabled, one, two, reads, rfl⟩, ?_⟩
    rw [sanitized_alike first, sanitized_alike second]
    exact parseGroupStatus_eq_ok.mpr ⟨distinct, disabled, one', two', others, rfl⟩

def fixtureMember (name id channel : String) : Json :=
  .object [(ascii "device_name", .text name), (ascii "channel", .array [.text channel]), (ascii "id", .text id)]

def fixtureGroup (members : List Json) : Json :=
  .object [(ascii "error_code", .text "0"),
    (ascii "group_info", .object [(ascii "disabled", .bool false), (ascii "members", .array members)])]

def fixtureJbl : DeviceIdentity := ⟨#v[2, 0, 0, 0, 0, 0x11], by decide, by decide⟩

def fixtureAura : DeviceIdentity := ⟨#v[2, 0, 0, 0, 0, 0x12], by decide, by decide⟩

theorem swapped_pair_is_configured :
    fixtureJbl ≠ fixtureAura ∧ ReportsPair fixtureJbl fixtureAura (fixtureGroup
      [fixtureMember "Aura Studio 5" "020000000012" "front_right", fixtureMember "JBL Authentics 300" "020000000011" "left"]) := by
  have distinct : fixtureJbl ≠ fixtureAura := by decide
  exact ⟨distinct, ((group_status_exact distinct).1 _).mp ⟨_, by rfl, by rfl⟩⟩

end PlayTogether.Device
