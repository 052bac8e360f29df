import PlayTogether.Controller.Model
import PlayTogether.Device.Group

/-! The membership probe over the JBL's own group information, and what it can show of the
two members. -/

namespace PlayTogether.Controller
open PlayTogether.Library PlayTogether.Device

def channelFromAllowlist (channel : Bytes) : PairMemberChannel :=
  if channel = ascii "front_left" then .frontLeft
  else if channel = ascii "front_right" then .frontRight
  else if channel = ascii "left" then .left
  else if channel = ascii "right" then .right
  else if channel = ascii "mono" then .mono
  else if channel = ascii "stereo" then .stereo
  else .unknown

/-- Each channel once, in the order of its first occurrence. -/
def uniqueChannels (channels : List PairMemberChannel) : List PairMemberChannel :=
  channels.foldl (fun unique channel => if unique.contains channel then unique else unique ++ [channel]) []

def projectedChannels (channels : List Bytes) : List PairMemberChannel :=
  let projected := channels.map channelFromAllowlist
  let channels := if projected.contains .unknown then [.unknown] else uniqueChannels projected
  if channels.isEmpty then [.unknown] else channels

/-- Only exactly one member under the role name is verified. -/
def observedMember (name : PairMemberName) (found : List (List Bytes)) : PairMemberStatus :=
  match found with
  | [channels] => ⟨name, .verified, projectedChannels channels⟩
  | _ => ⟨name, .notVerified, [.unknown]⟩

def PairConfigurationObservation.fromGroupStatus (group : GroupStatus) : PairConfigurationObservation :=
  let channelsOf (role : Bytes) := (group.members.filter fun member => member.name == role).map GroupMember.channels
  ⟨group.expectedPairConfigured, observedMember .jblAuthentics300 (channelsOf jblPublicRole),
    observedMember .auraStudio5 (channelsOf auraPublicRole)⟩

def mapProbeError : JblError → PairProbeError
  | .invalidJson | .invalidXml | .basicResponseNotObject | .basicResponseCodeMissing | .basicResponseCodeInvalid
  | .deviceInfoMissing | .controlDeviceInfoMissing | .unexpectedDeviceModel | .deviceReportedError
  | .groupInfoMissing | .groupMembersMissing | .groupDisabledInvalid | .groupMemberInvalid => .invalidResponse
  | _ => .unavailable

/-- A probe over the replies of the JBL: the JSON of its group information, or the failure
of one of the reads that lead to it. -/
structure JblPairConfigurationProbe where
  replies : List (Except JblError Json)
  jblIdentity : DeviceIdentity
  auraIdentity : DeviceIdentity

def observation (jblIdentity auraIdentity : DeviceIdentity) (reply : Except JblError Json) :
    Except PairProbeError PairConfigurationObservation :=
  match reply.bind fun response => parseGroupStatus response jblIdentity auraIdentity with
  | .error error => .error (mapProbeError error)
  | .ok group => .ok (.fromGroupStatus group)

instance : PairConfigurationProbe JblPairConfigurationProbe where
  pairConfiguration self :=
    let (reply, replies) := Reply.next self.replies
    (reply.map (observation self.jblIdentity self.auraIdentity), { self with replies })

/-! ## What a probe can show -/

/-- Channels as they may be shown: none missing, none twice, and an unknown one alone. -/
def ChannelsShown (channels : List PairMemberChannel) : Prop :=
  channels ≠ [] ∧ channels.Nodup ∧ (.unknown ∈ channels → channels = [.unknown])

theorem uniqueChannels_fold (channels : List PairMemberChannel) {unique : List PairMemberChannel}
    (distinct : unique.Nodup) :
    let all := channels.foldl (fun unique channel => if unique.contains channel then unique else unique ++ [channel]) unique
    all.Nodup ∧ ∀ channel, channel ∈ all ↔ channel ∈ unique ∨ channel ∈ channels := by
  induction channels generalizing unique with
  | nil => simpa using distinct
  | cons first rest ih =>
    rw [List.foldl_cons]
    by_cases known : first ∈ unique
    · rw [if_pos (by simpa using known)]
      have later := ih distinct
      refine ⟨later.1, ?_⟩
      intro channel
      rw [later.2 channel, List.mem_cons]
      constructor
      · intro inside
        rcases inside with early | late
        · exact .inl early
        · exact .inr (.inr late)
      · intro inside
        rcases inside with early | here | late
        · exact .inl early
        · exact .inl (here ▸ known)
        · exact .inr late
    · rw [if_neg (by simpa using known)]
      have extended : (unique ++ [first]).Nodup := by
        rw [List.nodup_append]
        refine ⟨distinct, List.nodup_singleton first, ?_⟩
        intro early inside late single same
        rw [List.mem_singleton.mp single] at same
        exact known (same ▸ inside)
      have later := ih extended
      refine ⟨later.1, ?_⟩
      intro channel
      rw [later.2 channel]
      simp [or_assoc]

theorem shown_unknown : ChannelsShown [.unknown] := ⟨by simp, by simp, by simp⟩

theorem projectedChannels_shown (channels : List Bytes) : ChannelsShown (projectedChannels channels) := by
  unfold projectedChannels
  dsimp only
  by_cases unknown : (channels.map channelFromAllowlist).contains .unknown = true
  · rw [if_pos unknown]
    exact shown_unknown
  · rw [if_neg unknown]
    by_cases silent : (uniqueChannels (channels.map channelFromAllowlist)).isEmpty = true
    · rw [if_pos silent]
      exact shown_unknown
    · rw [if_neg silent]
      have folded := uniqueChannels_fold (channels.map channelFromAllowlist) List.nodup_nil
      refine ⟨by simpa using silent, folded.1, ?_⟩
      intro inside
      have early := (folded.2 .unknown).mp inside
      rw [List.contains_iff_mem] at unknown
      simp only [List.not_mem_nil, false_or] at early
      exact absurd early unknown

theorem observedMember_shown (name : PairMemberName) (found : List (List Bytes)) :
    (observedMember name found).name = name ∧ ChannelsShown (observedMember name found).channels ∧
      (observedMember name found).verification ≠ .unavailable := by
  unfold observedMember
  split
  · exact ⟨rfl, projectedChannels_shown _, by simp⟩
  · exact ⟨rfl, shown_unknown, by simp⟩

/-- The pair counts as configured only when both roles were found once. -/
theorem fromGroupStatus_ready {disabled : Bool} {members : List GroupMember}
    (configured : (groupStatus disabled members).expectedPairConfigured = true) :
    (PairConfigurationObservation.fromGroupStatus (groupStatus disabled members)).members.1.verification = .verified ∧
    (PairConfigurationObservation.fromGroupStatus (groupStatus disabled members)).members.2.verification = .verified := by
  simp only [groupStatus, Bool.and_eq_true, beq_iff_eq, List.countP_eq_length_filter] at configured
  obtain ⟨⟨jbl, aura⟩, _⟩ := configured
  obtain ⟨jblMember, jblFound⟩ := List.length_eq_one_iff.mp jbl
  obtain ⟨auraMember, auraFound⟩ := List.length_eq_one_iff.mp aura
  simp only [PairConfigurationObservation.fromGroupStatus, groupStatus, jblFound, auraFound, List.map_singleton,
    observedMember, and_self]

theorem parsed_group {jblIdentity auraIdentity : DeviceIdentity} {reply : Except JblError Json} {group : GroupStatus}
    (parsed : (reply.bind fun response => parseGroupStatus response jblIdentity auraIdentity) = .ok group) :
    ∃ disabled members, group = groupStatus disabled members := by
  cases reply with
  | error error => cases parsed
  | ok response =>
    simp only [Except.bind, parseGroupStatus] at parsed
    split at parsed
    · cases parsed
    · split at parsed
      · cases parsed
      · split at parsed
        · cases parsed
        · split at parsed
          · cases parsed
          · split at parsed
            · cases parsed
            · split at parsed
              · cases parsed
              · rename_i disabled _
                cases rows : List.mapM (parseMember jblIdentity auraIdentity) _ with
                | error error =>
                  rw [rows] at parsed
                  cases parsed
                | ok members =>
                  rw [rows] at parsed
                  cases parsed
                  exact ⟨disabled, members, rfl⟩

/-- Members as a status may show them under a configuration state. -/
structure MembersShown (configuration : PairConfigurationState) (members : PairMemberStatus × PairMemberStatus) :
    Prop where
  names : members.1.name = .jblAuthentics300 ∧ members.2.name = .auraStudio5
  channels : ChannelsShown members.1.channels ∧ ChannelsShown members.2.channels
  ready : configuration = .ready → members.1.verification = .verified ∧ members.2.verification = .verified
  notReady : configuration = .notReady →
    members.1.verification ≠ .unavailable ∧ members.2.verification ≠ .unavailable
  unavailable : configuration = .unavailable →
    members.1.verification = .unavailable ∧ members.2.verification = .unavailable

theorem observation_shown (jblIdentity auraIdentity : DeviceIdentity) (reply : Except JblError Json) :
    MembersShown (configurationState (observation jblIdentity auraIdentity reply))
      (configurationMembers (observation jblIdentity auraIdentity reply)) := by
  unfold observation
  split
  · exact ⟨⟨rfl, rfl⟩, ⟨shown_unknown, shown_unknown⟩, nofun, nofun, fun _ => ⟨rfl, rfl⟩⟩
  · rename_i group parsed
    have jbl := observedMember_shown .jblAuthentics300
      ((group.members.filter fun member => member.name == jblPublicRole).map GroupMember.channels)
    have aura := observedMember_shown .auraStudio5
      ((group.members.filter fun member => member.name == auraPublicRole).map GroupMember.channels)
    refine ⟨⟨jbl.1, aura.1⟩, ⟨jbl.2.1, aura.2.1⟩, ?_, fun _ => ⟨jbl.2.2, aura.2.2⟩, ?_⟩
    · intro ready
      obtain ⟨disabled, members, same⟩ := parsed_group parsed
      subst same
      apply fromGroupStatus_ready
      by_contra unconfigured
      simp [configurationState, PairConfigurationObservation.fromGroupStatus, unconfigured] at ready
    · intro unavailable
      simp only [configurationState] at unavailable
      split at unavailable <;> cases unavailable

/-- What the probe shows is fit for a status, whatever the JBL replied. -/
theorem pairConfiguration_shown {probe after : JblPairConfigurationProbe}
    {found : Except PairProbeError PairConfigurationObservation}
    (answered : PairConfigurationProbe.pairConfiguration probe = (.answered found, after)) :
    MembersShown (configurationState found) (configurationMembers found) := by
  simp only [PairConfigurationProbe.pairConfiguration, Reply.next] at answered
  cases script : probe.replies with
  | nil => simp [script, Reply.map] at answered
  | cons reply replies =>
    simp only [script, Reply.map, Prod.mk.injEq, Reply.answered.injEq] at answered
    rw [← answered.1]
    exact observation_shown probe.jblIdentity probe.auraIdentity reply

end PlayTogether.Controller
