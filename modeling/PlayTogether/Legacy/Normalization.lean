import PlayTogether.Legacy.Tenure

/-! What a replacement daemon says while the roles may still be those of an earlier one. The
first `ready` comes before the roles are normalized, and an exception that is no `SessionError`
ends in `offline`; where neither happens the promise is kept. -/

namespace PlayTogether.Legacy
open PlayTogether.Library

section Normalization
variable {π : Type}

/-- A complete successful stop, the latest write first. -/
def completeStop (p : π) : List (DaemonEvent π) :=
  [.sent p .exit true, .sent p .stop true, .sent p .auraOff true]

/-- An earlier daemon may have delivered a role write of a link, and no complete successful
stop has followed. -/
def Unanswered (trace : List (DaemonEvent π)) : Prop :=
  ∃ since p frame acknowledged rest, trace = since ++ .sent p frame acknowledged :: rest ∧ frame.starts = true ∧
    (∃ q, .locked q ∈ since) ∧ ¬∃ q, completeStop q <:+: since

/-- Neither `ready` nor `offline` was ever published while a link was unanswered. -/
def RolesFirst (trace : List (DaemonEvent π)) : Prop :=
  ∀ later p word earlier, trace = later ++ .published p (some word) :: earlier → word = .ready ∨ word = .offline →
    ¬Unanswered earlier

/-- While a link of an earlier daemon is unanswered, the sessions do not both get connected
and no daemon closes its lock in a state other than failed or degraded. -/
def KeepsOut (w : Disk π) : (call : DaemonCall) → call.Answer → Prop
  | .gatt .jblMtu, (outcome : Except Fault Unit) => outcome.isOk = true → ¬Unanswered w.trace
  | .close state, _ => state.isFinal = false → ¬Unanswered w.trace
  | _, _ => True

/-- One daemon after the other. -/
def successors (π : Type) [DecidableEq π] (meets : Disk π → (call : DaemonCall) → call.Answer → Prop) :
    Machine π Config (Disk π) DaemonCall DaemonCall.Answer :=
  daemons π (fun running => ∀ p, running p = none) meets

variable {trace : List (DaemonEvent π)} {event : DaemonEvent π}

/-- Only a new daemon makes an earlier one of the present one. -/
theorem answered_cons (answered : ¬Unanswered trace) (running : ∀ q, event ≠ .locked q) :
    ¬Unanswered (event :: trace) := by
  intro again
  obtain ⟨since, p, frame, acknowledged, rest, split, starts, ⟨q, later⟩, never⟩ := again
  cases since with
  | nil => cases later
  | cons head since =>
    obtain ⟨rfl, onward⟩ := List.cons.inj split
    refine answered ⟨since, p, frame, acknowledged, rest, onward, starts, ⟨q, ?_⟩, ?_⟩
    · cases later with
      | head => exact absurd rfl (running q)
      | tail _ inside => exact inside
    · intro stopped
      obtain ⟨r, inside⟩ := stopped
      exact never ⟨r, inside.trans (List.infix_cons (List.infix_refl since))⟩

theorem RolesFirst.cons (first : RolesFirst trace)
    (said : ∀ p word, event = .published p (some word) → word = .ready ∨ word = .offline → ¬Unanswered trace) :
    RolesFirst (event :: trace) := by
  intro later p word earlier split word_said
  cases later with
  | nil =>
    obtain ⟨same, rfl⟩ := List.cons.inj split
    exact said p word same word_said
  | cons head later => exact first later p word earlier (List.cons.inj split).2 word_said

/-- What the running daemon knows is true of the files and of the past. -/
structure Follows (w : Disk π) (p : π) (token : DaemonToken) : Prop where
  answered : token.connected = true ∨ token.left = true → ¬Unanswered w.trace
  created : token.created = true → ∃ file, w.temporary = some file ∧ w.opened p = some file
  staged : ∀ word, token.staged = some word →
    ∃ file payload, w.temporary = some file ∧ w.content file = some payload ∧ payload.record.state = word

structure Succession (held : π → Option (Config × DaemonToken)) (w : Disk π) : Prop where
  lone : ∀ {p q one other}, held p = some one → held q = some other → p = q
  follows : ∀ {p config token}, held p = some (config, token) → Follows w p token
  first : RolesFirst w.trace

variable [DecidableEq π] {held : π → Option (Config × DaemonToken)} {w after : Disk π} {p : π} {config : Config}
  {token moved : DaemonToken}

theorem Succession.move (succession : Succession held w) (found : held p = some (config, token))
    (mine : Follows after p moved) (first : RolesFirst after.trace) :
    Succession (Function.update held p (some (config, moved))) after where
  lone := by
    intro q r one other here there
    have alone {q : π} {one : Config × DaemonToken}
        (here : Function.update held p (some (config, moved)) q = some one) : q = p := by
      obtain ⟨same, _⟩ | ⟨_, before⟩ := Pool.of_update here
      · exact same
      · exact succession.lone before found
    exact (alone here).trans (alone there).symm
  follows := by
    intro q other beside here
    obtain ⟨rfl, same⟩ | ⟨different, before⟩ := Pool.of_update here
    · cases same
      exact mine
    · exact absurd (succession.lone before found) different
  first := first

theorem Succession.step (succession : Succession held w) (found : held p = some (config, token)) {call : DaemonCall}
    {answer : call.Answer} (permitted : token.permitted config call) (performed : w.Performs p call answer after)
    (keeps : KeepsOut w call answer) :
    Succession (Function.update held p (some (config, token.advance config call answer))) after := by
  have mine := succession.follows found
  have first := succession.first
  cases performed with
  | checked | asked | counted | read | unread | resolved | accepted => exact succession.move found mine first
  | locked free =>
    obtain rfl : token = .fresh := permitted
    refine succession.move found ⟨?_, nofun, nofun⟩ (first.cons nofun)
    intro arrived
    cases arrived <;> contradiction
  | busy =>
    obtain rfl : token = .fresh := permitted
    exact succession.move found mine first
  | @closed state =>
    have same : (w.release p).trace = w.trace := by
      unfold Disk.release
      split <;> rfl
    refine succession.move found ⟨?_, nofun, nofun⟩ (same ▸ first)
    rw [same]
    intro arrived
    cases arrived with
    | inl connected => exact mine.answered (.inl connected)
    | inr left => exact keeps (by simpa [DaemonToken.advance] using left)
  | created =>
    have same : (w.create p).trace = w.trace := by
      unfold Disk.create
      split <;> rfl
    refine succession.move found ⟨?_, ?_, nofun⟩ (same ▸ first)
    · rw [same]
      exact mine.answered
    · intro _
      unfold Disk.create
      split
      next file there => exact ⟨file, there, Function.update_self _ _ _⟩
      next => exact ⟨w.fresh, rfl, Function.update_self _ _ _⟩
  | uncreated fault => exact succession.move found ⟨mine.answered, nofun, nofun⟩ first
  | @wrote record file opened =>
    obtain ⟨named, there, mineOpen⟩ := mine.created permitted.2.1
    obtain rfl : named = file := Option.some.inj (mineOpen.symm.trans opened)
    refine succession.move found ⟨mine.answered, mine.created, ?_⟩ first
    intro word staged
    obtain rfl : record.state = word := Option.some.inj staged
    exact ⟨named, ⟨p, record⟩, there, Function.update_self _ _ _, rfl⟩
  | unwritten fault => exact succession.move found ⟨mine.answered, mine.created, nofun⟩ first
  | @replaced file there =>
    obtain ⟨_, word, staged, ready, offline⟩ := permitted
    obtain ⟨named, payload, same, content, rfl⟩ := mine.staged word staged
    obtain rfl : named = file := Option.some.inj (same.symm.trans there)
    refine succession.move found ⟨?_, nofun, nofun⟩ (first.cons ?_)
    · intro arrived
      exact answered_cons (mine.answered arrived) nofun
    · intro q said published word_said
      rw [content] at published
      cases published
      cases word_said with
      | inl says_ready => exact mine.answered (.inl (ready says_ready))
      | inr says_offline => exact mine.answered (.inr (offline says_offline))
  | unreplaced fault => exact succession.move found ⟨mine.answered, nofun, nofun⟩ first
  | @stepped step outcome =>
    cases step with
    | jblMtu =>
      refine succession.move found ⟨?_, mine.created, mine.staged⟩ first
      intro arrived
      cases arrived with
      | inl connected =>
        cases Bool.or_eq_true _ _ ▸ connected with
        | inl before => exact mine.answered (.inl before)
        | inr now => exact keeps now
      | inr left => exact mine.answered (.inr left)
    | auraStart | auraConnect | auraNotify | auraMtu | jblStart | jblConnect => exact succession.move found mine first
  | sent outcome =>
    refine succession.move found ⟨?_, mine.created, mine.staged⟩ (first.cons nofun)
    intro arrived
    exact answered_cons (mine.answered arrived) nofun

theorem succession_accounted :
    Pool.Accounted (successors π KeepsOut) stateWrites DaemonToken.fresh Succession where
  programs := Supervisor.program_obeys
  starts := by
    intro held w p config succession absent alone
    have nobody (q : π) : held q = none := Option.map_eq_none_iff.mp (alone q)
    refine ⟨?_, ?_, succession.first⟩
    · intro q r one other here there
      obtain ⟨rfl, _⟩ | ⟨_, before⟩ := Pool.of_update here
      · obtain ⟨rfl, _⟩ | ⟨_, before⟩ := Pool.of_update there
        · rfl
        · rw [nobody] at before
          cases before
      · rw [nobody] at before
        cases before
    · intro q other beside here
      obtain ⟨rfl, same⟩ | ⟨_, before⟩ := Pool.of_update here
      · cases same
        refine ⟨?_, nofun, nofun⟩
        intro arrived
        cases arrived <;> contradiction
      · rw [nobody] at before
        cases before
  steps succession found permitted performed := succession.step found permitted performed.1 performed.2
  ends := by
    intro held w p config token after succession found left
    have ended {q : π} {one : Config × DaemonToken} (here : Function.update held p none q = some one) : False := by
      obtain ⟨_, absent⟩ | ⟨different, before⟩ := Pool.of_update here
      · cases absent
      · exact different (succession.lone before found)
    have same : after.trace = w.trace := by
      rw [left]
      unfold Disk.release
      dsimp only
      split <;> rfl
    exact ⟨fun here => (ended here).elim, fun here => (ended here).elim, same ▸ succession.first⟩

/-- In every run of successive daemons that keep out while a link is unanswered, none of them
publishes `ready` or `offline` before a complete successful stop. -/
theorem roles_come_first {pool : Pool π Config (Disk π) DaemonCall DaemonCall.Answer}
    (run : Pool.Run (successors π KeepsOut) Disk.AtRest pool) : RolesFirst pool.shared.trace := by
  have boots (w : Disk π) (rest : w.AtRest) : Succession (fun _ => none) w := by
    refine ⟨fun here => (nomatch here), fun here => (nomatch here), ?_⟩
    rw [rest.trace]
    intro later p word earlier split
    cases later <;> cases split
  obtain ⟨held, tokens⟩ := run.accounted succession_accounted boots
  exact tokens.account.first

end Normalization

def DaemonEvent.isSent {π : Type} : DaemonEvent π → Bool
  | .sent _ _ _ => true
  | .locked _ | .published _ _ => false

theorem answered_of_none_sent {π : Type} {trace : List (DaemonEvent π)} (none : trace.any DaemonEvent.isSent = false) :
    ¬Unanswered trace := by
  intro linked
  obtain ⟨since, p, frame, acknowledged, rest, rfl, _⟩ := linked
  simp [DaemonEvent.isSent] at none

/-- Answers under which the sessions get connected only before the first role write, and no
lock is closed. -/
def Disk.cautious (p yes : Bool) : (call : DaemonCall) → Disk Bool → Option (call.Answer × Disk Bool)
  | .gatt step, w => if w.trace.any DaemonEvent.isSent then none else Disk.favourable p yes (.gatt step) w
  | .close _, _ => none
  | call, w => Disk.favourable p yes call w

theorem cautious_performs {p yes : Bool} {call : DaemonCall} {w after : Disk Bool} {answer : call.Answer}
    (found : Disk.cautious p yes call w = some (answer, after)) :
    (successors Bool KeepsOut).performs p call w answer after := by
  cases call with
  | gatt step =>
    simp only [Disk.cautious] at found
    split at found
    next => cases found
    next quiet =>
      refine ⟨Disk.favourable_performs found, ?_⟩
      cases step with
      | jblMtu => exact fun _ => answered_of_none_sent (Bool.eq_false_iff.mpr quiet)
      | auraStart | auraConnect | auraNotify | auraMtu | jblStart | jblConnect => exact trivial
  | close state => cases found
  | check | ask | rounds | blocked | flock | readState | create | write | replace | send | resolve | accept =>
    exact ⟨Disk.favourable_performs (show Disk.favourable p yes _ w = _ from found), trivial⟩

theorem unanswered_of_two {p q : Bool} {event : DaemonEvent Bool} {rest : List (DaemonEvent Bool)} :
    Unanswered (event :: .locked q :: .sent p .enter true :: rest) := by
  refine ⟨[event, .locked q], p, .enter, true, rest, rfl, rfl, ⟨q, by simp⟩, ?_⟩
  intro stopped
  obtain ⟨r, inside⟩ := stopped
  have bound := inside.length_le
  simp [completeStop] at bound

/-- A daemon is killed after its first role write; its replacement has only said that it is
connecting. -/
theorem connecting_replacement_keeps_out :
    ∃ pool, Pool.Run (successors Bool KeepsOut) Disk.AtRest pool ∧ Unanswered pool.shared.trace ∧
      pool.shared.word = some .connecting ∧ RolesFirst pool.shared.trace := by
  have sound (p yes : Bool) : ∀ call w answer after, Disk.cautious p yes call w = some (answer, after) →
      (successors Bool KeepsOut).performs p call w answer after := fun _ _ _ _ found => cautious_performs found
  have booted : Pool.Run (successors Bool KeepsOut) Disk.AtRest _ := .booted emptyDisk_atRest
  have started := booted.moved (.started false ⟨.bredr, 0⟩ rfl fun _ => rfl)
  have ready := started.driven (sound false false) 29 rfl
  have entered := ready.driven (sound false true) 9 rfl
  have killed := entered.moved (.ended (p := false) rfl rfl)
  have replaced := killed.moved (.started true ⟨.bredr, 0⟩ rfl fun p => by cases p <;> rfl)
  have again := replaced.driven (sound true false) 10 rfl
  exact ⟨_, again, unanswered_of_two, rfl, roles_come_first again⟩

/-- A daemon is killed after its first role write. Its replacement gets connected and says so
before it has stopped anything. -/
theorem replacement_is_ready_too_early :
    ¬∀ pool, Pool.Run (successors Bool fun _ _ _ => True) Disk.AtRest pool → RolesFirst pool.shared.trace := by
  intro always
  have sound (p yes : Bool) : ∀ call w answer after, Disk.favourable p yes call w = some (answer, after) →
      (successors Bool fun _ _ _ => True).performs p call w answer after :=
    fun _ _ _ _ found => ⟨Disk.favourable_performs found, trivial⟩
  have booted : Pool.Run (successors Bool fun _ _ _ => True) Disk.AtRest _ := .booted emptyDisk_atRest
  have started := booted.moved (.started false ⟨.bredr, 0⟩ rfl fun _ => rfl)
  have ready := started.driven (sound false false) 29 rfl
  have entered := ready.driven (sound false true) 9 rfl
  have killed := entered.moved (.ended (p := false) rfl rfl)
  have replaced := killed.moved (.started true ⟨.bredr, 0⟩ rfl fun p => by cases p <;> rfl)
  have again := replaced.driven (sound true false) 26 rfl
  exact always _ again [] true .ready _ rfl (.inl rfl) unanswered_of_two

end PlayTogether.Legacy
