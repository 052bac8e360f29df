import PlayTogether.Library.Pattern

/-! Every match of a pattern in a text replaced by a marker, and what can remain of the
text around the markers. -/

namespace PlayTogether.Library

section Substitute
variable (isWord : Char → Bool)

/-- From the left and without overlaps. The number counts the characters of a replaced
match that are still to be passed over. -/
def substituteFrom (pattern : Pattern) (marker : Text) : Nat → Option Char → Text → Text
  | _, _, [] => []
  | passed + 1, _, char :: rest => substituteFrom pattern marker passed (some char) rest
  | 0, before, char :: rest => match matchAny isWord pattern before (char :: rest) with
    | some matched => marker ++ substituteFrom pattern marker (matched.length - 1) (some char) rest
    | none => char :: substituteFrom pattern marker 0 (some char) rest

def substituteAll (pattern : Pattern) (marker text : Text) : Text := substituteFrom isWord pattern marker 0 none text

end Substitute

/-- A marker in brackets. -/
def bracketed (name : Text) : Text := '<' :: (name ++ ['>'])

theorem bracketed_append (name rest : Text) : bracketed name ++ rest = '<' :: (name ++ '>' :: rest) := by
  rw [bracketed, List.cons_append, List.append_assoc, List.singleton_append]

/-- A text that no part of a marker can be taken for. -/
structure Foreign (name needle : Text) : Prop where
  opens : '<' ∉ needle
  closes : '>' ∉ needle
  inside : ¬needle <:+: name

theorem prefix_split {char : Char} {needle front after : Text} (free : char ∉ needle)
    (leads : needle <+: front ++ char :: after) : needle <+: front := by
  induction front generalizing needle with
  | nil =>
    cases needle with
    | nil => exact List.nil_prefix
    | cons other needle =>
      obtain ⟨rfl, _⟩ := List.cons_prefix_cons.mp leads
      exact absurd List.mem_cons_self free
  | cons first front ih =>
    cases needle with
    | nil => exact List.nil_prefix
    | cons other needle =>
      obtain ⟨rfl, rest⟩ := List.cons_prefix_cons.mp leads
      exact List.cons_prefix_cons.mpr ⟨rfl, ih (fun member => free (List.mem_cons_of_mem _ member)) rest⟩

/-- A text without a character stands on one side of it. -/
theorem infix_split {char : Char} {needle front after : Text} (free : char ∉ needle)
    (inside : needle <:+: front ++ char :: after) : needle <:+: front ∨ needle <:+: after := by
  induction front with
  | nil =>
    rcases List.infix_cons_iff.mp inside with first | later
    · exact .inl (prefix_split free (show needle <+: [] ++ char :: after from first)).isInfix
    · exact .inr later
  | cons other front ih =>
    rcases List.infix_cons_iff.mp inside with first | later
    · exact .inl (prefix_split free (show needle <+: other :: front ++ char :: after from first)).isInfix
    · rcases ih later with before | behind
      · exact .inl (List.infix_cons_iff.mpr (.inr before))
      · exact .inr behind

/-- What stands behind a marker, seen from a text that is foreign to it. -/
theorem Foreign.behind {name needle rest : Text} (foreign : Foreign name needle)
    (inside : needle <:+: bracketed name ++ rest) : needle <:+: rest := by
  rw [bracketed_append] at inside
  have opened : needle <:+: [] ++ '<' :: (name ++ '>' :: rest) := inside
  rcases infix_split foreign.opens opened with nothing | later
  · rw [List.infix_nil.mp nothing]
    exact List.nil_infix
  · rcases infix_split foreign.closes later with within | behind
    · exact absurd within foreign.inside
    · exact behind

section Substituted
variable {isWord : Char → Bool} {pattern : Pattern} {name needle text marker : Text} {before : Option Char}

/-- No match begins inside the text where it stands. -/
def Spared (isWord : Char → Bool) (pattern : Pattern) (before : Option Char) (needle after : Text) : Prop :=
  ∀ early late, needle = early ++ late → late ≠ [] → matchAny isWord pattern (early.getLast?.or before) (late ++ after) = none

theorem substitute_front (apart : '<' ∉ needle)
    (leads : needle <+: substituteFrom isWord pattern (bracketed name) 0 before text) :
    ∃ after, text = needle ++ after ∧ Spared isWord pattern before needle after := by
  induction needle generalizing before text with
  | nil =>
    refine ⟨text, rfl, ?_⟩
    intro early late split filled
    exact absurd (List.append_eq_nil_iff.mp split.symm).2 filled
  | cons char needle ih =>
    rw [List.mem_cons, not_or] at apart
    cases text with
    | nil => exact absurd (List.prefix_nil.mp leads) (List.cons_ne_nil char needle)
    | cons first rest =>
      rw [substituteFrom] at leads
      split at leads
      · rw [bracketed, List.cons_append] at leads
        exact absurd (List.cons_prefix_cons.mp leads).1 (Ne.symm apart.1)
      · rename_i none_here
        obtain ⟨rfl, leads⟩ := List.cons_prefix_cons.mp leads
        obtain ⟨after, rfl, spared⟩ := ih apart.2 leads
        refine ⟨after, rfl, ?_⟩
        intro early late split filled
        cases early with
        | nil =>
          rw [List.nil_append] at split
          rw [← split]
          exact none_here
        | cons other early =>
          obtain ⟨rfl, others⟩ := List.cons.inj split
          rw [getLast?_cons_or]
          exact spared early late others filled

/-- What remains of a text stood in it, and was spared. -/
theorem substitute_inside {passed : Nat} (foreign : Foreign name needle)
    (inside : needle <:+: substituteFrom isWord pattern (bracketed name) passed before text) (filled : needle ≠ []) :
    ∃ front after, text = front ++ (needle ++ after) ∧
      Spared isWord pattern (front.getLast?.or before) needle after := by
  induction text generalizing passed before with
  | nil =>
    cases passed <;> exact absurd (List.infix_nil.mp inside) filled
  | cons char rest ih =>
    have later {passed : Nat}
        (inside : needle <:+: substituteFrom isWord pattern (bracketed name) passed (some char) rest) :
        ∃ front after, char :: rest = front ++ (needle ++ after) ∧
          Spared isWord pattern (front.getLast?.or before) needle after := by
      obtain ⟨front, after, same, spared⟩ := ih inside
      refine ⟨char :: front, after, by rw [same, List.cons_append], ?_⟩
      rw [getLast?_cons_or]
      exact spared
    cases passed with
    | succ passed => exact later inside
    | zero =>
      have whole := inside
      rw [substituteFrom] at inside
      split at inside
      · exact later (foreign.behind inside)
      · rcases List.infix_cons_iff.mp inside with first | behind
        · rename_i none_here
          have leads : needle <+: substituteFrom isWord pattern (bracketed name) 0 before (char :: rest) := by
            rw [substituteFrom, none_here]
            exact first
          obtain ⟨after, same, spared⟩ := substitute_front foreign.opens leads
          exact ⟨[], after, same, spared⟩
        · exact later behind

theorem substitute_within (foreign : Foreign name needle)
    (inside : needle <:+: substituteAll isWord pattern (bracketed name) text) : needle <:+: text := by
  by_cases filled : needle = []
  · rw [filled]
    exact List.nil_infix
  · obtain ⟨front, after, same, _⟩ := substitute_inside foreign inside filled
    exact ⟨front, after, by rw [List.append_assoc, same]⟩

/-- Nothing remains that has a match in it. -/
theorem substitute_clears {part : Text} (foreign : Foreign name needle) (within : part <:+: needle) (filled : part ≠ [])
    (matches_part : ∀ before after, (matchAny isWord pattern before (part ++ after)).isSome = true) :
    ¬needle <:+: substituteAll isWord pattern (bracketed name) text := by
  intro inside
  obtain ⟨early, late, rfl⟩ := within
  have whole : early ++ part ++ late ≠ [] := by simp [filled]
  obtain ⟨front, after, _, spared⟩ := substitute_inside foreign inside whole
  have missed := spared early (part ++ late) (List.append_assoc early part late) (by simp [filled])
  have found := matches_part (early.getLast?.or (front.getLast?.or none)) (late ++ after)
  rw [← List.append_assoc, missed] at found
  cases found

/-- A text that no match is part of stays as it is. -/
theorem substitute_none (apart : ∀ before matched after, MatchesAny isWord pattern before matched after → ¬matched <:+: text) :
    substituteAll isWord pattern marker text = text := by
  unfold substituteAll
  generalize (none : Option Char) = before
  induction text generalizing before with
  | nil => rfl
  | cons first rest ih =>
    have nothing : matchAny isWord pattern before (first :: rest) = none := by
      rw [← Option.not_isSome_iff_eq_none]
      intro found
      obtain ⟨matched, found⟩ := Option.isSome_iff_exists.mp found
      obtain ⟨after, same, fits⟩ := matchAny_sound found
      exact apart _ _ _ fits ⟨[], after, same.symm⟩
    have later : ∀ before matched after, MatchesAny isWord pattern before matched after → ¬matched <:+: rest := by
      intro before matched after fits inside
      exact apart before matched after fits (List.infix_cons_iff.mpr (.inr inside))
    rw [substituteFrom, nothing]
    dsimp only
    rw [ih later]

end Substituted

/-! ## Remainders -/

section Remainders
variable (isWord : Char → Bool)

/-- The stretches of a text that a substitution leaves, in their order. -/
def remaindersFrom (pattern : Pattern) : Nat → Option Char → Text → List Text
  | _, _, [] => [[]]
  | passed + 1, _, char :: rest => remaindersFrom pattern passed (some char) rest
  | 0, before, char :: rest => match matchAny isWord pattern before (char :: rest) with
    | some matched => [] :: remaindersFrom pattern (matched.length - 1) (some char) rest
    | none => (remaindersFrom pattern 0 (some char) rest).modifyHead (char :: ·)

def remainders (pattern : Pattern) (text : Text) : List Text := remaindersFrom isWord pattern 0 none text

end Remainders

/-- A text made of pieces with a separator between each two. -/
inductive Joined (separator : Text → Prop) : List Text → Text → Prop
  | last (piece : Text) : Joined separator [piece] piece
  | cons {pieces : List Text} {text : Text} (piece : Text) {between : Text} (parts : separator between)
      (joined : Joined separator pieces text) : Joined separator (piece :: pieces) (piece ++ (between ++ text))

/-- A marker that is foreign to some words. -/
def IsBracketed (words : Text → Prop) (marker : Text) : Prop :=
  ∃ name, marker = bracketed name ∧ ∀ word, words word → Foreign name word

namespace Joined
variable {separator words : Text → Prop} {pieces others : List Text} {text other between word : Text}

theorem push (char : Char) (joined : Joined separator pieces text) :
    Joined separator (pieces.modifyHead (char :: ·)) (char :: text) := by
  cases joined with
  | last => exact .last (char :: text)
  | cons piece parts joined => exact .cons (char :: piece) parts joined

theorem append (joined : Joined separator pieces text) (parts : separator between)
    (behind : Joined separator others other) : Joined separator (pieces ++ others) (text ++ (between ++ other)) := by
  induction joined with
  | last piece => exact .cons piece parts behind
  | cons piece first joined ih =>
    rw [List.append_assoc, List.append_assoc]
    exact .cons piece first ih

/-- A word stands in a text joined by markers where it stands in one of the pieces. -/
theorem infix_iff (joined : Joined (IsBracketed words) pieces text) (member : words word) :
    word <:+: text ↔ ∃ piece ∈ pieces, word <:+: piece := by
  induction joined with
  | last piece => simp
  | @cons pieces text piece between parts joined ih =>
    obtain ⟨name, rfl, foreign⟩ := parts
    have apart := foreign word member
    rw [List.exists_mem_cons_iff, ← ih]
    constructor
    · intro inside
      rw [bracketed_append] at inside
      rcases infix_split apart.opens inside with here | later
      · exact .inl here
      · rcases infix_split apart.closes later with within | behind
        · exact absurd within apart.inside
        · exact .inr behind
    · rintro (here | later)
      · exact here.trans (List.prefix_append piece _).isInfix
      · exact later.trans ((List.suffix_append (bracketed name) text).trans (List.suffix_append piece _)).isInfix

end Joined

section Joining
variable {isWord : Char → Bool} {pattern : Pattern} {separator words : Text → Prop} {pieces : List Text}
  {text name marker : Text}

/-- A substitution joins the stretches it leaves. -/
theorem joined_substitute (marks : separator marker) :
    Joined separator (remainders isWord pattern text) (substituteAll isWord pattern marker text) := by
  unfold remainders substituteAll
  generalize (none : Option Char) = before, 0 = passed
  induction text generalizing before passed with
  | nil =>
    cases passed <;> exact .last []
  | cons char rest ih =>
    cases passed with
    | succ passed => exact ih (some char) passed
    | zero =>
      rw [remaindersFrom, substituteFrom]
      cases matchAny isWord pattern before (char :: rest) with
      | some matched => exact .cons [] marks (ih (some char) (matched.length - 1))
      | none => exact (ih (some char) 0).push char

/-- Single characters in a row, none of which a given one can be. -/
def Avoids (pattern : Pattern) (char : Char) : Prop :=
  ∀ items ∈ pattern, items ≠ [] ∧ ∀ item ∈ items, ∃ accepts, item = .one accepts ∧ accepts char = false

/-- Neither what stands before a match nor what stands behind a character outside of it counts. -/
theorem matchAny_avoids {char : Char} {before other : Option Char} {after : Text} (avoids : Avoids pattern char) :
    matchAny isWord pattern before (text ++ char :: after) = matchAny isWord pattern other text := by
  have front {items : List Item} (each : ∀ item ∈ items, ∃ accepts, item = .one accepts ∧ accepts char = false) :
      matchFront isWord items before (text ++ char :: after) = matchFront isWord items other text := by
    induction items generalizing before other text with
    | nil => rfl
    | cons item items ih =>
      obtain ⟨⟨accepts, rfl, refused⟩, others⟩ := List.forall_mem_cons.mp each
      cases text with
      | nil => simp [matchFront, refused]
      | cons first text =>
        rw [List.cons_append, matchFront, matchFront]
        split
        · rw [ih others]
        · rfl
  unfold matchAny
  induction pattern with
  | nil => rfl
  | cons items pattern ih =>
    obtain ⟨here, others⟩ := List.forall_mem_cons.mp avoids
    rw [List.firstM, List.firstM, front here.2, ih others]

theorem matchAny_before {char : Char} {before other : Option Char} (avoids : Avoids pattern char) :
    matchAny isWord pattern before text = matchAny isWord pattern other text := by
  have first := @matchAny_avoids isWord pattern text char none before [] avoids
  exact first.symm.trans (matchAny_avoids avoids)

theorem matchAny_at {char : Char} {before : Option Char} {after : Text} (avoids : Avoids pattern char) :
    matchAny isWord pattern before (char :: after) = none := by
  unfold matchAny
  induction pattern with
  | nil => rfl
  | cons items pattern ih =>
    obtain ⟨⟨filled, each⟩, others⟩ := List.forall_mem_cons.mp avoids
    obtain ⟨item, items, rfl⟩ := List.exists_cons_of_ne_nil filled
    obtain ⟨accepts, rfl, refused⟩ := each item List.mem_cons_self
    have nothing : matchFront isWord (.one accepts :: items) before (char :: after) = none := by simp [matchFront, refused]
    rw [List.firstM, nothing]
    exact ih others

theorem substituteFrom_before {char : Char} {passed : Nat} {before other : Option Char} (avoids : Avoids pattern char) :
    substituteFrom isWord pattern marker passed before text = substituteFrom isWord pattern marker passed other text := by
  cases text with
  | nil => cases passed <;> rfl
  | cons first rest =>
    cases passed with
    | succ passed => rfl
    | zero => rw [substituteFrom, substituteFrom, matchAny_before avoids]

/-- A substitution goes its own way on each side of a character that no match can have. -/
theorem substituteFrom_avoids {char : Char} {passed : Nat} {before : Option Char} {after : Text}
    (avoids : Avoids pattern char) (within : passed ≤ text.length) :
    substituteFrom isWord pattern marker passed before (text ++ char :: after) =
      substituteFrom isWord pattern marker passed before text ++ char :: substituteAll isWord pattern marker after := by
  induction text generalizing passed before with
  | nil =>
    obtain rfl := Nat.le_zero.mp within
    change substituteFrom isWord pattern marker 0 before (char :: after) = char :: _
    rw [substituteFrom, matchAny_at avoids]
    exact congrArg (char :: ·) (substituteFrom_before avoids)
  | cons first rest ih =>
    cases passed with
    | succ passed => exact ih (Nat.le_of_succ_le_succ within)
    | zero =>
      have same := @matchAny_avoids isWord pattern (first :: rest) char before before after avoids
      rw [List.cons_append] at same
      rw [List.cons_append, substituteFrom, substituteFrom, same]
      cases found : matchAny isWord pattern before (first :: rest) with
      | none =>
        dsimp only
        rw [ih (Nat.zero_le _), List.cons_append]
      | some matched =>
        have fits : matched.length - 1 ≤ rest.length := by
          obtain ⟨behind, split, _⟩ := matchAny_sound found
          have size := congrArg List.length split
          rw [List.length_append, List.length_cons] at size
          omega
        dsimp only
        rw [ih fits, List.append_assoc]

theorem substituteAll_avoids {char : Char} {front after : Text} (avoids : Avoids pattern char) :
    substituteAll isWord pattern marker (front ++ char :: after) =
      substituteAll isWord pattern marker front ++ char :: substituteAll isWord pattern marker after :=
  substituteFrom_avoids avoids (Nat.zero_le _)

/-- A further substitution leaves of a joined text what it leaves of each piece. -/
theorem Joined.substitute (joined : Joined (IsBracketed words) pieces text)
    (foreign : ∀ word, words word → Foreign name word) (opens : Avoids pattern '<') (closes : Avoids pattern '>') :
    Joined (IsBracketed words) (pieces.flatMap (remainders isWord pattern))
      (substituteAll isWord pattern (bracketed name) text) := by
  have marks : IsBracketed words (bracketed name) := ⟨name, rfl, foreign⟩
  induction joined with
  | last piece =>
    rw [List.flatMap_cons, List.flatMap_nil, List.append_nil]
    exact joined_substitute marks
  | @cons pieces text piece between parts joined ih =>
    obtain ⟨first, rfl, apart⟩ := parts
    have inner : IsBracketed words (bracketed (substituteAll isWord pattern (bracketed name) first)) := by
      refine ⟨_, rfl, fun word member => ?_⟩
      have outer := apart word member
      exact ⟨outer.opens, outer.closes, fun inside => outer.inside (substitute_within (foreign word member) inside)⟩
    have parted := (@joined_substitute isWord pattern _ piece _ marks).append inner ih
    rw [bracketed_append] at parted
    rw [bracketed_append, substituteAll_avoids opens, substituteAll_avoids closes, List.flatMap_cons]
    exact parted

/-- The text itself has its matches between what they leave of it. -/
theorem joined_remainders (parts : ∀ before matched after, MatchesAny isWord pattern before matched after →
    separator matched ∧ matched ≠ []) : Joined separator (remainders isWord pattern text) text := by
  have passing {passed : Nat} {before : Option Char} :
      Joined separator (remaindersFrom isWord pattern passed before text) (text.drop passed) := by
    induction text generalizing passed before with
    | nil =>
      cases passed <;> exact .last []
    | cons char rest ih =>
      cases passed with
      | succ passed => exact ih
      | zero =>
        rw [remaindersFrom, List.drop_zero]
        cases found : matchAny isWord pattern before (char :: rest) with
        | none => exact Joined.push char (@ih 0 (some char))
        | some matched =>
          obtain ⟨after, same, fits⟩ := matchAny_sound found
          obtain ⟨between, filled⟩ := parts before matched after fits
          obtain ⟨first, others, rfl⟩ := List.exists_cons_of_ne_nil filled
          obtain ⟨rfl, split⟩ := List.cons.inj (same.trans (List.cons_append ..))
          have behind := @ih others.length (some char)
          rw [split, List.drop_left, ← split] at behind
          rw [same]
          exact .cons [] between behind
  exact @passing 0 none

/-- So it does when what they leave is cut once more. -/
theorem Joined.remainders (joined : Joined separator pieces text)
    (parts : ∀ before matched after, MatchesAny isWord pattern before matched after → separator matched ∧ matched ≠ []) :
    Joined separator (pieces.flatMap (Library.remainders isWord pattern)) text := by
  induction joined with
  | last piece =>
    rw [List.flatMap_cons, List.flatMap_nil, List.append_nil]
    exact joined_remainders parts
  | cons piece between joined ih =>
    rw [List.flatMap_cons]
    exact (joined_remainders parts).append between ih

end Joining

end PlayTogether.Library
