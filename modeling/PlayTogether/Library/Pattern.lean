import Mathlib.Data.List.Basic

/-! Search patterns over text: alternatives of sequences of single characters, runs of
characters and word boundaries. A matcher finds the text of a match, and a declarative
relation says what a match is. -/

namespace PlayTogether.Library

abbrev Text : Type := List Char

inductive Item where
  | one (accepts : Char → Bool)
  | many (accepts : Char → Bool)
  | boundary

abbrev Pattern : Type := List (List Item)

/-- Letter case does not count. Besides the ASCII letters, two forms of the letter i, the
long s and the Kelvin sign are other cases of letters. -/
def sameIgnoringCase (letter char : Char) : Bool :=
  char.toLower == letter.toLower ||
    (letter.toLower == 'i' && (char.toNat == 0x130 || char.toNat == 0x131)) ||
    (letter.toLower == 's' && char.toNat == 0x17f) || (letter.toLower == 'k' && char.toNat == 0x212a)

theorem toLower_toNat (char : Char) :
    char.toLower.toNat = if 65 ≤ char.toNat ∧ char.toNat ≤ 90 then char.toNat + 32 else char.toNat := by
  unfold Char.toLower
  split
  · rename_i upper
    have range : 65 ≤ char.toNat ∧ char.toNat ≤ 90 := upper
    rw [if_pos range]
    change (char.val + 32).toNat = char.toNat + 32
    rw [UInt32.toNat_add]
    change (char.toNat + 32) % 2 ^ 32 = char.toNat + 32
    omega
  · rename_i other
    have range : ¬(65 ≤ char.toNat ∧ char.toNat ≤ 90) := other
    rw [if_neg range]

def literal (word : String) : List Item := word.toList.map fun letter => .one (sameIgnoringCase letter)

/-- The characters of white space. -/
def isSpace (char : Char) : Bool :=
  let code := char.toNat
  (0x09 ≤ code && code ≤ 0x0d) || (0x1c ≤ code && code ≤ 0x20) || code == 0x85 || code == 0xa0 || code == 0x1680 ||
    (0x2000 ≤ code && code ≤ 0x200a) || code == 0x2028 || code == 0x2029 || code == 0x202f || code == 0x205f ||
    code == 0x3000

def spaces : List Item := [.many isSpace]

def someSpaces : List Item := [.one isSpace, .many isSpace]

/-! ## Matching -/

section Match
variable (isWord : Char → Bool)

/-- A boundary stands between a character of a word and something else. -/
def atBoundary (before : Option Char) (text : Text) : Bool := before.any isWord != text.head?.any isWord

/-- A run, as long as possible, before the rest of the match. -/
def runThen (accepts : Char → Bool) (next : Option Char → Text → Option Text) : Option Char → Text → Option Text
  | before, [] => next before []
  | before, char :: rest =>
    if accepts char then match runThen accepts next (some char) rest with
      | some matched => some (char :: matched)
      | none => next before (char :: rest)
    else next before (char :: rest)

/-- The text of a match at the front. -/
def matchFront : List Item → Option Char → Text → Option Text
  | [], _, _ => some []
  | .one accepts :: items, _, text => match text with
    | [] => none
    | char :: rest => if accepts char then (matchFront items (some char) rest).map (char :: ·) else none
  | .many accepts :: items, before, text => runThen accepts (matchFront items) before text
  | .boundary :: items, before, text => if atBoundary isWord before text then matchFront items before text else none

def matchAny (pattern : Pattern) (before : Option Char) (text : Text) : Option Text :=
  pattern.firstM fun items => matchFront isWord items before text

def searchFrom (pattern : Pattern) : Option Char → Text → Option Text
  | before, [] => matchAny isWord pattern before []
  | before, char :: rest => match matchAny isWord pattern before (char :: rest) with
    | some matched => some matched
    | none => searchFrom pattern (some char) rest

/-- The first match in a text. -/
def search (pattern : Pattern) (text : Text) : Option Text := searchFrom isWord pattern none text

/-! ## Meaning -/

/-- The matched text meets the items between what stands before and after it. -/
def Matches : List Item → Option Char → Text → Text → Prop
  | [], _, matched, _ => matched = []
  | .one accepts :: items, _, matched, after =>
    ∃ char rest, matched = char :: rest ∧ accepts char = true ∧ Matches items (some char) rest after
  | .many accepts :: items, before, matched, after =>
    ∃ run rest, matched = run ++ rest ∧ (∀ char ∈ run, accepts char = true) ∧
      Matches items (run.getLast?.or before) rest after
  | .boundary :: items, before, matched, after =>
    atBoundary isWord before (matched ++ after) = true ∧ Matches items before matched after

/-- A match of one of the alternatives. -/
def MatchesAny (pattern : Pattern) (before : Option Char) (matched after : Text) : Prop :=
  ∃ items ∈ pattern, Matches isWord items before matched after

variable {isWord}

theorem getLast?_cons_or (char : Char) (run : Text) (before : Option Char) :
    (char :: run).getLast?.or before = run.getLast?.or (some char) := by
  cases run with
  | nil => rfl
  | cons other run =>
    rw [List.getLast?_cons_cons]
    cases last : (other :: run).getLast? with
    | none => exact absurd (List.getLast?_eq_none_iff.mp last) (List.cons_ne_nil other run)
    | some last => rfl

/-- A match of two parts one after the other. -/
theorem matches_append {items others : List Item} {before : Option Char} {matched after : Text} :
    Matches isWord (items ++ others) before matched after ↔ ∃ first rest, matched = first ++ rest ∧
      Matches isWord items before first (rest ++ after) ∧ Matches isWord others (first.getLast?.or before) rest after := by
  induction items generalizing before matched with
  | nil =>
    constructor
    · intro fits
      exact ⟨[], matched, rfl, rfl, fits⟩
    · intro ⟨first, rest, split, ended, fits⟩
      cases ended
      rw [split]
      exact fits
  | cons item items ih =>
    cases item with
    | one accepts =>
      rw [List.cons_append, Matches]
      constructor
      · intro ⟨char, rest, split, accepted, fits⟩
        obtain ⟨first, others, rfl, front, back⟩ := ih.mp fits
        refine ⟨char :: first, others, split, ⟨char, first, rfl, accepted, front⟩, ?_⟩
        rw [getLast?_cons_or]
        exact back
      · intro ⟨first, rest, split, ⟨char, inner, same, accepted, front⟩, back⟩
        rw [same, getLast?_cons_or] at back
        rw [same] at split
        exact ⟨char, inner ++ rest, split, accepted, ih.mpr ⟨inner, rest, rfl, front, back⟩⟩
    | many accepts =>
      rw [List.cons_append, Matches]
      constructor
      · intro ⟨run, rest, split, each, fits⟩
        obtain ⟨first, others, rfl, front, back⟩ := ih.mp fits
        refine ⟨run ++ first, others, ?_, ⟨run, first, rfl, each, front⟩, ?_⟩
        · rw [split, List.append_assoc]
        · rw [List.getLast?_append, Option.or_assoc]
          exact back
      · intro ⟨first, rest, split, ⟨run, inner, same, each, front⟩, back⟩
        rw [same, List.getLast?_append, Option.or_assoc] at back
        rw [same, List.append_assoc] at split
        exact ⟨run, inner ++ rest, split, each, ih.mpr ⟨inner, rest, rfl, front, back⟩⟩
    | boundary =>
      rw [List.cons_append, Matches]
      constructor
      · intro ⟨bounded, fits⟩
        obtain ⟨first, rest, rfl, front, back⟩ := ih.mp fits
        rw [List.append_assoc] at bounded
        exact ⟨first, rest, rfl, ⟨bounded, front⟩, back⟩
      · intro ⟨first, rest, split, ⟨bounded, front⟩, back⟩
        rw [← List.append_assoc, ← split] at bounded
        exact ⟨bounded, ih.mpr ⟨first, rest, split, front, back⟩⟩

/-- No boundary is asked for, so what stands around a match does not count. -/
def Unbounded (items : List Item) : Prop := ∀ item ∈ items, item ≠ .boundary

theorem matches_unbounded {items : List Item} {before other : Option Char} {matched after later : Text}
    (unbounded : Unbounded items) (fits : Matches isWord items before matched after) :
    Matches isWord items other matched later := by
  induction items generalizing before other matched with
  | nil => exact fits
  | cons item items ih =>
    obtain ⟨here, others⟩ := List.forall_mem_cons.mp unbounded
    cases item with
    | one accepts =>
      obtain ⟨char, rest, split, accepted, inner⟩ := fits
      exact ⟨char, rest, split, accepted, ih others inner⟩
    | many accepts =>
      obtain ⟨run, rest, split, each, inner⟩ := fits
      exact ⟨run, rest, split, each, ih others inner⟩
    | boundary => exact absurd rfl here

/-- The text is the word in some letter case. -/
def Spells (word : String) (text : Text) : Prop :=
  List.Forall₂ (fun letter char => sameIgnoringCase letter char = true) word.toList text

theorem matches_literal {word : String} {before : Option Char} {matched after : Text} :
    Matches isWord (literal word) before matched after ↔ Spells word matched := by
  unfold literal Spells
  induction word.toList generalizing before matched with
  | nil =>
    rw [List.map_nil, Matches]
    constructor
    · intro ended
      rw [ended]
      exact .nil
    · intro spells
      cases spells
      rfl
  | cons letter letters ih =>
    rw [List.map_cons, Matches]
    constructor
    · intro ⟨char, rest, split, accepted, fits⟩
      rw [split]
      exact .cons accepted (ih.mp fits)
    · intro spells
      cases spells with
      | cons accepted others => exact ⟨_, _, rfl, accepted, ih.mpr others⟩

theorem unbounded_literal (word : String) : Unbounded (literal word) := by
  intro item member
  obtain ⟨letter, _, rfl⟩ := List.mem_map.mp member
  exact Item.noConfusion

theorem runThen_sound {accepts : Char → Bool} {next : Option Char → Text → Option Text} {before : Option Char}
    {text matched : Text} (found : runThen accepts next before text = some matched) :
    ∃ run rest others, matched = run ++ rest ∧ text = run ++ others ∧ (∀ char ∈ run, accepts char = true) ∧
      next (run.getLast?.or before) others = some rest := by
  have stop {rest : Text} (found : next before rest = some matched) (same : text = rest) :
      ∃ run rest others, matched = run ++ rest ∧ text = run ++ others ∧ (∀ char ∈ run, accepts char = true) ∧
        next (run.getLast?.or before) others = some rest :=
    ⟨[], matched, rest, rfl, same, by simp, found⟩
  induction text generalizing before matched with
  | nil => exact stop found rfl
  | cons char text ih =>
    rw [runThen] at found
    split at found
    · rename_i accepted
      split at found
      · rename_i inner behind
        cases found
        obtain ⟨run, rest, others, rfl, rfl, each, here⟩ := ih behind fun found same =>
          ⟨[], inner, _, rfl, same, by simp, found⟩
        refine ⟨char :: run, rest, others, rfl, rfl, List.forall_mem_cons.mpr ⟨accepted, each⟩, ?_⟩
        rw [getLast?_cons_or]
        exact here
      · exact stop found rfl
    · exact stop found rfl

theorem runThen_complete {accepts : Char → Bool} {next : Option Char → Text → Option Text} {before : Option Char}
    {run others : Text} (accepted : ∀ char ∈ run, accepts char = true)
    (found : (next (run.getLast?.or before) others).isSome = true) :
    (runThen accepts next before (run ++ others)).isSome = true := by
  induction run generalizing before with
  | nil =>
    cases others with
    | nil => exact found
    | cons char others =>
      rw [List.nil_append, runThen]
      split
      · split
        · rfl
        · exact found
      · exact found
  | cons char run ih =>
    obtain ⟨here, each⟩ := List.forall_mem_cons.mp accepted
    rw [getLast?_cons_or] at found
    obtain ⟨matched, behind⟩ := Option.isSome_iff_exists.mp (ih each found)
    rw [List.cons_append, runThen, if_pos here, behind]
    rfl

theorem matchFront_sound {items : List Item} {before : Option Char} {text matched : Text}
    (found : matchFront isWord items before text = some matched) :
    ∃ after, text = matched ++ after ∧ Matches isWord items before matched after := by
  induction items generalizing before text matched with
  | nil =>
    cases found
    exact ⟨text, rfl, rfl⟩
  | cons item items ih =>
    cases item with
    | one accepts =>
      cases text with
      | nil => cases found
      | cons char text =>
        rw [matchFront] at found
        split at found
        · rename_i accepted
          obtain ⟨rest, inner, rfl⟩ := Option.map_eq_some_iff.mp found
          obtain ⟨after, rfl, fits⟩ := ih inner
          exact ⟨after, rfl, char, rest, rfl, accepted, fits⟩
        · cases found
    | many accepts =>
      obtain ⟨run, rest, others, rfl, rfl, each, inner⟩ := runThen_sound found
      obtain ⟨after, rfl, fits⟩ := ih inner
      exact ⟨after, (List.append_assoc run rest after).symm, run, rest, rfl, each, fits⟩
    | boundary =>
      rw [matchFront] at found
      split at found
      · rename_i bounded
        obtain ⟨after, rfl, fits⟩ := ih found
        exact ⟨after, rfl, bounded, fits⟩
      · cases found

theorem matchFront_complete {items : List Item} {before : Option Char} {matched after : Text}
    (fits : Matches isWord items before matched after) :
    (matchFront isWord items before (matched ++ after)).isSome = true := by
  induction items generalizing before matched with
  | nil => rfl
  | cons item items ih =>
    cases item with
    | one accepts =>
      obtain ⟨char, rest, rfl, accepted, inner⟩ := fits
      rw [List.cons_append, matchFront, if_pos accepted, Option.isSome_map]
      exact ih inner
    | many accepts =>
      obtain ⟨run, rest, rfl, each, inner⟩ := fits
      rw [List.append_assoc, matchFront]
      exact runThen_complete each (ih inner)
    | boundary =>
      rw [matchFront, if_pos fits.1]
      exact ih fits.2

theorem matchAny_sound {pattern : Pattern} {before : Option Char} {text matched : Text}
    (found : matchAny isWord pattern before text = some matched) :
    ∃ after, text = matched ++ after ∧ MatchesAny isWord pattern before matched after := by
  unfold matchAny at found
  induction pattern with
  | nil => cases found
  | cons items pattern ih =>
    rw [List.firstM] at found
    cases here : matchFront isWord items before text with
    | some first =>
      rw [here] at found
      cases found
      obtain ⟨after, same, fits⟩ := matchFront_sound here
      exact ⟨after, same, items, List.mem_cons_self, fits⟩
    | none =>
      rw [here] at found
      obtain ⟨after, same, other, member, fits⟩ := ih found
      exact ⟨after, same, other, List.mem_cons_of_mem items member, fits⟩

theorem matchAny_complete {pattern : Pattern} {before : Option Char} {matched after : Text}
    (fits : MatchesAny isWord pattern before matched after) :
    (matchAny isWord pattern before (matched ++ after)).isSome = true := by
  obtain ⟨items, member, fits⟩ := fits
  unfold matchAny
  induction pattern with
  | nil => cases member
  | cons other pattern ih =>
    rw [List.firstM]
    cases here : matchFront isWord other before (matched ++ after) with
    | some first => rfl
    | none =>
      rcases List.mem_cons.mp member with rfl | member
      · rw [Option.isSome_iff_ne_none] at *
        exact absurd here (Option.isSome_iff_ne_none.mp (matchFront_complete fits))
      · exact ih member

theorem searchFrom_sound {pattern : Pattern} {before : Option Char} {text matched : Text}
    (found : searchFrom isWord pattern before text = some matched) :
    ∃ front after, text = front ++ (matched ++ after) ∧
      MatchesAny isWord pattern (front.getLast?.or before) matched after := by
  induction text generalizing before with
  | nil =>
    obtain ⟨after, same, fits⟩ := matchAny_sound found
    exact ⟨[], after, same, fits⟩
  | cons char text ih =>
    rw [searchFrom] at found
    split at found
    · rename_i here
      cases found
      obtain ⟨after, same, fits⟩ := matchAny_sound here
      exact ⟨[], after, same, fits⟩
    · obtain ⟨front, after, rfl, fits⟩ := ih found
      refine ⟨char :: front, after, rfl, ?_⟩
      rw [getLast?_cons_or]
      exact fits

theorem searchFrom_complete {pattern : Pattern} {before : Option Char} {front matched after : Text}
    (fits : MatchesAny isWord pattern (front.getLast?.or before) matched after) :
    (searchFrom isWord pattern before (front ++ (matched ++ after))).isSome = true := by
  induction front generalizing before with
  | nil =>
    have here := matchAny_complete fits
    rw [List.nil_append]
    cases text : matched ++ after with
    | nil =>
      rw [text] at here
      exact here
    | cons char rest =>
      rw [text] at here
      obtain ⟨first, found⟩ := Option.isSome_iff_exists.mp here
      have same : matchAny isWord pattern before (char :: rest) = some first := found
      rw [searchFrom, same]
      rfl
  | cons char front ih =>
    rw [getLast?_cons_or] at fits
    rw [List.cons_append, searchFrom]
    split
    · rfl
    · exact ih fits

/-- A search finds something exactly when a match stands somewhere in the text. -/
theorem search_isSome {pattern : Pattern} {text : Text} :
    (search isWord pattern text).isSome = true ↔
      ∃ front matched after, text = front ++ (matched ++ after) ∧ MatchesAny isWord pattern front.getLast? matched after := by
  constructor
  · intro found
    obtain ⟨matched, here⟩ := Option.isSome_iff_exists.mp found
    obtain ⟨front, after, same, fits⟩ := searchFrom_sound here
    rw [Option.or_none] at fits
    exact ⟨front, matched, after, same, fits⟩
  · intro stands
    obtain ⟨front, matched, after, rfl, fits⟩ := stands
    apply searchFrom_complete
    rwa [Option.or_none]

end Match

end PlayTogether.Library
