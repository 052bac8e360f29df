import PlayTogether.Library.Pattern

/-! The words of a text, between runs of white space. -/

namespace PlayTogether.Library

/-- The words, after the part of one that is already read. -/
def wordsFrom : Text → Text → List Text
  | current, [] => if current = [] then [] else [current]
  | current, char :: rest =>
    if isSpace char then
      if current = [] then wordsFrom [] rest else current :: wordsFrom [] rest
    else wordsFrom (current ++ [char]) rest

def words (text : Text) : List Text := wordsFrom [] text

/-- Only white space. -/
def Spacing (text : Text) : Prop := ∀ char ∈ text, isSpace char = true

/-- A word: something, and no white space. -/
structure Solid (word : Text) : Prop where
  filled : word ≠ []
  solid : ∀ char ∈ word, isSpace char = false

/-- The text stops or goes on with white space. -/
def Stops (text : Text) : Prop := ∀ char ∈ text.head?, isSpace char = true

section Words
variable {word text rest spacing current : Text} {list : List Text}

theorem wordsFrom_nil : wordsFrom current [] = if current = [] then [] else [current] := rfl

theorem wordsFrom_cons {char : Char} : wordsFrom current (char :: rest) =
    if isSpace char then (if current = [] then wordsFrom [] rest else current :: wordsFrom [] rest)
    else wordsFrom (current ++ [char]) rest := rfl

theorem words_eq : words text = wordsFrom [] text := rfl

theorem words_spacing (blank : Spacing spacing) (text : Text) : words (spacing ++ text) = words text := by
  induction spacing with
  | nil => rfl
  | cons char spacing ih =>
    obtain ⟨here, others⟩ := List.forall_mem_cons.mp blank
    rw [words_eq, List.cons_append, wordsFrom_cons, if_pos here, if_pos rfl]
    exact ih others

theorem wordsFrom_solid (solid : ∀ char ∈ word, isSpace char = false) (current text : Text) :
    wordsFrom current (word ++ text) = wordsFrom (current ++ word) text := by
  induction word generalizing current with
  | nil => rw [List.append_nil, List.nil_append]
  | cons char word ih =>
    obtain ⟨here, others⟩ := List.forall_mem_cons.mp solid
    rw [List.cons_append, wordsFrom_cons, if_neg (Bool.eq_false_iff.mp here), ih others, List.append_assoc,
      List.singleton_append]

/-- A word in front is the first one. -/
theorem words_cons (solid : Solid word) (stops : Stops rest) : words (word ++ rest) = word :: words rest := by
  rw [words_eq, wordsFrom_solid solid.solid, List.nil_append]
  cases rest with
  | nil => rw [wordsFrom_nil, if_neg solid.filled]; rfl
  | cons char rest =>
    have here : isSpace char = true := stops char rfl
    rw [wordsFrom_cons, if_pos here, if_neg solid.filled, words_eq, wordsFrom_cons, if_pos here, if_pos rfl]

theorem wordsFrom_eq_cons (filled : current ≠ []) (same : wordsFrom current text = word :: list) :
    ∃ more rest, word = current ++ more ∧ text = more ++ rest ∧ (∀ char ∈ more, isSpace char = false) ∧ Stops rest ∧
      words rest = list := by
  induction text generalizing current with
  | nil =>
    rw [wordsFrom_nil, if_neg filled] at same
    cases same
    exact ⟨[], [], (List.append_nil _).symm, rfl, by simp, by simp [Stops], rfl⟩
  | cons char text ih =>
    rw [wordsFrom_cons] at same
    split at same
    · rename_i space
      cases same
      refine ⟨[], char :: text, (List.append_nil _).symm, rfl, by simp, ?_, ?_⟩
      · intro other first
        cases first
        exact space
      · rw [words_eq, wordsFrom_cons, if_pos space, if_pos rfl]
    · rename_i letter
      obtain ⟨more, rest, rfl, rfl, solid, stops, others⟩ := ih (by simp) same
      refine ⟨char :: more, rest, by simp, rfl, ?_, stops, others⟩
      exact List.forall_mem_cons.mpr ⟨Bool.eq_false_iff.mpr letter, solid⟩

/-- The first word stands behind white space only. -/
theorem words_eq_cons (same : words text = word :: list) : ∃ spacing rest,
    text = spacing ++ (word ++ rest) ∧ Spacing spacing ∧ Solid word ∧ Stops rest ∧ words rest = list := by
  induction text with
  | nil => cases same
  | cons char text ih =>
    rw [words_eq, wordsFrom_cons] at same
    split at same
    · rename_i space
      rw [if_pos rfl] at same
      obtain ⟨spacing, rest, rfl, blank, solid, stops, others⟩ := ih same
      exact ⟨char :: spacing, rest, rfl, List.forall_mem_cons.mpr ⟨space, blank⟩, solid, stops, others⟩
    · rename_i letter
      obtain ⟨more, rest, rfl, rfl, solid, stops, others⟩ := wordsFrom_eq_cons (by simp) same
      refine ⟨[], rest, rfl, by simp [Spacing], ⟨by simp, ?_⟩, stops, others⟩
      exact List.forall_mem_cons.mpr ⟨Bool.eq_false_iff.mpr letter, solid⟩

theorem wordsFrom_ne_nil (filled : current ≠ []) : wordsFrom current text ≠ [] := by
  induction text generalizing current with
  | nil =>
    rw [wordsFrom_nil, if_neg filled]
    exact List.cons_ne_nil current []
  | cons char text ih =>
    rw [wordsFrom_cons]
    split
    · exact List.cons_ne_nil current _
    · exact ih (by simp)

theorem words_eq_nil (same : words text = []) : Spacing text := by
  induction text with
  | nil => simp [Spacing]
  | cons char text ih =>
    rw [words_eq, wordsFrom_cons] at same
    split at same
    · rename_i space
      rw [if_pos rfl] at same
      exact List.forall_mem_cons.mpr ⟨space, ih same⟩
    · exact absurd same (wordsFrom_ne_nil (List.cons_ne_nil char []))

end Words

/-! ## White space in patterns -/

section Spaces
variable {isWord : Char → Bool} {before : Option Char} {matched after : Text}

theorem matches_spaces : Matches isWord spaces before matched after ↔ Spacing matched := by
  unfold spaces
  rw [Matches]
  constructor
  · rintro ⟨run, rest, split, each, ended⟩
    cases ended
    rw [split, List.append_nil]
    exact each
  · intro blank
    exact ⟨matched, [], (List.append_nil matched).symm, blank, rfl⟩

theorem matches_someSpaces : Matches isWord someSpaces before matched after ↔ matched ≠ [] ∧ Spacing matched := by
  unfold someSpaces
  rw [Matches]
  constructor
  · rintro ⟨char, rest, split, space, fits⟩
    have others : Spacing rest := matches_spaces.mp fits
    rw [split]
    exact ⟨List.cons_ne_nil char rest, List.forall_mem_cons.mpr ⟨space, others⟩⟩
  · rintro ⟨filled, blank⟩
    obtain ⟨char, rest, rfl⟩ := List.exists_cons_of_ne_nil filled
    obtain ⟨space, others⟩ := List.forall_mem_cons.mp blank
    exact ⟨char, rest, rfl, space, matches_spaces.mpr others⟩

end Spaces

end PlayTogether.Library
