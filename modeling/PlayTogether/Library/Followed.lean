import Mathlib.Data.List.Infix

/-! Histories in which every triggering entry is followed by a complete answer, or is closed
before the next guarded entry. -/

namespace PlayTogether.Library

def Followed {α : Type} (trigger : α → Prop) (answer history : List α) : Prop :=
  ∀ before entry after, history = before ++ entry :: after → trigger entry → answer <:+: after

section Followed
variable {α : Type} {trigger : α → Prop} {answer history : List α}

theorem followed_of_quiet (quiet : ∀ entry ∈ history, ¬trigger entry) : Followed trigger answer history := by
  intro before entry after split triggered
  exact absurd triggered (quiet entry (by rw [split]; simp))

/-- A triggering entry cannot lie in a quiet extension, so it splits the older part. -/
theorem split_before_quiet {later before after : List α} {entry : α}
    (quiet : ∀ other ∈ later, ¬trigger other) (split : history ++ later = before ++ entry :: after)
    (triggered : trigger entry) : ∃ tail, history = before ++ entry :: tail ∧ after = tail ++ later := by
  rcases List.append_eq_append_iff.mp split with ⟨middle, prior, rest⟩ | ⟨middle, prior, rest⟩
  · exact absurd triggered (quiet entry (by rw [rest]; simp))
  · cases middle with
    | nil =>
      simp only [List.nil_append] at rest
      exact absurd triggered (quiet entry (by rw [← rest]; simp))
    | cons head tail =>
      obtain ⟨rfl, tailEq⟩ := List.cons.inj rest
      exact ⟨tail, prior, tailEq⟩

/-- A single triggering entry splits its list in one way only. -/
theorem split_unique {before after before' after' : List α} {entry entry' : α}
    (early : ∀ other ∈ before, ¬trigger other) (late : ∀ other ∈ after, ¬trigger other)
    (same : before ++ entry :: after = before' ++ entry' :: after') (triggered : trigger entry') :
    before' = before ∧ entry' = entry := by
  rw [← List.singleton_append, ← List.append_assoc] at same
  obtain ⟨tail, prior, rfl⟩ := split_before_quiet late same triggered
  rcases List.append_eq_append_iff.mp prior with ⟨middle, rfl, rest⟩ | ⟨middle, rfl, rest⟩
  · cases middle with
    | nil => simp_all
    | cons head tail => simp at rest
  · cases middle with
    | nil => simp_all
    | cons head tail =>
      obtain ⟨rfl, -⟩ := List.cons.inj rest
      exact absurd triggered (early _ (by simp))

/-- Nothing before a complete answer is left unanswered by it. -/
theorem followed_append_answer (silent : ∀ entry ∈ answer, ¬trigger entry) :
    Followed trigger answer (history ++ answer) := by
  intro before entry after split triggered
  obtain ⟨tail, prior, rfl⟩ := split_before_quiet silent split triggered
  exact (List.suffix_append tail answer).isInfix

end Followed

/-- Between an opening entry and a later guarded one there is a closing one. -/
def Separated {α : Type} (opens closes guarded : α → Prop) (history : List α) : Prop :=
  ∀ before first middle second after, history = before ++ first :: (middle ++ second :: after) →
    opens first → guarded second → ∃ entry ∈ middle, closes entry

/-- An opening entry was not closed yet. -/
def Pending {α : Type} (opens closes : α → Prop) (history : List α) : Prop :=
  ∃ before first after, history = before ++ first :: after ∧ opens first ∧ ∀ entry ∈ after, ¬closes entry

section Separated
variable {α : Type} {opens closes guarded : α → Prop} {history : List α} {entry : α}

theorem separated_nil : Separated opens closes guarded [] := by
  intro before first middle second after split
  simp at split

theorem not_pending_nil : ¬Pending opens closes [] := by
  intro pending
  obtain ⟨before, first, after, split, _⟩ := pending
  simp at split

theorem pending_snoc (pending : Pending opens closes (history ++ [entry])) :
    opens entry ∨ Pending opens closes history ∧ ¬closes entry := by
  obtain ⟨before, first, after, split, opened, still⟩ := pending
  rcases List.eq_nil_or_concat after with rfl | ⟨middle, last, rfl⟩
  · obtain ⟨_, same⟩ := List.append_inj' split rfl
    obtain rfl := (List.cons.inj same).1
    exact .inl opened
  · rw [List.concat_eq_append] at split still
    rw [← List.cons_append, ← List.append_assoc] at split
    obtain ⟨prior, same⟩ := List.append_inj' split rfl
    obtain rfl := (List.cons.inj same).1
    refine .inr ⟨⟨before, first, middle, prior, opened, fun other member => ?_⟩, ?_⟩
    · exact still other (List.mem_append_left _ member)
    · exact still entry (List.mem_append_right _ List.mem_cons_self)

/-- A guarded entry may follow where nothing is pending. -/
theorem separated_snoc (separated : Separated opens closes guarded history)
    (settled : guarded entry → ¬Pending opens closes history) : Separated opens closes guarded (history ++ [entry]) := by
  intro before first middle second after split opened guards
  rcases List.eq_nil_or_concat after with rfl | ⟨rest, last, rfl⟩
  · rw [← List.cons_append, ← List.append_assoc] at split
    obtain ⟨prior, same⟩ := List.append_inj' split rfl
    obtain rfl := (List.cons.inj same).1
    by_contra none
    push Not at none
    exact settled guards ⟨before, first, middle, prior, opened, none⟩
  · rw [List.concat_eq_append] at split
    rw [← List.cons_append, ← List.append_assoc, ← List.cons_append, ← List.append_assoc] at split
    obtain ⟨prior, _⟩ := List.append_inj' split rfl
    rw [List.append_assoc, List.cons_append] at prior
    exact separated before first middle second rest prior opened guards

theorem separated_of_quiet (quiet : ∀ other ∈ history, ¬opens other) : Separated opens closes guarded history := by
  intro before first middle second after split opened
  exact absurd opened (quiet first (by rw [split]; simp))

/-- A single opening entry is closed before everything that is guarded. -/
theorem separated_single {before closing later : List α} (early : ∀ other ∈ before, ¬opens other)
    (late : ∀ other ∈ closing ++ later, ¬opens other) (unguarded : ∀ other ∈ closing, ¬guarded other)
    (closed : later ≠ [] → ∃ other ∈ closing, closes other) :
    Separated opens closes guarded (before ++ entry :: (closing ++ later)) := by
  intro before' first middle second after split opened guards
  obtain ⟨rfl, rfl⟩ := split_unique early late split opened
  have rest := (List.cons.inj (List.append_cancel_left split)).2
  obtain ⟨gap, rfl, tail⟩ | ⟨gap, prior, tail⟩ := List.append_eq_append_iff.mp rest
  · obtain ⟨other, member, closes⟩ := closed (by rw [tail]; simp)
    exact ⟨other, List.mem_append_left _ member, closes⟩
  · cases gap with
    | nil =>
      rw [List.append_nil] at prior
      obtain ⟨other, member, closes⟩ := closed (by rw [← List.nil_append later, ← tail]; simp)
      exact ⟨other, prior ▸ member, closes⟩
    | cons head gap =>
      obtain ⟨rfl, _⟩ := List.cons.inj tail
      exact absurd guards (unguarded _ (by rw [prior]; simp))

end Separated

end PlayTogether.Library
