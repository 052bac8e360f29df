import PlayTogether.Library.Interleaving

/-! What a program does to the state it runs on: an invariant that holds before every step,
a promise about the end, and no step at which it is stuck. -/

namespace PlayTogether.Library

namespace Code
variable {σ Op : Type} {Answer : Op → Type} {α β : Type}

/-- However the steps are answered, there is an answer to each, the invariant holds at every
point and the program ends as promised. -/
def Ensures (performs : (op : Op) → σ → Answer op → σ → Prop) (inv : σ → Prop) (code : Code Op Answer α)
    (post : α → σ → Prop) (state : σ) : Prop :=
  inv state ∧ match code with
    | .done value => post value state
    | .call op next => (∃ answer after, performs op state answer after) ∧
      ∀ answer after, performs op state answer after → (next answer).Ensures performs inv post after

section Ensures
variable {performs : (op : Op) → σ → Answer op → σ → Prop} {inv : σ → Prop} {post : α → σ → Prop} {state : σ}

theorem Ensures.here {code : Code Op Answer α} (ensured : code.Ensures performs inv post state) : inv state := by
  cases code with
  | done value => exact ensured.1
  | call op next => exact ensured.1

theorem Ensures.after {op : Op} {next : Answer op → Code Op Answer α} {answer : Answer op} {later : σ}
    (ensured : (call op next).Ensures performs inv post state) (performed : performs op state answer later) :
    (next answer).Ensures performs inv post later := ensured.2.2 answer later performed

theorem ensures_pure {value : α} (here : inv state) (holds : post value state) :
    (pure value : Code Op Answer α).Ensures performs inv post state := ⟨here, holds⟩

theorem ensures_step {op : Op} {post : Answer op → σ → Prop} (here : inv state)
    (answered : ∃ answer after, performs op state answer after)
    (ends : ∀ answer after, performs op state answer after → inv after ∧ post answer after) :
    (step op).Ensures performs inv post state := ⟨here, answered, ends⟩

theorem Ensures.weaken {code : Code Op Answer α} {wider : α → σ → Prop}
    (ensured : code.Ensures performs inv post state)
    (implies : ∀ value after, inv after → post value after → wider value after) :
    code.Ensures performs inv wider state := by
  induction code generalizing state with
  | done value => exact ⟨ensured.1, implies value state ensured.1 ensured.2⟩
  | call op next ih =>
    refine ⟨ensured.1, ensured.2.1, ?_⟩
    intro answer after performed
    exact ih answer (ensured.after performed)

theorem Ensures.forget {code : Code Op Answer α} (ensured : code.Ensures performs inv post state) :
    code.Ensures performs (fun _ => True) post state := by
  induction code generalizing state with
  | done value => exact ⟨trivial, ensured.2⟩
  | call op next ih =>
    refine ⟨trivial, ensured.2.1, ?_⟩
    intro answer after performed
    exact ih answer (ensured.after performed)

/-- Sequencing: the second part runs in the states that the first part may end in. -/
theorem Ensures.bind {first : Code Op Answer α} {rest : α → Code Op Answer β} {middle : α → σ → Prop}
    {post : β → σ → Prop} (opening : first.Ensures performs inv middle state)
    (closing : ∀ value after, inv after → middle value after → (rest value).Ensures performs inv post after) :
    (first >>= rest).Ensures performs inv post state := by
  induction first generalizing state with
  | done value => exact closing value state opening.1 opening.2
  | call op next ih =>
    refine ⟨opening.1, opening.2.1, ?_⟩
    intro answer after performed
    exact ih answer (opening.after performed)

end Ensures

end Code

/-! ## One process at a time -/

namespace Pool
variable {ρ σ Op : Type} {Answer : Op → Type}

/-- Programs that start one after the other and may end at any point: the invariant holds all
the time if what an end leaves behind is what the next program starts from. -/
theorem Run.ensured {machine : Machine Unit ρ σ Op Answer} {boots inv idle : σ → Prop}
    (boot : ∀ state, boots state → idle state)
    (programs : ∀ role state, idle state →
      (machine.program role).Ensures (machine.performs ()) inv (fun _ _ => True) state)
    (leaves : ∀ state after, inv state → machine.leaves () state after → idle after)
    {pool : Pool Unit ρ σ Op Answer} (run : Run machine boots pool) :
    match pool.running () with
    | none => idle pool.shared
    | some (_, code) => code.Ensures (machine.performs ()) inv (fun _ _ => True) pool.shared := by
  induction run with
  | booted here => exact boot _ here
  | @moved before after run move ih =>
    cases move with
    | started p role free admitted =>
      rw [free] at ih
      simpa only [Function.update_self] using programs role before.shared ih
    | @stepped p role op next answer later here performed =>
      rw [here] at ih
      simpa only [Function.update_self] using ih.after performed
    | @ended p role code later here left =>
      rw [here] at ih
      simpa only [Function.update_self] using leaves before.shared later ih.here left

end Pool

end PlayTogether.Library
