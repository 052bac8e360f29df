import Mathlib.Tactic.Common

/-! Named cells of a store that reorders its writes. A write is visible at once
but a crash may bring back any value the cell held since the store was last
synchronised, so a fact survives a crash only when it holds of all of them. -/

namespace PlayTogether.Library

/-- The visible value and the older values that are not yet known to be overwritten. -/
structure Cell (α : Type) where
  current : α
  stale : List α
  deriving DecidableEq, Repr

namespace Cell
variable {α : Type}

def settled (value : α) : Cell α := ⟨value, []⟩

def survivors (cell : Cell α) : List α := cell.current :: cell.stale

def write (value : α) (cell : Cell α) : Cell α := ⟨value, cell.survivors⟩

def sync (cell : Cell α) : Cell α := settled cell.current

/-- The values a crash can leave, each passed through what a crash does to a value. -/
def Crash (survives : α → α → Prop) (before after : Cell α) : Prop :=
  ∃ value ∈ before.survivors, ∃ found, survives value found ∧ after = settled found

def Everywhere (holds : α → Prop) (cell : Cell α) : Prop := ∀ value ∈ cell.survivors, holds value

/-- Whether a fact is to hold for the running system only or also across a crash. -/
inductive Reach where
  | visible
  | durable
  deriving DecidableEq, Repr

def Holds (reach : Reach) (holds : α → Prop) (cell : Cell α) : Prop :=
  match reach with
  | .visible => holds cell.current
  | .durable => cell.Everywhere holds

variable {reach : Reach} {holds : α → Prop} {cell : Cell α} {value : α}

@[simp] theorem current_write : (cell.write value).current = value := rfl

@[simp] theorem current_sync : cell.sync.current = cell.current := rfl

theorem everywhere_settled (here : holds value) : (settled value).Everywhere holds := by
  intro other member
  simp only [survivors, settled, List.mem_singleton] at member
  exact member ▸ here

theorem everywhere_crash {survives : α → α → Prop} {after : Cell α} (crash : Crash survives cell after)
    (kept : ∀ value found, holds value → survives value found → holds found)
    (all : cell.Everywhere holds) : after.Everywhere holds := by
  obtain ⟨value, member, found, survived, rfl⟩ := crash
  exact everywhere_settled (kept value found (all value member) survived)

theorem holds_current (all : cell.Holds reach holds) : holds cell.current := by
  cases reach with
  | visible => exact all
  | durable => exact all _ (List.mem_cons_self ..)

theorem holds_settled (here : holds value) : (settled value).Holds reach holds := by
  cases reach with
  | visible => exact here
  | durable => exact everywhere_settled here

theorem holds_write (here : holds value) (all : cell.Holds reach holds) : (cell.write value).Holds reach holds := by
  cases reach with
  | visible => exact here
  | durable =>
    intro other member
    rcases List.mem_cons.mp member with rfl | old
    · exact here
    · exact all other old

theorem everywhere_write : (cell.write value).Everywhere holds ↔ holds value ∧ cell.Everywhere holds :=
  List.forall_mem_cons

theorem holds_sync (all : cell.Holds reach holds) : cell.sync.Holds reach holds :=
  holds_settled (holds_current all)

end Cell

end PlayTogether.Library
