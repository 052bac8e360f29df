import Mathlib.Tactic.Common

/-! Processes that change a state, issue observable events and can be killed
between any two of them. A run is a total function of the state it starts in, so
every answer of the outside world is part of that state, and a statement about
every state is a statement about every sequence of answers. -/

namespace PlayTogether.Library

/-- What one run leaves behind. No value means that the process was killed. -/
structure Exec (ε σ α : Type) where
  trace : List ε
  state : σ
  out : Option α
  deriving DecidableEq, Repr

def Exec.after {ε σ α : Type} (first : List ε) (run : Exec ε σ α) : Exec ε σ α :=
  { run with trace := first ++ run.trace }

def Exec.map {ε σ α β : Type} (f : α → β) (run : Exec ε σ α) : Exec ε σ β :=
  ⟨run.trace, run.state, run.out.map f⟩

section Exec
variable {ε σ α : Type}

@[simp] theorem after_mk (first trace : List ε) (state : σ) (out : Option α) :
    (Exec.mk trace state out).after first = ⟨first ++ trace, state, out⟩ := rfl

@[simp] theorem after_nil (run : Exec ε σ α) : run.after [] = run := rfl

@[simp] theorem after_after (first second : List ε) (run : Exec ε σ α) :
    (run.after second).after first = run.after (first ++ second) := by
  simp only [Exec.after, List.append_assoc]

@[simp] theorem after_trace (first : List ε) (run : Exec ε σ α) :
    (run.after first).trace = first ++ run.trace := rfl

@[simp] theorem after_state (first : List ε) (run : Exec ε σ α) :
    (run.after first).state = run.state := rfl

@[simp] theorem after_out (first : List ε) (run : Exec ε σ α) :
    (run.after first).out = run.out := rfl

end Exec

def Proc (ε σ α : Type) : Type := σ → Exec ε σ α

/-- A killed process runs nothing further. -/
def Proc.andThen {ε σ α β : Type} (p : Proc ε σ α) (f : α → Proc ε σ β) : Proc ε σ β :=
  fun s => match p s with
    | ⟨trace, s', none⟩ => ⟨trace, s', none⟩
    | ⟨trace, s', some a⟩ => (f a s').after trace

instance {ε σ : Type} : Monad (Proc ε σ) where
  pure a := fun s => ⟨[], s, some a⟩
  bind := Proc.andThen

theorem except_bind_ok {κ α β : Type} {first : Except κ α} {next : α → Except κ β} {value : β} :
    (first >>= next) = .ok value ↔ ∃ a, first = .ok a ∧ next a = .ok value := by
  cases first with
  | error error => simp [bind, Except.bind]
  | ok a => simp [bind, Except.bind]

/-- A part of a larger state, read and written back. -/
structure Lens (σ τ : Type) where
  get : τ → σ
  set : σ → τ → τ

/-- The answer to one call across a boundary. A process can be killed while it waits
for the answer, when the call has gone out, or just before it issues the call. -/
inductive Reply (α : Type) where
  | answered (value : α)
  | unanswered
  | unissued
  deriving DecidableEq, Repr

namespace Reply
variable {σ α β : Type}

def map (f : α → β) : Reply α → Reply β
  | .answered value => .answered (f value)
  | .unanswered => .unanswered
  | .unissued => .unissued

theorem map_answered {f : α → β} {reply : Reply α} {value : β} :
    reply.map f = .answered value ↔ ∃ a, reply = .answered a ∧ f a = value := by
  cases reply <;> simp [map]

/-- A second call behind one that was answered: whatever happens to it, the whole was
issued. -/
def andThen (first : Reply α × σ) (next : α → σ → Reply β × σ) : Reply β × σ :=
  match first with
  | (.answered value, s) => match next value s with
    | (.unissued, s') => (.unanswered, s')
    | (reply, s') => (reply, s')
  | (.unanswered, s) => (.unanswered, s)
  | (.unissued, s) => (.unissued, s)

theorem andThen_answered {first : Reply α × σ} {next : α → σ → Reply β × σ} {value : β} {s : σ} :
    andThen first next = (.answered value, s) ↔
      ∃ a s', first = (.answered a, s') ∧ next a s' = (.answered value, s) := by
  obtain ⟨_ | _ | _, s'⟩ := first
  case answered a =>
    rcases run : next a s' with ⟨_ | _ | _, s''⟩ <;> simp [andThen, run]
  case unanswered => simp [andThen]
  case unissued => simp [andThen]

/-- Behind an answer comes what follows it, except that the whole counts as issued. -/
theorem andThen_next (a : α) (s : σ) (next : α → σ → Reply β × σ) :
    andThen (.answered a, s) next = next a s ∨
      (next a s).1 = .unissued ∧ andThen (.answered a, s) next = (.unanswered, (next a s).2) := by
  unfold andThen
  rcases run : next a s with ⟨_ | _ | _, s'⟩
  case answered value => exact .inl (by simp [run])
  case unanswered => exact .inl (by simp [run])
  case unissued => exact .inr ⟨rfl, by simp [run]⟩

/-- What holds of the state behind the first call and behind whatever follows holds at the end. -/
theorem andThen_state {holds : σ → Prop} {first : Reply α × σ} {next : α → σ → Reply β × σ} (start : holds first.2)
    (rest : ∀ a s, first = (.answered a, s) → holds (next a s).2) : holds (andThen first next).2 := by
  obtain ⟨_ | _ | _, s⟩ := first
  case answered a =>
    have last := rest a s rfl
    unfold andThen
    dsimp only
    split
    next left => rwa [left] at last
    next left => rwa [left] at last
  case unanswered => exact start
  case unissued => exact start

def isAnswered : Reply α → Prop
  | .answered _ => True
  | .unanswered | .unissued => False

/-- Take the next reply of a script. A process whose script has run out is killed. -/
def next (script : List α) : Reply α × List α :=
  match script with
  | [] => (.unissued, [])
  | value :: rest => (.answered value, rest)

end Reply

namespace Proc
variable {ε σ α : Type}

def get : Proc ε σ σ := fun s => ⟨[], s, some s⟩

def modify (change : σ → σ) : Proc ε σ Unit := fun s => ⟨[], change s, some ()⟩

def emit (event : ε) : Proc ε σ Unit := fun s => ⟨[event], s, some ()⟩

/-- Run a process on a part of the state, renaming its events. -/
def zoom {ε' τ : Type} (part : Lens σ τ) (event : ε → ε') (p : Proc ε σ α) : Proc ε' τ α :=
  fun s => ⟨(p (part.get s)).trace.map event, part.set (p (part.get s)).state s, (p (part.get s)).out⟩

/-- Call a method of a part of the state. The event carries the answer, or none when
the process was killed before it came. -/
def call {τ : Type} (part : Lens σ τ) (method : σ → Reply α × σ) (event : Option α → ε) : Proc ε τ α :=
  fun s => match method (part.get s) with
    | (.answered a, x) => ⟨[event (some a)], part.set x s, some a⟩
    | (.unanswered, x) => ⟨[event none], part.set x s, none⟩
    | (.unissued, x) => ⟨[], part.set x s, none⟩

/-- Go on only with a value; an error ends the computation as it does behind a `?`. -/
def thenOk {κ β : Type} (p : Proc ε σ (Except κ α)) (f : α → Proc ε σ (Except κ β)) : Proc ε σ (Except κ β) :=
  Proc.andThen p fun
    | .error error => fun s => ⟨[], s, some (.error error)⟩
    | .ok a => f a

end Proc

section Runs
variable {ε σ α β : Type}

@[simp] theorem pure_run (a : α) (s : σ) : (pure a : Proc ε σ α) s = ⟨[], s, some a⟩ := rfl

@[simp] theorem get_run (s : σ) : (Proc.get : Proc ε σ σ) s = ⟨[], s, some s⟩ := rfl

@[simp] theorem modify_run (change : σ → σ) (s : σ) :
    (Proc.modify change : Proc ε σ Unit) s = ⟨[], change s, some ()⟩ := rfl

@[simp] theorem emit_run (event : ε) (s : σ) :
    (Proc.emit event : Proc ε σ Unit) s = ⟨[event], s, some ()⟩ := rfl

theorem bind_value {p : Proc ε σ α} {f : α → Proc ε σ β} {s s' : σ} {trace : List ε} {a : α}
    (run : p s = ⟨trace, s', some a⟩) : (p >>= f) s = (f a s').after trace := by
  change p.andThen f s = _
  simp only [Proc.andThen, run]

theorem bind_killed {p : Proc ε σ α} {f : α → Proc ε σ β} {s s' : σ} {trace : List ε}
    (run : p s = ⟨trace, s', none⟩) : (p >>= f) s = ⟨trace, s', none⟩ := by
  change p.andThen f s = _
  simp only [Proc.andThen, run]

@[simp] theorem pure_bind_run (a : α) (f : α → Proc ε σ β) (s : σ) :
    ((pure a : Proc ε σ α) >>= f) s = f a s := rfl

@[simp] theorem get_bind_run (f : σ → Proc ε σ β) (s : σ) :
    (Proc.get >>= f) s = f s s := rfl

@[simp] theorem modify_bind_run (change : σ → σ) (f : Unit → Proc ε σ β) (s : σ) :
    (Proc.modify change >>= f) s = f () (change s) := rfl

@[simp] theorem emit_bind_run (event : ε) (f : Unit → Proc ε σ β) (s : σ) :
    (Proc.emit event >>= f) s = (f () s).after [event] := rfl

variable {ε' τ : Type}

theorem zoom_bind_value {part : Lens σ τ} {event : ε → ε'} {p : Proc ε σ α} {f : α → Proc ε' τ β}
    {s : τ} {x : σ} {trace : List ε} {a : α} (run : p (part.get s) = ⟨trace, x, some a⟩) :
    (p.zoom part event >>= f) s = (f a (part.set x s)).after (trace.map event) := by
  apply bind_value
  simp only [Proc.zoom, run]

theorem zoom_bind_killed {part : Lens σ τ} {event : ε → ε'} {p : Proc ε σ α} {f : α → Proc ε' τ β}
    {s : τ} {x : σ} {trace : List ε} (run : p (part.get s) = ⟨trace, x, none⟩) :
    (p.zoom part event >>= f) s = ⟨trace.map event, part.set x s, none⟩ := by
  apply bind_killed
  simp only [Proc.zoom, run]

section Call
variable {part : Lens σ τ} {method : σ → Reply α × σ} {event : Option α → ε} {f : α → Proc ε τ β}
  {s : τ} {x : σ}

theorem call_answered {a : α} (answer : method (part.get s) = (.answered a, x)) :
    (Proc.call part method event >>= f) s = (f a (part.set x s)).after [event (some a)] := by
  apply bind_value
  simp only [Proc.call, answer]

theorem call_unanswered (answer : method (part.get s) = (.unanswered, x)) :
    (Proc.call part method event >>= f) s = ⟨[event none], part.set x s, none⟩ := by
  apply bind_killed
  simp only [Proc.call, answer]

theorem call_unissued (answer : method (part.get s) = (.unissued, x)) :
    (Proc.call part method event >>= f) s = ⟨[], part.set x s, none⟩ := by
  apply bind_killed
  simp only [Proc.call, answer]

end Call
end Runs

/-- Killed, or ended with an error. -/
def Failed {κ α : Type} (out : Option (Except κ α)) : Prop := ∀ a, out ≠ some (.ok a)

theorem failed_none {κ α : Type} : Failed (none : Option (Except κ α)) := fun _ => by simp

theorem failed_error {κ α : Type} (error : κ) : Failed (some (.error error) : Option (Except κ α)) := fun _ => by simp

/-- What the process has issued, where it stands and what it answers when it ends. -/
def Ends {ε σ α : Type} (post : List ε → σ → Option α → Prop) (p : Proc ε σ α) (s : σ) : Prop :=
  post (p s).trace (p s).state (p s).out

section Ends
variable {ε σ α β : Type} {post : List ε → σ → Option β → Prop} {s : σ}

theorem ends_pure {b : β} (holds : post [] s (some b)) : Ends post (pure b : Proc ε σ β) s := holds

theorem ends_get {f : σ → Proc ε σ β} (rest : Ends post (f s) s) : Ends post (Proc.get >>= f) s := rest

theorem ends_modify {change : σ → σ} {f : Unit → Proc ε σ β} (rest : Ends post (f ()) (change s)) :
    Ends post (Proc.modify change >>= f) s := rest

theorem ends_bind {p : Proc ε σ α} {f : α → Proc ε σ β} {middle : List ε → σ → Option α → Prop}
    (first : Ends middle p s) (killed : ∀ trace s', middle trace s' none → post trace s' none)
    (rest : ∀ trace s' a, middle trace s' (some a) → Ends (fun later => post (trace ++ later)) (f a) s') :
    Ends post (p >>= f) s := by
  unfold Ends at first ⊢
  rcases run : p s with ⟨trace, s', _ | a⟩
  · rw [run] at first
    rw [bind_killed run]
    exact killed trace s' first
  · rw [run] at first
    rw [bind_value run]
    exact rest trace s' a first

theorem ends_thenOk {κ γ : Type} {post : List ε → σ → Option (Except κ γ) → Prop} {p : Proc ε σ (Except κ α)}
    {f : α → Proc ε σ (Except κ γ)} {middle : List ε → σ → Option (Except κ α) → Prop} (first : Ends middle p s)
    (killed : ∀ trace s', middle trace s' none → post trace s' none)
    (failed : ∀ trace s' error, middle trace s' (some (.error error)) → post trace s' (some (.error error)))
    (rest : ∀ trace s' a, middle trace s' (some (.ok a)) → Ends (fun later => post (trace ++ later)) (f a) s') :
    Ends post (p.thenOk f) s := by
  apply ends_bind first killed
  intro trace s' result reached
  cases result with
  | error error => simpa [Ends] using failed trace s' error reached
  | ok a => exact rest trace s' a reached

theorem ends_zoom {ε' τ : Type} {post : List ε' → τ → Option β → Prop} {part : Lens σ τ} {event : ε → ε'}
    {p : Proc ε σ β} {t : τ}
    (inner : Ends (fun trace x out => post (trace.map event) (part.set x t) out) p (part.get t)) :
    Ends post (p.zoom part event) t := inner

theorem ends_run {p : Proc ε σ β} {trace : List ε} {s' : σ} {out : Option β} (holds : Ends post p s)
    (run : p s = ⟨trace, s', out⟩) : post trace s' out := by
  rw [Ends, run] at holds
  exact holds

theorem ends_weaken {p : Proc ε σ β} {stronger : List ε → σ → Option β → Prop} (holds : Ends stronger p s)
    (weaker : ∀ trace s' out, stronger trace s' out → post trace s' out) : Ends post p s :=
  weaker _ _ _ holds

end Ends

/-- What every run that returns has issued, where it stands and what it returns. -/
def Yields {ε σ α : Type} (post : List ε → σ → α → Prop) (p : Proc ε σ α) (s : σ) : Prop :=
  Ends (fun trace s' out => ∀ a, out = some a → post trace s' a) p s

section Yields
variable {ε σ α β : Type} {post : List ε → σ → β → Prop} {s : σ}

theorem yields_pure {b : β} (holds : post [] s b) : Yields post (pure b : Proc ε σ β) s := by
  intro value returned
  obtain rfl := Option.some.inj returned
  exact holds

theorem yields_get {f : σ → Proc ε σ β} (rest : Yields post (f s) s) : Yields post (Proc.get >>= f) s := rest

theorem yields_modify {change : σ → σ} {f : Unit → Proc ε σ β} (rest : Yields post (f ()) (change s)) :
    Yields post (Proc.modify change >>= f) s := rest

theorem yields_bind {p : Proc ε σ α} {f : α → Proc ε σ β} {middle : List ε → σ → α → Prop}
    (first : Yields middle p s)
    (rest : ∀ trace s' a, middle trace s' a → Yields (fun later => post (trace ++ later)) (f a) s') :
    Yields post (p >>= f) s := by
  apply ends_bind first
  · nofun
  · exact fun trace s' a reached => rest trace s' a (reached a rfl)

theorem yields_call {τ : Type} {part : Lens σ τ} {method : σ → Reply α × σ} {event : Option α → ε}
    {f : α → Proc ε τ β} {post : List ε → τ → β → Prop} {s : τ}
    (rest : ∀ a x, method (part.get s) = (.answered a, x) →
      Yields (fun later => post (event (some a) :: later)) (f a) (part.set x s)) :
    Yields post (Proc.call part method event >>= f) s := by
  unfold Yields Ends
  rcases answer : method (part.get s) with ⟨_ | _ | _, x⟩
  · rw [call_answered answer]
    exact rest _ x answer
  · rw [call_unanswered answer]
    nofun
  · rw [call_unissued answer]
    nofun

theorem yields_weaken {p : Proc ε σ β} {stronger : List ε → σ → β → Prop} (holds : Yields stronger p s)
    (weaker : ∀ trace s' b, stronger trace s' b → post trace s' b) : Yields post p s :=
  fun b returned => weaker _ _ b (holds b returned)

end Yields

/-- The process is never killed. -/
def Returns {ε σ α : Type} (p : Proc ε σ α) : Prop := ∀ s, (p s).out ≠ none

section Returns
variable {ε σ α β : Type}

theorem returns_pure (a : α) : Returns (pure a : Proc ε σ α) := nofun

theorem returns_get : Returns (Proc.get : Proc ε σ σ) := nofun

theorem returns_modify (change : σ → σ) : Returns (Proc.modify change : Proc ε σ Unit) := nofun

theorem returns_emit (event : ε) : Returns (Proc.emit event : Proc ε σ Unit) := nofun

theorem returns_bind {p : Proc ε σ α} {f : α → Proc ε σ β} (first : Returns p) (rest : ∀ a, Returns (f a)) :
    Returns (p >>= f) := by
  intro s
  rcases run : p s with ⟨trace, s', _ | a⟩
  · exact absurd (by rw [run]) (first s)
  · rw [bind_value run]
    exact rest a s'

theorem returns_call {τ : Type} {part : Lens σ τ} {method : σ → Reply α × σ} {event : Option α → ε}
    (answers : ∀ x, (method x).1.isAnswered) : Returns (Proc.call part method event) := by
  intro s
  have answered := answers (part.get s)
  rcases answer : method (part.get s) with ⟨_ | _ | _, x⟩
  · simp [Proc.call, answer]
  · rw [answer] at answered
    exact answered.elim
  · rw [answer] at answered
    exact answered.elim

end Returns

/-- A run that returns leads from states of one kind to states and values of another. -/
def Leads {ε σ α : Type} (before : σ → Prop) (after : α → σ → Prop) (p : Proc ε σ α) : Prop :=
  ∀ s, before s → ∀ a, (p s).out = some a → after a (p s).state

section Leads
variable {ε σ α β : Type} {before : σ → Prop} {after : α → σ → Prop}

theorem leads_pure {a : α} (holds : ∀ s, before s → after a s) : Leads before after (pure a : Proc ε σ α) := by
  intro s start value returned
  obtain rfl := Option.some.inj returned
  exact holds s start

theorem leads_get {after : σ → σ → Prop} (holds : ∀ s, before s → after s s) :
    Leads before after (Proc.get : Proc ε σ σ) := by
  intro s start value returned
  obtain rfl := Option.some.inj returned
  exact holds s start

theorem leads_modify {change : σ → σ} {after : Unit → σ → Prop} (holds : ∀ s, before s → after () (change s)) :
    Leads before after (Proc.modify change : Proc ε σ Unit) :=
  fun s start _ _ => holds s start

theorem leads_emit {event : ε} {after : Unit → σ → Prop} (holds : ∀ s, before s → after () s) :
    Leads before after (Proc.emit event : Proc ε σ Unit) :=
  fun s start _ _ => holds s start

theorem leads_bind {p : Proc ε σ β} {f : β → Proc ε σ α} {middle : β → σ → Prop} (first : Leads before middle p)
    (rest : ∀ b, Leads (middle b) after (f b)) : Leads before after (p >>= f) := by
  intro s start value returned
  have reached := first s start
  rcases run : p s with ⟨trace, s', _ | b⟩
  · rw [bind_killed run] at returned
    cases returned
  · rw [run] at reached
    rw [bind_value run] at returned ⊢
    exact rest b s' (reached b rfl) value returned

/-- Renaming the value of a run does not change where it leads. -/
theorem Leads.map_out {γ : Type} {p : Proc ε σ α} {after : σ → Prop} (leads : Leads before (fun _ => after) p) {s : σ}
    (start : before s) {f : α → γ} {value : γ} (returned : ((p s).map f).out = some value) : after (p s).state := by
  obtain ⟨a, inner, _⟩ := Option.map_eq_some_iff.mp returned
  exact leads s start a inner

theorem leads_weaken {stronger : σ → Prop} {p : Proc ε σ α} (holds : Leads before after p)
    (weaker : ∀ s, stronger s → before s) : Leads stronger after p :=
  fun s start => holds s (weaker s start)

theorem leads_ite {condition : Prop} [Decidable condition] {p q : Proc ε σ α} (yes : Leads before after p)
    (no : Leads before after q) : Leads before after (if condition then p else q) := by
  split
  · exact yes
  · exact no

theorem leads_call {τ : Type} {part : Lens σ τ} {method : σ → Reply α × σ} {event : Option α → ε} {before : τ → Prop}
    {after : α → τ → Prop}
    (answers : ∀ s a x, before s → method (part.get s) = (.answered a, x) → after a (part.set x s)) :
    Leads before after (Proc.call part method event) := by
  intro s start value returned
  unfold Proc.call at returned ⊢
  rcases answer : method (part.get s) with ⟨_ | _ | _, x⟩
  · rw [answer] at returned
    obtain rfl := Option.some.inj returned
    exact answers s _ x start answer
  · rw [answer] at returned
    cases returned
  · rw [answer] at returned
    cases returned

end Leads

/-- Started where the invariant holds, the process ends where it holds, however it
ends, and every event it issued satisfies the event condition. -/
def Keeps {ε σ α : Type} (invariant : σ → Prop) (allowed : ε → Prop) (p : Proc ε σ α) : Prop :=
  ∀ s, invariant s → invariant (p s).state ∧ ∀ event ∈ (p s).trace, allowed event

section Keeps
variable {ε σ α β : Type} {invariant : σ → Prop} {allowed : ε → Prop}

theorem keeps_pure (a : α) : Keeps invariant allowed (pure a : Proc ε σ α) := by
  intro s holds
  exact ⟨holds, by simp⟩

theorem keeps_get : Keeps invariant allowed (Proc.get : Proc ε σ σ) := by
  intro s holds
  exact ⟨holds, by simp⟩

theorem keeps_modify {change : σ → σ} (kept : ∀ s, invariant s → invariant (change s)) :
    Keeps invariant allowed (Proc.modify change : Proc ε σ Unit) := by
  intro s holds
  exact ⟨kept s holds, by simp⟩

theorem keeps_emit {event : ε} (fine : allowed event) :
    Keeps invariant allowed (Proc.emit event : Proc ε σ Unit) := by
  intro s holds
  exact ⟨holds, by simpa using fine⟩

theorem keeps_bind {p : Proc ε σ α} {f : α → Proc ε σ β} (first : Keeps invariant allowed p)
    (rest : ∀ a, Keeps invariant allowed (f a)) : Keeps invariant allowed (p >>= f) := by
  intro s holds
  have start := first s holds
  rcases run : p s with ⟨trace, s', _ | a⟩
  · rw [run] at start
    rw [bind_killed run]
    exact start
  · rw [run] at start
    rw [bind_value run]
    have finish := rest a s' start.1
    constructor
    · exact finish.1
    · intro event issued
      rcases List.mem_append.mp issued with early | late
      · exact start.2 event early
      · exact finish.2 event late

theorem keeps_ite {condition : Prop} [Decidable condition] {p q : Proc ε σ α}
    (yes : condition → Keeps invariant allowed p) (no : ¬condition → Keeps invariant allowed q) :
    Keeps invariant allowed (if condition then p else q) := by
  by_cases h : condition
  · rw [if_pos h]
    exact yes h
  · rw [if_neg h]
    exact no h

/-- The answer of one method call decides both the next state and the event. -/
theorem keeps_call {τ : Type} {part : Lens σ τ} {method : σ → Reply α × σ} {event : Option α → ε}
    {outer : τ → Prop}
    (state : ∀ s, outer s → outer (part.set (method (part.get s)).2 s))
    (silent : ∀ s, outer s → allowed (event none))
    (spoken : ∀ s a, outer s → (method (part.get s)).1 = .answered a → allowed (event (some a))) :
    Keeps outer allowed (Proc.call part method event) := by
  intro s holds
  have next := state s holds
  rcases answer : method (part.get s) with ⟨_ | _ | _, x⟩
  case answered a =>
    rw [answer] at next
    simp only [Proc.call, answer, List.mem_singleton, forall_eq]
    exact ⟨next, spoken s a holds (by rw [answer])⟩
  case unanswered =>
    rw [answer] at next
    simp only [Proc.call, answer, List.mem_singleton, forall_eq]
    exact ⟨next, silent s holds⟩
  case unissued =>
    rw [answer] at next
    simp only [Proc.call, answer, List.not_mem_nil, false_implies, implies_true, and_true]
    exact next

end Keeps

end PlayTogether.Library
