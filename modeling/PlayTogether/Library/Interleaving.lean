import Mathlib.Logic.Function.Basic

/-! Programs as trees of atomic steps, and any number of processes that run them over one
shared state. A discipline says which steps a process may take by what it has seen; every
program that obeys it keeps what the discipline accounts for, in every interleaving. -/

namespace PlayTogether.Library

/-- A program ends with a value, or takes one atomic step and goes on with its answer. -/
inductive Code (Op : Type) (Answer : Op → Type) (α : Type) where
  | done (value : α)
  | call (op : Op) (next : Answer op → Code Op Answer α)

namespace Code
variable {Op : Type} {Answer : Op → Type} {α β : Type}

def andThen : Code Op Answer α → (α → Code Op Answer β) → Code Op Answer β
  | .done value, rest => rest value
  | .call op next, rest => .call op fun answer => (next answer).andThen rest

instance : Monad (Code Op Answer) where
  pure := .done
  bind := andThen

def step (op : Op) : Code Op Answer (Answer op) := .call op .done

/-- Before every step, and at the end, the program may be cut short. -/
def interruptible (ask : Op) (stops : Answer ask → Bool) : Code Op Answer α → Code Op Answer (Option α)
  | .done value => .call ask fun answer => .done (if stops answer then none else some value)
  | .call op next => .call ask fun answer =>
      if stops answer then .done none else .call op fun reply => (next reply).interruptible ask stops

end Code

/-! ## Disciplines -/

/-- What a process in a role may do with a token, and how each answer changes the token. -/
structure Discipline (ρ τ Op : Type) (Answer : Op → Type) where
  permitted : ρ → τ → Op → Prop
  advance : ρ → τ → (op : Op) → Answer op → τ

namespace Discipline
variable {ρ τ Op : Type} {Answer : Op → Type} {α β : Type}

/-- Whatever is answered, the program takes permitted steps only and ends as promised. -/
def Obeys (rules : Discipline ρ τ Op Answer) (role : ρ) (token : τ) (code : Code Op Answer α)
    (post : α → τ → Prop) : Prop :=
  match code with
  | .done value => post value token
  | .call op next => rules.permitted role token op ∧
      ∀ answer, rules.Obeys role (rules.advance role token op answer) (next answer) post

variable {rules : Discipline ρ τ Op Answer} {role : ρ} {token : τ} {post : α → τ → Prop}

theorem obeys_pure {value : α} (holds : post value token) :
    rules.Obeys role token (pure value : Code Op Answer α) post := holds

theorem obeys_weaken {code : Code Op Answer α} {wider : α → τ → Prop} (obeys : rules.Obeys role token code post)
    (implies : ∀ value token, post value token → wider value token) : rules.Obeys role token code wider := by
  induction code generalizing token with
  | done value => exact implies value token obeys
  | call op next ih => exact ⟨obeys.1, fun answer => ih answer (obeys.2 answer)⟩

/-- Sequencing: what the first part promises is what the second part starts from. -/
theorem obeys_bind {first : Code Op Answer α} {rest : α → Code Op Answer β} {middle : α → τ → Prop}
    {after : β → τ → Prop} (opening : rules.Obeys role token first middle)
    (closing : ∀ value token, middle value token → rules.Obeys role token (rest value) after) :
    rules.Obeys role token (first >>= rest) after := by
  induction first generalizing token with
  | done value => exact closing value token opening
  | call op next ih => exact ⟨opening.1, fun answer => ih answer (opening.2 answer)⟩

theorem obeys_step {op : Op} {post : Answer op → τ → Prop} (permitted : rules.permitted role token op)
    (ends : ∀ answer, post answer (rules.advance role token op answer)) :
    rules.Obeys role token (Code.step op) post := ⟨permitted, ends⟩

/-- A program that is cut short promises nothing but its steps so far. -/
theorem obeys_interruptible {code : Code Op Answer α} {ask : Op} (stops : Answer ask → Bool)
    (asks : ∀ token, rules.permitted role token ask ∧ ∀ answer, rules.advance role token ask answer = token)
    (obeys : rules.Obeys role token code post) :
    rules.Obeys role token (code.interruptible ask stops) fun value token => ∀ whole ∈ value, post whole token := by
  induction code generalizing token with
  | done value =>
    refine ⟨(asks token).1, ?_⟩
    intro answer
    rw [(asks token).2 answer]
    intro whole finished
    by_cases stopped : stops answer = true
    · rw [if_pos stopped] at finished
      cases finished
    · rw [if_neg stopped] at finished
      obtain rfl := Option.some.inj finished
      exact obeys
  | call op next ih =>
    refine ⟨(asks token).1, ?_⟩
    intro answer
    rw [(asks token).2 answer]
    dsimp only
    by_cases stopped : stops answer = true
    · rw [if_pos stopped]
      intro whole finished
      cases finished
    · rw [if_neg stopped]
      exact ⟨obeys.1, fun reply => ih reply (obeys.2 reply)⟩

end Discipline

/-! ## Objects and exceptions -/

/-- A method changes its object and may raise; what it changed before stays changed. -/
abbrev Method (ε σ Op : Type) (Answer : Op → Type) (α : Type) : Type := ExceptT ε (StateT σ (Code Op Answer)) α

namespace Method
variable {ε σ ρ τ Op : Type} {Answer : Op → Type} {α β : Type}

def call (op : Op) : Method ε σ Op Answer (Answer op) :=
  ExceptT.lift (StateT.lift (Code.step op))

/-- From every object that is as it should be, the method keeps to the rules, ends as promised
and leaves the object so. -/
def Obeys (rules : Discipline ρ τ Op Answer) (kept : σ → Prop) (role : ρ) (token : τ)
    (method : Method ε σ Op Answer α) (post : Except ε α → τ → Prop) : Prop :=
  ∀ object, kept object →
    rules.Obeys role token (method object) fun outcome after => kept outcome.2 ∧ post outcome.1 after

variable {rules : Discipline ρ τ Op Answer} {kept : σ → Prop} {role : ρ} {token : τ} {post : Except ε α → τ → Prop}

theorem obeys_pure {value : α} (holds : post (.ok value) token) :
    Obeys rules kept role token (pure value : Method ε σ Op Answer α) post := fun _ good => ⟨good, holds⟩

theorem obeys_throw {fault : ε} (holds : post (.error fault) token) :
    Obeys rules kept role token (throw fault : Method ε σ Op Answer α) post := fun _ good => ⟨good, holds⟩

theorem obeys_get {post : Except ε σ → τ → Prop} (holds : ∀ object, kept object → post (.ok object) token) :
    Obeys rules kept role token (get : Method ε σ Op Answer σ) post := fun object good => ⟨good, holds object good⟩

theorem obeys_modify {post : Except ε Unit → τ → Prop} {change : σ → σ}
    (keeps : ∀ object, kept object → kept (change object)) (holds : post (.ok ()) token) :
    Obeys rules kept role token (modify change : Method ε σ Op Answer Unit) post :=
  fun object good => ⟨keeps object good, holds⟩

theorem obeys_call {op : Op} {post : Except ε (Answer op) → τ → Prop} (permitted : rules.permitted role token op)
    (ends : ∀ answer, post (.ok answer) (rules.advance role token op answer)) :
    Obeys rules kept role token (call op : Method ε σ Op Answer (Answer op)) post :=
  fun _ good => ⟨permitted, fun answer => ⟨good, ends answer⟩⟩

theorem obeys_weaken {method : Method ε σ Op Answer α} {wider : Except ε α → τ → Prop}
    (obeys : Obeys rules kept role token method post)
    (implies : ∀ outcome after, post outcome after → wider outcome after) :
    Obeys rules kept role token method wider :=
  fun object good => Discipline.obeys_weaken (obeys object good) fun outcome after reached =>
    ⟨reached.1, implies outcome.1 after reached.2⟩

/-- What was raised passes by the second part. -/
theorem obeys_bind {first : Method ε σ Op Answer α} {rest : α → Method ε σ Op Answer β}
    {middle : Except ε α → τ → Prop} {after : Except ε β → τ → Prop}
    (opening : Obeys rules kept role token first middle)
    (closing : ∀ value token, middle (.ok value) token → Obeys rules kept role token (rest value) after)
    (raised : ∀ fault token, middle (.error fault) token → after (.error fault) token) :
    Obeys rules kept role token (first >>= rest) after := by
  intro object good
  apply Discipline.obeys_bind (opening object good)
  intro outcome token reached
  obtain ⟨value, object⟩ := outcome
  cases value with
  | ok value => exact closing value token reached.2 object reached.1
  | error fault => exact ⟨reached.1, raised fault token reached.2⟩

theorem obeys_tryCatch {first : Method ε σ Op Answer α} {handler : ε → Method ε σ Op Answer α}
    {middle after : Except ε α → τ → Prop} (opening : Obeys rules kept role token first middle)
    (returned : ∀ value token, middle (.ok value) token → after (.ok value) token)
    (handled : ∀ fault token, middle (.error fault) token → Obeys rules kept role token (handler fault) after) :
    Obeys rules kept role token (tryCatch first handler) after := by
  intro object good
  apply Discipline.obeys_bind (opening object good)
  intro outcome token reached
  obtain ⟨value, object⟩ := outcome
  cases value with
  | ok value => exact ⟨reached.1, returned value token reached.2⟩
  | error fault => exact handled fault token reached.2 object reached.1

end Method

/-! ## Processes -/

/-- The programs by role, which role may start beside the running ones, what one atomic
step of a process does to the shared state, and what its end leaves behind. -/
structure Machine (π ρ σ Op : Type) (Answer : Op → Type) where
  program : ρ → Code Op Answer Unit
  admits : (π → Option ρ) → ρ → Prop
  performs : π → (op : Op) → σ → Answer op → σ → Prop
  leaves : π → σ → σ → Prop

structure Pool (π ρ σ Op : Type) (Answer : Op → Type) where
  shared : σ
  running : π → Option (ρ × Code Op Answer Unit)

namespace Pool
variable {π ρ σ τ Op : Type} {Answer : Op → Type}

def roles (pool : Pool π ρ σ Op Answer) (p : π) : Option ρ := (pool.running p).map Prod.fst

variable [DecidableEq π]

/-- Whoever is there after one process moved is that process, or was there. -/
theorem of_update {α : Type} {held : π → Option α} {kept : Option α} {p q : π} {own : α}
    (here : Function.update held p kept q = some own) : (q = p ∧ kept = some own) ∨ (q ≠ p ∧ held q = some own) := by
  by_cases same : q = p
  · subst same
    rw [Function.update_self] at here
    exact .inl ⟨rfl, here⟩
  · rw [Function.update_of_ne same] at here
    exact .inr ⟨same, here⟩

theorem of_update_none {α : Type} {held : π → Option α} {kept : Option α} {p q : π}
    (absent : Function.update held p kept q = none) : (q = p ∧ kept = none) ∨ (q ≠ p ∧ held q = none) := by
  by_cases same : q = p
  · subst same
    rw [Function.update_self] at absent
    exact .inl ⟨rfl, absent⟩
  · rw [Function.update_of_ne same] at absent
    exact .inr ⟨same, absent⟩

/-- One move of the whole system. A process may end at any point of its program. -/
inductive Move (machine : Machine π ρ σ Op Answer) (pool : Pool π ρ σ Op Answer) : Pool π ρ σ Op Answer → Prop where
  | started (p : π) (role : ρ) (idle : pool.running p = none) (admitted : machine.admits pool.roles role) :
      Move machine pool ⟨pool.shared, Function.update pool.running p (some (role, machine.program role))⟩
  | stepped {p : π} {role : ρ} {op : Op} {next : Answer op → Code Op Answer Unit} {answer : Answer op} {after : σ}
      (here : pool.running p = some (role, .call op next))
      (performed : machine.performs p op pool.shared answer after) :
      Move machine pool ⟨after, Function.update pool.running p (some (role, next answer))⟩
  | ended {p : π} {role : ρ} {code : Code Op Answer Unit} {after : σ} (here : pool.running p = some (role, code))
      (left : machine.leaves p pool.shared after) :
      Move machine pool ⟨after, Function.update pool.running p none⟩

inductive Run (machine : Machine π ρ σ Op Answer) (boots : σ → Prop) : Pool π ρ σ Op Answer → Prop where
  | booted {state : σ} (here : boots state) : Run machine boots ⟨state, fun _ => none⟩
  | moved {before after : Pool π ρ σ Op Answer} (run : Run machine boots before) (move : Move machine before after) :
      Run machine boots after

/-- A discipline under which every program is written, and an account of all tokens against
the shared state that every move of a disciplined process keeps. -/
structure Accounted (machine : Machine π ρ σ Op Answer) (rules : Discipline ρ τ Op Answer) (fresh : τ)
    (account : (π → Option (ρ × τ)) → σ → Prop) : Prop where
  programs : ∀ role, rules.Obeys role fresh (machine.program role) fun _ _ => True
  starts : ∀ {held state p role}, account held state → held p = none →
    machine.admits (fun q => (held q).map Prod.fst) role → account (Function.update held p (some (role, fresh))) state
  steps : ∀ {held state p role token op answer after}, account held state → held p = some (role, token) →
    rules.permitted role token op → machine.performs p op state answer after →
    account (Function.update held p (some (role, rules.advance role token op answer))) after
  ends : ∀ {held state p role token after}, account held state → held p = some (role, token) →
    machine.leaves p state after → account (Function.update held p none) after

/-- The tokens of a pool: every process obeys the rules from its own. -/
structure Tokens (rules : Discipline ρ τ Op Answer) (account : (π → Option (ρ × τ)) → σ → Prop)
    (pool : Pool π ρ σ Op Answer) (held : π → Option (ρ × τ)) : Prop where
  account : account held pool.shared
  roles : ∀ p, (held p).map Prod.fst = pool.roles p
  obeys : ∀ p role code token, pool.running p = some (role, code) → held p = some (role, token) →
    rules.Obeys role token code fun _ _ => True

section Accounted
variable {machine : Machine π ρ σ Op Answer} {rules : Discipline ρ τ Op Answer} {fresh : τ}
  {account : (π → Option (ρ × τ)) → σ → Prop} {pool : Pool π ρ σ Op Answer} {held : π → Option (ρ × τ)}

omit [DecidableEq π] in
theorem Tokens.of_running (tokens : Tokens rules account pool held) {p : π} {role : ρ} {code : Code Op Answer Unit}
    (here : pool.running p = some (role, code)) : ∃ token, held p = some (role, token) := by
  have same := tokens.roles p
  rw [Pool.roles, here, Option.map_some, Option.map_eq_some_iff] at same
  obtain ⟨⟨_, token⟩, found, rfl⟩ := same
  exact ⟨token, found⟩

/-- The account after one process moved from a code it may run. -/
theorem Tokens.update (tokens : Tokens rules account pool held) {p : π} {shared : σ}
    {now : Option (ρ × Code Op Answer Unit)} {kept : Option (ρ × τ)}
    (accounted : account (Function.update held p kept) shared) (role : kept.map Prod.fst = now.map Prod.fst)
    (obeys : ∀ role code token, now = some (role, code) → kept = some (role, token) →
      rules.Obeys role token code fun _ _ => True) :
    Tokens rules account ⟨shared, Function.update pool.running p now⟩ (Function.update held p kept) := by
  refine ⟨accounted, ?_, ?_⟩
  · intro q
    unfold Pool.roles
    dsimp only
    by_cases same : q = p
    · subst same
      rw [Function.update_self, Function.update_self]
      exact role
    · rw [Function.update_of_ne same, Function.update_of_ne same]
      exact tokens.roles q
  · intro q other code token here found
    cases of_update here with
    | inl moved =>
      obtain ⟨rfl, now⟩ := moved
      rw [Function.update_self] at found
      exact obeys other code token now found
    | inr stayed =>
      rw [Function.update_of_ne stayed.1] at found
      exact tokens.obeys q other code token stayed.2 found

theorem Move.keeps_tokens {after : Pool π ρ σ Op Answer} (move : Move machine pool after)
    (sound : Accounted machine rules fresh account) (tokens : Tokens rules account pool held) :
    ∃ held, Tokens rules account after held := by
  cases move with
  | started p role idle admitted =>
    have absent : held p = none := by
      have same := tokens.roles p
      rw [Pool.roles, idle, Option.map_none, Option.map_eq_none_iff] at same
      exact same
    have beside : machine.admits (fun q => (held q).map Prod.fst) role := by
      rw [funext tokens.roles]
      exact admitted
    refine ⟨_, tokens.update (sound.starts tokens.account absent beside) rfl ?_⟩
    intro other code token now kept
    cases now
    cases kept
    exact sound.programs role
  | @stepped p role op next answer after here performed =>
    obtain ⟨token, found⟩ := tokens.of_running here
    obtain ⟨permitted, onward⟩ := tokens.obeys p role _ token here found
    refine ⟨_, tokens.update (sound.steps tokens.account found permitted performed) rfl ?_⟩
    intro other code token now kept
    cases now
    cases kept
    exact onward answer
  | @ended p role code after here left =>
    obtain ⟨token, found⟩ := tokens.of_running here
    refine ⟨_, tokens.update (sound.ends tokens.account found left) rfl ?_⟩
    intro other code token now
    cases now

/-- In every interleaving the tokens of the processes account for the shared state. -/
theorem Run.accounted {boots : σ → Prop} (sound : Accounted machine rules fresh account)
    (boot : ∀ state, boots state → account (fun _ => none) state) (run : Run machine boots pool) :
    ∃ held, Tokens rules account pool held := by
  induction run with
  | booted here => exact ⟨fun _ => none, boot _ here, fun _ => rfl, fun _ _ _ _ here => nomatch here⟩
  | moved run move ih =>
    obtain ⟨held, tokens⟩ := ih
    exact move.keeps_tokens sound tokens

end Accounted

/-- A process alone, as long as there is an answer for it. -/
def drive (answers : (op : Op) → σ → Option (Answer op × σ)) : Nat → σ × Code Op Answer Unit → σ × Code Op Answer Unit
  | 0, here => here
  | _ + 1, (state, .done value) => (state, .done value)
  | count + 1, (state, .call op next) =>
    match answers op state with
    | none => (state, .call op next)
    | some (answer, after) => drive answers count (after, next answer)

theorem Run.driven {machine : Machine π ρ σ Op Answer} {boots : σ → Prop} {p : π} {role : ρ}
    {answers : (op : Op) → σ → Option (Answer op × σ)}
    (sound : ∀ op state answer after, answers op state = some (answer, after) → machine.performs p op state answer after)
    (count : Nat) {pool : Pool π ρ σ Op Answer} {code : Code Op Answer Unit} (run : Run machine boots pool)
    (here : pool.running p = some (role, code)) :
    Run machine boots ⟨(drive answers count (pool.shared, code)).1,
      Function.update pool.running p (some (role, (drive answers count (pool.shared, code)).2))⟩ := by
  have stays : Run machine boots ⟨pool.shared, Function.update pool.running p (some (role, code))⟩ := by
    rw [← here, Function.update_eq_self]
    exact run
  induction count generalizing pool code with
  | zero => exact stays
  | succ count ih =>
    cases code with
    | done value => exact stays
    | call op next =>
      unfold drive
      cases found : answers op pool.shared with
      | none => exact stays
      | some reply =>
        obtain ⟨answer, after⟩ := reply
        have moved := run.moved (.stepped here (sound op pool.shared answer after found))
        have now : Function.update pool.running p (some (role, next answer)) p = some (role, next answer) :=
          Function.update_self _ _ _
        have onward := ih moved now (by simpa only [Function.update_idem] using moved)
        simpa only [Function.update_idem] using onward

end Pool

end PlayTogether.Library
