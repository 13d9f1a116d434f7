import Mathlib.Data.Prod.Basic
import Mathlib.Tactic.TypeStar

/-!
# Calls that commit step by step

A call goes through steps, each of which commits or throws as a whole.  When one throws, the call
throws, and what the steps before it have committed stays.

* `andThen` goes on where a call has returned, `step` is a single step, `ensuring` is done in any
  case.
* `succeeds_andThen` takes a success apart, `andThen_eq_ok` what it returned.
* `andThen_rel` is the frame rule: what every step does to the state, the call does.
-/

namespace Calls

variable {State Error Reply Next : Type*}

/-- What a call leaves, and what it returns or throws. -/
abbrev Outcome (State Error Reply : Type*) := State × Except Error Reply

def Succeeds (outcome : Outcome State Error Reply) : Prop := outcome.2.isOk = true

instance (outcome : Outcome State Error Reply) : Decidable (Succeeds outcome) :=
  inferInstanceAs (Decidable (outcome.2.isOk = true))

def andThen (outcome : Outcome State Error Reply)
    (next : State → Reply → Outcome State Error Next) : Outcome State Error Next :=
  match outcome.2 with
  | .error e => (outcome.1, .error e)
  | .ok reply => next outcome.1 reply

def step (state : State) (result : Except Error State) : Outcome State Error Unit :=
  match result with
  | .error e => (state, .error e)
  | .ok state' => (state', .ok ())

def ensuring (outcome : Outcome State Error Reply) (cleanup : State → State) :
    Outcome State Error Reply :=
  (cleanup outcome.1, outcome.2)

variable {state state' : State} {outcome : Outcome State Error Reply} {reply : Reply} {e : Error}
  {next : State → Reply → Outcome State Error Next}

theorem succeeds_iff : Succeeds outcome ↔ ∃ reply, outcome.2 = .ok reply := by
  rw [Succeeds]
  cases outcome.2 with
  | error e => simp [Except.isOk, Except.toBool]
  | ok reply => simp [Except.isOk, Except.toBool]

@[simp] theorem succeeds_ok : Succeeds ((state, .ok reply) : Outcome State Error Reply) := rfl

@[simp] theorem not_succeeds_error :
    ¬ Succeeds ((state, .error e) : Outcome State Error Reply) := by
  rintro ⟨⟩

theorem andThen_of_ok (h : outcome.2 = .ok reply) : andThen outcome next = next outcome.1 reply := by
  rw [andThen, h]

theorem andThen_of_error (h : outcome.2 = .error e) :
    andThen outcome next = (outcome.1, .error e) := by
  rw [andThen, h]

@[simp] theorem andThen_ok :
    andThen ((state, .ok reply) : Outcome State Error Reply) next = next state reply := rfl

@[simp] theorem andThen_error :
    andThen ((state, .error e) : Outcome State Error Reply) next = (state, .error e) := rfl

@[simp] theorem step_ok : step state (.ok state' : Except Error State) = (state', .ok ()) := rfl

@[simp] theorem step_error : step state (.error e : Except Error State) = (state, .error e) := rfl

@[simp] theorem succeeds_ensuring (cleanup : State → State) :
    Succeeds (ensuring outcome cleanup) ↔ Succeeds outcome := Iff.rfl

theorem succeeds_andThen :
    Succeeds (andThen outcome next) ↔
      ∃ reply, outcome.2 = .ok reply ∧ Succeeds (next outcome.1 reply) := by
  cases h : outcome.2 with
  | error e => simp [andThen_of_error h]
  | ok reply => simp [andThen_of_ok h]

theorem andThen_eq_ok {reply' : Next} :
    (andThen outcome next).2 = .ok reply' ↔
      ∃ reply, outcome.2 = .ok reply ∧ (next outcome.1 reply).2 = .ok reply' := by
  cases h : outcome.2 with
  | error e => simp [andThen_of_error h]
  | ok reply => simp [andThen_of_ok h]

theorem succeeds_andThen_of_returns (hnext : ∀ state reply, Succeeds (next state reply)) :
    Succeeds (andThen outcome next) ↔ Succeeds outcome := by
  rw [succeeds_andThen, succeeds_iff]
  exact exists_congr fun reply => and_iff_left (hnext _ reply)

theorem andThen_rel {R : State → State → Prop} (htrans : ∀ a b c, R a b → R b c → R a c)
    (hfirst : R state outcome.1) (hnext : ∀ reply, R outcome.1 (next outcome.1 reply).1) :
    R state (andThen outcome next).1 := by
  cases h : outcome.2 with
  | error e =>
    rw [andThen_of_error h]
    exact hfirst
  | ok reply =>
    rw [andThen_of_ok h]
    exact htrans _ _ _ hfirst (hnext reply)

end Calls
