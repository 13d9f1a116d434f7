import Mathlib.Logic.Function.Iterate
import Mathlib.Tactic.TypeStar

/-!
# Messages that are recorded before they are processed

A receiver that gets a message first records it, in a write of its own, and then
processes it in further writes.  A message that is recorded already is skipped.

If the processing stops after some of its writes, each redelivery is skipped
(`Inbox.redeliver_abortAfter`).  What has been written by then is all that ever is.
-/

/-- How a receiver handles one message. -/
structure Inbox (State : Type*) where
  recorded : State → Bool
  record : State → State
  /-- The states that processing the recorded message commits, in order. -/
  writes : State → List State

namespace Inbox

variable {State View : Type*} (inbox : Inbox State)

/-- The state that processing stopped after `k` writes leaves. -/
def abortAfter (state : State) (k : ℕ) : State :=
  ((inbox.writes (inbox.record state)).take k).getLastD (inbox.record state)

def process (state : State) : State :=
  (inbox.writes (inbox.record state)).getLastD (inbox.record state)

def deliver (state : State) : State :=
  if inbox.recorded state then state else inbox.process state

/-- The record of the message outlives its processing. -/
def Keeps (state : State) : Prop :=
  ∀ next ∈ inbox.record state :: inbox.writes (inbox.record state), inbox.recorded next = true

variable {inbox} {state : State} {k n : ℕ}

theorem deliver_of_recorded (h : inbox.recorded state = true) : inbox.deliver state = state :=
  if_pos h

theorem deliver_of_fresh (h : inbox.recorded state = false) :
    inbox.deliver state = inbox.process state := by
  rw [deliver, h]
  rfl

theorem getLastD_mem (first : State) (rest : List State) : rest.getLastD first ∈ first :: rest := by
  cases hlast : rest.getLast? with
  | none => simp [List.getLastD_eq_getLast?, hlast]
  | some last =>
    have hmem := List.mem_of_getLast? hlast
    simp [List.getLastD_eq_getLast?, hlast, hmem]

theorem recorded_abortAfter (h : inbox.Keeps state) (k : ℕ) :
    inbox.recorded (inbox.abortAfter state k) = true := by
  refine h _ ?_
  rcases List.mem_cons.mp (getLastD_mem (inbox.record state)
    ((inbox.writes (inbox.record state)).take k)) with hfirst | hrest
  · rw [abortAfter, hfirst]
    exact List.mem_cons_self ..
  · exact List.mem_cons_of_mem _ (List.mem_of_mem_take hrest)

theorem redeliver_abortAfter (h : inbox.Keeps state) (k n : ℕ) :
    inbox.deliver^[n] (inbox.abortAfter state k) = inbox.abortAfter state k :=
  Function.iterate_fixed (deliver_of_recorded (recorded_abortAfter h k)) n

/-! ## How many writes it takes

`Settles view m` says that it takes `m` writes until nothing that is visible in `view`
is missing.  The lemmas below count the writes of processings with up to two. -/

/-- What is visible in `view` is complete exactly from the `m`-th write on. -/
def Settles (inbox : Inbox State) (view : State → View) (state : State) (m : ℕ) : Prop :=
  ∀ k, view (inbox.abortAfter state k) = view (inbox.process state) ↔ m ≤ k

variable {view : State → View} {first second : State}

theorem settles_zero_of_nil (h : inbox.writes (inbox.record state) = []) :
    inbox.Settles view state 0 := by
  intro k
  rw [abortAfter, process, h, List.take_nil]
  exact iff_of_true rfl (Nat.zero_le k)

theorem settles_zero_of_singleton (h : inbox.writes (inbox.record state) = [first])
    (hfirst : view first = view (inbox.record state)) : inbox.Settles view state 0 := by
  intro k
  rw [abortAfter, process, h]
  refine iff_of_true ?_ (Nat.zero_le k)
  cases k with
  | zero => exact hfirst.symm
  | succ k => rw [List.take_succ_cons, List.take_nil]

theorem settles_one_of_singleton (h : inbox.writes (inbox.record state) = [first])
    (hfirst : view (inbox.record state) ≠ view first) : inbox.Settles view state 1 := by
  intro k
  rw [abortAfter, process, h]
  cases k with
  | zero => exact iff_of_false hfirst (by omega)
  | succ k =>
    rw [List.take_succ_cons, List.take_nil]
    exact iff_of_true rfl (by omega)

theorem settles_one_of_pair (h : inbox.writes (inbox.record state) = [first, second])
    (hfirst : view (inbox.record state) ≠ view first) (hsecond : view first = view second) :
    inbox.Settles view state 1 := by
  intro k
  rw [abortAfter, process, h]
  match k with
  | 0 => exact iff_of_false (fun heq => hfirst (heq.trans hsecond.symm)) (by omega)
  | 1 => exact iff_of_true hsecond (Nat.le_refl 1)
  | k + 2 =>
    rw [List.take_succ_cons, List.take_succ_cons, List.take_nil]
    exact iff_of_true rfl (by omega)

theorem settles_two_of_pair (h : inbox.writes (inbox.record state) = [first, second])
    (hrecord : view (inbox.record state) ≠ view second) (hfirst : view first ≠ view second) :
    inbox.Settles view state 2 := by
  intro k
  rw [abortAfter, process, h]
  match k with
  | 0 => exact iff_of_false hrecord (by omega)
  | 1 => exact iff_of_false hfirst (by omega)
  | k + 2 =>
    rw [List.take_succ_cons, List.take_succ_cons, List.take_nil]
    exact iff_of_true rfl (by omega)

theorem Settles.redeliver_iff {m : ℕ} (h : inbox.Settles view state m) (hkeeps : inbox.Keeps state)
    (k n : ℕ) :
    view (inbox.deliver^[n] (inbox.abortAfter state k)) = view (inbox.process state) ↔ m ≤ k := by
  rw [redeliver_abortAfter hkeeps]
  exact h k

end Inbox
