import Mathlib.Data.List.Basic
import Mathlib.Tactic.TypeStar
import Mathlib.Data.List.Perm.Basic

/-!
# Runs of a deterministic transition system

A system is a total function `step : State → Action → State`: an action that is
refused leaves the state as it is.  A run is a list of actions.  `Along step P`
says that every step of a run satisfies `P`, read at the state just before the
step, which is how a condition on a run ("no event arrives late") and a law of a
run ("every change is allowed") are both written.

* `Along.invariant` is the induction rule: what one step preserves under `P`, a
  run all of whose steps satisfy `P` preserves.
* `along_congr` turns an equivalence of two step conditions into one of runs.
* `everywhere_iff_along` and `everywhere_and_along_iff` say exactly which runs keep an
  invariant, from what says exactly which steps do (`_within`, with a second invariant that
  is only kept while the first one is); `neverAfter_iff_along` does it for
  "never `D` after `C`".
-/

namespace Runs

variable {State Action View : Type*} (step : State → Action → State)

def run (start : State) (actions : List Action) : State :=
  actions.foldl step start

/-- Every step of the run satisfies `P` at the state it starts from. -/
def Along (P : State → Action → Prop) : State → List Action → Prop
  | _, [] => True
  | state, action :: rest => P state action ∧ Along P (step state action) rest

/-- Every state of the run, the first and the last included, satisfies `I`. -/
def Everywhere (I : State → Prop) : State → List Action → Prop
  | state, [] => I state
  | state, action :: rest => I state ∧ Everywhere I (step state action) rest

instance decidableAlong (P : State → Action → Prop) [∀ s a, Decidable (P s a)] :
    ∀ (state : State) (actions : List Action), Decidable (Along step P state actions)
  | _, [] => .isTrue trivial
  | state, action :: rest =>
    let := decidableAlong P (step state action) rest
    inferInstanceAs (Decidable (P state action ∧ Along step P (step state action) rest))

instance decidableEverywhere (I : State → Prop) [∀ s, Decidable (I s)] :
    ∀ (state : State) (actions : List Action), Decidable (Everywhere step I state actions)
  | state, [] => inferInstanceAs (Decidable (I state))
  | state, action :: rest =>
    let := decidableEverywhere I (step state action) rest
    inferInstanceAs (Decidable (I state ∧ Everywhere step I (step state action) rest))

variable {step} {P Q : State → Action → Prop} {I : State → Prop} {state : State}
  {actions : List Action}

@[simp] theorem run_nil : run step state [] = state := rfl

@[simp] theorem run_cons (action : Action) :
    run step state (action :: actions) = run step (step state action) actions := rfl

theorem run_append (first second : List Action) :
    run step state (first ++ second) = run step (run step state first) second := by
  simp [run, List.foldl_append]

@[simp] theorem along_nil : Along step P state [] := trivial

@[simp] theorem along_cons (action : Action) :
    Along step P state (action :: actions) ↔
      P state action ∧ Along step P (step state action) actions := Iff.rfl

@[simp] theorem everywhere_nil : Everywhere step I state [] ↔ I state := Iff.rfl

@[simp] theorem everywhere_cons (action : Action) :
    Everywhere step I state (action :: actions) ↔
      I state ∧ Everywhere step I (step state action) actions := Iff.rfl

theorem Everywhere.last (h : Everywhere step I state actions) : I (run step state actions) := by
  induction actions generalizing state with
  | nil => exact h
  | cons action rest ih => exact ih h.2

theorem Everywhere.first (h : Everywhere step I state actions) : I state := by
  cases actions with
  | nil => exact h
  | cons action rest => exact h.1

theorem Everywhere.mono {J : State → Prop} (hIJ : ∀ s, I s → J s)
    (h : Everywhere step I state actions) : Everywhere step J state actions := by
  induction actions generalizing state with
  | nil => exact hIJ _ h
  | cons action rest ih => exact ⟨hIJ _ h.1, ih h.2⟩

theorem Along.mono (hPQ : ∀ s a, P s a → Q s a) (h : Along step P state actions) :
    Along step Q state actions := by
  induction actions generalizing state with
  | nil => trivial
  | cons action rest ih => exact ⟨hPQ _ _ h.1, ih h.2⟩

theorem Along.everywhere (hstep : ∀ s a, I s → P s a → I (step s a)) (hstart : I state)
    (h : Along step P state actions) : Everywhere step I state actions := by
  induction actions generalizing state with
  | nil => exact hstart
  | cons action rest ih => exact ⟨hstart, ih (hstep _ _ hstart h.1) h.2⟩

theorem Along.invariant (hstep : ∀ s a, I s → P s a → I (step s a)) (hstart : I state)
    (h : Along step P state actions) : I (run step state actions) :=
  (h.everywhere hstep hstart).last

theorem Along.mono_of_invariant (hstep : ∀ s a, I s → P s a → I (step s a))
    (hPQ : ∀ s a, I s → P s a → Q s a) (hstart : I state) (h : Along step P state actions) :
    Along step Q state actions := by
  induction actions generalizing state with
  | nil => trivial
  | cons action rest ih => exact ⟨hPQ _ _ hstart h.1, ih (hstep _ _ hstart h.1) h.2⟩

theorem everywhere_congr {J : State → Prop} (h : ∀ s, I s ↔ J s) :
    Everywhere step I state actions ↔ Everywhere step J state actions := by
  rw [show I = J from funext fun s => propext (h s)]

theorem everywhere_of_step (hstep : ∀ s a, I s → I (step s a)) (hstart : I state) :
    Everywhere step I state actions := by
  induction actions generalizing state with
  | nil => exact hstart
  | cons action rest ih => exact ⟨hstart, ih (hstep _ _ hstart)⟩

theorem everywhere_and_along_iff_under {J : State → Prop} {R : State → Action → Prop}
    (hstep : ∀ s a, I s → J s → J (step s a) → R s a → I (step s a))
    (hiff : ∀ s, ∀ a ∈ actions, I s → J s → R s a → ((J (step s a) ∧ Q s a) ↔ P s a))
    (hassumed : Along step R state actions) (hI : I state) (hJ : J state) :
    Everywhere step J state actions ∧ Along step Q state actions ↔ Along step P state actions := by
  induction actions generalizing state with
  | nil => simp [hJ]
  | cons action rest ih =>
    obtain ⟨hR, hRs⟩ := hassumed
    have hfirst := hiff state action (List.mem_cons_self ..) hI hJ hR
    have hrest : ∀ s, ∀ a ∈ rest, I s → J s → R s a → ((J (step s a) ∧ Q s a) ↔ P s a) :=
      fun s a ha => hiff s a (List.mem_cons_of_mem _ ha)
    have hnext := fun hJ' => hstep state action hI hJ hJ' hR
    rw [everywhere_cons, along_cons, along_cons]
    constructor
    · rintro ⟨⟨-, hJs⟩, hQ, hQs⟩
      have hJ' := hJs.first
      exact ⟨hfirst.mp ⟨hJ', hQ⟩, (ih hrest hRs (hnext hJ') hJ').mp ⟨hJs, hQs⟩⟩
    · rintro ⟨hP, hPs⟩
      obtain ⟨hJ', hQ⟩ := hfirst.mpr hP
      obtain ⟨hJs, hQs⟩ := (ih hrest hRs (hnext hJ') hJ').mpr hPs
      exact ⟨⟨hJ, hJs⟩, hQ, hQs⟩

theorem Along.simulated {Fine FineAction : Type*} {fine : Fine → FineAction → Fine}
    {R : State → Fine → Prop}
    (hstep : ∀ s t a, R s t → P s a → ∃ fineActions, R (step s a) (run fine t fineActions))
    {start : Fine} (hstart : R state start) (h : Along step P state actions) :
    ∃ fineActions, R (run step state actions) (run fine start fineActions) := by
  induction actions generalizing state start with
  | nil => exact ⟨[], hstart⟩
  | cons action rest ih =>
    obtain ⟨first, hfirst⟩ := hstep _ _ _ hstart h.1
    obtain ⟨later, hlater⟩ := ih hfirst h.2
    exact ⟨first ++ later, by rwa [run_append]⟩

theorem along_true : ∀ (state : State) (actions : List Action),
    Along step (fun _ _ => True) state actions
  | _, [] => trivial
  | _, _ :: _ => ⟨trivial, along_true _ _⟩

theorem everywhere_and_along_iff_within {J : State → Prop}
    (hstep : ∀ s a, I s → J s → J (step s a) → I (step s a))
    (hiff : ∀ s, ∀ a ∈ actions, I s → J s → ((J (step s a) ∧ Q s a) ↔ P s a)) (hI : I state)
    (hJ : J state) :
    Everywhere step J state actions ∧ Along step Q state actions ↔ Along step P state actions :=
  everywhere_and_along_iff_under (R := fun _ _ => True) (fun s a hs hJs hJ' _ => hstep s a hs hJs hJ')
    (fun s a ha hs hJs _ => hiff s a ha hs hJs) (along_true state actions) hI hJ

theorem everywhere_and_along_iff {J : State → Prop} (hstep : ∀ s a, I s → I (step s a))
    (hiff : ∀ s, ∀ a ∈ actions, I s → J s → ((J (step s a) ∧ Q s a) ↔ P s a)) (hI : I state)
    (hJ : J state) :
    Everywhere step J state actions ∧ Along step Q state actions ↔ Along step P state actions :=
  everywhere_and_along_iff_within (fun s a hs _ _ => hstep s a hs) hiff hI hJ

theorem everywhere_iff_along_within {J : State → Prop}
    (hstep : ∀ s a, I s → J s → J (step s a) → I (step s a))
    (hiff : ∀ s, ∀ a ∈ actions, I s → J s → (J (step s a) ↔ P s a)) (hI : I state)
    (hJ : J state) : Everywhere step J state actions ↔ Along step P state actions := by
  rw [← everywhere_and_along_iff_within (Q := fun _ _ => True) hstep
    (fun s a ha hs hJs => (and_iff_left trivial).trans (hiff s a ha hs hJs)) hI hJ]
  exact (and_iff_left (along_true _ _)).symm

theorem everywhere_iff_along_of_invariant {J : State → Prop}
    (hstep : ∀ s a, I s → I (step s a))
    (hiff : ∀ s, ∀ a ∈ actions, I s → J s → (J (step s a) ↔ P s a)) (hI : I state)
    (hJ : J state) : Everywhere step J state actions ↔ Along step P state actions :=
  everywhere_iff_along_within (fun s a hs _ _ => hstep s a hs) hiff hI hJ

theorem everywhere_iff_along
    (hiff : ∀ s, ∀ a ∈ actions, I s → (I (step s a) ↔ P s a)) (hstart : I state) :
    Everywhere step I state actions ↔ Along step P state actions :=
  everywhere_iff_along_of_invariant (I := fun _ => True) (fun _ _ _ => trivial)
    (fun s a ha _ => hiff s a ha) trivial hstart

theorem along_congr_within (hstep : ∀ s a, I s → Q s a → I (step s a))
    (hiff : ∀ s, ∀ a ∈ actions, I s → (P s a ↔ Q s a)) (hstart : I state) :
    Along step P state actions ↔ Along step Q state actions := by
  induction actions generalizing state with
  | nil => exact Iff.rfl
  | cons action rest ih =>
    have hfirst := hiff state action (List.mem_cons_self ..) hstart
    have hrest : ∀ s, ∀ a ∈ rest, I s → (P s a ↔ Q s a) :=
      fun s a ha => hiff s a (List.mem_cons_of_mem _ ha)
    rw [along_cons, along_cons, hfirst]
    exact and_congr_right fun hQ => ih hrest (hstep _ _ hstart hQ)

theorem along_congr (hstep : ∀ s a, I s → I (step s a))
    (hiff : ∀ s, ∀ a ∈ actions, I s → (P s a ↔ Q s a)) (hstart : I state) :
    Along step P state actions ↔ Along step Q state actions :=
  along_congr_within (fun s a hs _ => hstep s a hs) hiff hstart

/-! ## Never after -/

/-- From each state of the run that satisfies `C` on, no state satisfies `D`. -/
def NeverAfter (step : State → Action → State) (C D : State → Prop) : State → List Action → Prop
  | state, [] => C state → ¬ D state
  | state, action :: rest =>
    (C state → Everywhere step (fun s => ¬ D s) state (action :: rest)) ∧
      NeverAfter step C D (step state action) rest

instance decidableNeverAfter (step : State → Action → State) (C D : State → Prop)
    [DecidablePred C] [DecidablePred D] :
    ∀ (state : State) (actions : List Action), Decidable (NeverAfter step C D state actions)
  | state, [] => inferInstanceAs (Decidable (C state → ¬ D state))
  | state, action :: rest =>
    let := decidableNeverAfter step C D (step state action) rest
    inferInstanceAs (Decidable ((C state → Everywhere step (fun s => ¬ D s) state (action :: rest)) ∧
      NeverAfter step C D (step state action) rest))

theorem neverAfter_iff_along {C D : State → Prop} (hstep : ∀ s a, I s → I (step s a))
    (hCD : ∀ s, C s → ¬ D s) (hleave : ∀ s a, I s → C s → C (step s a) ∨ D (step s a))
    (hI : I state) :
    NeverAfter step C D state actions ↔
      Along step (fun s a => C s → ¬ D (step s a)) state actions := by
  have hstays : ∀ actions state, I state → C state →
      Along step (fun s a => C s → ¬ D (step s a)) state actions →
      Everywhere step (fun s => ¬ D s) state actions := by
    intro actions
    induction actions with
    | nil => exact fun state _ hC _ => hCD state hC
    | cons action rest ih =>
      intro state hI hC h
      have hC' := (hleave state action hI hC).resolve_right (h.1 hC)
      exact ⟨hCD state hC, ih _ (hstep state action hI) hC' h.2⟩
  induction actions generalizing state with
  | nil => exact iff_of_true (hCD state) trivial
  | cons action rest ih =>
    have hnext := hstep state action hI
    constructor
    · rintro ⟨hfirst, hrest⟩
      exact ⟨fun hC => (hfirst hC).2.first, (ih hnext).mp hrest⟩
    · intro h
      exact ⟨fun hC => hstays _ state hI hC h, (ih hnext).mpr h.2⟩

end Runs

/-!
## Runs that look serial

Operations that take several steps are interleaved; `serial` runs each of them in one.
An interleaved run is serial up to `Q` when some order of the operations it issued leads
the serial system to a state that satisfies `Q` (`SerialUpTo`).

The proof of it is a simulation with a list of operations that are still waiting for
their place in the order.  A step may place some of them, in an order of its choice, and
leaves the others waiting (`Places`); `Along.places` runs it, and `serialUpTo_of_places`
ends it where the operations that are left can be appended.
-/

namespace Runs

variable {State Action Serial Op : Type*}

/-- Some order of the operations leads to a state that satisfies `Q`. -/
def SerialUpTo (serial : Serial → Op → Serial) (start : Serial) (operations : List Op)
    (Q : Serial → Prop) : Prop :=
  ∃ order : List Op, order.Perm operations ∧ Q (run serial start order)

/-- Of the operations that wait, some can be run now so that `Sim` holds with the rest. -/
def Places (serial : Serial → Op → Serial) (Sim : Serial → List Op → Prop) (current : Serial)
    (waiting : List Op) : Prop :=
  ∃ placed rest : List Op, (placed ++ rest).Perm waiting ∧ Sim (run serial current placed) rest

variable {step : State → Action → State} {serial : Serial → Op → Serial}
  {issued : Action → List Op} {P : State → Action → Prop}
  {state : State} {actions : List Action} {start : Serial} {waiting : List Op}

theorem Along.places (Sim : State → Serial → List Op → Prop)
    (hstep : ∀ s a σ waiting, P s a → Sim s σ waiting →
      Places serial (Sim (step s a)) σ (waiting ++ issued a))
    (hstart : Sim state start waiting) (h : Along step P state actions) :
    Places serial (Sim (run step state actions)) start (waiting ++ actions.flatMap issued) := by
  induction actions generalizing state start waiting with
  | nil => exact ⟨[], waiting, by simp, hstart⟩
  | cons action rest ih =>
    obtain ⟨first, still, hfirst, hsim⟩ := hstep state action start waiting h.1 hstart
    obtain ⟨later, left, hlater, hend⟩ := ih hsim h.2
    refine ⟨first ++ later, left, ?_, ?_⟩
    · have hissued : (first ++ (still ++ rest.flatMap issued)).Perm
          (waiting ++ (action :: rest).flatMap issued) := by
        rw [List.flatMap_cons, ← List.append_assoc, ← List.append_assoc]
        exact hfirst.append_right _
      rw [List.append_assoc]
      exact (hlater.append_left first).trans hissued
    · rwa [run_append]

theorem serialUpTo_of_places {Sim : Serial → List Op → Prop} {Q : Serial → Prop}
    (hend : ∀ σ rest, Sim σ rest → Q (run serial σ rest))
    (h : Places serial Sim start waiting) : SerialUpTo serial start waiting Q := by
  obtain ⟨placed, rest, hperm, hsim⟩ := h
  refine ⟨placed ++ rest, hperm, ?_⟩
  rw [run_append]
  exact hend _ _ hsim

end Runs
