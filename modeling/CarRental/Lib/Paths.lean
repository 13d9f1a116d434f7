import Mathlib.Data.Set.Finite.Basic
import Mathlib.Logic.Relation
import Mathlib.Order.WellFounded
import Mathlib.Data.Fintype.Pigeonhole

/-!
# Endless paths of a relation

A path of `R` that never ends, and the cycle it must run into where only finitely many points
can be reached.

* `endless_of_progress` builds a path from a property that can always be kept.
* `endless_iff_reachesCycle`: on a finite closed set, the endless paths are those that reach a
  cycle.
* `acc_of_not_endless` turns the absence of endless paths into an induction principle.
-/

namespace Paths

open Relation

variable {α : Type*} {R : α → α → Prop} {a : α}

/-- One can go on along `R` for ever, from `a`. -/
def Endless (R : α → α → Prop) (a : α) : Prop :=
  ∃ path : ℕ → α, path 0 = a ∧ ∀ n, R (path n) (path (n + 1))

/-- From `a` a point is reached that is reached from itself again. -/
def ReachesCycle (R : α → α → Prop) (a : α) : Prop :=
  ∃ b, ReflTransGen R a b ∧ TransGen R b b

/-- The points of a set, once entered, are not left. -/
def Closed (R : α → α → Prop) (S : Set α) : Prop :=
  ∀ a ∈ S, ∀ b, R a b → b ∈ S

theorem endless_of_progress {T : α → Prop} (hprogress : ∀ a, T a → ∃ b, R a b ∧ T b) (ha : T a) :
    Endless R a := by
  choose! next hnext using hprogress
  refine ⟨fun n => next^[n] a, rfl, fun n => ?_⟩
  have hkept : T (next^[n] a) := by
    induction n with
    | zero => exact ha
    | succ n ih =>
      rw [Function.iterate_succ_apply']
      exact (hnext _ ih).2
  have hstep : R (next^[n] a) (next (next^[n] a)) := (hnext _ hkept).1
  simpa only [Function.iterate_succ_apply'] using hstep

theorem ReachesCycle.progress (h : ReachesCycle R a) : ∃ b, R a b ∧ ReachesCycle R b := by
  obtain ⟨c, hreach, hcycle⟩ := h
  rcases ReflTransGen.cases_head hreach with rfl | ⟨b, hab, hbc⟩
  · obtain ⟨b, hab, hba⟩ := TransGen.head'_iff.mp hcycle
    exact ⟨b, hab, a, hba, hcycle⟩
  · exact ⟨b, hab, c, hbc, hcycle⟩

theorem ReachesCycle.endless (h : ReachesCycle R a) : Endless R a :=
  endless_of_progress (fun _ => ReachesCycle.progress) h

theorem transGen_of_path {path : ℕ → α} (hpath : ∀ n, R (path n) (path (n + 1))) (n k : ℕ) :
    TransGen R (path n) (path (n + k + 1)) := by
  induction k with
  | zero => exact .single (hpath n)
  | succ k ih => exact .tail ih (hpath (n + k + 1))

theorem reflTransGen_of_path {path : ℕ → α} (hpath : ∀ n, R (path n) (path (n + 1))) (n : ℕ) :
    ReflTransGen R (path 0) (path n) := by
  induction n with
  | zero => exact .refl
  | succ n ih => exact .tail ih (hpath n)

theorem mem_of_path {S : Set α} (hclosed : Closed R S) {path : ℕ → α} (hstart : path 0 ∈ S)
    (hpath : ∀ n, R (path n) (path (n + 1))) (n : ℕ) : path n ∈ S := by
  induction n with
  | zero => exact hstart
  | succ n ih => exact hclosed _ ih _ (hpath n)

theorem reachesCycle_of_path {path : ℕ → α} (hpath : ∀ n, R (path n) (path (n + 1))) {i j : ℕ}
    (hlt : i < j) (heq : path i = path j) : ReachesCycle R (path 0) := by
  obtain ⟨k, rfl⟩ := Nat.exists_eq_add_of_lt hlt
  have hcycle := transGen_of_path hpath i k
  rw [← heq] at hcycle
  exact ⟨path i, reflTransGen_of_path hpath i, hcycle⟩

theorem Endless.reachesCycle {S : Set α} (hfinite : S.Finite) (hclosed : Closed R S)
    (ha : a ∈ S) (h : Endless R a) : ReachesCycle R a := by
  obtain ⟨path, rfl, hpath⟩ := h
  have hmem := mem_of_path hclosed ha hpath
  have := hfinite.to_subtype
  obtain ⟨i, j, hne, heq⟩ :=
    Finite.exists_ne_map_eq_of_infinite fun n => (⟨path n, hmem n⟩ : S)
  have heq : path i = path j := congrArg Subtype.val heq
  rcases Nat.lt_or_gt_of_ne hne with hlt | hgt
  · exact reachesCycle_of_path hpath hlt heq
  · exact reachesCycle_of_path hpath hgt heq.symm

theorem endless_iff_reachesCycle {S : Set α} (hfinite : S.Finite) (hclosed : Closed R S)
    (ha : a ∈ S) : Endless R a ↔ ReachesCycle R a :=
  ⟨Endless.reachesCycle hfinite hclosed ha, ReachesCycle.endless⟩

theorem acc_of_not_endless (h : ¬ Endless R a) : Acc (flip R) a := by
  by_contra hacc
  refine h (endless_of_progress (T := fun b => ¬ Acc (flip R) b) (fun b hb => ?_) hacc)
  by_contra hnone
  refine hb (.intro b fun c hbc => ?_)
  by_contra hc
  exact hnone ⟨c, hbc, hc⟩

end Paths
