import Mathlib.Data.List.Basic
import Mathlib.Order.Lattice

/-!
# Ladders

A ladder is a list of rungs in strictly descending order of a key.  A walk from the top takes the
first rung that is reached, as a rate is looked up in a table of thresholds.

* `find?_eq_some_iff`: the first rung that is reached is the highest one.
* `find?_congr_iff`: where being reached is handed down the ladder, two walks take the same rung
  exactly when they reach the same rungs.
* `valueAt_mono`: where the values rise on the way down, a walk that reaches less takes a value at
  least as large.
-/

namespace Ladder

variable {Rung Key Value : Type*} [LinearOrder Key] {key : Rung → Key} {p q : Rung → Bool}
  {rungs : List Rung} {rung : Rung}

/-- The key goes down strictly. -/
def Descending (key : Rung → Key) (rungs : List Rung) : Prop :=
  rungs.Pairwise fun higher lower => key lower < key higher

/-- No rung that is reached is higher. -/
structure IsHighest (key : Rung → Key) (p : Rung → Bool) (rungs : List Rung) (rung : Rung) :
    Prop where
  mem : rung ∈ rungs
  reached : p rung = true
  highest : ∀ other ∈ rungs, p other = true → key other ≤ key rung

/-- What lies below a rung that is reached is reached as well. -/
def HandedDown (key : Rung → Key) (p : Rung → Bool) (rungs : List Rung) : Prop :=
  ∀ higher ∈ rungs, ∀ lower ∈ rungs, key lower < key higher → p higher = true → p lower = true

theorem Descending.eq_of_key_eq (h : Descending key rungs) {first second : Rung}
    (hfirst : first ∈ rungs) (hsecond : second ∈ rungs) (hkey : key first = key second) :
    first = second := by
  induction rungs with
  | nil => cases hfirst
  | cons top rest ih =>
    obtain ⟨htop, hrest⟩ := List.pairwise_cons.mp h
    rcases List.mem_cons.mp hfirst with rfl | hfirst'
    · rcases List.mem_cons.mp hsecond with rfl | hsecond'
      · rfl
      · exact absurd hkey (htop second hsecond').ne'
    · rcases List.mem_cons.mp hsecond with rfl | hsecond'
      · exact absurd hkey (htop first hfirst').ne
      · exact ih hrest hfirst' hsecond'

theorem find?_eq_some_iff (h : Descending key rungs) :
    rungs.find? p = some rung ↔ IsHighest key p rungs rung := by
  induction rungs with
  | nil =>
    constructor
    · intro hfind
      cases hfind
    · intro hhighest
      cases hhighest.mem
  | cons top rest ih =>
    obtain ⟨htop, hrest⟩ := List.pairwise_cons.mp h
    cases hp : p top with
    | true =>
      rw [List.find?_cons_of_pos hp, Option.some.injEq]
      constructor
      · rintro rfl
        refine ⟨List.mem_cons_self .., hp, fun other hother _ => ?_⟩
        rcases List.mem_cons.mp hother with rfl | hother
        · exact le_refl _
        · exact (htop other hother).le
      · intro hhighest
        have hle := hhighest.highest top (List.mem_cons_self ..) hp
        rcases List.mem_cons.mp hhighest.mem with hsame | hmem
        · exact hsame.symm
        · exact absurd hle (htop rung hmem).not_ge
    | false =>
      rw [List.find?_cons_of_neg (by simp [hp]), ih hrest]
      constructor
      · intro hhighest
        refine ⟨List.mem_cons_of_mem _ hhighest.mem, hhighest.reached, ?_⟩
        intro other hother hreached
        rcases List.mem_cons.mp hother with rfl | hother
        · rw [hp] at hreached
          cases hreached
        · exact hhighest.highest other hother hreached
      · intro hhighest
        have hmem : rung ∈ rest := by
          rcases List.mem_cons.mp hhighest.mem with rfl | hmem
          · have hreached := hhighest.reached
            rw [hp] at hreached
            cases hreached
          · exact hmem
        refine ⟨hmem, hhighest.reached, fun other hother => ?_⟩
        exact hhighest.highest other (List.mem_cons_of_mem _ hother)

theorem find?_eq_none_iff : rungs.find? p = none ↔ ∀ rung ∈ rungs, p rung = false := by
  simp [List.find?_eq_none]

theorem reached_iff (h : Descending key rungs) (hp : HandedDown key p rungs)
    (hfind : rungs.find? p = some rung) {other : Rung} (hother : other ∈ rungs) :
    p other = true ↔ key other ≤ key rung := by
  have hhighest := (find?_eq_some_iff h).mp hfind
  constructor
  · exact hhighest.highest other hother
  · intro hle
    rcases hle.lt_or_eq with hlt | hkey
    · exact hp rung hhighest.mem other hother hlt hhighest.reached
    · rw [h.eq_of_key_eq hother hhighest.mem hkey]
      exact hhighest.reached

theorem find?_congr_iff (h : Descending key rungs) (hp : HandedDown key p rungs)
    (hq : HandedDown key q rungs) :
    rungs.find? p = rungs.find? q ↔ ∀ rung ∈ rungs, p rung = q rung := by
  constructor
  · intro hfind other hother
    cases hrung : rungs.find? p with
    | none =>
      have hnone := find?_eq_none_iff.mp hrung
      rw [hfind] at hrung
      have hnone' := find?_eq_none_iff.mp hrung
      rw [hnone other hother, hnone' other hother]
    | some rung =>
      have hreached := reached_iff h hp hrung hother
      rw [hfind] at hrung
      have hreached' := reached_iff h hq hrung hother
      exact Bool.eq_iff_iff.mpr (hreached.trans hreached'.symm)
  · intro hsame
    induction rungs with
    | nil => rfl
    | cons top rest ih =>
      have htop := hsame top (List.mem_cons_self ..)
      have hrest : rest.find? p = rest.find? q := by
        apply ih (List.pairwise_cons.mp h).2
        · intro higher hhigher lower hlower
          exact hp higher (List.mem_cons_of_mem _ hhigher) lower (List.mem_cons_of_mem _ hlower)
        · intro higher hhigher lower hlower
          exact hq higher (List.mem_cons_of_mem _ hhigher) lower (List.mem_cons_of_mem _ hlower)
        · exact fun other hother => hsame other (List.mem_cons_of_mem _ hother)
      rw [List.find?_cons, List.find?_cons, htop, hrest]

/-! ## Values -/

variable [Preorder Value] {value : Rung → Value} {bottom : Value}

/-- The value of the rung that the walk takes, or the one at the bottom. -/
def valueAt (value : Rung → Value) (bottom : Value) (p : Rung → Bool) (rungs : List Rung) :
    Value :=
  match rungs.find? p with
  | some rung => value rung
  | none => bottom

/-- The values rise on the way down, and the bottom has the largest. -/
structure Rising (value : Rung → Value) (bottom : Value) (rungs : List Rung) : Prop where
  pairwise : rungs.Pairwise fun higher lower => value higher ≤ value lower
  le_bottom : ∀ rung ∈ rungs, value rung ≤ bottom

theorem Rising.tail {top : Rung} {rest : List Rung} (h : Rising value bottom (top :: rest)) :
    Rising value bottom rest :=
  ⟨(List.pairwise_cons.mp h.pairwise).2, fun rung hrung =>
    h.le_bottom rung (List.mem_cons_of_mem _ hrung)⟩

theorem Rising.top_le_valueAt {top : Rung} {rest : List Rung}
    (h : Rising value bottom (top :: rest)) : value top ≤ valueAt value bottom p rest := by
  unfold valueAt
  cases hfind : rest.find? p with
  | none => exact h.le_bottom top (List.mem_cons_self ..)
  | some rung =>
    exact (List.pairwise_cons.mp h.pairwise).1 rung (List.mem_of_find?_eq_some hfind)

theorem valueAt_mono (h : Rising value bottom rungs)
    (hpq : ∀ rung ∈ rungs, q rung = true → p rung = true) :
    valueAt value bottom p rungs ≤ valueAt value bottom q rungs := by
  induction rungs with
  | nil => exact le_refl _
  | cons top rest ih =>
    have hrest := ih h.tail fun rung hrung => hpq rung (List.mem_cons_of_mem _ hrung)
    have htop := hpq top (List.mem_cons_self ..)
    unfold valueAt at hrest ⊢
    cases hp : p top with
    | true =>
      rw [List.find?_cons_of_pos hp]
      cases hq : q top with
      | true => rw [List.find?_cons_of_pos hq]
      | false =>
        rw [List.find?_cons_of_neg (by simp [hq])]
        exact h.top_le_valueAt
    | false =>
      have hq : q top = false := by
        cases hq : q top with
        | false => rfl
        | true =>
          rw [htop hq] at hp
          cases hp
      rw [List.find?_cons_of_neg (by simp [hp]), List.find?_cons_of_neg (by simp [hq])]
      exact hrest

end Ladder
