import CarRental.Bookings.FleetCalendar
import CarRental.Lib.Runs
import Mathlib.Order.CompletePartialOrder
import Mathlib.Data.Int.ConditionallyCompleteOrder
import Mathlib.Order.Interval.Set.Disjoint

/-!
# No two bookings of a car overlap

`NoOverlap` is the exclusion that every path checks in its own way.  Creating a
booking and moving its status keep it.  Two paths can break it:

* an extension does not look at bookings that are being returned, and looks at the
  time from the end date it was quoted with, not from the booking's end date now;
* the reconciliation confirms a booking that was pending when it was read, even if it
  has been cancelled since and the car has been booked again.

`BreaksExclusion` says exactly when they do (`no_overlap_iff`).

## Strategy

The bookings are a table with a key; a step rewrites one row or adds one, and
`KeyedRows` reduces the exclusion to that row against the others.  What remains is
arithmetic on the dates.
-/

namespace CarRental

open KeyedRows Runs

/-- The times at which a booking needs its car. -/
def FleetBooking.period (booking : FleetBooking) : Set ℤ :=
  Set.Ico booking.startDate booking.endDate

/-- The booking occupies its car. -/
def FleetBooking.isActive (booking : FleetBooking) : Prop :=
  booking.status ∈ creationStatuses

/-- Two bookings can stand next to each other. -/
def Compatible (a b : FleetBooking) : Prop :=
  a.carId = b.carId → a.isActive → b.isActive → Disjoint a.period b.period

/-- No two active bookings of one car overlap. -/
def NoOverlap (s : Fleet) : Prop :=
  Exclusive FleetBooking.id Compatible s.bookings

instance (booking : FleetBooking) : Decidable booking.isActive :=
  inferInstanceAs (Decidable (_ ∈ _))

instance (a b : FleetBooking) : Decidable (Compatible a b) :=
  decidable_of_iff (a.carId = b.carId → a.isActive → b.isActive →
    min a.endDate b.endDate ≤ max a.startDate b.startDate) (by
      simp only [Compatible, FleetBooking.period, Set.Ico_disjoint_Ico])

instance (s : Fleet) : Decidable (NoOverlap s) :=
  inferInstanceAs (Decidable (Exclusive FleetBooking.id Compatible s.bookings))

theorem Compatible.symm {a b : FleetBooking} (h : Compatible a b) : Compatible b a :=
  fun hcar hb ha => (h hcar.symm ha hb).symm

theorem disjoint_period_iff {a b : FleetBooking} (ha : a.startDate < a.endDate)
    (hb : b.startDate < b.endDate) :
    Disjoint a.period b.period ↔ ¬ (b.startDate < a.endDate ∧ a.startDate < b.endDate) := by
  rw [FleetBooking.period, FleetBooking.period, Set.Ico_disjoint_Ico]
  omega

theorem overlaps_eq_true {booking : FleetBooking} {statuses : List BookingStatus} {carId : Id}
    {startDate endDate : ℤ} :
    booking.overlaps statuses carId startDate endDate = true ↔
      booking.carId = carId ∧ booking.status ∈ statuses ∧ booking.startDate < endDate ∧
        startDate < booking.endDate := by
  simp [FleetBooking.overlaps]

/-! ## What every run keeps -/

/-- The rows fit together: ids are unique, dates are ordered, an extension reaches from
a time after its booking's start to a later one, and what is in flight was legal. -/
structure Fleet.WellFormed (s : Fleet) : Prop where
  nodup : (s.bookings.map FleetBooking.id).Nodup
  ordered : ∀ booking ∈ s.bookings, booking.startDate < booking.endDate
  later : ∀ extension, extension ∈ s.extensions ∨ .extension extension ∈ s.inFlight →
    extension.currentEndDate < extension.requestedEndDate ∧
      ∃ booking ∈ s.bookings, booking.id = extension.bookingId ∧
        booking.startDate < extension.currentEndDate
  legal : ∀ bookingId previousStatus targetStatus,
    .transition bookingId previousStatus targetStatus ∈ s.inFlight →
      targetStatus ∈ lifecycleMatrix previousStatus

theorem active_of_mem_lifecycleMatrix {previousStatus targetStatus : BookingStatus}
    (h : targetStatus ∈ lifecycleMatrix previousStatus) (hactive : targetStatus ∈ creationStatuses) :
    previousStatus ∈ creationStatuses := by
  cases previousStatus <;> revert h hactive <;> cases targetStatus <;> decide

section Keeps

variable {s : Fleet}

theorem wellFormed_empty : Fleet.empty.WellFormed where
  nodup := List.nodup_nil
  ordered := fun _ h => nomatch h
  later := fun _ h => nomatch h
  legal := fun _ _ _ h => nomatch h

theorem noOverlap_empty : NoOverlap Fleet.empty := exclusive_nil

theorem Fleet.WellFormed.start (h : s.WellFormed) {operation : InFlight}
    (hextension : ∀ extension, operation = .extension extension → extension ∈ s.extensions)
    (htransition : ∀ bookingId previousStatus targetStatus,
      operation = .transition bookingId previousStatus targetStatus →
        targetStatus ∈ lifecycleMatrix previousStatus) : (s.start operation).WellFormed where
  nodup := h.nodup
  ordered := h.ordered
  later := by
    intro extension hmem
    refine h.later extension ?_
    rcases hmem with hmem | hmem
    · exact .inl hmem
    · rcases List.mem_append.mp hmem with hmem | hmem
      · exact .inr hmem
      · exact .inl (hextension extension (List.mem_singleton.mp hmem).symm)
  legal := by
    intro bookingId previousStatus targetStatus hmem
    rcases List.mem_append.mp hmem with hmem | hmem
    · exact h.legal _ _ _ hmem
    · exact htransition _ _ _ (List.mem_singleton.mp hmem).symm

theorem Fleet.WellFormed.erase (h : s.WellFormed) (operation : InFlight) :
    Fleet.WellFormed { s with inFlight := s.inFlight.erase operation } where
  nodup := h.nodup
  ordered := h.ordered
  later := fun extension hmem =>
    h.later extension (hmem.imp_right List.mem_of_mem_erase)
  legal := fun _ _ _ hmem => h.legal _ _ _ (List.mem_of_mem_erase hmem)

theorem Fleet.WellFormed.setBooking (h : s.WellFormed) {bookingId : Id}
    {f : FleetBooking → FleetBooking} (hid : ∀ booking, (f booking).id = booking.id)
    (hstart : ∀ booking, (f booking).startDate = booking.startDate)
    (hend : ∀ booking ∈ s.bookings, booking.id = bookingId →
      booking.startDate < (f booking).endDate) : (s.setBooking bookingId f).WellFormed where
  nodup := by
    rw [Fleet.setBooking, map_key_updateKey hid]
    exact h.nodup
  ordered := by
    intro booking hmem
    rcases mem_updateKey.mp hmem with ⟨row, hrow, hkey, rfl⟩ | ⟨hrow, -⟩
    · rw [hstart]
      exact hend row hrow hkey
    · exact h.ordered booking hrow
  later := by
    intro extension hmem
    obtain ⟨hlater, booking, hbooking, hkey, hbefore⟩ := h.later extension hmem
    refine ⟨hlater, ?_⟩
    by_cases hupdated : booking.id = bookingId
    · refine ⟨f booking, mem_updateKey.mpr (.inl ⟨booking, hbooking, hupdated, rfl⟩), ?_, ?_⟩
      · rw [hid, hkey]
      · rw [hstart]
        exact hbefore
    · exact ⟨booking, mem_updateKey.mpr (.inr ⟨hbooking, hupdated⟩), hkey, hbefore⟩
  legal := h.legal

theorem createBooking_wellFormed (h : s.WellFormed) (newId customerId carId : Id)
    (startDate endDate now : ℤ) (admitted : Bool) :
    (s.createBooking newId customerId carId startDate endDate now admitted).WellFormed := by
  unfold Fleet.createBooking
  split
  · exact h
  next hdates =>
    split
    · exact h
    split
    · exact h
    split
    · exact h
    next hnew =>
      have hfresh : newId ∉ s.bookings.map FleetBooking.id := by
        intro hmem
        obtain ⟨booking, hbooking, hid⟩ := List.mem_map.mp hmem
        refine hnew ?_
        rw [Fleet.findBooking, find?_eq_some_of_mem h.nodup hbooking hid]
        rfl
      constructor
      · exact nodup_map_concat h.nodup hfresh
      · intro booking hmem
        rcases List.mem_append.mp hmem with hmem | hmem
        · exact h.ordered booking hmem
        · rw [List.mem_singleton.mp hmem]
          show startDate < endDate
          omega
      · intro extension hmem
        obtain ⟨hlater, booking, hbooking, hrest⟩ := h.later extension hmem
        exact ⟨hlater, booking, List.mem_append_left _ hbooking, hrest⟩
      · exact h.legal

theorem startTransition_wellFormed (h : s.WellFormed) (bookingId : Id)
    (targetStatus : BookingStatus) (admitted : Bool) :
    (startTransition s bookingId targetStatus admitted).WellFormed := by
  rcases startTransition_cases s bookingId targetStatus admitted with heq | ⟨_, hlegal, heq⟩
  · rw [heq]
    exact h
  · rw [heq]
    refine h.start (fun _ hother => InFlight.noConfusion hother) ?_
    rintro _ _ _ hsame
    cases hsame
    exact hlegal

theorem createExtension_wellFormed (h : s.WellFormed) (newId bookingId customerId : Id)
    (requestedEndDate : ℤ) (admitted : Bool) :
    (createExtension s newId bookingId customerId requestedEndDate admitted).WellFormed := by
  rcases createExtension_cases s newId bookingId customerId requestedEndDate admitted with
    heq | ⟨booking, hbooking, hid, hlater, heq⟩
  · rw [heq]
    exact h
  · rw [heq]
    refine ⟨h.nodup, h.ordered, ?_, h.legal⟩
    intro extension hmem
    rcases hmem with hmem | hmem
    · rcases List.mem_append.mp hmem with hmem | hmem
      · exact h.later extension (.inl hmem)
      · -- the new row is quoted with the booking's own end date
        rw [List.mem_singleton.mp hmem]
        exact ⟨hlater, booking, hbooking, hid, h.ordered booking hbooking⟩
    · exact h.later extension (.inr hmem)

theorem startVerifyExtension_wellFormed (h : s.WellFormed) (bookingId extensionId customerId : Id)
    (admitted : Bool) :
    (startVerifyExtension s bookingId extensionId customerId admitted).WellFormed := by
  rcases startVerifyExtension_cases s bookingId extensionId customerId admitted with
    heq | ⟨extension, hextension, heq⟩
  · rw [heq]
    exact h
  · rw [heq]
    refine h.start ?_ (fun _ _ _ hother => InFlight.noConfusion hother)
    rintro _ hsame
    cases hsame
    exact hextension

theorem startConfirmation_wellFormed (h : s.WellFormed) (bookingId : Id) (admitted : Bool) :
    (startConfirmation s bookingId admitted).WellFormed := by
  rcases startConfirmation_cases s bookingId admitted with heq | heq
  · rw [heq]
    exact h
  · rw [heq]
    exact h.start (fun _ hother => InFlight.noConfusion hother)
      (fun _ _ _ hother => InFlight.noConfusion hother)

theorem setStatus_wellFormed (h : s.WellFormed) (bookingId : Id) (status : BookingStatus) :
    (s.setBooking bookingId fun booking => { booking with status }).WellFormed :=
  h.setBooking (fun _ => rfl) (fun _ => rfl) fun booking hmem _ => h.ordered booking hmem

theorem commitExtension_wellFormed (h : s.WellFormed) {extension : TripExtension}
    (hlater : extension.currentEndDate < extension.requestedEndDate)
    (hbefore : ∃ booking ∈ s.bookings, booking.id = extension.bookingId ∧
      booking.startDate < extension.currentEndDate) : (commitExtension s extension).WellFormed := by
  unfold commitExtension
  split
  · exact h
  split
  · exact h
  have hconfirmed : Fleet.WellFormed { s with
      extensions := updateKey TripExtension.id extension.id
        (fun extension => { extension with status := .confirmed }) s.extensions } := by
    refine ⟨h.nodup, h.ordered, ?_, h.legal⟩
    intro other hmem
    rcases hmem with hmem | hmem
    · rcases mem_updateKey.mp hmem with ⟨row, hrow, -, rfl⟩ | ⟨hrow, -⟩
      · exact h.later row (.inl hrow)
      · exact h.later other (.inl hrow)
    · exact h.later other (.inr hmem)
  refine hconfirmed.setBooking (fun _ => rfl) (fun _ => rfl) ?_
  intro booking hmem hid
  obtain ⟨row, hrow, hrowId, hstart⟩ := hbefore
  rw [eq_of_key_eq h.nodup hmem hrow (hid.trans hrowId.symm)]
  exact hstart.trans hlater

theorem wellFormed_fleetStep (h : s.WellFormed) (action : FleetAction) :
    (fleetStep s action).WellFormed := by
  cases action with
  | createBooking newId customerId carId startDate endDate now admitted =>
    exact createBooking_wellFormed h newId customerId carId startDate endDate now admitted
  | startTransition bookingId targetStatus admitted =>
    exact startTransition_wellFormed h bookingId targetStatus admitted
  | createExtension newId bookingId customerId requestedEndDate admitted =>
    exact createExtension_wellFormed h newId bookingId customerId requestedEndDate admitted
  | startVerifyExtension bookingId extensionId customerId admitted =>
    exact startVerifyExtension_wellFormed h bookingId extensionId customerId admitted
  | startConfirmation bookingId admitted => exact startConfirmation_wellFormed h bookingId admitted
  | commit operation =>
    simp only [fleetStep]
    split
    next hmem =>
      have herased := h.erase operation
      cases operation with
      | transition bookingId previousStatus targetStatus =>
        simp only [commitOperation, commitTransition]
        split
        · exact herased
        split
        · exact setStatus_wellFormed herased bookingId targetStatus
        · exact herased
      | extension extension =>
        obtain ⟨hlater, hbefore⟩ := h.later extension (.inr hmem)
        exact commitExtension_wellFormed herased hlater hbefore
      | confirmation bookingId => exact setStatus_wellFormed herased bookingId .confirmed
    · exact h

end Keeps

/-! ## What a step does to the exclusion -/

/-- The two ways to break the exclusion.  An extension is committed past a booking that
is being returned, or past one in the gap between the booking's end date and the end
date it was quoted with; or the reconciliation revives a booking that no longer
occupies its car, over one that does. -/
def BreaksExclusion (s : Fleet) : FleetAction → Prop
  | .commit (.extension extension) =>
    .extension extension ∈ s.inFlight ∧
      ∃ booking ∈ s.bookings, booking.id = extension.bookingId ∧ booking.isActive ∧
        extensionCollides s extension booking.carId = false ∧
        ∃ other ∈ s.bookings, other.id ≠ extension.bookingId ∧
          (other.overlaps [.returnPending] booking.carId extension.currentEndDate
              extension.requestedEndDate = true ∨
            other.overlaps creationStatuses booking.carId booking.endDate
              extension.currentEndDate = true)
  | .commit (.confirmation bookingId) =>
    .confirmation bookingId ∈ s.inFlight ∧
      ∃ booking ∈ s.bookings, booking.id = bookingId ∧ ¬ booking.isActive ∧
        ∃ other ∈ s.bookings, other.id ≠ bookingId ∧
          other.overlaps creationStatuses booking.carId booking.startDate booking.endDate = true
  | _ => False

instance (s : Fleet) (action : FleetAction) : Decidable (BreaksExclusion s action) := by
  unfold BreaksExclusion
  cases action with
  | commit operation => cases operation <;> infer_instance
  | _ => infer_instance

section Step

variable {s : Fleet}

theorem noOverlap_setBooking (hno : NoOverlap s) (bookingId : Id)
    (f : FleetBooking → FleetBooking) (hid : ∀ booking, (f booking).id = booking.id) :
    NoOverlap (s.setBooking bookingId f) ↔
      ∀ booking ∈ s.bookings, booking.id = bookingId → ∀ other ∈ s.bookings,
        other.id ≠ bookingId → Compatible (f booking) other :=
  exclusive_updateKey (fun _ _ => Compatible.symm) hid hno

theorem Compatible.setStatus {a b : FleetBooking} {status : BookingStatus} (h : Compatible a b)
    (hactive : status ∈ creationStatuses → a.isActive) :
    Compatible { a with status } b :=
  fun hcar ha hb => h hcar (hactive ha) hb

theorem createBooking_noOverlap (h : s.WellFormed) (hno : NoOverlap s) (newId customerId carId : Id)
    (startDate endDate now : ℤ) (admitted : Bool) :
    NoOverlap (s.createBooking newId customerId carId startDate endDate now admitted) := by
  unfold Fleet.createBooking
  split
  · exact hno
  next hdates =>
    split
    · exact hno
    split
    · exact hno
    next hfree =>
      split
      · exact hno
      refine (exclusive_concat fun _ _ => Compatible.symm).mpr ⟨hno, ?_⟩
      intro other hother _ hcar _ hactive
      have hordered : startDate < endDate := by omega
      rw [disjoint_period_iff hordered (h.ordered other hother)]
      rintro ⟨hbefore, hafter⟩
      exact hfree (List.any_eq_true.mpr ⟨other, hother,
        overlaps_eq_true.mpr ⟨hcar.symm, hactive, hbefore, hafter⟩⟩)

theorem commitTransition_noOverlap (h : s.WellFormed) (hno : NoOverlap s) {bookingId : Id}
    {previousStatus targetStatus : BookingStatus}
    (hlegal : targetStatus ∈ lifecycleMatrix previousStatus) :
    NoOverlap (commitTransition s bookingId previousStatus targetStatus) := by
  unfold commitTransition
  split
  · exact hno
  next booking hfind =>
    split
    next hstatus =>
      obtain ⟨hbooking, hid⟩ := mem_of_findBooking hfind
      refine (noOverlap_setBooking hno _ _ ?_).mpr ?_
      · exact fun _ => rfl
      intro row hrow hrowId other hother hne
      have hsame : row = booking := eq_of_key_eq h.nodup hrow hbooking (hrowId.trans hid.symm)
      subst hsame
      refine (hno row hrow other hother fun heq => hne (heq.symm.trans hrowId)).setStatus ?_
      intro hactive
      show row.status ∈ creationStatuses
      rw [hstatus]
      exact active_of_mem_lifecycleMatrix hlegal hactive
    · exact hno

theorem commitConfirmation_noOverlap (h : s.WellFormed) (hno : NoOverlap s) (bookingId : Id) :
    NoOverlap (commitConfirmation s bookingId) ↔
      ¬ ∃ booking ∈ s.bookings, booking.id = bookingId ∧ ¬ booking.isActive ∧
        ∃ other ∈ s.bookings, other.id ≠ bookingId ∧
          other.overlaps creationStatuses booking.carId booking.startDate booking.endDate = true := by
  unfold commitConfirmation
  refine (noOverlap_setBooking hno _ _ ?_).trans ?_
  · exact fun _ => rfl
  constructor
  · rintro hcompatible ⟨booking, hbooking, hid, -, other, hother, hne, hoverlaps⟩
    obtain ⟨hcar, hactive, hbefore, hafter⟩ := overlaps_eq_true.mp hoverlaps
    have hdisjoint := hcompatible booking hbooking hid other hother hne hcar.symm
      (show BookingStatus.confirmed ∈ creationStatuses by decide) hactive
    exact (disjoint_period_iff (h.ordered booking hbooking) (h.ordered other hother)).mp hdisjoint
      ⟨hbefore, hafter⟩
  · intro hnone booking hbooking hid other hother hne
    by_cases hactive : booking.isActive
    · exact (hno booking hbooking other hother fun heq => hne (heq.symm.trans hid)).setStatus
        fun _ => hactive
    · intro hcar _ hother'
      refine (disjoint_period_iff (h.ordered booking hbooking) (h.ordered other hother)).mpr ?_
      rintro ⟨hbefore, hafter⟩
      exact hnone ⟨booking, hbooking, hid, hactive, other, hother, hne,
        overlaps_eq_true.mpr ⟨hcar.symm, hother', hbefore, hafter⟩⟩

theorem meets_extension_iff {booking other : FleetBooking} {extension : TripExtension}
    (hstart : booking.startDate < extension.currentEndDate)
    (hlater : extension.currentEndDate < extension.requestedEndDate)
    (hother : other.startDate < other.endDate) (hcar : other.carId = booking.carId)
    (hapart : ¬ (other.startDate < booking.endDate ∧ booking.startDate < other.endDate))
    (hordered : booking.startDate < booking.endDate) (hactive : other.isActive)
    (hunseen : other.overlaps extensionStatuses booking.carId extension.currentEndDate
      extension.requestedEndDate = false) :
    (other.startDate < extension.requestedEndDate ∧ booking.startDate < other.endDate) ↔
      other.overlaps [.returnPending] booking.carId extension.currentEndDate
          extension.requestedEndDate = true ∨
        other.overlaps creationStatuses booking.carId booking.endDate
          extension.currentEndDate = true := by
  rw [overlaps_eq_true, overlaps_eq_true]
  -- every active status but `returnPending` is one the check looks at
  have hchecked : other.status ≠ .returnPending → ¬ (other.startDate < extension.requestedEndDate ∧
      extension.currentEndDate < other.endDate) := by
    intro hstatus hmeets
    have hseen : other.status ∈ extensionStatuses := by
      revert hstatus hactive
      show other.status ∈ creationStatuses → _
      cases other.status <;> decide
    have htrue := overlaps_eq_true.mpr ⟨hcar, hseen, hmeets⟩
    rw [hunseen] at htrue
    cases htrue
  simp only [hcar, true_and, List.mem_singleton]
  have hstatus : other.status ∈ creationStatuses := hactive
  by_cases hreturn : other.status = .returnPending
  · simp only [hreturn, true_and, show BookingStatus.returnPending ∈ creationStatuses by decide]
    omega
  · have hchecked := hchecked hreturn
    simp only [hreturn, false_and, false_or, hstatus, true_and]
    omega

theorem commitExtension_noOverlap (h : s.WellFormed) (hno : NoOverlap s) {extension : TripExtension}
    (hlater : extension.currentEndDate < extension.requestedEndDate)
    (hbefore : ∃ booking ∈ s.bookings, booking.id = extension.bookingId ∧
      booking.startDate < extension.currentEndDate) :
    NoOverlap (commitExtension s extension) ↔
      ¬ ∃ booking ∈ s.bookings, booking.id = extension.bookingId ∧ booking.isActive ∧
        extensionCollides s extension booking.carId = false ∧
        ∃ other ∈ s.bookings, other.id ≠ extension.bookingId ∧
          (other.overlaps [.returnPending] booking.carId extension.currentEndDate
              extension.requestedEndDate = true ∨
            other.overlaps creationStatuses booking.carId booking.endDate
              extension.currentEndDate = true) := by
  obtain ⟨booking, hbooking, hid, hstart⟩ := hbefore
  have hunique : ∀ row ∈ s.bookings, row.id = extension.bookingId → row = booking :=
    fun row hrow hrowId => eq_of_key_eq h.nodup hrow hbooking (hrowId.trans hid.symm)
  have hfind : s.findBooking extension.bookingId = some booking :=
    find?_eq_some_of_mem h.nodup hbooking hid
  unfold commitExtension
  simp only [hfind]
  cases hcollides : extensionCollides s extension booking.carId with
  | true =>
    rw [if_pos rfl]
    refine iff_of_true hno ?_
    rintro ⟨row, hrow, hrowId, -, hfree, -⟩
    rw [hunique row hrow hrowId, hcollides] at hfree
    cases hfree
  | false =>
    rw [if_neg Bool.false_ne_true]
    -- no other booking meets the added days in a status that the check looks for
    have hunseen : ∀ other ∈ s.bookings, other.id ≠ extension.bookingId →
        other.overlaps extensionStatuses booking.carId extension.currentEndDate
          extension.requestedEndDate = false := by
      intro other hother hne
      rw [extensionCollides, List.any_eq_false] at hcollides
      simpa [hne] using hcollides other hother
    have hordered := h.ordered booking hbooking
    refine (noOverlap_setBooking (s := { s with extensions := _ }) hno _ _ ?_).trans ?_
    · exact fun _ => rfl
    constructor
    · -- a booking that the check misses meets the extended period
      rintro hcompatible ⟨row, hrow, hrowId, hactive, -, other, hother, hne, hblind⟩
      rw [hunique row hrow hrowId] at hactive hblind
      have hcar : other.carId = booking.carId := by
        rcases hblind with hblind | hblind
        · exact (overlaps_eq_true.mp hblind).1
        · exact (overlaps_eq_true.mp hblind).1
      have hother' : other.isActive := by
        rcases hblind with hblind | hblind
        · have hstatus := List.mem_singleton.mp (overlaps_eq_true.mp hblind).2.1
          show other.status ∈ creationStatuses
          rw [hstatus]
          decide
        · exact (overlaps_eq_true.mp hblind).2.1
      have hapart := (disjoint_period_iff hordered (h.ordered other hother)).mp
        (hno booking hbooking other hother (fun heq => hne (heq.symm.trans hid)) hcar.symm hactive
          hother')
      have hmeets := (meets_extension_iff hstart hlater (h.ordered other hother) hcar hapart
        hordered hother' (hunseen other hother hne)).mpr hblind
      have hdisjoint := hcompatible booking hbooking hid other hother hne hcar.symm hactive hother'
      exact (disjoint_period_iff (a := { booking with endDate := extension.requestedEndDate })
        (hstart.trans hlater) (h.ordered other hother)).mp hdisjoint hmeets
    · -- and a booking that meets it is one that the check misses
      intro hnone row hrow hrowId other hother hne hcar hactive hother'
      rw [hunique row hrow hrowId] at hcar hactive ⊢
      have hapart := (disjoint_period_iff hordered (h.ordered other hother)).mp
        (hno booking hbooking other hother (fun heq => hne (heq.symm.trans hid)) hcar hactive
          hother')
      refine (disjoint_period_iff (a := { booking with endDate := extension.requestedEndDate })
        (hstart.trans hlater) (h.ordered other hother)).mpr ?_
      intro hmeets
      have hblind := (meets_extension_iff hstart hlater (h.ordered other hother) hcar.symm hapart
        hordered hother' (hunseen other hother hne)).mp hmeets
      exact hnone ⟨booking, hbooking, hid, hactive, hcollides, other, hother, hne, hblind⟩

theorem noOverlap_fleetStep (h : s.WellFormed) (hno : NoOverlap s) (action : FleetAction) :
    NoOverlap (fleetStep s action) ↔ ¬ BreaksExclusion s action := by
  cases action with
  | createBooking newId customerId carId startDate endDate now admitted =>
    exact iff_of_true (createBooking_noOverlap h hno _ _ _ _ _ _ _) id
  -- what only starts an operation leaves the bookings as they are
  | startTransition bookingId targetStatus admitted =>
    refine iff_of_true ?_ id
    rw [fleetStep]
    rcases startTransition_cases s bookingId targetStatus admitted with heq | ⟨_, _, heq⟩
    · rw [heq]
      exact hno
    · rw [heq]
      exact hno
  | createExtension newId bookingId customerId requestedEndDate admitted =>
    refine iff_of_true ?_ id
    rw [fleetStep]
    rcases createExtension_cases s newId bookingId customerId requestedEndDate admitted with
      heq | ⟨_, _, _, _, heq⟩
    · rw [heq]
      exact hno
    · rw [heq]
      exact hno
  | startVerifyExtension bookingId extensionId customerId admitted =>
    refine iff_of_true ?_ id
    rw [fleetStep]
    rcases startVerifyExtension_cases s bookingId extensionId customerId admitted with
      heq | ⟨_, _, heq⟩
    · rw [heq]
      exact hno
    · rw [heq]
      exact hno
  | startConfirmation bookingId admitted =>
    refine iff_of_true ?_ id
    rw [fleetStep]
    rcases startConfirmation_cases s bookingId admitted with heq | heq
    · rw [heq]
      exact hno
    · rw [heq]
      exact hno
  | commit operation =>
    -- an operation that is not in flight has no transaction to run
    simp only [fleetStep]
    by_cases hmem : operation ∈ s.inFlight
    case neg =>
      rw [if_neg hmem]
      refine iff_of_true hno ?_
      cases operation with
      | transition bookingId previousStatus targetStatus => exact id
      | extension extension => exact fun hbreaks => hmem hbreaks.1
      | confirmation bookingId => exact fun hbreaks => hmem hbreaks.1
    rw [if_pos hmem]
    have herased := h.erase operation
    cases operation with
    | transition bookingId previousStatus targetStatus =>
      exact iff_of_true (commitTransition_noOverlap herased hno (h.legal _ _ _ hmem)) id
    | extension extension =>
      obtain ⟨hlater, hbefore⟩ := h.later extension (.inr hmem)
      refine (commitExtension_noOverlap herased hno hlater hbefore).trans (not_congr ?_)
      exact (and_iff_right hmem).symm
    | confirmation bookingId =>
      refine (commitConfirmation_noOverlap herased hno bookingId).trans (not_congr ?_)
      exact (and_iff_right hmem).symm

end Step

/-- **When the fleet is never double-booked.**  Over any interleaving of creations,
transitions, extensions and reconciliations, no two active bookings of a car overlap
in any state exactly when no step is one of those that break the exclusion. -/
theorem no_overlap_iff {s : Fleet} (actions : List FleetAction) (h : s.WellFormed)
    (hstart : NoOverlap s) :
    Everywhere fleetStep NoOverlap s actions ↔
      Along fleetStep (fun s action => ¬ BreaksExclusion s action) s actions :=
  everywhere_iff_along_of_invariant (I := Fleet.WellFormed)
    (fun _ action hwf => wellFormed_fleetStep hwf action)
    (fun _ action _ hwf hno => noOverlap_fleetStep hwf hno action) h hstart

/-- A trip, its extension, and the next customer from where it now ends. -/
theorem no_overlap_extended_trip :
    Everywhere fleetStep NoOverlap Fleet.empty [
      .createBooking "b1" "c1" "car" 10 20 0 true,
      .startTransition "b1" .confirmed true,
      .commit (.transition "b1" .pending .confirmed),
      .startTransition "b1" .ongoing true,
      .commit (.transition "b1" .confirmed .ongoing),
      .createExtension "x1" "b1" "c1" 30 true,
      .startVerifyExtension "b1" "x1" "c1" true,
      .commit (.extension ⟨"x1", "b1", 20, 30, .pendingPayment⟩),
      .createBooking "b2" "c2" "car" 30 40 0 true] :=
  (no_overlap_iff _ wellFormed_empty noOverlap_empty).mpr (by decide +kernel)

/-- A pending booking is read by the reconciliation, cancelled, and its car booked by
another customer; then the reconciliation confirms it. -/
theorem reconciliation_double_books :
    ¬ Everywhere fleetStep NoOverlap Fleet.empty [
      .createBooking "b1" "c1" "car" 10 20 0 true,
      .startConfirmation "b1" true,
      .startTransition "b1" .cancelled true,
      .commit (.transition "b1" .pending .cancelled),
      .createBooking "b2" "c2" "car" 10 20 0 true,
      .commit (.confirmation "b1")] := by
  decide +kernel

end CarRental
