import CarRental.Cars.VehicleAvailability
import CarRental.Lib.CheckedWrites
import CarRental.Lib.Runs
import CarRental.Redis.BookingLock

/-!
# The holds of a vehicle

The operations on `VehicleHold` rows: `createHold`, `releaseHold`, `expireHold`,
`convertHoldToBooking`, and the sweep over stale holds of `RentalAutomationService`.

A creation is two steps, the availability check under the booking lock and the insert; in
between the clock may run past the lock.  A sweep is a read and then one write for each hold
it has read.  Other services may change the cars, closures, bookings and blocks at any time.

Two laws are wanted: live holds of different customers never meet on a car (`HoldsApart`), and
a hold that has left `ACTIVE` keeps its status (`KeepsSettled`).  The release and the sweep
write by id, whatever the status has become, and the insert does not look again.
`holds_law_iff` says which runs keep both laws nevertheless.
-/

namespace CarRental

open KeyedRows Runs CheckedWrites

/-! ## The desk -/

/-- A creation between its availability check and its insert, with the number of holds that
there were at the check. -/
structure PendingHold where
  carId : Id
  customerId : Id
  vendorId : Id
  startDate : ℤ
  endDate : ℤ
  ttlSeconds : ℤ
  idempotencyKey : Option String
  token : String
  seen : ℕ
deriving DecidableEq

structure HoldDesk where
  db : VehicleDb
  now : ℤ
  locks : List CarLock
  pending : List PendingHold
  /-- The holds that sweeps have read and not written yet. -/
  stale : List Id

namespace HoldDesk

def withHolds (desk : HoldDesk) (holds : List VehicleHold) : HoldDesk :=
  { desk with db := { desk.db with holds } }

def setStatus (desk : HoldDesk) (p : VehicleHold → Bool) (status : VehicleHoldStatus) : HoldDesk :=
  desk.withHolds (desk.db.holds.map fun hold => if p hold then { hold with status } else hold)

end HoldDesk

/-! ## The operations -/

/-- The hold that a repeated request gets back. -/
def existingHold (desk : HoldDesk) (idempotencyKey : Option String) : Option VehicleHold :=
  match idempotencyKey with
  | none => none
  | some key =>
    match desk.db.holds.find? fun hold => hold.idempotencyKey = some key with
    | none => none
    | some existing => if existing.live desk.now then some existing else none

/-- `createHold` up to its insert. -/
def startHold (calendar : ServerCalendar) (desk : HoldDesk) (carId customerId : Id)
    (startDate endDate ttlSeconds : ℤ) (idempotencyKey : Option String) (token : String) :
    HoldDesk × Except HttpError (Option VehicleHold) :=
  if startDate ≥ endDate then (desk, .error (.badRequest "Start date must be before end date."))
  else
    match existingHold desk idempotencyKey with
    | some existing => (desk, .ok (some existing))
    | none =>
      match acquireLock desk.locks carId token desk.now with
      | .error e => (desk, .error e)
      | .ok locks =>
        let released := { desk with locks := releaseLock locks carId token }
        match checkAvailability calendar desk.db carId startDate endDate
            ⟨none, some customerId, none⟩ desk.now with
        | .error e => (released, .error e)
        | .ok report =>
          if !report.available then
            (released, .error (.conflict (orText report.reason
              "Vehicle is not available for hold during requested dates.")))
          else
            match desk.db.findCar carId with
            | none => (released, .error (.notFound "Vehicle not found."))
            | some car =>
              let request : PendingHold := ⟨carId, customerId, car.vendorId, startDate,
                endDate, ttlSeconds, idempotencyKey, token, desk.db.holds.length⟩
              ({ desk with locks, pending := request :: desk.pending }, .ok none)

/-- The row that a creation inserts. -/
def PendingHold.row (request : PendingHold) (newId : Id) (now : ℤ) : VehicleHold where
  id := newId
  carId := request.carId
  customerId := request.customerId
  vendorId := request.vendorId
  startDate := request.startDate
  endDate := request.endDate
  expiresAt := now + request.ttlSeconds * 1000
  status := .active
  idempotencyKey := request.idempotencyKey

/-- The unique columns of the new row are free. -/
def insertable (holds : List VehicleHold) (request : PendingHold) (newId : Id) : Bool :=
  newId ∉ holds.map VehicleHold.id &&
    (request.idempotencyKey = none ||
      request.idempotencyKey ∉ holds.map VehicleHold.idempotencyKey)

/-- The insert of `createHold`, and the release of its lock. -/
def finishHold (desk : HoldDesk) (request : PendingHold) (newId : Id) :
    HoldDesk × Except HttpError VehicleHold :=
  let released := { desk with
    pending := desk.pending.erase request
    locks := releaseLock desk.locks request.carId request.token }
  if insertable desk.db.holds request newId then
    let hold := request.row newId desk.now
    (released.withHolds (desk.db.holds ++ [hold]), .ok hold)
  else (released, .error (.internal "Unique constraint failed"))

def mayRelease (hold : VehicleHold) (customerId : Option Id) : Bool :=
  customerId = none || customerId = some hold.customerId

def releaseHold (desk : HoldDesk) (holdId : Id) (customerId : Option Id) :
    HoldDesk × Except HttpError Bool :=
  match desk.db.holds.find? fun hold => hold.id = holdId with
  | none => (desk, .ok false)
  | some hold =>
    if !mayRelease hold customerId then
      (desk, .error (.forbidden "You can only release your own vehicle holds."))
    else (desk.setStatus (fun hold => hold.id = holdId) .released, .ok true)

def expireHold (desk : HoldDesk) (holdId : Id) : HoldDesk :=
  desk.setStatus (fun hold => hold.id = holdId && hold.status = .active) .expired

def convertHoldToBooking (desk : HoldDesk) (carId customerId : Id) : HoldDesk :=
  desk.setStatus (fun hold => hold.carId = carId && hold.customerId = customerId &&
    hold.status = .active) .converted

/-- What the sweep looks for. -/
def VehicleHold.isStale (hold : VehicleHold) (now : ℤ) : Bool :=
  hold.status = .active && hold.expiresAt < now

/-- The read of `expireStaleVehicleHolds`: at most a hundred stale holds, in the order in which
the database returns them. -/
def startSweep (desk : HoldDesk) (batch : List Id) : HoldDesk :=
  if batch.length ≤ 100 ∧ batch.Nodup ∧
      ∀ id ∈ batch, ∃ hold ∈ desk.db.holds, hold.id = id ∧ hold.isStale desk.now = true then
    { desk with stale := desk.stale ++ batch }
  else desk

/-- A write of `expireStaleVehicleHolds`. -/
def sweepHold (desk : HoldDesk) (holdId : Id) : HoldDesk :=
  { desk with stale := desk.stale.erase holdId }.setStatus (fun hold => hold.id = holdId) .expired

/-! ## Steps -/

inductive HoldAction where
  | startHold (carId customerId : Id) (startDate endDate ttlSeconds : ℤ)
      (idempotencyKey : Option String) (token : String)
  | finishHold (request : PendingHold) (newId : Id)
  | releaseHold (holdId : Id) (customerId : Option Id)
  | expireHold (holdId : Id)
  | convertHold (carId customerId : Id)
  | startSweep (batch : List Id)
  | sweepHold (holdId : Id)
  | advance (milliseconds : ℕ)
  /-- What other services do to the other tables. -/
  | elsewhere (cars : List Car) (exceptions : List LocationException)
      (bookings : List FleetBooking) (blocks : List VehicleBlock)

def holdStep (calendar : ServerCalendar) (desk : HoldDesk) : HoldAction → HoldDesk
  | .startHold carId customerId startDate endDate ttlSeconds idempotencyKey token =>
    (startHold calendar desk carId customerId startDate endDate ttlSeconds idempotencyKey token).1
  | .finishHold request newId =>
    if request ∈ desk.pending then (finishHold desk request newId).1 else desk
  | .releaseHold holdId customerId => (releaseHold desk holdId customerId).1
  | .expireHold holdId => expireHold desk holdId
  | .convertHold carId customerId => convertHoldToBooking desk carId customerId
  | .startSweep batch => startSweep desk batch
  | .sweepHold holdId => if holdId ∈ desk.stale then sweepHold desk holdId else desk
  | .advance milliseconds => { desk with now := desk.now + milliseconds }
  | .elsewhere cars exceptions bookings blocks =>
    { desk with db := { desk.db with cars, exceptions, bookings, blocks } }

/-! ## The laws -/

/-- Two live holds of different customers that meet on a car. -/
def Clash (now : ℤ) (hold other : VehicleHold) : Prop :=
  hold.live now = true ∧ other.live now = true ∧ hold.carId = other.carId ∧
    hold.customerId ≠ other.customerId ∧
    meets hold.startDate hold.endDate other.startDate other.endDate = true

instance (now : ℤ) (hold other : VehicleHold) : Decidable (Clash now hold other) :=
  inferInstanceAs (Decidable (_ ∧ _ ∧ _ ∧ _ ∧ _))

def HoldsApart (desk : HoldDesk) : Prop :=
  ∀ hold ∈ desk.db.holds, ∀ other ∈ desk.db.holds, ¬ Clash desk.now hold other

instance (desk : HoldDesk) : Decidable (HoldsApart desk) :=
  inferInstanceAs (Decidable (∀ hold ∈ desk.db.holds, ∀ other ∈ desk.db.holds, _))

/-- A hold that has left `ACTIVE` keeps its status in the step. -/
def KeepsSettled (calendar : ServerCalendar) (desk : HoldDesk) (action : HoldAction) : Prop :=
  ∀ hold ∈ desk.db.holds, hold.status ≠ .active →
    ∀ later ∈ (holdStep calendar desk action).db.holds, later.id = hold.id →
      later.status = hold.status

instance (calendar : ServerCalendar) (desk : HoldDesk) (action : HoldAction) :
    Decidable (KeepsSettled calendar desk action) :=
  inferInstanceAs (Decidable (∀ hold ∈ desk.db.holds, _ → ∀ later ∈ HoldDesk.db _ |>.holds, _))

/-- A creation inserts its hold while no hold created since its check clashes with it, a
release meets a hold that is active or released already, and a write of the sweep one that is
active or expired already. -/
def HoldsInOrder (desk : HoldDesk) : HoldAction → Prop
  | .finishHold request newId =>
    request ∈ desk.pending → insertable desk.db.holds request newId = true →
      ∀ hold ∈ desk.db.holds.drop request.seen, ¬ Clash desk.now hold (request.row newId desk.now)
  | .releaseHold holdId customerId =>
    ∀ hold ∈ desk.db.holds, hold.id = holdId → mayRelease hold customerId = true →
      hold.status = .active ∨ hold.status = .released
  | .sweepHold holdId =>
    holdId ∈ desk.stale → ∀ hold ∈ desk.db.holds, hold.id = holdId →
      hold.status = .active ∨ hold.status = .expired
  | _ => True

instance (desk : HoldDesk) (action : HoldAction) : Decidable (HoldsInOrder desk action) :=
  match action with
  | .finishHold request _ =>
    inferInstanceAs (Decidable (request ∈ desk.pending → _ = true →
      ∀ hold ∈ desk.db.holds.drop request.seen, _))
  | .releaseHold holdId _ =>
    inferInstanceAs (Decidable (∀ hold ∈ desk.db.holds, hold.id = holdId → _ = true → _ ∨ _))
  | .sweepHold holdId =>
    inferInstanceAs (Decidable (holdId ∈ desk.stale → ∀ hold ∈ desk.db.holds, _ → _ ∨ _))
  | .startHold _ _ _ _ _ _ _ | .expireHold _ | .convertHold _ _ | .startSweep _ | .advance _
  | .elsewhere _ _ _ _ => .isTrue trivial

/-! ## What holds in every state -/

/-- The hold does not bind the request. -/
def Spares (now : ℤ) (hold : VehicleHold) (request : PendingHold) : Prop :=
  hold.live now = true → hold.carId = request.carId → hold.customerId ≠ request.customerId →
    meets request.startDate request.endDate hold.startDate hold.endDate = false

/-- Ids are unique, and no hold that was there at the check of a creation binds it. -/
structure SoundHolds (desk : HoldDesk) : Prop where
  ids : (desk.db.holds.map VehicleHold.id).Nodup
  checked : ∀ request ∈ desk.pending,
    Checked (Spares desk.now) desk.db.holds request.seen request

theorem meets_comm (startDate endDate otherStart otherEnd : ℤ) :
    meets startDate endDate otherStart otherEnd = meets otherStart otherEnd startDate endDate :=
  decide_eq_decide.mpr and_comm

theorem Clash.symm {now : ℤ} {hold other : VehicleHold} (h : Clash now hold other) :
    Clash now other hold := by
  obtain ⟨hlive, hlive', hcar, hcustomer, hmeets⟩ := h
  exact ⟨hlive', hlive, hcar.symm, hcustomer.symm, meets_comm .. ▸ hmeets⟩

theorem Spares.not_clash {now : ℤ} {hold : VehicleHold} {request : PendingHold}
    (h : Spares now hold request) (newId : Id) : ¬ Clash now hold (request.row newId now) := by
  rintro ⟨hlive, -, hcar, hcustomer, hmeets⟩
  rw [meets_comm] at hmeets
  cases (h hlive hcar hcustomer).symm.trans hmeets

theorem live_mono {hold : VehicleHold} {now later : ℤ} (h : hold.live later = true)
    (hle : now ≤ later) : hold.live now = true := by
  simp only [VehicleHold.live, decide_eq_true_eq] at h ⊢
  exact ⟨h.1, lt_of_le_of_lt hle h.2⟩

section Laws

variable {calendar : ServerCalendar} {desk : HoldDesk}

def Available (calendar : ServerCalendar) (db : VehicleDb) (request : PendingHold) (now : ℤ) : Prop :=
  ReportsAvailable (checkAvailability calendar db request.carId request.startDate request.endDate
    ⟨none, some request.customerId, none⟩ now)

theorem Available.spares {request : PendingHold}
    (h : Available calendar desk.db request desk.now) :
    ∀ hold ∈ desk.db.holds, Spares desk.now hold request := by
  obtain ⟨-, car, hfind, -, hclear⟩ := reportsAvailable_iff.mp h
  obtain ⟨-, -, -, hholds, -⟩ := conflictsOf_eq_nil.mp hclear
  rw [findCar_id hfind] at hholds
  intro hold hhold hlive hsame hother
  have hnot := List.filter_eq_nil_iff.mp hholds hold hhold
  by_contra hmeets
  rw [Bool.not_eq_false] at hmeets
  refine hnot (decide_eq_true ⟨decide_eq_true ⟨hsame, hlive, hmeets⟩, fun heq => ?_⟩)
  exact hother (Option.some.inj heq)

theorem startHold_cases (calendar : ServerCalendar) (desk : HoldDesk) (carId customerId : Id)
    (startDate endDate ttlSeconds : ℤ) (idempotencyKey : Option String) (token : String) :
    let desk' := (startHold calendar desk carId customerId startDate endDate ttlSeconds
      idempotencyKey token).1
    desk'.db = desk.db ∧ desk'.now = desk.now ∧
      (desk'.pending = desk.pending ∨
        ∃ request : PendingHold, desk'.pending = request :: desk.pending ∧
          request.seen = desk.db.holds.length ∧
          Available calendar desk.db request desk.now) := by
  unfold startHold
  split
  · exact ⟨rfl, rfl, .inl rfl⟩
  split
  · exact ⟨rfl, rfl, .inl rfl⟩
  split
  · exact ⟨rfl, rfl, .inl rfl⟩
  next locks hlocks =>
    dsimp only
    split
    · exact ⟨rfl, rfl, .inl rfl⟩
    next report hreport =>
      split
      · exact ⟨rfl, rfl, .inl rfl⟩
      next havailable =>
        split
        · exact ⟨rfl, rfl, .inl rfl⟩
        next car hcar =>
          have hok : report.available = true := by simpa using havailable
          exact ⟨rfl, rfl, .inr ⟨_, rfl, rfl, report, hreport, hok⟩⟩

/-! ### Updates of a status -/

section SetStatus

variable {p : VehicleHold → Bool} {status : VehicleHoldStatus}

theorem live_of_setStatus (hstatus : status ≠ .active) {hold : VehicleHold} {now : ℤ}
    (h : (if p hold then { hold with status } else hold).live now = true) :
    (if p hold then { hold with status } else hold) = hold := by
  split
  next hp =>
    rw [if_pos hp] at h
    simp only [VehicleHold.live, decide_eq_true_eq] at h
    exact absurd h.1 hstatus
  · rfl

theorem mem_of_live_setStatus (hstatus : status ≠ .active) {hold : VehicleHold} {now : ℤ}
    (h : hold ∈ (desk.setStatus p status).db.holds) (hlive : hold.live now = true) :
    hold ∈ desk.db.holds := by
  obtain ⟨before, hbefore, rfl⟩ := List.mem_map.mp h
  rw [live_of_setStatus hstatus hlive]
  exact hbefore

theorem HoldsApart.setStatus (h : HoldsApart desk) (hstatus : status ≠ .active) :
    HoldsApart (desk.setStatus p status) := by
  intro hold hhold other hother hclash
  obtain ⟨old, hold', rfl⟩ := List.mem_map.mp hhold
  obtain ⟨old', hother', rfl⟩ := List.mem_map.mp hother
  rw [live_of_setStatus hstatus hclash.1, live_of_setStatus hstatus hclash.2.1] at hclash
  exact h old hold' old' hother' hclash

theorem SoundHolds.setStatus (h : SoundHolds desk) (hstatus : status ≠ .active) :
    SoundHolds (desk.setStatus p status) where
  ids := by
    have hsame : (desk.setStatus p status).db.holds.map VehicleHold.id =
        desk.db.holds.map VehicleHold.id := by
      simp only [HoldDesk.setStatus, HoldDesk.withHolds, List.map_map]
      refine List.map_congr_left fun hold _ => ?_
      simp only [Function.comp]
      split <;> rfl
    rw [hsame]
    exact h.ids
  checked := by
    intro request hrequest
    refine (h.checked request hrequest).map fun hold hspares hlive => ?_
    have hsame := live_of_setStatus hstatus hlive
    rw [hsame] at hlive ⊢
    exact hspares hlive

theorem setStatus_settled_iff (h : SoundHolds desk) :
    (∀ hold ∈ desk.db.holds, hold.status ≠ .active →
        ∀ later ∈ (desk.setStatus p status).db.holds, later.id = hold.id →
          later.status = hold.status) ↔
      ∀ hold ∈ desk.db.holds, p hold = true → hold.status = .active ∨ hold.status = status := by
  constructor
  · intro hsettled hold hhold hp
    by_cases hactive : hold.status = .active
    · exact .inl hactive
    · have hlater := hsettled hold hhold hactive { hold with status }
        (List.mem_map.mpr ⟨hold, hhold, if_pos hp⟩) rfl
      exact .inr hlater.symm
  · intro hmeets hold hhold hsettled later hlater hid
    obtain ⟨old, hold', rfl⟩ := List.mem_map.mp hlater
    have hsame : old = hold := by
      refine eq_of_key_eq h.ids hold' hhold ?_
      rw [← hid]
      split <;> rfl
    subst hsame
    split
    next hp => exact ((hmeets old hold' hp).resolve_left hsettled).symm
    · rfl

end SetStatus

theorem settled_of_same {desk' : HoldDesk} (h : SoundHolds desk)
    (hsame : desk'.db.holds = desk.db.holds) :
    ∀ hold ∈ desk.db.holds, hold.status ≠ .active → ∀ later ∈ desk'.db.holds,
      later.id = hold.id → later.status = hold.status := by
  intro hold hhold _ later hlater hid
  rw [hsame] at hlater
  rw [eq_of_key_eq h.ids hlater hhold hid]

theorem releaseHold_cases (h : SoundHolds desk) (holdId : Id) (customerId : Option Id) :
    ((releaseHold desk holdId customerId).1 = desk ∧
        ∀ hold ∈ desk.db.holds, hold.id = holdId → mayRelease hold customerId = false) ∨
      ((releaseHold desk holdId customerId).1 =
          desk.setStatus (fun hold => hold.id = holdId) .released ∧
        ∀ hold ∈ desk.db.holds, hold.id = holdId → mayRelease hold customerId = true) := by
  unfold releaseHold
  split
  next hnone =>
    refine .inl ⟨rfl, fun hold hhold hid => ?_⟩
    exact absurd (decide_eq_true hid) (List.find?_eq_none.mp hnone hold hhold)
  next found hfind =>
    have honly : ∀ hold ∈ desk.db.holds, hold.id = holdId → hold = found := by
      intro hold hhold hid
      have hfound : found.id = holdId := of_decide_eq_true (List.find?_some hfind :)
      exact eq_of_key_eq h.ids hhold (List.mem_of_find?_eq_some hfind) (hid.trans hfound.symm)
    split
    next hforbidden =>
      refine .inl ⟨rfl, fun hold hhold hid => ?_⟩
      rw [honly hold hhold hid]
      simpa using hforbidden
    next hallowed =>
      refine .inr ⟨rfl, fun hold hhold hid => ?_⟩
      rw [honly hold hhold hid]
      simpa using hallowed

/-! ### Inserts -/

theorem not_mem_of_insertable {holds : List VehicleHold} {request : PendingHold} {newId : Id}
    (h : insertable holds request newId = true) : newId ∉ holds.map VehicleHold.id := by
  simp only [insertable, Bool.and_eq_true, decide_eq_true_eq] at h
  exact h.1

theorem SoundHolds.finishHold (h : SoundHolds desk) (request : PendingHold) (newId : Id) :
    SoundHolds (finishHold desk request newId).1 := by
  unfold CarRental.finishHold
  dsimp only
  split
  next hinsertable =>
    have hfresh := not_mem_of_insertable hinsertable
    constructor
    case ids =>
      exact nodup_map_concat h.ids hfresh
    case checked =>
      intro other hother
      exact (h.checked other (List.mem_of_mem_erase hother)).append _
  · exact ⟨h.ids, fun other hother => h.checked other (List.mem_of_mem_erase hother)⟩

theorem SoundHolds.insert_apart_iff (h : SoundHolds desk) (hapart : HoldsApart desk)
    {request : PendingHold} (hrequest : request ∈ desk.pending) (newId : Id) :
    (∀ hold ∈ desk.db.holds ++ [request.row newId desk.now],
        ∀ other ∈ desk.db.holds ++ [request.row newId desk.now], ¬ Clash desk.now hold other) ↔
      ∀ hold ∈ desk.db.holds.drop request.seen,
        ¬ Clash desk.now hold (request.row newId desk.now) := by
  have hchecked : Checked (fun hold request => ¬ Clash desk.now hold (request.row newId desk.now))
      desk.db.holds request.seen request :=
    (h.checked request hrequest).mono fun hold hspares => hspares.not_clash newId
  rw [← hchecked.forall_iff]
  have hself : ¬ Clash desk.now (request.row newId desk.now) (request.row newId desk.now) :=
    fun hclash => hclash.2.2.2.1 rfl
  constructor
  · exact fun hall hold hhold => hall hold (List.mem_append_left _ hhold) _
      (List.mem_append_right _ (List.mem_singleton_self _))
  · intro hnew hold hhold other hother
    rcases List.mem_append.mp hhold with hhold | hhold
    · rcases List.mem_append.mp hother with hother | hother
      · exact hapart hold hhold other hother
      · rw [List.mem_singleton.mp hother]
        exact hnew hold hhold
    · rw [List.mem_singleton.mp hhold]
      rcases List.mem_append.mp hother with hother | hother
      · exact fun hclash => hnew other hother hclash.symm
      · rwa [List.mem_singleton.mp hother]

/-! ### One step -/

theorem holdStep_sound (h : SoundHolds desk) (action : HoldAction) :
    SoundHolds (holdStep calendar desk action) := by
  cases action with
  | startHold carId customerId startDate endDate ttlSeconds idempotencyKey token =>
    obtain ⟨hdb, hnow, hpending⟩ := startHold_cases calendar desk carId customerId startDate
      endDate ttlSeconds idempotencyKey token
    simp only [holdStep]
    constructor
    · rw [hdb]
      exact h.ids
    · rw [hdb, hnow]
      intro request hrequest
      rcases hpending with heq | ⟨new, heq, hseen, havailable⟩
      · rw [heq] at hrequest
        exact h.checked request hrequest
      · rw [heq] at hrequest
        rcases List.mem_cons.mp hrequest with rfl | hold
        · rw [hseen]
          exact checked_length havailable.spares
        · exact h.checked request hold
  | finishHold request newId =>
    simp only [holdStep]
    split
    · exact h.finishHold request newId
    · exact h
  | releaseHold holdId customerId =>
    simp only [holdStep]
    rcases releaseHold_cases h holdId customerId with ⟨heq, -⟩ | ⟨heq, -⟩
    · rw [heq]
      exact h
    · rw [heq]
      exact h.setStatus (by decide)
  | expireHold holdId => exact h.setStatus (by decide)
  | convertHold carId customerId => exact h.setStatus (by decide)
  | startSweep batch =>
    simp only [holdStep, startSweep]
    split
    · exact { h with }
    · exact h
  | sweepHold holdId =>
    simp only [holdStep, sweepHold]
    split
    · have herase : SoundHolds { desk with stale := desk.stale.erase holdId } := { h with }
      exact herase.setStatus (by decide)
    · exact h
  | advance milliseconds =>
    refine ⟨h.ids, fun request hrequest => ?_⟩
    refine (h.checked request hrequest).mono fun hold hspares hlive => ?_
    exact hspares (live_mono hlive (le_add_of_nonneg_right (Int.natCast_nonneg _)))
  | elsewhere cars exceptions bookings blocks => exact { h with }

theorem law_of_same (h : SoundHolds desk) (hapart : HoldsApart desk) {action : HoldAction}
    (hholds : (holdStep calendar desk action).db.holds = desk.db.holds)
    (hnow : (holdStep calendar desk action).now = desk.now) :
    HoldsApart (holdStep calendar desk action) ∧ KeepsSettled calendar desk action := by
  refine ⟨?_, settled_of_same h hholds⟩
  rw [HoldsApart, hholds, hnow]
  exact hapart

theorem finishHold_law_iff (calendar : ServerCalendar) (h : SoundHolds desk)
    (hapart : HoldsApart desk) (request : PendingHold) (newId : Id) :
    HoldsApart (holdStep calendar desk (.finishHold request newId)) ∧
        KeepsSettled calendar desk (.finishHold request newId) ↔
      HoldsInOrder desk (.finishHold request newId) := by
  by_cases hrequest : request ∈ desk.pending
  · by_cases hinsertable : insertable desk.db.holds request newId = true
    · have hholds : (holdStep calendar desk (.finishHold request newId)).db.holds =
          desk.db.holds ++ [request.row newId desk.now] := by
        simp only [holdStep, if_pos hrequest, finishHold, if_pos hinsertable]
        rfl
      have hnow : (holdStep calendar desk (.finishHold request newId)).now = desk.now := by
        simp only [holdStep, if_pos hrequest, finishHold, if_pos hinsertable]
        rfl
      -- the new row is active, so nothing settled has its id
      have hsettled : KeepsSettled calendar desk (.finishHold request newId) := by
        intro hold hhold _ later hlater hid
        rw [hholds] at hlater
        rcases List.mem_append.mp hlater with hold' | hlast
        · rw [eq_of_key_eq h.ids hold' hhold hid]
        · rw [List.mem_singleton.mp hlast] at hid
          have hmem : newId ∈ desk.db.holds.map VehicleHold.id :=
            List.mem_map.mpr ⟨hold, hhold, hid.symm⟩
          exact absurd hmem (not_mem_of_insertable hinsertable)
      rw [and_iff_left hsettled, HoldsApart, hholds, hnow,
        h.insert_apart_iff hapart hrequest newId]
      simp only [HoldsInOrder, hrequest, hinsertable, forall_const]
    · refine iff_of_true (law_of_same h hapart ?_ ?_) fun _ hok => absurd hok hinsertable
      · simp only [holdStep, if_pos hrequest, finishHold, if_neg hinsertable]
      · simp only [holdStep, if_pos hrequest, finishHold, if_neg hinsertable]
  · have hsame : holdStep calendar desk (.finishHold request newId) = desk := if_neg hrequest
    refine iff_of_true (law_of_same h hapart ?_ ?_) fun hin => absurd hin hrequest
    · rw [hsame]
    · rw [hsame]

theorem releaseHold_law_iff (calendar : ServerCalendar) (h : SoundHolds desk)
    (hapart : HoldsApart desk) (holdId : Id) (customerId : Option Id) :
    HoldsApart (holdStep calendar desk (.releaseHold holdId customerId)) ∧
        KeepsSettled calendar desk (.releaseHold holdId customerId) ↔
      HoldsInOrder desk (.releaseHold holdId customerId) := by
  rcases releaseHold_cases h holdId customerId with ⟨heq, hforbidden⟩ | ⟨heq, hallowed⟩
  · refine iff_of_true (law_of_same h hapart ?_ ?_) fun hold hhold hid hok => ?_
    · simp only [holdStep, heq]
    · simp only [holdStep, heq]
    · rw [hforbidden hold hhold hid] at hok
      cases hok
  · have hapart' : HoldsApart (holdStep calendar desk (.releaseHold holdId customerId)) := by
      simp only [holdStep, heq]
      exact hapart.setStatus (by decide)
    rw [and_iff_right hapart']
    simp only [KeepsSettled, holdStep, heq]
    rw [setStatus_settled_iff h]
    constructor
    · exact fun hmeets hold hhold hid _ => hmeets hold hhold (decide_eq_true hid)
    · intro hmeets hold hhold hid
      have hid := of_decide_eq_true hid
      exact hmeets hold hhold hid (hallowed hold hhold hid)

theorem sweepHold_law_iff (calendar : ServerCalendar) (h : SoundHolds desk)
    (hapart : HoldsApart desk) (holdId : Id) :
    HoldsApart (holdStep calendar desk (.sweepHold holdId)) ∧
        KeepsSettled calendar desk (.sweepHold holdId) ↔
      HoldsInOrder desk (.sweepHold holdId) := by
  by_cases hstale : holdId ∈ desk.stale
  · have hstep : holdStep calendar desk (.sweepHold holdId) =
        { desk with stale := desk.stale.erase holdId }.setStatus
          (fun hold => hold.id = holdId) .expired := if_pos hstale
    have herase : SoundHolds { desk with stale := desk.stale.erase holdId } := { h with }
    have hapart' : HoldsApart { desk with stale := desk.stale.erase holdId } := hapart
    rw [KeepsSettled, hstep, and_iff_right (hapart'.setStatus (by decide))]
    refine (setStatus_settled_iff herase).trans ?_
    simp only [HoldsInOrder, hstale, forall_const, decide_eq_true_eq]
  · have hsame : holdStep calendar desk (.sweepHold holdId) = desk := if_neg hstale
    refine iff_of_true (law_of_same h hapart ?_ ?_) fun hin => absurd hin hstale
    · rw [hsame]
    · rw [hsame]

theorem setStatus_law (h : SoundHolds desk) (hapart : HoldsApart desk) {action : HoldAction}
    {p : VehicleHold → Bool} {status : VehicleHoldStatus}
    (hstep : holdStep calendar desk action = desk.setStatus p status) (hstatus : status ≠ .active)
    (hactive : ∀ hold, p hold = true → hold.status = .active) :
    HoldsApart (holdStep calendar desk action) ∧ KeepsSettled calendar desk action := by
  rw [KeepsSettled, hstep]
  exact ⟨hapart.setStatus hstatus,
    (setStatus_settled_iff h).mpr fun hold _ hmeets => .inl (hactive hold hmeets)⟩

theorem holdStep_law_iff (calendar : ServerCalendar) (h : SoundHolds desk)
    (hapart : HoldsApart desk) (action : HoldAction) :
    HoldsApart (holdStep calendar desk action) ∧ KeepsSettled calendar desk action ↔
      HoldsInOrder desk action := by
  cases action with
  | startHold carId customerId startDate endDate ttlSeconds idempotencyKey token =>
    obtain ⟨hdb, hnow, -⟩ := startHold_cases calendar desk carId customerId startDate endDate
      ttlSeconds idempotencyKey token
    exact iff_of_true (law_of_same h hapart (congrArg VehicleDb.holds hdb) hnow) trivial
  | finishHold request newId => exact finishHold_law_iff calendar h hapart request newId
  | releaseHold holdId customerId => exact releaseHold_law_iff calendar h hapart holdId customerId
  | expireHold holdId =>
    refine iff_of_true (setStatus_law h hapart rfl (by decide) fun hold hmeets => ?_) trivial
    simp only [Bool.and_eq_true, decide_eq_true_eq] at hmeets
    exact hmeets.2
  | convertHold carId customerId =>
    refine iff_of_true (setStatus_law h hapart rfl (by decide) fun hold hmeets => ?_) trivial
    simp only [Bool.and_eq_true, decide_eq_true_eq] at hmeets
    exact hmeets.2
  | startSweep batch =>
    have hdesk : (holdStep calendar desk (.startSweep batch)).db = desk.db ∧
        (holdStep calendar desk (.startSweep batch)).now = desk.now := by
      simp only [holdStep, startSweep]
      split <;> exact ⟨rfl, rfl⟩
    exact iff_of_true (law_of_same h hapart (congrArg VehicleDb.holds hdesk.1) hdesk.2) trivial
  | sweepHold holdId => exact sweepHold_law_iff calendar h hapart holdId
  | advance milliseconds =>
    -- a hold that is live later is live now
    refine iff_of_true ⟨?_, settled_of_same h rfl⟩ trivial
    have hlater : desk.now ≤ desk.now + (milliseconds : ℤ) :=
      le_add_of_nonneg_right (Int.natCast_nonneg _)
    rintro hold hhold other hother ⟨hlive, hlive', hrest⟩
    exact hapart hold hhold other hother
      ⟨live_mono hlive hlater, live_mono hlive' hlater, hrest⟩
  | elsewhere cars exceptions bookings blocks =>
    exact iff_of_true (law_of_same h hapart rfl rfl) trivial

end Laws

/-! ## Runs -/

/-- Nothing is in flight. -/
def quietDesk (db : VehicleDb) (now : ℤ) : HoldDesk := ⟨db, now, [], [], []⟩

/-- Live holds of different customers stay apart and settled holds stay as they are, exactly
along the runs whose inserts, releases and sweeps are in order. -/
theorem holds_law_iff (calendar : ServerCalendar) {db : VehicleDb} {now : ℤ}
    (hids : (db.holds.map VehicleHold.id).Nodup) (hapart : HoldsApart (quietDesk db now))
    (actions : List HoldAction) :
    Everywhere (holdStep calendar) HoldsApart (quietDesk db now) actions ∧
        Along (holdStep calendar) (KeepsSettled calendar) (quietDesk db now) actions ↔
      Along (holdStep calendar) HoldsInOrder (quietDesk db now) actions :=
  everywhere_and_along_iff (I := SoundHolds) (fun _ action h => holdStep_sound h action)
    (fun _ action _ h hapart => holdStep_law_iff calendar h hapart action)
    ⟨hids, fun _ hrequest => absurd hrequest List.not_mem_nil⟩ hapart

/-! ### A booked hold is released -/

def freeCar : VehicleDb where
  cars := [⟨"car", "vendor", none, true, .active, .verified, .verified, none, [.selfDrive], []⟩]
  exceptions := []
  bookings := []
  blocks := []
  holds := []

def everyDay : ServerCalendar := ⟨id, id⟩

def sampleHold (customerId : Id) (token : String) (seen : ℕ) : PendingHold :=
  ⟨"car", customerId, "vendor", 0, 10, 900, none, token, seen⟩

def bookedHold : List HoldAction :=
  [.startHold "car" "customer" 0 10 900 none "token",
    .finishHold (sampleHold "customer" "token" 0) "hold", .convertHold "car" "customer"]

theorem booked_hold_settled :
    Everywhere (holdStep everyDay) HoldsApart (quietDesk freeCar 0)
        (bookedHold ++ [.advance 1000000, .startSweep []]) ∧
      Along (holdStep everyDay) (KeepsSettled everyDay) (quietDesk freeCar 0)
        (bookedHold ++ [.advance 1000000, .startSweep []]) :=
  (holds_law_iff everyDay (by decide) (by decide) _).mpr (by decide)

/-- The customer releases the hold that has become a booking. -/
theorem booked_hold_released :
    ¬ (Everywhere (holdStep everyDay) HoldsApart (quietDesk freeCar 0)
        (bookedHold ++ [.releaseHold "hold" (some "customer")]) ∧
      Along (holdStep everyDay) (KeepsSettled everyDay) (quietDesk freeCar 0)
        (bookedHold ++ [.releaseHold "hold" (some "customer")])) := by
  have hchanged : ¬ Along (holdStep everyDay) (KeepsSettled everyDay) (quietDesk freeCar 0)
      (bookedHold ++ [.releaseHold "hold" (some "customer")]) := by decide
  exact fun h => hchanged h.2

/-- Two creations whose checks both came before the inserts, as the first one's lock ran out. -/
example : ¬ Everywhere (holdStep everyDay) HoldsApart (quietDesk freeCar 0)
    [.startHold "car" "customer" 0 10 900 none "first", .advance 10000,
      .startHold "car" "other" 0 10 900 none "second",
      .finishHold (sampleHold "customer" "first" 0) "hold",
      .finishHold (sampleHold "other" "second" 0) "other hold"] := by
  decide

end CarRental
