import CarRental.Marketplace.ConfirmedOverlap

/-!
# One call at a time on a car

`createBooking`, `blockVehicle` and `createHold` work on a car under its booking lock, which runs out
after ten seconds whatever its holder still does.  Until then no other call gets to work on the car
(`lock_excludes`), in any interleaving of the three with each other and with everything else that
goes on at the calendar.

Of the desk this needs the clock, the locks and who works on which car (`LeaseView`): every step takes
a lock, takes one and gives it back at once, ends a call, or leaves the three alone (`LeaseMove`).
-/

namespace CarRental

open Runs

/-! ## The locks and their holders -/

/-- Who is at work on which car, with the token of the lock; the lock itself may have run out. -/
structure LeaseView where
  now : ℤ
  locks : List CarLock
  holders : List (Id × String)

/-- What a step does to the locks; `Given` says which tokens it may take. -/
inductive LeaseMove (Given : String → Prop) (view : LeaseView) : LeaseView → Prop
  | wait {now : ℤ} {holders : List (Id × String)} (htime : view.now ≤ now)
      (hholders : holders.Perm view.holders) : LeaseMove Given view ⟨now, view.locks, holders⟩
  | take {carId : Id} {token : String} {locks : List CarLock} {holders : List (Id × String)}
      (hgiven : Given token) (hlock : acquireLock view.locks carId token view.now = .ok locks)
      (hholders : holders.Perm ((carId, token) :: view.holders)) :
      LeaseMove Given view ⟨view.now, locks, holders⟩
  | giveBack {carId : Id} {token : String} {locks : List CarLock} (hgiven : Given token)
      (hlock : acquireLock view.locks carId token view.now = .ok locks) :
      LeaseMove Given view ⟨view.now, releaseLock locks carId token, view.holders⟩
  | finish {carId : Id} {token : String} {holders : List (Id × String)}
      (hholders : view.holders.Perm ((carId, token) :: holders)) :
      LeaseMove Given view ⟨view.now, releaseLock view.locks carId token, holders⟩

/-- While the holder of the lock is at work and its time is not over, the lock is there, and whoever
else works on the car was at work before. -/
structure LeaseView.Excludes (lock : CarLock) (earlier : List (Id × String)) (view : LeaseView) :
    Prop where
  once : view.holders.count (lock.carId, lock.token) ≤ 1
  held : (lock.carId, lock.token) ∈ view.holders → view.now < lock.expiresAt → lock ∈ view.locks
  alone : (lock.carId, lock.token) ∈ view.holders → view.now < lock.expiresAt →
    ∀ holder ∈ view.holders, holder.1 = lock.carId →
      holder = (lock.carId, lock.token) ∨ holder ∈ earlier

section Moves

variable {Given : String → Prop} {view view' : LeaseView} {lock : CarLock}
  {earlier : List (Id × String)}

theorem acquireLock_eq_ok {locks locks' : List CarLock} {carId : Id} {token : String} {now : ℤ}
    (h : acquireLock locks carId token now = .ok locks') :
    (∀ lock ∈ locks, lock.carId = carId → lock.expiresAt ≤ now) ∧
      locks' = ⟨carId, token, now + lockTtlMs⟩ :: locks.filter fun lock => lock.carId ≠ carId := by
  unfold acquireLock at h
  split at h
  · cases h
  next hfree =>
    refine ⟨fun lock hlock hcar => ?_, (Except.ok.inj h).symm⟩
    by_contra hlive
    exact hfree (List.any_eq_true.mpr ⟨lock, hlock, decide_eq_true ⟨hcar, not_le.mp hlive⟩⟩)

theorem mem_releaseLock {locks : List CarLock} {carId : Id} {token : String} :
    lock ∈ releaseLock locks carId token ↔
      lock ∈ locks ∧ ¬ (lock.carId = carId ∧ lock.token = token) := by
  rw [releaseLock, List.mem_filter, decide_eq_true_iff]

theorem acquireLock_keeps {locks locks' : List CarLock} {carId : Id} {token : String} {now : ℤ}
    (h : acquireLock locks carId token now = .ok locks') (hmem : lock ∈ locks)
    (hlive : now < lock.expiresAt) : lock.carId ≠ carId ∧ lock ∈ locks' := by
  obtain ⟨hfree, rfl⟩ := acquireLock_eq_ok h
  have hcar : lock.carId ≠ carId := fun hcar => absurd (hfree lock hmem hcar) (not_le.mpr hlive)
  exact ⟨hcar, List.mem_cons_of_mem _ (List.mem_filter.mpr ⟨hmem, decide_eq_true hcar⟩)⟩

theorem LeaseMove.stay : LeaseMove Given view view := .wait le_rfl (.refl _)

theorem LeaseMove.excludes (hmove : LeaseMove (· ≠ lock.token) view view')
    (h : view.Excludes lock earlier) : view'.Excludes lock earlier := by
  cases hmove with
  | wait htime hholders =>
    refine ⟨hholders.count_eq _ ▸ h.once, fun hwork hlive => ?_, fun hwork hlive holder hmem => ?_⟩
    · exact h.held (hholders.mem_iff.mp hwork) (htime.trans_lt hlive)
    · exact h.alone (hholders.mem_iff.mp hwork) (htime.trans_lt hlive) holder
        (hholders.mem_iff.mp hmem)
  | @take carId token locks holders hgiven hlock hholders =>
    have hother : (carId, token) ≠ (lock.carId, lock.token) := fun heq => hgiven (congrArg (·.2) heq)
    have hwas : (lock.carId, lock.token) ∈ holders → (lock.carId, lock.token) ∈ view.holders :=
      fun hwork => (List.mem_cons.mp (hholders.mem_iff.mp hwork)).resolve_left hother.symm
    refine ⟨?_, fun hwork hlive => ?_, fun hwork hlive holder hmem hcar => ?_⟩
    · rw [hholders.count_eq, List.count_cons_of_ne hother]
      exact h.once
    · exact (acquireLock_keeps hlock (h.held (hwas hwork) hlive) hlive).2
    · rcases List.mem_cons.mp (hholders.mem_iff.mp hmem) with rfl | hold
      · exact absurd hcar.symm (acquireLock_keeps hlock (h.held (hwas hwork) hlive) hlive).1
      · exact h.alone (hwas hwork) hlive holder hold hcar
  | giveBack hgiven hlock =>
    refine ⟨h.once, fun hwork hlive => ?_, h.alone⟩
    exact mem_releaseLock.mpr ⟨(acquireLock_keeps hlock (h.held hwork hlive) hlive).2,
      fun hsame => hgiven hsame.2.symm⟩
  | @finish carId token holders hholders =>
    have hwas : ∀ {holder}, holder ∈ holders → holder ∈ view.holders := fun hmem =>
      hholders.mem_iff.mpr (List.mem_cons_of_mem _ hmem)
    have hcount := hholders.count_eq (lock.carId, lock.token)
    refine ⟨?_, fun hwork hlive => ?_, fun hwork hlive holder hmem => ?_⟩
    · exact (List.count_le_count_cons ..).trans (hcount ▸ h.once)
    · refine mem_releaseLock.mpr ⟨h.held (hwas hwork) hlive, fun hsame => ?_⟩
      have hpos : 0 < holders.count (lock.carId, lock.token) := List.count_pos_iff.mpr hwork
      have honce := h.once
      rw [hcount, ← hsame.1, ← hsame.2, List.count_cons_self] at honce
      omega
    · exact h.alone (hwas hwork) hlive holder (hwas hmem)

theorem LeaseMove.taken (hmove : LeaseMove Given view view') (hnew : lock ∈ view'.locks)
    (hold : lock ∉ view.locks) (hunused : ∀ holder ∈ view.holders, holder.2 ≠ lock.token) :
    lock.expiresAt = view.now + lockTtlMs ∧ view'.Excludes lock view.holders := by
  have hzero : view.holders.count (lock.carId, lock.token) = 0 :=
    List.count_eq_zero.mpr fun hmem => hunused _ hmem rfl
  cases hmove with
  | wait => exact absurd hnew hold
  | take hgiven hlock hholders =>
    obtain ⟨-, rfl⟩ := acquireLock_eq_ok hlock
    obtain rfl := (List.mem_cons.mp hnew).resolve_right fun hkept =>
      hold (List.mem_of_mem_filter hkept)
    refine ⟨rfl, ?_, fun _ _ => List.mem_cons_self, fun _ _ holder hmem _ =>
      List.mem_cons.mp (hholders.mem_iff.mp hmem)⟩
    rw [hholders.count_eq, List.count_cons_self, hzero]
  | giveBack hgiven hlock =>
    obtain ⟨hkept, hother⟩ := mem_releaseLock.mp hnew
    obtain ⟨-, rfl⟩ := acquireLock_eq_ok hlock
    rcases List.mem_cons.mp hkept with rfl | hkept
    · exact absurd ⟨rfl, rfl⟩ hother
    · exact absurd (List.mem_of_mem_filter hkept) hold
  | finish => exact absurd (mem_releaseLock.mp hnew).1 hold

end Moves

/-! ## The calendar -/

namespace Marketplace

def CalendarDesk.lease (desk : CalendarDesk) : LeaseView where
  now := desk.now
  locks := desk.locks
  holders := desk.calls.map (fun call => (call.dto.carId, call.token)) ++
    (desk.blocks.map (fun request => (request.carId, request.token)) ++
      desk.holds.map fun hold => (hold.request.carId, hold.request.token))

/-- The token that a call brings for its lock. -/
def CalendarAction.token? : CalendarAction → Option String
  | .startBooking _ _ token _ | .startBlock _ _ _ _ _ _ _ token | .startHold _ _ _ _ _ _ token =>
    some token
  | _ => none

section Steps

variable {Given : String → Prop} {desk : CalendarDesk}

theorem map_perm_of_mem {α β : Type} [DecidableEq α] {l : List α} {a : α} (f : α → β) (h : a ∈ l) :
    (l.map f).Perm (f a :: (l.erase a).map f) :=
  (List.perm_cons_erase h).map f

theorem endCall_lease {call : BookingCall} (h : call ∈ desk.calls) :
    LeaseMove Given desk.lease (desk.withBlockDesk (desk.blockDesk.endCall call)).lease :=
  .finish ((map_perm_of_mem _ h).append_right _)

theorem endBlock_lease {request : PendingBlock} (h : request ∈ desk.blocks) :
    LeaseMove Given desk.lease (desk.withBlockDesk (desk.blockDesk.endBlock request)).lease :=
  .finish (((map_perm_of_mem _ h).append_right _).append_left _ |>.trans List.perm_middle)

theorem startBooking_lease (customerId : Id) (dto : CreateBookingDto) {token : String}
    (admitted : Bool) (hgiven : Given token) :
    LeaseMove Given desk.lease (desk.withBlockDesk
      (startBooking desk.blockDesk customerId dto token admitted)).lease := by
  unfold startBooking
  split
  · exact .stay
  split
  · exact .stay
  next hlock =>
    split
    · exact .take hgiven hlock (.refl _)
    · exact .giveBack hgiven hlock

theorem beginBooking_lease {call : BookingCall} (h : call ∈ desk.calls) :
    LeaseMove Given desk.lease (desk.withBlockDesk (beginBooking desk.blockDesk call)).lease := by
  unfold beginBooking
  split
  · exact .stay
  split
  · exact endCall_lease h
  · exact .wait le_rfl ((map_perm_of_mem (fun call => (call.dto.carId, call.token)) h).symm
      |>.append_right _)

theorem startBlock_lease (carId vendorId : Id) (startDate endDate : ℤ)
    (blockType : VehicleBlockType) (reason : Option String) (actorRole : Role) {token : String}
    (hgiven : Given token) :
    LeaseMove Given desk.lease (desk.withBlockDesk (startBlock desk.blockDesk carId vendorId
      startDate endDate blockType reason actorRole token).1).lease := by
  unfold startBlock
  split
  · exact .stay
  split
  · exact .stay
  split
  · exact .stay
  next hlock =>
    dsimp only
    repeat' split
    all_goals first
      | exact .giveBack hgiven hlock
      | exact .take hgiven hlock List.perm_middle

theorem beginHold_lease (calendar : ServerCalendar) (carId customerId : Id)
    (startDate endDate ttlSeconds : ℤ) (idempotencyKey : Option String) {token : String}
    (hgiven : Given token) :
    LeaseMove Given desk.lease (beginHold calendar desk carId customerId startDate endDate
      ttlSeconds idempotencyKey token).lease := by
  unfold beginHold startHold
  split
  · exact .stay
  split
  · exact .stay
  split
  · exact .stay
  next hlock =>
    dsimp only
    repeat' split
    all_goals first
      | exact .giveBack hgiven hlock
      | exact .take hgiven hlock
          ((List.perm_middle.append_left _).trans List.perm_middle)

theorem insertHold_lease {hold : CheckedHold} (h : hold ∈ desk.holds) (newId : Id) :
    LeaseMove Given desk.lease (insertHold desk hold newId).lease := by
  have hends : desk.lease.holders.Perm ((hold.request.carId, hold.request.token) ::
      { desk with holds := desk.holds.erase hold }.lease.holders) :=
    (((map_perm_of_mem _ h).append_left _).trans List.perm_middle).append_left _ |>.trans
      List.perm_middle
  unfold insertHold finishHold
  split
  · exact .stay
  dsimp only
  split <;> exact .finish hends

theorem calendarStep_lease (calendar : ServerCalendar) {action : CalendarAction}
    (hgiven : ∀ token ∈ action.token?, Given token) :
    LeaseMove Given desk.lease (calendarStep calendar desk action).lease := by
  cases action with
  | startBooking customerId dto token admitted =>
    exact startBooking_lease customerId dto admitted (hgiven token rfl)
  | beginBooking call =>
    simp only [calendarStep, blockStep]
    split
    next hcall => exact beginBooking_lease hcall.1
    · exact .stay
  | commitBooking call newId failed =>
    simp only [calendarStep, blockStep]
    split
    · exact .stay
    split
    next hcall =>
      unfold commitBooking
      split <;> exact endCall_lease hcall
    · exact .stay
  | startBlock carId vendorId startDate endDate blockType reason actorRole token =>
    exact startBlock_lease carId vendorId startDate endDate blockType reason actorRole
      (hgiven token rfl)
  | finishBlock request newId =>
    simp only [calendarStep, blockStep]
    split
    next hrequest =>
      unfold finishBlock
      split
      · exact .stay
      split <;> exact endBlock_lease hrequest
    · exact .stay
  | startHold carId customerId startDate endDate ttlSeconds idempotencyKey token =>
    exact beginHold_lease calendar carId customerId startDate endDate ttlSeconds idempotencyKey
      (hgiven token rfl)
  | finishHold hold newId =>
    simp only [calendarStep]
    split
    next hhold => exact insertHold_lease hhold newId
    · exact .stay
  | releaseHold => exact .stay
  | beginConfirmation call =>
    simp only [calendarStep]
    split <;> exact .stay
  | commitConfirmation call newId failed =>
    simp only [calendarStep]
    repeat' split
    all_goals exact .stay
  | moveBooking => exact .stay
  | advance milliseconds => exact .wait (le_add_of_nonneg_right (Int.natCast_nonneg _)) (.refl _)
  | elsewhere => exact .stay

end Steps

/-- A call that gets the lock of a car has it for ten seconds or until it ends: whatever goes on,
with other tokens, meanwhile, no one gets to work on the car who was not at work before. -/
theorem lock_excludes (calendar : ServerCalendar) {desk : CalendarDesk} {start : CalendarAction}
    {lock : CarLock} (htaken : lock ∈ (calendarStep calendar desk start).locks)
    (hnew : lock ∉ desk.locks) (hunused : ∀ holder ∈ desk.lease.holders, holder.2 ≠ lock.token)
    {later : List CalendarAction}
    (hfresh : Along (calendarStep calendar) (fun _ action => action.token? ≠ some lock.token)
      (calendarStep calendar desk start) later) :
    lock.expiresAt = desk.now + lockTtlMs ∧
      (run (calendarStep calendar) desk (start :: later)).lease.Excludes lock
        desk.lease.holders := by
  obtain ⟨hexpires, hstart⟩ := (calendarStep_lease calendar fun _ _ => trivial : LeaseMove
    (fun _ => True) desk.lease (calendarStep calendar desk start).lease).taken htaken hnew hunused
  refine ⟨hexpires, hfresh.invariant
    (I := fun desk' => desk'.lease.Excludes lock desk.lease.holders)
    (fun _ _ h haction => ?_) hstart⟩
  refine (calendarStep_lease calendar fun token htoken => ?_).excludes h
  rintro rfl
  exact haction htoken

def freeCalendar : CalendarDesk := ⟨hubFleet 0, 0, [], [], [], [], [], []⟩

/-- A block is tried while a booking is under way, and a hold in the last millisecond of its lock. -/
theorem booking_excludes_block_and_hold :
    let lock : CarLock := ⟨"car", "first", 10000⟩
    lock.expiresAt = freeCalendar.now + lockTtlMs ∧
      (run (calendarStep utcCalendar) freeCalendar
        [.startBooking "customer" (twoDays none) "first" true,
          .startBlock "car" "vendor" 0 86400000 .maintenance none .vendor "second", .advance 9999,
          .startHold "car" "other" 86400000 172800000 600 none "third"]).lease.Excludes lock
        freeCalendar.lease.holders := by
  intro lock
  have htaken : lock ∈ (calendarStep utcCalendar freeCalendar
      (.startBooking "customer" (twoDays none) "first" true)).locks := by decide
  exact lock_excludes utcCalendar htaken (by decide) (by decide) (by decide)

end Marketplace

end CarRental
