import CarRental.Coupons.CouponUse
import CarRental.Lib.Quotas
import CarRental.Lib.Runs

/-!
# The limits of coupons

A booking whose price has a coupon's discount should name the coupon and, once it is paid, have
its use recorded; and the paid bookings that a coupon discounts should be no more than its
limits.

The uses are within the limits in every state, as a redemption checks them under the lock of
the coupon's row (`SoundCoupons`).  So the paid bookings are, where each has its use recorded
(`SoundCoupons.limited`).  Which steps leave a use unrecorded is said in `RecordsUse`: a quote's
discount that the request does not name again, a checkout, and the payments that are not
redeemed.
-/

namespace CarRental

open KeyedRows Quotas Runs

/-! ## Quotas -/

/-- What is limited: a coupon in all, and a coupon by one customer. -/
inductive CouponQuota where
  | overall (couponId : Id)
  | ofCustomer (couponId customerId : Id)
deriving DecidableEq

def CouponQuota.couponId : CouponQuota → Id
  | .overall couponId => couponId
  | .ofCustomer couponId _ => couponId

/-- The quota limits what this customer does with this coupon. -/
def CouponQuota.covers (quota : CouponQuota) (couponId customerId : Id) : Bool :=
  match quota with
  | .overall limited => couponId = limited
  | .ofCustomer limited customer => couponId = limited ∧ customerId = customer

def countsUse (quota : CouponQuota) (usage : CouponUsage) : Bool :=
  quota.covers usage.couponId usage.customerId

def countsPaid (quota : CouponQuota) (row : DiscountedBooking) : Bool :=
  row.payment = some .paid ∧
    ∃ couponId ∈ row.discountedBy, quota.covers couponId row.booking.customerId = true

def ListedCoupon.limit (row : ListedCoupon) : CouponQuota → Option ℕ
  | .overall _ => row.coupon.globalUsageLimit
  | .ofCustomer _ _ => some (row.coupon.perCustomerLimit.getD 1)

def CouponDesk.limit (desk : CouponDesk) (quota : CouponQuota) : Option ℕ :=
  (desk.coupon? quota.couponId).bind fun row => row.limit quota

/-! ## The law -/

/-- The booking names the coupon, and its use is recorded when it is paid. -/
def UseRecorded (desk : CouponDesk) (row : DiscountedBooking) (couponId : Id) : Prop :=
  row.booking.couponId = some couponId ∧
    (row.payment = some .paid → ∃ usage ∈ desk.couponUsages, usage.bookingId = row.id ∧
      usage.couponId = couponId ∧ usage.customerId = row.booking.customerId)

def UsesRecorded (desk : CouponDesk) : Prop :=
  ∀ row ∈ desk.bookings, ∀ couponId ∈ row.discountedBy, UseRecorded desk row couponId

structure CouponLaw (desk : CouponDesk) : Prop where
  recorded : UsesRecorded desk
  limited : Within countsPaid desk.limit desk.bookings

def CouponDesk.hasUsed (desk : CouponDesk) (bookingId : Id) : Bool :=
  desk.couponUsages.any fun usage => usage.bookingId = bookingId

/-- A booking that takes the discount of a quote names its coupon again, and is no checkout.  A
discounted booking that is paid past `verifyPayment` has used its coupon before or, in the
reconciliation, may use it. -/
def RecordsUse (desk : CouponDesk) : CouponAction → Prop
  | .createBooking draft couponCode eligible _ quoteId admitted =>
    admitted = true → draft.id ∉ desk.bookings.map DiscountedBooking.id →
      ∀ quote, desk.sentQuote quoteId = .ok (some quote) → ∀ couponId ∈ quote.couponId,
        ∀ coupon, desk.sentCoupon draft.customerId couponCode eligible = .ok coupon →
          coupon.map Coupon.id = some couponId
  | .confirmCheckout draft quoteId admitted =>
    admitted = true → draft.id ∉ desk.bookings.map DiscountedBooking.id →
      ∀ quote ∈ desk.quote? quoteId, quote.couponId = none
  | .capturePayment bookingId admitted =>
    ∀ row ∈ desk.payable bookingId admitted, row.discountedBy.isSome = true →
      desk.hasUsed bookingId = true
  | .reconcilePayment bookingId admitted =>
    ∀ row ∈ desk.payable bookingId admitted, row.discountedBy.isSome = true →
      ∀ message, desk.redeem row ≠ .error (.badRequest message)
  | _ => True

/-! ## What holds in every state -/

/-- The counters of the coupons are those of the uses, which are within the limits, and a use is
that of a booking which names the coupon. -/
structure SoundCoupons (desk : CouponDesk) : Prop where
  coupons : (desk.coupons.map ListedCoupon.id).Nodup
  bookings : (desk.bookings.map DiscountedBooking.id).Nodup
  counted : ∀ row ∈ desk.coupons,
    row.coupon.usageCount = used countsUse (.overall row.id) desk.couponUsages
  known : ∀ usage ∈ desk.couponUsages, usage.couponId ∈ desk.coupons.map ListedCoupon.id
  within : Within countsUse desk.limit desk.couponUsages
  named : ∀ usage ∈ desk.couponUsages, ∀ row ∈ desk.bookings, row.id = usage.bookingId →
    row.booking.couponId = some usage.couponId ∧ row.booking.customerId = usage.customerId
  made : ∀ usage ∈ desk.couponUsages, usage.bookingId ∈ desk.bookings.map DiscountedBooking.id

section Laws

variable {desk next : CouponDesk}

theorem SoundCoupons.limited (h : SoundCoupons desk) (hrecorded : UsesRecorded desk) :
    Within countsPaid desk.limit desk.bookings := by
  intro quota max hmax
  have hle : used countsPaid quota desk.bookings ≤ used countsUse quota desk.couponUsages := by
    refine used_le_used CouponUsage.bookingId h.bookings fun row hrow hcounts => ?_
    obtain ⟨hpaid, couponId, hcoupon, hcovers⟩ := of_decide_eq_true hcounts
    obtain ⟨usage, husage, hbooking, heq, hcustomer⟩ :=
      (hrecorded row hrow couponId hcoupon).2 hpaid
    refine ⟨usage, husage, ?_, hbooking⟩
    rwa [countsUse, heq, hcustomer]
  exact hle.trans (h.within quota max hmax)

/-! ### The redemption -/

def CouponDesk.namedCoupon (desk : CouponDesk) (row : DiscountedBooking) : Option Coupon :=
  row.booking.couponId.bind fun couponId => (desk.coupon? couponId).map ListedCoupon.coupon

variable {row : DiscountedBooking} {couponUsages : List CouponUsage}

theorem redeem_eq_ok {coupon : Option Coupon} (h : desk.redeem row = .ok (coupon, couponUsages)) :
    (coupon = desk.namedCoupon row ∧ couponUsages = desk.couponUsages ∧
        (row.booking.couponId = none ∨ desk.hasUsed row.id = true)) ∨
      ∃ listed ∈ desk.coupons, ∃ discount,
        row.booking.couponId = some listed.id ∧ desk.hasUsed row.id = false ∧
        (∀ max ∈ listed.coupon.globalUsageLimit, listed.coupon.usageCount < max) ∧
        desk.usageCount listed.id row.booking.customerId < listed.coupon.perCustomerLimit.getD 1 ∧
        coupon = some { listed.coupon with usageCount := listed.coupon.usageCount + 1 } ∧
        couponUsages = desk.couponUsages ++
          [⟨listed.id, row.booking.customerId, row.id, discount⟩] := by
  -- the branches in order: the first two have nothing to redeem, and only the last one writes
  unfold CouponDesk.redeem couponAfterRedemption at h
  split at h
  next hnone =>
    cases h
    exact .inl ⟨rfl, rfl, .inl hnone⟩
  next couponId hcoupon =>
    split at h
    next hused =>
      cases h
      exact .inl ⟨rfl, rfl, .inr hused⟩
    next hunused =>
      split at h
      · cases h
      next found hfound =>
        rw [hcoupon, Option.bind_some] at hfound
        obtain ⟨listed, hlisted, rfl⟩ := Option.map_eq_some_iff.mp hfound
        have hid : listed.id = couponId := of_decide_eq_true (List.find?_some hlisted :)
        simp only at h
        split at h
        · cases h
        · split at h
          · cases h
          next hglobal =>
            split at h
            · cases h
            next hcustomer =>
              split at h
              · cases h
              next discount hdiscount =>
                cases h
                refine .inr ⟨listed, List.mem_of_find?_eq_some hlisted, discount, ?_, ?_, ?_, ?_,
                  rfl, ?_⟩
                · rw [hcoupon, hid]
                · exact Bool.eq_false_iff.mpr hunused
                · intro max hmax
                  rw [hmax] at hglobal
                  simpa using hglobal
                · rw [hid]
                  exact not_le.mp hcustomer
                · rw [hid]
                  rfl

/-! ### The tables of a desk -/

theorem SoundCoupons.mapBookings (h : SoundCoupons desk) (bookingId : Id)
    {f : DiscountedBooking → DiscountedBooking} (hid : ∀ row, (f row).id = row.id)
    (hcoupon : ∀ row, (f row).booking.couponId = row.booking.couponId)
    (hcustomer : ∀ row, (f row).booking.customerId = row.booking.customerId) :
    SoundCoupons { desk with
      bookings := updateKey DiscountedBooking.id bookingId f desk.bookings } := by
  have hids : (updateKey DiscountedBooking.id bookingId f desk.bookings).map
      DiscountedBooking.id = desk.bookings.map DiscountedBooking.id := map_key_updateKey hid
  refine { h with bookings := ?_, named := ?_, made := ?_ }
  · rw [hids]
    exact h.bookings
  · intro usage husage row hrow hbooking
    rcases mem_updateKey.mp hrow with ⟨old, hold, -, rfl⟩ | ⟨hold, -⟩
    · rw [hcoupon, hcustomer]
      exact h.named usage husage old hold ((hid old).symm.trans hbooking)
    · exact h.named usage husage row hold hbooking
  · rw [hids]
    exact h.made

theorem SoundCoupons.insertBooking (h : SoundCoupons desk) (quoteId : Option Id)
    (hfresh : row.id ∉ desk.bookings.map DiscountedBooking.id) :
    SoundCoupons (desk.insertBooking quoteId row) := by
  refine { h with bookings := ?_, named := ?_, made := ?_ }
  · exact nodup_map_concat h.bookings hfresh
  · intro usage husage other hother hbooking
    rcases List.mem_append.mp hother with hold | hnew
    · exact h.named usage husage other hold hbooking
    · rw [List.mem_singleton.mp hnew] at hbooking
      exact absurd (hbooking ▸ h.made usage husage) hfresh
  · intro usage husage
    rw [CouponDesk.insertBooking, List.map_append]
    exact List.mem_append_left _ (h.made usage husage)

theorem SoundCoupons.createCoupon (h : SoundCoupons desk) {row : ListedCoupon}
    (hfresh : row.id ∉ desk.coupons.map ListedCoupon.id) :
    SoundCoupons { desk with coupons := desk.coupons ++ [withUsageCount 0 row] } := by
  -- no use names a coupon that is not there yet
  have hunused : ∀ quota : CouponQuota, quota.couponId ∉ desk.coupons.map ListedCoupon.id →
      used countsUse quota desk.couponUsages = 0 := by
    intro quota hquota
    refine used_eq_zero fun usage husage => Bool.eq_false_iff.mpr fun hcounts => hquota ?_
    have hcoupon : usage.couponId = quota.couponId := by
      cases quota with
      | overall couponId => exact of_decide_eq_true hcounts
      | ofCustomer couponId customerId => exact (of_decide_eq_true hcounts).1
    exact hcoupon ▸ h.known usage husage
  refine { h with coupons := ?_, counted := ?_, known := ?_, within := ?_ }
  · exact nodup_map_concat h.coupons hfresh
  · intro other hother
    rcases List.mem_append.mp hother with hold | hnew
    · exact h.counted other hold
    · rw [List.mem_singleton.mp hnew]
      exact (hunused (.overall row.id) hfresh).symm
  · intro usage husage
    rw [List.map_append]
    exact List.mem_append_left _ (h.known usage husage)
  · intro quota max hmax
    obtain ⟨found, hfound, hlimit⟩ := Option.bind_eq_some_iff.mp hmax
    rw [CouponDesk.coupon?, List.find?_append] at hfound
    -- the new row is found only where no older one is
    cases hold : desk.coupon? quota.couponId with
    | some old =>
      rw [CouponDesk.coupon?] at hold
      rw [hold, Option.some_or, Option.some.injEq] at hfound
      exact h.within quota max (Option.bind_eq_some_iff.mpr ⟨old, hold, by rwa [hfound]⟩)
    | none =>
      rw [hunused quota fun hmem => ?_]
      · exact Nat.zero_le max
      · obtain ⟨known, hknown, hid⟩ := List.mem_map.mp hmem
        exact List.find?_eq_none.mp hold known hknown (decide_eq_true hid)

/-! ### A use is written -/

theorem withUsageCount_id (usageCount : ℕ) (row : ListedCoupon) :
    (withUsageCount usageCount row).id = row.id := rfl

theorem limit_writeUse (coupon : Option Coupon) (couponUsages : List CouponUsage) :
    (desk.writeUse coupon couponUsages).limit = desk.limit := by
  cases coupon with
  | none => rfl
  | some coupon =>
    funext quota
    have hfind : (desk.writeUse (some coupon) couponUsages).coupon? quota.couponId =
        (desk.coupon? quota.couponId).map fun row =>
          if row.id = coupon.id then withUsageCount coupon.usageCount row else row :=
      find?_updateKey (withUsageCount_id coupon.usageCount) quota.couponId
    rw [CouponDesk.limit, CouponDesk.limit, hfind]
    cases desk.coupon? quota.couponId with
    | none => rfl
    | some row =>
      rw [Option.map_some, Option.bind_some, Option.bind_some]
      split
      · cases quota <;> rfl
      · rfl

theorem coupon?_eq_some (h : SoundCoupons desk) {listed : ListedCoupon}
    (hlisted : listed ∈ desk.coupons) : desk.coupon? listed.id = some listed :=
  find?_eq_some_of_mem h.coupons hlisted rfl

theorem updateKey_withUsageCount (h : SoundCoupons desk) {listed : ListedCoupon}
    (hlisted : listed ∈ desk.coupons) :
    updateKey ListedCoupon.id listed.id (withUsageCount listed.coupon.usageCount) desk.coupons =
      desk.coupons := by
  rw [updateKey]
  conv_rhs => rw [← List.map_id desk.coupons]
  refine List.map_congr_left fun row hrow => ?_
  split
  next hid =>
    rw [eq_of_key_eq h.coupons hrow hlisted hid]
    rfl
  · rfl

theorem writeUse_namedCoupon (h : SoundCoupons desk) (row : DiscountedBooking) :
    desk.writeUse (desk.namedCoupon row) desk.couponUsages = desk := by
  cases hcoupon : desk.namedCoupon row with
  | none => rfl
  | some coupon =>
    obtain ⟨couponId, -, hfound⟩ := Option.bind_eq_some_iff.mp hcoupon
    obtain ⟨listed, hlisted, rfl⟩ := Option.map_eq_some_iff.mp hfound
    have hsame := updateKey_withUsageCount h (List.mem_of_find?_eq_some hlisted)
    unfold CouponDesk.writeUse
    simp only [Option.elim]
    rw [show updateKey ListedCoupon.id listed.coupon.id
      (withUsageCount listed.coupon.usageCount) desk.coupons = desk.coupons from hsame]

theorem usageCount_eq_used (couponId customerId : Id) :
    desk.usageCount couponId customerId =
      used countsUse (.ofCustomer couponId customerId) desk.couponUsages := by
  rw [CouponDesk.usageCount, used, List.countP_eq_length_filter]
  rfl

theorem SoundCoupons.addUse (h : SoundCoupons desk) (hrow : row ∈ desk.bookings)
    {listed : ListedCoupon} (hlisted : listed ∈ desk.coupons)
    (hcoupon : row.booking.couponId = some listed.id) (discount : Money)
    (hglobal : ∀ max ∈ listed.coupon.globalUsageLimit, listed.coupon.usageCount < max)
    (hcustomer : desk.usageCount listed.id row.booking.customerId <
      listed.coupon.perCustomerLimit.getD 1) :
    SoundCoupons (desk.writeUse
      (some { listed.coupon with usageCount := listed.coupon.usageCount + 1 })
      (desk.couponUsages ++ [⟨listed.id, row.booking.customerId, row.id, discount⟩])) := by
  set usage : CouponUsage := ⟨listed.id, row.booking.customerId, row.id, discount⟩ with husage
  have hids : (updateKey ListedCoupon.id listed.id
      (withUsageCount (listed.coupon.usageCount + 1)) desk.coupons).map ListedCoupon.id =
      desk.coupons.map ListedCoupon.id := map_key_updateKey (withUsageCount_id _)
  constructor
  case coupons => exact hids.symm ▸ h.coupons
  case bookings => exact h.bookings
  case counted =>
    intro other hother
    rcases mem_updateKey.mp hother with ⟨old, hold, hid, rfl⟩ | ⟨hold, hne⟩
    · have hsame : old = listed := eq_of_key_eq h.coupons hold hlisted hid
      have hcounts : countsUse (.overall listed.id) usage = true := decide_eq_true rfl
      have hmore : used countsUse (.overall listed.id) (desk.couponUsages ++ [usage]) =
          listed.coupon.usageCount + 1 := by
        rw [used_concat_of_counts hcounts, h.counted listed hlisted]
      rw [hsame]
      exact hmore.symm
    · have hnot : countsUse (.overall other.id) usage = false :=
        decide_eq_false fun heq => hne heq.symm
      have hsame : used countsUse (.overall other.id) (desk.couponUsages ++ [usage]) =
          other.coupon.usageCount := by
        rw [used_concat_of_not_counts hnot, h.counted other hold]
      exact hsame.symm
  case known =>
    intro other hother
    refine hids.symm ▸ ?_
    rcases List.mem_append.mp hother with hold | hnew
    · exact h.known other hold
    · rw [List.mem_singleton.mp hnew]
      exact List.mem_map_of_mem hlisted
  -- the limits are read from the row under its lock, the counts from the uses
  case within =>
    rw [limit_writeUse]
    refine (within_concat h.within).mpr fun quota hcounts max hmax => ?_
    cases quota with
    | overall couponId =>
      have hid : listed.id = couponId := of_decide_eq_true hcounts
      subst hid
      rw [CouponDesk.limit, CouponQuota.couponId, coupon?_eq_some h hlisted,
        Option.bind_some] at hmax
      rw [← h.counted listed hlisted]
      exact hglobal max hmax
    | ofCustomer couponId customerId =>
      obtain ⟨hid, hby⟩ := of_decide_eq_true hcounts
      simp only [usage] at hid hby
      subst hid hby
      rw [CouponDesk.limit, CouponQuota.couponId, coupon?_eq_some h hlisted,
        Option.bind_some] at hmax
      cases hmax
      rw [← usageCount_eq_used]
      exact hcustomer
  case named =>
    intro other hother booking hbooking hid
    rcases List.mem_append.mp hother with hold | hnew
    · exact h.named other hold booking hbooking hid
    · rw [List.mem_singleton.mp hnew] at hid ⊢
      rw [eq_of_key_eq h.bookings hbooking hrow hid]
      exact ⟨hcoupon, rfl⟩
  case made =>
    intro other hother
    rcases List.mem_append.mp hother with hold | hnew
    · exact h.made other hold
    · rw [List.mem_singleton.mp hnew]
      exact List.mem_map_of_mem hrow

theorem SoundCoupons.redeem (h : SoundCoupons desk) (hrow : row ∈ desk.bookings)
    {coupon : Option Coupon} (hredeem : desk.redeem row = .ok (coupon, couponUsages)) :
    SoundCoupons (desk.writeUse coupon couponUsages) ∧
      (∀ usage ∈ desk.couponUsages, usage ∈ couponUsages) ∧
      ∀ couponId ∈ row.booking.couponId, ∃ usage ∈ couponUsages, usage.bookingId = row.id ∧
        usage.couponId = couponId ∧ usage.customerId = row.booking.customerId := by
  rcases redeem_eq_ok hredeem with ⟨rfl, rfl, hdone⟩ |
    ⟨listed, hlisted, discount, hcoupon, -, hglobal, hcustomer, rfl, rfl⟩
  · rw [writeUse_namedCoupon h row]
    refine ⟨h, fun usage husage => husage, fun couponId hcoupon => ?_⟩
    rcases hdone with hnone | hused
    · rw [hnone] at hcoupon
      cases hcoupon
    · obtain ⟨usage, husage, hbooking⟩ := List.any_eq_true.mp hused
      have hid := of_decide_eq_true hbooking
      obtain ⟨hnamed, hby⟩ := h.named usage husage row hrow hid.symm
      rw [Option.mem_def.mp hcoupon, Option.some.injEq] at hnamed
      exact ⟨usage, husage, hid, hnamed.symm, hby.symm⟩
  · refine ⟨h.addUse hrow hlisted hcoupon discount hglobal hcustomer,
      fun usage husage => List.mem_append_left _ husage, fun couponId hnamed => ?_⟩
    rw [hcoupon, Option.mem_def, Option.some.injEq] at hnamed
    exact ⟨_, List.mem_append_right _ (List.mem_singleton_self _), rfl, hnamed, rfl⟩

/-! ### The law in one step -/

theorem SoundCoupons.law_iff (h : SoundCoupons desk) : CouponLaw desk ↔ UsesRecorded desk :=
  ⟨CouponLaw.recorded, fun hrecorded => ⟨hrecorded, h.limited hrecorded⟩⟩

theorem UsesRecorded.mono (h : UsesRecorded desk) (hbookings : next.bookings = desk.bookings)
    (husages : ∀ usage ∈ desk.couponUsages, usage ∈ next.couponUsages) : UsesRecorded next := by
  intro row hrow couponId hcoupon
  rw [hbookings] at hrow
  obtain ⟨hnamed, hused⟩ := h row hrow couponId hcoupon
  refine ⟨hnamed, fun hpaid => ?_⟩
  obtain ⟨usage, husage, hsame⟩ := hused hpaid
  exact ⟨usage, husages usage husage, hsame⟩

theorem UsesRecorded.insertBooking_iff (h : UsesRecorded desk) (quoteId : Option Id)
    (row : DiscountedBooking) :
    UsesRecorded (desk.insertBooking quoteId row) ↔
      ∀ couponId ∈ row.discountedBy, UseRecorded desk row couponId := by
  constructor
  · intro hnext couponId hcoupon
    exact hnext row (List.mem_append_right _ (List.mem_singleton_self _)) couponId hcoupon
  · intro hnew other hother couponId hcoupon
    rcases List.mem_append.mp hother with hold | hlast
    · exact h other hold couponId hcoupon
    · rw [List.mem_singleton.mp hlast] at hcoupon ⊢
      exact hnew couponId hcoupon

theorem UsesRecorded.setPaid_iff (h : UsesRecorded desk)
    (hnodup : (desk.bookings.map DiscountedBooking.id).Nodup) (hrow : row ∈ desk.bookings) :
    UsesRecorded (desk.setPayment row.id .paid) ↔
      ∀ couponId ∈ row.discountedBy, ∃ usage ∈ desk.couponUsages, usage.bookingId = row.id ∧
        usage.couponId = couponId ∧ usage.customerId = row.booking.customerId := by
  constructor
  · intro hnext couponId hcoupon
    have hupdated : { row with payment := some PaymentStatus.paid } ∈
        (desk.setPayment row.id .paid).bookings :=
      mem_updateKey.mpr (.inl ⟨row, hrow, rfl, rfl⟩)
    exact (hnext _ hupdated couponId hcoupon).2 rfl
  · intro hused other hother couponId hcoupon
    rcases mem_updateKey.mp hother with ⟨old, hold, hid, rfl⟩ | ⟨hold, -⟩
    · have hsame : old = row := eq_of_key_eq hnodup hold hrow hid
      subst hsame
      exact ⟨(h old hold couponId hcoupon).1, fun _ => hused couponId hcoupon⟩
    · exact h other hold couponId hcoupon

theorem UsesRecorded.changePayment (h : UsesRecorded desk) (bookingId : Id)
    {payment : PaymentStatus} (hpayment : payment ≠ .paid) :
    UsesRecorded (desk.setPayment bookingId payment) := by
  intro other hother couponId hcoupon
  rcases mem_updateKey.mp hother with ⟨old, hold, -, rfl⟩ | ⟨hold, -⟩
  · exact ⟨(h old hold couponId hcoupon).1, fun hpaid =>
      absurd (Option.some.inj hpaid) hpayment⟩
  · exact h other hold couponId hcoupon

theorem UsesRecorded.setStatus (h : UsesRecorded desk) (bookingId : Id) (status : BookingStatus) :
    UsesRecorded { desk with
      bookings := updateKey DiscountedBooking.id bookingId (withStatus status)
        desk.bookings } := by
  intro other hother couponId hcoupon
  rcases mem_updateKey.mp hother with ⟨old, hold, -, rfl⟩ | ⟨hold, -⟩
  · exact h old hold couponId hcoupon
  · exact h other hold couponId hcoupon

/-! ### Bookings -/

theorem createBooking_recorded_iff (h : UsesRecorded desk) (draft : Booking)
    (couponCode : Option String) (eligible : Bool) (discount : Money) (quoteId : Option Id)
    (admitted : Bool) :
    UsesRecorded (desk.createBooking draft couponCode eligible discount quoteId admitted) ↔
      RecordsUse desk (.createBooking draft couponCode eligible discount quoteId admitted) := by
  unfold CouponDesk.createBooking
  cases hcoupon : desk.sentCoupon draft.customerId couponCode eligible with
  | error e =>
    refine iff_of_true h fun _ _ _ _ _ _ coupon hsent => ?_
    rw [hcoupon] at hsent
    cases hsent
  | ok coupon =>
    cases hquote : desk.sentQuote quoteId with
    | error e =>
      refine iff_of_true h fun _ _ quote hsent => ?_
      rw [hquote] at hsent
      cases hsent
    | ok quote =>
      simp only
      split
      next hrefused =>
        refine iff_of_true h fun hadmitted hfresh => ?_
        rcases hrefused with hnot | hclash
        · rw [hadmitted] at hnot
          cases hnot
        · exact absurd hclash hfresh
      next haccepted =>
        obtain ⟨hadmitted, hfresh⟩ := not_or.mp haccepted
        have hunpaid : ∀ couponId, UseRecorded desk
            (CouponDesk.requestedBooking draft coupon discount quote) couponId ↔
            coupon.map Coupon.id = some couponId :=
          fun couponId => and_iff_left fun hpaid => by cases hpaid
        rw [h.insertBooking_iff]
        constructor
        · intro hrecorded _ _ found hfound couponId hdiscount other hother
          rw [hcoupon] at hother
          rw [hquote] at hfound
          cases hother
          cases hfound
          exact (hunpaid couponId).mp (hrecorded couponId hdiscount)
        · intro hnames couponId hdiscount
          refine (hunpaid couponId).mpr ?_
          cases quote with
          | none =>
            -- Without a quote the discount is that of the code which is sent.
            have hsent : CouponDesk.discounting coupon discount = some couponId := hdiscount
            unfold CouponDesk.discounting at hsent
            split at hsent
            · exact hsent
            · cases hsent
          | some quote =>
            exact hnames (by simpa using hadmitted) hfresh quote hquote couponId hdiscount
              coupon hcoupon

theorem confirmCheckout_recorded_iff (h : UsesRecorded desk) (draft : Booking) (quoteId : Id)
    (admitted : Bool) :
    UsesRecorded (desk.confirmCheckout draft quoteId admitted) ↔
      RecordsUse desk (.confirmCheckout draft quoteId admitted) := by
  unfold CouponDesk.confirmCheckout
  cases hquote : desk.quote? quoteId with
  | none =>
    refine iff_of_true h fun _ _ quote hmem => ?_
    rw [hquote] at hmem
    cases hmem
  | some quote =>
    simp only
    split
    next hrefused =>
      refine iff_of_true h fun hadmitted hfresh => ?_
      rcases hrefused with hnot | hclash
      · rw [hadmitted] at hnot
        cases hnot
      · exact absurd hclash hfresh
    next haccepted =>
      obtain ⟨hadmitted, hfresh⟩ := not_or.mp haccepted
      rw [h.insertBooking_iff]
      constructor
      · intro hrecorded _ _ found hfound
        rw [hquote] at hfound
        cases hfound
        refine Option.eq_none_iff_forall_not_mem.mpr fun couponId hcoupon => ?_
        cases (hrecorded couponId hcoupon).1
      · intro hnone couponId hcoupon
        have hdiscount : quote.couponId = some couponId := hcoupon
        rw [hnone (by simpa using hadmitted) hfresh quote hquote] at hdiscount
        cases hdiscount

/-! ### Payments -/

theorem payable_eq_some {bookingId : Id} {admitted : Bool}
    (h : desk.payable bookingId admitted = some row) :
    row ∈ desk.bookings ∧ row.id = bookingId := by
  obtain ⟨hfound, -⟩ := Option.filter_eq_some_iff.mp h
  exact ⟨List.mem_of_find?_eq_some hfound, of_decide_eq_true (List.find?_some hfound :)⟩

theorem hasUsed_of_redeem_error {e : HttpError} (h : desk.redeem row = .error e)
    : desk.hasUsed row.id = false := by
  refine Bool.eq_false_iff.mpr fun hused => ?_
  unfold CouponDesk.redeem couponAfterRedemption at h
  split at h
  · cases h
  · split at h
    · cases h
    next hunused => exact hunused hused

theorem SoundCoupons.redeemed (h : SoundCoupons desk) (hrecorded : UsesRecorded desk)
    (hrow : row ∈ desk.bookings) {coupon : Option Coupon}
    (hredeem : desk.redeem row = .ok (coupon, couponUsages)) :
    UsesRecorded ((desk.writeUse coupon couponUsages).setPayment row.id .paid) := by
  obtain ⟨-, hmore, hused⟩ := h.redeem hrow hredeem
  have hwritten : UsesRecorded (desk.writeUse coupon couponUsages) := hrecorded.mono rfl hmore
  exact (hwritten.setPaid_iff h.bookings hrow).mpr fun couponId hcoupon =>
    hused couponId (hrecorded row hrow couponId hcoupon).1

theorem SoundCoupons.captured_iff (h : SoundCoupons desk) (hrecorded : UsesRecorded desk)
    (hrow : row ∈ desk.bookings) :
    UsesRecorded (desk.setPayment row.id .paid) ↔
      (row.discountedBy.isSome = true → desk.hasUsed row.id = true) := by
  rw [hrecorded.setPaid_iff h.bookings hrow]
  constructor
  · intro hused hsome
    obtain ⟨couponId, hcoupon⟩ := Option.isSome_iff_exists.mp hsome
    obtain ⟨usage, husage, hbooking, -⟩ := hused couponId hcoupon
    exact List.any_eq_true.mpr ⟨usage, husage, decide_eq_true hbooking⟩
  · intro hused couponId hcoupon
    have hsome : row.discountedBy.isSome = true := Option.isSome_of_mem hcoupon
    obtain ⟨usage, husage, hbooking⟩ := List.any_eq_true.mp (hused hsome)
    have hid := of_decide_eq_true hbooking
    obtain ⟨hnamed, hcustomer⟩ := h.named usage husage row hrow hid.symm
    rw [(hrecorded row hrow couponId hcoupon).1, Option.some.injEq] at hnamed
    exact ⟨usage, husage, hid, hnamed.symm, hcustomer.symm⟩

theorem SoundCoupons.setPayment (h : SoundCoupons desk) (bookingId : Id)
    (payment : PaymentStatus) : SoundCoupons (desk.setPayment bookingId payment) :=
  h.mapBookings bookingId (fun _ => rfl) (fun _ => rfl) fun _ => rfl

theorem verifyPayment_recorded (h : SoundCoupons desk) (hrecorded : UsesRecorded desk)
    (bookingId : Id) (admitted : Bool) :
    UsesRecorded (desk.verifyPayment bookingId admitted) := by
  unfold CouponDesk.verifyPayment
  split
  · exact hrecorded
  next row hpayable =>
    obtain ⟨hrow, rfl⟩ := payable_eq_some hpayable
    split
    · exact hrecorded
    next coupon couponUsages hredeem => exact h.redeemed hrecorded hrow hredeem

theorem capturePayment_recorded_iff (h : SoundCoupons desk) (hrecorded : UsesRecorded desk)
    (bookingId : Id) (admitted : Bool) :
    UsesRecorded (desk.capturePayment bookingId admitted) ↔
      RecordsUse desk (.capturePayment bookingId admitted) := by
  unfold CouponDesk.capturePayment
  cases hpayable : desk.payable bookingId admitted with
  | none =>
    refine iff_of_true hrecorded fun row hmem => ?_
    rw [hpayable] at hmem
    cases hmem
  | some row =>
    obtain ⟨hrow, rfl⟩ := payable_eq_some hpayable
    simp only
    rw [h.captured_iff hrecorded hrow]
    constructor
    · intro hused found hmem
      rw [hpayable] at hmem
      cases hmem
      exact hused
    · exact fun hused => hused row hpayable

theorem reconcilePayment_recorded_iff (h : SoundCoupons desk) (hrecorded : UsesRecorded desk)
    (bookingId : Id) (admitted : Bool) :
    UsesRecorded (desk.reconcilePayment bookingId admitted) ↔
      RecordsUse desk (.reconcilePayment bookingId admitted) := by
  unfold CouponDesk.reconcilePayment
  cases hpayable : desk.payable bookingId admitted with
  | none =>
    refine iff_of_true hrecorded fun row hmem => ?_
    rw [hpayable] at hmem
    cases hmem
  | some row =>
    obtain ⟨hrow, rfl⟩ := payable_eq_some hpayable
    have hcondition : RecordsUse desk (.reconcilePayment row.id admitted) ↔
        (row.discountedBy.isSome = true →
          ∀ message, desk.redeem row ≠ .error (.badRequest message)) := by
      constructor
      · exact fun hredeems => hredeems row hpayable
      · intro hredeems found hmem
        rw [hpayable] at hmem
        cases hmem
        exact hredeems
    rw [hcondition]
    simp only
    split
    -- the redemption goes through and is recorded
    next coupon couponUsages hredeem =>
      refine iff_of_true (h.redeemed hrecorded hrow hredeem) fun _ message => ?_
      rw [hredeem]
      exact fun hne => by cases hne
    -- a refused redemption is logged, and the payment is captured all the same
    next message hredeem =>
      rw [h.captured_iff hrecorded hrow, hasUsed_of_redeem_error hredeem, hredeem]
      constructor
      · exact fun hused hsome => absurd (hused hsome) Bool.false_ne_true
      · exact fun hredeems hsome => absurd rfl (hredeems hsome message)
    -- any other error stops the reconciliation of this booking
    next e hother hredeem =>
      refine iff_of_true hrecorded fun _ message heq => ?_
      rw [hredeem] at heq
      cases heq
      exact hother message rfl

/-! ### Steps -/

theorem addQuote_sound (h : SoundCoupons desk) (id : Id) (coupon : Option Coupon)
    (discount discountTotal : Money) :
    SoundCoupons (desk.addQuote id coupon discount discountTotal) := by
  unfold CouponDesk.addQuote
  split
  · exact h
  · exact { h with }

theorem addQuote_recorded (h : UsesRecorded desk) (id : Id) (coupon : Option Coupon)
    (discount discountTotal : Money) :
    UsesRecorded (desk.addQuote id coupon discount discountTotal) := by
  unfold CouponDesk.addQuote
  split
  · exact h
  · exact h.mono rfl fun _ husage => husage

theorem createBooking_sound (h : SoundCoupons desk) (draft : Booking)
    (couponCode : Option String) (eligible : Bool) (discount : Money) (quoteId : Option Id)
    (admitted : Bool) :
    SoundCoupons (desk.createBooking draft couponCode eligible discount quoteId admitted) := by
  unfold CouponDesk.createBooking
  split
  · split
    · exact h
    next haccepted => exact h.insertBooking quoteId (not_or.mp haccepted).2
  · exact h

theorem confirmCheckout_sound (h : SoundCoupons desk) (draft : Booking) (quoteId : Id)
    (admitted : Bool) : SoundCoupons (desk.confirmCheckout draft quoteId admitted) := by
  unfold CouponDesk.confirmCheckout
  split
  · exact h
  · split
    · exact h
    next haccepted => exact h.insertBooking (some quoteId) (not_or.mp haccepted).2

theorem SoundCoupons.pay (h : SoundCoupons desk) (hrow : row ∈ desk.bookings)
    {coupon : Option Coupon} (hredeem : desk.redeem row = .ok (coupon, couponUsages)) :
    SoundCoupons ((desk.writeUse coupon couponUsages).setPayment row.id .paid) :=
  (h.redeem hrow hredeem).1.setPayment row.id .paid

theorem verifyPayment_sound (h : SoundCoupons desk) (bookingId : Id) (admitted : Bool) :
    SoundCoupons (desk.verifyPayment bookingId admitted) := by
  unfold CouponDesk.verifyPayment
  split
  · exact h
  next row hpayable =>
    obtain ⟨hrow, rfl⟩ := payable_eq_some hpayable
    split
    · exact h
    next hredeem => exact h.pay hrow hredeem

theorem capturePayment_sound (h : SoundCoupons desk) (bookingId : Id) (admitted : Bool) :
    SoundCoupons (desk.capturePayment bookingId admitted) := by
  unfold CouponDesk.capturePayment
  split
  · exact h
  · exact h.setPayment bookingId .paid

theorem reconcilePayment_sound (h : SoundCoupons desk) (bookingId : Id) (admitted : Bool) :
    SoundCoupons (desk.reconcilePayment bookingId admitted) := by
  unfold CouponDesk.reconcilePayment
  split
  · exact h
  next row hpayable =>
    obtain ⟨hrow, rfl⟩ := payable_eq_some hpayable
    split
    next hredeem => exact h.pay hrow hredeem
    · exact h.setPayment row.id .paid
    · exact h

theorem couponStep_sound (h : SoundCoupons desk) (action : CouponAction) :
    SoundCoupons (couponStep desk action) := by
  cases action with
  | createCoupon row =>
    simp only [couponStep]
    split
    · exact h
    next hnew =>
      refine h.createCoupon fun hmem => hnew ?_
      obtain ⟨other, hother, hid⟩ := List.mem_map.mp hmem
      exact List.any_eq_true.mpr ⟨other, hother, decide_eq_true (.inr hid)⟩
  | generateQuote id customerId couponCode eligible discount discountTotal =>
    simp only [couponStep, CouponDesk.generateQuote]
    split
    · exact addQuote_sound h id none discount discountTotal
    · split
      · exact h
      next coupon _ => exact addQuote_sound h id (some coupon) discount discountTotal
  | createMarketplaceQuote id customerId couponCode eligible discount discountTotal =>
    exact addQuote_sound h id _ discount discountTotal
  | retireQuote quoteId => exact { h with }
  | createBooking draft couponCode eligible discount quoteId admitted =>
    exact createBooking_sound h draft couponCode eligible discount quoteId admitted
  | confirmCheckout draft quoteId admitted =>
    exact confirmCheckout_sound h draft quoteId admitted
  | verifyPayment bookingId admitted => exact verifyPayment_sound h bookingId admitted
  | capturePayment bookingId admitted => exact capturePayment_sound h bookingId admitted
  | reconcilePayment bookingId admitted => exact reconcilePayment_sound h bookingId admitted
  | changePayment bookingId payment =>
    simp only [couponStep]
    split
    · exact h
    · exact h.setPayment bookingId payment
  | setStatus bookingId status =>
    exact h.mapBookings bookingId (fun _ => rfl) (fun _ => rfl) fun _ => rfl
  | advance milliseconds => exact { h with }

theorem couponStep_recorded_iff (h : SoundCoupons desk) (hrecorded : UsesRecorded desk)
    (action : CouponAction) :
    UsesRecorded (couponStep desk action) ↔ RecordsUse desk action := by
  cases action with
  | createCoupon row =>
    refine iff_of_true ?_ trivial
    simp only [couponStep]
    split
    · exact hrecorded
    · exact hrecorded.mono rfl fun _ husage => husage
  | generateQuote id customerId couponCode eligible discount discountTotal =>
    refine iff_of_true ?_ trivial
    simp only [couponStep, CouponDesk.generateQuote]
    split
    · exact addQuote_recorded hrecorded id none discount discountTotal
    · split
      · exact hrecorded
      next coupon _ => exact addQuote_recorded hrecorded id (some coupon) discount discountTotal
  | createMarketplaceQuote id customerId couponCode eligible discount discountTotal =>
    exact iff_of_true (addQuote_recorded hrecorded id _ discount discountTotal) trivial
  | retireQuote quoteId =>
    exact iff_of_true (hrecorded.mono rfl fun _ husage => husage) trivial
  | createBooking draft couponCode eligible discount quoteId admitted =>
    exact createBooking_recorded_iff hrecorded draft couponCode eligible discount quoteId
      admitted
  | confirmCheckout draft quoteId admitted =>
    exact confirmCheckout_recorded_iff hrecorded draft quoteId admitted
  | verifyPayment bookingId admitted =>
    exact iff_of_true (verifyPayment_recorded h hrecorded bookingId admitted) trivial
  | capturePayment bookingId admitted =>
    exact capturePayment_recorded_iff h hrecorded bookingId admitted
  | reconcilePayment bookingId admitted =>
    exact reconcilePayment_recorded_iff h hrecorded bookingId admitted
  | changePayment bookingId payment =>
    refine iff_of_true ?_ trivial
    simp only [couponStep]
    split
    · exact hrecorded
    next hpayment => exact hrecorded.changePayment bookingId hpayment
  | setStatus bookingId status =>
    exact iff_of_true (hrecorded.setStatus bookingId status) trivial
  | advance milliseconds =>
    exact iff_of_true (hrecorded.mono rfl fun _ husage => husage) trivial

theorem couponStep_law_iff (h : SoundCoupons desk) (hlaw : CouponLaw desk)
    (action : CouponAction) :
    CouponLaw (couponStep desk action) ↔ RecordsUse desk action :=
  (couponStep_sound h action).law_iff.trans (couponStep_recorded_iff h hlaw.recorded action)

end Laws

/-! ## Runs -/

def CouponDesk.opening (now : ℤ) : CouponDesk := ⟨[], [], [], [], now⟩

theorem soundCoupons_opening (now : ℤ) : SoundCoupons (.opening now) := by
  constructor
  case within => exact within_nil
  all_goals simp [CouponDesk.opening]

theorem couponLaw_opening (now : ℤ) : CouponLaw (.opening now) :=
  (soundCoupons_opening now).law_iff.mpr fun _ hrow => by cases hrow

/-- Each use is recorded and the limits hold all through exactly the runs in which a quote's
discount is booked with its code, no checkout has one, and no payment of a discounted booking
passes the redemption by. -/
theorem coupon_law_iff (now : ℤ) (actions : List CouponAction) :
    Everywhere couponStep CouponLaw (.opening now) actions ↔
      Along couponStep RecordsUse (.opening now) actions :=
  everywhere_iff_along_of_invariant (fun _ action h => couponStep_sound h action)
    (fun _ action _ h hlaw => couponStep_law_iff h hlaw action) (soundCoupons_opening now)
    (couponLaw_opening now)

def onceCoupon : ListedCoupon := ⟨⟨"coupon", true, some 1, some 1, 0⟩, "ONCE", none, none⟩

/-- A quote with the coupon is booked without sending the code again, twice. -/
def quotedTwice : List CouponAction :=
  [.createCoupon onceCoupon,
    .generateQuote "quote" (some "customer") (some "ONCE") true sampleDeposit sampleDeposit,
    .generateQuote "other" (some "customer") (some "ONCE") true sampleDeposit sampleDeposit,
    .createBooking { sampleBooking with id := "one" } none true sampleDeposit (some "quote") true,
    .verifyPayment "one" true,
    .createBooking { sampleBooking with id := "two" } none true sampleDeposit (some "other") true,
    .verifyPayment "two" true]

theorem coupon_used_above_limit :
    ¬ Everywhere couponStep CouponLaw (.opening 0) quotedTwice := by
  intro h
  have hlimited := h.last.limited (.overall "coupon") 1 (by decide)
  exact absurd hlimited (by decide)

end CarRental
