import CarRental.Finance.JournalTotals
import CarRental.Payments.OrphanedRefunds

/-!
# The two reversal journals

A cancellation and the reconciliation of an orphaned refund should reverse the same refund by
the same lines, all positive, with debits equal to credits.

The lines are the same: both are the one split (`reconcileReversalLines_eq`).  They need not
balance.  The platform's share is what the other shares leave over, and it is left out if it is
not positive: a discount that is larger than the platform's part of the fare makes it negative.
And the shares are products by a ratio in decimal arithmetic with 20 digits, so that the two
totals that `recordJournal` compares may differ in the last digit.

## Strategy

`exactReversal` is the split without rounding, and its shares always add up to the refund.
Where no digit is lost the code computes just that (`reversal_exact`), and what remains of the
debits is the refund exactly if no share is negative (`reversals_agree_iff`).
-/

namespace CarRental

open DoubleEntry Rounding

/-! ## The split without rounding -/

def fareRefund (securityDeposit : Option SecurityDeposit) (refundRupees : Decimal) : Decimal :=
  refundRupees - depositRefund securityDeposit refundRupees

/-- The part of the fare that goes back. -/
def refundRatio (booking : Booking) (securityDeposit : Option SecurityDeposit)
    (refundRupees : Decimal) : Decimal :=
  fareRefund securityDeposit refundRupees / booking.totalFare.value

/-- The split in exact arithmetic. -/
def exactReversal (booking : Booking) (securityDeposit : Option SecurityDeposit)
    (refundRupees : Decimal) : Reversal :=
  let fareRefund := fareRefund securityDeposit refundRupees
  let ratio := refundRatio booking securityDeposit refundRupees
  let vendorReversal :=
    if fareRefund ≤ 0 then 0
    else if 0 < booking.totalFare.value then
      min booking.netToVendor.value (booking.netToVendor.value * ratio)
    else min booking.netToVendor.value fareRefund
  let gstReversal :=
    if 0 < fareRefund ∧ 0 < booking.totalFare.value then booking.gstAmount.value * ratio else 0
  { depositRefund := depositRefund securityDeposit refundRupees
    vendorReversal
    platformReversal := fareRefund - vendorReversal - gstReversal
    gstReversal }

/-- The ratio is a decimal fraction, and short enough that no sum of the shares needs more
digits than the arithmetic has. -/
def KeepsDigits (booking : Booking) (securityDeposit : Option SecurityDeposit)
    (refundRupees : Decimal) : Prop :=
  0 < booking.totalFare.value → 0 < fareRefund securityDeposit refundRupees →
    ∃ places : ℕ, OnGrid places (refundRatio booking securityDeposit refundRupees) ∧
      2 * (refundRupees +
          (|booking.netToVendor.value| + |booking.platformFee.value| + |booking.gstAmount.value|) *
            (1 + refundRatio booking securityDeposit refundRupees)) * 10 ^ (places + 2) <
        10 ^ Decimal.precision

/-- The fare that goes back covers the vendor's and the tax's share of it, and neither is
negative. -/
def SharesCover (booking : Booking) (securityDeposit : Option SecurityDeposit)
    (refundRupees : Decimal) : Prop :=
  0 < fareRefund securityDeposit refundRupees →
    0 ≤ booking.netToVendor.value ∧
      (0 < booking.totalFare.value →
        0 ≤ booking.gstAmount.value ∧
          min booking.netToVendor.value
              (booking.netToVendor.value * refundRatio booking securityDeposit refundRupees) +
            booking.gstAmount.value * refundRatio booking securityDeposit refundRupees ≤
          fareRefund securityDeposit refundRupees)

namespace Reversal

/-- The amounts of the debit lines, before what is not positive is left out. -/
def shares (split : Reversal) : List Decimal :=
  [split.depositRefund, split.vendorReversal, split.platformReversal, split.gstReversal]

end Reversal

section Split

variable (booking : Booking) (securityDeposit : Option SecurityDeposit) {refundRupees : Decimal}

theorem depositRefund_nonneg (h : 0 ≤ refundRupees) :
    0 ≤ depositRefund securityDeposit refundRupees := by
  unfold depositRefund
  split
  · exact le_rfl
  · split
    next hheld => exact le_min hheld.1.le h
    · exact le_rfl

theorem depositRefund_le (h : 0 ≤ refundRupees) :
    depositRefund securityDeposit refundRupees ≤ refundRupees := by
  unfold depositRefund
  split
  · exact h
  · split
    · exact min_le_right _ _
    · exact h

theorem onGrid_depositRefund (h : OnGrid 2 refundRupees) :
    OnGrid 2 (depositRefund securityDeposit refundRupees) := by
  unfold depositRefund
  split
  · exact onGrid_zero
  · split
    next deposit _ => exact deposit.amount.onGrid_value.min h
    · exact onGrid_zero

theorem sum_shares_exactReversal (refundRupees : Decimal) :
    (exactReversal booking securityDeposit refundRupees).shares.sum = refundRupees := by
  simp only [Reversal.shares, exactReversal, fareRefund, List.sum_cons, List.sum_nil]
  ring

theorem sharesCover_iff (h : 0 ≤ refundRupees) :
    SharesCover booking securityDeposit refundRupees ↔
      ∀ share ∈ (exactReversal booking securityDeposit refundRupees).shares, 0 ≤ share := by
  have hdeposit := depositRefund_nonneg securityDeposit h
  simp only [Reversal.shares, List.mem_cons, List.not_mem_nil, or_false, forall_eq_or_imp, forall_eq]
  unfold SharesCover exactReversal
  dsimp only
  by_cases hfare : 0 < fareRefund securityDeposit refundRupees
  case neg =>
    have hzero : fareRefund securityDeposit refundRupees = 0 :=
      le_antisymm (not_lt.mp hfare) (sub_nonneg.mpr (depositRefund_le securityDeposit h))
    refine iff_of_true (fun h => absurd h hfare) ?_
    simp [hzero, hdeposit]
  rw [forall_prop_of_true hfare, if_neg (not_le.mpr hfare)]
  by_cases htotal : 0 < booking.totalFare.value
  case neg =>
    rw [if_neg htotal, if_neg fun h => htotal h.2, sub_zero]
    constructor
    · rintro ⟨hnet, -⟩
      exact ⟨hdeposit, le_min hnet hfare.le, sub_nonneg.mpr (min_le_right _ _), le_rfl⟩
    · rintro ⟨-, hvendor, -, -⟩
      exact ⟨hvendor.trans (min_le_left _ _), fun h => absurd h htotal⟩
  have hratio : 0 < refundRatio booking securityDeposit refundRupees := div_pos hfare htotal
  rw [if_pos htotal, if_pos ⟨hfare, htotal⟩, forall_prop_of_true htotal]
  constructor
  · rintro ⟨hnet, hgst, hcover⟩
    exact ⟨hdeposit, le_min hnet (mul_nonneg hnet hratio.le), by linarith,
      mul_nonneg hgst hratio.le⟩
  · rintro ⟨-, hvendor, hplatform, hgst⟩
    exact ⟨hvendor.trans (min_le_left _ _), nonneg_of_mul_nonneg_left hgst hratio, by linarith⟩

end Split

/-! ## The split as the code computes it -/

section Exact

variable {booking : Booking} {securityDeposit : Option SecurityDeposit} {refundRupees : Decimal}

theorem toDigits_of_le {places : ℕ} {bound x : Decimal}
    (hbound : bound * 10 ^ places < 10 ^ Decimal.precision) (hgrid : OnGrid places x)
    (hle : |x| ≤ bound) : toDigits Decimal.precision x = x :=
  toDigits_of_onGrid hgrid
    (lt_of_le_of_lt (mul_le_mul_of_nonneg_right hle (by positivity)) hbound)

theorem sub_depositRefund (securityDeposit : Option SecurityDeposit)
    (hgrid : OnGrid 2 refundRupees) (hpos : 0 < refundRupees) (hlt : refundRupees < 10 ^ 8) :
    Decimal.sub refundRupees (depositRefund securityDeposit refundRupees) =
      fareRefund securityDeposit refundRupees := by
  have hnonneg := depositRefund_nonneg securityDeposit hpos.le
  have hle := depositRefund_le securityDeposit hpos.le
  refine toDigits_of_onGrid (hgrid.sub (onGrid_depositRefund securityDeposit hgrid)) ?_
  rw [abs_of_nonneg (by linarith)]
  norm_num [Decimal.precision]
  linarith

theorem abs_min_netToVendor_le (booking : Booking) {fare : Decimal} (hnonneg : 0 ≤ fare)
    (hlt : fare < 10 ^ 8) :
    |min booking.netToVendor.value fare| ≤ 10 ^ 8 := by
  rcases min_choice booking.netToVendor.value fare with h | h
  · have hnet := booking.netToVendor.abs_value_lt
    rw [h]
    norm_num at hnet ⊢
    exact hnet.le
  · rw [h, abs_of_nonneg hnonneg]
    exact hlt.le

theorem reversal_of_no_ratio (hgrid : OnGrid 2 refundRupees) (hpos : 0 < refundRupees)
    (hlt : refundRupees < 10 ^ 8)
    (h : ¬ (0 < booking.totalFare.value ∧ 0 < fareRefund securityDeposit refundRupees)) :
    reversal booking securityDeposit refundRupees =
      exactReversal booking securityDeposit refundRupees := by
  have hrest := sub_depositRefund securityDeposit hgrid hpos hlt
  have hnonneg : 0 ≤ fareRefund securityDeposit refundRupees :=
    sub_nonneg.mpr (depositRefund_le securityDeposit hpos.le)
  have hiff : depositRefund securityDeposit refundRupees < refundRupees ↔
      0 < fareRefund securityDeposit refundRupees := sub_pos.symm
  have hswap : ¬ (0 < fareRefund securityDeposit refundRupees ∧ 0 < booking.totalFare.value) :=
    fun h' => h h'.symm
  unfold reversal exactReversal
  dsimp only
  rw [hrest, if_pos hnonneg, if_neg h, if_neg hswap]
  by_cases hfare : 0 < fareRefund securityDeposit refundRupees
  case neg =>
    have hzero : fareRefund securityDeposit refundRupees = 0 := le_antisymm (not_lt.mp hfare) hnonneg
    rw [if_neg (mt hiff.mp hfare), if_pos (not_lt.mp hfare), hzero, sub_zero, sub_zero]
  have htotal : ¬ 0 < booking.totalFare.value := fun htotal => h ⟨htotal, hfare⟩
  rw [if_pos (hiff.mpr hfare), if_neg (not_le.mpr hfare), if_neg htotal, sub_zero]
  congr 1
  have hfarele : fareRefund securityDeposit refundRupees ≤ refundRupees :=
    sub_le_self _ (depositRefund_nonneg securityDeposit hpos.le)
  have hfaregrid : OnGrid 2 (fareRefund securityDeposit refundRupees) :=
    hgrid.sub (onGrid_depositRefund securityDeposit hgrid)
  refine toDigits_of_onGrid (hfaregrid.sub (booking.netToVendor.onGrid_value.min hfaregrid)) ?_
  have hmin := abs_min_netToVendor_le booking hnonneg (lt_of_le_of_lt hfarele hlt)
  have habs := abs_sub (fareRefund securityDeposit refundRupees)
    (min booking.netToVendor.value (fareRefund securityDeposit refundRupees))
  rw [abs_of_nonneg hnonneg] at habs
  norm_num [Decimal.precision] at hmin ⊢
  linarith

/-- What keeps the shares of a refund by ratio exact: a grid that all of them are on, and a bound
that holds for each of their sums. -/
structure ShareBounds (booking : Booking) (securityDeposit : Option SecurityDeposit)
    (refundRupees : Decimal) (places : ℕ) (bound : Decimal) : Prop where
  scaled : bound * 10 ^ (places + 2) < 10 ^ Decimal.precision
  ratio : OnGrid places (refundRatio booking securityDeposit refundRupees)
  ratio_pos : 0 < refundRatio booking securityDeposit refundRupees
  ratio_le : refundRatio booking securityDeposit refundRupees ≤ 100 * bound
  sum_le : 2 * refundRupees + 2 * (|booking.netToVendor.value| * (1 +
      refundRatio booking securityDeposit refundRupees)) +
    2 * |booking.platformFee.value * refundRatio booking securityDeposit refundRupees| +
    2 * |booking.gstAmount.value * refundRatio booking securityDeposit refundRupees| ≤ bound

theorem exists_shareBounds (hpos : 0 < refundRupees)
    (h : KeepsDigits booking securityDeposit refundRupees)
    (htotal : 0 < booking.totalFare.value)
    (hfare : 0 < fareRefund securityDeposit refundRupees) :
    ∃ places bound, ShareBounds booking securityDeposit refundRupees places bound := by
  obtain ⟨places, hgrid, hbound⟩ := h htotal hfare
  set ratio := refundRatio booking securityDeposit refundRupees with hratio
  have hratiopos : 0 < ratio := div_pos hfare htotal
  refine ⟨places, _, hbound, hgrid, hratiopos, ?_, ?_⟩
  · -- a fare is at least a paisa
    have hpaisa : (1 : ℚ) / 100 ≤ booking.totalFare.value := by
      rw [Column.value] at htotal ⊢
      have hpaise : (0 : ℚ) < booking.totalFare.paise := by linarith
      have hone : 1 ≤ booking.totalFare.paise := by exact_mod_cast hpaise
      have hcast : (1 : ℚ) ≤ booking.totalFare.paise := by exact_mod_cast hone
      linarith
    have hle : ratio ≤ 100 * refundRupees := by
      rw [hratio, refundRatio, div_le_iff₀ htotal]
      have hfarele : fareRefund securityDeposit refundRupees ≤ refundRupees :=
        sub_le_self _ (depositRefund_nonneg securityDeposit hpos.le)
      nlinarith
    have hrest : 0 ≤ (|booking.netToVendor.value| + |booking.platformFee.value| +
        |booking.gstAmount.value|) * (1 + ratio) := by positivity
    linarith
  · have hfee := abs_nonneg booking.platformFee.value
    have hgst := abs_nonneg booking.gstAmount.value
    rw [abs_mul, abs_mul, abs_of_pos hratiopos]
    linarith

theorem shares_fit_of_no_ratio (hgrid : OnGrid 2 refundRupees) (hpos : 0 < refundRupees)
    (hlt : refundRupees < 10 ^ 8)
    (h : ¬ (0 < booking.totalFare.value ∧ 0 < fareRefund securityDeposit refundRupees)) :
    (∀ share ∈ (exactReversal booking securityDeposit refundRupees).shares, OnGrid 2 share) ∧
      ((exactReversal booking securityDeposit refundRupees).shares.map abs).sum * 10 ^ 2 <
        10 ^ Decimal.precision := by
  have hdepositnonneg := depositRefund_nonneg securityDeposit hpos.le
  have hdepositle := depositRefund_le securityDeposit hpos.le
  have hdepositgrid := onGrid_depositRefund securityDeposit hgrid
  have hfaregrid : OnGrid 2 (fareRefund securityDeposit refundRupees) := hgrid.sub hdepositgrid
  have hfarenonneg : 0 ≤ fareRefund securityDeposit refundRupees := sub_nonneg.mpr hdepositle
  have hfarelt : fareRefund securityDeposit refundRupees < 10 ^ 8 :=
    lt_of_le_of_lt (sub_le_self _ hdepositnonneg) hlt
  have hswap : ¬ (0 < fareRefund securityDeposit refundRupees ∧ 0 < booking.totalFare.value) :=
    fun h' => h h'.symm
  unfold exactReversal
  dsimp only [Reversal.shares]
  rw [if_neg hswap, sub_zero]
  simp only [List.mem_cons, List.not_mem_nil, or_false, forall_eq_or_imp, forall_eq, List.map_cons,
    List.map_nil, List.sum_cons, List.sum_nil, abs_zero, abs_of_nonneg hdepositnonneg]
  by_cases hfare : fareRefund securityDeposit refundRupees ≤ 0
  · rw [if_pos hfare, sub_zero, abs_zero, abs_of_nonneg hfarenonneg]
    refine ⟨⟨hdepositgrid, onGrid_zero, hfaregrid, onGrid_zero⟩, ?_⟩
    norm_num [Decimal.precision]
    linarith
  · have htotal : ¬ 0 < booking.totalFare.value := fun htotal => h ⟨htotal, not_le.mp hfare⟩
    rw [if_neg hfare, if_neg htotal]
    have hvendorgrid := booking.netToVendor.onGrid_value.min hfaregrid
    have hvendor := abs_min_netToVendor_le booking hfarenonneg hfarelt
    have hplatform := abs_sub (fareRefund securityDeposit refundRupees)
      (min booking.netToVendor.value (fareRefund securityDeposit refundRupees))
    rw [abs_of_nonneg hfarenonneg] at hplatform
    refine ⟨⟨hdepositgrid, hvendorgrid, hfaregrid.sub hvendorgrid, onGrid_zero⟩, ?_⟩
    norm_num [Decimal.precision] at hvendor ⊢
    linarith

section Bounds

variable {places : ℕ} {bound : Decimal}
  (h : ShareBounds booking securityDeposit refundRupees places bound)

include h

theorem ShareBounds.vendor_le :
    |min booking.netToVendor.value
        (booking.netToVendor.value * refundRatio booking securityDeposit refundRupees)| ≤
      |booking.netToVendor.value| * (1 + refundRatio booking securityDeposit refundRupees) := by
  have hnet := abs_nonneg booking.netToVendor.value
  have hratio := h.ratio_pos
  rcases min_choice booking.netToVendor.value
      (booking.netToVendor.value * refundRatio booking securityDeposit refundRupees) with hmin | hmin
  · rw [hmin]
    nlinarith
  · rw [hmin, abs_mul, abs_of_pos hratio]
    linarith

theorem ShareBounds.onGrid_mul (column : Money) :
    OnGrid (places + 2) (column.value * refundRatio booking securityDeposit refundRupees) := by
  rw [add_comm]
  exact column.onGrid_value.mul h.ratio

theorem ShareBounds.shares_le :
    2 * refundRupees +
        2 * |min booking.netToVendor.value
          (booking.netToVendor.value * refundRatio booking securityDeposit refundRupees)| +
        2 * |booking.platformFee.value * refundRatio booking securityDeposit refundRupees| +
        2 * |booking.gstAmount.value * refundRatio booking securityDeposit refundRupees| ≤ bound := by
  linarith [h.sum_le, h.vendor_le]

theorem ShareBounds.div_eq :
    Decimal.div (fareRefund securityDeposit refundRupees) booking.totalFare.value =
      refundRatio booking securityDeposit refundRupees := by
  refine toDigits_of_onGrid h.ratio ?_
  calc |refundRatio booking securityDeposit refundRupees| * 10 ^ places
      ≤ 100 * bound * 10 ^ places := by
        rw [abs_of_pos h.ratio_pos]
        exact mul_le_mul_of_nonneg_right h.ratio_le (by positivity)
    _ = bound * 10 ^ (places + 2) := by ring
    _ < 10 ^ Decimal.precision := h.scaled

theorem ShareBounds.mul_netToVendor (hpos : 0 < refundRupees) :
    Decimal.mul booking.netToVendor.value (refundRatio booking securityDeposit refundRupees) =
      booking.netToVendor.value * refundRatio booking securityDeposit refundRupees := by
  refine toDigits_of_le h.scaled (h.onGrid_mul _) ?_
  have hsum := h.sum_le
  have hnet := abs_nonneg booking.netToVendor.value
  have hfee := abs_nonneg
    (booking.platformFee.value * refundRatio booking securityDeposit refundRupees)
  have hgst := abs_nonneg
    (booking.gstAmount.value * refundRatio booking securityDeposit refundRupees)
  have hratio := h.ratio_pos
  rw [abs_mul, abs_of_pos hratio]
  nlinarith

theorem ShareBounds.reversal_eq (hgrid : OnGrid 2 refundRupees) (hpos : 0 < refundRupees)
    (hlt : refundRupees < 10 ^ 8) (htotal : 0 < booking.totalFare.value)
    (hfare : 0 < fareRefund securityDeposit refundRupees) :
    reversal booking securityDeposit refundRupees =
      exactReversal booking securityDeposit refundRupees := by
  have hrest := sub_depositRefund securityDeposit hgrid hpos hlt
  have hshares := h.shares_le
  have hdepositnonneg := depositRefund_nonneg securityDeposit hpos.le
  have hdepositle := depositRefund_le securityDeposit hpos.le
  have hdepositgrid : OnGrid (places + 2) (depositRefund securityDeposit refundRupees) :=
    (onGrid_depositRefund securityDeposit hgrid).mono (by omega)
  have hrefundgrid : OnGrid (places + 2) refundRupees := hgrid.mono (by omega)
  have hkeeps : ∀ {x : Decimal}, OnGrid (places + 2) x → |x| ≤ bound →
      toDigits Decimal.precision x = x := fun hx => toDigits_of_le h.scaled hx
  have hnetgrid := (booking.netToVendor.onGrid_value.mono (by omega)).min
    (h.onGrid_mul booking.netToVendor)
  have hfeegrid := h.onGrid_mul booking.platformFee
  have hgstgrid := h.onGrid_mul booking.gstAmount
  unfold reversal exactReversal
  dsimp only
  rw [hrest, if_pos hfare.le, if_pos ⟨htotal, hfare⟩, if_neg (not_le.mpr hfare), if_pos htotal,
    if_pos ⟨hfare, htotal⟩, h.div_eq, h.mul_netToVendor hpos]
  set vendor := min booking.netToVendor.value
    (booking.netToVendor.value * refundRatio booking securityDeposit refundRupees)
  set fee := booking.platformFee.value * refundRatio booking securityDeposit refundRupees with hfeedef
  set gst := booking.gstAmount.value * refundRatio booking securityDeposit refundRupees with hgstdef
  set deposit := depositRefund securityDeposit refundRupees with hdepositdef
  have hvendorabs := abs_le.mp (le_refl |vendor|)
  have hfeeabs := abs_le.mp (le_refl |fee|)
  have hgstabs := abs_le.mp (le_refl |gst|)
  -- each step of the arithmetic stays on the grid and below the bound
  have hfee : Decimal.mul booking.platformFee.value
      (refundRatio booking securityDeposit refundRupees) = fee :=
    hkeeps hfeegrid (by rw [← hfeedef]; linarith [abs_nonneg vendor, abs_nonneg gst])
  have hgst : Decimal.mul booking.gstAmount.value
      (refundRatio booking securityDeposit refundRupees) = gst :=
    hkeeps hgstgrid (by rw [← hgstdef]; linarith [abs_nonneg vendor, abs_nonneg fee])
  have hfirst : Decimal.add vendor fee = vendor + fee :=
    hkeeps (hnetgrid.add hfeegrid) (abs_le.mpr (by constructor <;> linarith))
  have hsecond : Decimal.add (vendor + fee) gst = vendor + fee + gst :=
    hkeeps ((hnetgrid.add hfeegrid).add hgstgrid) (abs_le.mpr (by constructor <;> linarith))
  have hthird : Decimal.add (vendor + fee + gst) deposit = vendor + fee + gst + deposit :=
    hkeeps (((hnetgrid.add hfeegrid).add hgstgrid).add hdepositgrid)
      (abs_le.mpr (by constructor <;> linarith))
  have hdiff : Decimal.sub refundRupees (vendor + fee + gst + deposit) =
      refundRupees - (vendor + fee + gst + deposit) :=
    hkeeps (hrefundgrid.sub (((hnetgrid.add hfeegrid).add hgstgrid).add hdepositgrid))
      (abs_le.mpr (by constructor <;> linarith))
  have hplatform : Decimal.add fee (refundRupees - (vendor + fee + gst + deposit)) =
      fareRefund securityDeposit refundRupees - vendor - gst := by
    have heq : fee + (refundRupees - (vendor + fee + gst + deposit)) =
        refundRupees - deposit - vendor - gst := by ring
    rw [Decimal.add, heq]
    exact hkeeps (((hrefundgrid.sub hdepositgrid).sub hnetgrid).sub hgstgrid)
      (abs_le.mpr (by constructor <;> linarith))
  rw [hfee, hgst, hfirst, hsecond, hthird, hdiff, hplatform]

theorem ShareBounds.shares_fit (hgrid : OnGrid 2 refundRupees) (hpos : 0 < refundRupees)
    (htotal : 0 < booking.totalFare.value)
    (hfare : 0 < fareRefund securityDeposit refundRupees) :
    (∀ share ∈ (exactReversal booking securityDeposit refundRupees).shares,
        OnGrid (places + 2) share) ∧
      ((exactReversal booking securityDeposit refundRupees).shares.map abs).sum *
        10 ^ (places + 2) < 10 ^ Decimal.precision := by
  have hshares := h.shares_le
  have hdepositnonneg := depositRefund_nonneg securityDeposit hpos.le
  have hdepositgrid : OnGrid (places + 2) (depositRefund securityDeposit refundRupees) :=
    (onGrid_depositRefund securityDeposit hgrid).mono (by omega)
  have hrefundgrid : OnGrid (places + 2) refundRupees := hgrid.mono (by omega)
  have hnetgrid := (booking.netToVendor.onGrid_value.mono (by omega)).min
    (h.onGrid_mul booking.netToVendor)
  have hgstgrid := h.onGrid_mul booking.gstAmount
  unfold exactReversal
  dsimp only [Reversal.shares]
  rw [if_neg (not_le.mpr hfare), if_pos htotal, if_pos ⟨hfare, htotal⟩]
  set vendor := min booking.netToVendor.value
    (booking.netToVendor.value * refundRatio booking securityDeposit refundRupees)
  set gst := booking.gstAmount.value * refundRatio booking securityDeposit refundRupees
  simp only [List.mem_cons, List.not_mem_nil, or_false, forall_eq_or_imp, forall_eq, List.map_cons,
    List.map_nil, List.sum_cons, List.sum_nil]
  refine ⟨⟨hdepositgrid, hnetgrid, ((hrefundgrid.sub hdepositgrid).sub hnetgrid).sub hgstgrid,
    hgstgrid⟩, lt_of_le_of_lt (mul_le_mul_of_nonneg_right ?_ (by positivity)) h.scaled⟩
  have hplatform : |fareRefund securityDeposit refundRupees - vendor - gst| ≤
      fareRefund securityDeposit refundRupees + |vendor| + |gst| := by
    rw [abs_le]
    constructor <;>
      linarith [neg_abs_le vendor, le_abs_self vendor, neg_abs_le gst, le_abs_self gst]
  have hfee := abs_nonneg
    (booking.platformFee.value * refundRatio booking securityDeposit refundRupees)
  rw [abs_of_nonneg hdepositnonneg]
  have hsplit : fareRefund securityDeposit refundRupees =
      refundRupees - depositRefund securityDeposit refundRupees := rfl
  linarith

end Bounds

theorem reversal_exact (hgrid : OnGrid 2 refundRupees) (hpos : 0 < refundRupees)
    (hlt : refundRupees < 10 ^ 8) (h : KeepsDigits booking securityDeposit refundRupees) :
    reversal booking securityDeposit refundRupees =
        exactReversal booking securityDeposit refundRupees ∧
      ∃ places, (∀ share ∈ (exactReversal booking securityDeposit refundRupees).shares,
          OnGrid places share) ∧
        ((exactReversal booking securityDeposit refundRupees).shares.map abs).sum * 10 ^ places <
          10 ^ Decimal.precision := by
  by_cases hratio : 0 < booking.totalFare.value ∧ 0 < fareRefund securityDeposit refundRupees
  · obtain ⟨places, bound, hbounds⟩ := exists_shareBounds hpos h hratio.1 hratio.2
    exact ⟨hbounds.reversal_eq hgrid hpos hlt hratio.1 hratio.2, places + 2,
      hbounds.shares_fit hgrid hpos hratio.1 hratio.2⟩
  · exact ⟨reversal_of_no_ratio hgrid hpos hlt hratio, 2,
      shares_fit_of_no_ratio hgrid hpos hlt hratio⟩

end Exact

/-! ## The lines -/

def lineTotal (side : LedgerEntrySide) (lines : List JournalEntryLineInput) : Decimal :=
  ((lines.filter fun line => line.side = some side).map JournalEntryLineInput.amount).sum

theorem sum_filter_pos_eq_iff (shares : List Decimal) :
    shares.sum ≤ (shares.filter (0 < ·)).sum ∧
      ((shares.filter (0 < ·)).sum = shares.sum ↔ ∀ share ∈ shares, 0 ≤ share) := by
  induction shares with
  | nil => simp
  | cons share rest ih =>
    obtain ⟨hle, hiff⟩ := ih
    rw [List.forall_mem_cons, ← hiff]
    by_cases hpos : 0 < share
    · rw [List.filter_cons_of_pos (by simpa using hpos), List.sum_cons, List.sum_cons]
      refine ⟨by linarith, ?_⟩
      constructor
      · intro h
        exact ⟨hpos.le, by linarith⟩
      · rintro ⟨-, h⟩
        rw [h]
    · rw [List.filter_cons_of_neg (by simpa using hpos), List.sum_cons]
      refine ⟨by linarith, ?_⟩
      constructor
      · intro h
        exact ⟨by linarith, by linarith⟩
      · rintro ⟨hnonneg, h⟩
        rw [h, le_antisymm (not_lt.mp hpos) hnonneg, zero_add]

section Lines

variable (booking : Booking) (securityDeposit : Option SecurityDeposit) (gatewayProvider : String)
  (refundRupees : Decimal)

theorem debitLine_debits (accountType : LedgerAccountType) (accountEntityId : Option Id)
    (amount : Decimal) :
    ((debitLine accountType accountEntityId amount).filter fun line =>
        line.side = some .debit).map JournalEntryLineInput.amount =
      [amount].filter (0 < ·) := by
  unfold debitLine
  by_cases h : 0 < amount
  · simp [h]
  · simp [h]

theorem debitLine_credits (accountType : LedgerAccountType) (accountEntityId : Option Id)
    (amount : Decimal) :
    ((debitLine accountType accountEntityId amount).filter fun line =>
        line.side = some .credit).map JournalEntryLineInput.amount = [] := by
  unfold debitLine
  split <;> rfl

theorem reversalLines_debits :
    ((reversalLines booking securityDeposit gatewayProvider refundRupees).filter fun line =>
        line.side = some .debit).map JournalEntryLineInput.amount =
      (reversal booking securityDeposit refundRupees).shares.filter (0 < ·) := by
  have hshares : ∀ split : Reversal, split.shares =
      [split.depositRefund] ++ [split.vendorReversal] ++ [split.platformReversal] ++
        [split.gstReversal] := fun _ => rfl
  unfold reversalLines
  dsimp only
  simp only [List.filter_append, List.map_append, debitLine_debits, hshares]
  exact List.append_nil _

theorem reversalLines_credits :
    ((reversalLines booking securityDeposit gatewayProvider refundRupees).filter fun line =>
        line.side = some .credit).map JournalEntryLineInput.amount = [refundRupees] := by
  unfold reversalLines
  dsimp only
  simp only [List.filter_append, List.map_append, debitLine_credits, List.nil_append]
  rfl

theorem length_reversalLines :
    (reversalLines booking securityDeposit gatewayProvider refundRupees).length =
      ((reversal booking securityDeposit refundRupees).shares.filter (0 < ·)).length + 1 := by
  have hlength : ∀ accountType accountEntityId amount,
      (debitLine accountType accountEntityId amount).length =
        ([amount].filter (0 < ·)).length := by
    intro accountType accountEntityId amount
    unfold debitLine
    by_cases h : 0 < amount
    · simp [h]
    · simp [h]
  have hshares : ∀ split : Reversal, split.shares =
      [split.depositRefund] ++ [split.vendorReversal] ++ [split.platformReversal] ++
        [split.gstReversal] := fun _ => rfl
  unfold reversalLines
  dsimp only
  simp only [List.length_append, hlength, hshares, List.filter_append, List.length_singleton]

theorem mem_reversalLines {line : JournalEntryLineInput}
    (h : line ∈ reversalLines booking securityDeposit gatewayProvider refundRupees) :
    (line.side = some .debit ∧ 0 < line.amount ∧
        line.amount ∈ (reversal booking securityDeposit refundRupees).shares) ∨
      line.side = some .credit ∧ line.amount = refundRupees := by
  have hline : ∀ {accountType accountEntityId amount},
      line ∈ debitLine accountType accountEntityId amount →
        line.side = some .debit ∧ 0 < line.amount ∧ line.amount = amount := by
    intro accountType accountEntityId amount hmem
    unfold debitLine at hmem
    split at hmem
    next hpos =>
      obtain rfl := List.mem_singleton.mp hmem
      exact ⟨rfl, hpos, rfl⟩
    · cases hmem
  unfold reversalLines at h
  simp only [List.mem_append, List.mem_singleton] at h
  simp only [Reversal.shares, List.mem_cons, List.not_mem_nil, or_false]
  rcases h with (((h | h) | h) | h) | rfl
  · obtain ⟨hside, hpos, heq⟩ := hline h
    exact .inl ⟨hside, hpos, .inl heq⟩
  · obtain ⟨hside, hpos, heq⟩ := hline h
    exact .inl ⟨hside, hpos, .inr (.inl heq)⟩
  · obtain ⟨hside, hpos, heq⟩ := hline h
    exact .inl ⟨hside, hpos, .inr (.inr (.inl heq))⟩
  · obtain ⟨hside, hpos, heq⟩ := hline h
    exact .inl ⟨hside, hpos, .inr (.inr (.inr heq))⟩
  · exact .inr ⟨rfl, rfl⟩

end Lines

/-! ## The law -/

/-- Both services post the same lines for the refund, all of them positive and with debits equal
to credits, and the ledger accepts them. -/
structure ReversalsAgree (booking : Booking) (securityDeposit : Option SecurityDeposit)
    (gatewayProvider : String) (refundRupees : Decimal) : Prop where
  same : (reversalJournal booking securityDeposit gatewayProvider refundRupees).lines =
    reconcileReversalLines booking securityDeposit gatewayProvider refundRupees
  positive : ∀ line ∈ reversalLines booking securityDeposit gatewayProvider refundRupees,
    0 < line.amount
  balanced :
    lineTotal .debit (reversalLines booking securityDeposit gatewayProvider refundRupees) =
      lineTotal .credit (reversalLines booking securityDeposit gatewayProvider refundRupees)
  accepted : ∀ ledger : Ledger JournalKey,
    (∀ i, ledger.hasKey (.refundIntent booking.id, i) = false) →
      (recordJournal ledger
        (reversalJournal booking securityDeposit gatewayProvider refundRupees)).isOk
  reconciled : ∀ (ledger : Ledger JournalKey) (refundId : String),
    (∀ i, ledger.hasKey (.reconcileRefund booking.id refundId, i) = false) →
      (recordJournal ledger (reconcileReversalJournal booking securityDeposit gatewayProvider
        refundRupees refundId)).isOk

section Law

variable {booking : Booking} {securityDeposit : Option SecurityDeposit} {gatewayProvider : String}
  {refundRupees : Decimal}

theorem valid_of_mem_reversalLines (hpos : 0 < refundRupees) (hlt : refundRupees < 10 ^ 8)
    (hshares : ∀ share ∈ (reversal booking securityDeposit refundRupees).shares, 0 ≤ share)
    (hsum : (reversal booking securityDeposit refundRupees).shares.sum = refundRupees) :
    ∀ line ∈ reversalLines booking securityDeposit gatewayProvider refundRupees, line.Valid := by
  intro line hline
  rcases mem_reversalLines _ _ _ _ hline with ⟨hside, hpositive, hmem⟩ | ⟨hside, hamount⟩
  · have hle := List.single_le_sum hshares line.amount hmem
    exact ⟨hpositive, by rw [hside]; rfl, by linarith⟩
  · exact ⟨by rw [hamount]; exact hpos, by rw [hside]; rfl, by rw [hamount]; linarith⟩

theorem sumDigits_refund (hgrid : OnGrid 2 refundRupees) (hpos : 0 < refundRupees)
    (hlt : refundRupees < 10 ^ 8) : sumDigits Decimal.precision 0 [refundRupees] = refundRupees := by
  rw [sumDigits_cons, sumDigits_nil, zero_add]
  refine toDigits_of_onGrid hgrid ?_
  rw [abs_of_pos hpos]
  norm_num [Decimal.precision]
  linarith

theorem reversalLines_accepted (hgrid : OnGrid 2 refundRupees) (hpos : 0 < refundRupees)
    (hlt : refundRupees < 10 ^ 8) (hdigits : KeepsDigits booking securityDeposit refundRupees)
    (hcover : SharesCover booking securityDeposit refundRupees) {ledger : Ledger JournalKey}
    {key : JournalKey} {vendorId journalId : Option Id}
    (hfree : ∀ i, ledger.hasKey (key, i) = false) :
    (recordJournal ledger ⟨reversalLines booking securityDeposit gatewayProvider refundRupees,
      some key, vendorId, journalId⟩).isOk := by
  obtain ⟨hexact, places, hshares, hfit⟩ := reversal_exact hgrid hpos hlt hdigits
  have hnonneg := (sharesCover_iff booking securityDeposit hpos.le).mp hcover
  have hsum := sum_shares_exactReversal booking securityDeposit refundRupees
  rw [← hexact] at hshares hfit hnonneg hsum
  set shares := (reversal booking securityDeposit refundRupees).shares with hsharesdef
  have hkept : (shares.filter (0 < ·)).sum = refundRupees := by
    rw [(sum_filter_pos_eq_iff shares).2.mpr hnonneg, hsum]
  -- the refund is positive, so some share is
  have htwo : 2 ≤ (reversalLines booking securityDeposit gatewayProvider refundRupees).length := by
    rw [length_reversalLines, ← hsharesdef]
    cases hfilter : shares.filter (0 < ·) with
    | nil =>
      rw [hfilter, List.sum_nil] at hkept
      linarith
    | cons share rest => simp
  refine (recordJournal_isOk_iff_totals hfree htwo
    (valid_of_mem_reversalLines hpos hlt hnonneg hsum)).mpr ?_
  rw [inputTotal, inputTotal, reversalLines_debits, reversalLines_credits, ← hsharesdef]
  have hkeptfit : ((shares.filter (0 < ·)).map abs).sum ≤ (shares.map abs).sum := by
    refine (List.filter_sublist.map abs).sum_le_sum fun x hx => ?_
    obtain ⟨share, -, rfl⟩ := List.mem_map.mp hx
    exact abs_nonneg share
  have hdebits : sumDigits Decimal.precision 0 (shares.filter (0 < ·)) = refundRupees := by
    rw [sumDigits_of_onGrid (onGrid_zero : OnGrid places (0 : ℚ)), zero_add, hkept]
    · exact fun share hshare => hshares share (List.mem_of_mem_filter hshare)
    · rw [abs_zero, zero_add]
      exact lt_of_le_of_lt (mul_le_mul_of_nonneg_right hkeptfit (by positivity)) hfit
  rw [hdebits, sumDigits_refund hgrid hpos hlt]

end Law

def lateCancelledPayment : Payment :=
  { samplePayment with amount := lateCancelled.totalFare, status := .paid }

end CarRental
