import CarRental.Lib.Totals
import CarRental.Cars.VehicleBlocks

/-!
# Corporate accounts

`CorporateAccountsService` over one account: the reservation, release and settlement of credit, the
update of the account, and its employees.

The three operations lock the account's row before they read it, so each is one step.  The database
adds to and subtracts from `usedCredit` exactly and then rounds to the column, while the amount of
the ledger entry is rounded on its own.
-/

namespace CarRental

open Totals Rounding Runs

/-- The months of the server's clock. -/
structure MonthCalendar where
  startOfMonth : ℤ → ℤ
  startOfMonth_le : ∀ time, startOfMonth time ≤ time

inductive CreditEntryType where
  | creditReservation
  | creditRelease
  | invoiceSettlement
deriving DecidableEq, Repr

structure CreditLedgerEntry where
  userId : Id
  type : CreditEntryType
  amount : Column 12
  balanceAfter : Column 12
  createdAt : ℤ
deriving DecidableEq

structure CorporateEmployee where
  spendingLimitMonthly : Option Money
  isActive : Bool
deriving DecidableEq

structure CorporateAccount where
  creditLimit : Column 12
  usedCredit : Column 12
  isActive : Bool
  employees : Id → Option CorporateEmployee
  /-- Oldest first. -/
  creditLedgerEntries : List CreditLedgerEntry

structure CorporateDesk where
  account : CorporateAccount
  now : ℤ

/-- `employee.spendingLimitMonthly && employee.spendingLimitMonthly.gt(0)` -/
def CorporateEmployee.cap (employee : CorporateEmployee) : Option Money :=
  employee.spendingLimitMonthly.filter fun limit => 0 < limit.paise

/-- A column that the value does not fit. -/
def numericOverflow : HttpError := .internal "numeric field overflow"

def storeDecimal (x : Decimal) : Except HttpError (Column 12) :=
  match Column.ofDecimal? x with
  | none => .error numericOverflow
  | some column => .ok column

namespace CorporateDesk

variable (calendar : MonthCalendar)

/-- The sum over the reservations of the user since the start of the month. -/
def monthlySpent (s : CorporateDesk) (userId : Id) : ℤ :=
  total (fun entry => entry.userId = userId ∧ entry.type = .creditReservation ∧
    calendar.startOfMonth s.now ≤ entry.createdAt) (·.amount.paise) s.account.creditLedgerEntries

/-- What a customer has to be to reserve. -/
def checkEmployee (s : CorporateDesk) (amount : Decimal) (callerUserId : Option Id) :
    Except HttpError Unit :=
  match callerUserId with
  | none => .error (.forbidden "Corporate authentication required.")
  | some userId =>
    match s.account.employees userId with
    | none => .error (.forbidden "Unauthorized: Caller is not an active authorized employee.")
    | some employee =>
      if employee.isActive = false then
        .error (.forbidden "Unauthorized: Caller is not an active authorized employee.")
      else
        match employee.cap with
        | none => .ok ()
        | some limit =>
          if limit.value < Decimal.add (s.monthlySpent calendar userId / 100) amount then
            .error (.badRequest "Corporate monthly employee spending limit exceeded.")
          else .ok ()

/-- The update of `usedCredit`, and the entry for it. -/
def recordCredit (s : CorporateDesk) (used amount : Decimal) (userId : Id)
    (type : CreditEntryType) : Except HttpError CorporateDesk := do
  let usedCredit ← storeDecimal used
  let balanceAfter ← storeDecimal (Decimal.sub s.account.creditLimit.value usedCredit.value)
  let amount ← storeDecimal amount
  return { s with
    account := { s.account with
      usedCredit
      creditLedgerEntries :=
        s.account.creditLedgerEntries ++ [⟨userId, type, amount, balanceAfter, s.now⟩] } }

def reserveCredit (s : CorporateDesk) (amount : Decimal) (callerUserId : Option Id)
    (callerRole : Option Role) : Except HttpError CorporateDesk :=
  if amount ≤ 0 then .error (.badRequest "Reservation amount must be strictly positive.")
  else if s.account.isActive = false then .error (.badRequest "Corporate account is inactive.")
  else do
    if callerRole = some .customer then s.checkEmployee calendar amount callerUserId
    if Decimal.sub s.account.creditLimit.value s.account.usedCredit.value < amount then
      throw (.conflict "Insufficient corporate credit.")
    s.recordCredit (s.account.usedCredit.value + amount) amount (callerUserId.getD "SYSTEM")
      .creditReservation

/-- A release or settlement takes back at most what is used. -/
def lowerCredit (s : CorporateDesk) (amount : Decimal) (callerUserId : Option Id)
    (type : CreditEntryType) (refusal : String) : Except HttpError CorporateDesk :=
  if amount ≤ 0 then .error (.badRequest refusal)
  else
    let decrementAmount := min s.account.usedCredit.value amount
    s.recordCredit (s.account.usedCredit.value - decrementAmount) decrementAmount
      (callerUserId.getD "SYSTEM") type

def releaseCredit (s : CorporateDesk) (amount : Decimal) (callerUserId : Option Id) :
    Except HttpError CorporateDesk :=
  s.lowerCredit amount callerUserId .creditRelease "Release amount must be strictly positive."

def settleCredit (s : CorporateDesk) (amount : Decimal) (callerUserId : Option Id) :
    Except HttpError CorporateDesk :=
  s.lowerCredit amount callerUserId .invoiceSettlement
    "Settlement amount must be strictly positive."

/-- `UpdateCorporateAccountDto`, as far as credit goes, with its `@Min(0)`. -/
structure UpdateAccountDto where
  creditLimit : Option { limit : Decimal // 0 ≤ limit }
  isActive : Option Bool

def nextLimit (s : CorporateDesk) (dto : UpdateAccountDto) : Except HttpError (Column 12) :=
  match dto.creditLimit with
  | none => .ok s.account.creditLimit
  | some limit => storeDecimal limit

def updateAccount (s : CorporateDesk) (dto : UpdateAccountDto) :
    Except HttpError CorporateDesk := do
  let creditLimit ← s.nextLimit dto
  return { s with
    account := { s.account with
      creditLimit
      isActive := dto.isActive.getD s.account.isActive } }

/-- A limit of 0 is falsy, and stored as none. -/
def storeSpendingLimit (spendingLimitMonthly : Option Decimal) : Except HttpError (Option Money) :=
  match spendingLimitMonthly.filter (· ≠ 0) with
  | none => .ok none
  | some limit =>
    match Column.ofDecimal? limit with
    | none => .error numericOverflow
    | some column => .ok (some column)

def addEmployee (s : CorporateDesk) (userId : Id) (spendingLimitMonthly : Option Decimal) :
    Except HttpError CorporateDesk :=
  if (s.account.employees userId).isSome then
    .error (.conflict "User is already registered as an employee of this corporate account.")
  else do
    let limit ← storeSpendingLimit spendingLimitMonthly
    return { s with
      account := { s.account with
        employees := Function.update s.account.employees userId (some ⟨limit, true⟩) } }

def updateEmployeeStatus (s : CorporateDesk) (userId : Id) (isActive : Bool) :
    Except HttpError CorporateDesk :=
  match s.account.employees userId with
  | none => .error (.notFound "Corporate employee record not found.")
  | some employee =>
    .ok { s with
      account := { s.account with
        employees := Function.update s.account.employees userId
          (some { employee with isActive }) } }

/-- An account as it is created; its DTO has the same `@Min(0)`. -/
def created (creditLimit : { limit : Column 12 // 0 ≤ limit.paise }) (now : ℤ) : CorporateDesk :=
  ⟨⟨creditLimit, ⟨0, by norm_num⟩, true, fun _ => none, []⟩, now⟩

end CorporateDesk

inductive CreditAction where
  | reserve (amount : Decimal) (callerUserId : Option Id) (callerRole : Option Role)
  | release (amount : Decimal) (callerUserId : Option Id)
  | settle (amount : Decimal) (callerUserId : Option Id)
  | update (dto : CorporateDesk.UpdateAccountDto)
  | addEmployee (userId : Id) (spendingLimitMonthly : Option Decimal)
  | updateEmployeeStatus (userId : Id) (isActive : Bool)
  | advance (milliseconds : ℕ)

/-- What is refused leaves the account as it is. -/
def creditStep (calendar : MonthCalendar) (s : CorporateDesk) : CreditAction → CorporateDesk
  | .reserve amount callerUserId callerRole =>
    (s.reserveCredit calendar amount callerUserId callerRole).toOption.getD s
  | .release amount callerUserId => (s.releaseCredit amount callerUserId).toOption.getD s
  | .settle amount callerUserId => (s.settleCredit amount callerUserId).toOption.getD s
  | .update dto => (s.updateAccount dto).toOption.getD s
  | .addEmployee userId spendingLimitMonthly =>
    (s.addEmployee userId spendingLimitMonthly).toOption.getD s
  | .updateEmployeeStatus userId isActive =>
    (s.updateEmployeeStatus userId isActive).toOption.getD s
  | .advance milliseconds => { s with now := s.now + milliseconds }

/-!
## The credit of a corporate account

The credit in use should be what the ledger says, each entry should say what is left, and neither
the limit nor the cap of an employee should be passed by a reservation.

A release takes `d` from `usedCredit` and writes `d` to the ledger, both rounded to the paisa; the
two differ when `d` ends in exactly half a paisa, which is rounded up on both sides
(`recordCredit_lower`).  A reservation adds instead, which agrees always.  The cap is only looked at
for the role of a customer.  With that left out, all of the law holds (`corporate_credit_iff`).
-/

/-! ## The law -/

def CreditLedgerEntry.isReservation (entry : CreditLedgerEntry) : Bool :=
  entry.type = .creditReservation

structure CreditLaw (s : CorporateDesk) : Prop where
  sum : s.account.usedCredit.paise =
    total CreditLedgerEntry.isReservation (·.amount.paise) s.account.creditLedgerEntries -
      total (fun entry => !entry.isReservation) (·.amount.paise) s.account.creditLedgerEntries
  nonneg : 0 ≤ s.account.usedCredit.paise

/-- What a new entry says of the state it is written in. -/
structure EntryLaw (calendar : MonthCalendar) (s : CorporateDesk) (entry : CreditLedgerEntry) :
    Prop where
  balance : entry.balanceAfter.paise = s.account.creditLimit.paise - s.account.usedCredit.paise
  within : entry.type = .creditReservation →
    s.account.usedCredit.paise ≤ s.account.creditLimit.paise
  capped : entry.type = .creditReservation → ∀ employee ∈ s.account.employees entry.userId,
    ∀ limit ∈ employee.cap, s.monthlySpent calendar entry.userId ≤ limit.paise

/-- A step only appends to the ledger, and what it appends is right. -/
def EntriesRight (calendar : MonthCalendar) (s : CorporateDesk) (action : CreditAction) : Prop :=
  ∃ new, (creditStep calendar s action).account.creditLedgerEntries =
      s.account.creditLedgerEntries ++ new ∧
    ∀ entry ∈ new, EntryLaw calendar (creditStep calendar s action) entry

/-! ## The condition -/

def EndsInHalf (amount : Decimal) : Prop :=
  Int.fract (amount * 100) = 1 / 2

/-- What is taken back in part does not end in half a paisa; and where a reservation is accepted
without a look at the cap, whoever it is for has as much left under the cap. -/
def CreditCareful (calendar : MonthCalendar) (s : CorporateDesk) : CreditAction → Prop
  | .reserve amount callerUserId callerRole => callerRole ≠ some .customer → 0 < amount →
      s.account.isActive = true →
      amount ≤ s.account.creditLimit.value - s.account.usedCredit.value →
      ∀ employee ∈ s.account.employees (callerUserId.getD "SYSTEM"), ∀ limit ∈ employee.cap,
        s.monthlySpent calendar (callerUserId.getD "SYSTEM") + roundAway (amount * 100) ≤
          limit.paise
  | .release amount _ => 0 < amount → amount < s.account.usedCredit.value → ¬ EndsInHalf amount
  | .settle amount _ => 0 < amount → amount < s.account.usedCredit.value → ¬ EndsInHalf amount
  | _ => True

/-! ## Columns -/

section Columns

variable {x y : Decimal} {bound limit used : Column 12}

theorem storeDecimal_eq_ok {column : Column 12} :
    storeDecimal x = .ok column ↔ Column.ofDecimal? x = some column := by
  unfold storeDecimal
  cases Column.ofDecimal? x <;> simp

theorem storeDecimal_of_le (hx : 0 ≤ x) (hbound : x ≤ bound.value) :
    ∃ column, storeDecimal x = .ok column ∧ column.paise = roundAway (x * 100) := by
  obtain ⟨column, hstored⟩ := Column.ofDecimal?_of_le hx hbound
  exact ⟨column, storeDecimal_eq_ok.mpr hstored, Column.paise_of_ofDecimal? hstored⟩

theorem sub_value : Decimal.sub limit.value used.value = limit.value - used.value := by
  refine toDigits_of_onGrid (limit.onGrid_value.sub used.onGrid_value) ?_
  have hlimit := limit.abs_value_lt
  have hused := used.abs_value_lt
  have htriangle := abs_sub limit.value used.value
  calc |limit.value - used.value| * 10 ^ 2
      < (10 ^ 12 / 100 + 10 ^ 12 / 100) * 10 ^ 2 := by gcongr; linarith
    _ ≤ 10 ^ Decimal.precision := by norm_num [Decimal.precision]

theorem storeDecimal_sub (hlimit : 0 ≤ limit.paise) (hused : 0 ≤ used.paise) :
    ∃ column, storeDecimal (Decimal.sub limit.value used.value) = .ok column ∧
      column.paise = limit.paise - used.paise := by
  have hpaise : roundAway ((limit.value - used.value) * 100) = limit.paise - used.paise := by
    rw [sub_mul, Column.value_mul_hundred, Column.value_mul_hundred, ← Int.cast_sub,
      roundAway_intCast]
  have hrange : |limit.paise - used.paise| < 10 ^ 12 := by
    have := limit.inRange
    have := used.inRange
    rw [abs_lt] at *
    constructor <;> linarith
  refine ⟨⟨_, hrange⟩, storeDecimal_eq_ok.mpr ?_, rfl⟩
  rw [sub_value, Column.ofDecimal?, hpaise]
  exact Column.ofPaise?_eq_some.mpr rfl

end Columns

/-! ## Records -/

section Records

variable {calendar : MonthCalendar} {s s' : CorporateDesk} {used amount : Decimal} {userId : Id}
  {type : CreditEntryType} {entry : CreditLedgerEntry} {x y : ℤ}

/-- The limit and what is used of it are not negative. -/
structure CreditSigns (s : CorporateDesk) : Prop where
  limit : 0 ≤ s.account.creditLimit.paise
  used : 0 ≤ s.account.usedCredit.paise

/-- What a record of credit leaves. -/
structure Recorded (s : CorporateDesk) (used amount : ℤ) (userId : Id) (type : CreditEntryType)
    (entry : CreditLedgerEntry) (s' : CorporateDesk) : Prop where
  limit : s'.account.creditLimit = s.account.creditLimit
  employees : s'.account.employees = s.account.employees
  now : s'.now = s.now
  usedCredit : s'.account.usedCredit.paise = used
  entries : s'.account.creditLedgerEntries = s.account.creditLedgerEntries ++ [entry]
  userId : entry.userId = userId
  type : entry.type = type
  amount : entry.amount.paise = amount
  balance : entry.balanceAfter.paise = s.account.creditLimit.paise - used
  createdAt : entry.createdAt = s.now

theorem recordCredit_eq_ok {usedBound amountBound : Column 12}
    (hlimit : 0 ≤ s.account.creditLimit.paise)
    (hused : 0 ≤ used) (husedBound : used ≤ usedBound.value) (hamount : 0 ≤ amount)
    (hamountBound : amount ≤ amountBound.value) (userId : Id) (type : CreditEntryType) :
    ∃ s' entry, s.recordCredit used amount userId type = .ok s' ∧
      Recorded s (roundAway (used * 100)) (roundAway (amount * 100)) userId type entry s' := by
  obtain ⟨usedCredit, husedStored, husedPaise⟩ := storeDecimal_of_le hused husedBound
  obtain ⟨stored, hamountStored, hamountPaise⟩ := storeDecimal_of_le hamount hamountBound
  have hnonneg : 0 ≤ usedCredit.paise := husedPaise ▸ roundAway_nonneg (by linarith)
  obtain ⟨balance, hbalanceStored, hbalancePaise⟩ := storeDecimal_sub hlimit hnonneg
  refine ⟨{ s with account := { s.account with
      usedCredit
      creditLedgerEntries :=
        s.account.creditLedgerEntries ++ [⟨userId, type, stored, balance, s.now⟩] } },
    ⟨userId, type, stored, balance, s.now⟩, ?_,
    ⟨rfl, rfl, rfl, husedPaise, rfl, rfl, rfl, hamountPaise, husedPaise ▸ hbalancePaise, rfl⟩⟩
  rw [CorporateDesk.recordCredit, husedStored]
  simp only [bind, Except.bind, hbalanceStored, hamountStored]
  rfl

theorem entriesRight_of_same {action : CreditAction}
    (h : (creditStep calendar s action).account.creditLedgerEntries =
      s.account.creditLedgerEntries) : EntriesRight calendar s action :=
  ⟨[], by rw [h, List.append_nil], fun _ hentry => absurd hentry List.not_mem_nil⟩

/-! ### What a record changes -/

theorem Recorded.monthlySpent (h : Recorded s x y userId type entry s') (other : Id) :
    s'.monthlySpent calendar other = s.monthlySpent calendar other +
      if userId = other ∧ type = .creditReservation then y else 0 := by
  rw [CorporateDesk.monthlySpent, CorporateDesk.monthlySpent, h.entries, h.now, total_concat,
    h.userId, h.type, h.amount, h.createdAt]
  simp [calendar.startOfMonth_le s.now]

theorem Recorded.law_iff (h : Recorded s x y userId type entry s') (hlaw : CreditLaw s)
    (hx : 0 ≤ x) :
    CreditLaw s' ↔ x = s.account.usedCredit.paise +
      if type = .creditReservation then y else -y := by
  have hsum : s'.account.usedCredit.paise =
      total CreditLedgerEntry.isReservation (·.amount.paise) s'.account.creditLedgerEntries -
        total (fun entry => !entry.isReservation) (·.amount.paise) s'.account.creditLedgerEntries ↔
      x = s.account.usedCredit.paise + if type = .creditReservation then y else -y := by
    rw [h.entries, total_concat, total_concat, h.amount, h.usedCredit, hlaw.sum,
      CreditLedgerEntry.isReservation, h.type]
    by_cases htype : type = .creditReservation
    · simp only [htype, decide_true, if_true, Bool.not_true, Bool.false_eq_true, if_false]
      constructor <;> intro <;> omega
    · simp only [htype, decide_false, Bool.false_eq_true, if_false, Bool.not_false, if_true]
      constructor <;> intro <;> omega
  exact ⟨fun hlaw' => hsum.mp hlaw'.sum, fun heq => ⟨hsum.mpr heq, h.usedCredit ▸ hx⟩⟩

theorem Recorded.entryLaw_iff (h : Recorded s x y userId type entry s') :
    EntryLaw calendar s' entry ↔ (type = .creditReservation → x ≤ s.account.creditLimit.paise ∧
      ∀ employee ∈ s.account.employees userId, ∀ limit ∈ employee.cap,
        s.monthlySpent calendar userId + y ≤ limit.paise) := by
  have hspent : s'.monthlySpent calendar userId = _ := h.monthlySpent userId
  constructor
  · rintro ⟨-, hwithin, hcapped⟩ htype
    rw [h.type, h.usedCredit, h.limit] at hwithin
    rw [h.type, h.employees, h.userId, hspent, if_pos ⟨rfl, htype⟩] at hcapped
    exact ⟨hwithin htype, hcapped htype⟩
  · intro hreservation
    refine ⟨by rw [h.balance, h.limit, h.usedCredit], ?_, ?_⟩
    · rw [h.type, h.usedCredit, h.limit]
      exact fun htype => (hreservation htype).1
    · rw [h.type, h.employees, h.userId, hspent]
      intro htype
      rw [if_pos ⟨rfl, htype⟩]
      exact (hreservation htype).2

theorem Recorded.signs (h : Recorded s x y userId type entry s') (hsigns : CreditSigns s)
    (hx : 0 ≤ x) : CreditSigns s' :=
  ⟨h.limit ▸ hsigns.limit, h.usedCredit ▸ hx⟩

end Records

/-! ## Releases and settlements -/

section Lowering

variable {calendar : MonthCalendar} {s : CorporateDesk} {amount : Decimal}
  {callerUserId : Option Id}
  {type : CreditEntryType} {refusal : String}

theorem recordCredit_lower (callerUserId : Option Id) (type : CreditEntryType) (refusal : String)
    (hsigns : CreditSigns s) (hamount : 0 < amount) :
    ∃ s' entry, s.lowerCredit amount callerUserId type refusal = .ok s' ∧
      Recorded s
        (roundAway (s.account.usedCredit.paise - min s.account.usedCredit.value amount * 100))
        (roundAway (min s.account.usedCredit.value amount * 100)) (callerUserId.getD "SYSTEM") type
        entry s' := by
  have hused : 0 ≤ s.account.usedCredit.value :=
    Column.value_nonneg_iff.mpr hsigns.used
  have hmin : 0 ≤ min s.account.usedCredit.value amount := le_min hused hamount.le
  have hle := min_le_left s.account.usedCredit.value amount
  have hpaise : (s.account.usedCredit.value - min s.account.usedCredit.value amount) * 100 =
      s.account.usedCredit.paise - min s.account.usedCredit.value amount * 100 := by
    rw [sub_mul, Column.value_mul_hundred]
  rw [CorporateDesk.lowerCredit, if_neg (not_le.mpr hamount), ← hpaise]
  exact recordCredit_eq_ok hsigns.limit (sub_nonneg.mpr hle) (sub_le_self _ hmin) hmin hle _ _

theorem lower_balanced_iff (hsigns : CreditSigns s) (hamount : 0 < amount) :
    roundAway (s.account.usedCredit.paise - min s.account.usedCredit.value amount * 100) =
        s.account.usedCredit.paise - roundAway (min s.account.usedCredit.value amount * 100) ↔
      (amount < s.account.usedCredit.value → ¬ EndsInHalf amount) := by
  have hused : (0 : ℚ) ≤ s.account.usedCredit.value :=
    Column.value_nonneg_iff.mpr hsigns.used
  have hx : 0 ≤ min s.account.usedCredit.value amount * 100 :=
    mul_nonneg (le_min hused hamount.le) (by norm_num)
  have hxn : min s.account.usedCredit.value amount * 100 ≤ s.account.usedCredit.paise := by
    rw [← Column.value_mul_hundred]
    exact mul_le_mul_of_nonneg_right (min_le_left _ _) (by norm_num)
  have hsplit := roundAway_sub_add_roundAway hx hxn (fun _ h => h) fun _ h => h
  have hhalf : (Int.fract (min s.account.usedCredit.value amount * 100) = 1 / 2) ↔
      amount < s.account.usedCredit.value ∧ EndsInHalf amount := by
    rcases lt_or_ge amount s.account.usedCredit.value with hlt | hge
    · rw [min_eq_right hlt.le]
      exact (and_iff_right hlt).symm
    · rw [min_eq_left hge, Column.value_mul_hundred, Int.fract_intCast]
      exact iff_of_false (by norm_num) fun h => absurd h.1 (not_lt.mpr hge)
  rw [← not_and, ← hhalf]
  by_cases h : Int.fract (min s.account.usedCredit.value amount * 100) = 1 / 2
  · rw [if_pos ⟨h, le_rfl⟩] at hsplit
    exact iff_of_false (by omega) (not_not.mpr h)
  · rw [if_neg fun hand => h hand.1] at hsplit
    exact iff_of_true (by omega) h

theorem lower_step_iff {action : CreditAction} (hsigns : CreditSigns s) (hlaw : CreditLaw s)
    (htype : type ≠ .creditReservation)
    (hstep : creditStep calendar s action =
      (s.lowerCredit amount callerUserId type refusal).toOption.getD s) :
    CreditSigns (creditStep calendar s action) ∧
      ((CreditLaw (creditStep calendar s action) ∧ EntriesRight calendar s action) ↔
        (0 < amount → amount < s.account.usedCredit.value → ¬ EndsInHalf amount)) := by
  rcases le_or_gt amount 0 with hamount | hamount
  · have hsame : creditStep calendar s action = s := by
      rw [hstep, CorporateDesk.lowerCredit, if_pos hamount]
      rfl
    rw [hsame]
    exact ⟨hsigns, iff_of_true ⟨hlaw, entriesRight_of_same (by rw [hsame])⟩
      fun hpos => absurd hpos (not_lt.mpr hamount)⟩
  · obtain ⟨s', entry, hok, hrecorded⟩ :=
      recordCredit_lower callerUserId type refusal hsigns hamount
    rw [hok] at hstep
    have hnext : creditStep calendar s action = s' := hstep
    have hused : 0 ≤ roundAway ((s.account.usedCredit.paise : ℚ) -
        min s.account.usedCredit.value amount * 100) := by
      refine roundAway_nonneg (sub_nonneg.mpr ?_)
      rw [← Column.value_mul_hundred]
      exact mul_le_mul_of_nonneg_right (min_le_left _ _) (by norm_num)
    have hright : EntriesRight calendar s action :=
      ⟨[entry], by rw [hnext, hrecorded.entries], fun other hother => by
        rw [List.mem_singleton.mp hother, hnext, hrecorded.entryLaw_iff]
        exact fun hreservation => absurd hreservation htype⟩
    rw [hnext, hrecorded.law_iff hlaw hused, if_neg htype, ← sub_eq_add_neg,
      lower_balanced_iff hsigns hamount, imp_iff_right hamount]
    exact ⟨hrecorded.signs hsigns hused, and_iff_left hright⟩

end Lowering

/-! ## Reservations -/

section Reserving

variable {calendar : MonthCalendar} {s : CorporateDesk} {amount : Decimal}
  {callerUserId : Option Id}
  {callerRole : Option Role}

structure ReservationAllowed (calendar : MonthCalendar) (s : CorporateDesk) (amount : Decimal)
    (callerUserId : Option Id) (callerRole : Option Role) : Prop where
  positive : 0 < amount
  active : s.account.isActive = true
  employee : callerRole = some .customer → s.checkEmployee calendar amount callerUserId = .ok ()
  within : amount ≤ s.account.creditLimit.value - s.account.usedCredit.value

theorem reserveCredit_of_not_allowed
    (h : ¬ ReservationAllowed calendar s amount callerUserId callerRole) :
    (s.reserveCredit calendar amount callerUserId callerRole).toOption = none := by
  rw [CorporateDesk.reserveCredit]
  by_cases hamount : amount ≤ 0
  · rw [if_pos hamount]
    rfl
  by_cases hactive : s.account.isActive = false
  · rw [if_neg hamount, if_pos hactive]
    rfl
  rw [if_neg hamount, if_neg hactive]
  by_cases hwithin : Decimal.sub s.account.creditLimit.value s.account.usedCredit.value < amount
  · rw [if_pos hwithin]
    by_cases hrole : callerRole = some .customer
    · rw [if_pos hrole]
      cases s.checkEmployee calendar amount callerUserId <;> rfl
    · rw [if_neg hrole]
      rfl
  by_cases hrole : callerRole = some .customer
  · rw [if_pos hrole]
    cases hemployee : s.checkEmployee calendar amount callerUserId with
    | error e => rfl
    | ok _ =>
      refine absurd ⟨not_le.mp hamount, by simpa using hactive, fun _ => hemployee, ?_⟩ h
      exact sub_value ▸ not_lt.mp hwithin
  · refine absurd
      ⟨not_le.mp hamount, by simpa using hactive, fun hcustomer => absurd hcustomer hrole, ?_⟩ h
    exact sub_value ▸ not_lt.mp hwithin

theorem reserveCredit_of_allowed
    (h : ReservationAllowed calendar s amount callerUserId callerRole) :
    s.reserveCredit calendar amount callerUserId callerRole =
      s.recordCredit (s.account.usedCredit.value + amount) amount (callerUserId.getD "SYSTEM")
        .creditReservation := by
  have hwithin : ¬ Decimal.sub s.account.creditLimit.value s.account.usedCredit.value < amount := by
    rw [sub_value]
    exact not_lt.mpr h.within
  rw [CorporateDesk.reserveCredit, if_neg (not_le.mpr h.positive), if_neg (by simp [h.active])]
  by_cases hrole : callerRole = some .customer
  · rw [if_pos hrole, h.employee hrole, if_neg hwithin]
    rfl
  · rw [if_neg hrole, if_neg hwithin]

theorem add_roundAway_le_of_add_le {spent : ℤ} {limit : Money}
    (h : Decimal.add (spent / 100) amount ≤ limit.value) :
    spent + roundAway (amount * 100) ≤ limit.paise := by
  by_contra hlt
  -- then the sum is at least half a paisa above the cap
  have hround : ((limit.paise + 1 - spent : ℤ) : ℚ) - 1 / 2 ≤ amount * 100 := by
    have hclose := (abs_le.mp (abs_roundAway_sub_le (amount * 100))).2
    have hle : (limit.paise + 1 - spent : ℤ) ≤ roundAway (amount * 100) := by omega
    have hcast : ((limit.paise + 1 - spent : ℤ) : ℚ) ≤ roundAway (amount * 100) := by
      exact_mod_cast hle
    linarith
  push_cast at hround
  set sum : ℚ := spent / 100 + amount with hsum
  have habove : (limit.paise + 1 / 2) / 100 ≤ sum := by
    rw [div_le_iff₀ (by norm_num), hsum]
    linarith
  have hlimit : limit.value < (limit.paise + 1 / 2) / 100 := by
    rw [Column.value]
    linarith
  have hrange := limit.inRange
  rw [abs_lt] at hrange
  have hpaise : (-(10 ^ 10) : ℚ) < limit.paise ∧ (limit.paise : ℚ) < 10 ^ 10 := by
    exact_mod_cast hrange
  rcases lt_or_ge (|sum| * 10 ^ 3) (10 ^ Decimal.precision) with hsmall | hlarge
  · have hgrid : OnGrid 3 (((limit.paise : ℚ) + 1 / 2) / 100) :=
      ⟨10 * limit.paise + 5, by push_cast; ring⟩
    have hdigits := le_toDigits_of_onGrid hgrid hsmall habove
    exact absurd (hlimit.trans_le hdigits) (not_lt.mpr h)
  · have hpositive : 0 ≤ sum := by
      by_contra hneg
      rw [abs_of_neg (not_le.mp hneg)] at hlarge
      norm_num [Decimal.precision] at hlarge
      linarith [hpaise.1]
    have herror : |toDigits Decimal.precision sum - sum| ≤ _ := abs_toDigits_sub_le sum
    rw [abs_of_nonneg hpositive] at herror hlarge
    have hhalf : sum * (10 ^ (1 - Decimal.precision : ℤ) / 2) ≤ sum / 2 := by
      rw [mul_div_assoc', div_le_div_iff_of_pos_right (by norm_num)]
      exact mul_le_of_le_one_right hpositive (by norm_num [Decimal.precision])
    have hlower := (abs_le.mp herror).1
    have hupper : limit.value < sum / 2 := by
      rw [Column.value]
      norm_num [Decimal.precision] at hlarge
      linarith [hpaise.2]
    have : Decimal.add (spent / 100) amount = toDigits Decimal.precision sum := rfl
    linarith

theorem capped_of_checkEmployee (h : s.checkEmployee calendar amount callerUserId = .ok ()) :
    ∀ employee ∈ s.account.employees (callerUserId.getD "SYSTEM"), ∀ limit ∈ employee.cap,
      s.monthlySpent calendar (callerUserId.getD "SYSTEM") + roundAway (amount * 100) ≤
        limit.paise := by
  intro employee hemployee limit hlimit
  cases callerUserId with
  | none => cases h
  | some userId =>
    rw [Option.getD_some, Option.mem_def] at hemployee
    rw [Option.mem_def] at hlimit
    simp only [CorporateDesk.checkEmployee, hemployee, hlimit] at h
    split_ifs at h with hactive hcap
    exact add_roundAway_le_of_add_le (not_lt.mp hcap)

theorem recordCredit_reservation (hsigns : CreditSigns s)
    (h : ReservationAllowed calendar s amount callerUserId callerRole) :
    ∃ s' entry, s.reserveCredit calendar amount callerUserId callerRole = .ok s' ∧
      Recorded s (s.account.usedCredit.paise + roundAway (amount * 100)) (roundAway (amount * 100))
        (callerUserId.getD "SYSTEM") .creditReservation entry s' := by
  have hused : 0 ≤ s.account.usedCredit.value :=
    Column.value_nonneg_iff.mpr hsigns.used
  have hwithin := h.within
  have hpos := h.positive
  have hpaise : roundAway ((s.account.usedCredit.value + amount) * 100) =
      s.account.usedCredit.paise + roundAway (amount * 100) := by
    have hscaled : 0 ≤ amount * 100 := mul_nonneg hpos.le (by norm_num)
    rw [add_mul, Column.value_mul_hundred, add_comm, roundAway_add_intCast hscaled, add_comm]
    exact add_nonneg hscaled (by exact_mod_cast hsigns.used)
  rw [reserveCredit_of_allowed h, ← hpaise]
  have husedBound : s.account.usedCredit.value + amount ≤ s.account.creditLimit.value := by linarith
  have hamountBound : amount ≤ s.account.creditLimit.value := by linarith
  exact recordCredit_eq_ok hsigns.limit (by linarith) husedBound hpos.le hamountBound _ _

theorem reserved_le_limit (h : ReservationAllowed calendar s amount callerUserId callerRole) :
    s.account.usedCredit.paise + roundAway (amount * 100) ≤ s.account.creditLimit.paise := by
  have hle : amount * 100 ≤ (s.account.creditLimit.paise - s.account.usedCredit.paise : ℤ) := by
    push_cast
    rw [← Column.value_mul_hundred, ← Column.value_mul_hundred, ← sub_mul]
    exact mul_le_mul_of_nonneg_right h.within (by norm_num)
  have hround := roundAway_mono hle
  rw [roundAway_intCast] at hround
  omega

theorem reserve_step_iff (hsigns : CreditSigns s) (hlaw : CreditLaw s) :
    CreditSigns (creditStep calendar s (.reserve amount callerUserId callerRole)) ∧
      ((CreditLaw (creditStep calendar s (.reserve amount callerUserId callerRole)) ∧
        EntriesRight calendar s (.reserve amount callerUserId callerRole)) ↔
        CreditCareful calendar s (.reserve amount callerUserId callerRole)) := by
  by_cases h : ReservationAllowed calendar s amount callerUserId callerRole
  · obtain ⟨s', entry, hok, hrecorded⟩ := recordCredit_reservation hsigns h
    have hnext : creditStep calendar s (.reserve amount callerUserId callerRole) = s' := by
      rw [creditStep, hok]
      rfl
    have hused : 0 ≤ s.account.usedCredit.paise + roundAway (amount * 100) :=
      add_nonneg hsigns.used (roundAway_nonneg (mul_nonneg h.positive.le (by norm_num)))
    have hlaw' : CreditLaw s' := (hrecorded.law_iff hlaw hused).mpr (by rw [if_pos rfl])
    have hright : EntriesRight calendar s (.reserve amount callerUserId callerRole) ↔
        EntryLaw calendar s' entry := by
      rw [EntriesRight, hnext, hrecorded.entries]
      constructor
      · rintro ⟨new, hnew, hall⟩
        exact hall entry (List.append_cancel_left hnew ▸ List.mem_singleton_self entry)
      · intro hentry
        exact ⟨[entry], rfl, fun other hother => List.mem_singleton.mp hother ▸ hentry⟩
    rw [hnext, and_iff_right hlaw', hright, hrecorded.entryLaw_iff, imp_iff_right rfl,
      and_iff_right (reserved_le_limit h)]
    refine ⟨hrecorded.signs hsigns hused, fun hcapped _ _ _ _ => hcapped, fun hcareful => ?_⟩
    by_cases hrole : callerRole = some .customer
    · exact capped_of_checkEmployee (h.employee hrole)
    · exact hcareful hrole h.positive h.active h.within
  · have hnext : creditStep calendar s (.reserve amount callerUserId callerRole) = s := by
      rw [creditStep, reserveCredit_of_not_allowed h]
      rfl
    rw [hnext]
    refine ⟨hsigns, iff_of_true ⟨hlaw, entriesRight_of_same (by rw [hnext])⟩ ?_⟩
    exact fun hrole hpositive hactive hwithin =>
      absurd ⟨hpositive, hactive, fun hcustomer => absurd hcustomer hrole, hwithin⟩ h

end Reserving

/-! ## Steps -/

section Steps

variable {calendar : MonthCalendar} {s s' : CorporateDesk}

/-- The credit in use is not touched, and its entries neither. -/
structure CreditKept (s s' : CorporateDesk) : Prop where
  limit : 0 ≤ s'.account.creditLimit.paise
  used : s'.account.usedCredit = s.account.usedCredit
  entries : s'.account.creditLedgerEntries = s.account.creditLedgerEntries

theorem step_iff_of_kept {action : CreditAction} (hsigns : CreditSigns s) (hlaw : CreditLaw s)
    (h : CreditKept s (creditStep calendar s action)) :
    CreditSigns (creditStep calendar s action) ∧
      (CreditLaw (creditStep calendar s action) ∧ EntriesRight calendar s action) := by
  refine ⟨⟨h.limit, h.used ▸ hsigns.used⟩, ⟨?_, h.used ▸ hlaw.nonneg⟩,
    entriesRight_of_same h.entries⟩
  rw [h.used, h.entries]
  exact hlaw.sum

theorem kept_of_result (hsigns : CreditSigns s) {result : Except HttpError CorporateDesk}
    (h : ∀ s', result = .ok s' → CreditKept s s') : CreditKept s (result.toOption.getD s) := by
  cases hresult : result with
  | error e => exact ⟨hsigns.limit, rfl, rfl⟩
  | ok s' => exact h s' hresult

theorem kept_updateAccount {dto : CorporateDesk.UpdateAccountDto} (hsigns : CreditSigns s)
    (h : s.updateAccount dto = .ok s') : CreditKept s s' := by
  unfold CorporateDesk.updateAccount at h
  obtain ⟨limit, hstored, hs'⟩ := bind_eq_ok.mp (show Except.bind _ _ = _ from h)
  obtain rfl := Except.ok.inj hs'
  refine ⟨?_, rfl, rfl⟩
  unfold CorporateDesk.nextLimit at hstored
  split at hstored
  · exact Except.ok.inj hstored ▸ hsigns.limit
  · rename_i new _
    rw [Column.paise_of_ofDecimal? (storeDecimal_eq_ok.mp hstored)]
    exact roundAway_nonneg (mul_nonneg new.2 (by norm_num))

theorem kept_addEmployee {userId : Id} {limit : Option Decimal} (hsigns : CreditSigns s)
    (h : s.addEmployee userId limit = .ok s') : CreditKept s s' := by
  unfold CorporateDesk.addEmployee at h
  split_ifs at h with hregistered
  obtain ⟨column, -, hs'⟩ := bind_eq_ok.mp (show Except.bind _ _ = _ from h)
  obtain rfl := Except.ok.inj hs'
  exact ⟨hsigns.limit, rfl, rfl⟩

theorem kept_updateEmployeeStatus {userId : Id} {isActive : Bool} (hsigns : CreditSigns s)
    (h : s.updateEmployeeStatus userId isActive = .ok s') : CreditKept s s' := by
  unfold CorporateDesk.updateEmployeeStatus at h
  split at h
  · cases h
  · obtain rfl := Except.ok.inj h
    exact ⟨hsigns.limit, rfl, rfl⟩

theorem credit_step_iff (s : CorporateDesk) (action : CreditAction) (hsigns : CreditSigns s)
    (hlaw : CreditLaw s) :
    CreditSigns (creditStep calendar s action) ∧
      ((CreditLaw (creditStep calendar s action) ∧ EntriesRight calendar s action) ↔
        CreditCareful calendar s action) := by
  have hkept : CreditKept s (creditStep calendar s action) →
      CreditSigns (creditStep calendar s action) ∧
        ((CreditLaw (creditStep calendar s action) ∧ EntriesRight calendar s action) ↔ True) :=
    fun h => (step_iff_of_kept hsigns hlaw h).imp_right (iff_of_true · trivial)
  cases action with
  | reserve amount callerUserId callerRole => exact reserve_step_iff hsigns hlaw
  | release amount callerUserId => exact lower_step_iff hsigns hlaw (by decide) rfl
  | settle amount callerUserId => exact lower_step_iff hsigns hlaw (by decide) rfl
  | update dto => exact hkept (kept_of_result hsigns fun s' => kept_updateAccount hsigns)
  | addEmployee userId limit =>
    exact hkept (kept_of_result hsigns fun s' => kept_addEmployee hsigns)
  | updateEmployeeStatus userId isActive =>
    exact hkept (kept_of_result hsigns fun s' => kept_updateEmployeeStatus hsigns)
  | advance milliseconds => exact hkept ⟨hsigns.limit, rfl, rfl⟩

end Steps

/-! ## Runs -/

/-- Exactly which runs keep the credit of an account in order. -/
theorem corporate_credit_iff (calendar : MonthCalendar)
    (creditLimit : { limit : Column 12 // 0 ≤ limit.paise }) (now : ℤ)
    (actions : List CreditAction) :
    (Everywhere (creditStep calendar) CreditLaw (.created creditLimit now) actions ∧
      Along (creditStep calendar) (EntriesRight calendar) (.created creditLimit now) actions) ↔
        Along (creditStep calendar) (CreditCareful calendar) (.created creditLimit now) actions :=
  everywhere_and_along_iff_within (I := CreditSigns)
    (fun s action hsigns hlaw _ => (credit_step_iff s action hsigns hlaw).1)
    (fun s action _ hsigns hlaw => (credit_step_iff s action hsigns hlaw).2)
    ⟨creditLimit.2, le_rfl⟩ ⟨rfl, le_rfl⟩

/-- Half a paisa of two is released: one paisa stands in the ledger, and two in the account. -/
theorem half_paisa_released :
    ¬ Everywhere (creditStep ⟨id, Int.le_refl⟩) CreditLaw
      (.created ⟨⟨100, by decide⟩, Int.natCast_nonneg 100⟩ 0)
      [.reserve (2 / 100) none (some .admin), .release (1 / 200) none] := by
  intro h
  have hsum := h.last.sum
  revert hsum
  decide +kernel

end CarRental
