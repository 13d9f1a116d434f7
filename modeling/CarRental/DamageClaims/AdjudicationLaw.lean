import CarRental.Deposits.CustodyLaw
import CarRental.DamageClaims.Claims

/-!
# A claim is adjudicated once

A claim should be decided once, an approved amount should be what was deducted for it, and a
rejection should release the deposit only where nothing else is open.

The status is read once, at the start, and the writes of an adjudication go by the id alone: two of
them may decide one claim (`decided_twice`), and a dispute may reopen what has been decided since it
read.  A settlement that finds no held deposit is skipped, one of more than the deposit is cut to
it, and the approval is written all the same.  A process that dies in between leaves a deduction
without an approval, and a rejected claim makes room for a new one before the deposit is released.
Without these, the law holds (`adjudications_of_careful`).
-/

namespace CarRental.DamageClaims

open KeyedRows Rounding Runs

/-! ## The law -/

def ClaimsOffice.deducted (s : ClaimsOffice) (claimId : Id) : List ℤ :=
  (s.deductions.filter (·.1 = claimId)).map Prod.snd

structure ClaimLaw (s : ClaimsOffice) (claim : Claim) : Prop where
  once : s.decisions.count claim.id ≤ 1
  /-- Once no adjudication of the claim is under way. -/
  deducted : (∀ adj ∈ s.adjudications, adj.claim.id ≠ claim.id) →
    s.deducted claim.id = claim.approvedAmount.toList.map (·.paise)
  bounded : ∀ approved ∈ claim.approvedAmount, approved.paise ≤ claim.claimedAmount.paise ∧
    ∀ ceiling ∈ s.booking.deductibleCeiling, approved.paise ≤ ceiling.paise

structure AdjudicationLaw (s : ClaimsOffice) : Prop where
  claims : ∀ claim ∈ s.claims, ClaimLaw s claim
  releases : ∀ release ∈ s.releases, release.othersOpen = []

/-! ## The condition -/

def ClaimsOffice.HasOpen (s : ClaimsOffice) (claimId : Id) : Prop :=
  ∃ claim ∈ s.claims, claim.id = claimId ∧ claim.isOpen = true

/-- The rejection is written, and the deposit not released yet. -/
def Stage.isReleasing : Stage → Bool
  | .releasing => true
  | .claiming operation => operation.call = .release
  | _ => false

/-- What an adjudication has deducted and not undone. -/
def Stage.deducted : Stage → Option ℤ
  | .refunding operation => deduction operation
  | .recording (some operation) => deduction operation
  | _ => none

/-- The writes of decisions and disputes find the claim open, a settlement finds a held deposit that
covers it, nothing dies between a deduction and the approval, and nothing is filed between a
rejection and its release. -/
def ClaimsCareful (s : ClaimsOffice) : ClaimAction → Prop
  | .createClaim _ _ _ _ => ∀ adj ∈ s.adjudications, adj.stage.isReleasing = false
  | .writeDispute dispute => dispute ∈ s.disputes → s.HasOpen dispute.claimId
  | .advance adj _ => adj ∈ s.adjudications →
      match adj.stage with
      | .rejecting => s.HasOpen adj.claim.id
      | .settling => ∃ deposit ∈ s.deposit,
          deposit.status = .held ∧ adj.approvedAmount ≤ deposit.amount.value
      | .recording _ => s.HasOpen adj.claim.id
      | _ => True
  | .crash adj => adj ∈ s.adjudications → adj.stage.deducted = none
  | _ => True

/-! ## The invariant -/

def isDecided (claimId : Id) (claim : Claim) : Bool :=
  claim.id = claimId ∧ claim.isOpen = false

def isApproved (claimId : Id) (paise : ℤ) (claim : Claim) : Bool :=
  claim.id = claimId ∧ claim.approvedAmount.map (·.paise) = some paise

def hasDeducted (claimId : Id) (paise : ℤ) (adj : Adjudication) : Bool :=
  adj.claim.id = claimId ∧ adj.stage.deducted = some paise

namespace Adjudication

def Approvable (adj : Adjudication) (ceiling : Option Money) : Prop :=
  0 < adj.approvedAmount ∧ adj.approvedAmount ≤ adj.claim.claimedAmount.value ∧
    ∀ limit ∈ ceiling, adj.approvedAmount ≤ limit.value

/-- The operation settles the approved amount on a deposit that covers it. -/
def Covered (adj : Adjudication) (operation : DepositOperation) : Prop :=
  operation.call = .settle adj.approvedAmount ∧
    adj.approvedAmount ≤ operation.deposit.amount.value

def Checked (adj : Adjudication) (ceiling : Option Money) : Prop :=
  match adj.stage with
  | .rejecting | .releasing => True
  | .settling => adj.Approvable ceiling
  | .claiming operation | .refunding operation =>
    operation.call = .release ∨ adj.Approvable ceiling ∧ adj.Covered operation
  | .recording settled => adj.Approvable ceiling ∧ ∃ operation ∈ settled, adj.Covered operation

def Known (adj : Adjudication) (claims : List Claim) : Prop :=
  ∃ claim ∈ claims, claim.id = adj.claim.id ∧ claim.claimedAmount = adj.claim.claimedAmount

end Adjudication

structure ClaimsInOrder (s : ClaimsOffice) : Prop where
  nodup : (s.claims.map Claim.id).Nodup
  active : ∀ claim ∈ s.claims, ∀ other ∈ s.claims,
    claim.isActive = true → other.isActive = true → claim.id = other.id
  undecided : ∀ claim ∈ s.claims, claim.isOpen = true → claim.approvedAmount = none
  bounded : ∀ claim ∈ s.claims, ∀ approved ∈ claim.approvedAmount,
    approved.paise ≤ claim.claimedAmount.paise ∧
      ∀ ceiling ∈ s.booking.deductibleCeiling, approved.paise ≤ ceiling.paise
  decisions : ∀ claimId, s.decisions.count claimId = s.claims.countP (isDecided claimId)
  deductions : ∀ claimId paise, s.deductions.count (claimId, paise) =
    s.adjudications.countP (hasDeducted claimId paise) +
      s.claims.countP (isApproved claimId paise)
  checked : ∀ adj ∈ s.adjudications,
    adj.Known s.claims ∧ adj.Checked s.booking.deductibleCeiling
  /-- While a rejection is to release the deposit, nothing is open. -/
  releasing : ∀ adj ∈ s.adjudications, adj.stage.isReleasing = true →
    ∀ claim ∈ s.claims, claim.isOpen = false
  releases : ∀ release ∈ s.releases, release.othersOpen = []

section Law

variable {s : ClaimsOffice} {claim : Claim}

theorem count_deducted (claimId : Id) (paise : ℤ) :
    (s.deducted claimId).count paise = s.deductions.count (claimId, paise) := by
  rw [ClaimsOffice.deducted, List.count, List.count, List.countP_map, List.countP_filter]
  refine List.countP_congr fun entry _ => ?_
  obtain ⟨id, amount⟩ := entry
  simp only [Function.comp, beq_iff_eq, Bool.and_eq_true, decide_eq_true_eq, Prod.mk.injEq]
  exact and_comm

theorem eq_toList_of_count {values : List ℤ} {value : Option ℤ}
    (h : ∀ a, values.count a = if value = some a then 1 else 0) : values = value.toList := by
  cases value with
  | none =>
    refine List.eq_nil_iff_forall_not_mem.mpr fun a ha => ?_
    have hcount := h a
    rw [if_neg nofun, List.count_eq_zero] at hcount
    exact hcount ha
  | some b =>
    refine List.perm_singleton.mp (List.perm_iff_count.mpr fun a => ?_)
    rw [h a, List.count_singleton]
    simp

theorem ClaimsInOrder.claimLaw (h : ClaimsInOrder s) (hclaim : claim ∈ s.claims) :
    ClaimLaw s claim where
  once := by
    rw [h.decisions]
    have hone := countP_key (p := fun claim => !claim.isOpen) h.nodup hclaim
    have hsame : s.claims.countP (isDecided claim.id) =
        s.claims.countP fun other => other.id = claim.id ∧ (!other.isOpen) = true := by
      refine List.countP_congr fun other _ => ?_
      simp [isDecided]
    rw [hsame, hone]
    split <;> omega
  deducted := by
    intro hidle
    have hvalue : s.deducted claim.id = (claim.approvedAmount.map (·.paise)).toList := by
      refine eq_toList_of_count fun paise => ?_
      rw [count_deducted, h.deductions]
      have hnone : s.adjudications.countP (hasDeducted claim.id paise) = 0 := by
        refine List.countP_eq_zero.mpr fun adj hadj hdeducted => ?_
        exact hidle adj hadj (of_decide_eq_true hdeducted).1
      have hone := countP_key (p := fun claim => claim.approvedAmount.map (·.paise) = some paise)
        h.nodup hclaim
      have hsame : s.claims.countP (isApproved claim.id paise) =
          s.claims.countP fun other => other.id = claim.id ∧
            decide (other.approvedAmount.map (·.paise) = some paise) = true := by
        refine List.countP_congr fun other _ => ?_
        simp [isApproved]
      rw [hnone, zero_add, hsame, hone]
      simp only [decide_eq_true_eq]
    rw [hvalue]
    cases claim.approvedAmount <;> rfl
  bounded := h.bounded claim hclaim

theorem ClaimsInOrder.law (h : ClaimsInOrder s) : AdjudicationLaw s :=
  ⟨fun _ hclaim => h.claimLaw hclaim, h.releases⟩

end Law

/-! ## Changes -/

section Changes

variable {s s' : ClaimsOffice} {claim : Claim} {adj : Adjudication}

/-- Nothing happens to the claims. -/
structure SameClaims (s s' : ClaimsOffice) : Prop where
  claims : s'.claims = s.claims
  decisions : s'.decisions = s.decisions
  ceiling : s'.booking.deductibleCeiling = s.booking.deductibleCeiling

theorem ClaimsInOrder.of_same (h : ClaimsInOrder s) (hsame : SameClaims s s')
    (hdeductions : ∀ claimId paise, s'.deductions.count (claimId, paise) +
        s.adjudications.countP (hasDeducted claimId paise) =
      s.deductions.count (claimId, paise) +
        s'.adjudications.countP (hasDeducted claimId paise))
    (hadjudications : ∀ adj ∈ s'.adjudications, adj ∈ s.adjudications ∨
      adj.Known s.claims ∧ adj.Checked s.booking.deductibleCeiling ∧
        (adj.stage.isReleasing = true → ∀ claim ∈ s.claims, claim.isOpen = false))
    (hreleases : ∀ release ∈ s'.releases, release ∈ s.releases ∨ release.othersOpen = []) :
    ClaimsInOrder s' where
  nodup := hsame.claims ▸ h.nodup
  active := hsame.claims ▸ h.active
  undecided := hsame.claims ▸ h.undecided
  bounded := by
    rw [hsame.claims, hsame.ceiling]
    exact h.bounded
  decisions := by
    rw [hsame.claims, hsame.decisions]
    exact h.decisions
  deductions := by
    intro claimId paise
    have hbefore := h.deductions claimId paise
    have hchange := hdeductions claimId paise
    rw [hsame.claims]
    omega
  checked := by
    intro adj hadj
    rw [hsame.claims, hsame.ceiling]
    rcases hadjudications adj hadj with hold | ⟨hknown, hchecked, -⟩
    · exact h.checked adj hold
    · exact ⟨hknown, hchecked⟩
  releasing := by
    intro adj hadj hreleasing
    rw [hsame.claims]
    rcases hadjudications adj hadj with hold | ⟨-, -, hnew⟩
    · exact h.releasing adj hold hreleasing
    · exact hnew hreleasing
  releases := fun release hrelease =>
    (hreleases release hrelease).elim (h.releases release) id

theorem countP_erase (hadj : adj ∈ s.adjudications) (p : Adjudication → Bool) :
    s.adjudications.countP p =
      (s.adjudications.erase adj).countP p + if p adj then 1 else 0 := by
  rw [(List.perm_cons_erase hadj).countP_eq, List.countP_cons]

theorem ClaimsInOrder.of_over (h : ClaimsInOrder s) (hsame : SameClaims s s')
    (hadjudications : s'.adjudications = s.adjudications.erase adj)
    (hdeducted : adj.stage.deducted = none)
    (hdeductions : s'.deductions = s.deductions) (hreleases : s'.releases = s.releases) :
    ClaimsInOrder s' := by
  refine h.of_same hsame (fun claimId paise => ?_) (fun other hother => ?_)
    fun release hrelease => ?_
  · rw [hadjudications, hdeductions]
    by_cases hadj : adj ∈ s.adjudications
    · have hnone : hasDeducted claimId paise adj = false := by simp [hasDeducted, hdeducted]
      rw [countP_erase hadj, hnone]
      rfl
    · rw [List.erase_of_not_mem hadj]
  · rw [hadjudications] at hother
    exact .inl (List.mem_of_mem_erase hother)
  · rw [hreleases] at hrelease
    exact .inl hrelease

theorem ClaimsInOrder.of_proceed (h : ClaimsInOrder s) (hsame : SameClaims s s')
    (hadj : adj ∈ s.adjudications) {stage : Stage}
    (hadjudications : s'.adjudications = { adj with stage } :: s.adjudications.erase adj)
    (hdeductions : ∀ claimId paise, s'.deductions.count (claimId, paise) +
        (if hasDeducted claimId paise adj then 1 else 0) =
      s.deductions.count (claimId, paise) +
        if hasDeducted claimId paise { adj with stage } then 1 else 0)
    (hchecked : Adjudication.Checked { adj with stage } s.booking.deductibleCeiling)
    (hreleasing : stage.isReleasing = true → adj.stage.isReleasing = true)
    (hreleases : ∀ release ∈ s'.releases, release ∈ s.releases ∨ release.othersOpen = []) :
    ClaimsInOrder s' := by
  refine h.of_same hsame (fun claimId paise => ?_) (fun other hother => ?_) hreleases
  · have hchange := hdeductions claimId paise
    rw [hadjudications, List.countP_cons, countP_erase hadj]
    omega
  · rw [hadjudications] at hother
    rcases List.mem_cons.mp hother with rfl | hold
    · exact .inr ⟨(h.checked adj hadj).1, hchecked,
        fun hnew => h.releasing adj hadj (hreleasing hnew)⟩
    · exact .inl (List.mem_of_mem_erase hold)

theorem ClaimsInOrder.not_isOpen_of_ne (h : ClaimsInOrder s) (hclaim : claim ∈ s.claims)
    (hopen : claim.isOpen = true) {other : Claim} (hother : other ∈ s.claims)
    (hne : other.id ≠ claim.id) : other.isOpen = false := by
  by_contra hboth
  have hsame := h.active claim hclaim other hother (Claim.isActive_of_isOpen hopen)
    (Claim.isActive_of_isOpen (Bool.eq_true_of_not_eq_false hboth))
  exact hne hsame.symm

theorem mem_updateKey_claim (hnodup : (s.claims.map Claim.id).Nodup) (hclaim : claim ∈ s.claims)
    {f : Claim → Claim} {other : Claim} (h : other ∈ updateKey Claim.id claim.id f s.claims) :
    other = f claim ∨ other ∈ s.claims ∧ other.id ≠ claim.id := by
  refine (mem_updateKey.mp h).imp_left ?_
  rintro ⟨row, hrow, hid, rfl⟩
  rw [eq_of_key_eq hnodup hrow hclaim hid]

theorem ClaimsInOrder.of_update (h : ClaimsInOrder s) (hclaim : claim ∈ s.claims)
    (hopen : claim.isOpen = true) {f : Claim → Claim}
    (hclaims : s'.claims = updateKey Claim.id claim.id f s.claims)
    (hid : ∀ claim, (f claim).id = claim.id)
    (hclaimed : ∀ claim, (f claim).claimedAmount = claim.claimedAmount)
    (hceiling : s'.booking.deductibleCeiling = s.booking.deductibleCeiling)
    (hundecided : (f claim).isOpen = true → (f claim).approvedAmount = none)
    (hbounded : ∀ approved ∈ (f claim).approvedAmount,
      approved.paise ≤ claim.claimedAmount.paise ∧
        ∀ ceiling ∈ s.booking.deductibleCeiling, approved.paise ≤ ceiling.paise)
    (hdecisions : s'.decisions = s.decisions ++ if (f claim).isOpen then [] else [claim.id])
    (hdeductions : ∀ claimId paise, s'.deductions.count (claimId, paise) +
        s.adjudications.countP (hasDeducted claimId paise) =
      s.deductions.count (claimId, paise) + s'.adjudications.countP (hasDeducted claimId paise) +
        if isApproved claimId paise (f claim) then 1 else 0)
    (hadjudications : ∀ adj ∈ s'.adjudications, adj ∈ s.adjudications ∨
      adj.Known s.claims ∧ adj.Checked s.booking.deductibleCeiling ∧
        (adj.stage.isReleasing = true → (f claim).isOpen = false))
    (hreleases : s'.releases = s.releases) : ClaimsInOrder s' where
  nodup := by
    rw [hclaims, map_key_updateKey hid]
    exact h.nodup
  active := by
    rw [hclaims]
    intro first hfirst second hsecond hactive hactive'
    have hclaim' := h.active claim hclaim
    rcases mem_updateKey_claim h.nodup hclaim hfirst with rfl | ⟨hfirst, hne⟩
    · rcases mem_updateKey_claim h.nodup hclaim hsecond with rfl | ⟨hsecond, hne⟩
      · rfl
      · rw [hid]
        exact hclaim' second hsecond (Claim.isActive_of_isOpen hopen) hactive'
    · exact absurd (hclaim' first hfirst (Claim.isActive_of_isOpen hopen) hactive).symm hne
  undecided := by
    rw [hclaims]
    intro other hother
    rcases mem_updateKey_claim h.nodup hclaim hother with rfl | ⟨hother, -⟩
    · exact hundecided
    · exact h.undecided other hother
  bounded := by
    rw [hclaims, hceiling]
    intro other hother
    rcases mem_updateKey_claim h.nodup hclaim hother with rfl | ⟨hother, -⟩
    · rw [hclaimed]
      exact hbounded
    · exact h.bounded other hother
  decisions := by
    intro claimId
    have hbefore := h.decisions claimId
    have hchange := countP_updateKey_add (f := f) (p := isDecided claimId) h.nodup hclaim rfl
    have hwas : isDecided claimId claim = false := by simp [isDecided, hopen]
    rw [hclaims, hdecisions, List.count_append]
    rw [hwas] at hchange
    cases hnow : (f claim).isOpen with
    | true => simp_all [isDecided]
    | false =>
      by_cases hsame : claim.id = claimId
      · simp_all [isDecided]
      · simp_all [isDecided]
  deductions := by
    intro claimId paise
    have hbefore := h.deductions claimId paise
    have hchange := countP_updateKey_add (f := f) (p := isApproved claimId paise) h.nodup hclaim rfl
    have hwas : isApproved claimId paise claim = false := by
      simp [isApproved, h.undecided claim hclaim hopen]
    have hdeducted := hdeductions claimId paise
    rw [hwas, if_neg Bool.false_ne_true] at hchange
    rw [hclaims]
    omega
  checked := by
    intro adj hadj
    rw [hceiling]
    have hold : adj.Known s.claims ∧ adj.Checked s.booking.deductibleCeiling :=
      (hadjudications adj hadj).elim (h.checked adj) fun hnew => ⟨hnew.1, hnew.2.1⟩
    refine ⟨?_, hold.2⟩
    obtain ⟨other, hother, hotherId, hamount⟩ := hold.1
    rw [hclaims]
    by_cases hsame : other.id = claim.id
    · exact ⟨f other, mem_updateKey.mpr (.inl ⟨other, hother, hsame, rfl⟩), (hid _).trans hotherId,
        (hclaimed _).trans hamount⟩
    · exact ⟨other, mem_updateKey.mpr (.inr ⟨hother, hsame⟩), hotherId, hamount⟩
  releasing := by
    intro adj hadj hreleasing other hother
    rcases hadjudications adj hadj with hold | ⟨-, -, hclosed⟩
    · -- the claim was open, and so no rejection was to release the deposit
      rw [h.releasing adj hold hreleasing claim hclaim] at hopen
      cases hopen
    · rw [hclaims] at hother
      rcases mem_updateKey_claim h.nodup hclaim hother with rfl | ⟨hother, hne⟩
      · exact hclosed hreleasing
      · exact h.not_isOpen_of_ne hclaim hopen hother hne
  releases := hreleases ▸ h.releases

end Changes

/-! ## Amounts -/

section Amounts

variable {x : Decimal} {c : Money}

theorem paise_le_of_ofDecimal? (h : Column.ofDecimal? x = some c) {limit : Money}
    (hle : x ≤ limit.value) : c.paise ≤ limit.paise :=
  Column.paise_of_ofDecimal? h ▸ Column.roundAway_le_paise hle

theorem Adjudication.Covered.deduction_eq {adj : Adjudication} {operation : DepositOperation}
    (h : adj.Covered operation) (hstored : Column.ofDecimal? adj.approvedAmount = some c) :
    deduction operation = some c.paise := by
  obtain ⟨hcall, hcovers⟩ := h
  rw [deduction, hcall, DepositOperation.deductedPaise, DepositOperation.deducted, hcall,
    Column.paise_of_ofDecimal? hstored]
  simp only [if_neg (not_lt.mpr hcovers)]

theorem approvable_of_checkApprovedAmount {adj : Adjudication} {ceiling : Option Money}
    (h : DepositDesk.checkApprovedAmount adj.approvedAmount adj.claim.claimedAmount.value
      (ceiling.map Column.value) = .ok ()) : adj.Approvable ceiling := by
  unfold DepositDesk.checkApprovedAmount at h
  split_ifs at h with hpos hclaimed hceiling
  refine ⟨not_le.mp hpos, not_lt.mp hclaimed, fun limit hlimit => not_lt.mp fun hlt => hceiling ?_⟩
  rw [Option.mem_def.mp hlimit]
  simpa using hlt

end Amounts

/-! ## Steps -/

section Steps

variable {s : ClaimsOffice} {adj : Adjudication} {operation : DepositOperation}

/-- The adjudication that advances is taken out. -/
def ClaimsOffice.without (s : ClaimsOffice) (adj : Adjudication) : ClaimsOffice :=
  { s with adjudications := s.adjudications.erase adj }

theorem hasDeducted_congr (stage : Stage) (h : stage.deducted = adj.stage.deducted) (claimId : Id)
    (paise : ℤ) : hasDeducted claimId paise { adj with stage } = hasDeducted claimId paise adj := by
  rw [hasDeducted, hasDeducted, h]

theorem inOrder_reject (h : ClaimsInOrder s) (hadj : adj ∈ s.adjudications)
    (hstage : adj.stage = .rejecting) (hopen : s.HasOpen adj.claim.id) :
    ClaimsInOrder (((s.without adj).reject adj).proceed adj .releasing) := by
  obtain ⟨claim, hclaim, hid, hclaimOpen⟩ := hopen
  refine h.of_update hclaim hclaimOpen (f := fun claim => { claim with
      status := .rejected, adminNotes := some adj.dto.adminNotes })
    (by rw [hid]; rfl) (fun _ => rfl) (fun _ => rfl) rfl nofun (fun approved happroved => ?_)
    (by rw [hid]; rfl) (fun claimId paise => ?_) (fun other hother => ?_) rfl
  · exact h.bounded claim hclaim approved happroved
  · have hwas : isApproved claimId paise claim = false := by
      simp [isApproved, h.undecided claim hclaim hclaimOpen]
    have hnow : isApproved claimId paise { claim with
        status := .rejected, adminNotes := some adj.dto.adminNotes } = false := hwas
    have hsame := hasDeducted_congr .releasing (by rw [hstage]; rfl) claimId paise
    rw [hnow, countP_erase hadj, ← hsame]
    show _ = _ + List.countP _ ({ adj with stage := .releasing } :: s.adjudications.erase adj) + _
    rw [List.countP_cons]
    rfl
  · rcases List.mem_cons.mp hother with rfl | hold
    · exact .inr ⟨(h.checked adj hadj).1, trivial, fun _ => rfl⟩
    · exact .inl (List.mem_of_mem_erase hold)

theorem inOrder_readRelease (h : ClaimsInOrder s) (hadj : adj ∈ s.adjudications)
    (hstage : adj.stage = .releasing)
    (hread : s.desk.readRelease = .ok (some operation)) :
    ClaimsInOrder ((s.without adj).proceed adj (.claiming operation)) := by
  obtain ⟨-, hcall, -⟩ := DepositDesk.readRelease_eq_ok hread
  refine h.of_proceed ⟨rfl, rfl, rfl⟩ hadj rfl (fun claimId paise => ?_) (.inl hcall) (fun _ => ?_)
    fun release hrelease => .inl hrelease
  · rw [hasDeducted_congr (.claiming operation) (by rw [hstage]; rfl)]
    rfl
  · rw [hstage]
    rfl

theorem readSettlement_of_held {desk : DepositDesk} {deposit : SecurityDeposit}
    (hdeposit : desk.deposit = some deposit) (hheld : deposit.status = .held) (amount : Decimal) :
    desk.readSettlement amount = some ⟨.settle amount, deposit, false⟩ := by
  simp [DepositDesk.readSettlement, hdeposit, hheld]

theorem inOrder_readSettlement (h : ClaimsInOrder s) (hadj : adj ∈ s.adjudications)
    (hstage : adj.stage = .settling) {deposit : SecurityDeposit}
    (hcovers : adj.approvedAmount ≤ deposit.amount.value) :
    ClaimsInOrder ((s.without adj).proceed adj
      (.claiming ⟨.settle adj.approvedAmount, deposit, false⟩)) := by
  have hchecked := (h.checked adj hadj).2
  rw [Adjudication.Checked, hstage] at hchecked
  refine h.of_proceed ⟨rfl, rfl, rfl⟩ hadj rfl (fun claimId paise => ?_)
    (.inr ⟨hchecked, rfl, hcovers⟩) (fun hreleasing => ?_) fun release hrelease => .inl hrelease
  · rw [hasDeducted_congr (.claiming _) (by rw [hstage]; rfl)]
    rfl
  · cases hreleasing

theorem inOrder_claimDeposit (h : ClaimsInOrder s) (hadj : adj ∈ s.adjudications)
    (hstage : adj.stage = .claiming operation) :
    ClaimsInOrder ((s.without adj).claimDeposit adj operation) := by
  have hnone : adj.stage.deducted = none := by
    rw [hstage]
    rfl
  have hover : ClaimsInOrder (s.without adj) := h.of_over ⟨rfl, rfl, rfl⟩ rfl hnone rfl rfl
  have hchecked := (h.checked adj hadj).2
  rw [Adjudication.Checked, hstage] at hchecked
  unfold ClaimsOffice.claimDeposit
  split
  · exact hover
  split_ifs with hheld
  swap
  · exact hover
  refine h.of_proceed ⟨rfl, rfl, rfl⟩ hadj rfl (fun claimId paise => ?_) hchecked nofun
    fun release hrelease => ?_
  · have hwas : hasDeducted claimId paise adj = false := by simp [hasDeducted, hnone]
    rw [hwas, List.count_append]
    cases hdeduction : deduction operation with
    | none => simp [ClaimsOffice.without, hasDeducted, Stage.deducted, hdeduction]
    | some amount =>
      simp [ClaimsOffice.without, hasDeducted, Stage.deducted, hdeduction, List.count_singleton]
  · rcases List.mem_append.mp hrelease with hold | hnew
    · exact .inl hold
    refine .inr ?_
    unfold ClaimsOffice.newReleases at hnew
    split at hnew
    next hcall =>
      rw [List.mem_singleton.mp hnew]
      have hclosed := h.releasing adj hadj (by rw [hstage]; exact decide_eq_true hcall)
      refine List.map_eq_nil_iff.mpr (List.filter_eq_nil_iff.mpr fun claim hclaim hother => ?_)
      have := (of_decide_eq_true hother).2
      rw [hclosed claim hclaim] at this
      cases this
    · cases hnew

theorem inOrder_finishDeposit (h : ClaimsInOrder s) (hadj : adj ∈ s.adjudications)
    (hstage : adj.stage = .refunding operation) (refunded : Option (Option GatewayRefundId)) :
    ClaimsInOrder ((s.without adj).finishDeposit adj operation refunded) := by
  have hchecked := (h.checked adj hadj).2
  rw [Adjudication.Checked, hstage] at hchecked
  have hdeducted : adj.stage.deducted = deduction operation := by
    rw [hstage]
    rfl
  unfold ClaimsOffice.finishDeposit
  dsimp only
  split
  next hnone => exact h.of_over ⟨rfl, rfl, rfl⟩ rfl (hdeducted.trans hnone) rfl rfl
  next paise hpaise =>
    split_ifs
    · refine h.of_same ⟨rfl, rfl, rfl⟩ (fun claimId amount => ?_) (fun other hother => ?_)
        fun release hrelease => .inl hrelease
      · show List.count _ (s.deductions.erase (adj.claim.id, paise)) + _ =
          _ + List.countP _ (s.adjudications.erase adj)
        have hcount := h.deductions claimId amount
        rw [List.count_erase, countP_erase hadj] at *
        by_cases hsame : (adj.claim.id, paise) = (claimId, amount)
        · have hhas : hasDeducted claimId amount adj = true := by
            obtain ⟨hid, hamount⟩ := Prod.mk.inj hsame
            simp [hasDeducted, hid, hdeducted, hpaise, hamount]
          rw [hhas] at hcount ⊢
          simp only [hsame, beq_self_eq_true, if_true] at hcount ⊢
          omega
        · have hhas : hasDeducted claimId amount adj = false := by
            rw [Prod.mk.injEq] at hsame
            simpa [hasDeducted, hdeducted, hpaise] using hsame
          rw [hhas]
          simp [hsame]
      · exact .inl (List.mem_of_mem_erase hother)
    · have hcovered : adj.Approvable s.booking.deductibleCeiling ∧ adj.Covered operation := by
        refine hchecked.resolve_left fun hrelease => ?_
        rw [deduction, hrelease] at hpaise
        cases hpaise
      refine h.of_proceed ⟨rfl, rfl, rfl⟩ hadj rfl (fun claimId amount => ?_)
        ⟨hcovered.1, operation, rfl, hcovered.2⟩ nofun fun release hrelease => .inl hrelease
      rw [hasDeducted_congr (.recording (some operation)) (by rw [hdeducted]; rfl)]
      rfl

theorem mayBeActive_of_isOpen {t : ClaimsOffice} (h : ClaimsInOrder s)
    (hclaims : t.claims = s.claims)
    {claim : Claim} (hclaim : claim ∈ s.claims) (hopen : claim.isOpen = true) :
    t.mayBeActive claim.id = true := by
  refine List.all_eq_true.mpr fun other hother => decide_eq_true ?_
  rw [hclaims] at hother
  by_contra hboth
  rw [not_or, Bool.not_eq_false] at hboth
  exact hboth.1
    (h.active claim hclaim other hother (Claim.isActive_of_isOpen hopen) hboth.2).symm

theorem inOrder_record (h : ClaimsInOrder s) (hadj : adj ∈ s.adjudications)
    {settled : Option DepositOperation} (hstage : adj.stage = .recording settled)
    (hopen : s.HasOpen adj.claim.id) : ClaimsInOrder ((s.without adj).record adj) := by
  obtain ⟨claim, hclaim, hid, hclaimOpen⟩ := hopen
  obtain ⟨⟨known, hknown, hknownId, hclaimed⟩, hchecked⟩ := h.checked adj hadj
  obtain rfl : known = claim := eq_of_key_eq h.nodup hknown hclaim (hknownId.trans hid.symm)
  rw [Adjudication.Checked, hstage] at hchecked
  obtain ⟨⟨hpos, hle, hceiling⟩, operation, rfl, hcovered⟩ := hchecked
  obtain ⟨approved, happroved⟩ := Column.ofDecimal?_of_le hpos.le hle
  have hdeducted : adj.stage.deducted = some approved.paise := by
    rw [hstage]
    exact hcovered.deduction_eq happroved
  have hactive : (s.without adj).mayBeActive adj.claim.id = true :=
    hid ▸ mayBeActive_of_isOpen h rfl hclaim hclaimOpen
  unfold ClaimsOffice.record
  rw [happroved]
  dsimp only
  rw [if_pos hactive]
  have hdecided : ∀ claim : Claim, claim.status = adj.targetStatus → claim.isOpen = false := by
    intro claim hstatus
    rw [Claim.isOpen, hstatus, Adjudication.targetStatus]
    split_ifs <;> rfl
  refine h.of_update hclaim hclaimOpen (f := fun claim => { claim with
      status := adj.targetStatus
      approvedAmount := some approved
      adminNotes := some adj.dto.adminNotes })
    (by rw [hid]; rfl) (fun _ => rfl) (fun _ => rfl) rfl (fun hnow => ?_)
    (fun amount hamount => ?_) ?_ (fun claimId paise => ?_) (fun other hother => ?_) rfl
  · rw [hdecided _ rfl] at hnow
    cases hnow
  · obtain rfl := Option.some_inj.mp hamount
    rw [hclaimed]
    exact ⟨paise_le_of_ofDecimal? happroved hle,
      fun limit hlimit => paise_le_of_ofDecimal? happroved (hceiling limit hlimit)⟩
  · rw [hdecided _ rfl, hid]
    rfl
  · rw [countP_erase hadj]
    have hsame : isApproved claimId paise { known with
        status := adj.targetStatus
        approvedAmount := some approved
        adminNotes := some adj.dto.adminNotes } = hasDeducted claimId paise adj := by
      simp [isApproved, hasDeducted, hdeducted, hid]
    rw [hsame]
    show List.count _ s.deductions + _ = _ + List.countP _ (s.adjudications.erase adj) + _
    omega
  · exact .inl (List.mem_of_mem_erase hother)

theorem inOrder_advance (h : ClaimsInOrder s) (hadj : adj ∈ s.adjudications)
    {refunded : Option (Option GatewayRefundId)}
    (hcareful : ClaimsCareful s (.advance adj refunded)) :
    ClaimsInOrder ((s.without adj).advance adj refunded) := by
  have hstep := hcareful hadj
  have hover : adj.stage.deducted = none → ClaimsInOrder (s.without adj) := fun hnone =>
    h.of_over ⟨rfl, rfl, rfl⟩ rfl hnone rfl rfl
  unfold ClaimsOffice.advance
  cases hstage : adj.stage with
  | rejecting =>
    rw [hstage] at hstep
    exact inOrder_reject h hadj hstage hstep
  | releasing =>
    dsimp only
    split
    next operation hread => exact inOrder_readRelease h hadj hstage hread
    · exact hover (by rw [hstage]; rfl)
  | settling =>
    rw [hstage] at hstep
    obtain ⟨deposit, hdeposit, hheld, hcovers⟩ := hstep
    have hread : (s.without adj).desk.readSettlement adj.approvedAmount =
        some ⟨.settle adj.approvedAmount, deposit, false⟩ :=
      readSettlement_of_held hdeposit hheld _
    dsimp only
    rw [hread]
    exact inOrder_readSettlement h hadj hstage hcovers
  | claiming operation => exact inOrder_claimDeposit h hadj hstage
  | refunding operation => exact inOrder_finishDeposit h hadj hstage refunded
  | recording settled =>
    rw [hstage] at hstep
    exact inOrder_record h hadj hstage hstep

theorem inOrder_createClaim (h : ClaimsInOrder s) {newId requestingUserId : Id} {isAdmin : Bool}
    {claimedAmount : Decimal} {claim : Claim}
    (hfiled : ∀ adj ∈ s.adjudications, adj.stage.isReleasing = false)
    (hcreate : s.createClaim newId requestingUserId isAdmin claimedAmount = .ok claim) :
    ClaimsInOrder { s with claims := s.claims ++ [claim] } := by
  unfold ClaimsOffice.createClaim at hcreate
  split_ifs at hcreate with _ _ _ hactive hfresh
  split at hcreate
  · cases hcreate
  next claimed _ =>
  obtain rfl := Except.ok.inj hcreate
  have hinactive : ∀ other ∈ s.claims, other.isActive = false := fun other hother =>
    Bool.eq_false_of_not_eq_true fun hboth => hactive (List.any_eq_true.mpr ⟨other, hother, hboth⟩)
  have hnew : ∀ other ∈ s.claims ++ [(⟨newId, claimed, none, .submitted, none, none⟩ : Claim)],
      other ∈ s.claims ∨ other = ⟨newId, claimed, none, .submitted, none, none⟩ :=
    fun other hother =>
    (List.mem_append.mp hother).imp_right List.mem_singleton.mp
  refine ⟨?_, ?_, ?_, ?_, fun claimId => ?_, fun claimId paise => ?_, fun adj hadj => ?_,
    fun adj hadj hreleasing => ?_, h.releases⟩
  · refine nodup_map_concat h.nodup fun hmem => hfresh ?_
    obtain ⟨other, hother, hid⟩ := List.mem_map.mp hmem
    exact List.find?_isSome.mpr ⟨other, hother, decide_eq_true hid⟩
  · intro first hfirst second hsecond hactive hactive'
    rcases hnew first hfirst with hfirst | rfl
    · rw [hinactive first hfirst] at hactive
      cases hactive
    · rcases hnew second hsecond with hsecond | rfl
      · rw [hinactive second hsecond] at hactive'
        cases hactive'
      · rfl
  · intro other hother hopen
    rcases hnew other hother with hold | rfl
    · exact h.undecided other hold hopen
    · rfl
  · intro other hother approved happroved
    rcases hnew other hother with hold | rfl
    · exact h.bounded other hold approved happroved
    · cases happroved
  · rw [List.countP_append, ← h.decisions]
    simp [isDecided, Claim.isOpen]
  · rw [List.countP_append, h.deductions]
    simp [isApproved]
  · obtain ⟨⟨known, hknown, hsame⟩, hchecked⟩ := h.checked adj hadj
    exact ⟨⟨known, List.mem_append_left _ hknown, hsame⟩, hchecked⟩
  · rw [hfiled adj hadj] at hreleasing
    cases hreleasing

theorem inOrder_writeDispute (h : ClaimsInOrder s) {dispute : Dispute}
    (hopen : s.HasOpen dispute.claimId) :
    ClaimsInOrder ({ s with disputes := s.disputes.erase dispute }.writeDispute dispute) := by
  obtain ⟨claim, hclaim, hid, hclaimOpen⟩ := hopen
  have hundecided := h.undecided claim hclaim hclaimOpen
  rw [ClaimsOffice.writeDispute, if_pos (hid ▸ mayBeActive_of_isOpen h rfl hclaim hclaimOpen)]
  refine h.of_update hclaim hclaimOpen (f := fun claim => { claim with
      customerDispute := some dispute.customerDispute, status := .underReview })
    (by rw [hid]) (fun _ => rfl) (fun _ => rfl) rfl (fun _ => hundecided)
    (fun approved happroved => h.bounded claim hclaim approved happroved)
    (List.append_nil _).symm (fun claimId paise => ?_) (fun _ hother => .inl hother) rfl
  simp [isApproved, hundecided]

theorem inOrder_adjudicate (h : ClaimsInOrder s) {claimId : Id} {dto : AdjudicateClaimDto}
    (hread : s.readAdjudication claimId dto = .ok adj) :
    ClaimsInOrder { s with adjudications := adj :: s.adjudications } := by
  have hfresh : adj.stage.deducted = none ∧ adj.stage.isReleasing = false ∧
      adj.Known s.claims ∧ adj.Checked s.booking.deductibleCeiling := by
    unfold ClaimsOffice.readAdjudication at hread
    split at hread
    · cases hread
    next claim hclaim =>
    have hknown : ∀ stage, Adjudication.Known ⟨claim, dto, stage⟩ s.claims := fun _ =>
      ⟨claim, List.mem_of_find?_eq_some hclaim, rfl, rfl⟩
    split_ifs at hread
    · obtain rfl := Except.ok.inj hread
      exact ⟨rfl, rfl, hknown _, trivial⟩
    · cases hcheck : DepositDesk.checkApprovedAmount (dto.approvedAmount.getD 0)
          claim.claimedAmount.value (s.booking.deductibleCeiling.map Column.value) with
      | error e =>
        rw [hcheck] at hread
        cases hread
      | ok _ =>
        rw [hcheck] at hread
        obtain rfl := Except.ok.inj hread
        exact ⟨rfl, rfl, hknown _, approvable_of_checkApprovedAmount hcheck⟩
  obtain ⟨hdeducted, hreleasing, hknown, hchecked⟩ := hfresh
  refine h.of_same ⟨rfl, rfl, rfl⟩ (fun claimId paise => ?_) (fun other hother => ?_)
    fun release hrelease => .inl hrelease
  · have hnone : hasDeducted claimId paise adj = false := by simp [hasDeducted, hdeducted]
    rw [List.countP_cons, hnone]
    rfl
  · rcases List.mem_cons.mp hother with rfl | hold
    · refine .inr ⟨hknown, hchecked, fun hboth => ?_⟩
      rw [hreleasing] at hboth
      cases hboth
    · exact .inl hold

theorem inOrder_of_step (s : ClaimsOffice) (action : ClaimAction) (h : ClaimsInOrder s)
    (hcareful : ClaimsCareful s action) : ClaimsInOrder (claimsStep s action) := by
  have hsame : ∀ s', SameClaims s s' → s'.deductions = s.deductions →
      s'.adjudications = s.adjudications → s'.releases = s.releases → ClaimsInOrder s' := by
    intro s' hclaims hdeductions hadjudications hreleases
    refine h.of_same hclaims (fun _ _ => by rw [hdeductions, hadjudications])
      (fun adj hadj => .inl (hadjudications ▸ hadj)) fun release hrelease => .inl ?_
    rwa [← hreleases]
  cases action with
  | createClaim newId requestingUserId isAdmin claimedAmount =>
    simp only [claimsStep]
    split
    next claim hcreate => exact inOrder_createClaim h hcareful hcreate
    · exact h
  | readDispute claimId requestingUserId customerDispute =>
    simp only [claimsStep]
    split
    · exact hsame _ ⟨rfl, rfl, rfl⟩ rfl rfl rfl
    · exact h
  | writeDispute dispute =>
    simp only [claimsStep]
    split_ifs with hdispute
    · exact inOrder_writeDispute h (hcareful hdispute)
    · exact h
  | adjudicate claimId dto =>
    simp only [claimsStep]
    split
    next adj hread => exact inOrder_adjudicate h hread
    · exact h
  | advance adj refunded =>
    simp only [claimsStep]
    split_ifs with hadj
    · exact inOrder_advance h hadj hcareful
    · exact h
  | crash adj =>
    by_cases hadj : adj ∈ s.adjudications
    · exact h.of_over ⟨rfl, rfl, rfl⟩ rfl (hcareful hadj) rfl rfl
    · exact hsame _ ⟨rfl, rfl, rfl⟩ rfl (List.erase_of_not_mem hadj) rfl
  | setStatus status => exact hsame _ ⟨rfl, rfl, rfl⟩ rfl rfl rfl
  | setDeposit deposit => exact hsame _ ⟨rfl, rfl, rfl⟩ rfl rfl rfl

end Steps

/-! ## Runs -/

theorem inOrder_opened (booking : ClaimedBooking) (deposit : Option SecurityDeposit) :
    ClaimsInOrder (.opened booking deposit) where
  nodup := List.nodup_nil
  active := fun _ h => absurd h List.not_mem_nil
  undecided := fun _ h => absurd h List.not_mem_nil
  bounded := fun _ h => absurd h List.not_mem_nil
  decisions := fun _ => rfl
  deductions := fun _ _ => rfl
  checked := fun _ h => absurd h List.not_mem_nil
  releasing := fun _ h => absurd h List.not_mem_nil
  releases := fun _ h => absurd h List.not_mem_nil

/-- In a careful run a claim is decided once, its approved amount is what was deducted, and a
rejection releases the deposit where nothing else is open. -/
theorem adjudications_of_careful (booking : ClaimedBooking) (deposit : Option SecurityDeposit)
    (actions : List ClaimAction)
    (hcareful : Along claimsStep ClaimsCareful (.opened booking deposit) actions) :
    Everywhere claimsStep AdjudicationLaw (.opened booking deposit) actions :=
  (hcareful.everywhere inOrder_of_step (inOrder_opened booking deposit)).mono fun _ h => h.law

def damagedTrip : ClaimedBooking := ⟨"customer", "vendor", .completed, none, none⟩

def heldDeposit : SecurityDeposit :=
  ⟨"d", ⟨50000, by norm_num⟩, 0, 0, .held, none, none⟩

/-- An approval of 100 rupees, which are all that was claimed. -/
def approvalOf (stage : Stage) : Adjudication :=
  ⟨⟨"c", ⟨10000, by norm_num⟩, none, .submitted, none, none⟩,
    ⟨.approved, some 100, "scratch"⟩, stage⟩

def hundredSettled : DepositOperation := ⟨.settle 100, heldDeposit, false⟩

theorem adjudications_of_approval :
    Everywhere claimsStep AdjudicationLaw (.opened damagedTrip heldDeposit)
      [.createClaim "c" "vendor" false 100, .adjudicate "c" ⟨.approved, some 100, "scratch"⟩,
        .advance (approvalOf .settling) none, .advance (approvalOf (.claiming hundredSettled)) none,
        .advance (approvalOf (.refunding hundredSettled)) (some none),
        .advance (approvalOf (.recording (some hundredSettled))) none] := by
  refine adjudications_of_careful _ _ _
    ⟨fun _ h => absurd h List.not_mem_nil, trivial, fun _ => ?_, fun _ => trivial,
      fun _ => trivial, fun _ => ?_, trivial⟩
  · exact ⟨heldDeposit, by decide +kernel, rfl,
      by norm_num [approvalOf, Adjudication.approvedAmount, heldDeposit, Column.value]⟩
  · exact ⟨(approvalOf .settling).claim, by decide +kernel, rfl, rfl⟩

/-- Two administrators read the claim; one rejects it and the other approves it after that. -/
theorem decided_twice :
    ¬ Everywhere claimsStep AdjudicationLaw (.opened damagedTrip heldDeposit)
      [.createClaim "c" "vendor" false 100, .adjudicate "c" ⟨.approved, some 100, "scratch"⟩,
        .adjudicate "c" ⟨.rejected, none, "no damage"⟩,
        .advance { approvalOf .rejecting with dto := ⟨.rejected, none, "no damage"⟩ } none,
        .advance (approvalOf .settling) none, .advance (approvalOf (.claiming hundredSettled)) none,
        .advance (approvalOf (.refunding hundredSettled)) (some none),
        .advance (approvalOf (.recording (some hundredSettled))) none] := by
  intro h
  have honce := fun claim hclaim => (h.last.claims claim hclaim).once
  revert honce
  decide +kernel

end CarRental.DamageClaims
