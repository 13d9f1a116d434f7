import CarRental.Integrations.Runtime

/-!
# Money moves once

After a failure that another provider cannot mend, and, where money is moved, after one that leaves
open whether it has been moved, no further provider should be called; and one request should move
money once (`MovesOnce`).

The retry loop looks at the class of a failure only to leave itself.  The fallback loop goes on
after every failure, and `evaluateFallbackSafety` is never asked.  So the next provider is kept from the
request by nothing but its own circuit and limits (`moves_once_iff`).
-/

namespace CarRental.Integrations

variable {Value : Type}

/-! ## The law -/

/-- The capabilities that move money, as the adapters know them. -/
def moneyCapabilities : List String :=
  ["CREATE_ORDER", "CREATE_PAYMENT", "CAPTURE", "CAPTURE_PAYMENT", "REFUND", "REFUND_PAYMENT",
    "PAYOUT"]

def ExecutionRequest.MovesMoney (request : ExecutionRequest) : Prop :=
  (request.category = .payment ∨ request.category = .payouts) ∧
    request.capability.toUpper ∈ moneyCapabilities

instance (request : ExecutionRequest) : Decidable request.MovesMoney :=
  inferInstanceAs (Decidable (_ ∧ _))

/-- A failure of a class that is not eligible for a fallback. -/
def Invocation.NotEligible (invocation : Invocation Value) : Prop :=
  ∃ error, invocation.result = .error error ∧ isFallbackEligible (classify error) = false

/-- A failure that leaves open whether the provider has done what it was asked. -/
def Invocation.LeftOpen (invocation : Invocation Value) : Prop :=
  ∃ error, invocation.result = .error error ∧ Indeterminate error invocation.dispatched

def SameProvider (bad : Invocation Value → Prop) (earlier later : Call Value) : Prop :=
  bad earlier.invocation → later.position = earlier.position

structure MovesOnce (request : ExecutionRequest) (calls : List (Call Value)) : Prop where
  halts : calls.Pairwise (SameProvider Invocation.NotEligible)
  stays : request.MovesMoney → calls.Pairwise (SameProvider Invocation.LeftOpen)
  once : request.MovesMoney → calls.countP (fun call => call.invocation.executed) ≤ 1

/-! ## The condition -/

/-- Nothing after the candidates that the chain comes to and that fail in such a way. -/
def HeldBackAfter (request : ExecutionRequest) (bad : Invocation Value → Prop) :
    List (Candidate Value) → Prop
  | [] => True
  | candidate :: rest =>
    if candidate.admits then
      providerSuccess (attemptsOn request candidate) = false →
        ((∃ tried ∈ attemptsOn request candidate, bad tried) →
          ∀ later ∈ rest, later.admits = false) ∧
        HeldBackAfter request bad rest
    else HeldBackAfter request bad rest

/-- A provider that is asked again does not do it again. -/
def RepeatsNothing (request : ExecutionRequest) : List (Candidate Value) → Prop
  | [] => True
  | candidate :: rest =>
    if candidate.admits then
      (attemptsOn request candidate).countP Invocation.executed ≤ 1 ∧
        (providerSuccess (attemptsOn request candidate) = false → RepeatsNothing request rest)
    else RepeatsNothing request rest

structure SafeChain (request : ExecutionRequest) (chain : List (Candidate Value)) : Prop where
  notEligible : HeldBackAfter request Invocation.NotEligible chain
  leftOpen : request.MovesMoney → HeldBackAfter request Invocation.LeftOpen chain
  repeats : request.MovesMoney → RepeatsNothing request chain

/-! ## The calls of a chain -/

/-- The calls of the fallback loop, from the candidate at `position` on. -/
def callsFrom (request : ExecutionRequest) : ℕ → List (Candidate Value) → List (Call Value)
  | _, [] => []
  | position, candidate :: rest =>
    if candidate.admits then
      (attemptsOn request candidate).map (Call.mk position) ++
        if providerSuccess (attemptsOn request candidate) then []
        else callsFrom request (position + 1) rest
    else callsFrom request (position + 1) rest

variable {request : ExecutionRequest} {candidate : Candidate Value} {rest : List (Candidate Value)}
  {position : ℕ}

@[simp] theorem recordAttempt_calls (providerId : String) (state : ExecutionState Value)
    (invocation : Invocation Value) :
    (state.recordAttempt position providerId invocation).calls =
      state.calls ++ [⟨position, invocation⟩] := by
  unfold ExecutionState.recordAttempt
  dsimp only
  split <;> rfl

theorem foldl_recordAttempt_calls (providerId : String) (tried : List (Invocation Value))
    (state : ExecutionState Value) :
    (tried.foldl (ExecutionState.recordAttempt position providerId) state).calls =
      state.calls ++ tried.map (Call.mk position) := by
  induction tried generalizing state with
  | nil => simp
  | cons invocation tried ih => simp [ih]

theorem fallbackLoop_calls (chain : List (Candidate Value)) (position : ℕ)
    (state : ExecutionState Value) :
    (fallbackLoop request position chain state).calls =
      state.calls ++ callsFrom request position chain := by
  induction chain generalizing position state with
  | nil => simp [fallbackLoop, callsFrom]
  | cons candidate rest ih =>
    unfold fallbackLoop callsFrom
    dsimp only
    cases hcircuit : candidate.canExecute with
    | false => simp [ih, Candidate.admits, hcircuit, ExecutionState.bypass]
    | true =>
      cases hrate : candidate.rateAllowed with
      | false => simp [ih, Candidate.admits, hcircuit, hrate, ExecutionState.bypass]
      | true =>
        cases hslot : candidate.concurrencyAcquired with
        | false => simp [ih, Candidate.admits, hcircuit, hrate, hslot, ExecutionState.bypass]
        | true =>
          have hadmits : candidate.admits = true := by
            rw [Candidate.admits, hcircuit, hrate, hslot]
            rfl
          rw [if_pos hadmits]
          simp only [Bool.not_true, Bool.false_eq_true, if_false]
          cases hsuccess : providerSuccess (attemptsOn request candidate) with
          | true => simp [foldl_recordAttempt_calls]
          | false => simp [ih, foldl_recordAttempt_calls]

theorem callsOf_eq (routing : Except String (RoutingResolution Value)) :
    callsOf request routing = callsFrom request 0 (chainOf routing) := by
  cases routing with
  | error message => rfl
  | ok routing => rw [callsOf, runChain, fallbackLoop_calls, List.nil_append, chainOf]

theorem le_position_of_mem {chain : List (Candidate Value)} {call : Call Value}
    (h : call ∈ callsFrom request position chain) : position ≤ call.position := by
  induction chain generalizing position with
  | nil => cases h
  | cons candidate rest ih =>
    unfold callsFrom at h
    split at h
    · rcases List.mem_append.mp h with htried | hlater
      · obtain ⟨invocation, -, rfl⟩ := List.mem_map.mp htried
        exact le_rfl
      · split at hlater
        · cases hlater
        · exact (Nat.le_succ _).trans (ih hlater)
    · exact (Nat.le_succ _).trans (ih h)

theorem attemptsOn_ne_nil (request : ExecutionRequest) (candidate : Candidate Value) :
    attemptsOn request candidate ≠ [] := by
  unfold attemptsOn retryLoop
  dsimp only
  split
  · exact List.cons_ne_nil _ _
  · split <;> exact List.cons_ne_nil _ _

theorem callsFrom_eq_nil_iff {chain : List (Candidate Value)} :
    callsFrom request position chain = [] ↔ ∀ later ∈ chain, later.admits = false := by
  induction chain generalizing position with
  | nil => simp [callsFrom]
  | cons candidate rest ih =>
    unfold callsFrom
    cases hadmits : candidate.admits with
    | true => simp [attemptsOn_ne_nil, hadmits]
    | false => simp [ih, hadmits]

/-! ## No further provider -/

theorem pairwise_sameProvider_map (bad : Invocation Value → Prop)
    (tried : List (Invocation Value)) :
    (tried.map (Call.mk position)).Pairwise (SameProvider bad) := by
  rw [List.pairwise_map]
  exact List.pairwise_of_forall fun _ _ _ => rfl

theorem pairwise_sameProvider_append {bad : Invocation Value → Prop}
    (tried : List (Invocation Value)) {later : List (Call Value)}
    (hlater : ∀ call ∈ later, call.position ≠ position) :
    (tried.map (Call.mk position) ++ later).Pairwise (SameProvider bad) ↔
      ((∃ invocation ∈ tried, bad invocation) → later = []) ∧
        later.Pairwise (SameProvider bad) := by
  rw [List.pairwise_append]
  constructor
  · rintro ⟨-, hrest, hcross⟩
    refine ⟨?_, hrest⟩
    rintro ⟨invocation, hmem, hbad⟩
    refine List.eq_nil_iff_forall_not_mem.mpr fun call hcall => hlater call hcall ?_
    exact hcross _ (List.mem_map_of_mem hmem) call hcall hbad
  · rintro ⟨hnone, hrest⟩
    refine ⟨pairwise_sameProvider_map bad tried, hrest, fun call hcall other hother hbad => ?_⟩
    obtain ⟨invocation, hmem, rfl⟩ := List.mem_map.mp hcall
    rw [hnone ⟨invocation, hmem, hbad⟩] at hother
    cases hother

theorem pairwise_callsFrom_iff {bad : Invocation Value → Prop} {chain : List (Candidate Value)} :
    (callsFrom request position chain).Pairwise (SameProvider bad) ↔
      HeldBackAfter request bad chain := by
  induction chain generalizing position with
  | nil => exact iff_of_true List.Pairwise.nil trivial
  | cons candidate rest ih =>
    unfold callsFrom HeldBackAfter
    cases hadmits : candidate.admits with
    | false => simpa using ih
    | true =>
      simp only [if_true]
      cases hsuccess : providerSuccess (attemptsOn request candidate) with
      | true => simp [pairwise_sameProvider_map]
      | false =>
        have hlater : ∀ call ∈ callsFrom request (position + 1) rest,
            call.position ≠ position := fun call hcall =>
          (Nat.lt_of_succ_le (le_position_of_mem hcall)).ne'
        simp only [Bool.false_eq_true, if_false, forall_const]
        rw [pairwise_sameProvider_append _ hlater, callsFrom_eq_nil_iff, ih]

/-! ## Once -/

theorem leftOpen_of_executed {tried : List (Invocation Value)} (h : providerSuccess tried = false)
    {invocation : Invocation Value} (hmem : invocation ∈ tried)
    (hexecuted : invocation.executed = true) : invocation.LeftOpen := by
  have hfails : invocation.result.isOk = false := by
    have hnone := List.any_eq_false.mp h invocation hmem
    rwa [Bool.not_eq_true] at hnone
  cases hresult : invocation.result with
  | ok value =>
    rw [hresult] at hfails
    cases hfails
  | error error => exact ⟨error, hresult, invocation.settled hexecuted error hresult⟩

theorem countP_callsFrom_le_iff (position : ℕ) {chain : List (Candidate Value)}
    (h : HeldBackAfter request Invocation.LeftOpen chain) :
    (callsFrom request position chain).countP (fun call => call.invocation.executed) ≤ 1 ↔
      RepeatsNothing request chain := by
  induction chain generalizing position with
  | nil => exact iff_of_true (Nat.zero_le 1) trivial
  | cons candidate rest ih =>
    unfold callsFrom RepeatsNothing
    unfold HeldBackAfter at h
    cases hadmits : candidate.admits with
    | false =>
      rw [hadmits] at h
      simpa using ih (position + 1) h
    | true =>
      rw [hadmits] at h
      simp only [if_true] at h ⊢
      have hcount : ((attemptsOn request candidate).map (Call.mk position)).countP
          (fun call => call.invocation.executed) =
            (attemptsOn request candidate).countP Invocation.executed := by
        rw [List.countP_map]
        rfl
      rw [List.countP_append, hcount]
      cases hsuccess : providerSuccess (attemptsOn request candidate) with
      | true => simp
      | false =>
        obtain ⟨hheld, hrest⟩ := h hsuccess
        have hnext := ih (position + 1) hrest
        simp only [Bool.false_eq_true, if_false, forall_const]
        by_cases hopen : ∃ tried ∈ attemptsOn request candidate, tried.executed = true
        · -- the rest of the chain is held back
          obtain ⟨tried, hmem, hexecuted⟩ := hopen
          have hnone : callsFrom request (position + 1) rest = [] := callsFrom_eq_nil_iff.mpr
            (hheld ⟨tried, hmem, leftOpen_of_executed hsuccess hmem hexecuted⟩)
          rw [hnone] at hnext ⊢
          rw [← hnext]
          simp
        · -- nothing has been done here
          have hzero : (attemptsOn request candidate).countP Invocation.executed = 0 :=
            List.countP_eq_zero.mpr fun tried hmem hexecuted => hopen ⟨tried, hmem, hexecuted⟩
          rw [hzero, Nat.zero_add, hnext]
          exact (and_iff_right (Nat.zero_le 1)).symm

/-- A request calls no further provider after such a failure, and moves money once, exactly if
everybody behind such a failure is held back and no provider repeats itself. -/
theorem moves_once_iff (request : ExecutionRequest)
    (routing : Except String (RoutingResolution Value)) :
    MovesOnce request (callsOf request routing) ↔ SafeChain request (chainOf routing) := by
  rw [callsOf_eq]
  constructor
  · rintro ⟨hhalts, hstays, honce⟩
    refine ⟨pairwise_callsFrom_iff.mp hhalts, fun hmoney => ?_, fun hmoney => ?_⟩
    · exact pairwise_callsFrom_iff.mp (hstays hmoney)
    · exact (countP_callsFrom_le_iff 0 (pairwise_callsFrom_iff.mp (hstays hmoney))).mp
        (honce hmoney)
  · rintro ⟨hnotEligible, hleftOpen, hrepeats⟩
    refine ⟨pairwise_callsFrom_iff.mpr hnotEligible, fun hmoney => ?_, fun hmoney => ?_⟩
    · exact pairwise_callsFrom_iff.mpr (hleftOpen hmoney)
    · exact (countP_callsFrom_le_iff 0 (hleftOpen hmoney)).mpr (hrepeats hmoney)

/-- A call that the runtime gives up after the gateway has issued the order. -/
def timedOut : Invocation String where
  result := .error
    ⟨none, some "Provider razorpay timed out after 10000ms", "", some 504, none, none,
    some "ETIMEDOUT", none⟩
  dispatched := true
  executed := true
  settled := by
    rintro - error h
    cases h
    decide

def orderCreated : Invocation String where
  result := .ok (some "order")
  dispatched := true
  executed := true
  settled := by
    rintro - error h
    cases h

def sampleOrderRequest : ExecutionRequest :=
  ⟨.payment, "CREATE_ORDER", none, none, false⟩

def sampleRouting : RoutingResolution String :=
  ⟨⟨"razorpay", true, true, true, fun _ => timedOut⟩,
    [⟨"cashfree", true, true, true, fun _ => orderCreated⟩]⟩

/-- The order that timed out is issued again by the next provider. -/
theorem timed_out_order_issued_twice :
    ¬ MovesOnce sampleOrderRequest (callsOf sampleOrderRequest (.ok sampleRouting)) := by
  intro h
  exact absurd (h.once (by decide +kernel)) (by decide +kernel)

end CarRental.Integrations
