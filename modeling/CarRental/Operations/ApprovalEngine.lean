import Mathlib.Data.List.Perm.Subperm
import CarRental.Lib.Runs
import CarRental.Http
import CarRental.Operations.DomainEvents

/-!
# The approval engine

`ApprovalEngineService`.  A request is made of steps, whose indices come from the caller; where one
is missing, the place of the step is taken.  One step at a time is current, at first the one with
index 0, and each approval moves on to the next index.  Whether the request is approved with it is
decided by comparing that index with the number of steps.

How a number is written into a message is an argument.
-/

namespace CarRental.Operations

open Runs

inductive ApprovalStatus where
  | pending
  | approved
  | rejected
  | escalated
  | timeout
deriving DecidableEq, Repr

def ApprovalStatus.text : ApprovalStatus → String
  | .pending => "PENDING"
  | .approved => "APPROVED"
  | .rejected => "REJECTED"
  | .escalated => "ESCALATED"
  | .timeout => "TIMEOUT"

structure ApprovalStep where
  stepIndex : ℚ
  title : String
  approverRole : String
  approverUserId : Option String
  status : ApprovalStatus
  decidedBy : Option String
  decisionNote : Option String
  decidedAt : Option ℤ
deriving DecidableEq

structure ApprovalRequest where
  requestId : String
  requestedBy : Actor
  currentStepIndex : ℚ
  steps : List ApprovalStep
  overallStatus : ApprovalStatus
  createdAt : ℤ
  updatedAt : ℤ
deriving DecidableEq

/-- A step as the caller describes it. -/
structure StepParams where
  stepIndex : Option ℚ
  title : String
  approverRole : String
  approverUserId : Option String
deriving DecidableEq

structure CreateApprovalParams where
  requestedBy : Actor
  steps : List StepParams
deriving DecidableEq

/-- Who decides.  The controller turns away a caller without an id. -/
structure AuthenticatedUser where
  id : String
  role : String
  id_ne : id ≠ ""
deriving DecidableEq

inductive Decision where
  | approved
  | rejected
deriving DecidableEq, Repr

structure DecisionParams where
  requestId : String
  stepIndex : ℚ
  decision : Decision
  decidedBy : AuthenticatedUser
  decisionNote : Option String
  now : ℤ
deriving DecidableEq

/-- The requests in memory, by their ids. -/
abbrev ApprovalStore := String → Option ApprovalRequest

/-! ## A new request -/

def newStep (index : ℕ) (params : StepParams) : ApprovalStep where
  stepIndex := params.stepIndex.getD index
  title := params.title
  approverRole := params.approverRole
  approverUserId := params.approverUserId
  status := .pending
  decidedBy := none
  decisionNote := none
  decidedAt := none

def newRequest (params : CreateApprovalParams) (requestId : String) (now : ℤ) : ApprovalRequest where
  requestId
  requestedBy := params.requestedBy
  currentStepIndex := 0
  steps := params.steps.mapIdx newStep
  overallStatus := .pending
  createdAt := now
  updatedAt := now

def createApprovalRequest (requests : ApprovalStore) (params : CreateApprovalParams)
    (requestId : String) (now : ℤ) : ApprovalStore × ApprovalRequest :=
  (Function.update requests requestId (some (newRequest params requestId now)),
    newRequest params requestId now)

/-! ## Decisions -/

/-- The step names another approver, and the user is not a super administrator. -/
def ApprovalStep.namesOther (step : ApprovalStep) (user : AuthenticatedUser) : Bool :=
  (given step.approverUserId).any fun approver => approver ≠ user.id ∧ user.role ≠ "SUPER_ADMIN"

def ApprovalStep.lacksRole (step : ApprovalStep) (user : AuthenticatedUser) : Bool :=
  step.approverRole ≠ "" ∧ user.role ≠ "SUPER_ADMIN" ∧ user.role ≠ "ADMIN" ∧
    user.role ≠ step.approverRole

def rewriteStep (stepIndex : ℚ) (f : ApprovalStep → ApprovalStep) :
    List ApprovalStep → List ApprovalStep
  | [] => []
  | step :: rest =>
    if step.stepIndex = stepIndex then f step :: rest else step :: rewriteStep stepIndex f rest

def ApprovalStep.decide (step : ApprovalStep) (params : DecisionParams) : ApprovalStep :=
  { step with
    status :=
      match params.decision with
      | .approved => .approved
      | .rejected => .rejected
    decidedBy := some params.decidedBy.id
    decisionNote := params.decisionNote
    decidedAt := some params.now }

/-- The request after a decision on its current step. -/
def ApprovalRequest.decide (request : ApprovalRequest) (params : DecisionParams) :
    ApprovalRequest :=
  let steps := rewriteStep params.stepIndex (·.decide params) request.steps
  let decided := { request with steps, updatedAt := params.now }
  match params.decision with
  | .rejected => { decided with overallStatus := .rejected }
  | .approved =>
    let nextStepIndex := params.stepIndex + 1
    if nextStepIndex < request.steps.length then
      { decided with currentStepIndex := nextStepIndex }
    else { decided with overallStatus := .approved }

/-- What a decision is turned away for. -/
def refusal (numberText : ℚ → String) (request : ApprovalRequest) (params : DecisionParams) :
    Option HttpError :=
  if request.overallStatus ≠ .pending then
    some (.badRequest ("Approval request is already resolved with status " ++
      request.overallStatus.text))
  else
    match request.steps.find? fun step => step.stepIndex = params.stepIndex with
    | none =>
      some (.badRequest ("Step index " ++ numberText params.stepIndex ++
        " does not exist in request"))
    | some step =>
      if step.stepIndex ≠ request.currentStepIndex then
        some (.badRequest ("Cannot decide step " ++ numberText params.stepIndex ++
          "; current active step is " ++ numberText request.currentStepIndex))
      else if step.status ≠ .pending then
        some (.badRequest ("Step " ++ numberText params.stepIndex ++
          " has already been decided: " ++ step.status.text))
      else if request.requestedBy.id ≠ "" ∧ request.requestedBy.id = params.decidedBy.id then
        some (.badRequest ("Segregation of duties violation: Requester (" ++
          request.requestedBy.id ++ ") cannot decide their own approval request"))
      else if step.namesOther params.decidedBy then
        some (.badRequest ("User " ++ params.decidedBy.id ++
          " is not the designated approver (" ++ step.approverUserId.getD "" ++ ") for step " ++
          numberText params.stepIndex))
      else if step.lacksRole params.decidedBy then
        some (.badRequest ("User with role " ++ params.decidedBy.role ++
          " is not authorized to decide step requiring role " ++ step.approverRole))
      else none

def recordDecision (numberText : ℚ → String) (requests : ApprovalStore) (params : DecisionParams) :
    ApprovalStore × Except HttpError ApprovalRequest :=
  match requests params.requestId with
  | none =>
    (requests, .error (.notFound ("Approval request with ID " ++ params.requestId ++
      " not found")))
  | some request =>
    match refusal numberText request params with
    | some e => (requests, .error e)
    | none =>
      (Function.update requests params.requestId (some (request.decide params)),
        .ok (request.decide params))

/-- A call, whether it returns or not. -/
def decisionStep (numberText : ℚ → String) (requests : ApprovalStore) (params : DecisionParams) :
    ApprovalStore :=
  (recordDecision numberText requests params).1

/-!
## What an approval takes

An approval only ever applies to the current index, and the current index grows by one with each.
So the approvals of a request are those of the indices 0, 1, 2, ... in this order, and when their
number reaches that of the steps, each of these indices is one of a step.  As there are no more
steps than indices, no two steps have the same index and all of them are approved
(`Progress.approvedBy`), however the caller has chosen the indices.
-/

/-- Neither the step nor the request stand against a decision of the user. -/
structure AuthorisedFor (request : ApprovalRequest) (step : ApprovalStep)
    (user : AuthenticatedUser) : Prop where
  designated : step.namesOther user = false
  role : step.lacksRole user = false
  notRequester : user.id ≠ request.requestedBy.id

/-- A step without the decision on it. -/
def ApprovalStep.undecided (step : ApprovalStep) : ApprovalStep :=
  { step with status := .pending, decidedBy := none, decisionNote := none, decidedAt := none }

structure ApprovesStep (request : ApprovalRequest) (params : DecisionParams)
    (step : ApprovalStep) : Prop where
  decision : params.decision = .approved
  index : params.stepIndex = step.stepIndex
  status : step.status = .approved
  decidedBy : step.decidedBy = some params.decidedBy.id
  authorised : AuthorisedFor request step params.decidedBy

/-- The steps are those that were asked for, and each of them was approved, in the order of the
indices, by one of the decisions. -/
structure ApprovedBy (created request : ApprovalRequest) (decisions : List DecisionParams) :
    Prop where
  steps : request.steps.map ApprovalStep.undecided = created.steps
  requestedBy : request.requestedBy = created.requestedBy
  approvals : ∃ accepted : List DecisionParams, accepted.Sublist decisions ∧
    accepted.Pairwise (·.stepIndex < ·.stepIndex) ∧
    accepted.length = request.steps.length ∧
    ∀ step ∈ request.steps, ∃ params ∈ accepted, ApprovesStep request params step

/-! ## Steps -/

section Steps

variable {stepIndex : ℚ} {f : ApprovalStep → ApprovalStep} {steps : List ApprovalStep}
  {step : ApprovalStep} {numberText : ℚ → String} {request : ApprovalRequest}
  {params : DecisionParams}

theorem length_rewriteStep : (rewriteStep stepIndex f steps).length = steps.length := by
  induction steps with
  | nil => rfl
  | cons head rest ih =>
    rw [rewriteStep]
    split
    · rfl
    · rw [List.length_cons, List.length_cons, ih]

theorem map_undecided_rewriteStep (hf : ∀ step, (f step).undecided = step.undecided) :
    (rewriteStep stepIndex f steps).map ApprovalStep.undecided =
      steps.map ApprovalStep.undecided := by
  induction steps with
  | nil => rfl
  | cons head rest ih =>
    rw [rewriteStep]
    split
    · rw [List.map_cons, List.map_cons, hf]
    · rw [List.map_cons, List.map_cons, ih]

theorem mem_rewriteStep_of_ne (hstep : step ∈ steps) (hne : step.stepIndex ≠ stepIndex) :
    step ∈ rewriteStep stepIndex f steps := by
  induction steps with
  | nil => cases hstep
  | cons head rest ih =>
    rw [rewriteStep]
    rcases List.mem_cons.mp hstep with rfl | hrest
    · rw [if_neg hne]
      exact List.mem_cons_self
    · split
      · exact List.mem_cons_of_mem _ hrest
      · exact List.mem_cons_of_mem _ (ih hrest)

theorem mem_rewriteStep_of_find?
    (hfind : steps.find? (fun step => step.stepIndex = stepIndex) = some step) :
    f step ∈ rewriteStep stepIndex f steps := by
  induction steps with
  | nil => cases hfind
  | cons head rest ih =>
    rw [List.find?_cons] at hfind
    rw [rewriteStep]
    by_cases hhead : head.stepIndex = stepIndex
    · rw [decide_eq_true hhead] at hfind
      cases hfind
      rw [if_pos hhead]
      exact List.mem_cons_self
    · rw [decide_eq_false hhead] at hfind
      rw [if_neg hhead]
      exact List.mem_cons_of_mem _ (ih hfind)

theorem of_refusal_eq_none (h : refusal numberText request params = none) :
    request.overallStatus = .pending ∧
      ∃ step, request.steps.find? (fun step => step.stepIndex = params.stepIndex) = some step ∧
        step.stepIndex = request.currentStepIndex ∧
        AuthorisedFor request step params.decidedBy := by
  unfold refusal at h
  split at h
  · cases h
  next hpending =>
    split at h
    · cases h
    next step hfind =>
      split at h
      · cases h
      next hcurrent =>
        split at h
        · cases h
        · split at h
          · cases h
          next hrequester =>
            split at h
            · cases h
            next hdesignated =>
              split at h
              · cases h
              next hrole =>
                refine ⟨not_not.mp hpending, step, hfind, not_not.mp hcurrent,
                  Bool.eq_false_iff.mpr hdesignated, Bool.eq_false_iff.mpr hrole, fun hsame => ?_⟩
                -- an id that decides is not empty, so the requester's is looked at
                exact hrequester ⟨hsame ▸ params.decidedBy.id_ne, hsame.symm⟩

end Steps

/-! ## Progress -/

section Progress

variable {numberText : ℚ → String} {created request : ApprovalRequest}
  {decisions accepted : List DecisionParams} {params : DecisionParams}

/-- The approvals so far: those of the first so many indices, each of a step that has it. -/
structure Progress (created request : ApprovalRequest) (accepted : List DecisionParams) :
    Prop where
  steps : request.steps.map ApprovalStep.undecided = created.steps
  requestedBy : request.requestedBy = created.requestedBy
  indices : accepted.map DecisionParams.stepIndex = (List.range accepted.length).map Nat.cast
  current : request.overallStatus = .pending → request.currentStepIndex = accepted.length
  complete : request.overallStatus = .approved → request.steps.length ≤ accepted.length
  approvals : ∀ params ∈ accepted, ∃ step ∈ request.steps, ApprovesStep request params step

theorem progress_newRequest (params : CreateApprovalParams) (requestId : String) (now : ℤ) :
    Progress (newRequest params requestId now) (newRequest params requestId now) [] where
  steps := by
    have hpending : ∀ step ∈ (newRequest params requestId now).steps, step.undecided = step := by
      intro step hstep
      obtain ⟨index, hindex, rfl⟩ := List.mem_mapIdx.mp hstep
      rfl
    exact (List.map_congr_left hpending).trans (List.map_id _)
  requestedBy := rfl
  indices := rfl
  current _ := rfl
  complete h := by cases h
  approvals _ h := by cases h

theorem undecided_decide (step : ApprovalStep) (params : DecisionParams) :
    (step.decide params).undecided = step.undecided := rfl

theorem steps_decide (request : ApprovalRequest) (params : DecisionParams) :
    (request.decide params).steps =
      rewriteStep params.stepIndex (·.decide params) request.steps := by
  unfold ApprovalRequest.decide
  cases params.decision with
  | rejected => rfl
  | approved =>
    dsimp only
    split
    · rfl
    · rfl

theorem requestedBy_decide (request : ApprovalRequest) (params : DecisionParams) :
    (request.decide params).requestedBy = request.requestedBy := by
  unfold ApprovalRequest.decide
  cases params.decision with
  | rejected => rfl
  | approved =>
    dsimp only
    split
    · rfl
    · rfl

theorem AuthorisedFor.decide {step : ApprovalStep} {user : AuthenticatedUser}
    (h : AuthorisedFor request step user) (params : DecisionParams) :
    AuthorisedFor (request.decide params) step user :=
  ⟨h.designated, h.role, requestedBy_decide request params ▸ h.notRequester⟩

theorem Progress.reject (h : Progress created request accepted)
    (hsteps : ∀ earlier ∈ accepted, earlier.stepIndex ≠ params.stepIndex)
    (hdecision : params.decision = .rejected) :
    Progress created (request.decide params) accepted := by
  have hstatus : (request.decide params).overallStatus = .rejected := by
    simp [ApprovalRequest.decide, hdecision]
  constructor
  · rw [steps_decide, map_undecided_rewriteStep fun step => undecided_decide step params]
    exact h.steps
  · exact (requestedBy_decide request params).trans h.requestedBy
  · exact h.indices
  · intro hpending
    rw [hstatus] at hpending
    cases hpending
  · intro happroved
    rw [hstatus] at happroved
    cases happroved
  · intro earlier hearlier
    obtain ⟨step, hstep, happroves⟩ := h.approvals earlier hearlier
    refine ⟨step, ?_, happroves.decision, happroves.index, happroves.status, happroves.decidedBy,
      happroves.authorised.decide params⟩
    rw [steps_decide]
    exact mem_rewriteStep_of_ne hstep (happroves.index ▸ hsteps earlier hearlier)

theorem Progress.approve (h : Progress created request accepted) {step : ApprovalStep}
    (hpending : request.overallStatus = .pending)
    (hsteps : ∀ earlier ∈ accepted, earlier.stepIndex ≠ params.stepIndex)
    (hdecision : params.decision = .approved) (hindex : params.stepIndex = accepted.length)
    (hfind : request.steps.find? (fun step => step.stepIndex = params.stepIndex) = some step)
    (hauthorised : AuthorisedFor request step params.decidedBy) :
    Progress created (request.decide params) (accepted ++ [params]) := by
  have hfound : step.stepIndex = params.stepIndex := of_decide_eq_true (List.find?_some hfind :)
  constructor
  · rw [steps_decide, map_undecided_rewriteStep fun step => undecided_decide step params]
    exact h.steps
  · exact (requestedBy_decide request params).trans h.requestedBy
  · rw [List.map_append, h.indices, List.length_append, List.length_singleton, List.range_succ,
      List.map_append, List.map_singleton, List.map_singleton, hindex]
  · intro hstill
    simp only [ApprovalRequest.decide, hdecision] at hstill ⊢
    split at hstill
    next hnext =>
      rw [if_pos hnext, hindex]
      simp
    next hlast => cases hstill
  · intro happroved
    rw [steps_decide, length_rewriteStep, List.length_append, List.length_singleton]
    simp only [ApprovalRequest.decide, hdecision] at happroved
    split at happroved
    next hnext =>
      rw [hpending] at happroved
      cases happroved
    next hlast =>
      rw [hindex, not_lt] at hlast
      exact_mod_cast hlast
  · intro other hother
    rw [steps_decide]
    rcases List.mem_append.mp hother with hearlier | hlast
    · obtain ⟨earlier, hstep, happroves⟩ := h.approvals other hearlier
      refine ⟨earlier, mem_rewriteStep_of_ne hstep (happroves.index ▸ hsteps other hearlier),
        happroves.decision, happroves.index, happroves.status, happroves.decidedBy,
        happroves.authorised.decide params⟩
    · obtain rfl := List.mem_singleton.mp hlast
      have hdecided : AuthorisedFor (request.decide other) (step.decide other) other.decidedBy :=
        ⟨hauthorised.designated, hauthorised.role, (hauthorised.decide other).notRequester⟩
      refine ⟨step.decide other, mem_rewriteStep_of_find? hfind, hdecision, hfound.symm, ?_, rfl,
        hdecided⟩
      simp [ApprovalStep.decide, hdecision]

theorem Progress.stepIndex_ne (h : Progress created request accepted)
    {earlier : DecisionParams} (hearlier : earlier ∈ accepted) :
    earlier.stepIndex ≠ accepted.length := by
  have hmem : earlier.stepIndex ∈ (List.range accepted.length).map (Nat.cast : ℕ → ℚ) :=
    h.indices ▸ List.mem_map_of_mem hearlier
  obtain ⟨index, hindex, heq⟩ := List.mem_map.mp hmem
  rw [← heq]
  intro hlength
  exact absurd (Nat.cast_injective hlength) (List.mem_range.mp hindex).ne

variable (numberText params) in
theorem Progress.step {requests : ApprovalStore} {requestId : String}
    (hrequest : requests requestId = some request) (h : Progress created request accepted) :
    ∃ request' accepted', decisionStep numberText requests params requestId = some request' ∧
      Progress created request' accepted' ∧
      (accepted' = accepted ∨ accepted' = accepted ++ [params]) := by
  unfold decisionStep recordDecision
  cases hfound : requests params.requestId with
  | none => exact ⟨request, accepted, hrequest, h, .inl rfl⟩
  | some other =>
    dsimp only
    cases hrefusal : refusal numberText other params with
    | some e => exact ⟨request, accepted, hrequest, h, .inl rfl⟩
    | none =>
      dsimp only
      by_cases hid : requestId = params.requestId
      · subst hid
        obtain rfl := Option.some_inj.mp (hfound.symm.trans hrequest)
        obtain ⟨hpending, step, hfind, hcurrent, hauthorised⟩ := of_refusal_eq_none hrefusal
        have hstep : step.stepIndex = params.stepIndex :=
          of_decide_eq_true (List.find?_some hfind :)
        have hindex : params.stepIndex = accepted.length :=
          hstep.symm.trans (hcurrent.trans (h.current hpending))
        have hsteps : ∀ earlier ∈ accepted, earlier.stepIndex ≠ params.stepIndex :=
          fun earlier hearlier => hindex ▸ h.stepIndex_ne hearlier
        rw [Function.update_self]
        cases hdecision : params.decision with
        | rejected => exact ⟨_, accepted, rfl, h.reject hsteps hdecision, .inl rfl⟩
        | approved =>
          exact ⟨_, accepted ++ [params], rfl,
            h.approve hpending hsteps hdecision hindex hfind hauthorised, .inr rfl⟩
      · rw [Function.update_of_ne hid]
        exact ⟨request, accepted, hrequest, h, .inl rfl⟩

theorem Progress.approvedBy (h : Progress created request accepted)
    (hsublist : accepted.Sublist decisions) (happroved : request.overallStatus = .approved) :
    ApprovedBy created request decisions := by
  have hnodup : (accepted.map DecisionParams.stepIndex).Nodup := by
    rw [h.indices]
    exact List.nodup_range.map Nat.cast_injective
  have hsubset : accepted.map DecisionParams.stepIndex ⊆
      request.steps.map ApprovalStep.stepIndex := by
    intro index hindex
    obtain ⟨params, hparams, rfl⟩ := List.mem_map.mp hindex
    obtain ⟨step, hstep, happroves⟩ := h.approvals params hparams
    exact List.mem_map.mpr ⟨step, hstep, happroves.index.symm⟩
  have hperm : (accepted.map DecisionParams.stepIndex).Perm
      (request.steps.map ApprovalStep.stepIndex) := by
    apply (List.subperm_of_subset hnodup hsubset).perm_of_length_le
    rw [List.length_map, List.length_map]
    exact h.complete happroved
  have hstepNodup : (request.steps.map ApprovalStep.stepIndex).Nodup := hperm.nodup_iff.mp hnodup
  refine ⟨h.steps, h.requestedBy, accepted, hsublist, ?_, ?_, fun step hstep => ?_⟩
  · have hsorted : (accepted.map DecisionParams.stepIndex).Pairwise (· < ·) := by
      rw [h.indices, List.pairwise_map]
      exact List.pairwise_lt_range.imp fun hlt => Nat.cast_lt.mpr hlt
    exact List.pairwise_map.mp hsorted
  · have hlength := hperm.length_eq
    rwa [List.length_map, List.length_map] at hlength
  · -- the index of the step is that of an approval, whose step can only be this one
    obtain ⟨params, hparams, hindex⟩ :=
      List.mem_map.mp (hperm.mem_iff.mpr (List.mem_map_of_mem hstep))
    obtain ⟨found, hfound, happroves⟩ := h.approvals params hparams
    have hsame : found = step :=
      List.inj_on_of_nodup_map hstepNodup hfound hstep (happroves.index.symm.trans hindex)
    exact ⟨params, hparams, hsame ▸ happroves⟩

variable (numberText) in
theorem exists_progress {requests : ApprovalStore} {requestId : String}
    (hrequest : requests requestId = some request) (h : Progress created request [])
    (decisions : List DecisionParams) :
    ∃ request' accepted,
      run (decisionStep numberText) requests decisions requestId = some request' ∧
        Progress created request' accepted ∧ accepted.Sublist decisions := by
  induction decisions using List.reverseRecOn with
  | nil => exact ⟨request, [], hrequest, h, List.Sublist.refl []⟩
  | append_singleton decisions params ih =>
    obtain ⟨before, accepted, hbefore, hprogress, hsublist⟩ := ih
    obtain ⟨after, accepted', hafter, hprogress', haccepted⟩ :=
      Progress.step numberText params hbefore hprogress
    refine ⟨after, accepted', ?_, hprogress', ?_⟩
    · rw [run_append]
      exact hafter
    · rcases haccepted with rfl | rfl
      · exact hsublist.trans (List.sublist_append_left decisions [params])
      · exact hsublist.append (List.Sublist.refl [params])

end Progress

/-! ## The law -/

theorem decisionStep_of_resolved {numberText : ℚ → String} {requests : ApprovalStore}
    {requestId : String} {request : ApprovalRequest} (params : DecisionParams)
    (hrequest : requests requestId = some request) (h : request.overallStatus ≠ .pending) :
    decisionStep numberText requests params requestId = some request := by
  unfold decisionStep recordDecision
  cases hfound : requests params.requestId with
  | none => exact hrequest
  | some other =>
    dsimp only
    cases hrefusal : refusal numberText other params with
    | some e => exact hrequest
    | none =>
      have hne : requestId ≠ params.requestId := by
        rintro rfl
        obtain rfl := Option.some_inj.mp (hfound.symm.trans hrequest)
        exact h (of_refusal_eq_none hrefusal).1
      exact (Function.update_of_ne hne _ _).trans hrequest

/-- **Approvals.**  For every request, whatever steps and indices it was created with, and every
sequence of decisions by any users: if the request is approved, each of its steps was approved, in
the order of the indices, by a user who is authorised for it and is not the requester; and once it
is approved or rejected, no later decision changes anything of it. -/
theorem approval_law (numberText : ℚ → String) (requests : ApprovalStore)
    (params : CreateApprovalParams) (requestId : String) (now : ℤ)
    (decisions : List DecisionParams) :
    ∃ request,
      run (decisionStep numberText) (createApprovalRequest requests params requestId now).1
          decisions requestId = some request ∧
        (request.overallStatus = .approved →
          ApprovedBy (newRequest params requestId now) request decisions) ∧
        (request.overallStatus = .approved ∨ request.overallStatus = .rejected →
          ∀ later, run (decisionStep numberText)
            (createApprovalRequest requests params requestId now).1 (decisions ++ later)
              requestId = some request) := by
  have hcreated : (createApprovalRequest requests params requestId now).1 requestId =
      some (newRequest params requestId now) := Function.update_self _ _ _
  obtain ⟨request, accepted, hrequest, hprogress, hsublist⟩ :=
    exists_progress numberText hcreated (progress_newRequest params requestId now) decisions
  refine ⟨request, hrequest, hprogress.approvedBy hsublist, fun hresolved later => ?_⟩
  have hne : request.overallStatus ≠ .pending := by
    rcases hresolved with happroved | hrejected
    · rw [happroved]
      nofun
    · rw [hrejected]
      nofun
  rw [run_append]
  exact (along_true _ later).invariant
    (I := fun store : ApprovalStore => store requestId = some request)
    (fun _ params hstore _ => decisionStep_of_resolved params hstore hne) hrequest

end CarRental.Operations
