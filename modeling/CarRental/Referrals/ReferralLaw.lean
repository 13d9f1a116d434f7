import CarRental.Referrals.Attribution

/-!
# The limits of referrals

In every state of a run, no referrer has more rewards in a campaign than the campaign allows,
and no referee has the referral discount on two bookings.

The cap is tested when a code is applied, but what is counted are rewards, which come later:
codes that are applied below the cap may all be rewarded.  The discount is given while the
attribution is `REGISTERED`, which it stays until a booking is completed.  Which runs keep
the limits is said write by write (`referral_law_iff`).
-/

namespace CarRental

open KeyedRows Quotas Runs

/-! ## The law -/

structure ReferralLaw (desk : ReferralDesk) : Prop where
  capped : Within countsReward desk.maxReferrals desk.attributions
  once : Within countsGrant (fun _ => some 1) desk.bookings

/-- A reward finds its referrer below the cap, and a discounted booking no other one of its
customer. -/
def WriteKeepsLimits (desk : ReferralDesk) : ReferralWrite → Prop
  | .reward refereeId _ =>
    ∀ attribution ∈ desk.attribution? refereeId, attribution.status ≠ .rewarded →
      ∀ max ∈ desk.maxReferrals ⟨attribution.referrerId, attribution.campaignId⟩,
        desk.rewardedCount attribution.referrerId attribution.campaignId < max
  | .book booking =>
    booking.id ∉ desk.bookings.map ReferredBooking.id →
      booking.referralDiscount.isSome = true →
        ∀ other ∈ desk.bookings, other.customerId = booking.customerId →
          other.referralDiscount = none
  | .register _ | .reverse _ => True

def KeepsLimits (desk : ReferralDesk) : ReferralAction → Prop
  | .commit pending false => pending ∈ desk.inFlight → WriteKeepsLimits desk pending
  | _ => True

/-! ## What holds in every state -/

/-- A referee has one attribution, of a known campaign, and one that awaits its insert
is not rewarded yet. -/
structure SoundReferrals (desk : ReferralDesk) : Prop where
  referees : (desk.attributions.map ReferralAttribution.refereeId).Nodup
  known : ∀ attribution ∈ desk.attributions,
    attribution.campaignId ∈ desk.campaigns.map ReferralCampaign.id
  awaited : ∀ attribution, .register attribution ∈ desk.inFlight →
    attribution.campaignId ∈ desk.campaigns.map ReferralCampaign.id ∧
      attribution.status = .registered

section Laws

variable {desk next : ReferralDesk}

theorem maxReferrals_congr (h : next.campaigns = desk.campaigns) :
    next.maxReferrals = desk.maxReferrals := by
  funext quota
  rw [ReferralDesk.maxReferrals, ReferralDesk.maxReferrals, ReferralDesk.campaign?,
    ReferralDesk.campaign?, h]

theorem ReferralLaw.congr (h : ReferralLaw desk) (hcampaigns : next.campaigns = desk.campaigns)
    (hattributions : next.attributions = desk.attributions)
    (hbookings : next.bookings = desk.bookings) : ReferralLaw next := by
  constructor
  · rw [maxReferrals_congr hcampaigns, hattributions]
    exact h.capped
  · rw [hbookings]
    exact h.once

/-! ### Campaigns -/

/-- A campaign may have been created. -/
def AddsCampaign (desk next : ReferralDesk) : Prop :=
  next = desk ∨ ∃ campaign : ReferralCampaign,
    campaign.id ∉ desk.campaigns.map ReferralCampaign.id ∧
      next = { desk with campaigns := desk.campaigns ++ [campaign] }

theorem AddsCampaign.sound (hadds : AddsCampaign desk next) (h : SoundReferrals desk) :
    SoundReferrals next := by
  rcases hadds with rfl | ⟨campaign, -, rfl⟩
  · exact h
  · have hmore : ∀ {id : Id}, id ∈ desk.campaigns.map ReferralCampaign.id →
        id ∈ (desk.campaigns ++ [campaign]).map ReferralCampaign.id := by
      intro id hid
      rw [List.map_append]
      exact List.mem_append_left _ hid
    exact ⟨h.referees, fun attribution hmem => hmore (h.known attribution hmem),
      fun attribution hmem => ⟨hmore (h.awaited attribution hmem).1,
        (h.awaited attribution hmem).2⟩⟩

theorem campaign?_concat (campaign : ReferralCampaign) (campaignId : Id) :
    { desk with campaigns := desk.campaigns ++ [campaign] }.campaign? campaignId =
      (desk.campaign? campaignId).or
        ([campaign].find? fun campaign => campaign.id = campaignId) :=
  List.find?_append

theorem AddsCampaign.law (hadds : AddsCampaign desk next) (h : SoundReferrals desk)
    (hlaw : ReferralLaw desk) : ReferralLaw next := by
  rcases hadds with rfl | ⟨campaign, hfresh, rfl⟩
  · exact hlaw
  · refine ⟨fun quota max hmax => ?_, hlaw.once⟩
    obtain ⟨found, hfound, rfl⟩ := Option.map_eq_some_iff.mp hmax
    rw [campaign?_concat] at hfound
    cases hold : desk.campaign? quota.campaignId with
    | some old =>
      rw [hold, Option.some_or, Option.some.injEq] at hfound
      exact hlaw.capped quota _ (Option.map_eq_some_iff.mpr ⟨old, hold, by rw [hfound]⟩)
    | none =>
      have hnone : used countsReward quota desk.attributions = 0 := by
        refine used_eq_zero fun attribution hmem => decide_eq_false fun hcounts => ?_
        obtain ⟨known, hknown, hid⟩ := List.mem_map.mp (h.known attribution hmem)
        exact List.find?_eq_none.mp hold known hknown
          (decide_eq_true (hid.trans hcounts.2.1))
      exact hnone.le.trans (Nat.zero_le _)

theorem getOrCreateDefaultCampaign_eq_ok {config : ReferralConfig} {newId : Id}
    {campaign : ReferralCampaign}
    (h : desk.getOrCreateDefaultCampaign config newId = .ok (next, campaign)) :
    AddsCampaign desk next ∧ campaign ∈ next.campaigns := by
  unfold ReferralDesk.getOrCreateDefaultCampaign at h
  split at h
  next found hfound =>
    cases h
    exact ⟨.inl rfl, List.mem_of_find?_eq_some hfound⟩
  · split at h
    · cases h
    next hfresh =>
      cases h
      refine ⟨.inr ⟨_, fun hmem => hfresh ?_, rfl⟩,
        List.mem_append_right _ (List.mem_singleton_self _)⟩
      obtain ⟨other, hother, hid⟩ := List.mem_map.mp hmem
      exact List.any_eq_true.mpr ⟨other, hother, decide_eq_true (.inr hid)⟩

theorem activeCampaign?_eq_some {city : Option String} {campaign : ReferralCampaign}
    (h : desk.activeCampaign? city = some campaign) : campaign ∈ desk.campaigns := by
  unfold ReferralDesk.activeCampaign? at h
  rcases Option.or_eq_some_iff.mp h with hglobal | ⟨-, hcity⟩
  · exact List.mem_of_mem_filter (List.mem_of_find?_eq_some hglobal)
  · obtain ⟨name, -, hfound⟩ := Option.bind_eq_some_iff.mp hcity
    exact List.mem_of_mem_filter (List.mem_of_find?_eq_some hfound)

theorem createAdminCampaign_adds (campaign : ReferralCampaign) :
    AddsCampaign desk (referralStep desk (.createAdminCampaign campaign)) := by
  simp only [referralStep]
  split
  · exact .inl rfl
  next hfresh =>
    refine .inr ⟨campaign, fun hmem => hfresh ?_, rfl⟩
    obtain ⟨other, hother, hid⟩ := List.mem_map.mp hmem
    exact List.any_eq_true.mpr ⟨other, hother, decide_eq_true (.inr hid)⟩

theorem applyReferralCode_spec (desk : ReferralDesk) (config : ReferralConfig)
    (newCampaignId refereeId : Id) (cleanCode : String) (city : Option String) :
    let outcome := desk.applyReferralCode config newCampaignId refereeId cleanCode city
    AddsCampaign desk outcome.1 ∧ ∀ attribution, outcome.2 = .ok attribution →
      attribution.campaignId ∈ outcome.1.campaigns.map ReferralCampaign.id ∧
        attribution.status = .registered := by
  unfold ReferralDesk.applyReferralCode
  cases desk.checkReferee refereeId cleanCode with
  | error e => exact ⟨.inl rfl, fun _ h => by cases h⟩
  | ok referrer =>
    simp only
    split
    · exact ⟨.inl rfl, fun _ h => by cases h⟩
    next next campaign hresolved =>
      -- an active campaign is taken if there is one, else the default one is looked up or made
      have hadds : AddsCampaign desk next ∧ campaign ∈ next.campaigns := by
        cases hactive : desk.activeCampaign? city with
        | some found =>
          rw [hactive] at hresolved
          cases hresolved
          exact ⟨.inl rfl, activeCampaign?_eq_some hactive⟩
        | none =>
          rw [hactive] at hresolved
          exact getOrCreateDefaultCampaign_eq_ok hresolved
      split
      · exact ⟨hadds.1, fun _ h => by cases h⟩
      · refine ⟨hadds.1, fun attribution h => ?_⟩
        cases h
        exact ⟨List.mem_map_of_mem hadds.2, rfl⟩

/-! ### Writes -/

theorem rewardAttribution_refereeId (bookingId : Id) (attribution : ReferralAttribution) :
    (rewardAttribution bookingId attribution).refereeId = attribution.refereeId := by
  unfold rewardAttribution
  split <;> rfl

theorem rewardAttribution_campaignId (bookingId : Id) (attribution : ReferralAttribution) :
    (rewardAttribution bookingId attribution).campaignId = attribution.campaignId := by
  unfold rewardAttribution
  split <;> rfl

theorem SoundReferrals.update (h : SoundReferrals desk) (refereeId : Id)
    {f : ReferralAttribution → ReferralAttribution}
    (hreferee : ∀ attribution, (f attribution).refereeId = attribution.refereeId)
    (hcampaign : ∀ attribution, (f attribution).campaignId = attribution.campaignId) :
    SoundReferrals { desk with
      attributions := updateKey ReferralAttribution.refereeId refereeId f desk.attributions } := by
  refine ⟨?_, fun attribution hmem => ?_, h.awaited⟩
  · rw [map_key_updateKey hreferee]
    exact h.referees
  · rcases mem_updateKey.mp hmem with ⟨old, hold, -, rfl⟩ | ⟨hold, -⟩
    · rw [hcampaign]
      exact h.known old hold
    · exact h.known attribution hold

theorem SoundReferrals.write (h : SoundReferrals desk) {pending : ReferralWrite}
    (hpending : ∀ attribution, pending = .register attribution →
      attribution.campaignId ∈ desk.campaigns.map ReferralCampaign.id) :
    SoundReferrals (desk.write pending) := by
  cases pending with
  | register attribution =>
    unfold ReferralDesk.write
    simp only
    split
    · exact h
    -- the unique column is free
    next hfresh =>
      refine ⟨?_, fun other hmem => ?_, h.awaited⟩
      · exact nodup_map_concat h.referees hfresh
      · rcases List.mem_append.mp hmem with hold | hnew
        · exact h.known other hold
        · rw [List.mem_singleton.mp hnew]
          exact hpending attribution rfl
  | book booking =>
    unfold ReferralDesk.write
    simp only
    split
    · exact h
    · exact ⟨h.referees, h.known, h.awaited⟩
  | reward refereeId bookingId =>
    exact h.update refereeId (rewardAttribution_refereeId bookingId)
      (rewardAttribution_campaignId bookingId)
  | reverse refereeId => exact h.update refereeId (fun _ => rfl) fun _ => rfl

theorem SoundReferrals.close (h : SoundReferrals desk) (pending : ReferralWrite) :
    SoundReferrals { desk with inFlight := desk.inFlight.erase pending } :=
  ⟨h.referees, h.known, fun attribution hmem =>
    h.awaited attribution (List.mem_of_mem_erase hmem)⟩

theorem SoundReferrals.await (h : SoundReferrals desk) {pending : Option ReferralWrite}
    (hpending : ∀ attribution, pending = some (.register attribution) →
      attribution.campaignId ∈ desk.campaigns.map ReferralCampaign.id ∧
        attribution.status = .registered) :
    SoundReferrals (desk.await pending) := by
  refine ⟨h.referees, h.known, fun attribution hmem => ?_⟩
  rcases List.mem_append.mp hmem with hold | hnew
  · exact h.awaited attribution hold
  · exact hpending attribution (Option.mem_toList.mp hnew)

theorem applyReferralCode_sound (h : SoundReferrals desk) (config : ReferralConfig)
    (newCampaignId refereeId : Id) (cleanCode : String) (city : Option String) :
    SoundReferrals
      (referralStep desk (.applyReferralCode config newCampaignId refereeId cleanCode city)) := by
  have hspec := applyReferralCode_spec desk config newCampaignId refereeId cleanCode city
  simp only [referralStep]
  generalize desk.applyReferralCode config newCampaignId refereeId cleanCode city = outcome
    at hspec ⊢
  obtain ⟨next, reply⟩ := outcome
  refine (hspec.1.sound h).await fun attribution hsome => ?_
  cases reply with
  | error e => cases hsome
  | ok registered =>
    cases hsome
    exact hspec.2 attribution rfl

theorem referralStep_sound (h : SoundReferrals desk) (action : ReferralAction) :
    SoundReferrals (referralStep desk action) := by
  cases action with
  | saveUser user => exact ⟨h.referees, h.known, h.awaited⟩
  | createAdminCampaign campaign => exact (createAdminCampaign_adds campaign).sound h
  | applyReferralCode config newCampaignId refereeId cleanCode city =>
    exact applyReferralCode_sound h config newCampaignId refereeId cleanCode city
  | createBooking customerId newId pricing =>
    -- what is put in flight here is no registration
    refine h.await fun attribution hsome => ?_
    obtain ⟨booking, -, heq⟩ := Option.map_eq_some_iff.mp hsome
    cases heq
  | setStatus bookingId status => exact ⟨h.referees, h.known, h.awaited⟩
  | setPayment bookingId payment => exact ⟨h.referees, h.known, h.awaited⟩
  | handleBookingCompleted bookingId =>
    refine h.await fun attribution hsome => ?_
    obtain ⟨refereeId, -, heq⟩ := Option.map_eq_some_iff.mp hsome
    cases heq
  | handleBookingCancelled bookingId =>
    refine h.await fun attribution hsome => ?_
    obtain ⟨refereeId, -, heq⟩ := Option.map_eq_some_iff.mp hsome
    cases heq
  | commit pending failed =>
    simp only [referralStep]
    split
    next hmem =>
      split
      · exact h.close pending
      · refine (h.close pending).write fun attribution heq => ?_
        rw [heq] at hmem
        exact (h.awaited attribution hmem).1
    · exact h
  | advance milliseconds => exact ⟨h.referees, h.known, h.awaited⟩

/-! ### The law in one step -/

theorem attribution?_eq_some {refereeId : Id} {attribution : ReferralAttribution}
    (h : desk.attribution? refereeId = some attribution) :
    attribution ∈ desk.attributions ∧ attribution.refereeId = refereeId :=
  ⟨List.mem_of_find?_eq_some h, of_decide_eq_true (List.find?_some h :)⟩

theorem attribution?_eq_none {refereeId : Id} (h : desk.attribution? refereeId = none) :
    ∀ other ∈ desk.attributions, other.refereeId ≠ refereeId :=
  fun other hother heq => List.find?_eq_none.mp h other hother (decide_eq_true heq)

theorem capped_register (h : ReferralLaw desk) {attribution : ReferralAttribution}
    (hstatus : attribution.status = .registered) :
    ReferralLaw (desk.write (.register attribution)) := by
  unfold ReferralDesk.write
  simp only
  split
  · exact h
  · refine ⟨(within_concat h.capped).mpr fun quota hcounts => ?_, h.once⟩
    obtain ⟨-, -, hrewarded⟩ := of_decide_eq_true hcounts
    rw [hstatus] at hrewarded
    cases hrewarded

theorem book_law_iff (h : ReferralLaw desk) (booking : ReferredBooking) :
    ReferralLaw (desk.write (.book booking)) ↔ WriteKeepsLimits desk (.book booking) := by
  unfold ReferralDesk.write WriteKeepsLimits
  simp only
  split
  next hknown => exact iff_of_true h fun hfresh => absurd hknown hfresh
  next hfresh =>
    have hroom : Within countsGrant (fun _ => some 1) (desk.bookings ++ [booking]) ↔ _ :=
      within_concat h.once
    constructor
    · intro hlaw _ hgranted other hother hcustomer
      have hnone := hroom.mp hlaw.once booking.customerId (decide_eq_true ⟨rfl, hgranted⟩) 1 rfl
      have hzero : used countsGrant booking.customerId desk.bookings = 0 := by omega
      have hother' := List.countP_eq_zero.mp hzero other hother
      rw [countsGrant, decide_eq_true_eq] at hother'
      exact Option.not_isSome_iff_eq_none.mp fun hsome => hother' ⟨hcustomer, hsome⟩
    · intro hfirst
      refine ⟨h.capped, hroom.mpr fun customerId hcounts max hmax => ?_⟩
      obtain ⟨rfl, hgranted⟩ := of_decide_eq_true hcounts
      have hzero : used countsGrant booking.customerId desk.bookings = 0 := by
        refine used_eq_zero fun other hother => decide_eq_false fun hboth => ?_
        rw [hfirst hfresh hgranted other hother hboth.1] at hboth
        cases hboth.2
      cases hmax
      omega

theorem rewardAttribution_of_ne {attribution : ReferralAttribution} (bookingId : Id)
    (h : attribution.status ≠ .rewarded) :
    rewardAttribution bookingId attribution =
      { attribution with status := .rewarded, qualifyingBookingId := some bookingId } := if_neg h

theorem reward_law_iff (hsound : SoundReferrals desk) (h : ReferralLaw desk)
    (refereeId bookingId : Id) :
    ReferralLaw (desk.write (.reward refereeId bookingId)) ↔
      WriteKeepsLimits desk (.reward refereeId bookingId) := by
  have honce : Within countsGrant (fun _ => some 1) desk.bookings := h.once
  unfold ReferralDesk.write WriteKeepsLimits
  simp only
  cases hfound : desk.attribution? refereeId with
  | none =>
    rw [updateKey_of_absent (attribution?_eq_none hfound)]
    exact iff_of_true h fun _ hmem => by cases hmem
  | some attribution =>
    obtain ⟨hmem, hkey⟩ := attribution?_eq_some hfound
    -- a quota grows by the rewarded row only if that row was not rewarded before
    have hroom := within_updateKey (f := rewardAttribution bookingId) hsound.referees hmem hkey
      h.capped
    constructor
    · intro hlaw found hsome hstatus
      cases hsome
      refine hroom.mp hlaw.capped ⟨attribution.referrerId, attribution.campaignId⟩ ?_ ?_
      · rw [rewardAttribution_of_ne bookingId hstatus]
        exact decide_eq_true ⟨rfl, rfl, rfl⟩
      · exact decide_eq_false fun hcounts => hstatus hcounts.2.2
    · intro hbelow
      refine ⟨hroom.mpr fun quota hafter hbefore => ?_, honce⟩
      have hstatus : attribution.status ≠ .rewarded := by
        intro hrewarded
        rw [rewardAttribution, if_pos hrewarded, hbefore] at hafter
        cases hafter
      rw [rewardAttribution_of_ne bookingId hstatus] at hafter
      obtain ⟨hreferrer, hcampaign, -⟩ := of_decide_eq_true hafter
      have hbelow' := hbelow attribution rfl hstatus
      simp only at hreferrer hcampaign
      rw [hreferrer, hcampaign] at hbelow'
      exact hbelow'

theorem reverse_law (hsound : SoundReferrals desk) (h : ReferralLaw desk) (refereeId : Id) :
    ReferralLaw (desk.write (.reverse refereeId)) := by
  unfold ReferralDesk.write
  cases hfound : desk.attribution? refereeId with
  | none =>
    simp only
    rw [updateKey_of_absent (attribution?_eq_none hfound)]
    exact h
  | some attribution =>
    obtain ⟨hmem, hkey⟩ := attribution?_eq_some hfound
    have hroom := within_updateKey (f := cancelAttribution) hsound.referees hmem hkey h.capped
    refine ⟨hroom.mpr fun quota hcounts => ?_, h.once⟩
    cases (of_decide_eq_true hcounts).2.2

theorem write_law_iff (hsound : SoundReferrals desk) (h : ReferralLaw desk)
    {pending : ReferralWrite}
    (hpending : ∀ attribution, pending = .register attribution →
      attribution.status = .registered) :
    ReferralLaw (desk.write pending) ↔ WriteKeepsLimits desk pending := by
  cases pending with
  | register attribution =>
    exact iff_of_true (capped_register h (hpending attribution rfl)) trivial
  | book booking => exact book_law_iff h booking
  | reward refereeId bookingId => exact reward_law_iff hsound h refereeId bookingId
  | reverse refereeId => exact iff_of_true (reverse_law hsound h refereeId) trivial

theorem ReferralLaw.setBookings (h : ReferralLaw desk) (bookingId : Id)
    {f : ReferredBooking → ReferredBooking}
    (hf : ∀ customerId booking, countsGrant customerId (f booking) =
      countsGrant customerId booking) :
    ReferralLaw { desk with
      bookings := updateKey ReferredBooking.id bookingId f desk.bookings } :=
  ⟨h.capped, (within_updateKey_of_same hf).mpr h.once⟩

theorem referralStep_law_iff (hsound : SoundReferrals desk) (h : ReferralLaw desk)
    (action : ReferralAction) :
    ReferralLaw (referralStep desk action) ↔ KeepsLimits desk action := by
  cases action with
  | saveUser user => exact iff_of_true (h.congr rfl rfl rfl) trivial
  | createAdminCampaign campaign =>
    exact iff_of_true ((createAdminCampaign_adds campaign).law hsound h) trivial
  | applyReferralCode config newCampaignId refereeId cleanCode city =>
    have hspec := applyReferralCode_spec desk config newCampaignId refereeId cleanCode city
    exact iff_of_true ((hspec.1.law hsound h).congr rfl rfl rfl) trivial
  | createBooking customerId newId pricing =>
    exact iff_of_true (h.congr rfl rfl rfl) trivial
  | setStatus bookingId status =>
    exact iff_of_true (h.setBookings bookingId fun _ _ => rfl) trivial
  | setPayment bookingId payment =>
    exact iff_of_true (h.setBookings bookingId fun _ _ => rfl) trivial
  | handleBookingCompleted bookingId => exact iff_of_true (h.congr rfl rfl rfl) trivial
  | handleBookingCancelled bookingId => exact iff_of_true (h.congr rfl rfl rfl) trivial
  -- everything else only reads, or puts a write in flight
  | commit pending failed =>
    have hclosed : ReferralLaw { desk with inFlight := desk.inFlight.erase pending } :=
      h.congr rfl rfl rfl
    by_cases hmem : pending ∈ desk.inFlight
    · simp only [referralStep, if_pos hmem]
      cases failed with
      | true => exact iff_of_true hclosed trivial
      | false =>
        have hwrite := write_law_iff (hsound.close pending) hclosed fun attribution heq =>
          (hsound.awaited attribution (heq ▸ hmem)).2
        exact hwrite.trans ⟨fun hkeeps _ => hkeeps, fun hkeeps => hkeeps hmem⟩
    · simp only [referralStep, if_neg hmem]
      cases failed with
      | true => exact iff_of_true h trivial
      | false => exact iff_of_true h fun hin => absurd hin hmem
  | advance milliseconds => exact iff_of_true (h.congr rfl rfl rfl) trivial

end Laws

/-! ## Runs -/

def ReferralDesk.opening (now : ℤ) : ReferralDesk := ⟨[], [], [], [], [], now⟩

theorem soundReferrals_opening (now : ℤ) : SoundReferrals (.opening now) := by
  constructor <;> simp [ReferralDesk.opening]

theorem referralLaw_opening (now : ℤ) : ReferralLaw (.opening now) :=
  ⟨within_nil, within_nil⟩

def sampleCampaign : ReferralCampaign where
  id := "campaign"
  code := "WELCOME"
  referrerRewardAmount := sampleDeposit
  refereeRewardAmount := sampleDeposit
  minBookingAmount := sampleDeposit
  city := none
  startDate := none
  endDate := none
  isActive := true
  maxReferralsPerUser := 1

def sampleConfig : ReferralConfig :=
  ⟨sampleDeposit, sampleDeposit, sampleDeposit, 20, true⟩

/-- A user applies the code of the referrer. -/
def applies (refereeId : Id) : List ReferralAction :=
  [.saveUser ⟨refereeId, none, none, none⟩,
    .applyReferralCode sampleConfig "default" refereeId "REF" none,
    .commit (.register ⟨"referrer", refereeId, "campaign", "REF", .registered, none,
      sampleDeposit, sampleDeposit⟩) false]

/-- The referee completes a paid booking with a total of its own. -/
def completes (refereeId bookingId : Id) : List ReferralAction :=
  [.createBooking refereeId bookingId (.given sampleTotal),
    .commit (.book ⟨bookingId, refereeId, .pending, sampleTotal, none, none⟩) false,
    .setPayment bookingId (some (.paid, .none)), .setStatus bookingId .completed,
    .handleBookingCompleted bookingId, .commit (.reward refereeId bookingId) false]

/-- Two referees apply the code while nobody is rewarded, and both complete a booking. -/
def twoReferees : List ReferralAction :=
  [.createAdminCampaign sampleCampaign, .saveUser ⟨"referrer", some "REF", none, none⟩] ++
    applies "first" ++ applies "second" ++ completes "first" "one" ++ completes "second" "two"

end CarRental
