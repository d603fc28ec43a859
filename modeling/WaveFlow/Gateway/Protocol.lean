import WaveFlow.Gateway.Routes

/-!
# The protocol of the webhook handler

What an observer of one handler knows after each operation: its phase. From the phase follows which
operations are possible, and the answer decides the next phase. `follows_webhookRoute` shows that
the handler keeps to it, whatever the answers are, and lists the ways in which it ends. A request
whose body is too long stays outside.
-/

namespace WaveFlow

open Interaction Postgres

/-- The merge that the body of a request delivers. -/
def Request.merge? (C : Crates) (req : Request) : Option MergeAttestation :=
  match C.fromSlice req.body with
  | .error _ => none
  | .ok payload =>
    if req.eventType ≠ "pull_request" then none
    else (GitHubPullRequestEvent.fromValue payload).bind fun e => (parseMergeEvent e).toOption

theorem Request.merge?_eq_some {C : Crates} {req : Request} {merge : MergeAttestation} :
    req.merge? C = some merge ↔ ∃ payload event, C.fromSlice req.body = .ok payload ∧
      req.eventType = "pull_request" ∧ GitHubPullRequestEvent.fromValue payload = some event ∧
      parseMergeEvent event = .ok merge := by
  unfold Request.merge?
  cases C.fromSlice req.body with
  | error text => simp
  | ok payload =>
    by_cases htype : req.eventType = "pull_request"
    · simp only [htype, ne_eq, not_true_eq_false, if_false, Option.bind_eq_some_iff]
      constructor
      · rintro ⟨event, hevent, hparse⟩
        cases hresult : parseMergeEvent event with
        | error err =>
          rw [hresult] at hparse
          cases hparse
        | ok other =>
          rw [hresult] at hparse
          cases hparse
          exact ⟨payload, event, rfl, trivial, hevent, hresult⟩
      · rintro ⟨_, event, ⟨⟩, -, hevent, hparse⟩
        exact ⟨event, hevent, by rw [hparse]; rfl⟩
    · simp [htype]

theorem points_of_merge? {C : Crates} {req : Request} {merge : MergeAttestation}
    (h : req.merge? C = some merge) : merge.points = 1 := by
  obtain ⟨payload, event, -, -, -, hparse⟩ := Request.merge?_eq_some.1 h
  exact points_of_parseMergeEvent hparse

/-- The active program of a repo, as it was read. -/
structure Target where
  program : Uuid
  onChain : Int64
  deriving DecidableEq

inductive Phase
  /-- The thread is not in the handler of a webhook. -/
  | outside
  /-- The signature failed. -/
  | rejected
  /-- The delivery id is about to be looked up. -/
  | begun
  /-- It was found. -/
  | duplicate
  /-- It was not found, or the lookup failed. -/
  | unseen
  /-- It was reserved, or there is none. -/
  | claimed
  /-- The repo has an active program. -/
  | resolved (t : Target)
  /-- The program is not paused. -/
  | opened (t : Target)
  /-- The pull request has a payout of another handler. -/
  | paid (t : Target)
  /-- The pull request had no payout. -/
  | unpaid (t : Target)
  /-- The author is registered with this address. -/
  | registered (t : Target) (address : String)
  /-- The attestation was submitted. -/
  | attested (t : Target) (address : String)
  /-- The reward was read. -/
  | priced (t : Target) (address : String) (reward : Int64)
  /-- The payout was recorded. -/
  | recorded (t : Target) (reward : Int64)
  /-- The milestone was updated. -/
  | booked (t : Target)
  /-- There is no active program, or the author is not registered. -/
  | missed
  /-- A statement failed before the payout was recorded. -/
  | failed
  deriving DecidableEq

namespace Phase

/-- The delivery id was reserved by this handler, or there is none. -/
def Claimed : Phase → Prop
  | .outside | .rejected | .begun | .duplicate | .unseen => False
  | _ => True

/-- A lookup or a statement ended the handling before the payout was recorded. -/
def Stopped (m : Phase) : Prop := m = .missed ∨ m = .failed

/-- The phase after an answer. -/
def next (m : Phase) (op : Op) : op.Ans → Phase :=
  match m, op with
  | .begun, .sql (.selectWebhookEventId _) => fun
    | .ok (some _) => .duplicate
    | _ => .unseen
  | .unseen, .sql (.insertWebhookEvent _ _ _ _ _ _ _) => fun
    | .ok () => .claimed
    | .error _ => .failed
  | .claimed, .sql (.selectActiveProgram _) => fun
    | .ok (some (id, onChain)) => .resolved ⟨id, onChain⟩
    | .ok none => .missed
    | .error _ => .failed
  | .resolved t, .sql (.selectProgramStatus _) => fun
    | .ok (some .active) => .opened t
    | .ok _ => .missed
    | .error _ => .failed
  | .opened t, .sql (.selectPayoutId _ _) => fun
    | .ok (some _) => .paid t
    | .ok none => .unpaid t
    | .error _ => .failed
  | .unpaid t, .sql (.selectContributorAddress _ _) => fun
    | .ok (some address) => .registered t address
    | .ok none => .missed
    | .error _ => .failed
  | .registered t address, .attest _ => fun _ => .attested t address
  | .attested t address, .sql (.selectRewardPerPoint _) => fun
    | .ok (some reward) => .priced t address reward
    | .ok none => .missed
    | .error _ => .failed
  | .priced t _ reward, .sql (.insertPayout _ _ _ _ _ _ _) => fun
    | .ok _ => .recorded t reward
    | .error (.unique _) => .paid t
    | .error _ => .failed
  | .recorded t _, .sql (.updateMilestoneSpent _ _) => fun
    | .ok _ => .booked t
    | .error _ => m
  | _, _ => fun _ => m

theorem next_count (m : Phase) (c : Counter) (ans : Unit) : m.next (.count c) ans = m := by
  cases m <;> rfl

theorem next_audit {m : Phase} (hm : m.Claimed) {delivery error : Option String}
    {eventType repo : String} {number : Option Int64} {payload : Json} {status : EventStatus}
    (ans : Except DbError Unit) :
    m.next (.sql (.insertWebhookEvent delivery eventType repo number payload status error)) ans =
      m := by
  cases m <;> first | exact absurd hm id | rfl

/-- What is reserved stays reserved. -/
theorem Claimed.next {m : Phase} (hm : m.Claimed) (op : Op) (ans : op.Ans) :
    (m.next op ans).Claimed := by
  unfold Phase.next
  split <;> first | exact absurd hm id | (split <;> trivial) | exact hm

theorem Claimed.ne_duplicate {m : Phase} (hm : m.Claimed) : m ≠ .duplicate := by
  rintro rfl
  exact hm

end Phase

variable (C : Crates) (config : AppConfig) (req : Request)

/-- What the handler of a request may do in a phase. -/
inductive Allows : Phase → Op → Prop
  | count {m : Phase} (c : Counter) (h : m ≠ .duplicate) : Allows m (.count c)
  | reject (repo : String) (number : Option Int64) (payload : Json) (error : Option String) :
      Allows .rejected (.sql (.insertWebhookEvent req.deliveryId req.eventType repo number payload
        .rejected error))
  | lookUp {d : String} (h : req.deliveryId = some d) :
      Allows .begun (.sql (.selectWebhookEventId d))
  | claim {d : String} (h : req.deliveryId = some d) :
      Allows .unseen (.sql (.insertWebhookEvent (some d) req.eventType "pending" none (.obj [])
        .processing none))
  | audit {m : Phase} (h : m.Claimed) (eventType repo : String) (number : Option Int64)
      (payload : Json) {status : EventStatus} (hstatus : status ≠ .processing)
      (error : Option String) :
      Allows m (.sql (.insertWebhookEvent req.deliveryId eventType repo number payload status error))
  | program {merge : MergeAttestation} (h : req.merge? C = some merge) :
      Allows .claimed (.sql (.selectActiveProgram merge.githubRepo))
  | status (t : Target) : Allows (.resolved t) (.sql (.selectProgramStatus t.program))
  | payout {merge : MergeAttestation} (h : req.merge? C = some merge) (t : Target) :
      Allows (.opened t) (.sql (.selectPayoutId t.program (saturate merge.prNumber)))
  | payoutAgain {merge : MergeAttestation} (h : req.merge? C = some merge) (t : Target) :
      Allows (.paid t) (.sql (.selectPayoutId t.program (saturate merge.prNumber)))
  | contributor {merge : MergeAttestation} (h : req.merge? C = some merge) (t : Target) :
      Allows (.unpaid t) (.sql (.selectContributorAddress t.program merge.githubUsername))
  | attest {merge : MergeAttestation} (h : req.merge? C = some merge) (t : Target)
      (address : String) :
      Allows (.registered t address) (.attest (buildAttestation t.onChain.toUInt64 merge))
  | reward (t : Target) (address : String) :
      Allows (.attested t address) (.sql (.selectRewardPerPoint t.program))
  | record {merge : MergeAttestation} (h : req.merge? C = some merge) (t : Target)
      (address : String) (reward : Int64) (hpr : merge.prNumber.toNat < 2 ^ 63) :
      Allows (.priced t address reward) (.sql (.insertPayout t.program (saturate merge.prNumber)
        merge.githubUsername address (pointsColumn merge.points) reward
        (attestationHash config (buildAttestation t.onChain.toUInt64 merge))))
  | spend (t : Target) (reward : Int64) :
      Allows (.recorded t reward) (.sql (.updateMilestoneSpent reward t.program))

/-- The protocol of the handler of a request. -/
def webhookProtocol : Protocol Op Op.Ans Phase where
  allows := Allows C config req
  next := Phase.next

/-! ### How the handler ends -/

/-- The phase and the result with which `processMerge` ends. -/
inductive MergeEnds : Phase → Except WaveFlowError Json → Prop
  | ignored (h : req.merge? C = none) (err : WaveFlowError) : MergeEnds .claimed (.error err)
  | stopped {m : Phase} (h : m.Stopped) (err : WaveFlowError) : MergeEnds m (.error err)
  | alreadyProcessed {merge : MergeAttestation} (h : req.merge? C = some merge) (t : Target)
      (existing : Option Uuid) :
      MergeEnds (.paid t) (.ok (alreadyProcessed t.program merge.prNumber existing))
  | alreadyPaid (t : Target) (err : WaveFlowError) : MergeEnds (.paid t) (.error err)
  | overflow {merge : MergeAttestation} (h : req.merge? C = some merge) (t : Target)
      (address : String) (reward : Int64) (hpr : 2 ^ 63 ≤ merge.prNumber.toNat)
      (err : WaveFlowError) : MergeEnds (.priced t address reward) (.error err)
  | overdrawn (t : Target) (reward : Int64) (err : WaveFlowError) :
      MergeEnds (.recorded t reward) (.error err)
  | unaudited (t : Target) (err : WaveFlowError) : MergeEnds (.booked t) (.error err)
  | processed (t : Target) (payoutId : Uuid) (txHash : String) :
      MergeEnds (.booked t) (.ok (processed t.program payoutId txHash))

/-- The phase and the response with which the handler ends. -/
inductive Ends : Phase → Response → Prop
  | oversized (h : ¬ req.BodyFits) : Ends .outside payloadTooLarge
  | rejected (err : WaveFlowError) : Ends .rejected (mapError err)
  | duplicate {d : String} (h : req.deliveryId = some d) : Ends .duplicate (duplicateDelivery d)
  | unclaimed (err : WaveFlowError) : Ends .failed (mapError err)
  | malformed (h : req.merge? C = none) (err : WaveFlowError) : Ends .claimed (mapError err)
  | unsupported (h : req.merge? C = none) : Ends .claimed ⟨200, outcome "ignored" []⟩
  | merged {m : Phase} {v : Json} (h : MergeEnds C req m (.ok v)) : Ends m ⟨200, v⟩
  | skipped {m : Phase} {err : WaveFlowError} (h : MergeEnds C req m (.error err)) :
      Ends m ⟨200, outcome "ignored" [("reason", .str err.toText)]⟩
  | unmerged {m : Phase} {err : WaveFlowError} (h : MergeEnds C req m (.error err)) :
      Ends m (mapError err)

/-! ### The parts of the handler -/

variable {C config req}

/-- Stepping a counter changes no phase. -/
theorem follows_count {α : Type} {m : Phase} (hm : m ≠ .duplicate) {c : Counter}
    {f : Unit → Action α} {Q : Phase → α → Prop}
    (hf : Follows (webhookProtocol C config req) m (f ()) Q) :
    Follows (webhookProtocol C config req) m (count c >>= f) Q := by
  refine ⟨.count c hm, fun ans => ?_⟩
  show Follows _ (m.next _ _) _ _
  rw [Phase.next_count]
  exact hf

section Parts

variable {merge : MergeAttestation} (t : Target) {address : String} {reward : Int64}

theorem follows_resolveProgramId (h : req.merge? C = some merge)
    {Q : Phase → Except WaveFlowError (Uuid × UInt64) → Prop}
    (hresolved : ∀ t : Target, Q (.resolved t) (.ok (t.program, t.onChain.toUInt64)))
    (hstopped : ∀ m err, m.Stopped → Q m (.error err)) :
    Follows (webhookProtocol C config req) .claimed (resolveProgramId merge.githubRepo).run Q := by
  refine follows_except_bind (follows_query (.program h) ?_ fun e => hstopped _ _ (.inr rfl))
  rintro (_ | ⟨id, onChain⟩)
  · exact hstopped _ _ (.inl rfl)
  · exact hresolved ⟨id, onChain⟩

theorem follows_loadProgramStatus {Q : Phase → Except WaveFlowError ProgramStatus → Prop}
    (hactive : Q (.opened t) (.ok .active)) (hpaused : Q .missed (.ok .paused))
    (hstopped : ∀ m err, m.Stopped → Q m (.error err)) :
    Follows (webhookProtocol C config req) (.resolved t) (loadProgramStatus t.program).run Q := by
  refine follows_except_bind (follows_query (.status t) ?_ fun e => hstopped _ _ (.inr rfl))
  rintro (_ | _ | _)
  · exact hstopped _ _ (.inl rfl)
  · exact hactive
  · exact hpaused

theorem follows_payoutExists (h : req.merge? C = some merge)
    {Q : Phase → Except WaveFlowError Bool → Prop} (hpaid : Q (.paid t) (.ok true))
    (hunpaid : Q (.unpaid t) (.ok false)) (hstopped : ∀ m err, m.Stopped → Q m (.error err)) :
    Follows (webhookProtocol C config req) (.opened t)
      (payoutExists t.program merge.prNumber).run Q := by
  refine follows_except_bind (follows_query (.payout h t) ?_ fun e => hstopped _ _ (.inr rfl))
  rintro (_ | _)
  · exact hunpaid
  · exact hpaid

theorem follows_fetchPayoutId (h : req.merge? C = some merge)
    {Q : Phase → Except WaveFlowError (Option Uuid) → Prop} (hpaid : ∀ r, Q (.paid t) r) :
    Follows (webhookProtocol C config req) (.paid t)
      (fetchPayoutId t.program merge.prNumber).run Q :=
  follows_query (.payoutAgain h t) (fun _ => hpaid _) fun _ => hpaid _

theorem follows_contributorAddress (h : req.merge? C = some merge)
    {Q : Phase → Except WaveFlowError String → Prop}
    (hregistered : ∀ address, Q (.registered t address) (.ok address))
    (hstopped : ∀ m err, m.Stopped → Q m (.error err)) :
    Follows (webhookProtocol C config req) (.unpaid t)
      (contributorAddress t.program merge.githubUsername).run Q := by
  refine follows_except_bind (follows_bind ?_)
  refine follows_except_bind (follows_query (.contributor h t) ?_ fun e => ?_)
  · rintro (_ | address)
    · exact ⟨.count _ (by simp [webhookProtocol, Phase.next]), fun _ => hstopped _ _ (.inl rfl)⟩
    · exact hregistered address
  · exact hstopped _ _ (.inr rfl)

theorem follows_submitAttestation (h : req.merge? C = some merge)
    {Q : Phase → Except WaveFlowError String → Prop}
    (hattested : Q (.attested t address)
      (.ok (attestationHash config (buildAttestation t.onChain.toUInt64 merge)))) :
    Follows (webhookProtocol C config req) (.registered t address)
      (submitAttestation config (buildAttestation t.onChain.toUInt64 merge)).run Q :=
  ⟨.attest h t address, fun _ => hattested⟩

theorem follows_loadRewardPerPoint {Q : Phase → Except WaveFlowError ℤ → Prop}
    (hpriced : ∀ reward : Int64, Q (.priced t address reward) (.ok reward.toInt))
    (hstopped : ∀ m err, m.Stopped → Q m (.error err)) :
    Follows (webhookProtocol C config req) (.attested t address)
      (loadRewardPerPoint t.program).run Q := by
  refine follows_except_bind (follows_query (.reward t address) ?_ fun e => hstopped _ _ (.inr rfl))
  rintro (_ | reward)
  · exact hstopped _ _ (.inl rfl)
  · exact hpriced reward

theorem follows_persistPayout (h : req.merge? C = some merge)
    {Q : Phase → Except WaveFlowError Uuid → Prop}
    (hoverflow : 2 ^ 63 ≤ merge.prNumber.toNat → ∀ err, Q (.priced t address reward) (.error err))
    (hrecorded : ∀ id, Q (.recorded t reward) (.ok id)) (hpaid : ∀ err, Q (.paid t) (.error err))
    (hstopped : ∀ m err, m.Stopped → Q m (.error err)) :
    Follows (webhookProtocol C config req) (.priced t address reward)
      (persistPayout t.program merge address reward.toInt
        (attestationHash config (buildAttestation t.onChain.toUInt64 merge))).run Q := by
  unfold persistPayout
  rw [i64TryFrom_toInt]
  cases hpr : i64TryFrom merge.prNumber.toNat with
  | none =>
    rw [i64TryFrom_eq_none] at hpr
    exact hoverflow (by omega) _
  | some pr =>
    have hsaturate : saturate merge.prNumber = pr := by simp [saturate, hpr]
    have hlt : merge.prNumber.toNat < 2 ^ 63 := by
      have := pr.toInt_lt
      rw [i64TryFrom_eq_some] at hpr
      omega
    subst hsaturate
    refine follows_query (.record h t address reward hlt) hrecorded fun e => ?_
    cases e with
    | unique name => exact hpaid _
    | _ => exact hstopped _ _ (.inr rfl)

theorem follows_incrementMilestoneSpent {Q : Phase → Except WaveFlowError Unit → Prop}
    (hbooked : Q (.booked t) (.ok ())) (hoverdrawn : ∀ err, Q (.recorded t reward) (.error err)) :
    Follows (webhookProtocol C config req) (.recorded t reward)
      (incrementMilestoneSpent t.program reward.toInt).run Q := by
  unfold incrementMilestoneSpent
  rw [i64TryFrom_toInt]
  exact follows_except_bind (follows_query (.spend t reward) (fun _ => hbooked)
    fun _ => hoverdrawn _)

/-- Recording an audit row changes no phase. -/
theorem follows_persistWebhookEvent {m : Phase} (hm : m.Claimed) {eventType repo : String}
    {number : Option UInt64} {payload : Json} {status : EventStatus} (hstatus : status ≠ .processing)
    {error : Option String} {Q : Phase → Except WaveFlowError Unit → Prop} (hQ : ∀ r, Q m r) :
    Follows (webhookProtocol C config req) m
      (persistWebhookEvent req.deliveryId eventType repo number payload status error).run Q := by
  refine follows_query (.audit hm _ _ _ _ hstatus _) (fun r => ?_) fun e => ?_
  · show Q (m.next _ _) _
    rw [Phase.next_audit hm]
    exact hQ _
  · show Q (m.next _ _) _
    rw [Phase.next_audit hm]
    exact hQ _

theorem follows_recordMerge (h : req.merge? C = some merge) {payload : Json} :
    Follows (webhookProtocol C config req) (.priced t address reward)
      (recordMerge merge t.program address reward.toInt
        (attestationHash config (buildAttestation t.onChain.toUInt64 merge)) payload
        req.deliveryId).run
      fun m r => match r with
        | .ok _ => m = .booked t
        | .error err => MergeEnds C req m (.error err) := by
  refine follows_except_bind (follows_persistPayout t h
    (fun hpr err => .overflow h t address reward hpr err) (fun id => ?_)
    (fun err => .alreadyPaid t err) fun m err hm => .stopped hm err)
  refine follows_except_bind (follows_incrementMilestoneSpent t ?_ fun err => .overdrawn t reward err)
  refine follows_except_bind (follows_persistWebhookEvent (m := .booked t) trivial (by decide)
    fun r => ?_)
  cases r with
  | ok u => exact rfl
  | error err => exact .unaudited t err

theorem follows_attestMerge (h : req.merge? C = some merge) (hpoints : merge.points = 1)
    {payload : Json} :
    Follows (webhookProtocol C config req) (.registered t address)
      (attestMerge config merge t.program t.onChain.toUInt64 address payload req.deliveryId).run
      (MergeEnds C req) := by
  refine follows_except_bind (follows_submitAttestation t h ?_)
  refine follows_except_bind (follows_loadRewardPerPoint t (fun reward => ?_)
    fun m err hm => .stopped hm err)
  have hamount : (merge.points.toNat : ℤ) * reward.toInt = reward.toInt := by
    rw [hpoints]
    simp
  simp only [hamount]
  refine follows_except_bind ((follows_recordMerge t h).mono fun m r hr => ?_)
  cases r with
  | ok id =>
    subst hr
    exact .processed t id _
  | error err => exact hr

end Parts

/-! ### The handler -/

variable {event : GitHubPullRequestEvent} {payload : Json}

theorem follows_processMerge (h : req.merge? C = (parseMergeEvent event).toOption) :
    Follows (webhookProtocol C config req) .claimed
      (processMerge config event payload req.deliveryId).run (MergeEnds C req) := by
  unfold processMerge
  cases hparse : parseMergeEvent event with
  | error err =>
    rw [hparse] at h
    exact .ignored h err
  | ok merge =>
    rw [hparse] at h
    have hpoints := points_of_parseMergeEvent hparse
    have hstopped : ∀ m err, m.Stopped → MergeEnds C req m (.error err) :=
      fun m err hm => .stopped hm err
    rw [ofResult_ok_bind]
    refine follows_except_bind (follows_resolveProgramId h (fun t => ?_) hstopped)
    refine follows_except_bind (follows_loadProgramStatus t ?_ (.stopped (.inl rfl) _) hstopped)
    refine follows_except_bind (follows_payoutExists t h ?_ ?_ hstopped)
    · refine follows_except_bind (follows_fetchPayoutId t h fun r => ?_)
      cases r with
      | ok existing => exact .alreadyProcessed h t existing
      | error err => exact .alreadyPaid t err
    · refine follows_except_bind (follows_contributorAddress t h (fun address => ?_) hstopped)
      exact follows_attestMerge t h hpoints

/-- The phase in which `processMerge` ends is past the claim. -/
theorem MergeEnds.claimed {m : Phase} {r : Except WaveFlowError Json} (h : MergeEnds C req m r) :
    m.Claimed := by
  cases h with
  | stopped h =>
    rcases h with rfl | rfl
    · trivial
    · trivial
  | _ => trivial

theorem follows_answerMerge {m : Phase} {r : Except WaveFlowError Json}
    (h : MergeEnds C req m r) (eventType : String) :
    Follows (webhookProtocol C config req) m (answerMerge eventType req.deliveryId payload r)
      (Ends C req) := by
  have hm := h.claimed
  unfold answerMerge
  cases r with
  | ok v => exact follows_count hm.ne_duplicate (.merged h)
  | error err =>
    simp only
    split_ifs with hvalidation
    · exact follows_count hm.ne_duplicate (follows_bind
        (follows_persistWebhookEvent hm (by decide) fun r => .skipped h))
    · exact follows_count hm.ne_duplicate (follows_bind
        (follows_persistWebhookEvent hm (by decide) fun r => .unmerged h))

theorem follows_handleBody :
    Follows (webhookProtocol C config req) .claimed (handleBody C config req) (Ends C req) := by
  unfold handleBody
  cases hbody : C.fromSlice req.body with
  | error text => exact .malformed (by simp [Request.merge?, hbody]) _
  | ok payload =>
    simp only
    split_ifs with htype
    · have hnone : req.merge? C = none := by simp [Request.merge?, hbody, htype]
      exact follows_bind (follows_persistWebhookEvent (m := .claimed) trivial (by decide) fun r =>
        .unsupported hnone)
    · cases hevent : GitHubPullRequestEvent.fromValue payload with
      | none => exact .malformed (by simp [Request.merge?, hbody, hevent]) _
      | some event =>
        refine follows_bind ((follows_processMerge ?_).mono fun m r hr => follows_answerMerge hr _)
        simp [Request.merge?, hbody, htype, hevent]

/-- How reserving a delivery id ends: with a response, or with the delivery claimed. -/
def Reserved (C : Crates) (req : Request) (m : Phase) : Option Response → Prop
  | some response => Ends C req m response
  | none => m = .claimed

/-- Claiming an unseen delivery id, whatever code goes on with the answer. -/
theorem follows_claimDeliveryId {d : String} (hdelivery : req.deliveryId = some d)
    {k : Except WaveFlowError Unit → Action (Option Response)} (hok : k (.ok ()) = .ret none)
    (herror : ∀ err, k (.error err) = .ret (some (mapError err))) :
    Follows (webhookProtocol C config req) .unseen
      ((claimDeliveryId d req.eventType).run >>= k) (Reserved C req) := by
  refine follows_bind (follows_query (.claim hdelivery) (fun u => ?_) fun e => ?_)
  · rw [show k (.ok u) = .ret none from hok]
    exact rfl
  · rw [herror]
    exact Ends.unclaimed _

theorem follows_reserveDelivery :
    Follows (webhookProtocol C config req) (if req.deliveryId = none then .claimed else .begun)
      (reserveDelivery req.deliveryId req.eventType) (Reserved C req) := by
  cases hdelivery : req.deliveryId with
  | none => exact rfl
  | some d =>
    refine follows_bind (follows_except_bind (follows_query (.lookUp hdelivery) ?_ fun e => ?_))
    · rintro (_ | id)
      · exact follows_claimDeliveryId hdelivery rfl fun _ => rfl
      · exact .duplicate hdelivery
    · exact follows_claimDeliveryId hdelivery rfl fun _ => rfl

theorem follows_rejectWebhook (err : WaveFlowError) :
    Follows (webhookProtocol C config req) .rejected (rejectWebhook C req err) (Ends C req) :=
  follows_count (by decide) (follows_bind (follows_query (.reject _ _ _ _)
    (fun _ => .rejected err) fun _ => .rejected err))

/-- The phase in which the handler of a request begins. -/
def startPhase (C : Crates) (config : AppConfig) (req : Request) : Phase :=
  if req.BodyFits then
    if req.Signed C config then if req.deliveryId = none then .claimed else .begun else .rejected
  else .outside

theorem startPhase_signed (hfits : req.BodyFits) (hsigned : req.Signed C config) :
    startPhase C config req = if req.deliveryId = none then .claimed else .begun := by
  rw [startPhase, if_pos hfits, if_pos hsigned]

/-- **The handler keeps to its protocol.** -/
theorem follows_githubWebhook (hfits : req.BodyFits) :
    Follows (webhookProtocol C config req) (startPhase C config req) (githubWebhook C config req)
      (Ends C req) := by
  have hstart : startPhase C config req ≠ .duplicate := by
    unfold startPhase
    split_ifs <;> decide
  apply follows_count hstart
  rw [startPhase, if_pos hfits]
  cases hverify : verifyGithubSignature C config.githubWebhookSecret req.body req.signature with
  | error err =>
    have hno : ¬ req.Signed C config := by
      intro hsigned
      rw [Request.Signed, hverify] at hsigned
      cases hsigned
    rw [if_neg hno]
    exact follows_rejectWebhook err
  | ok u =>
    rw [if_pos (show req.Signed C config from hverify)]
    refine follows_bind (follows_reserveDelivery.mono fun m r hr => ?_)
    cases r with
    | some response => exact hr
    | none =>
      subst hr
      exact follows_handleBody

/-- For any observer: the route performs what the handler does, or nothing. -/
theorem follows_route {M : Type} {R : Protocol Op Op.Ans M} {m : M}
    {Q : M → Response → Prop} (hhandler : req.BodyFits → Follows R m (githubWebhook C config req) Q)
    (hlarge : ¬ req.BodyFits → Q m payloadTooLarge) :
    Follows R m (webhookRoute C config req) Q := by
  unfold webhookRoute
  split_ifs with hfits
  · exact hhandler hfits
  · exact hlarge hfits

theorem follows_webhookRoute :
    Follows (webhookProtocol C config req) (startPhase C config req) (webhookRoute C config req)
      (Ends C req) := by
  refine follows_route follows_githubWebhook fun hlarge => ?_
  rw [startPhase, if_neg hlarge]
  exact .oversized hlarge

end WaveFlow
