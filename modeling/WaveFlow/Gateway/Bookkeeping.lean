import WaveFlow.Gateway.Service

/-!
# What a handler owes

A handler records a payout and raises the milestone in two statements. `bookkeeping` watches it for
what it owes between them: the first thing it does after recording a payout is to raise the milestone
by the same amount, and it never ends without having tried.
-/

namespace WaveFlow

open Interaction Postgres

/-! ### Accounts -/

inductive Account
  | settled
  /-- A payout was recorded, and the milestone is not yet raised. -/
  | owes (program : Uuid) (amount : Int64)
  /-- Raising it failed. -/
  | overdrawn (program : Uuid) (amount : Int64)

namespace Account

def debt : Account → Uuid → ℤ
  | .settled, _ => 0
  | .owes p amount, id | .overdrawn p amount, id => if p = id then amount.toInt else 0

/-- The handler is not about to raise a milestone. -/
def Idle : Account → Prop
  | .owes _ _ => False
  | _ => True

theorem idle_settled : settled.Idle := trivial

def next (m : Account) (op : Op) : op.Ans → Account :=
  match m, op with
  | .settled, .sql (.insertPayout id _ _ _ _ amount _) => fun
    | .ok _ => .owes id amount
    | .error _ => .settled
  | .owes id amount, .sql (.updateMilestoneSpent _ _) => fun
    | .ok _ => .settled
    | .error _ => .overdrawn id amount
  | _, _ => fun _ => m

end Account

/-- The operation neither records a payout nor raises a milestone. -/
def Op.Bystands : Op → Prop
  | .sql (.insertPayout _ _ _ _ _ _ _) | .sql (.updateMilestoneSpent _ _) => False
  | _ => True

/-- What a handler may do with an account. -/
inductive Books : Account → Op → Prop
  | bystand {m : Account} {op : Op} (hm : m.Idle) (hop : op.Bystands) : Books m op
  | pay (id : Uuid) (pr : Int64) (username address : String) (points : Int32) (amount : Int64)
      (txHash : String) :
      Books .settled (.sql (.insertPayout id pr username address points amount txHash))
  | raise (id : Uuid) (amount : Int64) :
      Books (.owes id amount) (.sql (.updateMilestoneSpent amount id))

/-- The account of a handler, as an observer keeps it. -/
def bookkeeping : Protocol Op Op.Ans Account where
  allows := Books
  next := Account.next

theorem Account.next_bystand (m : Account) {op : Op} (hop : op.Bystands) (ans : op.Ans) :
    m.next op ans = m := by
  cases op with
  | attest r => cases m <;> rfl
  | count c => cases m <;> rfl
  | sql q =>
    cases q with
    | insertPayout | updateMilestoneSpent => exact absurd hop id
    | _ => cases m <;> rfl

/-- Bystanders change no account. -/
theorem bookkeeping_ignores {m : Account} (hm : m.Idle) :
    bookkeeping.Ignores m Op.Bystands :=
  fun _ hop => ⟨.bystand hm hop, fun ans => Account.next_bystand _ hop ans⟩

/-! ### The operations of each function -/

section Uses

variable {allowed : Op → Prop}

theorem uses_count {c : Counter} (h : allowed (.count c)) : Uses allowed (count c) :=
  ⟨h, fun _ => trivial⟩

theorem uses_resolveProgramId {repo : String} (h : allowed (.sql (.selectActiveProgram repo))) :
    Uses allowed (resolveProgramId repo).run := by
  apply uses_except_bind (uses_query h)
  intro r
  cases r <;> exact trivial

theorem uses_loadProgramStatus {id : Uuid} (h : allowed (.sql (.selectProgramStatus id))) :
    Uses allowed (loadProgramStatus id).run := by
  apply uses_except_bind (uses_query h)
  intro r
  cases r <;> exact trivial

theorem uses_fetchPayoutId {id : Uuid} {pr : UInt64}
    (h : allowed (.sql (.selectPayoutId id (saturate pr)))) :
    Uses allowed (fetchPayoutId id pr).run := uses_query h

theorem uses_payoutExists {id : Uuid} {pr : UInt64}
    (h : allowed (.sql (.selectPayoutId id (saturate pr)))) :
    Uses allowed (payoutExists id pr).run :=
  uses_except_bind (uses_fetchPayoutId h) fun _ => trivial

theorem uses_contributorAddress {id : Uuid} {username : String}
    (h : allowed (.sql (.selectContributorAddress id username)))
    (hcount : allowed (.count .contributorNotFound)) :
    Uses allowed (contributorAddress id username).run := by
  have hresolve : Uses allowed (resolveContributorAddress id username).run := by
    apply uses_except_bind (uses_query h)
    intro r
    cases r <;> exact trivial
  refine uses_except_bind (uses_bind hresolve fun _ => trivial) fun r => ?_
  cases r with
  | ok address => exact trivial
  | error err =>
    cases err with
    | notFound text => exact ⟨hcount, fun _ => trivial⟩
    | _ => exact trivial

theorem uses_submitAttestation {config : AppConfig} {r : AttestationRequest}
    (h : allowed (.attest r)) : Uses allowed (submitAttestation config r).run :=
  ⟨h, fun _ => trivial⟩

theorem uses_loadRewardPerPoint {id : Uuid} (h : allowed (.sql (.selectRewardPerPoint id))) :
    Uses allowed (loadRewardPerPoint id).run := by
  apply uses_except_bind (uses_query h)
  intro r
  cases r <;> exact trivial

variable {delivery : Option String}
  (haudit : ∀ eventType repo number payload status error, allowed
    (.sql (.insertWebhookEvent delivery eventType repo number payload status error)))

include haudit

theorem uses_persistWebhookEvent {eventType repo : String} {number : Option UInt64} {payload : Json}
    {status : EventStatus} {error : Option String} :
    Uses allowed (persistWebhookEvent delivery eventType repo number payload status error).run :=
  uses_query (haudit _ _ _ _ _ _)

theorem uses_reserveDelivery (hlookup : ∀ d, allowed (.sql (.selectWebhookEventId d)))
    {eventType : String} : Uses allowed (reserveDelivery delivery eventType) := by
  cases delivery with
  | none => exact trivial
  | some d =>
    refine uses_bind (uses_except_bind (uses_query (hlookup d)) fun _ => trivial) fun seen => ?_
    split_ifs
    · exact trivial
    · apply uses_bind (uses_query (haudit _ _ _ _ _ _))
      intro claimed
      cases claimed <;> exact trivial

/-- The answer to a merge that failed, or is ignored. -/
theorem uses_answerMerge_error (hignored : allowed (.count .webhookIgnored))
    (hfailed : allowed (.count .webhookFailed)) {eventType : String} {payload : Json}
    {err : WaveFlowError} : Uses allowed (answerMerge eventType delivery payload (.error err)) := by
  simp only [answerMerge]
  split_ifs
  · exact uses_bind (uses_count hignored) fun _ =>
      uses_bind (uses_persistWebhookEvent haudit) fun _ => trivial
  · exact uses_bind (uses_count hfailed) fun _ =>
      uses_bind (uses_persistWebhookEvent haudit) fun _ => trivial

end Uses

theorem uses_rejectWebhook {allowed : Op → Prop} {C : Crates} {req : Request} {err : WaveFlowError}
    (hcount : allowed (.count .webhookRejected))
    (haudit : ∀ eventType repo number payload status error, allowed
      (.sql (.insertWebhookEvent req.deliveryId eventType repo number payload status error))) :
    Uses allowed (rejectWebhook C req err) :=
  uses_bind (uses_count hcount) fun _ =>
    uses_bind (uses_persistWebhookEvent haudit) fun _ => trivial

/-! ### The handler -/

section Handler

variable {C : Crates} {config : AppConfig}

theorem bystands_audit {delivery : Option String} (eventType repo : String) (number : Option Int64)
    (payload : Json) (status : EventStatus) (error : Option String) :
    Op.Bystands (.sql (.insertWebhookEvent delivery eventType repo number payload status error)) :=
  trivial

theorem ignores_settled : bookkeeping.Ignores .settled Op.Bystands :=
  bookkeeping_ignores Account.idle_settled

theorem settles_recordMerge (merge : MergeAttestation) (id : Uuid) (address : String) (amount : ℤ)
    (txHash : String) (payload : Json) (delivery : Option String) :
    Follows bookkeeping .settled
      (recordMerge merge id address amount txHash payload delivery).run fun m _ => m.Idle := by
  apply follows_except_bind
  unfold persistPayout incrementMilestoneSpent
  cases hamount : i64TryFrom amount with
  | none => exact trivial
  | some value =>
    cases hpr : i64TryFrom merge.prNumber.toNat with
    | none => exact trivial
    | some pr =>
      refine follows_query (.pay _ _ _ _ _ _ _) (fun payoutId => ?_) fun e => trivial
      -- The payout is recorded, and the amount is the one to be raised.
      refine follows_except_bind (follows_except_bind
        (follows_query (.raise id value) (fun n => ?_) fun e => trivial))
      exact (uses_persistWebhookEvent bystands_audit).ignored_try ignores_settled
        (fun _ => trivial) fun _ => trivial

theorem settles_processMerge (event : GitHubPullRequestEvent) (payload : Json)
    (delivery : Option String) :
    Follows bookkeeping .settled (processMerge config event payload delivery).run
      fun m _ => m.Idle := by
  unfold processMerge
  cases parseMergeEvent event with
  | error err => exact trivial
  | ok merge =>
    rw [ofResult_ok_bind]
    refine (uses_resolveProgramId trivial).ignored_try ignores_settled (fun program => ?_)
      fun _ => trivial
    refine (uses_loadProgramStatus trivial).ignored_try ignores_settled (fun status => ?_)
      fun _ => trivial
    split_ifs
    · exact trivial
    · refine (uses_payoutExists trivial).ignored_try ignores_settled (fun paid => ?_)
        fun _ => trivial
      cases paid with
      | true =>
        exact (uses_fetchPayoutId trivial).ignored_try ignores_settled (fun _ => trivial)
          fun _ => trivial
      | false =>
        refine (uses_contributorAddress trivial trivial).ignored_try ignores_settled
          (fun address => ?_) fun _ => trivial
        refine (uses_submitAttestation trivial).ignored_try ignores_settled (fun txHash => ?_)
          fun _ => trivial
        refine (uses_loadRewardPerPoint trivial).ignored_try ignores_settled (fun reward => ?_)
          fun _ => trivial
        -- Up to here the handler has recorded nothing.
        refine follows_except_bind ((settles_recordMerge _ _ _ _ _ _ _).mono fun m r hm => ?_)
        cases r <;> exact hm

/-- The answer to a merge settles nothing. -/
theorem settles_answerMerge {m : Account} (hm : m.Idle) (eventType : String)
    (delivery : Option String) (payload : Json) (r : Except WaveFlowError Json) :
    Follows bookkeeping m (answerMerge eventType delivery payload r) fun m _ => m.Idle := by
  have huses : Uses Op.Bystands (answerMerge eventType delivery payload r) := by
    cases r with
    | ok v => exact uses_bind (uses_count trivial) fun _ => trivial
    | error err => exact uses_answerMerge_error bystands_audit trivial trivial
  apply (huses.ignored (bookkeeping_ignores hm)).mono
  rintro m' v rfl
  exact hm

theorem settles_handleBody (req : Request) :
    Follows bookkeeping .settled (handleBody C config req) fun m _ => m.Idle := by
  unfold handleBody
  cases C.fromSlice req.body with
  | error text => exact trivial
  | ok payload =>
    simp only
    split_ifs
    · exact (uses_persistWebhookEvent bystands_audit).ignored_bind ignores_settled fun _ => trivial
    · cases GitHubPullRequestEvent.fromValue payload with
      | none => exact trivial
      | some event =>
        exact follows_bind ((settles_processMerge event payload req.deliveryId).mono
          fun m r hm => settles_answerMerge hm _ _ _ r)

/-- **A handler raises what it has recorded**, or tries to, before it ends. -/
theorem settles_githubWebhook (C : Crates) (config : AppConfig) (req : Request) :
    Follows bookkeeping .settled (githubWebhook C config req) fun m _ => m.Idle := by
  apply (uses_count trivial).ignored_bind ignores_settled
  intro _
  cases verifyGithubSignature C config.githubWebhookSecret req.body req.signature with
  | error err =>
    apply ((uses_rejectWebhook trivial bystands_audit).ignored ignores_settled).mono
    rintro m r rfl
    exact trivial
  | ok u =>
    refine (uses_reserveDelivery bystands_audit fun _ => trivial).ignored_bind ignores_settled
      fun reserved => ?_
    cases reserved with
    | some response => exact trivial
    | none => exact settles_handleBody req

/-- Admin calls are bystanders. -/
theorem settles_admin (call : AdminCall) :
    Follows bookkeeping .settled call.handler fun m _ => m.Idle := by
  have huses : Uses Op.Bystands call.handler := by
    apply (call.uses (m := ())).uses
    intro op hop
    cases hop <;> exact trivial
  apply (huses.ignored ignores_settled).mono
  rintro m r rfl
  exact trivial

theorem Call.settles (C : Crates) (config : AppConfig) (call : Call) :
    Follows bookkeeping .settled (call.handler C config) fun m _ => m.Idle := by
  cases call with
  | webhook req => exact follows_route (fun _ => settles_githubWebhook C config req) fun _ => trivial
  | admin call => exact settles_admin call

end Handler

end WaveFlow
