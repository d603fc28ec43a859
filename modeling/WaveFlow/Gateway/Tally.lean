import WaveFlow.Gateway.Bookkeeping

/-!
# What a handler counts

The payout counter is stepped when `process_merge` ends with a value, and it does so on two ways: a
payout was found, or one was recorded and the two writes after it went through. `tallying` watches a
handler for the payouts it records and counts; `Tally.gap` is the difference that it makes between
the counter and the table.
-/

namespace WaveFlow

open Interaction Postgres

/-! ### Tallies -/

inductive Tally
  | idle
  /-- A payout was found. -/
  | found
  /-- A payout was recorded, and the milestone is to be raised. -/
  | recorded
  /-- The milestone was raised, and the audit row is to be written. -/
  | booked
  /-- The audit row was written. -/
  | complete
  /-- A write after the payout failed. -/
  | missed
  /-- The payout that was recorded was counted. -/
  | counted
  /-- The payout that was found was counted. -/
  | recounted
  deriving DecidableEq

namespace Tally

/-- What the handler has added to the counter, less the payouts it has recorded. -/
def gap : Tally → ℤ
  | .recorded | .booked | .complete | .missed => -1
  | .recounted => 1
  | _ => 0

/-- Nothing is left to be counted or written for a payout. -/
def Rests : Tally → Prop
  | .idle | .missed | .counted | .recounted => True
  | _ => False

/-- What the result of `process_merge` tells. -/
def Due {α : Type} (m : Tally) : Except WaveFlowError α → Prop
  | .ok _ => m = .found ∨ m = .complete
  | .error _ => m = .idle ∨ m = .missed

def next (m : Tally) (op : Op) : op.Ans → Tally :=
  match m, op with
  | .idle, .sql (.selectPayoutId _ _) => fun
    | .ok (some _) => .found
    | _ => .idle
  | .idle, .sql (.insertPayout _ _ _ _ _ _ _) => fun
    | .ok _ => .recorded
    | .error _ => .idle
  | .found, .sql (.selectPayoutId _ _) => fun
    | .ok _ => .found
    | .error _ => .idle
  | .found, .count .payoutSuccess => fun _ => .recounted
  | .recorded, .sql (.updateMilestoneSpent _ _) => fun
    | .ok _ => .booked
    | .error _ => .missed
  | .booked, .sql (.insertWebhookEvent _ _ _ _ _ _ _) => fun
    | .ok () => .complete
    | .error _ => .missed
  | .complete, .count .payoutSuccess => fun _ => .counted
  | _, _ => fun _ => m

end Tally

/-- The operation has nothing to do with payouts. -/
def Op.Aside : Op → Prop
  | .count .payoutSuccess | .sql (.selectPayoutId _ _) | .sql (.insertPayout _ _ _ _ _ _ _)
  | .sql (.updateMilestoneSpent _ _) => False
  | _ => True

theorem Tally.next_aside {m : Tally} (hm : m.Rests) {op : Op} (hop : op.Aside) (ans : op.Ans) :
    m.next op ans = m := by
  cases op with
  | attest r => cases m <;> rfl
  | count c => cases m <;> first | rfl | exact False.elim hm
  | sql q =>
    cases q with
    | selectPayoutId | insertPayout | updateMilestoneSpent => exact False.elim hop
    | _ => cases m <;> first | rfl | exact False.elim hm

variable (C : Crates) (call : Call)

/-- What the handler of a call may do with a tally. -/
inductive Tallies : Tally → Op → Prop
  | aside {m : Tally} {op : Op} (hm : m.Rests) (hop : op.Aside) : Tallies m op
  | lookUp (id : Uuid) (pr : Int64) : Tallies .idle (.sql (.selectPayoutId id pr))
  | lookAgain (id : Uuid) (pr : Int64) : Tallies .found (.sql (.selectPayoutId id pr))
  | record (id : Uuid) (pr : Int64) (username address : String) (points : Int32) (amount : Int64)
      (txHash : String) :
      Tallies .idle (.sql (.insertPayout id pr username address points amount txHash))
  | raise (amount : Int64) (id : Uuid) : Tallies .recorded (.sql (.updateMilestoneSpent amount id))
  | audit {req : Request} (hcall : call = .webhook req) {merge : MergeAttestation}
      (hmerge : req.merge? C = some merge) {payload : Json}
      (hbody : C.fromSlice req.body = .ok payload) (number : Option Int64) :
      Tallies .booked (.sql (.insertWebhookEvent req.deliveryId "pull_request" merge.githubRepo
        number payload .processed none))
  | count {m : Tally} (hm : m = .found ∨ m = .complete) : Tallies m (.count .payoutSuccess)

/-- The tally of a handler, as an observer keeps it. -/
def tallying : Protocol Op Op.Ans Tally where
  allows := Tallies C call
  next := Tally.next

/-- What an operation adds to the counter, less the payouts it records. -/
def Op.gain : (op : Op) → op.Ans → ℤ
  | .count .payoutSuccess, _ => 1
  | .sql (.insertPayout _ _ _ _ _ _ _), .ok _ => -1
  | _, _ => 0

theorem Op.gain_aside {op : Op} (hop : op.Aside) (ans : op.Ans) : op.gain ans = 0 := by
  cases op with
  | attest r => rfl
  | count c =>
    cases c with
    | payoutSuccess => exact False.elim hop
    | _ => rfl
  | sql q =>
    cases q with
    | insertPayout => exact False.elim hop
    | _ => rfl

variable {C call}

/-- **The tally keeps the gap.** -/
theorem Tallies.gap_next {m : Tally} {op : Op} (h : Tallies C call m op) (ans : op.Ans) :
    (m.next op ans).gap = m.gap + op.gain ans := by
  cases h with
  | aside hm hop => rw [Tally.next_aside hm hop, Op.gain_aside hop, add_zero]
  | lookUp => rcases ans with err | _ | id <;> rfl
  | count hm => rcases hm with rfl | rfl <;> rfl
  | _ => cases ans <;> rfl

/-! ### The handler -/

theorem tallying_ignores {m : Tally} (hm : m.Rests) : (tallying C call).Ignores m Op.Aside :=
  fun _ hop => ⟨.aside hm hop, fun ans => Tally.next_aside hm hop ans⟩

theorem ignores_idle : (tallying C call).Ignores .idle Op.Aside := tallying_ignores trivial

theorem aside_audit {delivery : Option String} (eventType repo : String) (number : Option Int64)
    (payload : Json) (status : EventStatus) (error : Option String) :
    Op.Aside (.sql (.insertWebhookEvent delivery eventType repo number payload status error)) :=
  trivial

variable {config : AppConfig} {req : Request} {merge : MergeAttestation} {payload : Json}

/-- A recorded payout is due to be counted when all three writes go through. -/
theorem tallies_recordMerge (hmerge : req.merge? C = some merge)
    (hbody : C.fromSlice req.body = .ok payload) (id : Uuid) (address : String) (amount : ℤ)
    (txHash : String) :
    Follows (tallying C (.webhook req)) .idle
      (recordMerge merge id address amount txHash payload req.deliveryId).run Tally.Due := by
  apply follows_except_bind
  unfold persistPayout incrementMilestoneSpent
  cases hamount : i64TryFrom amount with
  | none => exact .inl rfl
  | some value =>
    cases hpr : i64TryFrom merge.prNumber.toNat with
    | none => exact .inl rfl
    | some pr =>
      refine follows_query (.record _ _ _ _ _ _ _) (fun payoutId => ?_) fun e => .inl rfl
      refine follows_except_bind (follows_except_bind
        (follows_query (.raise value id) (fun n => ?_) fun e => .inr rfl))
      refine follows_except_bind
        (follows_query (.audit rfl hmerge hbody _) (fun u => ?_) fun e => .inr rfl)
      exact .inr rfl

theorem tallies_processMerge {event : GitHubPullRequestEvent}
    (hmerge : req.merge? C = (parseMergeEvent event).toOption)
    (hbody : C.fromSlice req.body = .ok payload) :
    Follows (tallying C (.webhook req)) .idle (processMerge config event payload req.deliveryId).run
      Tally.Due := by
  unfold processMerge
  cases hparse : parseMergeEvent event with
  | error err => exact .inl rfl
  | ok merge =>
    rw [hparse] at hmerge
    rw [ofResult_ok_bind]
    refine (uses_resolveProgramId trivial).ignored_try ignores_idle (fun program => ?_)
      fun _ => .inl rfl
    refine (uses_loadProgramStatus trivial).ignored_try ignores_idle (fun status => ?_)
      fun _ => .inl rfl
    split_ifs
    · exact .inl rfl
    · refine follows_except_bind (follows_except_bind
        (follows_query (.lookUp _ _) ?_ fun e => .inl rfl))
      rintro (_ | existing)
      · refine (uses_contributorAddress trivial trivial).ignored_try ignores_idle
          (fun address => ?_) fun _ => .inl rfl
        refine (uses_submitAttestation trivial).ignored_try ignores_idle (fun txHash => ?_)
          fun _ => .inl rfl
        refine (uses_loadRewardPerPoint trivial).ignored_try ignores_idle (fun reward => ?_)
          fun _ => .inl rfl
        -- Up to here no payout was found, and none recorded.
        refine follows_except_bind
          ((tallies_recordMerge hmerge hbody _ _ _ _).mono fun m r hdue => ?_)
        cases r <;> exact hdue
      · exact follows_except_bind
          (follows_query (.lookAgain _ _) (fun _ => .inl rfl) fun _ => .inl rfl)

/-- A result that is due is counted, and another is not. -/
theorem tallies_answerMerge {m : Tally} {r : Except WaveFlowError Json} (hdue : m.Due r)
    (eventType : String) (delivery : Option String) (payload : Json) :
    Follows (tallying C (.webhook req)) m (answerMerge eventType delivery payload r)
      fun m _ => m.Rests := by
  cases r with
  | ok v =>
    refine ⟨.count hdue, fun _ => ?_⟩
    rcases hdue with rfl | rfl
    · exact trivial
    · exact trivial
  | error err =>
    have hm : m.Rests := by
      rcases hdue with rfl | rfl
      · exact trivial
      · exact trivial
    refine ((uses_answerMerge_error aside_audit trivial trivial).ignored
      (tallying_ignores hm)).mono ?_
    rintro m' v rfl
    exact hm

theorem tallies_handleBody :
    Follows (tallying C (.webhook req)) .idle (handleBody C config req) fun m _ => m.Rests := by
  unfold handleBody
  cases hbody : C.fromSlice req.body with
  | error text => exact trivial
  | ok payload =>
    simp only
    split_ifs with htype
    · exact (uses_persistWebhookEvent aside_audit).ignored_bind ignores_idle fun _ => trivial
    · cases hevent : GitHubPullRequestEvent.fromValue payload with
      | none => exact trivial
      | some event =>
        refine follows_bind ((tallies_processMerge ?_ hbody).mono
          fun m r hdue => tallies_answerMerge hdue _ _ _)
        simp [Request.merge?, hbody, htype, hevent]

theorem tallies_githubWebhook (C : Crates) (config : AppConfig) (req : Request) :
    Follows (tallying C (.webhook req)) .idle (githubWebhook C config req) fun m _ => m.Rests := by
  apply (uses_count trivial).ignored_bind ignores_idle
  intro _
  cases verifyGithubSignature C config.githubWebhookSecret req.body req.signature with
  | error err =>
    apply ((uses_rejectWebhook trivial aside_audit).ignored ignores_idle).mono
    rintro m r rfl
    exact trivial
  | ok u =>
    refine (uses_reserveDelivery aside_audit fun _ => trivial).ignored_bind ignores_idle
      fun reserved => ?_
    cases reserved with
    | some response => exact trivial
    | none => exact tallies_handleBody

theorem tallies_admin (call : AdminCall) :
    Follows (tallying C (.admin call)) .idle call.handler fun m _ => m.Rests := by
  have huses : Uses Op.Aside call.handler := by
    apply (call.uses (m := ())).uses
    intro op hop
    cases hop <;> exact trivial
  apply (huses.ignored ignores_idle).mono
  rintro m r rfl
  exact trivial

/-- **A handler counts what it has found or completely recorded**, and nothing else. -/
theorem Call.tallies (C : Crates) (config : AppConfig) (call : Call) :
    Follows (tallying C call) .idle (call.handler C config) fun m _ => m.Rests := by
  cases call with
  | webhook req => exact follows_route (fun _ => tallies_githubWebhook C config req) fun _ => trivial
  | admin call => exact tallies_admin call

end WaveFlow
