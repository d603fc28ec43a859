import Mathlib.Algebra.Group.Action.Defs
import WaveFlow.Api.Site
import WaveFlow.Gateway.Settlement
import WaveFlow.Library.Budget

/-!
# Every request is answered

No handler waits for another one: whatever the others have done and wherever they have stopped, a
request that came to the site can be answered by steps of its own handler, and these are few
(`requests_answered`). The longest way through the gateway has fourteen operations: a merge is paid,
its audit row cannot be stored, and the failure is counted and recorded in an audit row of its own.

So a batch of deliveries comes to an end, and to the payouts that it earns (`batch_settles`).
-/

namespace WaveFlow

open Interaction Postgres Transition Prog Pool

/-! ### Handlers -/

theorem within_count (c : Counter) : (count c).Within 1 := fun _ => trivial

theorem within_query {s : Stmt} {onError : DbError → WaveFlowError} :
    (query s onError).run.Within 1 := by
  intro ans
  cases ans <;> exact trivial

theorem within_persistWebhookEvent (deliveryId : Option String) (eventType githubRepo : String)
    (prNumber : Option UInt64) (payload : Json) (status : EventStatus) (error : Option String) :
    (persistWebhookEvent deliveryId eventType githubRepo prNumber payload status error).run.Within
      1 :=
  within_query

/-- A registration that is missing is counted, and ends the merge. -/
theorem within_contributorAddress_bind {α : Type} {n : ℕ} {programUuid : Uuid}
    {githubUsername : String} {f : String → Fallible α}
    (hf : ∀ address, (f address).run.Within (n + 1)) :
    (ExceptT.run (contributorAddress programUuid githubUsername >>= f)).Within (n + 2) := by
  intro ans
  rcases ans with e | _ | address
  · exact trivial
  · exact fun _ => trivial
  · exact hf address

theorem within_recordMerge (merge : MergeAttestation) (programUuid : Uuid) (stellarAddress : String)
    (amount : ℤ) (txHash : String) (rawPayload : Json) (deliveryId : Option String) :
    (recordMerge merge programUuid stellarAddress amount txHash rawPayload deliveryId).run.Within
      3 := by
  refine within_except_bind (n := 1) (m := 2) ?_ fun payoutId => ?_
  · unfold persistPayout
    split
    · exact trivial
    · exact trivial
    · exact within_query
  refine within_except_bind (n := 1) (m := 1) ?_ fun _ => ?_
  · unfold incrementMilestoneSpent
    split
    · exact within_except_bind (n := 1) (m := 0) within_query fun _ => trivial
    · exact trivial
  exact within_except_bind (n := 1) (m := 0) (within_persistWebhookEvent _ _ _ _ _ _ _)
    fun _ => trivial

theorem within_attestMerge (config : AppConfig) (merge : MergeAttestation) (programUuid : Uuid)
    (onChainProgramId : UInt64) (stellarAddress : String) (rawPayload : Json)
    (deliveryId : Option String) :
    (attestMerge config merge programUuid onChainProgramId stellarAddress rawPayload
      deliveryId).run.Within 5 := by
  refine within_except_bind (n := 1) (m := 4) (fun _ => trivial) fun txHash => ?_
  refine within_except_bind (n := 1) (m := 3) ?_ fun reward => ?_
  · intro ans
    rcases ans with e | _ | reward <;> exact trivial
  exact within_except_bind (n := 3) (m := 0) (within_recordMerge _ _ _ _ _ _ _) fun _ => trivial

theorem within_processMerge (config : AppConfig) (event : GitHubPullRequestEvent)
    (rawPayload : Json) (deliveryId : Option String) :
    (processMerge config event rawPayload deliveryId).run.Within 9 := by
  refine within_except_bind (n := 0) (m := 9) trivial fun merge => ?_
  refine within_except_bind (n := 1) (m := 8) ?_ fun t => ?_
  · intro ans
    rcases ans with e | _ | found <;> exact trivial
  refine within_except_bind (n := 1) (m := 7) ?_ fun status => ?_
  · intro ans
    rcases ans with e | _ | found <;> exact trivial
  split_ifs
  · exact trivial
  refine within_except_bind (n := 1) (m := 6) ?_ fun paid => ?_
  · exact within_except_bind (n := 1) (m := 0) within_query fun _ => trivial
  split_ifs
  · exact within_except_bind (n := 1) (m := 5) within_query fun _ => trivial
  · exact within_contributorAddress_bind fun _ => within_attestMerge _ _ _ _ _ _ _

theorem within_answerMerge (eventType : String) (deliveryId : Option String) (payload : Json)
    (result : Except WaveFlowError Json) :
    (answerMerge eventType deliveryId payload result).Within 2 := by
  cases result with
  | ok response => exact within_bind (n := 1) (m := 1) (within_count _) fun _ => trivial
  | error err =>
    simp only [answerMerge]
    split_ifs
    · exact within_bind (n := 1) (m := 1) (within_count _) fun _ =>
        within_bind (n := 1) (m := 0) (within_persistWebhookEvent _ _ _ _ _ _ _) fun _ => trivial
    · exact within_bind (n := 1) (m := 1) (within_count _) fun _ =>
        within_bind (n := 1) (m := 0) (within_persistWebhookEvent _ _ _ _ _ _ _) fun _ => trivial

variable {C : Crates} {config : AppConfig}

theorem within_handleBody (req : Request) : (handleBody C config req).Within 11 := by
  unfold handleBody
  split
  · exact trivial
  · split_ifs
    · exact within_bind (n := 1) (m := 10) (within_persistWebhookEvent _ _ _ _ _ _ _) fun _ =>
        trivial
    · split
      · exact trivial
      · exact within_bind (n := 9) (m := 2) (within_processMerge _ _ _ _) fun _ =>
          within_answerMerge _ _ _ _

theorem within_reserveDelivery (deliveryId : Option String) (eventType : String) :
    (reserveDelivery deliveryId eventType).Within 2 := by
  cases deliveryId with
  | none => exact trivial
  | some delivery =>
    refine within_bind (n := 1) (m := 1) ?_ fun seen => ?_
    · exact within_except_bind (n := 1) (m := 0) within_query fun _ => trivial
    split_ifs
    · exact trivial
    · refine within_bind (n := 1) (m := 0) within_query fun r => ?_
      cases r <;> exact trivial

theorem within_githubWebhook (req : Request) : (githubWebhook C config req).Within 14 := by
  refine within_bind (n := 1) (m := 13) (within_count _) fun _ => ?_
  split
  · exact within_bind (n := 1) (m := 12) (within_count _) fun _ =>
      within_bind (n := 1) (m := 11) (within_persistWebhookEvent _ _ _ _ _ _ _) fun _ => trivial
  · refine within_bind (n := 2) (m := 11) (within_reserveDelivery _ _) fun r => ?_
    cases r with
    | some response => exact trivial
    | none => exact within_handleBody req

theorem within_webhookRoute (req : Request) : (webhookRoute C config req).Within 14 := by
  unfold webhookRoute
  split_ifs
  · exact within_githubWebhook req
  · exact trivial

theorem within_changeStatus (src dst : ProgramStatus) (id : Uuid) :
    (changeStatus src dst id).run.Within 1 := by
  refine within_except_bind (n := 1) (m := 0) within_query fun n => ?_
  split_ifs <;> exact trivial

theorem within_createProgram (body : CreateProgramRequest) :
    (createProgram body).run.Within 1 := by
  unfold createProgram
  split_ifs
  · exact trivial
  · exact trivial
  · exact trivial
  · exact within_except_bind (n := 1) (m := 0) within_query fun _ => trivial

theorem within_updateRatio (id : Uuid) (body : UpdateRatioRequest) :
    (updateRatio id body).run.Within 1 := by
  unfold updateRatio
  split_ifs
  · exact trivial
  · refine within_except_bind (n := 1) (m := 0) within_query fun n => ?_
    split_ifs <;> exact trivial

theorem within_registerContributor (body : RegisterContributorRequest) :
    (registerContributor body).run.Within 2 := by
  unfold registerContributor
  split_ifs
  · exact trivial
  · exact trivial
  · refine within_except_bind (n := 1) (m := 1) within_query fun found => ?_
    split_ifs
    · exact trivial
    · exact within_except_bind (n := 1) (m := 0) within_query fun _ => trivial

/-- The operations that a call takes at most. -/
def Call.budget : Call → ℕ
  | .webhook _ => 14
  | .admin (.registerContributor _) => 2
  | .admin _ => 1

/-- **A call ends within its budget**, whatever its operations are answered. -/
theorem Call.within (call : Call) : (call.handler C config).Within call.budget := by
  cases call with
  | webhook req => exact within_webhookRoute req
  | admin a =>
    have hroute : a.route.run.Within (Call.admin a).budget := by
      cases a with
      | createProgram body => exact within_createProgram body
      | pauseProgram id => exact within_changeStatus .active .paused id
      | resumeProgram id => exact within_changeStatus .paused .active id
      | updateRatio id body => exact within_updateRatio id body
      | registerContributor body => exact within_registerContributor body
    refine within_bind (m := 0) hroute fun r => ?_
    cases r <;> exact trivial

/-! ### The site -/

section Site

variable {ι : Type} [DecidableEq ι] {exchanges : ι → Exchange} {X : Extractors}
  {apiConfig : ApiConfig} {w : World} {s : Service ι}
  {h : List (Entry (Service ι) (Event ι Op Op.Ans))}

/-- A request that is turned away takes no operation. -/
def Exchange.budget (X : Extractors) (apiConfig : ApiConfig) (x : Exchange) : ℕ :=
  (x.call? X apiConfig).elim 0 Call.budget

theorem Exchange.within (x : Exchange) :
    (x.handler X C config apiConfig).Within (x.budget X apiConfig) := by
  cases hcall : x.call? X apiConfig with
  | some call =>
    rw [handler_of_call hcall, budget, hcall]
    exact call.within
  | none =>
    have hret : ∃ response, x.handler X C config apiConfig = .ret response :=
      handler_of_turned_away hcall
    obtain ⟨response, hret⟩ := hret
    rw [hret]
    trivial

theorem exact_total (source : UuidSource) (op : Op) (w : World) :
    ∃ ans w', op.Exact source w ans w' := ⟨_, _, rfl⟩

/-- The database did not fail in this step. -/
def Undisturbed (C : Crates) (e : Entry (Service ι) (Event ι Op Op.Ans)) : Prop :=
  e.label.op.Exact C.uuids e.pre.world e.label.ans e.post.world

end Site

/-! ### Batches -/

/-- **A batch always settles**: a run of a batch of deliveries has at most fourteen operations for
each, and from wherever it has got it can go on until all are answered, with the payouts that the
deliveries earn. -/
theorem batch_settles {ι : Type} [DecidableEq ι] [Fintype ι] {reqs : ι → Request} {w : World}
    {s : Service ι} {h : List (Entry (Service ι) (Event ι Op Op.Ans))}
    (hrun : Run (Service.Step C config (batch reqs)) (Service.start C config (batch reqs) w) h s)
    (hfresh : FreshIds w.db reqs) (hauthor : OneAuthor C config w.db reqs) :
    h.length ≤ 14 * Fintype.card ι ∧
      ∃ h' s', Run (Service.Step C config (batch reqs)) s h' s' ∧
        (∀ i, ∃ response, s'.prog i = .ret response) ∧
        ∀ entry, s'.world.db.Booked entry ↔ w.db.Booked entry ∨
          (∃ i, w.db.earned? C config (reqs i) = some entry) ∧
            w.db.payout? entry.programId entry.prNumber = none := by
  have hwithin := within_of_run hrun fun i => (batch reqs i).within
  obtain ⟨h', s', hrun', hended⟩ := all_end (P := protocols C config (batch reqs))
    (exact_total C.uuids) fun i => (hwithin i).2
  refine ⟨?_, h', s', hrun', hended, ?_⟩
  · refine (length_le hrun fun i => (batch reqs i).within).trans_eq ?_
    rw [show (fun i => (batch reqs i).budget) = fun _ => 14 from rfl, Finset.sum_const,
      Finset.card_univ, smul_eq_mul, mul_comm]
  · exact booked_of_ended (hrun.append hrun') hended hfresh hauthor

theorem batch_settles_setup :
    Setup.settled.1.length ≤ 14 * Fintype.card (Fin 3) ∧
      ∃ h' s', Run (Service.Step Setup.crates Setup.config (batch Setup.redelivered))
          Setup.settled.2 h' s' ∧
        (∀ i, ∃ response, s'.prog i = .ret response) ∧
        ∀ entry, s'.world.db.Booked entry ↔ Setup.world.db.Booked entry ∨
          (∃ i, Setup.world.db.earned? Setup.crates Setup.config (Setup.redelivered i) =
            some entry) ∧ Setup.world.db.payout? entry.programId entry.prNumber = none :=
  batch_settles Setup.run_settled Setup.freshIds_redelivered Setup.oneAuthor_redelivered

end WaveFlow
