import WaveFlow.Gateway.MergeAlone

/-!
# Is `process_merge` all or nothing?

It submits an attestation and then commits three writes one by one. A merge that is to be paid is
attested and recorded completely only when all three writes go through; otherwise the attestation
stays although the result is an error. The audit row at the end can never be written for a request
with a delivery id, whose row was taken when the id was reserved.
-/

namespace WaveFlow

open Interaction Postgres

variable {C : Crates} {config : AppConfig} {req : Request} {w w' : World}
  {event : GitHubPullRequestEvent} {payload : Json}

/-- Processed means attested once and recorded, an error means nothing happened. -/
def AllOrNothing (w : World) (r : Except WaveFlowError Json × World) : Prop :=
  match r.1 with
  | .ok v => v.textAt "status" = some "processed" →
      (∃ a, r.2.attestations = w.attestations ++ [a]) ∧ Recorded w.db r.2.db
  | .error _ => r.2.attestations = w.attestations ∧ r.2.db.payouts = w.db.payouts ∧
      r.2.db.programs = w.db.programs

theorem AllOrNothing.attestations_of_error {r : Except WaveFlowError Json × World}
    (h : AllOrNothing w r) (herr : r.1.toOption.isNone) : r.2.attestations = w.attestations := by
  obtain ⟨err | v, w'⟩ := r
  · exact h.1
  · cases herr

@[simp] theorem textAt_outcome (status : String) (fields : List (String × Json)) :
    (outcome status fields).textAt "status" = some status := by
  simp [outcome, Json.textAt, Json.get, Json.asStr]

/-! ### Reserving the delivery id -/

theorem run_reserveDelivery {source : UuidSource} {d eventType : String}
    (h : runAlone source w (reserveDelivery (some d) eventType) = (none, w')) :
    ∃ row db', w.db.AddsEvent db' row ∧ row.deliveryId.map Text.val = some d ∧
      w' = { w with db := db' } := by
  have hseen : ∃ r, tryAlone source w (deliveryIdSeen d) = (r, w) := by
    unfold deliveryIdSeen
    cases hd : Text.ofParam d with
    | error e =>
      have hexec : (Stmt.selectWebhookEventId d).exec source w.db = .error e := by
        simp only [Stmt.exec, hd]
        rfl
      exact ⟨_, tryAlone_bind_error (tryAlone_query_error hexec)⟩
    | ok t =>
      have hexec : (Stmt.selectWebhookEventId d).exec source w.db =
          .ok ((w.db.webhookEvent? d).map WebhookEventRow.id, w.db) := by
        simp only [Stmt.exec, hd]
        rfl
      exact ⟨_, tryAlone_bind_ok (tryAlone_query_ok hexec)⟩
  obtain ⟨r, hseen⟩ := hseen
  unfold reserveDelivery at h
  simp only [runAlone, Prog.run_bind] at h hseen
  rw [show Prog.run _ (deliveryIdSeen d).run w = _ from hseen] at h
  split_ifs at h
  · cases h
  · rw [Prog.run_bind] at h
    cases hinsert : w.db.insertWebhookEvent source (some d) eventType "pending" none (.obj [])
        .processing none with
    | error e =>
      have hclaim : tryAlone source w (claimDeliveryId d eventType) = (.error _, w) :=
        tryAlone_query_error (by
          show (Stmt.insertWebhookEvent _ _ _ _ _ _ _).exec source w.db = .error e
          simp only [Stmt.exec, hinsert]
          rfl)
      rw [show Prog.run _ (claimDeliveryId d eventType).run w = _ from hclaim] at h
      cases h
    | ok db' =>
      have hclaim : tryAlone source w (claimDeliveryId d eventType) =
          (.ok (), { w with db := db' }) :=
        tryAlone_query_ok (by
          simp only [Stmt.exec, hinsert]
          rfl)
      rw [show Prog.run _ (claimDeliveryId d eventType).run w = _ from hclaim] at h
      cases h
      obtain ⟨row, hadds, hdelivery, -⟩ := Db.insertWebhookEvent_ok hinsert
      exact ⟨row, db', hadds, hdelivery, rfl⟩

/-! ### Which merges are attested -/

/-- The program and the registration by which a merge is to be paid: the program is active, the
pull request has no payout, and the author is registered. -/
def payable (db : Db) (merge : MergeAttestation) : Option (ProgramRow × ContributorRow) :=
  match db.activeProgram? merge.githubRepo with
  | none => none
  | some p =>
    match db.payout? p.id (saturate merge.prNumber), db.contributor? p.id merge.githubUsername with
    | none, some r => some (p, r)
    | _, _ => none

theorem payable_eq_some {db : Db} {merge : MergeAttestation} {p : ProgramRow} {r : ContributorRow} :
    payable db merge = some (p, r) ↔ db.activeProgram? merge.githubRepo = some p ∧
      db.payout? p.id (saturate merge.prNumber) = none ∧
      db.contributor? p.id merge.githubUsername = some r := by
  unfold payable
  cases hp : db.activeProgram? merge.githubRepo with
  | none => simp
  | some q =>
    cases hpayout : db.payout? q.id (saturate merge.prNumber) <;>
      cases hr : db.contributor? q.id merge.githubUsername <;> grind

/-- Audit rows do not decide which merges are paid. -/
theorem payable_of_addsEvent {db db' : Db} {row : WebhookEventRow} (h : db.AddsEvent db' row)
    (merge : MergeAttestation) : payable db' merge = payable db merge := by
  unfold payable Db.activeProgram? Db.payout? Db.contributor?
  rw [h.programs, h.payouts, h.contributors]

section ProcessMerge

variable {source : UuidSource} {merge : MergeAttestation} {deliveryId : Option String}

theorem run_processMerge_payable {p : ProgramRow} {r : ContributorRow}
    (hparse : parseMergeEvent event = .ok merge) (hpay : payable w.db merge = some (p, r)) :
    tryAlone source w (processMerge config event payload deliveryId) =
      tryAlone source w (attestMerge config merge p.id p.onChainProgramId.toUInt64
        r.stellarAddress.val payload deliveryId) := by
  obtain ⟨hp, hpayout, hr⟩ := payable_eq_some.1 hpay
  obtain ⟨hmem, -, hactive⟩ := (w.db.activeProgram?_eq_some).1 hp
  have hid : w.db.program? p.id = some p := (w.db.program?_eq_some).2 ⟨hmem, rfl⟩
  unfold processMerge
  rw [tryAlone_bind_ok (run_parseMergeEvent source w hparse),
    tryAlone_bind_ok (run_resolveProgramId hp), tryAlone_bind_ok (run_loadProgramStatus hid),
    hactive, if_neg (by decide),
    tryAlone_bind_ok (run_payoutExists _ _), hpayout]
  simp only [Option.isSome_none, Bool.false_eq_true, if_false]
  rw [tryAlone_bind_ok (run_contributorAddress hr)]

/-- A merge that is not to be paid changes neither chain nor database. -/
theorem run_processMerge_unpayable (source : UuidSource) (config : AppConfig)
    (event : GitHubPullRequestEvent) (payload : Json) (deliveryId : Option String)
    (hpay : ∀ merge, parseMergeEvent event = .ok merge → payable w.db merge = none) :
    ∃ res counters, tryAlone source w (processMerge config event payload deliveryId) =
        (res, { w with counters }) ∧
      ∀ v, res = .ok v → v.textAt "status" ≠ some "processed" := by
  cases hparse : parseMergeEvent event with
  | error err =>
    have hparsed : tryAlone source w (ofResult (parseMergeEvent event)) = (.error err, w) := by
      rw [hparse]
      rfl
    exact ⟨_, w.counters, tryAlone_bind_error hparsed, by simp⟩
  | ok merge =>
    cases hp : w.db.activeProgram? merge.githubRepo with
    | none =>
      obtain ⟨err, hrun, -⟩ := run_processMerge_inactive source _ _ _ hparse hp
      exact ⟨_, w.counters, hrun, by simp⟩
    | some p =>
      cases hpayout : w.db.payout? p.id (saturate merge.prNumber) with
      | some row =>
        refine ⟨_, w.counters, run_processMerge_paid source config hparse hp hpayout, ?_⟩
        rintro v ⟨⟩
        simp [alreadyProcessed]
      | none =>
        have hr : w.db.contributor? p.id merge.githubUsername = none := by
          cases hr : w.db.contributor? p.id merge.githubUsername with
          | none => rfl
          | some r =>
            have := hpay merge hparse
            rw [payable_eq_some.2 ⟨hp, hpayout, hr⟩] at this
            cases this
        obtain ⟨hmem, -, hactive⟩ := (w.db.activeProgram?_eq_some).1 hp
        have hid : w.db.program? p.id = some p := (w.db.program?_eq_some).2 ⟨hmem, rfl⟩
        obtain ⟨err, counters, haddress⟩ := run_contributorAddress_none source hr
        refine ⟨.error err, counters, ?_, by simp⟩
        unfold processMerge
        rw [tryAlone_bind_ok (run_parseMergeEvent source w hparse),
          tryAlone_bind_ok (run_resolveProgramId hp),
          tryAlone_bind_ok (run_loadProgramStatus hid), hactive, if_neg (by decide),
          tryAlone_bind_ok (run_payoutExists _ _), hpayout]
        simp only [Option.isSome_none, Bool.false_eq_true, if_false]
        rw [tryAlone_bind_error haddress]

/-- A merge that is to be paid is attested; then it is recorded completely or ends in an error. -/
theorem run_attestMerge {p : ProgramRow} {r : ContributorRow} (hpoints : merge.points = 1)
    (hpay : payable w.db merge = some (p, r))
    (hreserved : ∀ d, deliveryId = some d → w.db.webhookEvent? d ≠ none) :
    AllOrNothing w (tryAlone source w (attestMerge config merge p.id p.onChainProgramId.toUInt64
        r.stellarAddress.val payload deliveryId)) ↔
      Recordable p merge payload deliveryId := by
  obtain ⟨hp, hpayout, hr⟩ := payable_eq_some.1 hpay
  obtain ⟨hmem, hrepo, -⟩ := (w.db.activeProgram?_eq_some).1 hp
  have hid : w.db.program? p.id = some p := (w.db.program?_eq_some).2 ⟨hmem, rfl⟩
  have hamount : (merge.points.toNat : ℤ) * p.rewardPerPoint.toInt = p.rewardPerPoint.toInt := by
    rw [hpoints]
    simp
  set request := buildAttestation p.onChainProgramId.toUInt64 merge
  have hhash := storable_attestationHash config request
  unfold attestMerge
  rw [tryAlone_bind_ok (run_submitAttestation config request),
    tryAlone_bind_ok (run_loadRewardPerPoint
      (w := { w with attestations := w.attestations ++ [request] }) hid), hamount]
  by_cases h : Recordable p merge payload deliveryId
  · obtain ⟨id, db', hrecord, hrecorded⟩ := run_recordMerge source
      { w with attestations := w.attestations ++ [request] } hpoints hmem hrepo hr hpayout
      hhash h
    rw [tryAlone_bind_ok hrecord]
    exact iff_of_true (fun _ => ⟨⟨request, rfl⟩, hrecorded⟩) h
  · obtain ⟨err, db', hrecord⟩ := run_recordMerge_fails source
      { w with attestations := w.attestations ++ [request] } hpoints hmem hr hpayout hhash
      hreserved h
    rw [tryAlone_bind_error hrecord]
    refine iff_of_false (fun hnothing => ?_) h
    have := hnothing.1
    simp at this

end ProcessMerge

/-! ### The handler -/

/-- Handling `req` in `w`, the handler calls `processMerge` on this event and payload in `w'`. -/
structure CallsMerge (C : Crates) (config : AppConfig) (req : Request) (w : World)
    (event : GitHubPullRequestEvent) (payload : Json) (w' : World) : Prop where
  signed : req.Signed C config
  reserved : runAlone C.uuids (w.bump .webhook) (reserveDelivery req.deliveryId req.eventType) =
    (none, w')
  parsed : C.fromSlice req.body = .ok payload
  pullRequest : req.eventType = "pull_request"
  decoded : GitHubPullRequestEvent.fromValue payload = some event

theorem CallsMerge.run (h : CallsMerge C config req w event payload w') :
    runAlone C.uuids w (githubWebhook C config req) =
      let r := tryAlone C.uuids w' (processMerge config event payload req.deliveryId)
      runAlone C.uuids r.2 (answerMerge req.eventType req.deliveryId payload r.1) := by
  rw [run_githubWebhook_signed h.signed, h.reserved]
  exact run_handleBody_pullRequest h.parsed h.pullRequest h.decoded

/-- What reserving the delivery id leaves for `processMerge`. -/
theorem CallsMerge.world (h : CallsMerge C config req w event payload w') :
    (∀ merge, payable w'.db merge = payable w.db merge) ∧
      ∀ d, req.deliveryId = some d → w'.db.webhookEvent? d ≠ none := by
  have hreserved := h.reserved
  cases hdelivery : req.deliveryId with
  | none =>
    rw [hdelivery] at hreserved
    cases hreserved
    exact ⟨fun _ => rfl, by simp⟩
  | some d =>
    rw [hdelivery] at hreserved
    obtain ⟨row, db', hadds, hrow, rfl⟩ := run_reserveDelivery hreserved
    refine ⟨fun merge => payable_of_addsEvent hadds merge, ?_⟩
    rintro _ ⟨⟩
    rw [Db.webhookEvent?_ne_none]
    exact ⟨row, hadds.mem_webhookEvents.2 (.inr rfl), hrow⟩

/-- **When `process_merge` is all or nothing**: exactly when the merge is not to be paid, or has no
delivery id, a number below 2^63, balances that stay in range, and a payload that can be stored. -/
theorem merge_all_or_nothing (h : CallsMerge C config req w event payload w') :
    AllOrNothing w' (tryAlone C.uuids w' (processMerge config event payload req.deliveryId)) ↔
      ∀ merge p r, parseMergeEvent event = .ok merge → payable w.db merge = some (p, r) →
        Recordable p merge payload req.deliveryId := by
  obtain ⟨hpayable, hreserved⟩ := h.world
  by_cases hpay : ∃ merge p r, parseMergeEvent event = .ok merge ∧ payable w.db merge = some (p, r)
  · obtain ⟨merge, p, r, hparse, hpay⟩ := hpay
    have hpay' := (hpayable merge).trans hpay
    rw [run_processMerge_payable hparse hpay',
      run_attestMerge (points_of_parseMergeEvent hparse) hpay' hreserved]
    constructor
    · intro hrecordable merge' p' r' hparse' hpay'
      obtain rfl : merge = merge' := Except.ok.inj (hparse.symm.trans hparse')
      obtain ⟨rfl, rfl⟩ : p = p' ∧ r = r' := by simpa using hpay.symm.trans hpay'
      exact hrecordable
    · intro hall
      exact hall merge p r hparse hpay
  · refine iff_of_true ?_ fun merge p r hparse hsome => absurd ⟨merge, p, r, hparse, hsome⟩ hpay
    obtain ⟨res, counters, hrun, hstatus⟩ := run_processMerge_unpayable C.uuids config event
      payload req.deliveryId (w := w') fun merge hparse => by
        rw [hpayable, Option.eq_none_iff_forall_ne_some]
        rintro ⟨p, r⟩ hsome
        exact hpay ⟨merge, p, r, hparse, hsome⟩
    rw [hrun]
    cases res with
    | ok v => exact fun hprocessed => absurd hprocessed (hstatus v rfl)
    | error err => exact ⟨rfl, rfl, rfl⟩

theorem callsMerge_setup {req : Request} {deliveryId : Option String}
    (hreq : req = Setup.deliver Setup.signature deliveryId)
    (hreserved : (runAlone Setup.uuids (Setup.world.bump .webhook)
      (reserveDelivery req.deliveryId req.eventType)).1 = none) :
    CallsMerge Setup.crates Setup.config req Setup.world Setup.event Setup.payload
      (runAlone Setup.uuids (Setup.world.bump .webhook)
        (reserveDelivery req.deliveryId req.eventType)).2 where
  signed := hreq ▸ Setup.signed_deliver deliveryId
  reserved := Prod.ext hreserved rfl
  parsed := hreq ▸ Setup.fromSlice_body
  pullRequest := hreq ▸ Setup.eventType_deliver Setup.signature deliveryId
  decoded := Setup.fromValue_payload

theorem merge_all_or_nothing_setup :
    let req := Setup.deliver Setup.signature none
    let w := (runAlone Setup.uuids (Setup.world.bump .webhook)
      (reserveDelivery req.deliveryId req.eventType)).2
    AllOrNothing w (tryAlone Setup.uuids w
        (processMerge Setup.config Setup.event Setup.payload req.deliveryId)) ↔
      ∀ merge p r, parseMergeEvent Setup.event = .ok merge →
        payable Setup.world.db merge = some (p, r) →
        Recordable p merge Setup.payload req.deliveryId :=
  merge_all_or_nothing (C := Setup.crates)
    (callsMerge_setup rfl (by decide +kernel))

/-- A first delivery of a merge, with a delivery id, is an error: but the attestation was submitted
and the payout recorded. -/
theorem merge_neither_all_nor_nothing :
    let req := Setup.deliver Setup.signature (some "72d3162e")
    let w := (runAlone Setup.uuids (Setup.world.bump .webhook)
      (reserveDelivery req.deliveryId req.eventType)).2
    let r := tryAlone Setup.uuids w
      (processMerge Setup.config Setup.event Setup.payload req.deliveryId)
    CallsMerge Setup.crates Setup.config req Setup.world Setup.event Setup.payload w ∧
      r.1.toOption.isNone ∧ r.2.attestations = [⟨1, "alice", 42, 1⟩] ∧
      r.2.db.payouts.rows.length = 1 ∧ ¬ AllOrNothing w r := by
  have hend : ∀ req w r, req = Setup.deliver Setup.signature (some "72d3162e") →
      w = (runAlone Setup.uuids (Setup.world.bump .webhook)
        (reserveDelivery req.deliveryId req.eventType)).2 →
      r = tryAlone Setup.uuids w
        (processMerge Setup.config Setup.event Setup.payload req.deliveryId) →
      r.1.toOption.isNone ∧ r.2.attestations = [⟨1, "alice", 42, 1⟩] ∧
        r.2.db.payouts.rows.length = 1 ∧ w.attestations = [] := by
    rintro req w r rfl rfl rfl
    decide +kernel
  intro req w r
  obtain ⟨herror, hattested, hpaid, hbefore⟩ := hend req w r rfl rfl rfl
  refine ⟨callsMerge_setup rfl (by decide +kernel), herror, hattested, hpaid, fun h => ?_⟩
  have hsame := h.attestations_of_error herror
  rw [hattested, hbefore] at hsame
  cases hsame

end WaveFlow
