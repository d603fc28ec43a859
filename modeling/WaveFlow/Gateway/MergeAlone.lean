import WaveFlow.Gateway.Routes
import WaveFlow.Postgres.Rules

/-!
# `process_merge` alone
-/

namespace WaveFlow

open Interaction Postgres

variable {source : UuidSource} {w : World}

/-! ### The handler -/

/-- After the signature check, and unless its delivery id decides it, the body is handled. -/
theorem run_githubWebhook_signed {C : Crates} {config : AppConfig} {req : Request}
    (h : req.Signed C config) :
    runAlone C.uuids w (githubWebhook C config req) =
      let r := runAlone C.uuids (w.bump .webhook) (reserveDelivery req.deliveryId req.eventType)
      r.1.elim (runAlone C.uuids r.2 (handleBody C config req)) fun response => (response, r.2) := by
  simp only [githubWebhook, show verifyGithubSignature _ _ _ _ = _ from h]
  show Prog.run _ (reserveDelivery req.deliveryId req.eventType >>= _) (w.bump .webhook) = _
  rw [Prog.run_bind]
  cases (runAlone C.uuids (w.bump .webhook) (reserveDelivery req.deliveryId req.eventType)).1 with
  | none => rfl
  | some response => rfl

/-- The body of a pull request event goes through `processMerge`. -/
theorem run_handleBody_pullRequest {C : Crates} {config : AppConfig} {req : Request}
    {payload : Json} {event : GitHubPullRequestEvent} (hbody : C.fromSlice req.body = .ok payload)
    (htype : req.eventType = "pull_request")
    (hevent : GitHubPullRequestEvent.fromValue payload = some event) :
    runAlone source w (handleBody C config req) =
      let r := tryAlone source w (processMerge config event payload req.deliveryId)
      runAlone source r.2 (answerMerge req.eventType req.deliveryId payload r.1) := by
  simp only [handleBody, hbody, htype, hevent, ne_eq, not_true_eq_false, if_false]
  exact Prog.run_bind _ _ _ _

/-! ### The functions of `attestation.rs` -/

theorem run_resolveProgramId {repo : String} {p : ProgramRow}
    (hp : w.db.activeProgram? repo = some p) :
    tryAlone source w (resolveProgramId repo) = (.ok (p.id, p.onChainProgramId.toUInt64), w) := by
  obtain ⟨-, hrepo, -⟩ := (w.db.activeProgram?_eq_some).1 hp
  have hexec : (Stmt.selectActiveProgram repo).exec source w.db =
      .ok (some (p.id, p.onChainProgramId), w.db) := by
    simp only [Stmt.exec, ← hrepo, Text.ofParam_val]
    rw [hrepo, hp]
    rfl
  exact tryAlone_bind_ok (tryAlone_query_ok hexec)

/-- Without an active program the merge fails, and not as one to be ignored. -/
theorem run_resolveProgramId_none (source : UuidSource) {repo : String}
    (hp : w.db.activeProgram? repo = none) :
    ∃ err, tryAlone source w (resolveProgramId repo) = (.error err, w) ∧
      err.isValidation = false := by
  cases hrepo : Text.ofParam repo with
  | error e =>
    have hexec : (Stmt.selectActiveProgram repo).exec source w.db = .error e := by
      simp only [Stmt.exec, hrepo]
      rfl
    exact ⟨_, tryAlone_bind_error (tryAlone_query_error hexec), rfl⟩
  | ok t =>
    have hexec : (Stmt.selectActiveProgram repo).exec source w.db = .ok (none, w.db) := by
      simp only [Stmt.exec, hrepo, hp]
      rfl
    exact ⟨_, tryAlone_bind_ok (tryAlone_query_ok hexec), rfl⟩

theorem run_loadProgramStatus {id : Uuid} {p : ProgramRow} (hp : w.db.program? id = some p) :
    tryAlone source w (loadProgramStatus id) = (.ok p.status, w) := by
  have hexec : (Stmt.selectProgramStatus id).exec source w.db = .ok (some p.status, w.db) := by
    simp only [Stmt.exec, hp]
    rfl
  exact tryAlone_bind_ok (tryAlone_query_ok hexec)

theorem run_fetchPayoutId (id : Uuid) (pr : UInt64) :
    tryAlone source w (fetchPayoutId id pr) =
      (.ok ((w.db.payout? id (saturate pr)).map PayoutRow.id), w) :=
  tryAlone_query_ok rfl

theorem run_payoutExists (id : Uuid) (pr : UInt64) :
    tryAlone source w (payoutExists id pr) = (.ok (w.db.payout? id (saturate pr)).isSome, w) := by
  unfold payoutExists
  rw [tryAlone_bind_ok (run_fetchPayoutId id pr), Option.isSome_map]
  rfl

theorem run_contributorAddress {id : Uuid} {username : String} {r : ContributorRow}
    (hr : w.db.contributor? id username = some r) :
    tryAlone source w (contributorAddress id username) = (.ok r.stellarAddress.val, w) := by
  have husername : r.githubUsername.val = username := ((w.db.contributor?_eq_some).1 hr).2.2
  have hexec : (Stmt.selectContributorAddress id username).exec source w.db =
      .ok (some r.stellarAddress.val, w.db) := by
    simp only [Stmt.exec, ← husername, Text.ofParam_val]
    rw [husername, hr]
    rfl
  have hresolve : tryAlone source w (resolveContributorAddress id username) =
      (.ok r.stellarAddress.val, w) := tryAlone_bind_ok (tryAlone_query_ok hexec)
  unfold contributorAddress
  rw [tryAlone_bind_result hresolve]
  rfl

/-- An author who is not registered is counted, and nothing else happens. -/
theorem run_contributorAddress_none (source : UuidSource) {id : Uuid} {username : String}
    (hr : w.db.contributor? id username = none) :
    ∃ err counters, tryAlone source w (contributorAddress id username) =
      (.error err, { w with counters }) := by
  cases husername : Text.ofParam username with
  | error e =>
    have hexec : (Stmt.selectContributorAddress id username).exec source w.db = .error e := by
      simp only [Stmt.exec, husername]
      rfl
    have hresolve : tryAlone source w (resolveContributorAddress id username) =
        (.error (databaseError e), w) := tryAlone_bind_error (tryAlone_query_error hexec)
    refine ⟨databaseError e, w.counters, ?_⟩
    unfold contributorAddress
    rw [tryAlone_bind_result hresolve]
    rfl
  | ok t =>
    have hexec : (Stmt.selectContributorAddress id username).exec source w.db =
        .ok (none, w.db) := by
      simp only [Stmt.exec, husername, hr]
      rfl
    have hresolve : tryAlone source w (resolveContributorAddress id username) =
        (.error (notRegistered id username), w) := tryAlone_bind_ok (tryAlone_query_ok hexec)
    refine ⟨notRegistered id username, (w.bump .contributorNotFound).counters, ?_⟩
    unfold contributorAddress
    rw [tryAlone_bind_result hresolve]
    rfl

theorem run_submitAttestation (config : AppConfig) (r : AttestationRequest) :
    tryAlone source w (submitAttestation config r) =
      (.ok (attestationHash config r), { w with attestations := w.attestations ++ [r] }) := rfl

theorem run_loadRewardPerPoint {id : Uuid} {p : ProgramRow} (hp : w.db.program? id = some p) :
    tryAlone source w (loadRewardPerPoint id) = (.ok p.rewardPerPoint.toInt, w) := by
  have hexec : (Stmt.selectRewardPerPoint id).exec source w.db =
      .ok (some p.rewardPerPoint, w.db) := by
    simp only [Stmt.exec, hp]
    rfl
  exact tryAlone_bind_ok (tryAlone_query_ok hexec)

theorem storable_append {s t : String} : Storable (s ++ t) ↔ Storable s ∧ Storable t := by
  simp [Storable, not_or]

theorem storable_toString (n : UInt64) : Storable (toString n) := by
  intro h
  have hdigit : ('\x00').isDigit := Nat.isDigit_of_mem_toDigits (b := 10) (by decide) (by decide)
    (n := n.toNat) (by simpa [toString, Nat.repr] using h)
  exact absurd hdigit (by decide)

/-- The hash of an attestation can be stored. -/
theorem storable_attestationHash (config : AppConfig) (r : AttestationRequest) :
    Storable (attestationHash config r) := by
  unfold attestationHash
  rw [storable_append, storable_append, storable_append]
  refine ⟨⟨⟨?_, storable_toString _⟩, by decide⟩, storable_toString _⟩
  split_ifs <;> decide

/-! ### Recording a payout -/

/-- Recording a payout fails and changes nothing when the number does not fit a `BIGINT`. -/
theorem run_persistPayout_big (source : UuidSource) (w : World) (id : Uuid)
    {merge : MergeAttestation} (address txHash : String) (amount : Int64)
    (hpr : 2 ^ 63 ≤ merge.prNumber.toNat) :
    ∃ err, tryAlone source w (persistPayout id merge address amount.toInt txHash) =
      (.error err, w) := by
  refine ⟨.internal "pr_number overflow", ?_⟩
  have hnone : i64TryFrom merge.prNumber.toNat = none := i64TryFrom_eq_none.2 (by omega)
  unfold persistPayout
  rw [i64TryFrom_toInt, hnone]
  rfl

/-- It succeeds for a registered contributor whose pull request has no payout yet. -/
theorem run_persistPayout (source : UuidSource) {merge : MergeAttestation} {p : ProgramRow}
    {r : ContributorRow} {txHash : String} (hpoints : merge.points = 1)
    (hpr : merge.prNumber.toNat < 2 ^ 63) (hp : p ∈ w.db.programs)
    (hr : w.db.contributor? p.id merge.githubUsername = some r)
    (hnew : w.db.payout? p.id (saturate merge.prNumber) = none) (htxHash : Storable txHash) :
    ∃ row db', tryAlone source w (persistPayout p.id merge r.stellarAddress.val
        p.rewardPerPoint.toInt txHash) = (.ok row.id, { w with db := db' }) ∧
      w.db.AddsPayout db' row ∧ row.programId = p.id ∧ row.prNumber = saturate merge.prNumber ∧
      row.amount = p.rewardPerPoint := by
  obtain ⟨n, hn⟩ : ∃ n, i64TryFrom merge.prNumber.toNat = some n := by
    cases h : i64TryFrom merge.prNumber.toNat with
    | none =>
      rw [i64TryFrom_eq_none] at h
      omega
    | some n => exact ⟨n, rfl⟩
  have hsat : saturate merge.prNumber = n := by simp [saturate, hn]
  rw [hsat] at hnew ⊢
  have husername : Storable merge.githubUsername := by
    rw [← ((w.db.contributor?_eq_some).1 hr).2.2]
    exact r.githubUsername.storable
  obtain ⟨pid, db', hinsert⟩ := Db.insertPayout_succeeds source husername
    r.stellarAddress.storable htxHash p.reward_pos
    (show 0 < pointsColumn merge.points by rw [hpoints]; decide) hnew ⟨p, hp, rfl⟩
  obtain ⟨row, hadds, rfl, hprogram, hnumber, -, -, -, hamount, -⟩ := Db.insertPayout_ok hinsert
  refine ⟨row, db', ?_, hadds, hprogram, hnumber, hamount⟩
  unfold persistPayout
  rw [i64TryFrom_toInt, hn]
  exact tryAlone_query_ok hinsert

/-- The new balances fit their columns. -/
def BalancesFit (p : ProgramRow) (amount : Int64) : Prop :=
  p.milestoneSpent.toInt + amount.toInt < 2 ^ 63 ∧ -2 ^ 63 ≤ p.escrowBalance.toInt - amount.toInt

/-- The milestone is raised exactly when the new balances fit. -/
theorem updateMilestoneSpent_fits {db : Db} {id : Uuid} {p : ProgramRow} {amount : Int64}
    (hpos : 0 < amount) (hp : db.program? id = some p) (hfit : BalancesFit p amount) :
    ∃ spent escrow, spent.toInt = p.milestoneSpent.toInt + amount.toInt ∧
      db.updateMilestoneSpent amount id = .ok (1, db.setBalances id spent escrow) := by
  have hpos : 0 < amount.toInt := Int64.lt_iff_toInt_lt.1 hpos
  obtain ⟨spent, hspent⟩ : ∃ k, i64TryFrom (p.milestoneSpent.toInt + amount.toInt) = some k := by
    cases h : i64TryFrom (p.milestoneSpent.toInt + amount.toInt) with
    | none =>
      have := p.milestoneSpent.le_toInt
      rw [i64TryFrom_eq_none] at h
      have := hfit.1
      omega
    | some k => exact ⟨k, rfl⟩
  obtain ⟨rest, hrest⟩ : ∃ k, i64TryFrom (p.escrowBalance.toInt - amount.toInt) = some k := by
    cases h : i64TryFrom (p.escrowBalance.toInt - amount.toInt) with
    | none =>
      have := p.escrowBalance.toInt_lt
      rw [i64TryFrom_eq_none] at h
      have := hfit.2
      omega
    | some k => exact ⟨k, rfl⟩
  refine ⟨spent, max rest 0, i64TryFrom_eq_some.1 hspent, ?_⟩
  simp only [Db.updateMilestoneSpent, hp, hspent, hrest]

theorem updateMilestoneSpent_big {db : Db} {id : Uuid} {p : ProgramRow} {amount : Int64}
    (hp : db.program? id = some p) (hfit : ¬ BalancesFit p amount) :
    db.updateMilestoneSpent amount id = .error .outOfRange := by
  simp only [Db.updateMilestoneSpent, hp]
  split
  · rename_i spent rest hspent hrest
    rw [i64TryFrom_eq_some] at hspent hrest
    refine absurd ⟨?_, ?_⟩ hfit
    · rw [← hspent]
      exact spent.toInt_lt
    · rw [← hrest]
      exact rest.le_toInt
  · rfl

theorem run_incrementMilestoneSpent (source : UuidSource) {p : ProgramRow} {amount : Int64}
    (hpos : 0 < amount) (hp : w.db.program? p.id = some p) (hfit : BalancesFit p amount) :
    ∃ spent escrow, spent.toInt = p.milestoneSpent.toInt + amount.toInt ∧
      tryAlone source w (incrementMilestoneSpent p.id amount.toInt) =
        (.ok (), { w with db := w.db.setBalances p.id spent escrow }) := by
  obtain ⟨spent, escrow, hspent, hupdate⟩ := updateMilestoneSpent_fits hpos hp hfit
  refine ⟨spent, escrow, hspent, ?_⟩
  unfold incrementMilestoneSpent
  rw [i64TryFrom_toInt]
  exact tryAlone_bind_ok (tryAlone_query_ok hupdate)

theorem run_incrementMilestoneSpent_big (source : UuidSource) {p : ProgramRow} {amount : Int64}
    (hp : w.db.program? p.id = some p) (hfit : ¬ BalancesFit p amount) :
    ∃ err, tryAlone source w (incrementMilestoneSpent p.id amount.toInt) = (.error err, w) := by
  refine ⟨databaseError .outOfRange, ?_⟩
  unfold incrementMilestoneSpent
  rw [i64TryFrom_toInt]
  exact tryAlone_bind_error (tryAlone_query_error (updateMilestoneSpent_big hp hfit))

/-! ### The audit row -/

section Audit

variable (source : UuidSource) (w : World) (delivery : Option String) (eventType repo : String)
  (number : Option UInt64) (payload : Json) (status : EventStatus) (error : Option String)

theorem run_persistWebhookEvent (heventType : Storable eventType) (hrepo : Storable repo)
    (hrepofits : w.db.server.Fits (.text repo)) (hpayload : payload.storable)
    (herror : ∀ text, error = some text → Storable text)
    (hdelivery : ∀ d, delivery = some d →
      Storable d ∧ w.db.server.Fits (.text d) ∧ w.db.webhookEvent? d = none) :
    ∃ row db', tryAlone source w
        (persistWebhookEvent delivery eventType repo number payload status error) =
          (.ok (), { w with db := db' }) ∧
      w.db.AddsEvent db' row ∧ row.status = status ∧ row.prNumber = number.map saturate := by
  obtain ⟨db', hinsert⟩ := Db.insertWebhookEvent_succeeds source w.db delivery eventType repo
    (number.map saturate) payload status error heventType hrepo hrepofits hpayload herror hdelivery
  obtain ⟨row, hadds, -, -, -, hnumber, -, hstatus, -⟩ := Db.insertWebhookEvent_ok hinsert
  refine ⟨row, db', tryAlone_query_ok ?_, hadds, hstatus, hnumber⟩
  simp only [Stmt.exec, hinsert]
  rfl

/-- An audit row cannot be added for a delivery that has one, nor with a payload that `JSONB` does
not take. -/
theorem run_persistWebhookEvent_fails
    (h : payload.storable = false ∨ ∃ d, delivery = some d ∧ w.db.webhookEvent? d ≠ none) :
    ∃ err, tryAlone source w
      (persistWebhookEvent delivery eventType repo number payload status error) =
        (.error err, w) := by
  cases hinsert : w.db.insertWebhookEvent source delivery eventType repo (number.map saturate)
      payload status error with
  | error e =>
    refine ⟨databaseError e, tryAlone_query_error ?_⟩
    simp only [Stmt.exec, hinsert]
    rfl
  | ok db' =>
    exfalso
    rcases h with hpayload | ⟨d, rfl, hseen⟩
    · obtain ⟨row, -, -, -, -, -, hrow, -⟩ := Db.insertWebhookEvent_ok hinsert
      have := row.payload.storable
      rw [hrow, hpayload] at this
      cases this
    · exact Db.insertWebhookEvent_seen source w.db hseen hinsert

end Audit

/-! ### Recording a merge -/

/-- What recording the payout of a merge needs. -/
structure Recordable (p : ProgramRow) (merge : MergeAttestation) (payload : Json)
    (deliveryId : Option String) : Prop where
  unclaimed : deliveryId = none
  number : merge.prNumber.toNat < 2 ^ 63
  balances : BalancesFit p p.rewardPerPoint
  payload : payload.storable

/-- What a merge that was processed leaves behind in the database. -/
structure Recorded (db db' : Db) : Prop where
  payout : ∃ row, db'.payouts.rows = db.payouts.rows ++ [row] ∧
    ∃ p ∈ db.programs, ∃ p' ∈ db'.programs, p.id = row.programId ∧ p'.id = row.programId ∧
      p'.milestoneSpent.toInt = p.milestoneSpent.toInt + row.amount.toInt
  audit : ∃ row, db'.webhookEvents.rows = db.webhookEvents.rows ++ [row] ∧ row.status = .processed

section Record

variable {merge : MergeAttestation} {p : ProgramRow} {r : ContributorRow} {txHash : String}
  {payload : Json} {deliveryId : Option String}

theorem run_recordMerge (source : UuidSource) (w : World) (hpoints : merge.points = 1)
    (hp : p ∈ w.db.programs)
    (hrepo : p.githubRepo.val = merge.githubRepo)
    (hr : w.db.contributor? p.id merge.githubUsername = some r)
    (hnew : w.db.payout? p.id (saturate merge.prNumber) = none) (htxHash : Storable txHash)
    (h : Recordable p merge payload deliveryId) :
    ∃ id db', tryAlone source w (recordMerge merge p.id r.stellarAddress.val p.rewardPerPoint.toInt
        txHash payload deliveryId) = (.ok id, { w with db := db' }) ∧ Recorded w.db db' := by
  obtain ⟨rfl, hnumber, hfit, hpayload⟩ := h
  obtain ⟨row, db₁, hpersist, hadds, hprogram, hpr, hamount⟩ :=
    run_persistPayout source hpoints hnumber hp hr hnew htxHash
  have hp₁ : db₁.program? p.id = some p := by
    rw [Db.program?_eq_some, hadds.programs]
    exact ⟨hp, rfl⟩
  obtain ⟨spent, escrow, hspent, hincrement⟩ := run_incrementMilestoneSpent source
    (w := { w with db := db₁ }) p.reward_pos hp₁ hfit
  have hprogram' : HasProgram db₁ merge.githubRepo := HasProgram.grows ⟨p, hp, hrepo⟩ hadds.grows
  obtain ⟨audit, db₂, haudit, haddsEvent, hstatus, -⟩ := run_persistWebhookEvent source
    { w with db := db₁.setBalances p.id spent escrow } none "pull_request" merge.githubRepo
    (some merge.prNumber) payload .processed none (by decide) hprogram'.storable hprogram'.fits hpayload (by simp)
    (by simp)
  refine ⟨row.id, db₂, ?_, ?_, ?_⟩
  · unfold recordMerge
    rw [tryAlone_bind_ok hpersist, tryAlone_bind_ok hincrement, tryAlone_bind_ok haudit]
    rfl
  · refine ⟨row, ?_, p, hp, p.withBalances spent escrow, ?_, hprogram.symm, hprogram.symm, ?_⟩
    · rw [haddsEvent.payouts]
      exact hadds.payouts
    · rw [haddsEvent.programs]
      refine List.mem_map.2 ⟨p, ?_, if_pos rfl⟩
      rw [hadds.programs]
      exact hp
    · rw [hamount]
      exact hspent
  · refine ⟨audit, ?_, hstatus⟩
    rw [haddsEvent.webhookEvents]
    exact congrArg (fun t => t.rows ++ [audit]) hadds.webhookEvents

/-- A merge that cannot be recorded ends in an error. -/
theorem run_recordMerge_fails (source : UuidSource) (w : World) (hpoints : merge.points = 1)
    (hp : p ∈ w.db.programs) (hr : w.db.contributor? p.id merge.githubUsername = some r)
    (hnew : w.db.payout? p.id (saturate merge.prNumber) = none) (htxHash : Storable txHash)
    (hreserved : ∀ d, deliveryId = some d → w.db.webhookEvent? d ≠ none)
    (h : ¬ Recordable p merge payload deliveryId) :
    ∃ err db', tryAlone source w (recordMerge merge p.id r.stellarAddress.val
        p.rewardPerPoint.toInt txHash payload deliveryId) = (.error err, { w with db := db' }) := by
  unfold recordMerge
  rcases Nat.lt_or_ge merge.prNumber.toNat (2 ^ 63) with hnumber | hnumber
  · obtain ⟨row, db₁, hpersist, hadds, -⟩ :=
      run_persistPayout source hpoints hnumber hp hr hnew htxHash
    have hp₁ : db₁.program? p.id = some p := by
      rw [Db.program?_eq_some, hadds.programs]
      exact ⟨hp, rfl⟩
    rw [tryAlone_bind_ok hpersist]
    by_cases hfit : BalancesFit p p.rewardPerPoint
    · obtain ⟨spent, escrow, -, hincrement⟩ := run_incrementMilestoneSpent source
        (w := { w with db := db₁ }) p.reward_pos hp₁ hfit
      obtain ⟨err, haudit⟩ := run_persistWebhookEvent_fails source
        { w with db := db₁.setBalances p.id spent escrow } deliveryId "pull_request"
        merge.githubRepo (some merge.prNumber) payload .processed none <| by
          by_contra hno
          rw [not_or] at hno
          refine h ⟨?_, hnumber, hfit, by simpa using hno.1⟩
          by_contra hdelivery
          obtain ⟨d, rfl⟩ := Option.ne_none_iff_exists'.1 hdelivery
          refine hno.2 ⟨d, rfl, ?_⟩
          show db₁.webhookEvent? d ≠ none
          rw [Db.webhookEvent?, hadds.webhookEvents]
          exact hreserved d rfl
      exact ⟨err, _, by rw [tryAlone_bind_ok hincrement, tryAlone_bind_error haudit]⟩
    · obtain ⟨err, hincrement⟩ := run_incrementMilestoneSpent_big source
        (w := { w with db := db₁ }) hp₁ hfit
      exact ⟨err, _, by rw [tryAlone_bind_error hincrement]⟩
  · obtain ⟨err, hpersist⟩ := run_persistPayout_big source w p.id r.stellarAddress.val txHash
      p.rewardPerPoint hnumber
    exact ⟨err, w.db, by rw [tryAlone_bind_error hpersist]⟩

end Record

/-! ### Merges that are not attested -/

section Unattested

variable {config : AppConfig} {event : GitHubPullRequestEvent} {merge : MergeAttestation}
  {payload : Json} {deliveryId : Option String}

theorem run_parseMergeEvent (source : UuidSource) (w : World)
    (hparse : parseMergeEvent event = .ok merge) :
    tryAlone source w (ofResult (parseMergeEvent event)) = (.ok merge, w) := by
  rw [hparse]
  rfl

theorem run_processMerge_inactive (source : UuidSource) (config : AppConfig) (payload : Json)
    (deliveryId : Option String) (hparse : parseMergeEvent event = .ok merge)
    (hp : w.db.activeProgram? merge.githubRepo = none) :
    ∃ err, tryAlone source w (processMerge config event payload deliveryId) = (.error err, w) ∧
      err.isValidation = false := by
  obtain ⟨err, hresolve, hkind⟩ := run_resolveProgramId_none source hp
  refine ⟨err, ?_, hkind⟩
  unfold processMerge
  rw [tryAlone_bind_ok (run_parseMergeEvent source w hparse), tryAlone_bind_error hresolve]

theorem run_processMerge_paid (source : UuidSource) (config : AppConfig)
    (hparse : parseMergeEvent event = .ok merge) {p : ProgramRow} {row : PayoutRow}
    (hp : w.db.activeProgram? merge.githubRepo = some p)
    (hrow : w.db.payout? p.id (saturate merge.prNumber) = some row) :
    tryAlone source w (processMerge config event payload deliveryId) =
      (.ok (alreadyProcessed p.id merge.prNumber (some row.id)), w) := by
  obtain ⟨hmem, -, hactive⟩ := (w.db.activeProgram?_eq_some).1 hp
  have hid : w.db.program? p.id = some p := (w.db.program?_eq_some).2 ⟨hmem, rfl⟩
  unfold processMerge
  rw [tryAlone_bind_ok (run_parseMergeEvent source w hparse),
    tryAlone_bind_ok (run_resolveProgramId hp), tryAlone_bind_ok (run_loadProgramStatus hid),
    hactive, if_neg (by decide), tryAlone_bind_ok (run_payoutExists _ _), hrow]
  simp only [Option.isSome_some, if_true]
  rw [tryAlone_bind_ok (run_fetchPayoutId _ _), hrow]
  rfl

end Unattested

end WaveFlow
