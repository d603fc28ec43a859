import WaveFlow.Gateway.Replay

/-!
# Merges for a paused program

`process_merge` means to ignore them: it raises a `Validation` error when the status that it loads
is paused. But the program whose status it loads comes from `resolve_program_id`, which finds active
programs only, so for a paused program the lookup fails first, and with an error that the handler
answers as a failure.
-/

namespace WaveFlow

open Interaction Postgres

variable {C : Crates} {config : AppConfig} {req : Request} {merge : MergeAttestation}
  {p : ProgramRow} {w : World}

/-- The answer is 200 with status `ignored`, and nothing was attested, paid or changed in a
program. -/
structure Ignored (w : World) (r : Response × World) : Prop extends Acknowledged w r where
  ignored : r.1.body.textAt "status" = some "ignored"

/-! ### What each function does -/

/-- The lookup of a repo whose program is not active. -/
theorem run_resolveProgramId_missing (source : UuidSource) {repo : String} (hrepo : Storable repo)
    (hp : w.db.activeProgram? repo = none) :
    tryAlone source w (resolveProgramId repo) =
      (.error (.notFound ("no active program for repo " ++ repo)), w) := by
  have hexec : (Stmt.selectActiveProgram repo).exec source w.db = .ok (none, w.db) := by
    simp only [Stmt.exec, Text.ofParam_of_storable hrepo, hp]
    rfl
  exact tryAlone_bind_ok (tryAlone_query_ok hexec)

/-- Such a merge fails before the check of the status. -/
theorem run_processMerge_missing (source : UuidSource) (config : AppConfig)
    {event : GitHubPullRequestEvent} (payload : Json) (deliveryId : Option String)
    (hparse : parseMergeEvent event = .ok merge) (hrepo : Storable merge.githubRepo)
    (hp : w.db.activeProgram? merge.githubRepo = none) :
    tryAlone source w (processMerge config event payload deliveryId) =
      (.error (.notFound ("no active program for repo " ++ merge.githubRepo)), w) := by
  unfold processMerge
  rw [tryAlone_bind_ok (run_parseMergeEvent source w hparse),
    tryAlone_bind_error (run_resolveProgramId_missing source hrepo hp)]

/-- A failed merge leaves an audit row at most. -/
theorem answerMerge_sameButAudit (source : UuidSource) (w : World) (eventType : String)
    (deliveryId : Option String) (payload : Json) {err : WaveFlowError}
    (h : err.isValidation = false) :
    SameButAudit
      (runAlone source w (answerMerge eventType deliveryId payload (.error err))).2 w := by
  have hbump : SameButAudit (w.bump .webhookFailed) w := ⟨rfl, rfl, rfl, rfl, rfl⟩
  simp only [answerMerge, h, Bool.false_eq_true, if_false, runAlone, Prog.run_bind]
  show SameButAudit (tryAlone source (w.bump .webhookFailed) (persistWebhookEvent deliveryId
    eventType (payloadRepo payload) (payloadNumber payload) payload .failed (some err.toText))).2 w
  unfold persistWebhookEvent
  rw [tryAlone_query_world]
  exact sameButAudit_insertWebhookEvent.trans hbump

/-- A repo has one program; while it is paused there is no active one. -/
theorem activeProgram?_of_paused {db : Db} (hp : p ∈ db.programs) (hpaused : p.status = .paused) :
    db.activeProgram? p.githubRepo.val = none := by
  rw [Option.eq_none_iff_forall_ne_some]
  intro q hq
  obtain ⟨hmem, hrepo, hactive⟩ := db.activeProgram?_eq_some.1 hq
  obtain rfl := db.program_eq_of_repo hmem hp (Text.eq_of_val hrepo)
  rw [hpaused] at hactive
  cases hactive

/-! ### The handler -/

/-- The answer to a merge for a paused program, and what is left of it. -/
theorem handleBody_paused (config : AppConfig) (hmerge : req.merge? C = some merge)
    (hp : p ∈ w.db.programs)
    (hrepo : p.githubRepo.val = merge.githubRepo) (hpaused : p.status = .paused) :
    (runAlone C.uuids w (handleBody C config req)).1 =
        mapError (.notFound ("no active program for repo " ++ merge.githubRepo)) ∧
      SameButAudit (runAlone C.uuids w (handleBody C config req)).2 w := by
  obtain ⟨payload, event, hbody, htype, hevent, hparse⟩ := Request.merge?_eq_some.1 hmerge
  have hstorable : Storable merge.githubRepo := hrepo ▸ p.githubRepo.storable
  have hnone : w.db.activeProgram? merge.githubRepo = none :=
    hrepo ▸ activeProgram?_of_paused hp hpaused
  rw [run_handleBody_pullRequest hbody htype hevent,
    run_processMerge_missing C.uuids config payload req.deliveryId hparse hstorable hnone]
  constructor
  · exact run_answerMerge_failed _ _ _ _ _ rfl
  · exact answerMerge_sameButAudit _ _ _ _ _ rfl

/-- **A merge for a paused program is never ignored**: whatever the delivery id, if it is not known
yet, and whether or not the pull request was paid before, it changes nothing but audit rows and is
answered with an error. When it is admissible the error is 404, as for a repo without a program. -/
theorem paused_merge_not_ignored (hsigned : req.Signed C config)
    (hmerge : req.merge? C = some merge) (hp : p ∈ w.db.programs)
    (hrepo : p.githubRepo.val = merge.githubRepo) (hpaused : p.status = .paused)
    (hfresh : ∀ d, req.deliveryId = some d → ¬ w.Seen d) :
    let r := handle C config w req
    (req.Admissible w.db.server →
        r.1 = mapError (.notFound ("no active program for repo " ++ merge.githubRepo)) ∧
          r.1.status = 404) ∧
      (¬ req.Admissible w.db.server → r.1.status ∈ [409, 413, 500]) ∧
      SameButAudit r.2 w ∧ ¬ Ignored w r := by
  have hadmitted : req.Admissible w.db.server →
      (handle C config w req).1 =
          mapError (.notFound ("no active program for repo " ++ merge.githubRepo)) ∧
        SameButAudit (handle C config w req).2 w := by
    intro hadmissible
    obtain ⟨t, ht, hhandle⟩ := handle_admitted hsigned hadmissible hfresh
    have hmem : p ∈ t.db.programs := by
      rw [ht.programs]
      exact hp
    obtain ⟨hanswer, hsame⟩ := handleBody_paused config hmerge hmem hrepo hpaused
    rw [hhandle]
    exact ⟨hanswer, hsame.trans ht⟩
  have hrefused := fun h : ¬ req.Admissible w.db.server => handle_not_admitted hsigned h hfresh
  intro r
  refine ⟨fun h => ⟨(hadmitted h).1, by rw [(hadmitted h).1]; rfl⟩, fun h => (hrefused h).1, ?_,
    fun hignored => ?_⟩
  · by_cases h : req.Admissible w.db.server
    · exact (hadmitted h).2
    · exact (hrefused h).2
  · have hok := hignored.status
    by_cases h : req.Admissible w.db.server
    · rw [(hadmitted h).1] at hok
      cases hok
    · have hmem := (hrefused h).1
      rw [hok] at hmem
      exact absurd hmem (by decide)

/-! ### A pause before the first merge -/

namespace Setup

/-- A program is created, the author registered, and the program paused before any merge. -/
def pausedEarly : List Call :=
  [ .admin (.createProgram ⟨1, "StellarRoute/WaveFlow", account, 100, none⟩), registration,
    .admin (.pauseProgram program.1) ]

/-- The program of the repo is paused, and no pull request was paid. -/
def pausedFor (w : World) (p : ProgramRow) : Bool :=
  p.githubRepo.val = merged.githubRepo ∧ p.status = .paused ∧ w.db.payouts.rows.isEmpty

theorem exists_paused {w : World} (h : w.db.programs.rows.any (pausedFor w)) :
    ∃ p ∈ w.db.programs, p.githubRepo.val = merged.githubRepo ∧ p.status = .paused ∧
      w.db.payouts.rows = [] := by
  obtain ⟨p, hp, hpaused⟩ := List.any_eq_true.1 h
  simp only [pausedFor, decide_eq_true_eq, List.isEmpty_iff] at hpaused
  exact ⟨p, hp, hpaused⟩

theorem any_pausedFor :
    let w := after crates Setup.config start pausedEarly
    w.db.programs.rows.any (pausedFor w) := by
  decide +kernel

end Setup

/-- The first merge of a repo after its program was paused. -/
theorem paused_merge_not_ignored_setup :
    let w := after Setup.crates Setup.config Setup.start Setup.pausedEarly
    ∃ p ∈ w.db.programs, p.githubRepo.val = Setup.merged.githubRepo ∧ p.status = .paused ∧
      let r := handle Setup.crates Setup.config w Setup.anonymous
      (Setup.anonymous.Admissible w.db.server →
          r.1 = mapError (.notFound ("no active program for repo " ++ Setup.merged.githubRepo)) ∧
            r.1.status = 404) ∧
        (¬ Setup.anonymous.Admissible w.db.server → r.1.status ∈ [409, 413, 500]) ∧
        SameButAudit r.2 w ∧ ¬ Ignored w r := by
  obtain ⟨p, hp, hrepo, hpaused, -⟩ := Setup.exists_paused Setup.any_pausedFor
  exact ⟨p, hp, hrepo, hpaused, paused_merge_not_ignored (Setup.signed_deliver none)
    (Setup.merge?_deliver _ _) hp hrepo hpaused (fun d hd => by cases hd)⟩

/-- It is answered 404, and counted as failed. -/
theorem paused_merge_failed :
    let w := after Setup.crates Setup.config Setup.start Setup.pausedEarly
    let r := handle Setup.crates Setup.config w Setup.anonymous
    Setup.anonymous.Signed Setup.crates Setup.config ∧
      Setup.anonymous.merge? Setup.crates = some Setup.merged ∧
      Setup.anonymous.deliveryId = none ∧
      (∃ p ∈ w.db.programs, p.githubRepo.val = Setup.merged.githubRepo ∧ p.status = .paused ∧
        w.db.payouts.rows = []) ∧
      r.1.status = 404 ∧ r.2.counters .webhookFailed = 1 ∧ r.2.counters .webhookIgnored = 0 ∧
      ¬ Ignored w r := by
  have hend : ∀ r, r = handle Setup.crates Setup.config
        (after Setup.crates Setup.config Setup.start Setup.pausedEarly) Setup.anonymous →
      r.1.status = 404 ∧ r.2.counters .webhookFailed = 1 ∧ r.2.counters .webhookIgnored = 0 := by
    intro r hr
    rw [hr]
    decide +kernel
  intro w r
  obtain ⟨hstatus, hfailed, hnot⟩ := hend r rfl
  refine ⟨Setup.signed_deliver none, Setup.merge?_deliver _ _, rfl,
    Setup.exists_paused Setup.any_pausedFor, hstatus, hfailed, hnot, fun hignored => ?_⟩
  have hok : 404 = 200 := hstatus.symm.trans hignored.status
  exact absurd hok (by decide)

end WaveFlow
