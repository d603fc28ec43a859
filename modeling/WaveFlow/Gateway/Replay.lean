import WaveFlow.Gateway.Redelivery

/-!
# Is a replay acknowledged after the payout?

A merge that has a payout is looked up through the program of its repo, and `resolve_program_id` only
finds active programs. While the program is paused a replay is answered as if there were no program,
before the check of the status and the lookup of the payout; only a delivery id that was seen before
is answered earlier. A new one has to be reserved first, which fails when it is too long for its
index.
-/

namespace WaveFlow

open Interaction Postgres

variable {C : Crates} {config : AppConfig} {req : Request} {merge : MergeAttestation}
  {p : ProgramRow} {w : World}

/-- The world after a sequence of requests and admin calls, each handled to its end. -/
def after (C : Crates) (config : AppConfig) (w : World) : List Call → World
  | [] => w
  | call :: rest => after C config (runAlone C.uuids w (call.handler C config)).2 rest

/-- The pull request of a merge has a payout, booked for the program of its repo. -/
structure MergePaid (db : Db) (merge : MergeAttestation) (p : ProgramRow) : Prop where
  program : p ∈ db.programs
  repo : p.githubRepo.val = merge.githubRepo
  payout : ∃ row ∈ db.payouts, row.programId = p.id ∧ row.prNumber.toInt = merge.prNumber.toNat

/-- The answer is 200, and nothing was attested, paid or changed in a program. -/
structure Acknowledged (w : World) (r : Response × World) : Prop where
  status : r.1.status = 200
  attestations : r.2.attestations = w.attestations
  payouts : r.2.db.payouts = w.db.payouts
  programs : r.2.db.programs = w.db.programs

/-! ### The lookups of a merge that is paid -/

theorem WaveFlowError.httpStatusCode_ne_ok (err : WaveFlowError) : err.httpStatusCode ≠ 200 := by
  cases err <;> simp [WaveFlowError.httpStatusCode]

/-- An error that is not to be ignored is the answer. -/
theorem run_answerMerge_failed (source : UuidSource) (w : World) (eventType : String)
    (deliveryId : Option String) (payload : Json) {err : WaveFlowError}
    (h : err.isValidation = false) :
    (runAlone source w (answerMerge eventType deliveryId payload (.error err))).1 =
      mapError err := by
  simp only [answerMerge, h, Bool.false_eq_true, if_false, runAlone, Prog.run_bind]
  rfl

/-- A number with a payout fits the column. -/
theorem MergePaid.payout? (h : MergePaid w.db merge p) :
    ∃ row, w.db.payout? p.id (saturate merge.prNumber) = some row := by
  obtain ⟨row, hrow, hprogram, hnumber⟩ := h.payout
  exact Option.ne_none_iff_exists'.1 (w.db.payout?_ne_none.2 ⟨row, hrow, hprogram,
    (saturate_eq hnumber).symm⟩)

theorem MergePaid.activeProgram? (h : MergePaid w.db merge p) :
    w.db.activeProgram? merge.githubRepo = if p.status = .active then some p else none := by
  split_ifs with hactive
  · exact w.db.activeProgram?_eq_some.2 ⟨h.program, h.repo, hactive⟩
  · rw [Option.eq_none_iff_forall_ne_some]
    intro q hq
    obtain ⟨hmem, hrepo, hstatus⟩ := w.db.activeProgram?_eq_some.1 hq
    obtain rfl := w.db.program_eq_of_repo hmem h.program
      (Text.eq_of_val (hrepo.trans h.repo.symm))
    exact hactive hstatus

/-- Audit rows do not decide what is paid. -/
theorem MergePaid.of_same {s t : World} (h : MergePaid s.db merge p) (hsame : SameButAudit t s) :
    MergePaid t.db merge p where
  program := by
    rw [hsame.programs]
    exact h.program
  repo := h.repo
  payout := by
    rw [hsame.payouts]
    exact h.payout

/-- What was acknowledged before the delivery id was reserved. -/
theorem Acknowledged.of_same {s t : World} {r : Response × World} (h : Acknowledged t r)
    (hsame : SameButAudit t s) : Acknowledged s r :=
  ⟨h.status, h.attestations.trans hsame.attestations, h.payouts.trans hsame.payouts,
    h.programs.trans hsame.programs⟩

/-! ### Replays -/

/-- The body of a replay is acknowledged exactly when the program is active. -/
theorem handleBody_acknowledged (hmerge : req.merge? C = some merge)
    (hpaid : MergePaid w.db merge p) :
    Acknowledged w (runAlone C.uuids w (handleBody C config req)) ↔ p.status = .active := by
  obtain ⟨payload, event, hbody, htype, hevent, hparse⟩ := Request.merge?_eq_some.1 hmerge
  rw [run_handleBody_pullRequest hbody htype hevent]
  have hprogram := hpaid.activeProgram?
  by_cases hactive : p.status = .active
  · rw [if_pos hactive] at hprogram
    obtain ⟨row, hrow⟩ := hpaid.payout?
    rw [run_processMerge_paid C.uuids config hparse hprogram hrow]
    exact iff_of_true ⟨rfl, rfl, rfl, rfl⟩ hactive
  · rw [if_neg hactive] at hprogram
    obtain ⟨err, hrun, hkind⟩ :=
      run_processMerge_inactive C.uuids config payload req.deliveryId hparse hprogram
    rw [hrun]
    refine iff_of_false (fun hack => err.httpStatusCode_ne_ok ?_) hactive
    have hstatus := hack.status
    rw [run_answerMerge_failed _ _ _ _ _ hkind] at hstatus
    exact hstatus

/-- A signed request that gets in comes to its body, and only an audit row may be added by then. -/
theorem handle_admitted (hsigned : req.Signed C config) (hadmissible : req.Admissible w.db.server)
    (hfresh : ∀ d, req.deliveryId = some d → ¬ w.Seen d) :
    ∃ t, SameButAudit t w ∧
      handle C config w req = runAlone C.uuids t (handleBody C config req) := by
  have hbump : SameButAudit (w.bump .webhook) w := ⟨rfl, rfl, rfl, rfl, rfl⟩
  rw [handle_bodyFits hadmissible.1, run_githubWebhook_signed hsigned]
  cases hdelivery : req.deliveryId with
  | none => exact ⟨w.bump .webhook, hbump, rfl⟩
  | some d =>
    obtain ⟨row, db', hrun, hadds, -⟩ := run_reserveDelivery_new C.uuids (w := w.bump .webhook)
      (Request.storable_header hdelivery) (hadmissible.2 d hdelivery) req.storable_eventType
      (hfresh d hdelivery)
    rw [hrun]
    exact ⟨_, (SameButAudit.of_addsEvent hadds).trans hbump, rfl⟩

/-- One that does not is answered with an error, and nothing is stored. -/
theorem handle_not_admitted (hsigned : req.Signed C config)
    (hrefused : ¬ req.Admissible w.db.server)
    (hfresh : ∀ d, req.deliveryId = some d → ¬ w.Seen d) :
    (handle C config w req).1.status ∈ [409, 413, 500] ∧
      SameButAudit (handle C config w req).2 w := by
  by_cases hfits : req.BodyFits
  · obtain ⟨d, hdelivery, hlarge⟩ : ∃ d, req.deliveryId = some d ∧ ¬ w.db.server.Fits (.text d) := by
      by_contra hnone
      exact hrefused ⟨hfits, fun d hd => by_contra fun hlarge => hnone ⟨d, hd, hlarge⟩⟩
    rw [handle_bodyFits hfits, run_githubWebhook_signed hsigned, hdelivery,
      run_reserveDelivery_refused C.uuids (w := w.bump .webhook) (Request.storable_header hdelivery)
        hlarge req.storable_eventType (hfresh d hdelivery)]
    refine ⟨?_, rfl, rfl, rfl, rfl, rfl⟩
    show (claimRefused w.db.server d).status ∈ [409, 413, 500]
    rcases status_claimRefused w.db.server d with hstatus | hstatus <;> simp [hstatus]
  · rw [handle_oversized hfits]
    exact ⟨by simp [payloadTooLarge], .refl w⟩

/-- The same for the handler, in any world. -/
theorem handle_acknowledged (hsigned : req.Signed C config) (hmerge : req.merge? C = some merge)
    (hpaid : MergePaid w.db merge p) :
    Acknowledged w (handle C config w req) ↔
      (p.status = .active ∧ req.Admissible w.db.server) ∨
        req.BodyFits ∧ ∃ d, req.deliveryId = some d ∧ w.Seen d := by
  by_cases hseen : ∃ d, req.deliveryId = some d ∧ w.Seen d
  · by_cases hfits : req.BodyFits
    · -- It is answered as a duplicate, whatever the program's status is.
      refine iff_of_true ?_ (.inr ⟨hfits, hseen⟩)
      obtain ⟨d, hdelivery, hseen⟩ := hseen
      rw [handle_bodyFits hfits, run_githubWebhook_signed hsigned, hdelivery,
        run_reserveDelivery_seen C.uuids (w := w.bump .webhook) (Request.storable_header hdelivery)
          hseen]
      exact ⟨rfl, rfl, rfl, rfl⟩
    · rw [handle_oversized hfits]
      refine iff_of_false (fun hack => ?_) ?_
      · cases hack.status
      · rintro (⟨-, hadmissible⟩ | ⟨hbody, -⟩)
        · exact hfits hadmissible.1
        · exact hfits hbody
  · have hfresh : ∀ d, req.deliveryId = some d → ¬ w.Seen d :=
      fun d hd hseen' => hseen ⟨d, hd, hseen'⟩
    rw [or_iff_left fun h => hseen h.2]
    by_cases hadmissible : req.Admissible w.db.server
    · obtain ⟨t, ht, hhandle⟩ := handle_admitted hsigned hadmissible hfresh
      rw [hhandle, and_iff_left hadmissible,
        ← handleBody_acknowledged hmerge (hpaid.of_same ht)]
      exact ⟨fun hack => hack.of_same ht.symm, fun hack => hack.of_same ht⟩
    · refine iff_of_false (fun hack => ?_) fun h => hadmissible h.2
      have hstatus := (handle_not_admitted hsigned hadmissible hfresh).1
      rw [hack.status] at hstatus
      exact absurd hstatus (by decide)

/-- **When a replay is acknowledged**, after any sequence of requests and admin calls: exactly when
its body is within the limit, and the program is active and the index has room for the delivery id,
or the delivery id has been seen. -/
theorem replay_acknowledged (w : World) (calls : List Call) (hsigned : req.Signed C config)
    (hmerge : req.merge? C = some merge)
    (hpaid : MergePaid (after C config w calls).db merge p) :
    Acknowledged (after C config w calls) (handle C config (after C config w calls) req) ↔
      (p.status = .active ∧ req.Admissible (after C config w calls).db.server) ∨
        req.BodyFits ∧ ∃ d, req.deliveryId = some d ∧ (after C config w calls).Seen d :=
  handle_acknowledged hsigned hmerge hpaid

/-! ### Two replays -/

namespace Setup

/-- A delivery of the merge without a delivery id. -/
def anonymous : Request := deliver signature none

/-- A program is created, the author registered, and the merge paid. -/
def untilPaid : List Call :=
  [ .admin (.createProgram ⟨1, "StellarRoute/WaveFlow", account, 100, none⟩), registration,
    .webhook anonymous ]

/-- The program is paused afterwards. -/
def untilPaused : List Call := untilPaid ++ [.admin (.pauseProgram program.1)]

def start : World := ⟨.empty server, [], fun _ => 0⟩

/-- The merge is paid. -/
def paidFor (w : World) (p : ProgramRow) : Bool :=
  p.githubRepo.val = merged.githubRepo ∧ w.db.payouts.rows.any fun row =>
    row.programId = p.id ∧ row.prNumber.toInt = merged.prNumber.toNat

theorem exists_mergePaid {w : World} (h : w.db.programs.rows.any (paidFor w)) :
    ∃ p, MergePaid w.db merged p := by
  obtain ⟨p, hp, hpaid⟩ := List.any_eq_true.1 h
  simp only [paidFor, decide_eq_true_eq, List.any_eq_true] at hpaid
  obtain ⟨hrepo, row, hrow, hprogram, hnumber⟩ := hpaid
  exact ⟨p, hp, hrepo, row, hrow, hprogram, hnumber⟩

theorem paid_untilPaid :
    ∃ p, MergePaid (after crates Setup.config start untilPaid).db merged p :=
  exists_mergePaid (by decide +kernel)

end Setup

/-- The merge is delivered again. -/
theorem replay_acknowledged_setup :
    let w := after Setup.crates Setup.config Setup.start Setup.untilPaid
    ∃ p, MergePaid w.db Setup.merged p ∧
      (Acknowledged w (handle Setup.crates Setup.config w Setup.anonymous) ↔
        (p.status = .active ∧ Setup.anonymous.Admissible w.db.server) ∨
          Setup.anonymous.BodyFits ∧ ∃ d, Setup.anonymous.deliveryId = some d ∧ w.Seen d) := by
  obtain ⟨p, hpaid⟩ := Setup.paid_untilPaid
  exact ⟨p, hpaid, replay_acknowledged Setup.start Setup.untilPaid (Setup.signed_deliver none)
    (Setup.merge?_deliver _ _) hpaid⟩

/-- The program is paused between the payout and the replay: the replay is answered 404. -/
theorem replay_not_acknowledged :
    let w := after Setup.crates Setup.config Setup.start Setup.untilPaused
    let r := handle Setup.crates Setup.config w Setup.anonymous
    Setup.anonymous.Signed Setup.crates Setup.config ∧
      Setup.anonymous.merge? Setup.crates = some Setup.merged ∧
      (∃ p, MergePaid w.db Setup.merged p) ∧ r.1.status = 404 ∧ ¬ Acknowledged w r := by
  have hend : ∀ w r, w = after Setup.crates Setup.config Setup.start Setup.untilPaused →
      r = handle Setup.crates Setup.config w Setup.anonymous →
      w.db.programs.rows.any (Setup.paidFor w) ∧ r.1.status = 404 := by
    intro w r hw hr
    rw [hr, hw]
    decide +kernel
  intro w r
  obtain ⟨hpaid, hstatus⟩ := hend w r rfl rfl
  refine ⟨Setup.signed_deliver none, Setup.merge?_deliver _ _,
    Setup.exists_mergePaid hpaid, hstatus, fun hack => ?_⟩
  have hok : 404 = 200 := hstatus.symm.trans hack.status
  exact absurd hok (by decide)

end WaveFlow
