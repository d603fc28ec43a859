import WaveFlow.Gateway.Redelivery

/-!
# Does the audit table record the outcome?

The row that reserves a delivery id is the only one the partial index admits for it, and every later
write of the handler inserts another one. So none of them succeeds, their results are ignored or end
the handler in an error, and the reservation stays as it was made: at `processing`. A request that
gets no reservation leaves no row at all.
-/

namespace WaveFlow

open Interaction Postgres

variable {C : Crates} {config : AppConfig} {req : Request} {w : World} {d : String}

/-- The status of an audit row matches what became of the request. -/
structure MatchesOutcome (w : World) (r : Response × World) (row : WebhookEventRow) : Prop where
  processed : r.2.db.payouts ≠ w.db.payouts → row.status = .processed
  ignored : r.1.body.textAt "status" = some "ignored" → row.status = .ignored
  failed : r.1.status ≠ 200 → row.status = .failed
  ended : row.status ≠ .processing

/-- The delivery id has an audit row that matches. -/
def Audited (w : World) (d : String) (r : Response × World) : Prop :=
  ∃ row ∈ r.2.db.webhookEvents, row.deliveryId.map Text.val = some d ∧ MatchesOutcome w r row

/-! ### After the reservation -/

/-- No operation adds an audit row once the delivery id has one. -/
theorem exec_webhookEvents_reserved {source : UuidSource} {op : Op} (hop : AuditsFor (some d) op)
    (hseen : w.Seen d) : (op.exec source w).2.db.webhookEvents = w.db.webhookEvents := by
  have hother : ∀ q : Stmt, op = .sql q → ¬ q.Audits →
      (op.exec source w).2.db.webhookEvents = w.db.webhookEvents := by
    rintro q rfl hq
    exact exec_webhookEvents hq
  cases op with
  | attest r => rfl
  | count c => rfl
  | sql q =>
    cases q with
    | selectWebhookEventId => exact absurd hop id
    | insertWebhookEvent own eventType repo number payload status error =>
      obtain rfl : own = some d := hop
      cases hinsert : w.db.insertWebhookEvent source (some d) eventType repo number payload status
          error with
      | error e => rw [Op.exec_sql_error (Stmt.exec_insertWebhookEvent_error hinsert)]
      | ok db' => exact absurd hinsert (Db.insertWebhookEvent_seen source w.db hseen)
    | _ => exact hother _ rfl id

/-- Handling the body leaves the audit table alone. -/
theorem webhookEvents_handleBody (source : UuidSource) (hdelivery : req.deliveryId = some d)
    (hseen : w.Seen d) :
    (runAlone source w (handleBody C config req)).2.db.webhookEvents = w.db.webhookEvents := by
  have honly := handleBody_only C config req
  rw [hdelivery] at honly
  have hkeeps : ∀ (_ : Unit) op w', AuditsFor (some d) op →
      w'.db.webhookEvents = w.db.webhookEvents →
      (op.exec source w').2.db.webhookEvents = w.db.webhookEvents := by
    intro _ op w' hop hw'
    have hseen' : w'.Seen d := by
      rw [World.Seen, Db.webhookEvent?, hw']
      exact hseen
    rw [exec_webhookEvents_reserved hop hseen', hw']
  obtain ⟨-, -, hkept⟩ := Follows.run
    (I := fun _ w' => w'.db.webhookEvents = w.db.webhookEvents) hkeeps honly (s := w) rfl
  exact hkept

/-- **The reservation is what remains** of a signed request with a new delivery id, when the route
takes it and the index has room for the id. -/
theorem webhookEvents_handle (hfits : req.BodyFits) (hsigned : req.Signed C config)
    (hdelivery : req.deliveryId = some d) (hroom : w.db.server.Fits (.text d)) (hnew : ¬ w.Seen d) :
    ∃ row, (handle C config w req).2.db.webhookEvents.rows = w.db.webhookEvents.rows ++ [row] ∧
      row.deliveryId.map Text.val = some d ∧ row.status = .processing := by
  have hd : Storable d := Request.storable_header hdelivery
  obtain ⟨row, db', hrun, hadds, hrow, hstatus⟩ := run_reserveDelivery_new C.uuids
    (w := w.bump .webhook) hd hroom req.storable_eventType hnew
  refine ⟨row, ?_, hrow, hstatus⟩
  have hseen : World.Seen { (w.bump .webhook) with db := db' } d :=
    (seen_of_addsEvent hadds d).2 (.inr hrow)
  rw [handle_bodyFits hfits, run_githubWebhook_signed hsigned, hdelivery, hrun]
  show (runAlone C.uuids _ (handleBody C config req)).2.db.webhookEvents.rows = _
  rw [webhookEvents_handleBody C.uuids hdelivery hseen]
  exact hadds.webhookEvents

/-- **The outcome is never audited**, whatever the database and the signed request are. -/
theorem outcome_not_audited (w : World) (hsigned : req.Signed C config)
    (hdelivery : req.deliveryId = some d) (hnew : ¬ w.Seen d) :
    ¬ Audited w d (handle C config w req) := by
  rintro ⟨row, hrow, hd, hmatches⟩
  have hseen : (handle C config w req).2.Seen d :=
    (handle C config w req).2.db.webhookEvent?_ne_none.2 ⟨row, hrow, hd⟩
  obtain ⟨-, hfits, hroom, -⟩ := ((seen_handle d).1 hseen).resolve_left hnew
  obtain ⟨reserved, hrows, -, hstatus⟩ := webhookEvents_handle hfits hsigned hdelivery hroom hnew
  -- The delivery id had no row before, so its only row is the reservation.
  rw [← Relational.Table.mem_rows, hrows, List.mem_append, List.mem_singleton] at hrow
  rcases hrow with hold | rfl
  · exact hnew (w.db.webhookEvent?_ne_none.2 ⟨row, hold, hd⟩)
  · exact hmatches.ended hstatus

theorem outcome_not_audited_setup :
    ¬ Audited Setup.world "72d3162e" (handle Setup.crates Setup.config Setup.world
      (Setup.deliver Setup.signature (some "72d3162e"))) :=
  outcome_not_audited Setup.world (Setup.signed_deliver _) (by decide +kernel) fun hseen =>
    hseen (by decide +kernel)

/-- The merge is paid, and its audit row stays at `processing`. -/
theorem paid_merge_left_processing :
    let req := Setup.deliver Setup.signature (some "72d3162e")
    let r := handle Setup.crates Setup.config Setup.world req
    req.Signed Setup.crates Setup.config ∧ req.deliveryId = some "72d3162e" ∧
      ¬ Setup.world.Seen "72d3162e" ∧ r.2.db.payouts.rows.length = 1 ∧
      ¬ Audited Setup.world "72d3162e" r := by
  have hrows : ∀ r, r = handle Setup.crates Setup.config Setup.world
      (Setup.deliver Setup.signature (some "72d3162e")) → r.2.db.payouts.rows.length = 1 ∧
        ∀ row ∈ r.2.db.webhookEvents.rows, row.status = .processing := by
    intro r hr
    rw [hr]
    decide +kernel
  intro req r
  obtain ⟨hpaid, hprocessing⟩ := hrows r rfl
  refine ⟨Setup.signed_deliver _, by decide +kernel, fun hseen => hseen (by decide +kernel), hpaid,
    ?_⟩
  rintro ⟨row, hrow, -, hmatches⟩
  exact hmatches.ended (hprocessing row hrow)

end WaveFlow
