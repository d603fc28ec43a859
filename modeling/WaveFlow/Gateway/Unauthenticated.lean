import WaveFlow.Gateway.AllOrNothing
import WaveFlow.Gateway.Protocol

/-!
# What requests without a valid signature can do

A rejected request leaves programs, registrations, payouts and the chain alone, but it is recorded in
the audit table under the delivery id of its choice, and that table decides which deliveries are
duplicates. So a signed request is answered as if the rejected requests had not been there exactly
when none of them took its delivery id first. A request leaves no id when its body is too long for
the route, or the id for the index.
-/

namespace WaveFlow

open Interaction Postgres Relational

variable {C : Crates} {config : AppConfig} {req : Request} {w w' s t : World}

/-! ### Delivery ids -/

/-- A header that can be read has only characters that can be stored. -/
theorem storable_headerText {value : List UInt8} {text : String} (h : headerText value = some text) :
    Storable text := by
  unfold headerText at h
  split_ifs at h with hvisible
  cases h
  intro hzero
  rw [String.toList_ofList, List.mem_map] at hzero
  obtain ⟨b, hb, hchar⟩ := hzero
  have hlt : 0 < b.toNat ∧ b.toNat < 127 := by
    have := List.all_eq_true.1 hvisible b hb
    simp only [Bool.or_eq_true, Bool.and_eq_true, decide_eq_true_eq] at this
    rcases this with ⟨h32, h127⟩ | rfl
    · exact ⟨lt_of_lt_of_le (by decide) (UInt8.le_iff_toNat_le.1 h32), UInt8.lt_iff_toNat_lt.1 h127⟩
    · decide
  have hascii : ∀ n < 127, 0 < n → Char.ofNat n ≠ '\x00' := by decide
  exact hascii _ hlt.2 hlt.1 hchar

theorem Request.storable_header {name text : String} (h : req.header name = some text) :
    Storable text := by
  obtain ⟨value, -, htext⟩ := Option.bind_eq_some_iff.1 h
  exact storable_headerText htext

theorem Request.storable_eventType (req : Request) : Storable req.eventType := by
  unfold Request.eventType
  cases h : req.header "x-github-event" with
  | none => decide
  | some text => exact Request.storable_header h

/-- The delivery id has an audit row. -/
def World.Seen (w : World) (d : String) : Prop := w.db.webhookEvent? d ≠ none

theorem seen_of_addsEvent {db' : Db} {row : WebhookEventRow} (h : w.db.AddsEvent db' row)
    (d : String) :
    World.Seen { w with db := db' } d ↔ w.Seen d ∨ row.deliveryId.map Text.val = some d := by
  simp only [World.Seen, Db.webhookEvent?_ne_none, h.mem_webhookEvents]
  constructor
  · rintro ⟨r, hr | rfl, hd⟩
    · exact .inl ⟨r, hr, hd⟩
    · exact .inr hd
  · rintro (⟨r, hr, hd⟩ | hd)
    · exact ⟨r, .inl hr, hd⟩
    · exact ⟨row, .inr rfl, hd⟩

/-! ### Worlds that differ in audit rows only -/

/-- The worlds have the same programs, registrations, payouts and attestations, on one server. -/
structure SameButAudit (s t : World) : Prop where
  programs : s.db.programs = t.db.programs
  contributors : s.db.contributors = t.db.contributors
  payouts : s.db.payouts = t.db.payouts
  attestations : s.attestations = t.attestations
  server : s.db.server = t.db.server

namespace SameButAudit

theorem refl (w : World) : SameButAudit w w := ⟨rfl, rfl, rfl, rfl, rfl⟩

theorem symm (h : SameButAudit s t) : SameButAudit t s :=
  ⟨h.programs.symm, h.contributors.symm, h.payouts.symm, h.attestations.symm, h.server.symm⟩

theorem trans {u : World} (h : SameButAudit s t) (h' : SameButAudit t u) : SameButAudit s u :=
  ⟨h.programs.trans h'.programs, h.contributors.trans h'.contributors,
    h.payouts.trans h'.payouts, h.attestations.trans h'.attestations, h.server.trans h'.server⟩

theorem bump (h : SameButAudit s t) (c : Counter) : SameButAudit (s.bump c) (t.bump c) :=
  ⟨h.programs, h.contributors, h.payouts, h.attestations, h.server⟩

theorem db_eq (h : SameButAudit s t) : s.db = t.db.withEvents s.db.webhookEvents := by
  obtain ⟨programs, contributors, payouts, -, server⟩ := h
  obtain ⟨⟨_, _, _, _, _, _, _, _⟩, _, _⟩ := s
  obtain ⟨⟨_, _, _, _, _, _, _, _⟩, _, _⟩ := t
  cases server
  cases programs
  cases contributors
  cases payouts
  rfl

theorem of_addsEvent {db' : Db} {row : WebhookEventRow} (h : w.db.AddsEvent db' row) :
    SameButAudit { w with db := db' } w :=
  ⟨h.programs, h.contributors, h.payouts, rfl, h.server⟩

end SameButAudit

/-! ### Operations of a handler whose delivery id is reserved -/

/-- The operation neither looks at audit rows nor adds one for another delivery. -/
def AuditsFor (delivery : Option String) : Op → Prop
  | .sql (.selectWebhookEventId _) => False
  | .sql (.insertWebhookEvent d _ _ _ _ _ _) => d = delivery
  | _ => True

variable {source : UuidSource} {delivery : Option String}

/-- An audit row is added, or the statement fails and changes nothing. -/
theorem exec_insertWebhookEvent (source : UuidSource) (w : World) {eventType repo : String}
    {number : Option Int64} {payload : Json} {status : EventStatus} {error : Option String} :
    let op := Op.sql (.insertWebhookEvent delivery eventType repo number payload status error)
    (op.exec source w).1.isOk = false ∧ (op.exec source w).2 = w ∨
      ∃ row db', (op.exec source w).2 = { w with db := db' } ∧ w.db.AddsEvent db' row ∧
        row.deliveryId.map Text.val = delivery ∧ row.payload.val = payload ∧
          ∀ d, delivery = some d → w.db.server.Fits (.text d) := by
  intro op
  cases hinsert : w.db.insertWebhookEvent source delivery eventType repo number payload status
      error with
  | error e =>
    left
    rw [Op.exec_sql_error (Stmt.exec_insertWebhookEvent_error hinsert)]
    exact ⟨rfl, rfl⟩
  | ok db' =>
    right
    obtain ⟨row, hadds, hdelivery, -, -, -, hpayload, -⟩ := Db.insertWebhookEvent_ok hinsert
    refine ⟨row, db', ?_, hadds, hdelivery, hpayload,
      (Db.insertWebhookEvent_enters source w.db hinsert).2⟩
    rw [Op.exec_sql_ok (Stmt.exec_insertWebhookEvent_ok hinsert)]

/-- Its answer depends on its parameters, the server and whether the delivery id is seen. -/
theorem answer_insertWebhookEvent {eventType repo : String} {number : Option Int64} {payload : Json}
    {status : EventStatus} {error : Option String} :
    ((Op.sql (.insertWebhookEvent delivery eventType repo number payload status error)).exec
      source w).1 = Db.auditAnswer w.db.server (w.db.delivered delivery) delivery eventType repo
        payload error := by
  rw [← Db.insertWebhookEvent_answer source w.db delivery eventType repo number payload status error]
  cases hinsert : w.db.insertWebhookEvent source delivery eventType repo number payload status
      error with
  | error e =>
    rw [Op.exec_sql_error (Stmt.exec_insertWebhookEvent_error hinsert)]
    rfl
  | ok db' =>
    rw [Op.exec_sql_ok (Stmt.exec_insertWebhookEvent_ok hinsert)]
    rfl

theorem sameButAudit_insertWebhookEvent {eventType repo : String} {number : Option Int64}
    {payload : Json} {status : EventStatus} {error : Option String} :
    SameButAudit ((Op.sql (.insertWebhookEvent delivery eventType repo number payload status
      error)).exec source w).2 w := by
  rcases exec_insertWebhookEvent source w with ⟨-, h⟩ | ⟨row, db', h, hadds, -⟩
  · rw [h]
    exact .refl w
  · rw [h]
    exact .of_addsEvent hadds

/-- Another statement leaves the audit rows alone. -/
theorem exec_webhookEvents {q : Stmt} (hq : ¬ q.Audits) :
    ((Op.sql q).exec source w).2.db.webhookEvents = w.db.webhookEvents := by
  cases h : q.exec source w.db with
  | error e => rw [Op.exec_sql_error h]
  | ok r =>
    rw [Op.exec_sql_ok h]
    exact Stmt.webhookEvents_kept hq h

/-- No operation makes a delivery id seen, once the handler's own is. -/
theorem exec_seen {op : Op} (hop : AuditsFor delivery op)
    (hown : ∀ d, delivery = some d → w.Seen d) (d : String) :
    (op.exec source w).2.Seen d ↔ w.Seen d := by
  have hother : ∀ q : Stmt, op = .sql q → ¬ q.Audits → ((op.exec source w).2.Seen d ↔ w.Seen d) := by
    rintro q rfl hq
    rw [World.Seen, Db.webhookEvent?, exec_webhookEvents hq]
    rfl
  cases op with
  | attest r => rfl
  | count c => rfl
  | sql q =>
    cases q with
    | selectWebhookEventId => exact absurd hop id
    | insertWebhookEvent =>
      obtain rfl : _ = delivery := hop
      rcases exec_insertWebhookEvent source w with ⟨-, h⟩ | ⟨row, db', h, hadds, hrow, -⟩
      · rw [h]
      · rw [h, seen_of_addsEvent hadds, hrow, or_iff_left_iff_imp]
        exact hown d
    | _ => exact hother _ rfl id

/-- **The handler cannot tell the worlds apart.** -/
theorem exec_sameButAudit (source : UuidSource) {op : Op} (hop : AuditsFor delivery op)
    (h : SameButAudit s t) (hs : ∀ d, delivery = some d → s.Seen d)
    (ht : ∀ d, delivery = some d → t.Seen d) :
    (op.exec source s).1 = (op.exec source t).1 ∧
      SameButAudit (op.exec source s).2 (op.exec source t).2 := by
  have hother : ∀ q : Stmt, op = .sql q → ¬ q.Audits → (op.exec source s).1 = (op.exec source t).1 ∧
      SameButAudit (op.exec source s).2 (op.exec source t).2 := by
    rintro q rfl hq
    have hexec := Stmt.exec_withEvents source t.db hq s.db.webhookEvents
    rw [← h.db_eq] at hexec
    cases hq' : q.exec source t.db with
    | error e =>
      rw [hq'] at hexec
      rw [Op.exec_sql_error hexec, Op.exec_sql_error hq']
      exact ⟨rfl, h⟩
    | ok r =>
      rw [hq'] at hexec
      rw [Op.exec_sql_ok hexec, Op.exec_sql_ok hq']
      exact ⟨rfl, rfl, rfl, rfl, h.attestations, rfl⟩
  cases op with
  | attest r => exact ⟨rfl, h.1, h.2, h.3, by rw [Op.exec, Op.exec, h.attestations], h.server⟩
  | count c => exact ⟨rfl, h.bump c⟩
  | sql q =>
    cases q with
    | selectWebhookEventId => exact absurd hop id
    | insertWebhookEvent own eventType repo number payload status error =>
      obtain rfl : own = delivery := hop
      refine ⟨?_, sameButAudit_insertWebhookEvent.trans
        (h.trans sameButAudit_insertWebhookEvent.symm)⟩
      have hdelivered : s.db.delivered own = t.db.delivered own := by
        cases own with
        | none => rfl
        | some d =>
          rw [Db.delivered, Db.delivered, Option.any_some, Option.any_some,
            Option.isSome_iff_ne_none.2 (hs d rfl), Option.isSome_iff_ne_none.2 (ht d rfl)]
      rw [answer_insertWebhookEvent, answer_insertWebhookEvent, hdelivered, h.server]
    | _ => exact hother _ rfl id

/-! ### Handling the body -/

theorem Allows.auditsFor {m : Phase} {op : Op} (h : Allows C config req m op) (hm : m.Claimed) :
    AuditsFor req.deliveryId op := by
  cases h with
  | reject | lookUp | claim => exact absurd hm id
  | audit => exact rfl
  | _ => trivial

theorem handleBody_only (C : Crates) (config : AppConfig) (req : Request) :
    Follows (only (AuditsFor req.deliveryId)) () (handleBody C config req)
      fun _ r => ∃ m : Phase, m.Claimed ∧ Ends C req m r :=
  Follows.only (N := Phase.Claimed)
    (fun _ op hm (hop : Allows C config req _ op) => ⟨hop.auditsFor hm, hm.next op⟩)
    (show Phase.Claimed .claimed from trivial) follows_handleBody

theorem seen_handleBody (C : Crates) (config : AppConfig) (source : UuidSource)
    (hown : ∀ d, req.deliveryId = some d → w.Seen d) (d : String) :
    (runAlone source w (handleBody C config req)).2.Seen d ↔ w.Seen d := by
  have hstep : ∀ (_ : Unit) op w', AuditsFor req.deliveryId op → (∀ d, w'.Seen d ↔ w.Seen d) →
      ∀ d, (op.exec source w').2.Seen d ↔ w.Seen d := by
    intro _ op w' hop hw' d
    rw [exec_seen hop (fun d hd => (hw' d).2 (hown d hd)), hw']
  obtain ⟨-, -, hseen⟩ := Follows.run hstep (handleBody_only C config req)
    fun _ => Iff.rfl
  exact hseen d

theorem handleBody_sameButAudit (h : SameButAudit s t)
    (hs : ∀ d, req.deliveryId = some d → s.Seen d) (ht : ∀ d, req.deliveryId = some d → t.Seen d) :
    (runAlone source s (handleBody C config req)).1 =
        (runAlone source t (handleBody C config req)).1 ∧
      SameButAudit (runAlone source s (handleBody C config req)).2
        (runAlone source t (handleBody C config req)).2 := by
  have hstep : ∀ op s t, AuditsFor req.deliveryId op →
      (SameButAudit s t ∧ (∀ d, req.deliveryId = some d → s.Seen d) ∧
        ∀ d, req.deliveryId = some d → t.Seen d) →
      (op.exec source s).1 = (op.exec source t).1 ∧
        SameButAudit (op.exec source s).2 (op.exec source t).2 ∧
        (∀ d, req.deliveryId = some d → (op.exec source s).2.Seen d) ∧
        ∀ d, req.deliveryId = some d → (op.exec source t).2.Seen d := by
    rintro op s t hop ⟨h, hs, ht⟩
    obtain ⟨hans, hrel⟩ := exec_sameButAudit source hop h hs ht
    exact ⟨hans, hrel, fun d hd => (exec_seen hop hs d).2 (hs d hd),
      fun d hd => (exec_seen hop ht d).2 (ht d hd)⟩
  obtain ⟨hresponse, hrel, -⟩ := run_related hstep (handleBody_only C config req) ⟨h, hs, ht⟩
  exact ⟨hresponse, hrel⟩

/-! ### Reserving the delivery id -/

theorem run_deliveryIdSeen (source : UuidSource) (w : World) {d : String} (hd : Storable d) :
    tryAlone source w (deliveryIdSeen d) = (.ok (w.db.webhookEvent? d).isSome, w) := by
  have hexec : (Stmt.selectWebhookEventId d).exec source w.db =
      .ok ((w.db.webhookEvent? d).map WebhookEventRow.id, w.db) := by
    simp only [Stmt.exec, Text.ofParam_of_storable hd]
    rfl
  unfold deliveryIdSeen
  rw [tryAlone_bind_ok (tryAlone_query_ok hexec), Option.isSome_map]
  rfl

variable {d eventType : String}

/-- A delivery that was seen is a duplicate. -/
theorem run_reserveDelivery_seen (source : UuidSource) (hd : Storable d) (hseen : w.Seen d) :
    runAlone source w (reserveDelivery (some d) eventType) = (some (duplicateDelivery d), w) := by
  have hlookup := run_deliveryIdSeen source w hd
  rw [Option.isSome_iff_ne_none.2 hseen] at hlookup
  unfold reserveDelivery
  simp only [runAlone, Prog.run_bind, show Prog.run _ (deliveryIdSeen d).run w = _ from hlookup]
  rfl

/-- What is answered at once after a claim. -/
def claimAnswer : Except WaveFlowError Unit → Option Response
  | .ok () => none
  | .error err => some (mapError err)

/-- Reserving an id that was not seen comes down to its claim. -/
theorem run_reserveDelivery_unseen (source : UuidSource) (hd : Storable d) (hnew : ¬ w.Seen d)
    {result : Except WaveFlowError Unit} {w' : World}
    (hclaim : tryAlone source w (claimDeliveryId d eventType) = (result, w')) :
    runAlone source w (reserveDelivery (some d) eventType) = (claimAnswer result, w') := by
  have hnone : w.db.webhookEvent? d = none := by simpa [World.Seen] using hnew
  have hlookup := run_deliveryIdSeen source w hd
  rw [hnone] at hlookup
  unfold reserveDelivery
  simp only [runAlone, Prog.run_bind, show Prog.run _ (deliveryIdSeen d).run w = _ from hlookup]
  show Prog.run _ (_ >>= _) w = _
  rw [Prog.run_bind, show Prog.run _ (claimDeliveryId d eventType).run w = _ from hclaim]
  cases result <;> rfl

/-- Another delivery is reserved, when the index has room for its id. -/
theorem run_reserveDelivery_new (source : UuidSource) (hd : Storable d)
    (hfits : w.db.server.Fits (.text d)) (heventType : Storable eventType) (hnew : ¬ w.Seen d) :
    ∃ row db', runAlone source w (reserveDelivery (some d) eventType) =
        (none, { w with db := db' }) ∧
      w.db.AddsEvent db' row ∧ row.deliveryId.map Text.val = some d ∧ row.status = .processing := by
  have hnone : w.db.webhookEvent? d = none := by simpa [World.Seen] using hnew
  obtain ⟨db', hinsert⟩ := Db.insertWebhookEvent_succeeds source w.db (some d) eventType "pending" none
    (.obj []) .processing none heventType (by decide) (Server.fits_pending _) rfl (by simp)
    (by rintro _ ⟨⟩; exact ⟨hd, hfits, hnone⟩)
  obtain ⟨row, hadds, hrow, -, -, -, -, hstatus, -⟩ := Db.insertWebhookEvent_ok hinsert
  have hclaim : tryAlone source w (claimDeliveryId d eventType) = (.ok (), { w with db := db' }) :=
    tryAlone_query_ok (Stmt.exec_insertWebhookEvent_ok hinsert)
  exact ⟨row, db', run_reserveDelivery_unseen source hd hnew hclaim, hadds, hrow, hstatus⟩

/-- The answer to a new delivery whose id is too long for the index. -/
def claimRefused (server : Server) (d : String) : Response :=
  mapError (conflictOr ("duplicate delivery " ++ d)
    (server.refusal WebhookEventRow.deliveryIndex.name (.text d)))

theorem status_claimRefused (server : Server) (d : String) :
    (claimRefused server d).status = 409 ∨ (claimRefused server d).status = 500 := by
  unfold claimRefused conflictOr
  split_ifs
  · exact .inl rfl
  · exact .inr rfl

/-- Otherwise it is turned away. -/
theorem run_reserveDelivery_refused (source : UuidSource) (hd : Storable d)
    (hlarge : ¬ w.db.server.Fits (.text d)) (heventType : Storable eventType) (hnew : ¬ w.Seen d) :
    runAlone source w (reserveDelivery (some d) eventType) =
      (some (claimRefused w.db.server d), w) := by
  have hnone : w.db.webhookEvent? d = none := by simpa [World.Seen] using hnew
  have hinsert := Db.insertWebhookEvent_refused source w.db eventType "pending" none (.obj [])
    .processing none heventType (by decide) (Server.fits_pending _) rfl (by simp) hd hlarge hnone
  have hclaim : tryAlone source w (claimDeliveryId d eventType) = (.error _, w) :=
    tryAlone_query_error (Stmt.exec_insertWebhookEvent_error hinsert)
  exact run_reserveDelivery_unseen source hd hnew hclaim

/-! ### Handling a request -/

/-- The request leaves its delivery id in the audit table: the route takes its body, the index has
room for the id, and it is signed, or what is kept of its body can be stored. -/
def Request.Records (C : Crates) (config : AppConfig) (server : Server) (req : Request)
    (d : String) : Prop :=
  req.deliveryId = some d ∧ req.BodyFits ∧ server.Fits (.text d) ∧
    (req.Signed C config ∨ (rejectedPayload C req).storable)

/-- The response to a request, and the world after it. -/
def handle (C : Crates) (config : AppConfig) (w : World) (req : Request) : Response × World :=
  runAlone C.uuids w (webhookRoute C config req)

theorem handle_bodyFits (hfits : req.BodyFits) :
    handle C config w req = runAlone C.uuids w (githubWebhook C config req) := by
  rw [handle, webhookRoute, if_pos hfits]

theorem handle_oversized (hlarge : ¬ req.BodyFits) :
    handle C config w req = (payloadTooLarge, w) := by
  rw [handle, webhookRoute, if_neg hlarge]
  rfl

theorem handle_server : (handle C config w req).2.db.server = w.db.server := by
  have hstep : ∀ (_ : Unit) (op : Op) (w' : World), True → w'.db.server = w.db.server →
      (op.exec C.uuids w').2.db.server = w.db.server := by
    intro _ op w' _ hw'
    cases op with
    | attest | count => exact hw'
    | sql q =>
      cases hexec : q.exec C.uuids w'.db with
      | error e => rwa [Op.exec_sql_error hexec]
      | ok r =>
        rw [Op.exec_sql_ok hexec]
        exact (Stmt.grows hexec).server.trans hw'
  have hfollows : Follows (only fun _ => True) () (webhookRoute C config req) fun _ _ => True :=
    follows_anything _
  obtain ⟨-, -, hserver⟩ := hfollows.run (I := fun _ (w' : World) => w'.db.server = w.db.server)
    hstep rfl
  exact hserver

/-- The operation that records a rejected request. -/
def recordRejected (C : Crates) (req : Request) : Op :=
  .sql (.insertWebhookEvent req.deliveryId req.eventType "unknown" none (rejectedPayload C req)
    .rejected (some "invalid webhook signature"))

/-- It leaves its delivery id when its payload can be stored, and the id too. -/
theorem seen_recordRejected (d : String) :
    ((recordRejected C req).exec source w).2.Seen d ↔
      w.Seen d ∨ req.deliveryId = some d ∧ w.db.server.Fits (.text d) ∧
        (rejectedPayload C req).storable := by
  rcases exec_insertWebhookEvent source w with
    ⟨hfailed, hsame⟩ | ⟨row, db', hadded, hadds, hrow, hpayload, hfits⟩
  · rw [recordRejected, hsame]
    refine (or_iff_left_of_imp ?_).symm
    rintro ⟨hdelivery, hfits, hstorable⟩
    by_contra hnew
    obtain ⟨db', hinsert⟩ := Db.insertWebhookEvent_succeeds source w.db req.deliveryId req.eventType
      "unknown" none (rejectedPayload C req) .rejected (some "invalid webhook signature")
      req.storable_eventType (by decide) (Server.fits_unknown _) hstorable
      (by rintro _ ⟨⟩; decide) fun d' hd' => by
        obtain rfl : d = d' := Option.some.inj (hdelivery.symm.trans hd')
        exact ⟨Request.storable_header hdelivery, hfits, by simpa [World.Seen] using hnew⟩
    rw [Op.exec_sql_ok (Stmt.exec_insertWebhookEvent_ok hinsert)] at hfailed
    cases hfailed
  · rw [recordRejected, hadded, seen_of_addsEvent hadds, hrow, ← hpayload]
    refine or_congr_right (iff_self_and.2 fun hd => ⟨hfits d hd, row.payload.storable⟩)

theorem handle_unsigned (hfits : req.BodyFits) (h : ¬ req.Signed C config) :
    ∃ err, handle C config w req =
      (mapError err, ((recordRejected C req).exec C.uuids
        ((w.bump .webhook).bump .webhookRejected)).2) := by
  unfold Request.Signed at h
  rw [handle_bodyFits hfits]
  unfold githubWebhook
  cases hverify : verifyGithubSignature C config.githubWebhookSecret req.body req.signature with
  | ok u => exact absurd hverify h
  | error err =>
    refine ⟨err, ?_⟩
    show Prog.run _ (rejectWebhook C req err) (w.bump .webhook) = _
    unfold rejectWebhook
    simp only [Prog.run_bind]
    refine Prod.ext rfl ?_
    exact tryAlone_query_world _ databaseError

/-- A rejected request changes audit rows only. -/
theorem handle_unsigned_sameButAudit (h : ¬ req.Signed C config) :
    SameButAudit (handle C config w req).2 w := by
  by_cases hfits : req.BodyFits
  · obtain ⟨err, hrun⟩ := handle_unsigned (w := w) hfits h
    rw [hrun]
    exact sameButAudit_insertWebhookEvent.trans ⟨rfl, rfl, rfl, rfl, rfl⟩
  · rw [handle_oversized hfits]
    exact .refl w

/-- **Which delivery ids are seen after a request.** -/
theorem seen_handle (d : String) :
    (handle C config w req).2.Seen d ↔ w.Seen d ∨ req.Records C config w.db.server d := by
  by_cases hfits : req.BodyFits
  · by_cases hsigned : req.Signed C config
    · rw [handle_bodyFits hfits, run_githubWebhook_signed hsigned]
      cases hdelivery : req.deliveryId with
      | none =>
        have hrecords : ¬ req.Records C config w.db.server d := by
          simp [Request.Records, hdelivery]
        rw [or_iff_left hrecords]
        exact seen_handleBody C config C.uuids (w := w.bump .webhook) (by simp [hdelivery]) d
      | some own =>
        have hown : Storable own := Request.storable_header hdelivery
        have hrecords : req.Records C config w.db.server d ↔
            own = d ∧ w.db.server.Fits (.text d) := by
          simp [Request.Records, hdelivery, hsigned, hfits]
        rw [hrecords]
        by_cases hseen : (w.bump .webhook).Seen own
        · simp only [run_reserveDelivery_seen C.uuids hown hseen]
          refine (or_iff_left_of_imp ?_).symm
          rintro ⟨rfl, -⟩
          exact hseen
        · by_cases hroom : (w.bump .webhook).db.server.Fits (.text own)
          · obtain ⟨row, db', hrun, hadds, hrow, -⟩ := run_reserveDelivery_new C.uuids hown hroom
              req.storable_eventType hseen
            have hafter := seen_of_addsEvent hadds
            have hbody := seen_handleBody C config C.uuids
              (w := { (w.bump .webhook) with db := db' })
              (fun d' hd' => (hafter d').2 (.inr (hrow.trans (hdelivery.symm.trans hd')))) d
            rw [hrun]
            simp only [Option.elim_none, hbody]
            rw [hafter, hrow, Option.some.injEq]
            refine or_congr_right ⟨?_, (·.1)⟩
            rintro rfl
            exact ⟨rfl, hroom⟩
          · rw [run_reserveDelivery_refused C.uuids hown hroom req.storable_eventType hseen]
            refine (or_iff_left_of_imp ?_).symm
            rintro ⟨rfl, hroom'⟩
            exact absurd hroom' hroom
    · obtain ⟨err, hrun⟩ := handle_unsigned (w := w) hfits hsigned
      rw [hrun, seen_recordRejected]
      simp only [Request.Records, hsigned, hfits, false_or, true_and]
      rfl
  · rw [handle_oversized hfits, or_iff_left]
    rintro ⟨-, hbody, -⟩
    exact hfits hbody

/-- A signed request is handled alike in worlds that differ in other audit rows only. -/
theorem handle_sameButAudit (hsigned : req.Signed C config) (h : SameButAudit s t)
    (hseen : ∀ d, req.deliveryId = some d → req.BodyFits → (s.Seen d ↔ t.Seen d)) :
    (handle C config s req).1 = (handle C config t req).1 ∧
      SameButAudit (handle C config s req).2 (handle C config t req).2 := by
  by_cases hfits : req.BodyFits
  · have h := h.bump .webhook
    simp only [handle_bodyFits hfits, run_githubWebhook_signed hsigned]
    cases hdelivery : req.deliveryId with
    | none => exact handleBody_sameButAudit h (by simp [hdelivery]) (by simp [hdelivery])
    | some d =>
      have hd : Storable d := Request.storable_header hdelivery
      by_cases hs : (s.bump .webhook).Seen d
      · have ht : (t.bump .webhook).Seen d := (hseen d hdelivery hfits).1 hs
        rw [run_reserveDelivery_seen C.uuids hd hs, run_reserveDelivery_seen C.uuids hd ht]
        exact ⟨rfl, h⟩
      · have ht : ¬ (t.bump .webhook).Seen d := fun ht => hs ((hseen d hdelivery hfits).2 ht)
        by_cases hroom : (t.bump .webhook).db.server.Fits (.text d)
        · obtain ⟨row, db₁, hrun₁, hadds₁, hrow₁, -⟩ := run_reserveDelivery_new C.uuids hd
            (h.server ▸ hroom) req.storable_eventType hs
          obtain ⟨row', db₂, hrun₂, hadds₂, hrow₂, -⟩ := run_reserveDelivery_new C.uuids hd hroom
            req.storable_eventType ht
          rw [hrun₁, hrun₂]
          refine handleBody_sameButAudit ((SameButAudit.of_addsEvent hadds₁).trans
              (h.trans (SameButAudit.of_addsEvent hadds₂).symm))
            (fun d' hd' => (seen_of_addsEvent hadds₁ d').2 (.inr ?_))
            fun d' hd' => (seen_of_addsEvent hadds₂ d').2 (.inr ?_)
          · exact hrow₁.trans (hdelivery.symm.trans hd')
          · exact hrow₂.trans (hdelivery.symm.trans hd')
        · have hroom' : ¬ (s.bump .webhook).db.server.Fits (.text d) := h.server ▸ hroom
          rw [run_reserveDelivery_refused C.uuids hd hroom' req.storable_eventType hs,
            run_reserveDelivery_refused C.uuids hd hroom req.storable_eventType ht, h.server]
          exact ⟨rfl, h⟩
  · rw [handle_oversized hfits, handle_oversized hfits]
    exact ⟨rfl, h⟩

@[simp] theorem textAt_mapError (err : WaveFlowError) : (mapError err).body.textAt "status" = none :=
  rfl

@[simp] theorem textAt_payloadTooLarge : payloadTooLarge.body.textAt "status" = none := rfl

/-- Only a handler that found the delivery id answers that it is a duplicate. -/
theorem Ends.not_duplicate {m : Phase} {r : Response} (h : Ends C req m r) (hm : m.Claimed) :
    r.body.textAt "status" ≠ some "duplicate_delivery" := by
  cases h with
  | duplicate => exact absurd hm id
  | merged h =>
    cases h with
    | alreadyProcessed => simp [alreadyProcessed]
    | processed => simp [processed]
  | _ => simp

/-- A signed request is answered differently where its delivery id is seen. -/
theorem handle_ne (hfits : req.BodyFits) (hsigned : req.Signed C config)
    (hdelivery : req.deliveryId = some d) (hs : s.Seen d) (ht : ¬ t.Seen d) :
    (handle C config s req).1 ≠ (handle C config t req).1 := by
  have hd : Storable d := Request.storable_header hdelivery
  simp only [handle_bodyFits hfits, run_githubWebhook_signed hsigned, hdelivery]
  rw [run_reserveDelivery_seen C.uuids (w := s.bump .webhook) hd hs]
  by_cases hroom : (t.bump .webhook).db.server.Fits (.text d)
  · obtain ⟨row, db', hrun, -⟩ := run_reserveDelivery_new C.uuids hd hroom (w := t.bump .webhook)
      req.storable_eventType ht
    rw [hrun]
    simp only [Option.elim_some, Option.elim_none]
    intro heq
    obtain ⟨-, ⟨m, hm, hends⟩, -⟩ := Follows.run (I := fun _ _ => True)
      (fun _ op w _ _ => (trivial : (fun _ _ => True) () (op.exec C.uuids w).2))
      (handleBody_only C config req) (s := { (t.bump .webhook) with db := db' }) trivial
    apply hends.not_duplicate hm
    rw [← heq]
    rfl
  · rw [run_reserveDelivery_refused C.uuids hd hroom (w := t.bump .webhook) req.storable_eventType ht]
    simp only [Option.elim_some]
    intro heq
    have hstatus := congrArg Response.status heq
    rcases status_claimRefused (t.bump .webhook).db.server d with h | h
    · rw [h] at hstatus
      cases hstatus
    · rw [h] at hstatus
      cases hstatus

/-! ### Sequences of requests -/

/-- What a request brings about. -/
structure Effects where
  response : Response
  attestations : List AttestationRequest
  payouts : Table PayoutRow.indexes × Table PayoutRow.indexes
  programs : Table ProgramRow.indexes × Table ProgramRow.indexes

def effects (C : Crates) (config : AppConfig) (w : World) (req : Request) : Effects :=
  let r := handle C config w req
  { response := r.1
    attestations := r.2.attestations.drop w.attestations.length
    payouts := (w.db.payouts, r.2.db.payouts)
    programs := (w.db.programs, r.2.db.programs) }

/-- The effects of the signed requests of a sequence. -/
def serve (C : Crates) (config : AppConfig) : World → List Request → List Effects
  | _, [] => []
  | w, req :: rest =>
      let others := serve C config (handle C config w req).2 rest
      if req.Signed C config then effects C config w req :: others else others

/-- A request of the sequence, or one inserted into it. -/
inductive Item
  | sent (req : Request)
  | inserted (req : Request)

namespace Item

def request : Item → Request
  | .sent req | .inserted req => req

def sent? : Item → Option Request
  | .sent req => some req
  | .inserted _ => none

end Item

variable {items before after : List Item}

/-- The route takes the request, and an inserted one took its delivery id before anything else
did. -/
def Taken (C : Crates) (config : AppConfig) (w : World) (before : List Item) (req : Request) :
    Prop :=
  req.BodyFits ∧ ∃ d, req.deliveryId = some d ∧
    (∃ bad, .inserted bad ∈ before ∧ bad.Records C config w.db.server d) ∧
    ¬ w.Seen d ∧ ∀ r, .sent r ∈ before → ¬ r.Records C config w.db.server d

/-- The world `full` after the requests of `before`, and the world `base` after those of the
sequence. -/
structure Tracks (C : Crates) (config : AppConfig) (w : World) (before : List Item)
    (full base : World) : Prop where
  same : SameButAudit full base
  server : base.db.server = w.db.server
  full : ∀ d, full.Seen d ↔ w.Seen d ∨ ∃ i ∈ before, i.request.Records C config w.db.server d
  base : ∀ d, base.Seen d ↔
    w.Seen d ∨ ∃ r, .sent r ∈ before ∧ r.Records C config w.db.server d

namespace Tracks

variable {full base : World}

theorem sent (h : Tracks C config w before full base) (req : Request)
    (hsame : SameButAudit (handle C config full req).2 (handle C config base req).2) :
    Tracks C config w (before ++ [.sent req]) (handle C config full req).2
      (handle C config base req).2 where
  same := hsame
  server := handle_server.trans h.server
  full d := by
    rw [seen_handle, h.full, h.same.server, h.server]
    simp [or_and_right, exists_or, or_assoc, Item.request]
  base d := by
    rw [seen_handle, h.base, h.server]
    simp [or_and_right, exists_or, or_assoc]

theorem inserted (h : Tracks C config w before full base) {bad : Request}
    (hbad : ¬ bad.Signed C config) :
    Tracks C config w (before ++ [.inserted bad]) (handle C config full bad).2 base where
  same := (handle_unsigned_sameButAudit hbad).trans h.same
  server := h.server
  full d := by
    rw [seen_handle, h.full, h.same.server, h.server]
    simp [or_and_right, exists_or, or_assoc, Item.request]
  base d := by
    rw [h.base]
    simp

/-- The two worlds know the delivery id of a request, or neither does, unless it was taken. -/
theorem seen_iff (h : Tracks C config w before full base) {req : Request}
    (hfree : ¬ Taken C config w before req) (hdelivery : req.deliveryId = some d)
    (hfits : req.BodyFits) : full.Seen d ↔ base.Seen d := by
  rw [h.full, h.base]
  constructor
  · rintro (hw | ⟨i, hi, hrecords⟩)
    · exact .inl hw
    · by_contra hno
      rw [not_or, not_exists] at hno
      cases i with
      | sent r => exact hno.2 r ⟨hi, hrecords⟩
      | inserted bad =>
        exact hfree ⟨hfits, d, hdelivery, ⟨bad, hi, hrecords⟩, hno.1,
          fun r hr hrec => hno.2 r ⟨hr, hrec⟩⟩
  · rintro (hw | ⟨r, hr, hrecords⟩)
    · exact .inl hw
    · exact .inr ⟨.sent r, hr, hrecords⟩

end Tracks

theorem forall_sent_cons {item : Item} {P : List Item → Request → Prop} :
    (∀ mid req rest, item :: after = mid ++ .sent req :: rest → P mid req) ↔
      (∀ req, item = .sent req → P [] req) ∧
        ∀ mid req rest, after = mid ++ .sent req :: rest → P (item :: mid) req := by
  constructor
  · intro h
    refine ⟨?_, ?_⟩
    · rintro req rfl
      exact h [] req after rfl
    · rintro mid req rest rfl
      exact h (item :: mid) req rest rfl
  · rintro ⟨hhead, htail⟩ mid req rest heq
    cases mid with
    | nil =>
      obtain ⟨rfl, rfl⟩ := List.cons.inj heq
      exact hhead req rfl
    | cons first mid =>
      obtain ⟨rfl, rfl⟩ := List.cons.inj heq
      exact htail mid req rest rfl

theorem effects_eq {full base : World} (h : SameButAudit full base)
    (hresponse : (handle C config full req).1 = (handle C config base req).1)
    (hafter : SameButAudit (handle C config full req).2 (handle C config base req).2) :
    effects C config full req = effects C config base req := by
  simp only [effects, hresponse, h.attestations, h.payouts, h.programs, hafter.attestations,
    hafter.payouts, hafter.programs]

/-- The same from any two worlds that differ by the requests inserted so far. -/
theorem serve_eq_iff {full base : World} (htracks : Tracks C config w before full base)
    (hunsigned : ∀ req, .inserted req ∈ after → ¬ req.Signed C config) :
    serve C config full (after.map Item.request) =
        serve C config base (after.filterMap Item.sent?) ↔
      ∀ mid req rest, after = mid ++ .sent req :: rest → req.Signed C config →
        ¬ Taken C config w (before ++ mid) req := by
  induction after generalizing before full base with
  | nil => simp [serve]
  | cons item after ih =>
    have hafter : ∀ req, .inserted req ∈ after → ¬ req.Signed C config :=
      fun req hreq => hunsigned req (List.mem_cons_of_mem _ hreq)
    rw [forall_sent_cons]
    cases item with
    | inserted bad =>
      have hbad := hunsigned bad (List.mem_cons_self)
      have hrest := ih (htracks.inserted hbad) hafter
      simp only [List.map_cons, Item.request, serve, if_neg hbad, List.filterMap_cons, Item.sent?]
      rw [hrest]
      simp
    | sent req =>
      simp only [List.map_cons, Item.request, serve, List.filterMap_cons, Item.sent?]
      by_cases hsigned : req.Signed C config
      · rw [if_pos hsigned, if_pos hsigned]
        by_cases htaken : Taken C config w before req
        · obtain ⟨hfits, d, hdelivery, ⟨bad, hbad, hrecords⟩, hw, hfirst⟩ := htaken
          have hfull : full.Seen d := (htracks.full d).2 (.inr ⟨_, hbad, hrecords⟩)
          have hbase : ¬ base.Seen d := by
            rw [htracks.base]
            rintro (hseen | ⟨r, hr, hrec⟩)
            · exact hw hseen
            · exact hfirst r hr hrec
          refine iff_of_false (fun heq => ?_) fun hall => ?_
          · have hhead : effects C config full req = effects C config base req :=
              (List.cons.inj heq).1
            exact handle_ne hfits hsigned hdelivery hfull hbase (congrArg Effects.response hhead)
          · apply hall.1 req rfl hsigned
            rw [List.append_nil]
            exact ⟨hfits, d, hdelivery, ⟨bad, hbad, hrecords⟩, hw, hfirst⟩
        · obtain ⟨hresponse, hsame⟩ := handle_sameButAudit hsigned htracks.same
            fun d hd hfits => htracks.seen_iff htaken hd hfits
          have hrest := ih (htracks.sent req hsame) hafter
          rw [effects_eq htracks.same hresponse hsame, List.cons.injEq, eq_self, true_and, hrest]
          simp [hsigned, htaken]
      · have hsame : SameButAudit (handle C config full req).2 (handle C config base req).2 :=
          (handle_unsigned_sameButAudit hsigned).trans
            (htracks.same.trans (handle_unsigned_sameButAudit hsigned).symm)
        have hrest := ih (htracks.sent req hsame) hafter
        rw [if_neg hsigned, if_neg hsigned, hrest]
        simp [hsigned]

/-- **When rejected requests have no influence**: exactly when none of them takes the delivery id of
a signed request that comes later. -/
theorem signed_uninfluenced (hunsigned : ∀ req, .inserted req ∈ items → ¬ req.Signed C config) :
    serve C config w (items.map Item.request) = serve C config w (items.filterMap Item.sent?) ↔
      ∀ before req after, items = before ++ .sent req :: after → req.Signed C config →
        ¬ Taken C config w before req := by
  have hstart : Tracks C config w [] w w := ⟨.refl w, rfl, by simp, by simp⟩
  simpa using serve_eq_iff hstart hunsigned

/-- Two requests are inserted: one with another delivery id, and one with the same, whose body holds
a NUL. -/
theorem signed_uninfluenced_setup :
    let other := Setup.deliver "" (some "00000000")
    let nul : Request := ⟨(Setup.deliver "" (some "72d3162e")).headers, [0]⟩
    let req := Setup.deliver Setup.signature (some "72d3162e")
    serve Setup.crates Setup.config Setup.world [other, nul, req] =
      serve Setup.crates Setup.config Setup.world [req] := by
  intro other nul req
  have hunsigned : ∀ r ∈ [other, nul], ¬ r.Signed Setup.crates Setup.config := by decide +kernel
  have hother : other.deliveryId = some "00000000" := by decide +kernel
  have hnul : (rejectedPayload Setup.crates nul).storable = false := by decide +kernel
  have hdelivery : req.deliveryId = some "72d3162e" := by decide +kernel
  let items : List Item := [.inserted other, .inserted nul, .sent req]
  have hinserted : ∀ r, .inserted r ∈ items → r = other ∨ r = nul := by simp [items]
  show serve _ _ _ (items.map Item.request) = serve _ _ _ (items.filterMap Item.sent?)
  refine (signed_uninfluenced ?_).2 ?_
  · intro r hr
    exact hunsigned r (by simpa using hinserted r hr)
  · rintro before r after heq - ⟨-, d, hd, ⟨bad, hbad, hid, -, -, hrecords⟩, -⟩
    have hr : r = req := by
      have hmem : .sent r ∈ items := heq ▸ List.mem_append_right _ (List.mem_cons_self)
      simpa [items] using hmem
    subst hr
    rcases hinserted bad (heq ▸ List.mem_append_left _ hbad) with rfl | rfl
    · rw [hother, ← hd, hdelivery] at hid
      exact absurd hid (by decide)
    · rcases hrecords with hsigned | hstorable
      · exact hunsigned nul (by simp) hsigned
      · rw [hnul] at hstorable
        cases hstorable

/-- A request with an empty signature and the delivery id of a merge arrives first: the merge is
answered as a duplicate and never attested. -/
theorem rejected_request_suppresses_merge :
    let bad := Setup.deliver "" (some "72d3162e")
    let req := Setup.deliver Setup.signature (some "72d3162e")
    ¬ bad.Signed Setup.crates Setup.config ∧ req.Signed Setup.crates Setup.config ∧
      serve Setup.crates Setup.config Setup.world [bad, req] ≠
        serve Setup.crates Setup.config Setup.world [req] := by
  intro bad req
  refine ⟨by decide +kernel, Setup.signed_deliver _, fun heq => ?_⟩
  have hattestations := congrArg (List.map Effects.attestations) heq
  have hfull : (serve Setup.crates Setup.config Setup.world [bad, req]).map Effects.attestations =
      [[]] := by decide +kernel
  have hbase : (serve Setup.crates Setup.config Setup.world [req]).map Effects.attestations =
      [[⟨1, "alice", 42, 1⟩]] := by decide +kernel
  rw [hfull, hbase] at hattestations
  cases hattestations

end WaveFlow
