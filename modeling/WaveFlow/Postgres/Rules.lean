import WaveFlow.Postgres.Statements

/-!
# What the statements do

* For each insert: what it adds when it succeeds, and when it succeeds.
* `Stmt.writes`: what a statement that succeeds does to the database. What is true of every
  statement follows by its cases.
* `Stmt.grows`: what all statements have in common. No row is ever deleted, a program keeps its
  keys, and the other rows are never changed.
* `Stmt.exec_withEvents`: a statement that is not about audit rows does the same whatever audit rows
  there are.
-/

namespace WaveFlow.Postgres

open Relational

variable {source : UuidSource} {db db' : Db}

theorem bind_eq_ok {ε α β : Type} {x : Except ε α} {f : α → Except ε β} {b : β} :
    (x >>= f) = .ok b ↔ ∃ a, x = .ok a ∧ f a = .ok b := by
  cases x <;> simp [bind, Except.bind]

theorem bind_ok {ε α β : Type} {a : α} {f : α → Except ε β} : (Except.ok a >>= f) = f a := rfl

theorem bind_eq_error {ε α β : Type} {x : Except ε α} {f : α → Except ε β} {e : ε} :
    (x >>= f) = .error e ↔ x = .error e ∨ ∃ a, x = .ok a ∧ f a = .error e := by
  cases x <;> simp [bind, Except.bind]

theorem Text.ofParam_ne_unique (s name : String) : Text.ofParam s ≠ .error (.unique name) := by
  unfold Text.ofParam
  split_ifs <;> simp

theorem Text.ofParam_of_storable {s : String} (h : Storable s) : Text.ofParam s = .ok ⟨s, h⟩ := by
  simp [Text.ofParam, h]

theorem Text.ofParam?_eq_ok {s : Option String} {t : Option Text} :
    Text.ofParam? s = .ok t ↔ t.map Text.val = s := by
  cases s with
  | none => cases t <;> simp [Text.ofParam?]
  | some s =>
    by_cases hs : Storable s
    · cases t with
      | none => simp [Text.ofParam?, Text.ofParam_of_storable hs, Except.map]
      | some t =>
        obtain ⟨val, hval⟩ := t
        simp [Text.ofParam?, Text.ofParam_of_storable hs, Except.map, eq_comm]
    · cases t with
      | none => simp [Text.ofParam?, Text.ofParam, hs, Except.map]
      | some t =>
        have hne : t.val ≠ s := fun h => hs (h ▸ t.storable)
        simp [Text.ofParam?, Text.ofParam, hs, Except.map, hne]

theorem Text.ofParam?_of_storable {s : Option String} (h : ∀ text, s = some text → Storable text) :
    ∃ t, Text.ofParam? s = .ok t := by
  cases s with
  | none => exact ⟨none, rfl⟩
  | some text => exact ⟨some ⟨text, h text rfl⟩, Text.ofParam?_eq_ok.2 rfl⟩

/-! ### Index rows -/

theorem Server.enter_of_fits {server : Server} {index : String} {key : IndexKey}
    (h : server.Fits key) : server.enter index key = .ok () := if_pos h

theorem Server.enter_eq_ok {server : Server} {index : String} {key : IndexKey} {u : Unit} :
    server.enter index key = .ok u ↔ server.Fits key := by
  unfold Server.enter
  split_ifs with h <;> simp [h]

theorem Server.enter?_eq_ok {server : Server} {index : String} {s : Option String} {u : Unit} :
    server.enter? index s = .ok u ↔ ∀ text, s = some text → server.Fits (.text text) := by
  cases s with
  | none => simp [Server.enter?]
  | some s => simp [Server.enter?, Server.enter_eq_ok]

/-- The texts that the gateway itself writes are short. -/
theorem Server.fits_unknown (server : Server) : server.Fits (.text "unknown") :=
  server.fits_of_bytes (by decide)

theorem Server.fits_pending (server : Server) : server.Fits (.text "pending") :=
  server.fits_of_bytes (by decide)

namespace Db

/-! ### Payouts -/

/-- One payout was added, and nothing else changed. -/
structure AddsPayout (db db' : Db) (row : PayoutRow) : Prop where
  payouts : db'.payouts.rows = db.payouts.rows ++ [row]
  programs : db'.programs = db.programs
  contributors : db'.contributors = db.contributors
  webhookEvents : db'.webhookEvents = db.webhookEvents
  server : db'.server = db.server

theorem AddsPayout.mem_payouts {row r : PayoutRow} (h : AddsPayout db db' row) :
    r ∈ db'.payouts ↔ r ∈ db.payouts ∨ r = row := by
  rw [← Table.mem_rows, h.payouts, List.mem_append, List.mem_singleton, Table.mem_rows]

variable {id pid : Uuid} {pr : Int64} {username address txHash : String} {points : Int32}
  {amount : Int64}

theorem insertPayout_ok
    (h : db.insertPayout source id pr username address points amount txHash = .ok (pid, db')) :
    ∃ row, AddsPayout db db' row ∧ row.id = pid ∧ row.programId = id ∧ row.prNumber = pr ∧
      row.githubUsername.val = username ∧ row.stellarAddress.val = address ∧
      row.points = points ∧ row.amount = amount ∧ row.txHash.map Text.val = some txHash := by
  unfold insertPayout at h
  simp only [bind_eq_ok] at h
  obtain ⟨username, husername, address, haddress, txHash, htxHash, h⟩ := h
  split_ifs at h with hamount hpoints hfk
  · split at h
    · cases h
    · rename_i payouts hinsert
      cases h
      exact ⟨_, ⟨(Table.insert_eq_ok _).1 hinsert |>.2, rfl, rfl, rfl, rfl⟩, rfl, rfl, rfl,
        Text.ofParam_eq_ok.1 husername, Text.ofParam_eq_ok.1 haddress, rfl, rfl,
        by simpa using Text.ofParam_eq_ok.1 htxHash⟩
  · split at h <;> cases h

/-- A first payout of a pull request can be inserted. -/
theorem insertPayout_succeeds (source : UuidSource) (husername : Storable username)
    (haddress : Storable address) (htxHash : Storable txHash) (hamount : 0 < amount)
    (hpoints : 0 < points)
    (hnew : db.payout? id pr = none) (hprogram : ∃ p ∈ db.programs, p.id = id) :
    ∃ pid db', db.insertPayout source id pr username address points amount txHash =
      .ok (pid, db') := by
  unfold insertPayout
  simp only [Text.ofParam_of_storable, husername, haddress, htxHash, bind, Except.bind, hamount,
    hpoints, dite_true]
  have hfree : ∀ row : PayoutRow, row.id = source.draw (db.payouts.rows.map PayoutRow.id) →
      row.programId = id → row.prNumber = pr →
      ∀ ix ∈ PayoutRow.indexes, ¬ db.payouts.Has ix row := by
    rintro row hid rfl rfl ix hix ⟨a, ha, hsame⟩
    simp only [PayoutRow.indexes, List.mem_cons, List.not_mem_nil, or_false] at hix
    rcases hix with rfl | rfl
    · have heq : a.id = row.id := by simpa [PayoutRow.idIndex, Index.on] using hsame
      apply source.fresh (db.payouts.rows.map PayoutRow.id)
      rw [← hid, ← heq]
      exact List.mem_map_of_mem ha
    · have heq : a.programId = row.programId ∧ a.prNumber = row.prNumber := by
        simpa [PayoutRow.prIndex, Index.on] using hsame
      refine ((db.payouts.find?_eq_none).1 hnew a ha) ?_
      simp [heq]
  split
  · rename_i name herror
    obtain ⟨ix, hix, -, hhas⟩ := db.payouts.insert_eq_error herror
    exact absurd hhas (hfree _ (by rfl) (by rfl) (by rfl) ix hix)
  · split_ifs with hfk
    · exact ⟨_, _, rfl⟩
    · exact absurd hprogram hfk

/-- A payout is inserted for a pull request that has none. -/
theorem payout?_of_insertPayout_ok
    (h : db.insertPayout source id pr username address points amount txHash = .ok (pid, db')) :
    db.payout? id pr = none := by
  obtain ⟨row, hadds, -, hprogram, hnumber, -⟩ := insertPayout_ok h
  by_contra hpaid
  obtain ⟨old, hold, hprogram', hnumber'⟩ := db.payout?_ne_none.1 hpaid
  have hdistinct := db'.payouts.distinct PayoutRow.prIndex (by simp [PayoutRow.indexes])
  rw [hadds.payouts] at hdistinct
  have hdiff := (List.pairwise_append.1 hdistinct).2.2 old hold row (List.mem_singleton_self row)
  simp [PayoutRow.prIndex, Index.on, hprogram, hprogram', hnumber, hnumber'] at hdiff

/-- A payout is refused as a duplicate when the pull request has one. -/
theorem payout?_of_insertPayout_unique {name : String}
    (h : db.insertPayout source id pr username address points amount txHash =
      .error (.unique name)) : db.payout? id pr ≠ none := by
  unfold insertPayout at h
  simp only [bind_eq_error, Text.ofParam_ne_unique, false_or] at h
  obtain ⟨username, -, address, -, txHash, -, h⟩ := h
  by_cases hamount : 0 < amount
  · by_cases hpoints : 0 < points
    · rw [dif_pos hamount, dif_pos hpoints] at h
      split at h
      · rename_i hinsert
        obtain ⟨ix, hix, -, a, ha, hsame⟩ := db.payouts.insert_eq_error hinsert
        simp only [PayoutRow.indexes, List.mem_cons, List.not_mem_nil, or_false] at hix
        rcases hix with rfl | rfl
        · have heq : a.id = source.draw (db.payouts.rows.map PayoutRow.id) := by
            simpa [PayoutRow.idIndex, Index.on] using hsame
          refine absurd ?_ (source.fresh (db.payouts.rows.map PayoutRow.id))
          rw [← heq]
          exact List.mem_map_of_mem ha
        · rw [payout?_ne_none]
          exact ⟨a, ha, by simpa [PayoutRow.prIndex, Index.on] using hsame⟩
      · split_ifs at h
        cases h
    · rw [dif_pos hamount, dif_neg hpoints] at h
      cases h
  · rw [dif_neg hamount] at h
    cases h

/-! ### Audit rows -/

/-- One audit row was added, and nothing else changed. -/
structure AddsEvent (db db' : Db) (row : WebhookEventRow) : Prop where
  webhookEvents : db'.webhookEvents.rows = db.webhookEvents.rows ++ [row]
  programs : db'.programs = db.programs
  contributors : db'.contributors = db.contributors
  payouts : db'.payouts = db.payouts
  server : db'.server = db.server

theorem AddsEvent.mem_webhookEvents {row r : WebhookEventRow} (h : AddsEvent db db' row) :
    r ∈ db'.webhookEvents ↔ r ∈ db.webhookEvents ∨ r = row := by
  rw [← Table.mem_rows, h.webhookEvents, List.mem_append, List.mem_singleton, Table.mem_rows]

variable {delivery : Option String} {eventType repo : String} {number : Option Int64}
  {payload : Json} {status : EventStatus} {error : Option String}

theorem insertWebhookEvent_ok
    (h : db.insertWebhookEvent source delivery eventType repo number payload status error =
      .ok db') :
    ∃ row, AddsEvent db db' row ∧ row.deliveryId.map Text.val = delivery ∧
      row.eventType.val = eventType ∧ row.githubRepo.val = repo ∧ row.prNumber = number ∧
      row.payload.val = payload ∧ row.status = status ∧ row.errorMessage.map Text.val = error := by
  unfold insertWebhookEvent at h
  simp only [bind_eq_ok] at h
  obtain ⟨delivery, hdelivery, eventType, heventType, repo, hrepo, payload, hpayload, error, herror,
    -, -, h⟩ := h
  split at h
  · cases h
  · rename_i events hinsert
    obtain ⟨-, -, h⟩ := bind_eq_ok.1 h
    cases h
    unfold Jsonb.ofParam at hpayload
    split_ifs at hpayload
    cases hpayload
    exact ⟨_, ⟨(Table.insert_eq_ok _).1 hinsert |>.2, rfl, rfl, rfl, rfl⟩,
      Text.ofParam?_eq_ok.1 hdelivery, Text.ofParam_eq_ok.1 heventType, Text.ofParam_eq_ok.1 hrepo,
      rfl, rfl, rfl, Text.ofParam?_eq_ok.1 herror⟩

/-- The delivery id, if there is one, has an audit row. -/
def delivered (db : Db) (delivery : Option String) : Bool :=
  delivery.any fun d => (db.webhookEvent? d).isSome

theorem has_deliveryIndex (db : Db) (row : WebhookEventRow) :
    db.webhookEvents.Has WebhookEventRow.deliveryIndex row ↔
      db.delivered (row.deliveryId.map Text.val) := by
  cases hd : row.deliveryId with
  | none =>
    simp only [delivered, Option.map_none, Option.any_none, Bool.false_eq_true, iff_false]
    rintro ⟨a, -, hsame⟩
    obtain ⟨hsome, heq⟩ : a.deliveryId.isSome ∧ a.deliveryId = row.deliveryId := by
      simpa [WebhookEventRow.deliveryIndex, Index.onSome] using hsame
    simp [heq, hd] at hsome
  | some t =>
    have hseen : db.webhookEvent? t.val ≠ none ↔ _ := db.webhookEvent?_ne_none
    simp only [delivered, Option.map_some, Option.any_some, Option.isSome_iff_ne_none, hseen]
    have hval : ∀ a : WebhookEventRow, a.deliveryId.map Text.val = some t.val ↔
        a.deliveryId = some t := by
      intro a
      cases a.deliveryId with
      | none => simp
      | some t' =>
        obtain ⟨val, hval⟩ := t
        obtain ⟨val', hval'⟩ := t'
        simp
    simp only [hval]
    constructor
    · rintro ⟨a, ha, hsame⟩
      obtain ⟨-, heq⟩ : a.deliveryId.isSome ∧ a.deliveryId = row.deliveryId := by
        simpa [WebhookEventRow.deliveryIndex, Index.onSome] using hsame
      exact ⟨a, ha, heq.trans hd⟩
    · rintro ⟨a, ha, heq⟩
      exact ⟨a, ha, by simp [WebhookEventRow.deliveryIndex, Index.onSome, heq, hd]⟩

/-- How an insert of an audit row is answered, given whether its delivery id has a row. -/
def auditAnswer (server : Server) (seen : Bool) (delivery : Option String) (eventType repo : String)
    (payload : Json) (error : Option String) : Except DbError Unit := do
  let _ ← Text.ofParam? delivery
  let _ ← Text.ofParam eventType
  let _ ← Text.ofParam repo
  let _ ← Jsonb.ofParam payload
  let _ ← Text.ofParam? error
  server.enter "idx_webhook_events_repo" (.text repo)
  if seen then .error (.unique WebhookEventRow.deliveryIndex.name)
  else server.enter? WebhookEventRow.deliveryIndex.name delivery

section Answer

variable (source db delivery eventType repo number payload status error)

/-- **A delivery id is recorded once**, and nothing else stops an audit row that can be stored. -/
theorem insertWebhookEvent_answer :
    (db.insertWebhookEvent source delivery eventType repo number payload status error).map
        (fun _ => ()) =
      auditAnswer db.server (db.delivered delivery) delivery eventType repo payload error := by
  unfold insertWebhookEvent auditAnswer
  cases hdelivery : Text.ofParam? delivery with
  | error e => rfl
  | ok t =>
    cases Text.ofParam eventType with
    | error e => rfl
    | ok eventType =>
      cases hrepo : Text.ofParam repo with
      | error e => rfl
      | ok t' =>
        cases Jsonb.ofParam payload with
        | error e => rfl
        | ok payload =>
          cases Text.ofParam? error with
          | error e => rfl
          | ok error =>
            simp only [bind, Except.bind, Text.ofParam_eq_ok.1 hrepo]
            cases db.server.enter "idx_webhook_events_repo" (.text repo) with
            | error e => rfl
            | ok _ =>
            simp only
            have hhas := has_deliveryIndex db
              ⟨source.draw (db.webhookEvents.rows.map WebhookEventRow.id), t, eventType, t', number,
                payload, status, error⟩
            rw [Text.ofParam?_eq_ok.1 hdelivery] at hhas
            split
            · rename_i name hfail
              obtain ⟨ix, hix, rfl, hviolated⟩ := db.webhookEvents.insert_eq_error hfail
              simp only [WebhookEventRow.indexes, List.mem_cons, List.not_mem_nil, or_false] at hix
              rcases hix with rfl | rfl
              · obtain ⟨a, ha, hsame⟩ := hviolated
                have heq : a.id = source.draw (db.webhookEvents.rows.map WebhookEventRow.id) := by
                  simpa [WebhookEventRow.idIndex, Index.on] using hsame
                refine absurd ?_ (source.fresh (db.webhookEvents.rows.map WebhookEventRow.id))
                rw [← heq]
                exact List.mem_map_of_mem ha
              · rw [hhas.1 hviolated]
                rfl
            · rename_i events hinsert
              have hno := ((Table.insert_eq_ok _).1 hinsert).1 WebhookEventRow.deliveryIndex
                (by simp [WebhookEventRow.indexes])
              rw [Bool.eq_false_iff.2 fun h => hno (hhas.2 h), Text.ofParam?_eq_ok.1 hdelivery]
              simp only [Bool.false_eq_true, if_false]
              cases db.server.enter? WebhookEventRow.deliveryIndex.name delivery <;> rfl

variable {delivery eventType repo number payload status error}

/-- An audit row that is inserted has a new delivery id, and the index has room for it. -/
theorem insertWebhookEvent_enters
    (h : db.insertWebhookEvent source delivery eventType repo number payload status error =
      .ok db') :
    db.delivered delivery = false ∧ ∀ d, delivery = some d → db.server.Fits (.text d) := by
  have hanswer := insertWebhookEvent_answer source db delivery eventType repo number payload status
    error
  rw [h] at hanswer
  unfold auditAnswer at hanswer
  obtain ⟨_, -, hok⟩ := bind_eq_ok.1 hanswer.symm
  simp only [bind_eq_ok] at hok
  obtain ⟨_, -, _, -, _, -, _, -, _, -, hok⟩ := hok
  split_ifs at hok with hseen
  exact ⟨Bool.eq_false_iff.2 hseen, Server.enter?_eq_ok.1 hok⟩

theorem insertWebhookEvent_seen {d : String} (hseen : db.webhookEvent? d ≠ none) :
    db.insertWebhookEvent source (some d) eventType repo number payload status error ≠ .ok db' := by
  intro h
  have hnew := (insertWebhookEvent_enters source db h).1
  rw [delivered, Option.any_some, Option.isSome_iff_ne_none.2 hseen] at hnew
  cases hnew

/-- What decides on a row of storable texts in a repo that the index has room for. -/
theorem auditAnswer_eq (server : Server) (seen : Bool)
    (hdelivery : ∀ d, delivery = some d → Storable d) (heventType : Storable eventType)
    (hrepo : Storable repo) (hrepofits : server.Fits (.text repo)) (hpayload : payload.storable)
    (herror : ∀ text, error = some text → Storable text) :
    auditAnswer server seen delivery eventType repo payload error =
      if seen then .error (.unique WebhookEventRow.deliveryIndex.name)
      else server.enter? WebhookEventRow.deliveryIndex.name delivery := by
  obtain ⟨t, ht⟩ := Text.ofParam?_of_storable hdelivery
  obtain ⟨t', ht'⟩ := Text.ofParam?_of_storable herror
  unfold auditAnswer
  rw [ht, ht', Text.ofParam_of_storable heventType, Text.ofParam_of_storable hrepo, Jsonb.ofParam,
    dif_pos hpayload, Server.enter_of_fits hrepofits]
  rfl

variable (delivery eventType repo number payload status error)

/-- A storable row can be inserted without a delivery id, or with a new one that the index has room
for. -/
theorem insertWebhookEvent_succeeds (heventType : Storable eventType) (hrepo : Storable repo)
    (hrepofits : db.server.Fits (.text repo)) (hpayload : payload.storable)
    (herror : ∀ text, error = some text → Storable text)
    (hdelivery : ∀ d, delivery = some d →
      Storable d ∧ db.server.Fits (.text d) ∧ db.webhookEvent? d = none) :
    ∃ db', db.insertWebhookEvent source delivery eventType repo number payload status error =
      .ok db' := by
  have hanswer := insertWebhookEvent_answer source db delivery eventType repo number payload status
    error
  have hdelivered : db.delivered delivery = false := by
    cases delivery with
    | none => rfl
    | some d => simp [delivered, (hdelivery d rfl).2.2]
  rw [auditAnswer_eq _ _ (fun d hd => (hdelivery d hd).1) heventType hrepo hrepofits hpayload herror,
    hdelivered, if_neg Bool.false_ne_true,
    (Server.enter?_eq_ok (u := ())).2 fun d hd => (hdelivery d hd).2.1] at hanswer
  cases h : db.insertWebhookEvent source delivery eventType repo number payload status error with
  | ok db' => exact ⟨db', rfl⟩
  | error e =>
    rw [h] at hanswer
    cases hanswer

/-- The index refuses a new delivery id that it has no room for. -/
theorem insertWebhookEvent_refused {d : String} (heventType : Storable eventType)
    (hrepo : Storable repo) (hrepofits : db.server.Fits (.text repo)) (hpayload : payload.storable)
    (herror : ∀ text, error = some text → Storable text) (hd : Storable d)
    (hlarge : ¬ db.server.Fits (.text d)) (hnew : db.webhookEvent? d = none) :
    db.insertWebhookEvent source (some d) eventType repo number payload status error =
      .error (db.server.refusal WebhookEventRow.deliveryIndex.name (.text d)) := by
  have hanswer := insertWebhookEvent_answer source db (some d) eventType repo number payload status
    error
  have hstorable : ∀ d', some d = some d' → Storable d' := by
    rintro d' ⟨⟩
    exact hd
  rw [auditAnswer_eq _ _ hstorable heventType hrepo hrepofits hpayload herror, delivered,
    Option.any_some, hnew, Option.isSome_none, if_neg Bool.false_ne_true, Server.enter?,
    Server.enter, if_neg hlarge] at hanswer
  cases h : db.insertWebhookEvent source (some d) eventType repo number payload status error with
  | ok db' =>
    rw [h] at hanswer
    cases hanswer
  | error e =>
    rw [h] at hanswer
    exact congrArg Except.error (Except.error.inj hanswer)

end Answer

/-! ### Programs and contributors -/

/-- One program was added, and nothing else changed. -/
structure AddsProgram (db db' : Db) (p : ProgramRow) : Prop where
  programs : db'.programs.rows = db.programs.rows ++ [p]
  contributors : db'.contributors = db.contributors
  payouts : db'.payouts = db.payouts
  webhookEvents : db'.webhookEvents = db.webhookEvents
  server : db'.server = db.server

theorem AddsProgram.mem_programs {p q : ProgramRow} (h : AddsProgram db db' p) :
    q ∈ db'.programs ↔ q ∈ db.programs ∨ q = p := by
  rw [← Table.mem_rows, h.programs, List.mem_append, List.mem_singleton, Table.mem_rows]

/-- The row of a new program. -/
theorem insertProgram_ok {onChain : Int64} {repo maintainer : String} {reward : Int64}
    {cap : Option Int64} {pid : Uuid}
    (h : db.insertProgram source onChain repo maintainer reward cap = .ok (pid, db')) :
    ∃ p, AddsProgram db db' p ∧ p.id = pid ∧ p.onChainProgramId = onChain ∧
      p.githubRepo.val = repo ∧ p.milestoneSpent = 0 := by
  unfold insertProgram at h
  simp only [bind_eq_ok] at h
  obtain ⟨repo, hrepo, maintainer, -, h⟩ := h
  split_ifs at h
  · split at h
    · cases h
    · rename_i programs hinsert
      cases h
      exact ⟨_, ⟨(Table.insert_eq_ok _).1 hinsert |>.2, rfl, rfl, rfl, rfl⟩, rfl, rfl,
        Text.ofParam_eq_ok.1 hrepo, rfl⟩
  · split at h <;> cases h

/-- One contributor was added, and nothing else changed. -/
structure AddsContributor (db db' : Db) (row : ContributorRow) : Prop where
  contributors : db'.contributors.rows = db.contributors.rows ++ [row]
  programs : db'.programs = db.programs
  payouts : db'.payouts = db.payouts
  webhookEvents : db'.webhookEvents = db.webhookEvents
  server : db'.server = db.server

theorem AddsContributor.mem_contributors {row r : ContributorRow} (h : AddsContributor db db' row) :
    r ∈ db'.contributors ↔ r ∈ db.contributors ∨ r = row := by
  rw [← Table.mem_rows, h.contributors, List.mem_append, List.mem_singleton, Table.mem_rows]

theorem insertContributor_ok (h : db.insertContributor id username address = .ok db') :
    ∃ row, AddsContributor db db' row ∧ row.programId = id ∧ row.githubUsername.val = username ∧
      row.stellarAddress.val = address := by
  unfold insertContributor at h
  simp only [bind_eq_ok] at h
  obtain ⟨username, husername, address, haddress, h⟩ := h
  split at h
  · cases h
  · rename_i contributors hinsert
    obtain ⟨-, -, h⟩ := bind_eq_ok.1 h
    split_ifs at h
    cases h
    exact ⟨_, ⟨(Table.insert_eq_ok _).1 hinsert |>.2, rfl, rfl, rfl, rfl⟩, rfl,
      Text.ofParam_eq_ok.1 husername, Text.ofParam_eq_ok.1 haddress⟩

/-! ### Growth -/

/-- The server is the same, no row was deleted, programs kept their keys, and all other rows were
kept as they were. -/
structure Grows (db db' : Db) : Prop where
  server : db'.server = db.server
  programs : ∀ p ∈ db.programs, ∃ p' ∈ db'.programs, p'.SameKeys p
  contributors : ∀ r ∈ db.contributors, r ∈ db'.contributors
  payouts : ∀ r ∈ db.payouts, r ∈ db'.payouts
  webhookEvents : ∀ r ∈ db.webhookEvents, r ∈ db'.webhookEvents

theorem Grows.refl (db : Db) : db.Grows db where
  server := rfl
  programs p hp := ⟨p, hp, .refl p⟩
  contributors _ hr := hr
  payouts _ hr := hr
  webhookEvents _ hr := hr

theorem Grows.trans {a b c : Db} (hab : a.Grows b) (hbc : b.Grows c) : a.Grows c where
  server := hbc.server.trans hab.server
  programs p hp := by
    obtain ⟨q, hq, hqp⟩ := hab.programs p hp
    obtain ⟨r, hr, hrq⟩ := hbc.programs q hq
    exact ⟨r, hr, hrq.trans hqp⟩
  contributors r hr := hbc.contributors r (hab.contributors r hr)
  payouts r hr := hbc.payouts r (hab.payouts r hr)
  webhookEvents r hr := hbc.webhookEvents r (hab.webhookEvents r hr)

theorem AddsProgram.grows {p : ProgramRow} (h : AddsProgram db db' p) : db.Grows db' where
  server := h.server
  programs q hq := ⟨q, h.mem_programs.2 (.inl hq), .refl q⟩
  contributors r hr := by rwa [h.contributors]
  payouts r hr := by rwa [h.payouts]
  webhookEvents r hr := by rwa [h.webhookEvents]

theorem AddsContributor.grows {row : ContributorRow} (h : AddsContributor db db' row) :
    db.Grows db' where
  server := h.server
  programs p hp := ⟨p, by rwa [h.programs], .refl p⟩
  contributors _ hr := h.mem_contributors.2 (.inl hr)
  payouts r hr := by rwa [h.payouts]
  webhookEvents r hr := by rwa [h.webhookEvents]

theorem AddsPayout.grows {row : PayoutRow} (h : AddsPayout db db' row) : db.Grows db' where
  server := h.server
  programs p hp := ⟨p, by rwa [h.programs], .refl p⟩
  contributors r hr := by rwa [h.contributors]
  payouts _ hr := h.mem_payouts.2 (.inl hr)
  webhookEvents r hr := by rwa [h.webhookEvents]

theorem AddsEvent.grows {row : WebhookEventRow} (h : AddsEvent db db' row) : db.Grows db' where
  server := h.server
  programs p hp := ⟨p, by rwa [h.programs], .refl p⟩
  contributors r hr := by rwa [h.contributors]
  payouts r hr := by rwa [h.payouts]
  webhookEvents _ hr := h.mem_webhookEvents.2 (.inl hr)

theorem grows_modifyProgram (db : Db) (id : Uuid) {f : ProgramRow → ProgramRow}
    (hf : ∀ p, (f p).SameKeys p) : db.Grows (db.modifyProgram id f hf) where
  server := rfl
  programs p hp :=
    ⟨ProgramRow.ifId id f p, List.mem_map_of_mem hp, ProgramRow.sameKeys_ifId id hf p⟩
  contributors _ hr := hr
  payouts _ hr := hr
  webhookEvents _ hr := hr

end Db

/-! ### Repos with a program -/

def HasProgram (db : Db) (repo : String) : Prop := ∃ p ∈ db.programs, p.githubRepo.val = repo

theorem HasProgram.grows {db db' : Db} {repo : String} (h : HasProgram db repo)
    (hgrows : db.Grows db') : HasProgram db' repo := by
  obtain ⟨p, hp, hrepo⟩ := h
  obtain ⟨p', hp', hkeys⟩ := hgrows.programs p hp
  exact ⟨p', hp', by rw [hkeys.repo, hrepo]⟩

theorem HasProgram.storable {db : Db} {repo : String} (h : HasProgram db repo) :
    Storable repo := by
  obtain ⟨p, -, hrepo⟩ := h
  exact hrepo ▸ p.githubRepo.storable

/-- The slug of a program got into an index, so the other indexes have room for it. -/
theorem HasProgram.fits {db : Db} {repo : String} (h : HasProgram db repo) :
    db.server.Fits (.text repo) := by
  obtain ⟨p, hp, hrepo⟩ := h
  exact hrepo ▸ db.programs_fit p hp

/-! ### Every statement -/

/-- What a statement that succeeds does to the database: no row matches, one row is added, or one
program is updated. -/
inductive Stmt.Writes (db : Db) : Stmt → Db → Prop
  | kept {s : Stmt} (hraise : ∀ amount id, s = .updateMilestoneSpent amount id →
      db.program? id = none) : Writes db s db
  | program {onChain : Int64} {repo maintainer : String} {reward : Int64} {cap : Option Int64}
      {db' : Db} {p : ProgramRow} (hadds : db.AddsProgram db' p) (hspent : p.milestoneSpent = 0) :
      Writes db (.insertProgram onChain repo maintainer reward cap) db'
  | contributor {db' : Db} {row : ContributorRow} (hadds : db.AddsContributor db' row) :
      Writes db (.insertContributor row.programId row.githubUsername.val row.stellarAddress.val) db'
  | payout {id : Uuid} {pr : Int64} {username address : String} {points : Int32} {amount : Int64}
      {txHash : String} {db' : Db} {row : PayoutRow} (hadds : db.AddsPayout db' row) :
      Writes db (.insertPayout id pr username address points amount txHash) db'
  | event {delivery : Option String} {eventType repo : String} {number : Option Int64}
      {payload : Json} {status : EventStatus} {error : Option String} {db' : Db}
      {row : WebhookEventRow} (hadds : db.AddsEvent db' row) :
      Writes db (.insertWebhookEvent delivery eventType repo number payload status error) db'
  | status {id : Uuid} (src dst : ProgramStatus) {p : ProgramRow} (hp : db.program? id = some p) :
      Writes db (.updateStatus id src dst) (db.setStatus id dst)
  | reward {id : Uuid} {reward : Int64} (hreward : 0 < reward) {p : ProgramRow}
      (hp : db.program? id = some p) :
      Writes db (.updateReward reward id) (db.setReward id reward hreward)
  | raised {id : Uuid} {amount spent : Int64} (escrow : Int64) {p : ProgramRow}
      (hp : db.program? id = some p)
      (hspent : spent.toInt = p.milestoneSpent.toInt + amount.toInt) :
      Writes db (.updateMilestoneSpent amount id) (db.setBalances id spent escrow)

namespace Db

variable {id : Uuid} {n : ℕ}

theorem updateStatus_writes (db : Db) (id : Uuid) (src dst : ProgramStatus) :
    (Stmt.updateStatus id src dst).Writes db (db.updateStatus id src dst).2 := by
  unfold updateStatus
  cases hp : db.program? id with
  | none => exact .kept (by rintro _ _ ⟨⟩)
  | some p =>
    simp only
    split_ifs
    · exact .status src dst hp
    · exact .kept (by rintro _ _ ⟨⟩)

theorem updateReward_writes {reward : Int64} (h : db.updateReward id reward = .ok (n, db')) :
    (Stmt.updateReward reward id).Writes db db' := by
  unfold updateReward at h
  cases hp : db.program? id with
  | none =>
    rw [hp] at h
    cases h
    exact .kept (by rintro _ _ ⟨⟩)
  | some p =>
    rw [hp] at h
    simp only at h
    split_ifs at h with hreward
    cases h
    exact .reward hreward hp

theorem updateMilestoneSpent_writes {amount : Int64}
    (h : db.updateMilestoneSpent amount id = .ok (n, db')) :
    (Stmt.updateMilestoneSpent amount id).Writes db db' := by
  unfold updateMilestoneSpent at h
  cases hp : db.program? id with
  | none =>
    rw [hp] at h
    cases h
    refine .kept ?_
    rintro _ _ ⟨⟩
    exact hp
  | some p =>
    rw [hp] at h
    simp only at h
    split at h
    · rename_i spent rest hspent hrest
      cases h
      exact .raised _ hp (i64TryFrom_eq_some.1 hspent)
    · cases h

end Db

/-- **What every statement does.** -/
theorem Stmt.writes {s : Stmt} {r : s.Result} (h : s.exec source db = .ok (r, db')) :
    s.Writes db db' := by
  cases s with
  | selectActiveProgram _ | selectContributorAddress _ _ | selectWebhookEventId _ =>
    simp only [Stmt.exec, bind_eq_ok] at h
    obtain ⟨_, -, h⟩ := h
    cases h
    exact .kept (by rintro _ _ ⟨⟩)
  | selectPayoutId _ _ | selectProgramStatus _ | selectRewardPerPoint _ | selectProgramId _ =>
    cases h
    exact .kept (by rintro _ _ ⟨⟩)
  | insertProgram =>
    obtain ⟨p, hadds, -, -, -, hspent⟩ := Db.insertProgram_ok h
    exact .program hadds hspent
  | insertContributor =>
    simp only [Stmt.exec, bind_eq_ok] at h
    obtain ⟨db'', hinsert, h⟩ := h
    cases h
    obtain ⟨row, hadds, rfl, rfl, rfl⟩ := Db.insertContributor_ok hinsert
    exact .contributor hadds
  | insertPayout =>
    obtain ⟨row, hadds, -⟩ := Db.insertPayout_ok h
    exact .payout hadds
  | insertWebhookEvent =>
    simp only [Stmt.exec, bind_eq_ok] at h
    obtain ⟨db'', hinsert, h⟩ := h
    cases h
    obtain ⟨row, hadds, -⟩ := Db.insertWebhookEvent_ok hinsert
    exact .event hadds
  | updateStatus id src dst =>
    have hdb : db' = (db.updateStatus id src dst).2 := (congrArg Prod.snd (Except.ok.inj h)).symm
    exact hdb ▸ db.updateStatus_writes id src dst
  | updateReward => exact Db.updateReward_writes h
  | updateMilestoneSpent => exact Db.updateMilestoneSpent_writes h

/-- **The database grows** with every statement that succeeds. -/
theorem Stmt.grows {s : Stmt} {r : s.Result} (h : s.exec source db = .ok (r, db')) :
    db.Grows db' := by
  cases Stmt.writes h with
  | kept => exact .refl db
  | program hadds => exact hadds.grows
  | contributor hadds => exact hadds.grows
  | payout hadds => exact hadds.grows
  | event hadds => exact hadds.grows
  | status | reward | raised => exact Db.grows_modifyProgram db _ _

theorem Stmt.exec_insertWebhookEvent_ok {delivery : Option String} {eventType repo : String}
    {number : Option Int64} {payload : Json} {status : EventStatus} {error : Option String}
    (h : db.insertWebhookEvent source delivery eventType repo number payload status error =
      .ok db') :
    (Stmt.insertWebhookEvent delivery eventType repo number payload status error).exec source db =
      .ok ((), db') := by
  simp only [Stmt.exec, h]
  rfl

theorem Stmt.exec_insertWebhookEvent_error {delivery : Option String} {eventType repo : String}
    {number : Option Int64} {payload : Json} {status : EventStatus} {error : Option String}
    {e : DbError}
    (h : db.insertWebhookEvent source delivery eventType repo number payload status error =
      .error e) :
    (Stmt.insertWebhookEvent delivery eventType repo number payload status error).exec source db =
      .error e := by
  simp only [Stmt.exec, h]
  rfl

/-! ### Statements that record no payout -/

/-- The statement records a payout. -/
def Stmt.Pays : Stmt → Prop
  | .insertPayout _ _ _ _ _ _ _ => True
  | _ => False

/-- The others leave the payouts alone. -/
theorem Stmt.payouts_kept {s : Stmt} (hs : ¬ s.Pays) {r : s.Result}
    (h : s.exec source db = .ok (r, db')) : db'.payouts = db.payouts := by
  cases Stmt.writes h with
  | payout => exact absurd trivial hs
  | program hadds => exact hadds.payouts
  | contributor hadds => exact hadds.payouts
  | event hadds => exact hadds.payouts
  | kept | status | reward | raised => rfl

/-! ### Registrations -/

/-- A registration that a statement brings about is the one that it inserts. -/
theorem Stmt.mem_contributors {s : Stmt} {q : s.Result} (h : s.exec source db = .ok (q, db'))
    {r : ContributorRow} (hr : r ∈ db'.contributors) :
    r ∈ db.contributors ∨
      s = .insertContributor r.programId r.githubUsername.val r.stellarAddress.val := by
  cases Stmt.writes h with
  | contributor hadds =>
    rcases hadds.mem_contributors.1 hr with hold | rfl
    · exact .inl hold
    · exact .inr rfl
  | program hadds | payout hadds | event hadds =>
    rw [hadds.contributors] at hr
    exact .inl hr
  | kept | status | reward | raised => exact .inl hr

/-! ### Statements that do not look at audit rows -/

/-- The same database with other audit rows. -/
def Db.withEvents (db : Db) (events : Table WebhookEventRow.indexes) : Db :=
  { db with webhookEvents := events }

theorem Db.program?_withEvents (db : Db) (events : Table WebhookEventRow.indexes) (id : Uuid) :
    (db.withEvents events).program? id = db.program? id := rfl

/-- The statement reads or writes audit rows. -/
def Stmt.Audits : Stmt → Prop
  | .selectWebhookEventId _ | .insertWebhookEvent _ _ _ _ _ _ _ => True
  | _ => False

theorem Db.insertContributor_withEvents {id : Uuid} {username address : String}
    (events : Table WebhookEventRow.indexes) :
    (db.withEvents events).insertContributor id username address =
      (db.insertContributor id username address).map (·.withEvents events) := by
  unfold Db.insertContributor
  cases Text.ofParam username with
  | error e => rfl
  | ok username =>
    cases Text.ofParam address with
    | error e => rfl
    | ok address =>
      have hserver : (db.withEvents events).server = db.server := rfl
      simp only [bind, Except.bind, hserver]
      cases db.server.enter ContributorRow.index.name (.idText id username.val) with
      | error e =>
        simp only
        split <;> split <;> rename_i h _ h' <;> cases h.symm.trans h' <;> rfl
      | ok _ =>
        simp only
        by_cases hfk : ∃ p ∈ db.programs.rows, p.id = id
        · have hfk' : ∃ p ∈ (db.withEvents events).programs.rows, p.id = id := hfk
          simp only [dif_pos hfk, dif_pos hfk']
          split <;> split <;> rename_i h _ h' <;> cases h.symm.trans h' <;> rfl
        · have hfk' : ¬ ∃ p ∈ (db.withEvents events).programs.rows, p.id = id := hfk
          simp only [dif_neg hfk, dif_neg hfk']
          split <;> split <;> rename_i h _ h' <;> cases h.symm.trans h' <;> rfl

theorem Db.insertProgram_withEvents {source : UuidSource} {onChain : Int64}
    {repo maintainer : String} {reward : Int64} {cap : Option Int64}
    (events : Table WebhookEventRow.indexes) :
    (db.withEvents events).insertProgram source onChain repo maintainer reward cap =
      (db.insertProgram source onChain repo maintainer reward cap).map
        fun r => (r.1, r.2.withEvents events) := by
  unfold Db.insertProgram
  cases Text.ofParam repo with
  | error e => rfl
  | ok repo =>
    cases Text.ofParam maintainer with
    | error e => rfl
    | ok maintainer =>
      simp only [bind, Except.bind]
      by_cases hreward : 0 < reward
      · rw [dif_pos hreward, dif_pos hreward]
        by_cases hfits : db.server.Fits (.text repo.val)
        · have hfits' : (db.withEvents events).server.Fits (.text repo.val) := hfits
          simp only [dif_pos hfits, dif_pos hfits']
          split <;> split <;> rename_i h _ h' <;> cases h.symm.trans h' <;> rfl
        · have hfits' : ¬ (db.withEvents events).server.Fits (.text repo.val) := hfits
          simp only [dif_neg hfits, dif_neg hfits']
          split <;> split <;> rename_i h _ h' <;> cases h.symm.trans h' <;> rfl
      · rw [dif_neg hreward, dif_neg hreward]
        rfl

theorem Db.insertPayout_withEvents {source : UuidSource} {id : Uuid} {pr : Int64}
    {username address txHash : String} {points : Int32} {amount : Int64}
    (events : Table WebhookEventRow.indexes) :
    (db.withEvents events).insertPayout source id pr username address points amount txHash =
      (db.insertPayout source id pr username address points amount txHash).map
        fun r => (r.1, r.2.withEvents events) := by
  unfold Db.insertPayout
  cases Text.ofParam username with
  | error e => rfl
  | ok username =>
    cases Text.ofParam address with
    | error e => rfl
    | ok address =>
      cases Text.ofParam txHash with
      | error e => rfl
      | ok txHash =>
        simp only [bind, Except.bind]
        by_cases hamount : 0 < amount
        · by_cases hpoints : 0 < points
          · simp only [dif_pos hamount, dif_pos hpoints]
            by_cases hfk : ∃ p ∈ db.programs.rows, p.id = id
            · have hfk' : ∃ p ∈ (db.withEvents events).programs.rows, p.id = id := hfk
              simp only [dif_pos hfk, dif_pos hfk']
              split <;> split <;> rename_i h _ h' <;> cases h.symm.trans h' <;> rfl
            · have hfk' : ¬ ∃ p ∈ (db.withEvents events).programs.rows, p.id = id := hfk
              simp only [dif_neg hfk, dif_neg hfk']
              split <;> split <;> rename_i h _ h' <;> cases h.symm.trans h' <;> rfl
          · rw [dif_pos hamount, dif_neg hpoints, dif_pos hamount, dif_neg hpoints]
            rfl
        · rw [dif_neg hamount, dif_neg hamount]
          rfl

/-- **Audit rows do not matter** to the other statements. -/
theorem Stmt.exec_withEvents (source : UuidSource) (db : Db) {s : Stmt} (hs : ¬ s.Audits)
    (events : Table WebhookEventRow.indexes) :
    s.exec source (db.withEvents events) =
      (s.exec source db).map fun r => (r.1, r.2.withEvents events) := by
  cases s with
  | selectWebhookEventId | insertWebhookEvent => exact absurd trivial hs
  | selectActiveProgram repo =>
    simp only [Stmt.exec]
    cases Text.ofParam repo <;> rfl
  | selectContributorAddress id username =>
    simp only [Stmt.exec]
    cases Text.ofParam username <;> rfl
  | selectPayoutId | selectProgramStatus | selectRewardPerPoint | selectProgramId => rfl
  | insertProgram onChain repo maintainer reward cap =>
    exact Db.insertProgram_withEvents events
  | insertContributor id username address =>
    simp only [Stmt.exec, Db.insertContributor_withEvents]
    cases db.insertContributor id username address <;> rfl
  | insertPayout id pr username address points amount txHash =>
    exact Db.insertPayout_withEvents events
  | updateStatus id src dst =>
    simp only [Stmt.exec, Db.updateStatus, Db.program?_withEvents]
    cases db.program? id with
    | none => rfl
    | some p =>
      simp only
      split_ifs <;> rfl
  | updateReward reward id =>
    simp only [Stmt.exec, Db.updateReward, Db.program?_withEvents]
    cases db.program? id with
    | none => rfl
    | some p =>
      simp only
      split_ifs <;> rfl
  | updateMilestoneSpent amount id =>
    simp only [Stmt.exec, Db.updateMilestoneSpent, Db.program?_withEvents]
    cases db.program? id with
    | none => rfl
    | some p =>
      simp only
      split <;> rfl

/-- Such a statement leaves the audit rows alone. -/
theorem Stmt.webhookEvents_kept {s : Stmt} (hs : ¬ s.Audits) {r : s.Result}
    (h : s.exec source db = .ok (r, db')) : db'.webhookEvents = db.webhookEvents := by
  have hsame := Stmt.exec_withEvents source db hs db.webhookEvents
  rw [show db.withEvents db.webhookEvents = db from rfl, h] at hsame
  have hdb : db' = db'.withEvents db.webhookEvents := congrArg Prod.snd (Except.ok.inj hsame)
  rw [hdb]
  rfl

end WaveFlow.Postgres
