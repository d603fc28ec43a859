import WaveFlow.Api.RegistryRefinement
import WaveFlow.Gateway.Authentic
import WaveFlow.Gateway.Unauthenticated

/-!
# Who writes what

What a step of a handler can change, in every run: an admin call changes registrations and what a
maintainer sets of a program, a webhook with a good signature anything but these, and one with a bad
signature adds audit rows that say `rejected` (`writes_of_run`).
-/

namespace WaveFlow

open Interaction Postgres Transition

variable {ι : Type} [DecidableEq ι] {C : Crates} {config : AppConfig} {calls : ι → Call}
  {w w' : World} {s s' : Service ι} {h : List (Entry (Service ι) (Event ι Op Op.Ans))}
  {e : Event ι Op Op.Ans} {source : UuidSource} {db db' : Db}

/-- A record without its balances: what the maintainer set. -/
def ProgramRecord.terms (r : ProgramRecord) : ProgramRecord :=
  { r with escrowBalance := 0, milestoneSpent := 0 }

/-- The databases show the same programs, on the same terms. -/
def SameTerms (db db' : Db) : Prop :=
  ∀ id, (db'.shown id).map ProgramRecord.terms = (db.shown id).map ProgramRecord.terms

/-- What is booked of a program. -/
def ProgramRecord.balances (r : ProgramRecord) : ℤ × ℤ := (r.escrowBalance, r.milestoneSpent)

/-- A program that was shown keeps its balances, and one that is new begins with none. -/
def NothingBooked (r r' : Option ProgramRecord) : Prop :=
  r'.map ProgramRecord.balances = r.map ProgramRecord.balances ∨
    r = none ∧ r'.map ProgramRecord.balances = some (0, 0)

/-- What a step of the handler of a call changes. -/
inductive Call.Writes (C : Crates) (config : AppConfig) (call : Call) (w w' : World) : Prop
  | nothing (hdb : w'.db = w.db) (hattestations : w'.attestations = w.attestations)
  | administers {a : AdminCall} (hcall : call = .admin a) (hpayouts : w'.db.payouts = w.db.payouts)
      (hevents : w'.db.webhookEvents = w.db.webhookEvents)
      (hbooked : ∀ id, NothingBooked (w.db.shown id) (w'.db.shown id))
      (hattestations : w'.attestations = w.attestations)
  | rejects {req : Request} (hcall : call = .webhook req) (hunsigned : ¬ req.Signed C config)
      {row : WebhookEventRow} (hadds : w.db.AddsEvent w'.db row) (hstatus : row.status = .rejected)
      (hattestations : w'.attestations = w.attestations)
  | merges {req : Request} (hcall : call = .webhook req) (hsigned : req.Signed C config)
      (hcontributors : w'.db.contributors = w.db.contributors) (hterms : SameTerms w.db w'.db)

theorem Postgres.Db.program_eq_of_id (db : Db) {p q : ProgramRow} (hp : p ∈ db.programs)
    (hq : q ∈ db.programs) (hid : p.id = q.id) : p = q := by
  have hfound := db.program?_eq_some.2 ⟨hp, hid⟩
  rw [db.program?_eq_some.2 ⟨hq, rfl⟩] at hfound
  exact (Option.some.inj hfound).symm

/-! ### Operations -/

theorem Op.Faulty.sql {q : Stmt} {ans : Except DbError q.Result}
    (h : Op.Faulty source (.sql q) w ans w') :
    w'.attestations = w.attestations ∧
      (w'.db = w.db ∨ ∃ r, q.exec source w.db = .ok (r, w'.db)) := by
  cases h with
  | lost => exact ⟨rfl, .inl rfl⟩
  | unheard h => exact ⟨rfl, .inr ⟨_, h⟩⟩
  | done h =>
    cases ans with
    | error e =>
      obtain ⟨-, rfl⟩ := h.sql_error
      exact ⟨rfl, .inl rfl⟩
    | ok r =>
      obtain ⟨db, hexec, rfl⟩ := h.sql_ok
      exact ⟨rfl, .inr ⟨r, hexec⟩⟩

theorem Op.Faulty.count {c : Counter} {ans : Unit} (h : Op.Faulty source (.count c) w ans w') :
    w'.db = w.db ∧ w'.attestations = w.attestations := by
  cases h with
  | done h =>
    cases h
    exact ⟨rfl, rfl⟩

theorem Op.Faulty.attest {r : AttestationRequest} {ans : Unit}
    (h : Op.Faulty source (.attest r) w ans w') : w'.db = w.db := by
  cases h with
  | done h =>
    cases h
    rfl

/-- An admin call touches neither payouts nor audit rows. -/
theorem administers_keeps {q : Stmt} (hq : Administers (.sql q)) {r : q.Result}
    (h : q.exec source db = .ok (r, db')) :
    db'.payouts = db.payouts ∧ db'.webhookEvents = db.webhookEvents := by
  have hpays : ¬ q.Pays := by
    intro hpays
    cases q with
    | insertPayout => cases hq
    | _ => exact hpays
  have haudits : ¬ q.Audits := by
    intro haudits
    cases q with
    | selectWebhookEventId | insertWebhookEvent => cases hq
    | _ => exact haudits
  exact ⟨Stmt.payouts_kept hpays h, Stmt.webhookEvents_kept haudits h⟩

/-- Only a booking changes the balances of a record. -/
theorem nothingBooked_of_next {r r' : Option ProgramRecord} {op : RegistryOp}
    (hnext : ProgramRecord.next r op = some r') (hop : ∀ amount changed, op ≠ .book amount changed) :
    NothingBooked r r' := by
  cases op with
  | create record =>
    obtain ⟨⟨hnone, -, hescrow, hspent, -⟩, hr'⟩ := Option.ite_none_right_eq_some.1 hnext
    cases hr'
    exact .inr ⟨hnone, by rw [Option.map_some, ProgramRecord.balances, hescrow, hspent]⟩
  | setStatus src dst changed =>
    obtain ⟨-, hr'⟩ := Option.ite_none_right_eq_some.1 hnext
    cases hr'
    cases changed <;> cases r <;> exact .inl rfl
  | setReward reward changed =>
    obtain ⟨-, hr'⟩ := Option.ite_none_right_eq_some.1 hnext
    cases hr'
    cases r <;> exact .inl rfl
  | resolve | readStatus | readReward | readId | refuse =>
    obtain ⟨-, hr'⟩ := Option.ite_none_right_eq_some.1 hnext
    cases hr'
    exact .inl rfl
  | book amount changed => exact absurd rfl (hop amount changed)

/-- An admin call books nothing. -/
theorem administers_books_nothing {q : Stmt} (hq : Administers (.sql q)) {r : q.Result}
    (h : q.exec source db = .ok (r, db')) (id : Uuid) :
    NothingBooked (db.shown id) (db'.shown id) := by
  have hdrives := Stmt.drives h id
  cases hop : q.registryOp db.creationTime id (.ok r) with
  | none =>
    rw [hop] at hdrives
    exact .inl (by rw [Option.some.inj hdrives])
  | some op =>
    rw [hop] at hdrives
    refine nothingBooked_of_next hdrives ?_
    rintro amount changed rfl
    cases hq with
    | createProgram | changeStatus | updateRatio | lookUp | registerContributor =>
      simp [Stmt.registryOp] at hop

/-- The statement neither sets the terms of a program nor registers anybody. -/
def Postgres.Stmt.KeepsTerms : Stmt → Prop
  | .insertProgram _ _ _ _ _ | .insertContributor _ _ _ | .updateStatus _ _ _
  | .updateReward _ _ => False
  | _ => True

theorem sameTerms_of_programs (h : db'.programs = db.programs) : SameTerms db db' :=
  fun id => by rw [shown_of_programs h]

theorem Postgres.Stmt.KeepsTerms.keeps {q : Stmt} (hq : q.KeepsTerms) {r : q.Result}
    (h : q.exec source db = .ok (r, db')) :
    db'.contributors = db.contributors ∧ SameTerms db db' := by
  cases Stmt.writes h with
  | kept => exact ⟨rfl, fun _ => rfl⟩
  | program | contributor | status | reward => exact absurd hq id
  | payout hadds | event hadds => exact ⟨hadds.contributors, sameTerms_of_programs hadds.programs⟩
  | @raised id' amount spent escrow p hp hspent =>
    refine ⟨rfl, fun id => ?_⟩
    by_cases hid : id' = id
    · subst hid
      rw [Db.setBalances, shown_modifyProgram_self _ hp, shown_of_program hp]
      simp [ProgramRecord.terms, ProgramRow.intoRecord, ProgramRow.withBalances]
    · rw [Db.setBalances, shown_modifyProgram_other _ hid]

theorem Allows.keepsTerms {req : Request} {m : Phase} {q : Stmt}
    (h : Allows C config req m (.sql q)) : q.KeepsTerms := by
  cases h <;> trivial

/-! ### Steps -/

theorem writes_webhook
    (hrun : Run (Service.FaultyStep C config calls) (Service.start C config calls w) h s)
    (hs : Service.FaultyStep C config calls s e s') {req : Request}
    (hi : calls e.thread = .webhook req) : (calls e.thread).Writes C config s.world s'.world := by
  have hallowed := allowed_of_run hrun hs
  rw [protocols, hi] at hallowed
  have hallows : Allows C config req (s.phase e.thread) e.op := hallowed
  have hanswered := hs.answered
  by_cases hsigned : req.Signed C config
  · obtain ⟨i, op, ans⟩ := e
    cases op with
    | sql q =>
      obtain ⟨-, hdb | ⟨r, hexec⟩⟩ := hanswered.sql
      · exact .merges hi hsigned (by rw [hdb]) (by rw [hdb]; exact sameTerms_of_programs rfl)
      · obtain ⟨hcontributors, hterms⟩ := hallows.keepsTerms.keeps hexec
        exact .merges hi hsigned hcontributors hterms
    | attest r =>
      have hdb := hanswered.attest
      exact .merges hi hsigned (by rw [hdb]) (by rw [hdb]; exact sameTerms_of_programs rfl)
    | count c => exact .nothing hanswered.count.1 hanswered.count.2
  · have hturned : (s.phase e.thread).TurnedAway := by
      by_contra hphase
      exact hsigned (signed_of_run hrun hi hphase).2
    obtain ⟨i, op, ans⟩ := e
    generalize s.phase i = m at hallows hturned
    cases hallows with
    | count c => exact .nothing hanswered.count.1 hanswered.count.2
    | reject repo number payload error =>
      obtain ⟨hattestations, hdb | ⟨r, hexec⟩⟩ := hanswered.sql
      · exact .nothing hdb hattestations
      · simp only [Stmt.exec, bind_eq_ok] at hexec
        obtain ⟨db, hinsert, hok⟩ := hexec
        have hdb : db = s'.world.db := congrArg Prod.snd (Except.ok.inj hok)
        obtain ⟨row, hadds, -, -, -, -, -, hstatus, -⟩ := Db.insertWebhookEvent_ok hinsert
        exact .rejects hi hsigned (hdb ▸ hadds) hstatus hattestations
    | audit hclaimed => exact absurd hclaimed hturned.not_claimed
    | _ => rcases hturned with hm | hm <;> cases hm

/-- **Who writes what**, in every step of every run. -/
theorem writes_of_run
    (hrun : Run (Service.FaultyStep C config calls) (Service.start C config calls w) h s)
    (hs : Service.FaultyStep C config calls s e s') :
    (calls e.thread).Writes C config s.world s'.world := by
  cases hi : calls e.thread with
  | webhook req => exact hi ▸ writes_webhook hrun hs hi
  | admin a =>
    have hallowed := allowed_of_run hrun hs
    rw [protocols, hi] at hallowed
    have hadministers : Administers e.op := hallowed
    have hanswered := hs.answered
    obtain ⟨i, op, ans⟩ := e
    cases op with
    | sql q =>
      obtain ⟨hattestations, hdb | ⟨r, hexec⟩⟩ := hanswered.sql
      · exact .nothing hdb hattestations
      · obtain ⟨hpayouts, hevents⟩ := administers_keeps hadministers hexec
        exact .administers rfl hpayouts hevents (administers_books_nothing hadministers hexec)
          hattestations
    | attest | count => cases hadministers

end WaveFlow
