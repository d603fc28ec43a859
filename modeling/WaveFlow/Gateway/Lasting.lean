import WaveFlow.Api.RegistryRefinement

/-!
# What is recorded lasts

Nothing that the services have recorded is lost or altered, in whatever order their statements come
and also when the database fails: payouts, registrations and audit rows stay as they are, and a
program stays the same program, with a milestone that only rises (`nothing_lost`). Its escrow column
begins empty and no statement fills it, so the API shows an empty escrow for every program
(`escrow_column_empty`).

A milestone only rises because a handler raises it by the price that it has read, and prices are
positive (`raises_of_run`).
-/

namespace WaveFlow

open Interaction Postgres Transition

variable {ι : Type} [DecidableEq ι] {C : Crates} {config : AppConfig} {calls : ι → Call}
  {w : World} {s s' : Service ι} {h h' : List (Entry (Service ι) (Event ι Op Op.Ans))}
  {e : Event ι Op Op.Ans} {db db' : Db}

/-! ### Records -/

/-- `r'` is a later record of the same program. -/
structure ProgramRecord.Later (r r' : ProgramRecord) : Prop where
  program : r.SameProgram r'
  spent : r.milestoneSpent ≤ r'.milestoneSpent
  escrow : 0 ≤ r.escrowBalance → 0 ≤ r'.escrowBalance ∧ r'.escrowBalance ≤ r.escrowBalance

theorem ProgramRecord.Later.refl (r : ProgramRecord) : r.Later r :=
  ⟨.refl r, le_rfl, fun h => ⟨h, le_rfl⟩⟩

theorem ProgramRecord.Later.trans {a b c : ProgramRecord} (hab : a.Later b) (hbc : b.Later c) :
    a.Later c where
  program := hab.program.trans hbc.program
  spent := hab.spent.trans hbc.spent
  escrow ha := by
    obtain ⟨hb, hle⟩ := hab.escrow ha
    obtain ⟨hc, hle'⟩ := hbc.escrow hb
    exact ⟨hc, hle'.trans hle⟩

theorem RegistryOp.Does.later {op : RegistryOp} {r r' : ProgramRecord} (h : op.Does r r')
    (hbooked : 0 ≤ op.booked) : r.Later r' where
  program := h.program
  spent := by
    rw [h.spent]
    omega
  escrow hr := by
    rcases h.escrow with hsame | hless
    · omega
    · omega

/-! ### Databases -/

/-- Nothing that is in `db` is lost or altered in `db'`. -/
structure Postgres.Db.Keeps (db db' : Db) : Prop where
  programs : ∀ id r, db.shown id = some r → ∃ r', db'.shown id = some r' ∧ r.Later r'
  contributors : ∀ r ∈ db.contributors, r ∈ db'.contributors
  payouts : ∀ r ∈ db.payouts, r ∈ db'.payouts
  webhookEvents : ∀ r ∈ db.webhookEvents, r ∈ db'.webhookEvents

theorem Postgres.Db.Keeps.refl (db : Db) : db.Keeps db where
  programs _ r hr := ⟨r, hr, .refl r⟩
  contributors _ hr := hr
  payouts _ hr := hr
  webhookEvents _ hr := hr

theorem Postgres.Db.Keeps.trans {a b c : Db} (hab : a.Keeps b) (hbc : b.Keeps c) : a.Keeps c where
  programs id r hr := by
    obtain ⟨r', hr', hlater⟩ := hab.programs id r hr
    obtain ⟨r'', hr'', hlater'⟩ := hbc.programs id r' hr'
    exact ⟨r'', hr'', hlater.trans hlater'⟩
  contributors r hr := hbc.contributors r (hab.contributors r hr)
  payouts r hr := hbc.payouts r (hab.payouts r hr)
  webhookEvents r hr := hbc.webhookEvents r (hab.webhookEvents r hr)

/-- The statement raises no milestone by less than nothing. -/
def Postgres.Stmt.Raises (s : Stmt) : Prop :=
  ∀ amount id, s = .updateMilestoneSpent amount id → 0 < amount

theorem Postgres.Stmt.Raises.booked {s : Stmt} (hs : s.Raises) {now : Timestamp} {id : Uuid}
    {r : s.Result} {op : RegistryOp} (h : s.registryOp now id (.ok r) = some op) :
    0 ≤ op.booked := by
  cases s with
  | updateMilestoneSpent amount id' =>
    have hpos := Int64.lt_iff_toInt_lt.1 (hs amount id' rfl)
    simp only [Stmt.registryOp, Option.ite_none_right_eq_some, Option.some.injEq] at h
    obtain ⟨-, rfl⟩ := h
    cases decide (r = 1) with
    | true => exact le_of_lt hpos
    | false => exact le_rfl
  | selectActiveProgram =>
    cases h
    exact le_rfl
  | selectContributorAddress | selectPayoutId | selectWebhookEventId | insertContributor
  | insertPayout | insertWebhookEvent => cases h
  | _ =>
    simp only [Stmt.registryOp, Option.ite_none_right_eq_some, Option.some.injEq] at h
    obtain ⟨-, rfl⟩ := h
    exact le_rfl

/-- What a statement makes of the record of a program that is there. -/
theorem Postgres.Stmt.later {source : UuidSource} {s : Stmt} (hs : s.Raises) {q : s.Result}
    (h : s.exec source db = .ok (q, db')) {id : Uuid} {r : ProgramRecord}
    (hr : db.shown id = some r) : ∃ r', db'.shown id = some r' ∧ r.Later r' := by
  have hdrives := Stmt.drives h id
  unfold Drives? at hdrives
  rw [hr] at hdrives
  cases hop : s.registryOp db.creationTime id (.ok q) with
  | none =>
    rw [hop] at hdrives
    exact ⟨r, (Option.some.inj hdrives).symm, .refl r⟩
  | some op =>
    rw [hop] at hdrives
    obtain ⟨r', hr', hdoes⟩ := ProgramRecord.does_of_next hdrives
    exact ⟨r', hr', hdoes.later (hs.booked hop)⟩

/-- A program that a statement brings about is a new one. -/
theorem Postgres.Stmt.fresh {source : UuidSource} {s : Stmt} {q : s.Result}
    (h : s.exec source db = .ok (q, db')) {id : Uuid} {r : ProgramRecord}
    (hnone : db.shown id = none) (hr : db'.shown id = some r) : r.Fresh := by
  have hdrives := Stmt.drives h id
  unfold Drives? at hdrives
  rw [hnone, hr] at hdrives
  cases hop : s.registryOp db.creationTime id (.ok q) with
  | none =>
    rw [hop] at hdrives
    cases hdrives
  | some op =>
    rw [hop] at hdrives
    exact ProgramRecord.fresh_of_next hdrives

theorem Postgres.Stmt.keeps {source : UuidSource} {s : Stmt} (hs : s.Raises) {q : s.Result}
    (h : s.exec source db = .ok (q, db')) : db.Keeps db' where
  programs _ _ hr := Stmt.later hs h hr
  contributors := (Stmt.grows h).contributors
  payouts := (Stmt.grows h).payouts
  webhookEvents := (Stmt.grows h).webhookEvents

/-! ### Handlers -/

/-- The price that a handler has read is positive. -/
def Phase.Priced : Phase → Prop
  | .priced _ _ reward | .recorded _ reward => 0 < reward
  | _ => True

theorem Phase.Priced.next {req : Request} {m : Phase} (hm : m.Priced) {op : Op} {ans : op.Ans}
    {w w' : World} (hallowed : Allows C config req m op)
    (hexec : op.Faulty C.uuids w ans w') : (m.next op ans).Priced := by
  cases hallowed with
  | count c =>
    rw [Phase.next_count]
    exact hm
  | audit hclaimed =>
    rw [Phase.next_audit hclaimed]
    exact hm
  | reward t address =>
    rcases ans with e | _ | reward
    · trivial
    · trivial
    · obtain ⟨db, hok, rfl⟩ := hexec.sql_ok
      exact reward_pos_of_select hok
  | record hmerge t address reward =>
    cases ans with
    | ok id => exact hm
    | error e => cases e <;> trivial
  | spend t reward =>
    cases ans with
    | ok n => trivial
    | error e => exact hm
  | reject | attest | payoutAgain => trivial
  | claim => cases ans <;> trivial
  | lookUp | payout | contributor => rcases ans with e | _ | r <;> trivial
  | program => rcases ans with e | _ | ⟨id, onChain⟩ <;> trivial
  | status => rcases ans with e | _ | _ | _ <;> trivial

theorem priced_of_run
    (hrun : Run (Service.FaultyStep C config calls) (Service.start C config calls w) h s) {i : ι}
    {req : Request} (hi : calls i = .webhook req) : (s.phase i).Priced := by
  refine webhook_of_run (K := fun _ _ m _ _ => m.Priced) hrun ?_ ?_ (fun _ _ _ _ _ _ _ hm => hm) hi
  · intro i req
    unfold startPhase
    split_ifs <;> trivial
  · intro h s e s' req _ hs _ hallowed hm
    exact hm.next hallowed hs.answered

/-- **A milestone is raised by a price.** -/
theorem raises_of_run
    (hrun : Run (Service.FaultyStep C config calls) (Service.start C config calls w) h s)
    (hs : Service.FaultyStep C config calls s e s') {q : Stmt} (hop : e.op = .sql q) :
    q.Raises := by
  rintro amount id rfl
  have hallowed := allowed_of_run hrun hs
  rw [hop] at hallowed
  obtain ⟨req, hi, hallows⟩ := webhook_of_allows (by rintro ⟨⟩) hallowed
  have hpriced := priced_of_run hrun hi
  generalize s.phase e.thread = m at hallows hpriced
  cases hallows with
  | spend t reward => exact hpriced

/-- A step keeps what there is. -/
theorem keeps_of_step
    (hrun : Run (Service.FaultyStep C config calls) (Service.start C config calls w) h s)
    (hs : Service.FaultyStep C config calls s e s') : s.world.db.Keeps s'.world.db := by
  rcases hs.answered.effect with hdb | ⟨q, r, hop, hexec⟩
  · rw [hdb]
    exact .refl _
  · exact Stmt.keeps (raises_of_run hrun hs hop) hexec

/-- A run keeps what there is. -/
theorem keeps_of_run
    (hrun : Run (Service.FaultyStep C config calls) (Service.start C config calls w) h s)
    (hrun' : Run (Service.FaultyStep C config calls) s h' s') : s.world.db.Keeps s'.world.db := by
  induction hrun' with
  | nil => exact .refl _
  | snoc hr hs ih => exact ih.trans (keeps_of_step (hrun.append hr) hs)

/-- **Nothing that was recorded is lost or altered.** From every state of a run on, with any
handlers and admin calls, statements in any order and any failures of the database: payouts,
registrations and audit rows stay as they are, and a program stays the same program, with a
milestone that only rises. -/
theorem nothing_lost
    (hrun : Run (Service.FaultyStep C config calls) (Service.start C config calls w) h s)
    (hrun' : Run (Service.FaultyStep C config calls) s h' s') : s.world.db.Keeps s'.world.db :=
  keeps_of_run hrun hrun'

theorem nothing_lost_setup :
    (Service.start Setup.crates Setup.config Setup.managed Setup.world).world.db.Keeps
      Setup.managedRun.2.world.db :=
  nothing_lost .nil (faulty_of_run Setup.run_managed)

/-- **The escrow column stays empty**: when it is empty for every program, as it is in an empty
database, it is empty in every state of every run, whatever is funded on chain. -/
theorem escrow_column_empty
    (hrun : Run (Service.FaultyStep C config calls) (Service.start C config calls w) h s)
    (hw : ∀ id r, w.db.shown id = some r → r.escrowBalance = 0) :
    ∀ id r, s.world.db.shown id = some r → r.escrowBalance = 0 := by
  induction hrun with
  | nil => exact hw
  | @snoc h s s' e hr hs ih =>
    intro id r' hr'
    rcases hs.answered.effect with hdb | ⟨q, ans, hop, hexec⟩
    · rw [hdb] at hr'
      exact ih id r' hr'
    · cases hr₀ : s.world.db.shown id with
      | none => exact (Stmt.fresh hexec hr₀ hr').2.1
      | some r =>
        obtain ⟨r'', hr'', hlater⟩ := Stmt.later (raises_of_run hr hs hop) hexec hr₀
        obtain rfl : r' = r'' := Option.some.inj (hr'.symm.trans hr'')
        have hescrow := ih id r hr₀
        obtain ⟨hge, hle⟩ := hlater.escrow hescrow.ge
        omega

theorem escrow_column_empty_setup :
    ∃ r, Setup.managedRun.2.world.db.shown Setup.program.1 = some r ∧ r.escrowBalance = 0 := by
  have hshown : (Setup.managedRun.2.world.db.shown Setup.program.1).isSome = true := by
    decide +kernel
  obtain ⟨r, hr⟩ := Option.isSome_iff_exists.1 hshown
  refine ⟨r, hr, escrow_column_empty (faulty_of_run Setup.run_managed) (fun id r hr => ?_) _ r hr⟩
  obtain ⟨p, hp, rfl⟩ := Option.map_eq_some_iff.1 hr
  have hempty : ∀ p ∈ Setup.world.db.programs.rows, p.intoRecord.escrowBalance = 0 := by
    decide +kernel
  exact hempty p (Setup.world.db.program?_eq_some.1 hp).1

end WaveFlow
