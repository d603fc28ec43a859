import WaveFlow.Gateway.Service

/-!
# Payouts and registrations

A handler reads the address of the author in one statement and writes it into the payout in another
one. The API owns the registrations: it checks the address before it inserts one, and has no route
that changes or removes one. So what a handler has read is still there when it records the payout.

`Reachable` are the databases that handlers and admin calls lead to from the one right after the
migrations, over any number of restarts of the services.
-/

namespace WaveFlow

open Interaction Postgres Transition

/-- The databases that handlers and admin calls lead to. -/
inductive Reachable : Db → Prop
  | empty (server : Server) : Reachable (.empty server)
  | run {ι : Type} [DecidableEq ι] {C : Crates} {config : AppConfig} {calls : ι → Call} {w : World}
      {h : List (Entry (Service ι) (Event ι Op Op.Ans))} {s : Service ι} (hw : Reachable w.db)
      (hrun : Run (Service.FaultyStep C config calls) (Service.start C config calls w) h s) :
      Reachable s.world.db

/-- A payout that agrees with the registrations. -/
structure Entered (db : Db) (row : PayoutRow) : Prop where
  registered : ∃ r, db.contributor? row.programId row.githubUsername.val = some r ∧
    r.stellarAddress = row.stellarAddress
  address : validateStellarAddress row.stellarAddress.val
  amount : 0 < row.amount
  points : 0 < row.points
  once : ∀ row' ∈ db.payouts, row'.programId = row.programId → row'.prNumber = row.prNumber →
    row' = row

/-- The invariant: registrations have valid addresses, and every payout has the address of a
registration. -/
structure Registry (db : Db) : Prop where
  valid : ∀ r ∈ db.contributors, validateStellarAddress r.stellarAddress.val
  registered : ∀ row ∈ db.payouts, ∃ r ∈ db.contributors, r.programId = row.programId ∧
    r.githubUsername = row.githubUsername ∧ r.stellarAddress = row.stellarAddress

theorem registry_empty (server : Server) : Registry (.empty server) where
  valid r hr := absurd hr (Relational.Table.not_mem_empty r)
  registered row hrow := absurd hrow (Relational.Table.not_mem_empty row)

theorem Registry.entered {db : Db} (h : Registry db) {row : PayoutRow} (hrow : row ∈ db.payouts) :
    Entered db row := by
  obtain ⟨r, hr, hprogram, husername, haddress⟩ := h.registered row hrow
  exact
    { registered := ⟨r, db.contributor?_eq_some.2 ⟨hr, hprogram, by rw [husername]⟩, haddress⟩
      address := by
        rw [← haddress]
        exact h.valid r hr
      amount := row.amount_pos
      points := row.points_pos
      once := fun row' hrow' hid hnumber => db.payout_eq_of_pr hrow' hrow hid hnumber }

section Run

variable {ι : Type} [DecidableEq ι] {C : Crates} {config : AppConfig} {calls : ι → Call} {w : World}
  {s s' : Service ι} {e : Event ι Op Op.Ans} {h : List (Entry (Service ι) (Event ι Op Op.Ans))}

/-- Only `register_contributor` inserts a registration, with an address that it has checked. -/
theorem valid_of_new (hs : Service.FaultyStep C config calls s e s')
    (hallowed : (protocols C config calls e.thread).allows (s.phase e.thread) e.op)
    {r : ContributorRow} (hr : r ∈ s'.world.db.contributors) (hnew : r ∉ s.world.db.contributors) :
    validateStellarAddress r.stellarAddress.val := by
  have hexec : e.op.Faulty C.uuids s.world e.ans s'.world := hs.answered
  rcases hexec.effect with hdb | ⟨q, _, hop, hok⟩
  · rw [hdb] at hr
    exact absurd hr hnew
  · rcases Stmt.mem_contributors hok hr with hold | rfl
    · exact absurd hold hnew
    · rw [hop] at hallowed
      simp only [protocols] at hallowed
      cases hcall : calls e.thread with
      | webhook req =>
        rw [hcall] at hallowed
        generalize s.phase e.thread = m at hallowed
        cases hallowed
      | admin call =>
        rw [hcall] at hallowed
        cases hallowed with
        | registerContributor _ _ haddress => exact haddress

/-- A payout is recorded with the address of a registration. -/
theorem registered_of_new
    (hrun : Run (Service.FaultyStep C config calls) (Service.start C config calls w) h s)
    (hs : Service.FaultyStep C config calls s e s') {row : PayoutRow}
    (hrow : row ∈ s'.world.db.payouts) (hnew : row ∉ s.world.db.payouts) :
    ∃ r ∈ s'.world.db.contributors, r.programId = row.programId ∧
      r.githubUsername = row.githubUsername ∧ r.stellarAddress = row.stellarAddress := by
  have hallowed := allowed_of_run hrun hs
  obtain ⟨txHash, hop⟩ := insertPayout_of_new hs.answered hnew hrow
  rw [hop] at hallowed
  obtain ⟨req, merge, t, hcall, hmerge, hphase, hprogram, -, hauthor, -⟩ :=
    priced_of_record hallowed
  -- The handler knows the registration that it read, and registrations stay.
  have hknows := knows_of_run hrun hcall hmerge
  rw [hphase] at hknows
  obtain ⟨-, ⟨r, hr, hid, husername, haddress⟩, -⟩ := hknows
  exact ⟨r, hs.answered.grows.contributors r hr, hid.trans hprogram,
    Text.eq_of_val (husername.trans hauthor), Text.eq_of_val haddress⟩

/-- **Every step keeps the invariant.** -/
theorem Registry.step (hregistry : Registry s.world.db)
    (hrun : Run (Service.FaultyStep C config calls) (Service.start C config calls w) h s)
    (hs : Service.FaultyStep C config calls s e s') : Registry s'.world.db where
  valid r hr := by
    by_cases hold : r ∈ s.world.db.contributors
    · exact hregistry.valid r hold
    · exact valid_of_new hs (allowed_of_run hrun hs) hr hold
  registered row hrow := by
    by_cases hold : row ∈ s.world.db.payouts
    · obtain ⟨r, hr, hrest⟩ := hregistry.registered row hold
      exact ⟨r, hs.answered.grows.contributors r hr, hrest⟩
    · exact registered_of_new hrun hs hrow hold

theorem Registry.run (hregistry : Registry w.db)
    (hrun : Run (Service.FaultyStep C config calls) (Service.start C config calls w) h s) :
    Registry s.world.db := by
  refine hrun.invariant (fun _ s => Registry s.world.db) hregistry ?_
  intro h s e s' hr hregistry hs
  exact hregistry.step hr hs

end Run

theorem Reachable.registry {db : Db} (h : Reachable db) : Registry db := by
  induction h with
  | empty server => exact registry_empty server
  | run _ hrun ih => exact ih.run hrun

/-- **Payouts agree with the registrations**, in every database that handlers and admin calls lead
to, in any order and over any number of restarts. -/
theorem payout_entered {db : Db} (hdb : Reachable db) {row : PayoutRow} (hrow : row ∈ db.payouts) :
    Entered db row :=
  hdb.registry.entered hrow

namespace Setup

/-- A program is created, its author registered, and a merge delivered. -/
def founding : Fin 3 → Call
  | 0 => .admin (.createProgram ⟨1, "StellarRoute/WaveFlow", account, 100, none⟩)
  | 1 => .admin (.registerContributor ⟨program.1, "alice", account⟩)
  | 2 => .webhook (deliver signature none)

def blank : World := ⟨.empty server, [], fun _ => 0⟩

end Setup

/-- The payout of a merge, from the database right after the migrations. -/
theorem payout_entered_setup :
    let play := Service.play Setup.crates Setup.config Setup.founding Setup.blank
      (List.replicate 4 0 ++ List.replicate 4 1 ++ List.replicate 16 2)
    ∃ row ∈ play.2.world.db.payouts, Entered play.2.world.db row := by
  intro play
  have hsome : play.2.world.db.payouts.rows ≠ [] := by decide +kernel
  obtain ⟨row, hrow⟩ := List.exists_mem_of_ne_nil _ hsome
  have hblank : Reachable Setup.blank.db := .empty Setup.server
  exact ⟨row, hrow, payout_entered
    (.run hblank (faulty_of_run (Service.run_play _ _ Setup.founding _ _))) hrow⟩

end WaveFlow
