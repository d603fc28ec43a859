import WaveFlow.Gateway.Authentic
import WaveFlow.Postgres.Programs

/-!
# The price of a payout

A handler submits the attestation first and reads the price of the program afterwards, in a
statement of its own. `Quoted` follows the program from the one to the other: what is booked is the
price that was read, and it is the price at the attestation unless the program's price was set in
between.
-/

namespace WaveFlow

open Interaction Postgres Transition

variable {ι : Type} [DecidableEq ι] {C : Crates} {config : AppConfig} {calls : ι → Call}
  {req : Request} {merge : MergeAttestation} {t : Target} {w : World} {i : ι}
  {s s' : Service ι} {e : Event ι Op Op.Ans} {h : List (Entry (Service ι) (Event ι Op Op.Ans))}
  {row : PayoutRow}

/-- The amount is the points at this reward. -/
def Postgres.PayoutRow.BookedAt (row : PayoutRow) (reward : Int64) : Prop :=
  row.amount.toInt = row.points.toInt * reward.toInt

instance (row : PayoutRow) (reward : Int64) : Decidable (row.BookedAt reward) :=
  inferInstanceAs (Decidable (_ = _))

/-- How a payout came to its price: one handler attested when the program's row was `p`, read the
price when it was `q`, and recorded the payout. -/
structure Booking (h : List (Entry (Service ι) (Event ι Op Op.Ans))) (row : PayoutRow)
    (attested loaded booked : Entry (Service ι) (Event ι Op Op.Ans)) (p q : ProgramRow) : Prop where
  order : [attested, loaded, booked].Sublist h
  threads : loaded.label.thread = attested.label.thread ∧
    booked.label.thread = attested.label.thread
  attests : ∃ r, attested.label.op = .attest r ∧ r.programId = p.onChainProgramId.toUInt64 ∧
    r.githubUsername = row.githubUsername.val ∧ row.prNumber.toInt = r.prNumber.toNat
  attestedAt : attested.pre.world.db.program? row.programId = some p
  loads : loaded.label.op = .sql (.selectRewardPerPoint row.programId)
  loadedAt : loaded.pre.world.db.program? row.programId = some q
  absent : row ∉ booked.pre.world.db.payouts
  present : row ∈ booked.post.world.db.payouts

/-- The step does not change the price of a program while a handler has attested for it and has not
read the price yet. -/
def KeepsPrice (s : Service ι) (e : Event ι Op Op.Ans) : Prop :=
  ∀ reward id p, e.op = .sql (.updateReward reward id) → s.world.db.program? id = some p →
    p.rewardPerPoint ≠ reward → ∀ i t address, s.phase i = .attested t address → t.program ≠ id

/-! ### The price between the attestation and its lookup -/

/-- An entry in which thread `i` attests the merge, when the program's row is `p`. -/
structure Attests (e : Entry (Service ι) (Event ι Op Op.Ans)) (i : ι) (merge : MergeAttestation)
    (t : Target) (p : ProgramRow) : Prop where
  thread : e.label.thread = i
  op : e.label.op = .attest (buildAttestation t.onChain.toUInt64 merge)
  program : e.pre.world.db.program? t.program = some p
  onChain : p.onChainProgramId = t.onChain

/-- An entry in which thread `i` reads the price, when the program's row is `q`. -/
structure Loads (e : Entry (Service ι) (Event ι Op Op.Ans)) (i : ι) (t : Target)
    (q : ProgramRow) : Prop where
  thread : e.label.thread = i
  op : e.label.op = .sql (.selectRewardPerPoint t.program)
  program : e.pre.world.db.program? t.program = some q

/-- What the phase of a handler tells about the price. -/
def Quoted (h : List (Entry (Service ι) (Event ι Op Op.Ans))) (i : ι) (merge : MergeAttestation) :
    Phase → Db → Prop
  | .attested t _, db => ∃ attested p, attested ∈ h ∧ Attests attested i merge t p ∧
      ((∀ e ∈ h, KeepsPrice e.pre e.label) →
        ∃ q, db.program? t.program = some q ∧ q.rewardPerPoint = p.rewardPerPoint)
  | .priced t _ reward, _ => ∃ attested loaded p q, [attested, loaded].Sublist h ∧
      Attests attested i merge t p ∧ Loads loaded i t q ∧ q.rewardPerPoint = reward ∧
      ((∀ e ∈ h, KeepsPrice e.pre e.label) → q.rewardPerPoint = p.rewardPerPoint)
  | _, _ => True

/-- A step that keeps the price keeps it for a handler between the two. -/
theorem program?_of_keepsPrice (hs : Service.FaultyStep C config calls s e s')
    (hkeeps : KeepsPrice s e) {address : String} (hi : s.phase i = .attested t address)
    {p : ProgramRow} (hp : s.world.db.program? t.program = some p) :
    ∃ q, s'.world.db.program? t.program = some q ∧ q.rewardPerPoint = p.rewardPerPoint := by
  have hexec : e.op.Faulty C.uuids s.world e.ans s'.world := hs.answered
  rcases hexec.effect with hdb | ⟨q, r, hop, hok⟩
  · exact ⟨p, by rw [hdb, hp], rfl⟩
  · -- Any statement may have changed the row, but only an update of the reward its price.
    have hchanges := Stmt.changes hok t.program
    rw [hp] at hchanges
    obtain ⟨p', hp', hreward | rfl⟩ := hchanges.reward_eq
    · exact ⟨p', hp', hreward⟩
    · by_contra hno
      exact hkeeps _ _ p hop hp (fun heq => hno ⟨p', hp', heq.symm⟩) i t address hi rfl

/-- A step that leaves the phase of a handler leaves what it tells about the price. -/
theorem Quoted.snoc (hs : Service.FaultyStep C config calls s e s')
    (hquoted : Quoted h i merge (s.phase i) s.world.db) :
    Quoted (h ++ [⟨s, e, s'⟩]) i merge (s.phase i) s'.world.db := by
  have hbefore : (∀ e' ∈ h ++ [⟨s, e, s'⟩], KeepsPrice e'.pre e'.label) →
      ∀ e' ∈ h, KeepsPrice e'.pre e'.label := fun hall e' he' => hall e' (List.mem_append_left _ he')
  generalize hm : s.phase i = m at hquoted
  cases m with
  | attested t address =>
    obtain ⟨attested, p, hmem, hattests, hkept⟩ := hquoted
    refine ⟨attested, p, List.mem_append_left _ hmem, hattests, fun hall => ?_⟩
    obtain ⟨q, hq, hreward⟩ := hkept (hbefore hall)
    have hkeeps : KeepsPrice s e := hall ⟨s, e, s'⟩ List.mem_concat_self
    obtain ⟨q', hq', hreward'⟩ := program?_of_keepsPrice hs hkeeps hm hq
    exact ⟨q', hq', hreward'.trans hreward⟩
  | priced t address reward =>
    obtain ⟨attested, loaded, p, q, horder, hattests, hloads, hreward, hkept⟩ := hquoted
    exact ⟨attested, loaded, p, q, horder.trans (List.sublist_append_left _ _), hattests, hloads,
      hreward, fun hall => hkept (hbefore hall)⟩
  | _ => trivial

/-- **A handler's own step** keeps what its phase tells about the price. -/
theorem quoted_next (hs : Service.FaultyStep C config calls s e s')
    (hmerge : req.merge? C = some merge) (hallowed : Allows C config req (s.phase e.thread) e.op)
    (hknows : Knows merge (s.phase e.thread) s.world.db)
    (hquoted : Quoted h e.thread merge (s.phase e.thread) s.world.db) :
    Quoted (h ++ [⟨s, e, s'⟩]) e.thread merge ((s.phase e.thread).next e.op e.ans)
      s'.world.db := by
  have hsnoc := hquoted.snoc hs
  obtain ⟨i, op, ans⟩ := e
  have hexec : op.Faulty C.uuids s.world ans s'.world := hs.answered
  generalize hm : s.phase i = m at hallowed hknows hquoted hsnoc
  -- Two steps lead to a phase that tells of a price: the attestation and the lookup.
  cases hallowed with
  | count c =>
    rw [Phase.next_count]
    exact hsnoc
  | audit hclaimed =>
    rw [Phase.next_audit hclaimed]
    exact hsnoc
  | attest hother t address =>
    obtain rfl := Option.some.inj (hother.symm.trans hmerge)
    obtain ⟨⟨p, hp, hid, honChain, -⟩, -⟩ := hknows
    have hprogram : s.world.db.program? t.program = some p :=
      s.world.db.program?_eq_some.2 ⟨hp, hid⟩
    have hdb : s'.world.db = s.world.db := by
      rcases hexec.effect with hdb | ⟨q, r, hop, -⟩
      · exact hdb
      · cases hop
    exact ⟨_, p, List.mem_concat_self, ⟨rfl, rfl, hprogram, honChain⟩,
      fun _ => ⟨p, by rw [hdb, hprogram], rfl⟩⟩
  | reward t address =>
    rcases ans with err | _ | reward
    · exact trivial
    · exact trivial
    · obtain ⟨db, hok, -⟩ := hexec.sql_ok
      obtain ⟨q, hq, hreward⟩ := program_of_select hok
      obtain ⟨attested, p, hmem, hattests, hkept⟩ := hquoted
      refine ⟨attested, _, p, q, (List.singleton_sublist.2 hmem).append (.refl _), hattests,
        ⟨rfl, rfl, hq⟩, hreward, fun hall => ?_⟩
      obtain ⟨q', hq', hsame⟩ := hkept fun e' he' => hall e' (List.mem_append_left _ he')
      obtain rfl : q' = q := Option.some.inj (hq'.symm.trans hq)
      exact hsame
  | reject | payoutAgain => exact trivial
  | lookUp | program | payout | contributor => rcases ans with err | _ | r <;> exact trivial
  | status => rcases ans with err | _ | _ | _ <;> exact trivial
  | claim | spend => cases ans <;> exact trivial
  | record =>
    rcases ans with err | r
    · cases err <;> exact trivial
    · exact trivial

theorem quoted_of_run
    (hrun : Run (Service.FaultyStep C config calls) (Service.start C config calls w) h s)
    (hi : calls i = .webhook req) (hmerge : req.merge? C = some merge) :
    Quoted h i merge (s.phase i) s.world.db := by
  refine webhook_of_run (K := fun i req m h w => ∀ merge, req.merge? C = some merge →
    Quoted h i merge m w.db) hrun ?_ ?_ ?_ hi merge hmerge
  · intro i req merge _
    unfold startPhase
    split_ifs <;> exact trivial
  · intro h s e s' req hr hs hi hallowed hquoted merge hmerge
    exact quoted_next hs hmerge hallowed (knows_of_run hr hi hmerge) (hquoted merge hmerge)
  · intro i req h s e s' hs hquoted merge hmerge
    exact (hquoted merge hmerge).snoc hs

/-! ### Payouts -/

/-- One point at the price that was read. -/
theorem Postgres.PayoutRow.bookedAt_iff (hpoints : row.points = 1) {reward : Int64} :
    row.BookedAt reward ↔ row.amount = reward := by
  rw [PayoutRow.BookedAt, hpoints, show (1 : Int32).toInt = 1 from rfl, one_mul, Int64.toInt_inj]

/-- **At which price a payout is booked**, in every run: at the price at the attestation exactly if
it is still the price when it is read. It is, when no step changes the price of a program between the
two. -/
theorem payout_booked_at_attested_price
    (hrun : Run (Service.FaultyStep C config calls) (Service.start C config calls w) h s)
    (hnew : row ∉ w.db.payouts) (hrow : row ∈ s.world.db.payouts) :
    ∃ attested loaded booked p q, Booking h row attested loaded booked p q ∧
      (row.BookedAt p.rewardPerPoint ↔ q.rewardPerPoint = p.rewardPerPoint) ∧
      ((∀ e ∈ h, KeepsPrice e.pre e.label) → row.BookedAt p.rewardPerPoint) := by
  obtain ⟨booked, before, rest, rfl, hr, hs, habsent, hpresent⟩ :=
    hrun.came_about (fun s => row ∈ s.world.db.payouts) hnew hrow
  have hallowed := allowed_of_run hr hs
  obtain ⟨txHash, hop⟩ := insertPayout_of_new hs.answered habsent hpresent
  rw [hop] at hallowed
  -- The handler that recorded the payout had read its price by then.
  obtain ⟨req, merge, t, hcall, hmerge, hphase, hprogram, hnumber, hauthor, hpoints⟩ :=
    priced_of_record hallowed
  have hquoted := quoted_of_run hr hcall hmerge
  rw [hphase] at hquoted
  obtain ⟨attested, loaded, p, q, horder, hattests, hloads, hreward, hkept⟩ := hquoted
  refine ⟨attested, loaded, booked, p, q, ?_, ?_, fun hall => ?_⟩
  · exact
      { order := horder.append (List.singleton_sublist.2 List.mem_cons_self)
        threads := ⟨hloads.thread.trans hattests.thread.symm, hattests.thread.symm⟩
        attests := ⟨_, hattests.op, by rw [hattests.onChain]; rfl, hauthor, hnumber⟩
        attestedAt := by rw [← hprogram, hattests.program]
        loads := by rw [← hprogram, hloads.op]
        loadedAt := by rw [← hprogram, hloads.program]
        absent := habsent
        present := hpresent }
  · rw [PayoutRow.bookedAt_iff hpoints, ← hreward]
  · rw [PayoutRow.bookedAt_iff hpoints, ← hreward]
    exact hkept fun e he => hall e (List.mem_append_left _ he)

/-! ### Two runs -/

namespace Setup

/-- A delivery of the merge, and an admin who doubles the reward. -/
def repricing : Fin 2 → Call
  | 0 => delivery
  | 1 => .admin (.updateRatio program.1 ⟨200⟩)

def setsPrice (op : Op) : Bool :=
  match op with
  | .sql (.updateReward _ _) => true
  | _ => false

/-- The handler has attested and not read the price. -/
def awaitsPrice (m : Phase) : Bool :=
  match m with
  | .attested _ _ => true
  | _ => false

end Setup

/-- The reward is doubled after the merge is paid. -/
theorem payout_booked_at_attested_price_setup :
    let play := Service.play Setup.crates Setup.config Setup.repricing Setup.world
      (List.replicate 16 0 ++ [1])
    ∃ row ∈ play.2.world.db.payouts, ∃ attested loaded booked p q,
      Booking play.1 row attested loaded booked p q ∧ row.BookedAt p.rewardPerPoint := by
  intro play
  have hcheck : play.2.world.db.payouts.rows ≠ [] ∧ Setup.world.db.payouts.rows = [] ∧
      ∀ e ∈ play.1, Setup.setsPrice e.label.op → ∀ i, ¬ Setup.awaitsPrice (e.pre.phase i) := by
    decide +kernel
  obtain ⟨hsome, hnone, hkept⟩ := hcheck
  obtain ⟨row, hrow⟩ := List.exists_mem_of_ne_nil _ hsome
  have hnew : row ∉ Setup.world.db.payouts := by
    rw [← Relational.Table.mem_rows, hnone]
    exact List.not_mem_nil
  have hrun : Run (Service.FaultyStep Setup.crates Setup.config Setup.repricing)
      (Service.start Setup.crates Setup.config Setup.repricing Setup.world) play.1 play.2 :=
    faulty_of_run (Service.run_play _ _ Setup.repricing _ _)
  obtain ⟨attested, loaded, booked, p, q, hbooking, -, hbooked⟩ :=
    payout_booked_at_attested_price hrun hnew hrow
  refine ⟨row, hrow, attested, loaded, booked, p, q, hbooking, hbooked fun e he => ?_⟩
  intro reward id p hop _ _ i t address hphase
  have hno := hkept e he (by rw [hop]; rfl) i
  rw [hphase] at hno
  exact absurd rfl hno

/-- The reward is doubled between the attestation and the lookup of the price: one point is booked at
the later price. -/
theorem payout_booked_at_later_price :
    let play := Service.play Setup.crates Setup.config Setup.repricing Setup.world
      (List.replicate 8 0 ++ [1] ++ List.replicate 8 0)
    Run (Service.Step Setup.crates Setup.config Setup.repricing)
        (Service.start Setup.crates Setup.config Setup.repricing Setup.world) play.1 play.2 ∧
      play.2.world.attestations = [⟨1, "alice", 42, 1⟩] ∧
      ∃ e ∈ play.1, e.label.op.attested? = some ⟨1, "alice", 42, 1⟩ ∧
        ∃ p ∈ e.pre.world.db.programs.rows, ∃ row ∈ play.2.world.db.payouts.rows,
          row.programId = p.id ∧ row.prNumber = 42 ∧ ¬ row.BookedAt p.rewardPerPoint :=
  ⟨Service.run_play _ _ Setup.repricing _ _, by decide +kernel⟩

end WaveFlow
