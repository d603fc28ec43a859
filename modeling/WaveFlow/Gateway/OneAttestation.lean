import WaveFlow.Gateway.MergeAlone
import WaveFlow.Gateway.Service
import WaveFlow.Library.Exclusion

/-!
# Is a pull request attested at most once?

A handler looks for a payout, looks up the author, submits the attestation, and records the payout;
the unique index of the payouts strikes only then. Two handlers of one pull request that both find
no payout and the author before either has recorded both submit. `view_step` shows that the handlers
are threads in the sense of `Library.Exclusion`, as long as no handler finds the author when the
pull request is paid by now, or while another one is between this lookup and its payout.
-/

namespace WaveFlow

open Interaction Postgres Transition

variable {ι : Type} [DecidableEq ι] {C : Crates} {config : AppConfig} {calls : ι → Call}
  {merge : MergeAttestation} {w : World} {s s' : Service ι} {e : Event ι Op Op.Ans}
  {h : List (Entry (Service ι) (Event ι Op Op.Ans))}

/-- The program on chain and the pull request of an attestation. -/
abbrev Key := UInt64 × UInt64

def keyOf (merge : MergeAttestation) (t : Target) : Key := (t.onChain.toUInt64, merge.prNumber)

/-- The handler is between its lookup of the author and recording a payout; whether it has submitted
the attestation. -/
def Phase.inside? : Phase → Option (Target × Bool)
  | .registered t _ => some (t, false)
  | .attested t _ | .priced t _ _ => some (t, true)
  | _ => none

/-- The key that a thread is inside of. -/
def Call.inside? (C : Crates) : Call → Phase → Option (Key × Bool)
  | .webhook req, m => (req.merge? C).bind fun merge => m.inside?.map fun r => (keyOf merge r.1, r.2)
  | .admin _, _ => none

/-- The pull request has a payout. -/
def PaidKey (db : Db) (k : Key) : Prop :=
  ∃ r ∈ db.payouts, r.prNumber.toInt = k.2.toNat ∧
    ∃ p ∈ db.programs, p.id = r.programId ∧ p.onChainProgramId.toUInt64 = k.1

/-- The operation submits an attestation for the pull request. -/
def attests (k : Key) (e : Event ι Op Op.Ans) : Bool :=
  match e.op with
  | .attest r => r.programId = k.1 ∧ r.prNumber = k.2
  | _ => false

/-- The number of attestations submitted for a pull request. -/
def submissions (k : Key) (h : List (Entry (Service ι) (Event ι Op Op.Ans))) : ℕ :=
  h.countP fun e => attests k e.label

/-- The service as threads that look, act and record. -/
def view (C : Crates) (calls : ι → Call) (h : List (Entry (Service ι) (Event ι Op Op.Ans)))
    (s : Service ι) : Exclusion.State ι Key where
  inside i := (calls i).inside? C (s.phase i)
  recorded := {k | PaidKey s.world.db k}
  acted k := submissions k h

/-- When a handler that found no payout looks up a registered author, there is still no payout, and
no other handler is between this lookup and its payout. -/
def LooksAlone (C : Crates) (calls : ι → Call) (s : Service ι) (e : Event ι Op Op.Ans) : Prop :=
  ∀ req merge t, calls e.thread = .webhook req → req.merge? C = some merge →
    s.phase e.thread = .unpaid t →
    e.op = .sql (.selectContributorAddress t.program merge.githubUsername) →
    s.world.db.contributor? t.program merge.githubUsername ≠ none →
    ¬ PaidKey s.world.db (keyOf merge t) ∧
      ∀ j b, (calls j).inside? C (s.phase j) ≠ some (keyOf merge t, b)

/-! ### Payouts -/

variable {db db' : Db} {k : Key} {t : Target}

/-- Without new payouts, no pull request becomes paid. -/
theorem paidKey_iff (hgrows : db.Grows db') (hpayouts : db'.payouts = db.payouts) :
    PaidKey db' k ↔ PaidKey db k := by
  unfold PaidKey
  rw [hpayouts]
  refine exists_congr fun r => and_congr_right fun hr => and_congr_right fun _ => ?_
  constructor
  · rintro ⟨p', hp', hid, hkey⟩
    obtain ⟨p, hp, hpid⟩ := db.payouts_fkey r hr
    obtain ⟨q, hq, hsame⟩ := hgrows.programs p hp
    have hqp : db'.program? q.id = some p' := by
      rw [Db.program?_eq_some]
      exact ⟨hp', hid.trans (hpid.symm.trans hsame.id.symm)⟩
    obtain rfl : q = p' := by
      have hq' : db'.program? q.id = some q := db'.program?_eq_some.2 ⟨hq, rfl⟩
      exact Option.some.inj (hq'.symm.trans hqp)
    exact ⟨p, hp, hpid, by rw [← hsame.onChain, hkey]⟩
  · rintro ⟨p, hp, hid, hkey⟩
    obtain ⟨q, hq, hsame⟩ := hgrows.programs p hp
    exact ⟨q, hq, hsame.id.trans hid, by rw [hsame.onChain, hkey]⟩

/-- The key of a resolved program is paid when the program has a payout for the number. -/
theorem paidKey_keyOf (hresolved : Resolved db merge.githubRepo t) :
    PaidKey db (keyOf merge t) ↔
      ∃ r ∈ db.payouts, r.programId = t.program ∧ r.prNumber.toInt = merge.prNumber.toNat := by
  obtain ⟨q, hq, hid, honChain, -⟩ := hresolved
  constructor
  · rintro ⟨r, hr, hnumber, p, hp, hpid, hkey⟩
    have honChain' : p.onChainProgramId = q.onChainProgramId := by
      rw [honChain]
      exact toUInt64_injective hkey
    obtain rfl := db.program_eq_of_onChain hp hq honChain'
    exact ⟨r, hr, hpid.symm.trans hid, hnumber⟩
  · rintro ⟨r, hr, hprogram, hnumber⟩
    exact ⟨r, hr, hnumber, q, hq, hid.trans hprogram.symm, by rw [honChain]; rfl⟩

/-- A lookup that finds an address: the author is registered. -/
theorem contributor_of_select {source : UuidSource} {id : Uuid} {username address : String}
    (h : (Stmt.selectContributorAddress id username).exec source db = .ok (some address, db')) :
    db.contributor? id username ≠ none := by
  intro hnone
  simp only [Stmt.exec, bind_eq_ok, hnone] at h
  obtain ⟨_, -, h⟩ := h
  cases h

/-- What recording a payout adds. -/
theorem paidKey_of_addsPayout {row : PayoutRow} (hadds : db.AddsPayout db' row)
    (hresolved : Resolved db merge.githubRepo t) (hprogram : row.programId = t.program)
    (hnumber : row.prNumber.toInt = merge.prNumber.toNat) :
    PaidKey db' k ↔ k = keyOf merge t ∨ PaidKey db k := by
  obtain ⟨q, hq, hid, honChain, -⟩ := hresolved
  unfold PaidKey
  simp only [hadds.mem_payouts, hadds.programs, or_and_right, exists_or, exists_eq_left]
  rw [or_comm]
  apply or_congr_left
  constructor
  · rintro ⟨hk, p, hp, hpid, hkey⟩
    obtain rfl : p = q := by
      have hp' : db.program? t.program = some p :=
        db.program?_eq_some.2 ⟨hp, hpid.trans hprogram⟩
      have hq' : db.program? t.program = some q := db.program?_eq_some.2 ⟨hq, hid⟩
      exact Option.some.inj (hp'.symm.trans hq')
    refine Prod.ext ?_ ?_
    · rw [← hkey, honChain]
      rfl
    · have hnat : merge.prNumber.toNat = k.2.toNat := by
        rw [hnumber] at hk
        exact_mod_cast hk
      exact (UInt64.toNat_inj.1 hnat).symm
  · rintro rfl
    exact ⟨hnumber, q, hq, hid.trans hprogram.symm, by rw [honChain]; rfl⟩

/-! ### The service as threads that look, act and record -/

/-- After a step, its thread is where its phase says. -/
theorem inside_step (hs : Service.Step C config calls s e s') :
    (view C calls (h ++ [⟨s, e, s'⟩]) s').inside =
      Function.update (view C calls h s).inside e.thread
        ((calls e.thread).inside? C (s'.phase e.thread)) := by
  funext j
  by_cases hj : j = e.thread
  · subst hj
    rw [Function.update_self]
    rfl
  · rw [Function.update_of_ne hj]
    show (calls j).inside? C (s'.phase j) = _
    rw [hs.phase_other hj]
    rfl

omit [DecidableEq ι] in
theorem submissions_append (k : Key) (s s' : Service ι) (e : Event ι Op Op.Ans) :
    submissions k (h ++ [⟨s, e, s'⟩]) = submissions k h + if attests k e then 1 else 0 := by
  simp [submissions, List.countP_append, List.countP_singleton]

/-- An operation that neither submits an attestation nor records a payout. -/
def Op.Quiet : Op → Prop
  | .attest _ => False
  | .sql q => ¬ q.Pays
  | .count _ => True

theorem payouts_of_quiet {source : UuidSource} {op : Op} {w w' : World} {ans : op.Ans}
    (hop : op.Quiet) (hexec : op.Exact source w ans w') : w'.db.payouts = w.db.payouts := by
  cases op with
  | attest r => exact absurd hop id
  | count c =>
    cases hexec
    rfl
  | sql q =>
    cases ans with
    | ok r =>
      obtain ⟨db, hok, rfl⟩ := hexec.sql_ok
      exact Stmt.payouts_kept hop hok
    | error e =>
      obtain ⟨-, rfl⟩ := hexec.sql_error
      rfl

/-- It only moves its thread. -/
theorem view_quiet (hs : Service.Step C config calls s e s') (hop : e.op.Quiet) :
    view C calls (h ++ [⟨s, e, s'⟩]) s' =
      (view C calls h s).move e.thread ((calls e.thread).inside? C (s'.phase e.thread)) := by
  have hexec : e.op.Exact C.uuids s.world e.ans s'.world := hs.answered
  refine Exclusion.State.ext (inside_step hs) ?_ ?_
  · ext k
    exact paidKey_iff hexec.grows (payouts_of_quiet hop hexec)
  · funext k
    have hno : attests k e = false := by
      unfold attests
      split
      · rename_i hattest
        rw [hattest] at hop
        exact absurd hop id
      · rfl
    show submissions k _ = submissions k h
    rw [submissions_append, hno]
    rfl

theorem step_of_same (hs : Service.Step C config calls s e s') (hop : e.op.Quiet)
    (hsame : (calls e.thread).inside? C (s'.phase e.thread) =
      (calls e.thread).inside? C (s.phase e.thread)) :
    Exclusion.Step (view C calls h s) (view C calls (h ++ [⟨s, e, s'⟩]) s') := by
  rw [view_quiet hs hop, hsame]
  show Exclusion.Step _ ((view C calls h s).move e.thread ((view C calls h s).inside e.thread))
  rw [Exclusion.move_self]
  exact .idle

/-- Submitting an attestation. -/
theorem step_of_attest {r : AttestationRequest} {ans : Unit} {i : ι}
    (hs : Service.Step C config calls s ⟨i, .attest r, ans⟩ s')
    (hin : (calls i).inside? C (s.phase i) = some (k, false))
    (hin' : (calls i).inside? C (s'.phase i) = some (k, true))
    (hr : (r.programId, r.prNumber) = k) :
    Exclusion.Step (view C calls h s) (view C calls (h ++ [⟨s, ⟨i, .attest r, ans⟩, s'⟩]) s') := by
  have hexec : (Op.attest r).Exact C.uuids s.world ans s'.world := hs.answered
  have hview : view C calls (h ++ [⟨s, ⟨i, .attest r, ans⟩, s'⟩]) s' =
      { (view C calls h s).move i (some (k, true)) with
        acted := Function.update (view C calls h s).acted k ((view C calls h s).acted k + 1) } := by
    refine Exclusion.State.ext ?_ ?_ ?_
    · rw [inside_step hs, hin']
      rfl
    · have hdb : s'.world.db = s.world.db := (congrArg (fun r => r.2.db) hexec).symm
      show {k | PaidKey s'.world.db k} = _
      rw [hdb]
      rfl
    · funext k'
      show submissions k' _ = _
      rw [submissions_append]
      by_cases hk : k' = k
      · subst hk hr
        simp [attests, view]
      · have hno : attests k' (⟨i, .attest r, ans⟩ : Event ι Op Op.Ans) = false := by
          subst hr
          simp only [attests, decide_eq_false_iff_not]
          rintro ⟨hprogram, hnumber⟩
          exact hk (Prod.ext hprogram.symm hnumber.symm)
        simp [hno, hk, view]
  rw [hview]
  exact .act i hin

/-- Recording a payout. -/
theorem step_of_record {q : Stmt} {r : q.Result} {i : ι} {row : PayoutRow}
    (hs : Service.Step C config calls s ⟨i, .sql q, .ok r⟩ s')
    (hin : (calls i).inside? C (s.phase i) = some (keyOf merge t, true))
    (hout : (calls i).inside? C (s'.phase i) = none)
    (hresolved : Resolved s.world.db merge.githubRepo t)
    (hadds : s.world.db.AddsPayout s'.world.db row) (hprogram : row.programId = t.program)
    (hnumber : row.prNumber.toInt = merge.prNumber.toNat) :
    Exclusion.Step (view C calls h s) (view C calls (h ++ [⟨s, ⟨i, .sql q, .ok r⟩, s'⟩]) s') := by
  have hview : view C calls (h ++ [⟨s, ⟨i, .sql q, .ok r⟩, s'⟩]) s' =
      { (view C calls h s).move i none with
        recorded := insert (keyOf merge t) (view C calls h s).recorded } := by
    refine Exclusion.State.ext ?_ ?_ ?_
    · rw [inside_step hs, hout]
      rfl
    · ext k'
      exact paidKey_of_addsPayout hadds hresolved hprogram hnumber
    · funext k'
      show submissions k' _ = submissions k' h
      rw [submissions_append]
      rfl
  rw [hview]
  exact .record i hin

/-- The amount of an attested merge can be recorded. -/
theorem insertPayout_of_priced (source : UuidSource) (config : AppConfig) {address : String}
    {reward : Int64} (hpoints : merge.points = 1) (hpr : merge.prNumber.toNat < 2 ^ 63)
    (hknows : Knows merge (.priced t address reward) db) (hunpaid : ¬ PaidKey db (keyOf merge t)) :
    ∃ id db', db.insertPayout source t.program (saturate merge.prNumber) merge.githubUsername
      address (pointsColumn merge.points) reward
      (attestationHash config (buildAttestation t.onChain.toUInt64 merge)) = .ok (id, db') := by
  apply insertPayout_of_knows source hpoints hknows (storable_attestationHash config _)
  rw [paidKey_keyOf hknows.1] at hunpaid
  by_contra hpaid
  obtain ⟨row, hrow, hprogram, hnumber⟩ := db.payout?_ne_none.1 hpaid
  exact hunpaid ⟨row, hrow, hprogram, by rw [hnumber, toInt_saturate hpr]⟩

/-- A program that was found has a reward. -/
theorem reward_of_resolved {source : UuidSource} {w' : World} {repo : String}
    {ans : Except DbError (Option Int64)} (hresolved : Resolved w.db repo t)
    (hexec : (Op.sql (.selectRewardPerPoint t.program)).Exact source w ans w') :
    ∃ reward, ans = .ok (some reward) := by
  obtain ⟨q, hq, hid, -⟩ := hresolved
  have hprogram : w.db.program? t.program = some q := w.db.program?_eq_some.2 ⟨hq, hid⟩
  have hreward : (Stmt.selectRewardPerPoint t.program).exec source w.db =
      .ok (some q.rewardPerPoint, w.db) := by
    simp only [Stmt.exec, hprogram]
    rfl
  exact ⟨q.rewardPerPoint, (hexec.answer hreward).1⟩

theorem inside?_webhook {req : Request} (hmerge : req.merge? C = some merge) (m : Phase) :
    (Call.webhook req).inside? C m = m.inside?.map fun r => (keyOf merge r.1, r.2) := by
  simp [Call.inside?, hmerge]

/-- **A handler looks, acts and records.** -/
theorem view_step (hs : Service.Step C config calls s e s')
    (hallowed : (protocols C config calls e.thread).allows (s.phase e.thread) e.op)
    (hknows : ∀ req merge, calls e.thread = .webhook req → req.merge? C = some merge →
      Knows merge (s.phase e.thread) s.world.db)
    (hlooks : LooksAlone C calls s e) (hsafe : Exclusion.Safe (view C calls h s)) :
    Exclusion.Step (view C calls h s) (view C calls (h ++ [⟨s, e, s'⟩]) s') := by
  obtain ⟨i, op, ans⟩ := e
  have hexec : op.Exact C.uuids s.world ans s'.world := hs.answered
  have hphase : s'.phase i = (protocols C config calls i).next (s.phase i) op ans := hs.phase_self
  have hinside : (view C calls h s).inside i = (calls i).inside? C (s.phase i) := rfl
  unfold LooksAlone at hlooks
  simp only [protocols] at hallowed hphase hlooks hknows
  cases hcall : calls i with
  | admin call =>
    rw [hcall] at hallowed
    refine step_of_same hs ?_ (by simp only [hcall]; rfl)
    cases hallowed <;> exact id
  | webhook req =>
    rw [hcall] at hallowed hphase
    change s'.phase i = (s.phase i).next op ans at hphase
    -- The operations that leave a thread inside the key it is in, or outside.
    have hsame : op.Quiet → ((s.phase i).next op ans).inside? = (s.phase i).inside? →
        Exclusion.Step (view C calls h s) (view C calls (h ++ [⟨s, ⟨i, op, ans⟩, s'⟩]) s') := by
      intro hop hsame
      apply step_of_same hs hop
      simp only [hcall, Call.inside?, hphase, hsame]
    generalize hm : s.phase i = m at hallowed hphase hsame hlooks hknows
    cases hallowed with
    | count c => exact hsame trivial (by rw [Phase.next_count])
    | reject => exact hsame id rfl
    | lookUp => exact hsame id (by rcases ans with e | _ | r <;> rfl)
    | claim => exact hsame id (by cases ans <;> rfl)
    | audit hclaimed => exact hsame id (by rw [Phase.next_audit hclaimed])
    | program => exact hsame id (by rcases ans with e | _ | r <;> rfl)
    | status => exact hsame id (by rcases ans with e | _ | _ | _ <;> rfl)
    | payoutAgain => exact hsame id rfl
    | spend => exact hsame id (by cases ans <;> rfl)
    | payout => exact hsame id (by rcases ans with e | _ | r <;> rfl)
    | @contributor merge hmerge t =>
      rcases ans with err | _ | address
      · exact hsame id rfl
      · exact hsame id rfl
      · -- The author is registered: the thread enters.
        obtain ⟨db, hok, -⟩ := hexec.sql_ok
        obtain ⟨hunpaid, halone⟩ := hlooks req merge t hcall hmerge rfl rfl
          (contributor_of_select hok)
        rw [view_quiet hs (show Op.Quiet _ from id)]
        simp only [hcall, inside?_webhook hmerge, hphase]
        refine .enter i ?_ hunpaid halone
        rw [hinside, hcall, inside?_webhook hmerge, hm]
        rfl
    | @attest merge hmerge t address =>
      refine step_of_attest (k := keyOf merge t) hs ?_ ?_ rfl
      · rw [hcall, inside?_webhook hmerge, hm]
        rfl
      · rw [hcall, inside?_webhook hmerge, hphase]
        rfl
    | reward t address =>
      cases hmerge : req.merge? C with
      | none =>
        apply step_of_same hs id
        simp only [hcall, Call.inside?, hmerge]
        rfl
      | some merge =>
        obtain ⟨reward, rfl⟩ := reward_of_resolved (hknows req merge hcall hmerge).1 hexec
        exact hsame id rfl
    | @record merge hmerge t address reward hpr =>
      have hknown := hknows req merge hcall hmerge
      have hin : (calls i).inside? C (s.phase i) = some (keyOf merge t, true) := by
        rw [hcall, inside?_webhook hmerge, hm]
        rfl
      -- The payout is recorded, as nobody else has recorded one.
      obtain ⟨payoutId, db', hinsert⟩ := insertPayout_of_priced C.uuids config
        (points_of_merge? hmerge) hpr hknown (hsafe.unrecorded i _ _ hin)
      obtain ⟨rfl, hworld⟩ := hexec.answer hinsert
      obtain ⟨row, hadds, -, hprogram, hnumber, -⟩ := Db.insertPayout_ok hinsert
      refine step_of_record hs hin ?_ hknown.1 (hworld ▸ hadds) hprogram ?_
      · rw [hcall, inside?_webhook hmerge, hphase]
        rfl
      · rw [hnumber, toInt_saturate hpr]

/-- **A pull request is attested at most once** in every run in which no handler finds the author of
a pull request that is paid by now, or that another handler is about to attest and pay. -/
theorem attested_once
    (hrun : Run (Service.Step C config calls) (Service.start C config calls w) h s)
    (hlooks : ∀ e ∈ h, LooksAlone C calls e.pre e.label) (k : Key) : submissions k h ≤ 1 := by
  have hsafe : Exclusion.Safe (view C calls h s) := by
    refine (hrun.restrict hlooks).invariant
      (fun h s => Run (Service.Step C config calls) (Service.start C config calls w) h s ∧
        Exclusion.Safe (view C calls h s)) ⟨.nil, Exclusion.safe_start ?_ fun _ => rfl⟩ ?_ |>.2
    · intro i
      show (calls i).inside? C ((calls i).begins C config) = none
      cases calls i with
      | admin call => rfl
      | webhook req =>
        have hbegins : (startPhase C config req).inside? = none := by
          unfold startPhase
          split_ifs <;> rfl
        simp only [Call.inside?, Call.begins, hbegins]
        cases req.merge? C <;> rfl
    · rintro h s e s' - ⟨hr, hsafe⟩ ⟨hs, hlook⟩
      have hallowed := allowed_of_run hr hs
      exact ⟨.snoc hr hs, hsafe.step (view_step hs hallowed
        (fun req merge hcall hmerge => knows_of_run (faulty_of_run hr) hcall hmerge) hlook hsafe)⟩
  exact hsafe.acted_le k

/-! ### Two runs -/

namespace Setup

/-- Two deliveries of one merge. -/
def deliveries : Fin 2 → Call
  | 0 => .webhook (deliver signature (some "72d3162e"))
  | 1 => .webhook (deliver signature (some "83e4273f"))

/-- The operation looks up an author. -/
def looksUp {ι : Type} (e : Event ι Op Op.Ans) : Bool :=
  match e.op with
  | .sql (.selectContributorAddress _ _) => true
  | _ => false

end Setup

/-- The second delivery has read the status when the first one looks up the author, and looks for a
payout when there is one. -/
theorem attested_once_setup :
    submissions (1, 42) (Service.play Setup.crates Setup.config Setup.deliveries Setup.world
      (List.replicate 5 1 ++ List.replicate 16 0 ++ List.replicate 11 1)).1 ≤ 1 := by
  have hcheck : ∀ e ∈ (Service.play Setup.crates Setup.config Setup.deliveries Setup.world
      (List.replicate 5 1 ++ List.replicate 16 0 ++ List.replicate 11 1)).1,
      Setup.looksUp e.label → e.pre.world.db.payouts.rows.isEmpty ∧
        ∀ j, ((Setup.deliveries j).inside? Setup.crates (e.pre.phase j)).isNone := by
    decide +kernel
  refine attested_once (Service.run_play _ _ Setup.deliveries _ _) ?_ (1, 42)
  intro e he req merge t hcall hmerge hphase hop _
  obtain ⟨hempty, hnone⟩ := hcheck e he (by rw [Setup.looksUp, hop])
  refine ⟨?_, fun j b hin => ?_⟩
  · rintro ⟨row, hrow, -⟩
    rw [← Relational.Table.mem_rows, List.isEmpty_iff.1 hempty] at hrow
    exact absurd hrow List.not_mem_nil
  · have hnone := hnone j
    rw [hin] at hnone
    cases hnone

/-- Both deliveries are handled in turns: the merge is attested twice. -/
theorem attested_twice :
    let play := Service.play Setup.crates Setup.config Setup.deliveries Setup.world
      (List.replicate 16 [0, 1]).flatten
    Run (Service.Step Setup.crates Setup.config Setup.deliveries)
        (Service.start Setup.crates Setup.config Setup.deliveries Setup.world) play.1 play.2 ∧
      submissions (1, 42) play.1 = 2 :=
  ⟨Service.run_play _ _ Setup.deliveries _ _, by decide +kernel⟩

end WaveFlow
