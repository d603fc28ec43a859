import WaveFlow.Api.Registry
import WaveFlow.Gateway.Service
import WaveFlow.Postgres.Programs

/-!
# The services keep the registry

`Db.shown` is what `GET /api/v1/programs/:id` shows of a program. Every statement, with its answer,
either has nothing to do with the program or is one operation of the registry on it
(`Stmt.drives`). So in every run without failures, with any number of webhook handlers and admin
calls whose statements interleave in any order, the statements about a program are a history of one
sequential object, and the programs are independent of each other (`registry_replayed`).
-/

namespace WaveFlow

open Interaction Postgres Relational Transition

/-- What the API shows of a program. -/
def Postgres.Db.shown (db : Db) (id : Uuid) : Option ProgramRecord :=
  (db.program? id).map ProgramRow.intoRecord

/-- The operation on program `id` that a statement with this answer is; a program is created at the
time `now`. -/
def Postgres.Stmt.registryOp (now : Timestamp) (id : Uuid) :
    (s : Stmt) → Except DbError s.Result → Option RegistryOp
  | .selectActiveProgram githubRepo, .ok found =>
      some (.resolve githubRepo ((found.filter fun t => t.1 = id).map fun t => t.2.toUInt64))
  | .selectProgramStatus id', .ok found => if id' = id then some (.readStatus found) else none
  | .selectRewardPerPoint id', .ok found =>
      if id' = id then some (.readReward (found.map Int64.toInt)) else none
  | .selectProgramId id', .ok found => if id' = id then some (.readId found.isSome) else none
  | .insertProgram onChain githubRepo maintainerAddress reward cap, .ok newId =>
      if newId = id then
        some (.create
          { id, onChainProgramId := onChain.toUInt64, githubRepo, maintainerAddress,
            rewardPerPoint := reward.toInt, escrowBalance := 0,
            milestoneCap := cap.map Int64.toInt, milestoneSpent := 0, status := .active,
            createdAt := now })
      else none
  | .updateStatus id' src dst, .ok n =>
      if id' = id then some (.setStatus src dst (n = 1)) else none
  | .updateReward reward id', .ok n =>
      if id' = id then some (.setReward reward.toInt (n = 1)) else none
  | .updateMilestoneSpent amount id', .ok n =>
      if id' = id then some (.book amount.toInt (n = 1)) else none
  | .updateMilestoneSpent amount id', .error .outOfRange =>
      if id' = id then some (.refuse amount.toInt) else none
  | _, _ => none

/-- The operation on program `id` in an entry of a history. -/
def registryOp {ι : Type} (id : Uuid) (e : Entry (Service ι) (Event ι Op Op.Ans)) :
    Option RegistryOp :=
  match e.label with
  | ⟨_, .sql s, ans⟩ => s.registryOp e.pre.world.db.creationTime id ans
  | _ => none

/-- All operations on program `id`, in order. -/
def registryOps {ι : Type} (id : Uuid) (h : List (Entry (Service ι) (Event ι Op Op.Ans))) :
    List RegistryOp :=
  h.filterMap (registryOp id)

variable {source : UuidSource} {db db' : Db} {id : Uuid}

/-! ### What is shown -/

theorem shown_eq_none : db.shown id = none ↔ db.program? id = none := Option.map_eq_none_iff

theorem shown_of_program {p : ProgramRow} (hp : db.program? id = some p) :
    db.shown id = some p.intoRecord := by
  rw [Db.shown, hp, Option.map_some]

theorem shown_of_programs (h : db'.programs = db.programs) (id : Uuid) :
    db'.shown id = db.shown id := by
  rw [Db.shown, Db.shown, Db.program?_of_programs h]

theorem shown_modifyProgram_self {p : ProgramRow} {f : ProgramRow → ProgramRow}
    (hf : ∀ p, (f p).SameKeys p) (hp : db.program? id = some p) :
    (db.modifyProgram id f hf).shown id = some (f p).intoRecord :=
  shown_of_program (Db.program?_modifyProgram_self hf hp)

theorem shown_modifyProgram_other {id' : Uuid} {f : ProgramRow → ProgramRow}
    (hf : ∀ p, (f p).SameKeys p) (hne : id' ≠ id) :
    (db.modifyProgram id' f hf).shown id = db.shown id := by
  rw [Db.shown, Db.shown, Db.program?_modifyProgram_other hf (Ne.symm hne)]

/-! ### The updates -/

/-- The operation, if there is one, takes the record to the new one. -/
def Drives? (op : Option RegistryOp) (r r' : Option ProgramRecord) : Prop :=
  op.elim (some r) (ProgramRecord.next r) = some r'

theorem Drives?.refl (r : Option ProgramRecord) : Drives? none r r := rfl

theorem drives_updateStatus {src dst : ProgramStatus} {n : ℕ}
    (h : db.updateStatus id src dst = (n, db')) :
    Drives? (some (.setStatus src dst (n = 1))) (db.shown id) (db'.shown id) := by
  unfold Db.updateStatus at h
  cases hp : db.program? id with
  | none =>
    rw [hp] at h
    cases h
    simp [Drives?, ProgramRecord.next, shown_eq_none.2 hp]
  | some p =>
    rw [hp] at h
    simp only at h
    split_ifs at h with hsrc
    · cases h
      subst hsrc
      rw [Db.setStatus, shown_modifyProgram_self _ hp, shown_of_program hp]
      simp [Drives?, ProgramRecord.next, ProgramRow.intoRecord, ProgramRow.withStatus]
    · cases h
      rw [shown_of_program hp]
      simp [Drives?, ProgramRecord.next, ProgramRow.intoRecord, hsrc]

theorem drives_updateReward {reward : Int64} {n : ℕ}
    (h : db.updateReward id reward = .ok (n, db')) :
    Drives? (some (.setReward reward.toInt (n = 1))) (db.shown id) (db'.shown id) := by
  unfold Db.updateReward at h
  cases hp : db.program? id with
  | none =>
    rw [hp] at h
    cases h
    simp [Drives?, ProgramRecord.next, shown_eq_none.2 hp]
  | some p =>
    rw [hp] at h
    simp only at h
    split_ifs at h with hreward
    cases h
    rw [Db.setReward, shown_modifyProgram_self _ hp, shown_of_program hp]
    simp [Drives?, ProgramRecord.next, ProgramRow.intoRecord, ProgramRow.withReward]

theorem fitsBigint_iff {n : ℤ} : ProgramRecord.FitsBigint n ↔ i64TryFrom n ≠ none := by
  rw [Ne, i64TryFrom_eq_none, ProgramRecord.FitsBigint]
  omega

theorem toInt_max_zero (n : Int64) : (max n 0).toInt = max n.toInt 0 := by
  have hmax : max n 0 = if n ≤ 0 then 0 else n := rfl
  rw [hmax]
  split_ifs with hn
  · exact (max_eq_right (Int64.le_iff_toInt_le.1 hn)).symm
  · rw [Int64.le_iff_toInt_le, Int.not_le] at hn
    exact (max_eq_left (le_of_lt hn)).symm

/-- The new balances are those of the record after the booking. -/
theorem intoRecord_withBalances {p : ProgramRow} {amount spent rest : Int64}
    (hspent : i64TryFrom (p.milestoneSpent.toInt + amount.toInt) = some spent)
    (hrest : i64TryFrom (p.escrowBalance.toInt - amount.toInt) = some rest) :
    (p.withBalances spent (max rest 0)).intoRecord = p.intoRecord.book amount.toInt := by
  rw [ProgramRecord.book, ProgramRow.intoRecord, ProgramRow.intoRecord, ProgramRow.withBalances,
    toInt_max_zero, i64TryFrom_eq_some.1 hspent, i64TryFrom_eq_some.1 hrest]

/-- The milestone is raised when both balances fit, and refused otherwise. -/
theorem drives_updateMilestoneSpent {amount : Int64} {n : ℕ}
    (h : db.updateMilestoneSpent amount id = .ok (n, db')) :
    Drives? (some (.book amount.toInt (n = 1))) (db.shown id) (db'.shown id) := by
  unfold Db.updateMilestoneSpent at h
  cases hp : db.program? id with
  | none =>
    rw [hp] at h
    cases h
    simp [Drives?, ProgramRecord.next, shown_eq_none.2 hp]
  | some p =>
    rw [hp] at h
    simp only at h
    split at h
    · rename_i spent rest hspent hrest
      cases h
      have hbooks : p.intoRecord.Books amount.toInt :=
        ⟨fitsBigint_iff.2 (by simp [ProgramRow.intoRecord, hspent]),
          fitsBigint_iff.2 (by simp [ProgramRow.intoRecord, hrest])⟩
      rw [Db.setBalances, shown_modifyProgram_self _ hp, shown_of_program hp]
      simp [Drives?, ProgramRecord.next, hbooks, intoRecord_withBalances hspent hrest]
    · cases h

theorem refuses_updateMilestoneSpent {amount : Int64} {e : DbError}
    (h : db.updateMilestoneSpent amount id = .error e) :
    e = .outOfRange ∧ Drives? (some (.refuse amount.toInt)) (db.shown id) (db.shown id) := by
  unfold Db.updateMilestoneSpent at h
  cases hp : db.program? id with
  | none =>
    rw [hp] at h
    cases h
  | some p =>
    rw [hp] at h
    simp only at h
    split at h
    · cases h
    · rename_i hno
      cases h
      have hbooks : ¬ p.intoRecord.Books amount.toInt := by
        rintro ⟨hspent, hrest⟩
        obtain ⟨spent, hspent⟩ := Option.ne_none_iff_exists'.1 (fitsBigint_iff.1 hspent)
        obtain ⟨rest, hrest⟩ := Option.ne_none_iff_exists'.1 (fitsBigint_iff.1 hrest)
        exact hno spent rest hspent hrest
      rw [shown_of_program hp]
      exact ⟨rfl, by simp [Drives?, ProgramRecord.next, hbooks]⟩

/-! ### Creating and finding -/

/-- A new program, as it was asked for. -/
theorem Postgres.Db.insertProgram_record {onChain reward : Int64} {repo maintainer : String}
    {cap : Option Int64} {newId : Uuid}
    (h : db.insertProgram source onChain repo maintainer reward cap = .ok (newId, db')) :
    ∃ p, db.AddsProgram db' p ∧ db.program? newId = none ∧
      p.intoRecord = ⟨newId, onChain.toUInt64, repo, maintainer, reward.toInt, 0,
        cap.map Int64.toInt, 0, .active, db.creationTime⟩ ∧ 0 < reward.toInt := by
  unfold insertProgram at h
  simp only [bind_eq_ok] at h
  obtain ⟨repo, hrepo, maintainer, hmaintainer, h⟩ := h
  split_ifs at h with hreward hfits
  · split at h
    · cases h
    · rename_i programs hinsert
      cases h
      refine ⟨_, ⟨((Table.insert_eq_ok _).1 hinsert).2, rfl, rfl, rfl, rfl⟩, ?_, ?_,
        Int64.lt_iff_toInt_lt.1 hreward⟩
      · -- The id was drawn for the row.
        refine (Table.find?_eq_none _).2 fun p hp hid =>
          source.fresh (db.programs.rows.map ProgramRow.id) ?_
        rw [← of_decide_eq_true hid]
        exact List.mem_map_of_mem hp
      · rw [← Text.ofParam_eq_ok.1 hrepo, ← Text.ofParam_eq_ok.1 hmaintainer]
        rfl
  · split at h <;> cases h

/-- A new row comes last, so a program that is there is still found first. -/
theorem Postgres.Db.AddsProgram.program? {p : ProgramRow} (h : db.AddsProgram db' p) (id : Uuid) :
    db'.program? id = (db.program? id).or (if p.id = id then some p else none) := by
  unfold Db.program? Table.find?
  rw [h.programs, List.find?_append, List.find?_singleton]
  simp only [decide_eq_true_eq]

theorem drives_insertProgram {onChain reward : Int64} {repo maintainer : String}
    {cap : Option Int64} {newId : Uuid}
    (h : db.insertProgram source onChain repo maintainer reward cap = .ok (newId, db'))
    (id : Uuid) :
    Drives? ((Stmt.insertProgram onChain repo maintainer reward cap).registryOp db.creationTime id
      (.ok newId)) (db.shown id) (db'.shown id) := by
  obtain ⟨p, hadds, hnew, hrecord, hreward⟩ := Db.insertProgram_record h
  have hpid : p.id = newId := congrArg ProgramRecord.id hrecord
  simp only [Stmt.registryOp]
  by_cases hid : newId = id
  · subst hid
    have hshown : db'.shown newId = some p.intoRecord :=
      shown_of_program (by rw [hadds.program?, hnew, Option.none_or, if_pos hpid])
    simp [Drives?, ProgramRecord.next, shown_eq_none.2 hnew, hshown, hrecord, ProgramRecord.Fresh,
      hreward]
  · have hkept : db'.shown id = db.shown id := by
      rw [Db.shown, Db.shown, hadds.program?, hpid, if_neg hid, Option.or_none]
    rw [if_neg hid, hkept]
    exact .refl _

/-- The search for the active program of a repo finds the one whose record resolves it. -/
theorem drives_selectActiveProgram (db : Db) (repo : String) (id : Uuid) :
    Drives? (some (.resolve repo (((db.activeProgram? repo).filter fun p => p.id = id).map
      fun p => p.onChainProgramId.toUInt64))) (db.shown id) (db.shown id) := by
  have hfound : (((db.activeProgram? repo).filter fun p => p.id = id).map
      fun p => p.onChainProgramId.toUInt64) = (db.shown id).bind (·.resolve repo) := by
    ext onChain
    simp only [Option.map_eq_some_iff, Option.filter_eq_some_iff, db.activeProgram?_eq_some,
      Option.bind_eq_some_iff, Db.shown, decide_eq_true_eq]
    constructor
    · rintro ⟨p, ⟨⟨hp, hrepo, hactive⟩, hid⟩, rfl⟩
      refine ⟨p.intoRecord, ⟨p, db.program?_eq_some.2 ⟨hp, hid⟩, rfl⟩, ?_⟩
      exact if_pos ⟨hrepo, hactive⟩
    · rintro ⟨_, ⟨p, hp, rfl⟩, hresolve⟩
      obtain ⟨hmem, hid⟩ := db.program?_eq_some.1 hp
      unfold ProgramRecord.resolve at hresolve
      split_ifs at hresolve with hactive
      exact ⟨p, ⟨⟨hmem, hactive.1, hactive.2⟩, hid⟩, Option.some.inj hresolve⟩
  simp [Drives?, ProgramRecord.next, hfound]

/-! ### Every statement -/

/-- A statement about another program, or about none. -/
theorem drives_other {op : RegistryOp} {id' : Uuid} (hid : ¬ id' = id)
    (h : db'.shown id = db.shown id) :
    Drives? (if id' = id then some op else none) (db.shown id) (db'.shown id) := by
  rw [if_neg hid, h]
  exact .refl _

/-- **Every statement that succeeds drives the record** of every program. -/
theorem Postgres.Stmt.drives {s : Stmt} {r : s.Result} (h : s.exec source db = .ok (r, db'))
    (id : Uuid) :
    Drives? (s.registryOp db.creationTime id (.ok r)) (db.shown id) (db'.shown id) := by
  cases s with
  | selectActiveProgram repo =>
    simp only [Stmt.exec, bind_eq_ok] at h
    obtain ⟨_, -, h⟩ := h
    cases h
    have hdrives := drives_selectActiveProgram db repo id
    simp only [Stmt.registryOp, Option.filter_map, Option.map_map]
    exact hdrives
  | selectContributorAddress | selectWebhookEventId =>
    simp only [Stmt.exec, bind_eq_ok] at h
    obtain ⟨_, -, h⟩ := h
    cases h
    exact .refl _
  | selectPayoutId =>
    cases h
    exact .refl _
  | selectProgramStatus id' | selectRewardPerPoint id' | selectProgramId id' =>
    cases h
    by_cases hid : id' = id
    · subst hid
      simp [Stmt.registryOp, Drives?, ProgramRecord.next, Db.shown, Function.comp_def,
        ProgramRow.intoRecord]
    · exact drives_other hid rfl
  | insertProgram => exact drives_insertProgram h id
  | insertContributor =>
    simp only [Stmt.exec, bind_eq_ok] at h
    obtain ⟨db'', hinsert, h⟩ := h
    cases h
    obtain ⟨row, hadds, -⟩ := Db.insertContributor_ok hinsert
    rw [shown_of_programs hadds.programs]
    exact .refl _
  | insertPayout =>
    obtain ⟨row, hadds, -⟩ := Db.insertPayout_ok h
    rw [shown_of_programs hadds.programs]
    exact .refl _
  | insertWebhookEvent =>
    simp only [Stmt.exec, bind_eq_ok] at h
    obtain ⟨db'', hinsert, h⟩ := h
    cases h
    obtain ⟨row, hadds, -⟩ := Db.insertWebhookEvent_ok hinsert
    rw [shown_of_programs hadds.programs]
    exact .refl _
  | updateStatus id' src dst =>
    by_cases hid : id' = id
    · subst hid
      simp only [Stmt.registryOp, if_true]
      exact drives_updateStatus (Except.ok.inj h)
    · refine drives_other hid ?_
      cases Stmt.writes h with
      | kept => rfl
      | status => exact shown_modifyProgram_other _ hid
  | updateReward reward id' =>
    by_cases hid : id' = id
    · subst hid
      simp only [Stmt.registryOp, if_true]
      exact drives_updateReward h
    · refine drives_other hid ?_
      cases Stmt.writes h with
      | kept => rfl
      | reward => exact shown_modifyProgram_other _ hid
  | updateMilestoneSpent amount id' =>
    by_cases hid : id' = id
    · subst hid
      simp only [Stmt.registryOp, if_true]
      exact drives_updateMilestoneSpent h
    · refine drives_other hid ?_
      cases Stmt.writes h with
      | kept => rfl
      | raised => exact shown_modifyProgram_other _ hid

/-- A statement that fails changes nothing, and is an operation only if it refuses a booking. -/
theorem Postgres.Stmt.drives_error {s : Stmt} {e : DbError} (h : s.exec source db = .error e)
    (id : Uuid) :
    Drives? (s.registryOp db.creationTime id (.error e)) (db.shown id) (db.shown id) := by
  cases s with
  | updateMilestoneSpent amount id' =>
    obtain ⟨rfl, hrefuses⟩ := refuses_updateMilestoneSpent h
    by_cases hid : id' = id
    · subst hid
      simp only [Stmt.registryOp, if_true]
      exact hrefuses
    · exact drives_other hid rfl
  | _ => exact .refl _

/-! ### Every run -/

section Run

variable {ι : Type} [DecidableEq ι] {C : Crates} {config : AppConfig} {calls : ι → Call}
  {s₀ s s' : Service ι} {e : Event ι Op Op.Ans}
  {h : List (Entry (Service ι) (Event ι Op Op.Ans))}

theorem Service.Step.drives (hs : Service.Step C config calls s e s') (id : Uuid) :
    Drives ProgramRecord.next (fun s : Service ι => s.world.db.shown id) (registryOp id)
      ⟨s, e, s'⟩ := by
  have hanswered := hs.answered
  obtain ⟨i, op, ans⟩ := e
  show Drives? _ (s.world.db.shown id) (s'.world.db.shown id)
  cases op with
  | attest | count =>
    rcases (Op.Faulty.done hanswered).effect with hdb | ⟨_, _, ⟨⟩, _⟩
    rw [hdb]
    exact .refl _
  | sql q =>
    cases ans with
    | ok r =>
      obtain ⟨db, hexec, hworld⟩ := hanswered.sql_ok
      rw [hworld]
      exact Stmt.drives hexec id
    | error err =>
      obtain ⟨hexec, hworld⟩ := hanswered.sql_error
      rw [hworld]
      exact Stmt.drives_error hexec id

theorem replayed_of_run (hrun : Run (Service.Step C config calls) s₀ h s) (id : Uuid) :
    replay ProgramRecord.next (s₀.world.db.shown id) (registryOps id h) =
      some (s.world.db.shown id) :=
  hrun.replayed fun _ he => (hrun.step_of_mem he).drives id

/-- **The services keep the registry.** In every run without failures the statements about a
program, with their answers, are a history of one sequential object, whatever the other programs,
handlers and admin calls do in between, and the API shows the record that this history leaves. -/
theorem registry_replayed (hrun : Run (Service.Step C config calls) s₀ h s) (id : Uuid) :
    replay ProgramRecord.next (s₀.world.db.shown id) (registryOps id h) =
      some (s.world.db.shown id) :=
  replayed_of_run hrun id

/-- **What the API shows tells the history.** A program that is there stays the same program: its
status is the one last set, each change of status started from the one before, its reward is the one
last set, and its milestone is all that was booked. A program that was not there is not shown until
it is created, with nothing booked, and from then on the same holds of it. -/
theorem record_tells_history (hrun : Run (Service.Step C config calls) s₀ h s) (id : Uuid) :
    (∀ r₀, s₀.world.db.shown id = some r₀ →
        ∃ r, s.world.db.shown id = some r ∧ Tells r₀ (registryOps id h) r) ∧
      (s₀.world.db.shown id = none → s.world.db.shown id = none ∨
        ∃ before record after r, registryOps id h = before ++ .create record :: after ∧
          record.Fresh ∧ s.world.db.shown id = some r ∧ Tells record after r) := by
  have hreplay := replayed_of_run hrun id
  constructor
  · intro r₀ h₀
    rw [h₀] at hreplay
    exact tells_of_replay hreplay
  · intro h₀
    rw [h₀] at hreplay
    exact created_of_replay hreplay

end Run

/-! ### A run -/

namespace Setup

/-- The merge, and in between the program is paused and its reward is raised. -/
def managed : Fin 4 → Call
  | 0 => .webhook (deliver signature none)
  | 1 => .admin (.pauseProgram program.1)
  | 2 => .admin (.updateRatio program.1 ⟨250⟩)
  | 3 => .admin (.resumeProgram program.1)

def managedRun : List (Entry (Service (Fin 4)) (Event (Fin 4) Op Op.Ans)) × Service (Fin 4) :=
  Service.play crates config managed world [0, 0, 0, 0, 1, 0, 2, 0, 0, 0, 0, 0, 0, 3]

theorem run_managed :
    Run (Service.Step crates config managed) (Service.start crates config managed world)
      managedRun.1 managedRun.2 :=
  Service.run_play crates config managed world _

end Setup

theorem registry_replayed_setup :
    replay ProgramRecord.next (Setup.world.db.shown Setup.program.1)
        (registryOps Setup.program.1 Setup.managedRun.1) =
      some (Setup.managedRun.2.world.db.shown Setup.program.1) :=
  registry_replayed Setup.run_managed Setup.program.1

theorem record_tells_history_setup :
    (∀ r₀, Setup.world.db.shown Setup.program.1 = some r₀ →
        ∃ r, Setup.managedRun.2.world.db.shown Setup.program.1 = some r ∧
          Tells r₀ (registryOps Setup.program.1 Setup.managedRun.1) r) ∧
      (Setup.world.db.shown Setup.program.1 = none →
        Setup.managedRun.2.world.db.shown Setup.program.1 = none ∨
        ∃ before record after r,
          registryOps Setup.program.1 Setup.managedRun.1 = before ++ .create record :: after ∧
            record.Fresh ∧ Setup.managedRun.2.world.db.shown Setup.program.1 = some r ∧
              Tells record after r) :=
  record_tells_history Setup.run_managed Setup.program.1

example : (registryOps Setup.program.1 Setup.managedRun.1).filterMap RegistryOp.move? =
    [(.active, .paused), (.paused, .active)] := by decide +kernel

example : bookedBy (registryOps Setup.program.1 Setup.managedRun.1) = 250 := by decide +kernel

end WaveFlow
