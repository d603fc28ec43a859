import WaveFlow.Api.Provenance

/-!
# Programs do not disturb each other

What is recorded of a program (its row, its payouts and its registrations) changes only by calls
that concern it: an admin call that names its id, or a signed webhook that delivers a merge of its
repo. While other calls take steps, also with a failing database, nothing of it changes
(`programs_isolated`). Audit rows belong to no program.
-/

namespace WaveFlow

open Interaction Postgres Transition Relational

variable {ι : Type} [DecidableEq ι] {C : Crates} {config : AppConfig} {calls : ι → Call}
  {w : World} {s s' : Service ι} {h h' : List (Entry (Service ι) (Event ι Op Op.Ans))}
  {e : Event ι Op Op.Ans} {source : UuidSource} {db db' : Db} {id : Uuid} {req : Request}

/-! ### Frames -/

/-- The databases have the same records of a program. -/
structure Postgres.Db.SameOf (id : Uuid) (db db' : Db) : Prop where
  shown : db'.shown id = db.shown id
  payouts : ∀ row : PayoutRow, row.programId = id → (row ∈ db'.payouts ↔ row ∈ db.payouts)
  contributors : ∀ row : ContributorRow, row.programId = id →
    (row ∈ db'.contributors ↔ row ∈ db.contributors)

namespace Postgres.Db.SameOf

theorem refl (id : Uuid) (db : Db) : db.SameOf id db := ⟨rfl, fun _ _ => .rfl, fun _ _ => .rfl⟩

theorem trans {a b c : Db} (hab : a.SameOf id b) (hbc : b.SameOf id c) : a.SameOf id c where
  shown := hbc.shown.trans hab.shown
  payouts row hrow := (hbc.payouts row hrow).trans (hab.payouts row hrow)
  contributors row hrow := (hbc.contributors row hrow).trans (hab.contributors row hrow)

theorem of_programs (hprograms : db'.programs = db.programs) (hpayouts : db'.payouts = db.payouts)
    (hcontributors : db'.contributors = db.contributors) : db.SameOf id db' where
  shown := shown_of_programs hprograms id
  payouts _ _ := by rw [hpayouts]
  contributors _ _ := by rw [hcontributors]

/-- An update of another program. -/
theorem modifyProgram {id' : Uuid} {f : ProgramRow → ProgramRow} (hf : ∀ p, (f p).SameKeys p)
    (hne : id' ≠ id) : db.SameOf id (db.modifyProgram id' f hf) where
  shown := shown_modifyProgram_other hf hne
  payouts _ _ := .rfl
  contributors _ _ := .rfl

end Postgres.Db.SameOf

/-- The program that a statement changes something of. -/
def Postgres.Stmt.subject? : Stmt → Option Uuid
  | .insertContributor id _ _ | .insertPayout id _ _ _ _ _ _ | .updateStatus id _ _
  | .updateReward _ id | .updateMilestoneSpent _ id => some id
  | _ => none

/-- **A statement leaves the other programs alone**; a new program has a new id. -/
theorem Postgres.Stmt.sameOf {q : Stmt} {r : q.Result} (h : q.exec source db = .ok (r, db'))
    (hid : db.program? id ≠ none) (hq : q.subject? ≠ some id) : db.SameOf id db' := by
  cases Stmt.writes h with
  | kept => exact .refl id db
  | program hadds =>
    obtain ⟨p, hp⟩ := Option.ne_none_iff_exists'.1 hid
    refine ⟨?_, fun _ _ => by rw [hadds.payouts], fun _ _ => by rw [hadds.contributors]⟩
    rw [Db.shown, Db.shown, hadds.program?, hp, Option.some_or]
  | contributor hadds =>
    refine ⟨shown_of_programs hadds.programs id, fun _ _ => by rw [hadds.payouts],
      fun row hrow => ?_⟩
    rw [hadds.mem_contributors, or_iff_left]
    rintro rfl
    exact hq (congrArg some hrow)
  | payout =>
    obtain ⟨row, hadds, -, hprogram, -⟩ := Db.insertPayout_ok h
    refine ⟨shown_of_programs hadds.programs id, fun row' hrow => ?_,
      fun _ _ => by rw [hadds.contributors]⟩
    rw [hadds.mem_payouts, or_iff_left]
    rintro rfl
    exact hq (congrArg some (hprogram.symm.trans hrow))
  | event hadds => exact .of_programs hadds.programs hadds.payouts hadds.contributors
  | status | reward | raised => exact .modifyProgram _ fun hne => hq (congrArg some hne)

/-! ### Calls -/

/-- The program that an admin call is about, if it is there already. -/
def AdminCall.subject? : AdminCall → Option Uuid
  | .createProgram _ => none
  | .pauseProgram id | .resumeProgram id | .updateRatio id _ => some id
  | .registerContributor body => some body.programId

/-- The call may change what is recorded of the program with this id and repo. -/
def Call.Concerns (C : Crates) (config : AppConfig) (id : Uuid) (repo : String) : Call → Prop
  | .webhook req =>
      req.Signed C config ∧ ∃ merge, req.merge? C = some merge ∧ merge.githubRepo = repo
  | .admin call => call.subject? = some id

/-- The operations of an admin call. -/
inductive AdminCall.Performs : AdminCall → Op → Prop
  | create (body : CreateProgramRequest) :
      Performs (.createProgram body) (.sql (.insertProgram (saturate body.onChainProgramId)
        body.githubRepo body.maintainerAddress body.rewardPerPoint body.milestoneCap))
  | pause (id : Uuid) : Performs (.pauseProgram id) (.sql (.updateStatus id .active .paused))
  | resume (id : Uuid) : Performs (.resumeProgram id) (.sql (.updateStatus id .paused .active))
  | updateRatio (id : Uuid) (body : UpdateRatioRequest) :
      Performs (.updateRatio id body) (.sql (.updateReward body.rewardPerPoint id))
  | lookUp (body : RegisterContributorRequest) :
      Performs (.registerContributor body) (.sql (.selectProgramId body.programId))
  | register (body : RegisterContributorRequest) :
      Performs (.registerContributor body)
        (.sql (.insertContributor body.programId body.githubUsername body.stellarAddress))

theorem performs_changeStatus {allowed : Op → Prop} {src dst : ProgramStatus}
    (h : allowed (.sql (.updateStatus id src dst))) :
    Uses allowed (changeStatus src dst id).run := by
  refine uses_except_bind (uses_query h) fun n => ?_
  split_ifs <;> exact trivial

theorem performs_createProgram (body : CreateProgramRequest) :
    Uses (AdminCall.createProgram body).Performs (createProgram body).run := by
  unfold createProgram
  split_ifs
  · exact trivial
  · exact trivial
  · exact trivial
  · exact uses_except_bind (uses_query (.create body)) fun _ => trivial

theorem performs_updateRatio (id : Uuid) (body : UpdateRatioRequest) :
    Uses (AdminCall.updateRatio id body).Performs (updateRatio id body).run := by
  unfold updateRatio
  split_ifs
  · exact trivial
  · refine uses_except_bind (uses_query (.updateRatio id body)) fun n => ?_
    split_ifs <;> exact trivial

theorem performs_registerContributor (body : RegisterContributorRequest) :
    Uses (AdminCall.registerContributor body).Performs (registerContributor body).run := by
  unfold registerContributor
  split_ifs
  · exact trivial
  · exact trivial
  · refine uses_except_bind (uses_query (.lookUp body)) fun found => ?_
    split_ifs
    · exact trivial
    · exact uses_except_bind (uses_query (.register body)) fun _ => trivial

theorem AdminCall.performs (call : AdminCall) : Uses call.Performs call.handler := by
  have hroute : Uses call.Performs call.route.run := by
    cases call with
    | createProgram body => exact performs_createProgram body
    | pauseProgram id => exact performs_changeStatus (.pause id)
    | resumeProgram id => exact performs_changeStatus (.resume id)
    | updateRatio id body => exact performs_updateRatio id body
    | registerContributor body => exact performs_registerContributor body
  refine uses_bind hroute fun r => ?_
  cases r <;> exact trivial

/-- What a call does, as far as the admin calls tell. -/
def Call.Performs : Call → Op → Prop
  | .webhook _ => fun _ => True
  | .admin call => call.Performs

theorem Call.performs (call : Call) : Uses call.Performs (call.handler C config) := by
  cases call with
  | webhook req => exact follows_anything _
  | admin call => exact call.performs

/-! ### Steps -/

/-- A handler that has recorded a payout handles a merge. -/
theorem merge_of_recorded
    (hrun : Run (Service.FaultyStep C config calls) (Service.start C config calls w) h s) {i : ι}
    (hi : calls i = .webhook req) {t : Target} {reward : Int64}
    (hphase : s.phase i = .recorded t reward) : ∃ merge, req.merge? C = some merge := by
  refine webhook_of_run (K := fun _ req m _ _ => ∀ t reward, m = .recorded t reward →
    ∃ merge, req.merge? C = some merge) hrun ?_ ?_ ?_ hi t reward hphase
  · intro i req t reward hstart
    unfold startPhase at hstart
    split_ifs at hstart
  · intro h s e s' req _ _ _ hallowed hbefore t reward hnext
    obtain ⟨i, op, ans⟩ := e
    generalize s.phase i = m at hallowed hbefore hnext
    cases hallowed with
    | count c =>
      rw [Phase.next_count] at hnext
      exact hbefore t reward hnext
    | audit hm =>
      rw [Phase.next_audit hm] at hnext
      exact hbefore t reward hnext
    | program hmerge | payout hmerge | payoutAgain hmerge | contributor hmerge | attest hmerge
    | record hmerge => exact ⟨_, hmerge⟩
    | spend => exact hbefore _ _ rfl
    | reject => cases hnext
    | lookUp | reward => rcases ans with e | _ | _ <;> cases hnext
    | claim => cases ans <;> cases hnext
    | status => rcases ans with e | _ | _ | _ <;> cases hnext
  · intro i req h s e s' _ hbefore
    exact hbefore

theorem performed_of_run
    (hrun : Run (Service.FaultyStep C config calls) (Service.start C config calls w) h s)
    (hs : Service.FaultyStep C config calls s e s') : (calls e.thread).Performs e.op :=
  Pool.allowed_of_watch (R := fun i => only (calls i).Performs) hrun
    (fun i => (calls i).performs) hs

/-- What a webhook changes of a program is the payout or the milestone of a merge of its repo. -/
theorem concerns_of_webhook
    (hrun : Run (Service.FaultyStep C config calls) (Service.start C config calls w) h s)
    (hs : Service.FaultyStep C config calls s e s') (hi : calls e.thread = .webhook req) {q : Stmt}
    (hop : e.op = .sql q) {p : ProgramRow} (hp : p ∈ s.world.db.programs)
    (hq : q.subject? = some p.id) :
    (Call.webhook req).Concerns C config p.id p.githubRepo.val := by
  have hallowed := allowed_of_run hrun hs
  rw [protocols, hi, hop] at hallowed
  have hallows : Allows C config req (s.phase e.thread) (.sql q) := hallowed
  have hrepo : ∀ {merge : MergeAttestation} {t : Target}, t.program = p.id →
      Resolved s.world.db merge.githubRepo t → merge.githubRepo = p.githubRepo.val := by
    rintro merge t hprogram ⟨p', hp', hid, -, hrepo⟩
    have hsame := s.world.db.program_eq_of_id hp' hp (hid.trans hprogram)
    rw [← hrepo, hsame]
  have hsigned : ¬ (s.phase e.thread).TurnedAway → req.Signed C config :=
    fun hphase => (signed_of_run hrun hi hphase).2
  have hknows : ∀ merge, req.merge? C = some merge → Knows merge (s.phase e.thread) s.world.db :=
    fun merge hmerge => knows_of_run hrun hi hmerge
  have hmerges : ∀ t reward, s.phase e.thread = .recorded t reward →
      ∃ merge, req.merge? C = some merge := fun t reward => merge_of_recorded hrun hi
  generalize s.phase e.thread = m at hallows hsigned hknows hmerges
  cases hallows with
  | record hmerge t address reward =>
    obtain ⟨hresolved, -, -⟩ := hknows _ hmerge
    exact ⟨hsigned (by simp), _, hmerge, hrepo (Option.some.inj hq) hresolved⟩
  | spend t reward =>
    obtain ⟨merge, hmerge⟩ := hmerges t reward rfl
    obtain ⟨hresolved, -⟩ := hknows merge hmerge
    exact ⟨hsigned (by simp), merge, hmerge, hrepo (Option.some.inj hq) hresolved⟩
  | _ => cases hq

/-- A step of a call that does not concern a program. -/
theorem sameOf_of_step
    (hrun : Run (Service.FaultyStep C config calls) (Service.start C config calls w) h s)
    (hs : Service.FaultyStep C config calls s e s') {p : ProgramRow} (hp : p ∈ s.world.db.programs)
    (hno : ¬ (calls e.thread).Concerns C config p.id p.githubRepo.val) :
    s.world.db.SameOf p.id s'.world.db := by
  have hperforms := performed_of_run hrun hs
  have hanswered : e.op.Faulty C.uuids s.world e.ans s'.world := hs.answered
  rcases hanswered.effect with hdb | ⟨q, r, hop, hok⟩
  · rw [hdb]
    exact .refl _ _
  · refine Stmt.sameOf hok ?_ fun hq => hno ?_
    · exact Option.ne_none_iff_exists'.2 ⟨p, s.world.db.program?_eq_some.2 ⟨hp, rfl⟩⟩
    · cases hi : calls e.thread with
      | webhook req => exact concerns_of_webhook hrun hs hi hop hp hq
      | admin call =>
        rw [hi, hop] at hperforms
        have hadmin : call.Performs (.sql q) := hperforms
        cases hadmin with
        | create | lookUp => cases hq
        | _ => exact hq

/-- **Programs do not disturb each other**: while calls that do not concern a program take steps, in
any order and also when the database fails, nothing that is recorded of it changes. -/
theorem programs_isolated
    (hrun : Run (Service.FaultyStep C config calls) (Service.start C config calls w) h s)
    (hrun' : Run (Service.FaultyStep C config calls) s h' s') {p : ProgramRow}
    (hp : p ∈ s.world.db.programs)
    (hno : ∀ e ∈ h', ¬ (calls e.label.thread).Concerns C config p.id p.githubRepo.val) :
    s.world.db.SameOf p.id s'.world.db := by
  suffices s.world.db.SameOf p.id s'.world.db ∧ ∃ p' ∈ s'.world.db.programs, p'.SameKeys p from
    this.1
  induction hrun' with
  | nil => exact ⟨.refl _ _, p, hp, .refl p⟩
  | @snoc h' t t' e hr hs ih =>
    obtain ⟨hsame, p', hp', hkeys⟩ := ih fun e' he' => hno e' (List.mem_append_left _ he')
    have hno' := hno ⟨t, e, t'⟩ List.mem_concat_self
    rw [← hkeys.id, ← hkeys.repo] at hno'
    have hstep := sameOf_of_step (hrun.append hr) hs hp' hno'
    rw [hkeys.id] at hstep
    obtain ⟨p'', hp'', hkeys'⟩ := hs.answered.grows.programs p' hp'
    exact ⟨hsame.trans hstep, p'', hp'', hkeys'.id.trans hkeys.id,
      hkeys'.onChain.trans hkeys.onChain, hkeys'.repo.trans hkeys.repo⟩

namespace Setup

/-- A second program, and calls about the first one. -/
def neighbours : Fin 3 → Call
  | 0 => .admin (.createProgram ⟨2, "StellarRoute/Other", account, 50, none⟩)
  | 1 => .webhook (deliver signature none)
  | 2 => .admin (.pauseProgram program.1)

def neighboursRun (is : List (Fin 3)) (s : Service (Fin 3)) :
    List (Entry (Service (Fin 3)) (Event (Fin 3) Op Op.Ans)) × Service (Fin 3) :=
  Pool.play (protocols crates Setup.config neighbours) (Op.exec crates.uuids) s is

theorem run_neighbours (is : List (Fin 3)) (s : Service (Fin 3)) :
    Run (Service.FaultyStep crates Setup.config neighbours) s (neighboursRun is s).1
      (neighboursRun is s).2 :=
  faulty_of_run (Pool.run_play _ _ (fun _ _ => rfl) is s)

/-- The second program was created. -/
def founded := neighboursRun [0] (Service.start crates Setup.config neighbours world)

/-- The merge was paid, and the first program paused. -/
def disturbed := neighboursRun (List.replicate 14 1 ++ [2]) founded.2

theorem outside_disturbed {p : ProgramRow}
    (hp : founded.2.world.db.activeProgram? "StellarRoute/Other" = some p) :
    ∀ e ∈ disturbed.1,
      ¬ (neighbours e.label.thread).Concerns crates Setup.config p.id p.githubRepo.val := by
  have hthreads : disturbed.1.all (fun e => e.label.thread ≠ 0) = true := by decide +kernel
  have hid : (founded.2.world.db.activeProgram? "StellarRoute/Other").map ProgramRow.id ≠
      some program.1 := by decide +kernel
  have hmerge : ∀ merge, (deliver signature none).merge? crates = some merge →
      merge.githubRepo = "StellarRoute/WaveFlow" := by
    intro merge hmerge
    have hrepo : ((deliver signature none).merge? crates).map MergeAttestation.githubRepo =
        some "StellarRoute/WaveFlow" := by decide +kernel
    rw [hmerge] at hrepo
    exact Option.some.inj hrepo
  obtain ⟨-, hrepo, -⟩ := Db.activeProgram?_eq_some _ |>.1 hp
  intro e he
  have hne : e.label.thread ≠ 0 := of_decide_eq_true (List.all_eq_true.1 hthreads e he)
  generalize e.label.thread = i at hne
  match i with
  | 0 => exact absurd rfl hne
  | 1 =>
    rintro ⟨-, merge, hsome, hother⟩
    rw [hmerge merge hsome, hrepo] at hother
    exact absurd hother (by decide)
  | 2 =>
    intro hsubject
    rw [hp] at hid
    exact hid hsubject.symm

end Setup

theorem programs_isolated_setup :
    ∃ p ∈ Setup.founded.2.world.db.programs, p.githubRepo.val = "StellarRoute/Other" ∧
      Setup.founded.2.world.db.SameOf p.id Setup.disturbed.2.world.db := by
  have hsome : (Setup.founded.2.world.db.activeProgram? "StellarRoute/Other").isSome = true := by
    decide +kernel
  obtain ⟨p, hp⟩ := Option.isSome_iff_exists.1 hsome
  obtain ⟨hmem, hrepo, -⟩ := Db.activeProgram?_eq_some _ |>.1 hp
  exact ⟨p, hmem, hrepo, programs_isolated (Setup.run_neighbours _ _) (Setup.run_neighbours _ _)
    hmem (Setup.outside_disturbed hp)⟩

example : Setup.disturbed.2.world.db.payouts.rows.length = 1 := by decide +kernel

end WaveFlow
