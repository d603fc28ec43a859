import WaveFlow.Api.Isolation
import WaveFlow.Postgres.Programs

/-!
# Admin calls that are sent again

A maintainer who gets no answer sends the request again. Any number of copies of an admin call,
side by side and with a failing database, do what one call does, once (`admin_call_once`): the
database is the one of before or the one after the call, and the latter as soon as a copy was
answered by anything but a server error.

Each call has one statement that changes something (`AdminCall.change?`), and every such statement
changes nothing when it comes again (`after_again`).
-/

namespace WaveFlow

open Interaction Postgres Transition Relational

variable {source : UuidSource} {db db' : Db} {id : Uuid} {call : AdminCall}

/-! ### Statements that come again -/

/-- The database after a statement; one that fails changes nothing. -/
def Postgres.Stmt.after (source : UuidSource) (q : Stmt) (db : Db) : Db :=
  match q.exec source db with
  | .ok (_, db') => db'
  | .error _ => db

theorem after_ok {q : Stmt} {r : q.Result} (h : q.exec source db = .ok (r, db')) :
    q.after source db = db' := by
  rw [Stmt.after, h]

theorem after_error {q : Stmt} {err : DbError} (h : q.exec source db = .error err) :
    q.after source db = db := by
  rw [Stmt.after, h]

/-- A row that was added agrees with none of the others on an index. -/
theorem not_same_of_appended {Row : Type*} {indexes : List (Index Row)} {t t' : Table indexes}
    (ix : Index Row) (hix : ix ∈ indexes) {a r : Row} (h : t'.rows = t.rows ++ [r]) (ha : a ∈ t) :
    ix.same a r = false := by
  have hdistinct := t'.distinct ix hix
  rw [h, List.pairwise_append] at hdistinct
  exact hdistinct.2.2 a ha r (List.mem_singleton_self r)

/-- A statement that fails once it has succeeded can come again. -/
theorem after_again_of_fails {q : Stmt}
    (h : ∀ db r db', q.exec source db = .ok (r, db') →
      ∀ r' db'', q.exec source db' ≠ .ok (r', db''))
    (db : Db) : q.after source (q.after source db) = q.after source db := by
  cases hexec : q.exec source db with
  | error err => rw [after_error hexec, after_error hexec]
  | ok result =>
    obtain ⟨r, db'⟩ := result
    rw [after_ok hexec]
    cases hagain : q.exec source db' with
    | error err => exact after_error hagain
    | ok result' => exact absurd hagain (h db r db' hexec _ _)

theorem insertProgram_again {onChain reward : Int64} {repo maintainer : String}
    {cap : Option Int64} (db : Db) :
    (Stmt.insertProgram onChain repo maintainer reward cap).after source
        ((Stmt.insertProgram onChain repo maintainer reward cap).after source db) =
      (Stmt.insertProgram onChain repo maintainer reward cap).after source db := by
  refine after_again_of_fails (fun db r db' hfirst r' db'' hsecond => ?_) db
  obtain ⟨p, hadds, -, -, hrepo, -⟩ := Db.insertProgram_ok hfirst
  obtain ⟨q, hadds', -, -, hrepo', -⟩ := Db.insertProgram_ok hsecond
  have hdiff := not_same_of_appended ProgramRow.repoIndex
    (by simp [ProgramRow.indexes]) hadds'.programs (hadds.mem_programs.2 (.inr rfl))
  have hsame : p.githubRepo = q.githubRepo := Text.eq_of_val (hrepo.trans hrepo'.symm)
  simp [ProgramRow.repoIndex, Index.on, hsame] at hdiff

theorem insertContributor_again {username address : String} (db : Db) :
    (Stmt.insertContributor id username address).after source
        ((Stmt.insertContributor id username address).after source db) =
      (Stmt.insertContributor id username address).after source db := by
  refine after_again_of_fails (fun db r db' hfirst r' db'' hsecond => ?_) db
  simp only [Stmt.exec, bind_eq_ok] at hfirst hsecond
  obtain ⟨_, hfirst, hok⟩ := hfirst
  cases hok
  obtain ⟨_, hsecond, hok⟩ := hsecond
  cases hok
  obtain ⟨row, hadds, hid, husername, -⟩ := Db.insertContributor_ok hfirst
  obtain ⟨row', hadds', hid', husername', -⟩ := Db.insertContributor_ok hsecond
  have hdiff := not_same_of_appended ContributorRow.index
    (by simp [ContributorRow.indexes]) hadds'.contributors (hadds.mem_contributors.2 (.inr rfl))
  have hsame : row.githubUsername = row'.githubUsername :=
    Text.eq_of_val (husername.trans husername'.symm)
  simp [ContributorRow.index, Index.on, hid, hid', hsame] at hdiff

theorem db_eq_of_programs {db db' : Db} (hserver : db.server = db'.server)
    (hprograms : db.programs.rows = db'.programs.rows)
    (hcontributors : db.contributors = db'.contributors) (hpayouts : db.payouts = db'.payouts)
    (hevents : db.webhookEvents = db'.webhookEvents) : db = db' := by
  obtain ⟨server, ⟨rows, _⟩, contributors, payouts, events, _, _, _⟩ := db
  obtain ⟨server', ⟨rows', _⟩, contributors', payouts', events', _, _, _⟩ := db'
  subst hserver hprograms hcontributors hpayouts hevents
  rfl

theorem modifyProgram_again {f : ProgramRow → ProgramRow} (hf : ∀ p, (f p).SameKeys p)
    (htwice : ∀ p, f (f p) = f p) (db : Db) :
    (db.modifyProgram id f hf).modifyProgram id f hf = db.modifyProgram id f hf := by
  have hifId : ∀ p, ProgramRow.ifId id f (ProgramRow.ifId id f p) = ProgramRow.ifId id f p := by
    intro p
    by_cases hp : p.id = id
    · simp only [ProgramRow.ifId, if_pos hp, (hf p).id, htwice]
    · simp only [ProgramRow.ifId, if_neg hp]
  refine db_eq_of_programs rfl ?_ rfl rfl rfl
  show (db.programs.rows.map (ProgramRow.ifId id f)).map (ProgramRow.ifId id f) =
    db.programs.rows.map (ProgramRow.ifId id f)
  rw [List.map_map]
  exact List.map_congr_left fun p _ => hifId p

theorem updateReward_again {reward : Int64} (db : Db) :
    (Stmt.updateReward reward id).after source ((Stmt.updateReward reward id).after source db) =
      (Stmt.updateReward reward id).after source db := by
  cases hexec : (Stmt.updateReward reward id).exec source db with
  | error err => rw [after_error hexec, after_error hexec]
  | ok result =>
    obtain ⟨n, db'⟩ := result
    rw [after_ok hexec]
    cases Stmt.writes hexec with
    | kept => exact after_ok hexec
    | reward hreward hp =>
      have hfound : (db.setReward id reward hreward).program? id = some _ :=
        Db.program?_modifyProgram_self _ hp
      have hagain : (Stmt.updateReward reward id).exec source (db.setReward id reward hreward) =
          .ok ((1 : ℕ), (db.setReward id reward hreward).setReward id reward hreward) := by
        simp only [Stmt.exec, Db.updateReward, hfound, dif_pos hreward]
      rw [after_ok hagain]
      exact modifyProgram_again (f := .withReward reward hreward) _ (fun _ => rfl) db

theorem updateStatus_again {src dst : ProgramStatus} (hne : dst ≠ src) (db : Db) :
    (Stmt.updateStatus id src dst).after source ((Stmt.updateStatus id src dst).after source db) =
      (Stmt.updateStatus id src dst).after source db := by
  show ((db.updateStatus id src dst).2.updateStatus id src dst).2 = (db.updateStatus id src dst).2
  cases hp : db.program? id with
  | none => simp only [Db.updateStatus, hp]
  | some p =>
    by_cases hsrc : p.status = src
    · have hfound : (db.setStatus id dst).program? id = some (p.withStatus dst) :=
        Db.program?_modifyProgram_self _ hp
      have hdst : (p.withStatus dst).status ≠ src := hne
      simp only [Db.updateStatus, hp, if_pos hsrc, hfound, if_neg hdst]
    · simp only [Db.updateStatus, hp, if_neg hsrc]

/-! ### The effect of a call -/

/-- What one undisturbed call makes of the database. -/
def AdminCall.effect (source : UuidSource) (call : AdminCall) (db : Db) : Db :=
  (runAlone source ⟨db, [], fun _ => 0⟩ call.handler).2.db

/-- The statement of a call that changes something, if its fields are accepted. -/
def AdminCall.change? : AdminCall → Option Stmt
  | .createProgram body =>
      if !validateGithubRepo body.githubRepo then none
      else if body.rewardPerPoint ≤ 0 then none
      else if !validateStellarAddress body.maintainerAddress then none
      else some (.insertProgram (saturate body.onChainProgramId) body.githubRepo
        body.maintainerAddress body.rewardPerPoint body.milestoneCap)
  | .pauseProgram id => some (.updateStatus id .active .paused)
  | .resumeProgram id => some (.updateStatus id .paused .active)
  | .updateRatio id body =>
      if body.rewardPerPoint ≤ 0 then none else some (.updateReward body.rewardPerPoint id)
  | .registerContributor body =>
      if body.githubUsername.isEmpty || body.stellarAddress.isEmpty then none
      else if !validateStellarAddress body.stellarAddress then none
      else some (.insertContributor body.programId body.githubUsername body.stellarAddress)

/-- **The change of a call can come again.** -/
theorem after_again {q : Stmt} (hq : call.change? = some q) (db : Db) :
    q.after source (q.after source db) = q.after source db := by
  cases call with
  | createProgram body =>
    simp only [AdminCall.change?] at hq
    split_ifs at hq
    obtain rfl := Option.some.inj hq
    exact insertProgram_again db
  | pauseProgram id =>
    obtain rfl := Option.some.inj hq
    exact updateStatus_again (by decide) db
  | resumeProgram id =>
    obtain rfl := Option.some.inj hq
    exact updateStatus_again (by decide) db
  | updateRatio id body =>
    simp only [AdminCall.change?] at hq
    split_ifs at hq
    obtain rfl := Option.some.inj hq
    exact updateReward_again db
  | registerContributor body =>
    simp only [AdminCall.change?] at hq
    split_ifs at hq
    obtain rfl := Option.some.inj hq
    exact insertContributor_again db

variable {w : World}

theorem db_exec (q : Stmt) : ((Op.sql q).exec source w).2.db = q.after source w.db := by
  cases h : q.exec source w.db with
  | error err => rw [Op.exec_sql_error h, after_error h]
  | ok result =>
    obtain ⟨r, db'⟩ := result
    rw [Op.exec_sql_ok h, after_ok h]

/-- A statement, and an answer without further operations. -/
theorem world_query_bind {α : Type} {q : Stmt} {onError : DbError → WaveFlowError}
    {f : q.Result → Fallible α} (hf : ∀ r w, (tryAlone source w (f r)).2 = w) :
    (tryAlone source w (query q onError >>= f)).2.db = q.after source w.db := by
  rw [← db_exec (w := w), ← tryAlone_query_world q onError]
  rcases hquery : tryAlone source w (query q onError) with ⟨err | r, w'⟩
  · rw [tryAlone_bind_error hquery]
  · rw [tryAlone_bind_ok hquery, hf]

/-- A contributor of no program is not registered. -/
theorem after_orphan {username address : String} (hnone : db.program? id = none) :
    (Stmt.insertContributor id username address).after source db = db := by
  cases hexec : (Stmt.insertContributor id username address).exec source db with
  | error err => exact after_error hexec
  | ok result =>
    simp only [Stmt.exec, bind_eq_ok] at hexec
    obtain ⟨db', hinsert, -⟩ := hexec
    obtain ⟨row, hadds, rfl, -⟩ := Db.insertContributor_ok hinsert
    obtain ⟨p, hp, hid⟩ := db'.contributors_fkey row (hadds.mem_contributors.2 (.inr rfl))
    rw [hadds.programs] at hp
    rw [db.program?_eq_some.2 ⟨hp, hid⟩] at hnone
    cases hnone

theorem db_createProgram (body : CreateProgramRequest) :
    (tryAlone source w (createProgram body)).2.db =
      ((AdminCall.createProgram body).change?.elim w.db fun q => q.after source w.db) := by
  simp only [AdminCall.change?]
  unfold createProgram
  split_ifs
  · rfl
  · rfl
  · rfl
  · exact world_query_bind fun _ _ => rfl

theorem db_changeStatus (src dst : ProgramStatus) (id : Uuid) :
    (tryAlone source w (changeStatus src dst id)).2.db =
      (Stmt.updateStatus id src dst).after source w.db := by
  refine world_query_bind fun n w => ?_
  split_ifs <;> rfl

theorem db_updateRatio (id : Uuid) (body : UpdateRatioRequest) :
    (tryAlone source w (updateRatio id body)).2.db =
      ((AdminCall.updateRatio id body).change?.elim w.db fun q => q.after source w.db) := by
  simp only [AdminCall.change?]
  unfold updateRatio
  split_ifs
  · rfl
  · refine world_query_bind fun n w => ?_
    split_ifs <;> rfl

theorem db_registerContributor (body : RegisterContributorRequest) :
    (tryAlone source w (registerContributor body)).2.db =
      ((AdminCall.registerContributor body).change?.elim w.db fun q => q.after source w.db) := by
  simp only [AdminCall.change?]
  unfold registerContributor
  split_ifs
  · rfl
  · rfl
  · have hlook : tryAlone source w (query (.selectProgramId body.programId) databaseError) =
        (.ok ((w.db.program? body.programId).map ProgramRow.id), w) :=
      tryAlone_query_ok rfl
    rw [tryAlone_bind_ok hlook]
    cases hp : w.db.program? body.programId with
    | none => exact (after_orphan hp).symm
    | some p => exact world_query_bind fun _ _ => rfl

/-- The effect of a call is that of its change. -/
theorem effect_eq (source : UuidSource) (call : AdminCall) (db : Db) :
    call.effect source db = call.change?.elim db fun q => q.after source db := by
  have hhandler : ∀ w, (runAlone source w call.handler).2 = (tryAlone source w call.route).2 := by
    intro w
    rw [AdminCall.handler, runAlone, Prog.run_bind]
    cases (Prog.run _ call.route.run w).1 <;> rfl
  rw [AdminCall.effect, hhandler]
  cases call with
  | createProgram body => exact db_createProgram body
  | pauseProgram id => exact db_changeStatus .active .paused id
  | resumeProgram id => exact db_changeStatus .paused .active id
  | updateRatio id body => exact db_updateRatio id body
  | registerContributor body => exact db_registerContributor body

/-! ### What an answer tells -/

/-- The operations of a call. -/
inductive AdminCall.Asks (call : AdminCall) : Op → Prop
  | change {q : Stmt} (h : call.change? = some q) : Asks call (.sql q)
  | lookUp {id : Uuid} {username address : String}
      (h : call.change? = some (.insertContributor id username address)) :
      Asks call (.sql (.selectProgramId id))

/-- A program that is not there ends a registration; any other statement of a call is its change. -/
def Postgres.Stmt.final : (q : Stmt) → q.Result → Bool
  | .selectProgramId _, found => found.isNone
  | _, _ => true

/-- The answer tells that the call has taken effect, or has none. -/
def settles : (op : Op) → op.Ans → Bool
  | .sql q, .ok r => q.final r
  | .sql _, .error err => err.constraint?.isSome
  | .attest _, _ | .count _, _ => false

/-- Whether a handler has had such an answer. -/
def AdminCall.watcher (call : AdminCall) : Protocol Op Op.Ans Bool :=
  ⟨fun _ => call.Asks, fun m op ans => m || settles op ans⟩

/-- An answer that is no server error rests on one from the database. -/
def AdminCall.Settles (call : AdminCall) (m : Bool) (response : Response) : Prop :=
  response.status ≠ 500 → m = true ∨ call.change? = none

/-- The response that a handler makes of its result. -/
def responseOf : Except WaveFlowError Response → Response
  | .ok response => response
  | .error err => mapError err

theorem final_of_change {q : Stmt} (hq : call.change? = some q) (r : q.Result) :
    q.final r = true := by
  cases q with
  | selectProgramId =>
    cases call with
    | pauseProgram | resumeProgram => cases hq
    | _ =>
      simp only [AdminCall.change?] at hq
      split_ifs at hq
      cases hq
  | _ => rfl

/-- The change of a call, and what is answered then. -/
theorem follows_change {q : Stmt} (hq : call.change? = some q)
    {onError : DbError → WaveFlowError}
    (herror : ∀ err, (onError err).httpStatusCode ≠ 500 → err.constraint?.isSome)
    {f : q.Result → Fallible Response}
    (hf : ∀ r, Follows call.watcher true (f r).run fun m r => call.Settles m (responseOf r)) :
    Follows call.watcher false (ExceptT.run (query q onError >>= f)) fun m r =>
      call.Settles m (responseOf r) := by
  refine follows_except_bind (follows_query (.change hq) (fun r => ?_) fun err hstatus => ?_)
  · have hfinal : call.watcher.next false (.sql q) (.ok r) = true := final_of_change hq r
    rw [hfinal]
    exact hf r
  · exact .inl (herror err hstatus)

theorem constraint_of_conflictOr (text : String) (err : DbError)
    (h : (conflictOr text err).httpStatusCode ≠ 500) : err.constraint?.isSome := by
  by_contra hno
  rw [conflictOr, if_neg hno] at h
  exact h rfl

theorem constraint_of_databaseError (err : DbError)
    (h : (databaseError err).httpStatusCode ≠ 500) : err.constraint?.isSome := absurd rfl h

theorem settles_changeStatus {src dst : ProgramStatus}
    (hq : call.change? = some (.updateStatus id src dst)) :
    Follows call.watcher false (changeStatus src dst id).run fun m r =>
      call.Settles m (responseOf r) := by
  refine follows_change hq constraint_of_databaseError fun n => ?_
  split_ifs <;> exact fun _ => .inl rfl

theorem settles_createProgram (body : CreateProgramRequest) :
    Follows (AdminCall.createProgram body).watcher false (createProgram body).run fun m r =>
      (AdminCall.createProgram body).Settles m (responseOf r) := by
  unfold createProgram
  split_ifs with hrepo hreward hmaintainer
  · exact fun _ => .inr (by simp only [AdminCall.change?, if_pos hrepo])
  · exact fun _ => .inr (by simp only [AdminCall.change?, if_neg hrepo, if_pos hreward])
  · exact fun _ => .inr (by
      simp only [AdminCall.change?, if_neg hrepo, if_neg hreward, if_pos hmaintainer])
  · refine follows_change ?_ (constraint_of_conflictOr _) fun _ => fun _ => .inl rfl
    simp only [AdminCall.change?, if_neg hrepo, if_neg hreward, if_neg hmaintainer]

theorem settles_updateRatio (id : Uuid) (body : UpdateRatioRequest) :
    Follows (AdminCall.updateRatio id body).watcher false (updateRatio id body).run fun m r =>
      (AdminCall.updateRatio id body).Settles m (responseOf r) := by
  unfold updateRatio
  split_ifs with hreward
  · exact fun _ => .inr (by simp only [AdminCall.change?, if_pos hreward])
  · refine follows_change (by simp only [AdminCall.change?, if_neg hreward])
      constraint_of_databaseError fun n => ?_
    split_ifs <;> exact fun _ => .inl rfl

theorem settles_registerContributor (body : RegisterContributorRequest) :
    Follows (AdminCall.registerContributor body).watcher false (registerContributor body).run
      fun m r => (AdminCall.registerContributor body).Settles m (responseOf r) := by
  unfold registerContributor
  split_ifs with hempty haddress
  · exact fun _ => .inr (by simp only [AdminCall.change?, if_pos hempty])
  · exact fun _ => .inr (by simp only [AdminCall.change?, if_neg hempty, if_pos haddress])
  · have hchange : (AdminCall.registerContributor body).change? =
        some (.insertContributor body.programId body.githubUsername body.stellarAddress) := by
      simp only [AdminCall.change?, if_neg hempty, if_neg haddress]
    refine follows_except_bind (follows_query (.lookUp hchange) (fun found => ?_) fun err hno => ?_)
    · cases found with
      | none => exact fun _ => .inl rfl
      | some p => exact follows_change hchange (constraint_of_conflictOr _) fun _ _ => .inl rfl
    · exact absurd rfl hno

theorem AdminCall.settled (call : AdminCall) :
    Follows call.watcher false call.handler call.Settles := by
  have hroute : Follows call.watcher false call.route.run fun m r =>
      call.Settles m (responseOf r) := by
    cases call with
    | createProgram body => exact settles_createProgram body
    | pauseProgram id => exact settles_changeStatus rfl
    | resumeProgram id => exact settles_changeStatus rfl
    | updateRatio id body => exact settles_updateRatio id body
    | registerContributor body => exact settles_registerContributor body
  refine follows_bind (hroute.mono fun m r hr => ?_)
  cases r <;> exact hr

/-! ### Runs -/

/-- The database before the call, or after it. -/
def AdminCall.Between (source : UuidSource) (call : AdminCall) (db₀ db : Db) : Prop :=
  db = db₀ ∨ db = call.effect source db₀

variable {db₀ : Db}

theorem after_between {q : Stmt} (hq : call.change? = some q) (h : call.Between source db₀ db) :
    q.after source db = call.effect source db₀ := by
  have heffect : call.effect source db₀ = q.after source db₀ := by
    rw [effect_eq, hq, Option.elim_some]
  rcases h with rfl | rfl
  · exact heffect.symm
  · rw [heffect, after_again hq]

/-- **A step of a copy** leaves the database before or after the call, and after it when its answer
tells so. -/
theorem between_of_step {op : Op} {ans : op.Ans} {w' : World} (hasks : call.Asks op)
    (hanswered : op.Faulty source w ans w') (h : call.Between source db₀ w.db) :
    (w'.db = w.db ∨ w'.db = call.effect source db₀) ∧
      (settles op ans = true → w'.db = call.effect source db₀) := by
  cases hasks with
  | @change q hq =>
    have hafter := after_between hq h
    have hor : w'.db = w.db ∨ w'.db = call.effect source db₀ := by
      obtain ⟨-, hdb | ⟨r, hok⟩⟩ := hanswered.sql
      · exact .inl hdb
      · exact .inr ((after_ok hok).symm.trans hafter)
    refine ⟨hor, fun hsettles => ?_⟩
    cases hanswered with
    | lost | unheard => cases hsettles
    | done hexact =>
      cases ans with
      | ok r =>
        obtain ⟨db', hok, rfl⟩ := hexact.sql_ok
        exact (after_ok hok).symm.trans hafter
      | error err =>
        obtain ⟨herror, rfl⟩ := hexact.sql_error
        exact (after_error herror).symm.trans hafter
  | lookUp hq =>
    have hdb : w'.db = w.db := by
      obtain ⟨-, hdb | ⟨r, hok⟩⟩ := hanswered.sql
      · exact hdb
      · exact (congrArg Prod.snd (Except.ok.inj hok)).symm
    refine ⟨.inl hdb, fun hsettles => ?_⟩
    cases hanswered with
    | lost | unheard => cases hsettles
    | done hexact =>
      cases ans with
      | error err =>
        obtain ⟨herror, -⟩ := hexact.sql_error
        cases herror
      | ok found =>
        obtain ⟨db', hok, -⟩ := hexact.sql_ok
        obtain rfl := congrArg Prod.fst (Except.ok.inj hok)
        have hnone : w.db.program? _ = none :=
          Option.map_eq_none_iff.1 (Option.isNone_iff_eq_none.1 hsettles)
        rw [hdb, ← after_between hq h, after_orphan hnone]

section Runs

variable {ι : Type} [DecidableEq ι] {C : Crates} {config : AppConfig} {s : Service ι}
  {h : List (Entry (Service ι) (Event ι Op Op.Ans))}

/-- Copies of an admin call. -/
def copies (ι : Type) (call : AdminCall) (_ : ι) : Call := .admin call

omit [DecidableEq ι] in
theorem follow_copies (i : ι) :
    Follows call.watcher false ((Service.start C config (copies ι call) w).prog i) call.Settles :=
  call.settled

theorem between_of_run
    (hrun : Run (Service.FaultyStep C config (copies ι call))
      (Service.start C config (copies ι call) w) h s) :
    call.Between C.uuids w.db s.world.db := by
  refine hrun.invariant (fun _ s => call.Between C.uuids w.db s.world.db) (.inl rfl) ?_
  intro h s e s' hr hbetween hs
  have hasks := Pool.allowed_of_watch (R := fun _ => call.watcher) hr follow_copies hs
  rcases (between_of_step hasks hs.answered hbetween).1 with hsame | hafter
  · rw [hsame]
    exact hbetween
  · exact .inr hafter

/-- A handler that has had an answer knows that the call has taken effect. -/
theorem settled_of_run
    (hrun : Run (Service.FaultyStep C config (copies ι call))
      (Service.start C config (copies ι call) w) h s) (i : ι)
    (hsettled : Pool.watch call.watcher false i h = true) :
    s.world.db = call.effect C.uuids w.db := by
  refine Pool.watched_of_run (R := fun _ => call.watcher) (n := fun _ => false)
    (K := fun _ => call.Settles) (J := fun _ m _ w' => m = true →
      w'.db = call.effect C.uuids w.db) hrun follow_copies ?_ ?_ ?_ i hsettled
  · intro i hm
    cases hm
  · rintro h s ⟨i, op, ans⟩ s' hr hs hasks hbefore hm
    obtain ⟨hstep, hanswer⟩ := between_of_step hasks hs.answered (between_of_run hr)
    rw [AdminCall.watcher, Bool.or_eq_true] at hm
    rcases hm with hm | hm
    · rcases hstep with hsame | hafter
      · rw [hsame, hbefore hm]
      · exact hafter
    · exact hanswer hm
  · intro i h s e s' hr hs _ hbefore hm
    have hasks := Pool.allowed_of_watch (R := fun _ => call.watcher) hr follow_copies hs
    rcases (between_of_step hasks hs.answered (between_of_run hr)).1 with hsame | hafter
    · rw [hsame, hbefore hm]
    · exact hafter

/-- **An admin call takes effect once.** While any number of copies of it are handled side by side,
with a failing database, the database is the one before the call or the one that a single call would
leave; it is the latter as soon as a copy is answered by anything but a server error. A further call
that is not disturbed leaves that one in any case. -/
theorem admin_call_once
    (hrun : Run (Service.FaultyStep C config (copies ι call))
      (Service.start C config (copies ι call) w) h s) :
    (s.world.db = w.db ∨ s.world.db = call.effect C.uuids w.db) ∧
      (∀ i response, s.prog i = .ret response → response.status ≠ 500 →
        s.world.db = call.effect C.uuids w.db) ∧
      call.effect C.uuids s.world.db = call.effect C.uuids w.db := by
  have hbetween := between_of_run hrun
  refine ⟨hbetween, fun i response hended hstatus => ?_, ?_⟩
  · have hfollows := Pool.follows_watch (R := fun _ => call.watcher) hrun follow_copies i
    rw [hended] at hfollows
    rcases hfollows hstatus with hsettled | hnone
    · exact settled_of_run hrun i hsettled
    · rcases hbetween with hsame | hafter
      · rw [hsame, effect_eq, hnone, Option.elim_none]
      · exact hafter
  · cases hq : call.change? with
    | some q =>
      rw [← after_between hq hbetween, effect_eq, hq, Option.elim_some]
    | none =>
      rcases hbetween with hsame | hafter
      · rw [hsame]
      · rw [hafter, effect_eq, effect_eq, hq, Option.elim_none, Option.elim_none]

end Runs

namespace Setup

/-- A registration. -/
def enrol : AdminCall := .registerContributor ⟨program.1, "bob", account⟩

/-- Two copies find the program, and both insert. -/
def enrolled : List (Entry (Service (Fin 2)) (Event (Fin 2) Op Op.Ans)) × Service (Fin 2) :=
  Service.play crates Setup.config (copies (Fin 2) enrol) world
    ((List.range 2).flatMap fun _ => List.finRange 2)

theorem run_enrolled :
    Run (Service.FaultyStep crates Setup.config (copies (Fin 2) enrol))
      (Service.start crates Setup.config (copies (Fin 2) enrol) world) enrolled.1 enrolled.2 :=
  faulty_of_run (Service.run_play crates Setup.config (copies (Fin 2) enrol) world _)

end Setup

theorem admin_call_once_setup :
    (Setup.enrolled.2.world.db = Setup.world.db ∨
        Setup.enrolled.2.world.db = Setup.enrol.effect Setup.crates.uuids Setup.world.db) ∧
      (∀ i response, Setup.enrolled.2.prog i = .ret response → response.status ≠ 500 →
        Setup.enrolled.2.world.db = Setup.enrol.effect Setup.crates.uuids Setup.world.db) ∧
      Setup.enrol.effect Setup.crates.uuids Setup.enrolled.2.world.db =
        Setup.enrol.effect Setup.crates.uuids Setup.world.db :=
  admin_call_once Setup.run_enrolled

example : ∀ i : Fin 2, ((Setup.enrolled.2.prog i).value?.map Response.status) =
    some (if i = 0 then 201 else 409) := by decide +kernel

end WaveFlow
