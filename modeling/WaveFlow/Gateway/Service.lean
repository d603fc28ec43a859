import WaveFlow.Api.Admin
import WaveFlow.Gateway.Protocol
import WaveFlow.Library.Pool
import WaveFlow.Postgres.Rules

/-!
# Handlers and admin calls side by side

The services as a pool: every thread handles one webhook request or one admin call, and their
operations interleave in any order. `Exact` runs without failures; under `Faulty` a statement can
also fail for a reason of its own, before or after it took effect.

`webhook_of_run` is the rule for what the phases of the handlers tell in a run. `Knows` says what they
tell about the database: as it only grows, no other thread can make that wrong (`knows_of_run`).
-/

namespace WaveFlow

open Interaction Postgres Transition

/-- A request to one of the services. -/
inductive Call
  | webhook (req : Request)
  | admin (call : AdminCall)

section Calls

variable (C : Crates) (config : AppConfig)

def Call.handler : Call → Action Response
  | .webhook req => webhookRoute C config req
  | .admin call => call.handler

def Call.protocol : Call → Protocol Op Op.Ans Phase
  | .webhook req => webhookProtocol C config req
  | .admin _ => only Administers

/-- The phase in which a thread begins. -/
def Call.begins : Call → Phase
  | .webhook req => startPhase C config req
  | .admin _ => .outside

/-- How a thread ends. -/
def Call.Ends : Call → Phase → Response → Prop
  | .webhook req, m, r => WaveFlow.Ends C req m r
  | .admin _, m, _ => m = .outside

theorem Call.follows (call : Call) :
    Follows (call.protocol C config) (call.begins C config) (call.handler C config)
      (call.Ends C) := by
  cases call with
  | webhook req => exact follows_webhookRoute
  | admin call => exact call.uses

end Calls

/-! ### The pool -/

/-- What an operation does when nothing fails. -/
def Op.Exact (source : UuidSource) (op : Op) (w : World) (ans : op.Ans) (w' : World) : Prop :=
  op.exec source w = (ans, w')

/-- What an operation does when the database can fail. -/
inductive Op.Faulty (source : UuidSource) : (op : Op) → World → op.Ans → World → Prop
  | done {op : Op} {w w' : World} {ans : op.Ans} (h : op.Exact source w ans w') :
      Faulty source op w ans w'
  /-- The statement did not reach the database. -/
  | lost (s : Stmt) (w : World) (text : String) :
      Faulty source (.sql s) w (.error (.unavailable text)) w
  /-- Its answer did not come back. -/
  | unheard {s : Stmt} {w : World} {r : s.Result} {db : Db}
      (h : s.exec source w.db = .ok (r, db)) (text : String) :
      Faulty source (.sql s) w (.error (.unavailable text)) { w with db }

abbrev Service (ι : Type) := Pool ι Op Op.Ans Response Phase World

section Pool

variable {ι : Type} [DecidableEq ι] (C : Crates) (config : AppConfig) (calls : ι → Call)

/-- All requests are there, and no handler has begun. -/
def Service.start (w : World) : Service ι where
  world := w
  prog i := (calls i).handler C config
  phase i := (calls i).begins C config

abbrev protocols (i : ι) : Protocol Op Op.Ans Phase := (calls i).protocol C config

/-- Runs without failures. -/
abbrev Service.Step : Service ι → Event ι Op Op.Ans → Service ι → Prop :=
  Pool.Step (Op.Exact C.uuids) (protocols C config calls)

/-- Runs in which the database can fail. -/
abbrev Service.FaultyStep : Service ι → Event ι Op Op.Ans → Service ι → Prop :=
  Pool.Step (Op.Faulty C.uuids) (protocols C config calls)

/-- A run without failures. -/
def Service.play (w : World) (is : List ι) :
    List (Entry (Service ι) (Event ι Op Op.Ans)) × Service ι :=
  Pool.play (protocols C config calls) (Op.exec C.uuids) (Service.start C config calls w) is

theorem Service.run_play (w : World) (is : List ι) :
    Run (Service.Step C config calls) (Service.start C config calls w)
      (Service.play C config calls w is).1 (Service.play C config calls w is).2 :=
  Pool.run_play (protocols C config calls) (Op.exec C.uuids) (fun _ _ => rfl) is _

variable {C config calls} in
theorem faulty_of_run {s₀ s : Service ι} {h : List (Entry (Service ι) (Event ι Op Op.Ans))}
    (hrun : Run (Service.Step C config calls) s₀ h s) :
    Run (Service.FaultyStep C config calls) s₀ h s :=
  hrun.mono fun _ _ _ hs => hs.mono fun _ _ _ _ => .done

omit [DecidableEq ι] in
theorem follow_start (w : World) :
    Pool.Follow (protocols C config calls) (fun i => (calls i).Ends C)
      (Service.start C config calls w) :=
  fun i => (calls i).follows C config

omit [DecidableEq ι] in
variable {C config calls} in
/-- What no admin route does is done by the handler of a webhook. -/
theorem webhook_of_allows {i : ι} {m : Phase} {op : Op} (hop : ¬ Administers op)
    (hallowed : (protocols C config calls i).allows m op) :
    ∃ req, calls i = .webhook req ∧ Allows C config req m op := by
  cases hcall : calls i with
  | admin call =>
    rw [protocols, hcall] at hallowed
    exact absurd hallowed hop
  | webhook req =>
    rw [protocols, hcall] at hallowed
    exact ⟨req, rfl, hallowed⟩

section Rules

variable {C config calls} {w : World} {s s' : Service ι} {e : Event ι Op Op.Ans}
  {h : List (Entry (Service ι) (Event ι Op Op.Ans))}

/-- In every step of a run a thread does what its call allows. -/
theorem allowed_of_run {exec : (op : Op) → World → op.Ans → World → Prop}
    (hrun : Run (Pool.Step exec (protocols C config calls)) (Service.start C config calls w) h s)
    (hs : Pool.Step exec (protocols C config calls) s e s') :
    (protocols C config calls e.thread).allows (s.phase e.thread) e.op :=
  hs.allowed (Pool.follow_of_run hrun (follow_start C config calls w))

/-- The rule for a property of the handlers of webhooks: the steps of a handler establish it as its
phase changes, and no step makes it wrong in a phase. -/
theorem webhook_of_run
    {K : ι → Request → Phase → List (Entry (Service ι) (Event ι Op Op.Ans)) → World → Prop}
    (hrun : Run (Service.FaultyStep C config calls) (Service.start C config calls w) h s)
    (h₀ : ∀ i req, K i req (startPhase C config req) [] w)
    (hown : ∀ h s e s' req,
      Run (Service.FaultyStep C config calls) (Service.start C config calls w) h s →
      Service.FaultyStep C config calls s e s' → calls e.thread = .webhook req →
      Allows C config req (s.phase e.thread) e.op →
      K e.thread req (s.phase e.thread) h s.world →
      K e.thread req ((s.phase e.thread).next e.op e.ans) (h ++ [⟨s, e, s'⟩]) s'.world)
    (hother : ∀ i req h s e s', Service.FaultyStep C config calls s e s' →
      K i req (s.phase i) h s.world → K i req (s.phase i) (h ++ [⟨s, e, s'⟩]) s'.world)
    {i : ι} {req : Request} (hi : calls i = .webhook req) : K i req (s.phase i) h s.world := by
  refine Pool.traced_of_run (J := fun i m h w => ∀ req, calls i = .webhook req → K i req m h w)
    hrun (follow_start C config calls w) ?_ ?_ ?_ i req hi
  · intro i req hi
    simp only [Service.start, hi, Call.begins]
    exact h₀ i req
  · intro h s e s' hr hs hallowed hJ req hi
    simp only [protocols, hi] at hallowed ⊢
    exact hown h s e s' req hr hs hi hallowed (hJ req hi)
  · intro i h s e s' hs _ hJ req hi
    exact hother i req h s e s' hs (hJ req hi)

end Rules

end Pool

/-! ### The database grows -/

variable {source : UuidSource} {op : Op} {w w' : World} {s : Stmt}

theorem Op.Exact.sql_ok {r : s.Result} (h : (Op.sql s).Exact source w (.ok r) w') :
    ∃ db, s.exec source w.db = .ok (r, db) ∧ w' = { w with db } := by
  unfold Op.Exact at h
  cases hexec : s.exec source w.db with
  | ok q =>
    rw [Op.exec_sql_ok hexec] at h
    cases h
    exact ⟨_, rfl, rfl⟩
  | error e =>
    rw [Op.exec_sql_error hexec] at h
    cases h

theorem Op.Exact.sql_error {e : DbError} (h : (Op.sql s).Exact source w (.error e) w') :
    s.exec source w.db = .error e ∧ w' = w := by
  unfold Op.Exact at h
  cases hexec : s.exec source w.db with
  | ok q =>
    rw [Op.exec_sql_ok hexec] at h
    cases h
  | error e' =>
    rw [Op.exec_sql_error hexec] at h
    cases h
    exact ⟨rfl, rfl⟩

/-- The answer of a statement that goes through. -/
theorem Op.Exact.answer {r : s.Result} {db : Db} {ans : Except DbError s.Result}
    (h : (Op.sql s).Exact source w ans w') (hok : s.exec source w.db = .ok (r, db)) :
    ans = .ok r ∧ w'.db = db := by
  have hdone : (Except.ok r, { w with db }) = (ans, w') := (Op.exec_sql_ok hok).symm.trans h
  cases hdone
  exact ⟨rfl, rfl⟩

theorem Op.Faulty.sql_ok {r : s.Result} (h : Op.Faulty source (.sql s) w (.ok r) w') :
    ∃ db, s.exec source w.db = .ok (r, db) ∧ w' = { w with db } := by
  cases h with
  | done h => exact h.sql_ok

theorem Op.Exact.grows {ans : op.Ans} (h : op.Exact source w ans w') : w.db.Grows w'.db := by
  cases op with
  | sql s =>
    cases ans with
    | ok r =>
      obtain ⟨db, hexec, rfl⟩ := h.sql_ok
      exact Stmt.grows hexec
    | error e =>
      obtain ⟨-, rfl⟩ := h.sql_error
      exact .refl _
  | attest r =>
    cases h
    exact .refl _
  | count c =>
    cases h
    exact .refl _

theorem Op.Faulty.grows {ans : op.Ans} (h : Op.Faulty source op w ans w') : w.db.Grows w'.db := by
  cases h with
  | done h => exact h.grows
  | lost => exact .refl _
  | unheard h => exact Stmt.grows h

/-- The database changes by a statement that takes effect, or not at all. -/
theorem Op.Faulty.effect {ans : op.Ans} (h : Op.Faulty source op w ans w') :
    w'.db = w.db ∨
      ∃ (q : Stmt) (r : q.Result), op = .sql q ∧ q.exec source w.db = .ok (r, w'.db) := by
  cases h with
  | lost => exact .inl rfl
  | unheard h => exact .inr ⟨_, _, rfl, h⟩
  | done h =>
    cases op with
    | attest r =>
      cases h
      exact .inl rfl
    | count c =>
      cases h
      exact .inl rfl
    | sql q =>
      cases ans with
      | error e =>
        obtain ⟨-, rfl⟩ := h.sql_error
        exact .inl rfl
      | ok r =>
        obtain ⟨db, hexec, rfl⟩ := h.sql_ok
        exact .inr ⟨q, r, rfl, hexec⟩

/-! ### What a handler knows -/

/-- The row of the program that was resolved. -/
def Resolved (db : Db) (repo : String) (t : Target) : Prop :=
  ∃ p ∈ db.programs, p.id = t.program ∧ p.onChainProgramId = t.onChain ∧ p.githubRepo.val = repo

/-- The author's registration. -/
def Registered (db : Db) (t : Target) (username address : String) : Prop :=
  ∃ r ∈ db.contributors, r.programId = t.program ∧ r.githubUsername.val = username ∧
    r.stellarAddress.val = address

/-- The pull request has a payout. -/
def Paid (db : Db) (t : Target) (pr : Int64) : Prop :=
  ∃ r ∈ db.payouts, r.programId = t.program ∧ r.prNumber = pr

/-- What the handler of a merge knows of the database. -/
def Knows (merge : MergeAttestation) : Phase → Db → Prop
  | .resolved t, db | .opened t, db | .unpaid t, db => Resolved db merge.githubRepo t
  | .registered t address, db | .attested t address, db =>
      Resolved db merge.githubRepo t ∧ Registered db t merge.githubUsername address
  | .priced t address reward, db =>
      Resolved db merge.githubRepo t ∧ Registered db t merge.githubUsername address ∧ 0 < reward
  | .paid t, db | .recorded t _, db | .booked t, db =>
      Resolved db merge.githubRepo t ∧ Paid db t (saturate merge.prNumber)
  | _, _ => True

variable {db db' : Db} {merge : MergeAttestation} {t : Target} {m : Phase}

theorem Resolved.mono {repo : String} (h : Resolved db repo t) (hgrows : db.Grows db') :
    Resolved db' repo t := by
  obtain ⟨p, hp, hid, honChain, hrepo⟩ := h
  obtain ⟨p', hp', hkeys⟩ := hgrows.programs p hp
  exact ⟨p', hp', hkeys.id.trans hid, hkeys.onChain.trans honChain, by rw [hkeys.repo, hrepo]⟩

theorem Registered.mono {username address : String} (h : Registered db t username address)
    (hgrows : db.Grows db') : Registered db' t username address := by
  obtain ⟨r, hr, hrest⟩ := h
  exact ⟨r, hgrows.contributors r hr, hrest⟩

theorem Paid.mono {pr : Int64} (h : Paid db t pr) (hgrows : db.Grows db') : Paid db' t pr := by
  obtain ⟨r, hr, hrest⟩ := h
  exact ⟨r, hgrows.payouts r hr, hrest⟩

/-- **Knowledge lasts.** -/
theorem Knows.mono (h : Knows merge m db) (hgrows : db.Grows db') : Knows merge m db' := by
  cases m with
  | resolved | opened | unpaid => exact Resolved.mono h hgrows
  | registered | attested => exact ⟨h.1.mono hgrows, h.2.mono hgrows⟩
  | priced => exact ⟨h.1.mono hgrows, h.2.1.mono hgrows, h.2.2⟩
  | paid | recorded | booked => exact ⟨h.1.mono hgrows, h.2.mono hgrows⟩
  | _ => trivial

section Next

variable {C : Crates} {config : AppConfig} {req : Request} {ans : op.Ans}

theorem active_of_select {repo : String} {id : Uuid} {onChain : Int64}
    (h : (Stmt.selectActiveProgram repo).exec source db = .ok (some (id, onChain), db')) :
    ∃ p ∈ db.programs, p.id = id ∧ p.onChainProgramId = onChain ∧ p.githubRepo.val = repo ∧
      p.status = .active := by
  simp only [Stmt.exec, bind_eq_ok] at h
  obtain ⟨_, -, h⟩ := h
  cases hp : db.activeProgram? repo with
  | none =>
    rw [hp] at h
    cases h
  | some p =>
    rw [hp] at h
    cases h
    obtain ⟨hmem, hrepo, hactive⟩ := db.activeProgram?_eq_some.1 hp
    exact ⟨p, hmem, rfl, rfl, hrepo, hactive⟩

theorem resolved_of_select {repo : String} {id : Uuid} {onChain : Int64}
    (h : (Stmt.selectActiveProgram repo).exec source db = .ok (some (id, onChain), db')) :
    Resolved db' repo ⟨id, onChain⟩ := by
  obtain ⟨p, hp, hid, honChain, hrepo, -⟩ := active_of_select h
  exact Resolved.mono ⟨p, hp, hid, honChain, hrepo⟩ (Stmt.grows h)

theorem registered_of_select {username address : String}
    (h : (Stmt.selectContributorAddress t.program username).exec source db =
      .ok (some address, db')) : Registered db' t username address := by
  simp only [Stmt.exec, bind_eq_ok] at h
  obtain ⟨_, -, h⟩ := h
  cases hr : db.contributor? t.program username with
  | none =>
    rw [hr] at h
    cases h
  | some r =>
    rw [hr] at h
    cases h
    obtain ⟨hmem, hprogram, husername⟩ := db.contributor?_eq_some.1 hr
    exact ⟨r, hmem, hprogram, husername, rfl⟩

theorem paid_of_payout? {pr : Int64} (h : db.payout? t.program pr ≠ none) : Paid db t pr :=
  db.payout?_ne_none.1 h

theorem paid_of_select {pr : Int64} {id : Uuid}
    (h : (Stmt.selectPayoutId t.program pr).exec source db = .ok (some id, db')) :
    Paid db' t pr := by
  simp only [Stmt.exec] at h
  cases hr : db.payout? t.program pr with
  | none =>
    rw [hr] at h
    cases h
  | some r =>
    have hdb : db = db' := congrArg Prod.snd (Except.ok.inj h)
    rw [← hdb]
    exact paid_of_payout? (by simp [hr])

theorem not_paid_of_select {pr : Int64}
    (h : (Stmt.selectPayoutId t.program pr).exec source db = .ok (none, db')) :
    ¬ Paid db t pr := by
  intro hpaid
  obtain ⟨row, hrow⟩ := Option.ne_none_iff_exists'.1 (db.payout?_ne_none.2 hpaid)
  simp only [Stmt.exec, hrow] at h
  cases h

theorem program_of_select {id : Uuid} {reward : Int64}
    (h : (Stmt.selectRewardPerPoint id).exec source db = .ok (some reward, db')) :
    ∃ p, db.program? id = some p ∧ p.rewardPerPoint = reward := by
  simp only [Stmt.exec] at h
  cases hp : db.program? id with
  | none =>
    rw [hp] at h
    cases h
  | some p =>
    rw [hp] at h
    cases h
    exact ⟨p, rfl, rfl⟩

theorem reward_pos_of_select {id : Uuid} {reward : Int64}
    (h : (Stmt.selectRewardPerPoint id).exec source db = .ok (some reward, db')) : 0 < reward := by
  obtain ⟨p, -, rfl⟩ := program_of_select h
  exact p.reward_pos

/-- **A handler knows what its answers say.** -/
theorem knows_next (hmerge : req.merge? C = some merge) (hallowed : Allows C config req m op)
    (hexec : op.Faulty source w ans w') (h : Knows merge m w.db) :
    Knows merge (m.next op ans) w'.db := by
  have hgrows := hexec.grows
  have hsame : ∀ {other}, req.merge? C = some other → other = merge := by
    intro other hother
    exact Option.some.inj (hother.symm.trans hmerge)
  cases hallowed with
  | count c =>
    rw [Phase.next_count]
    exact h.mono hgrows
  | reject => exact trivial
  | lookUp =>
    rcases ans with e | _ | r
    · exact trivial
    · exact trivial
    · exact trivial
  | claim =>
    cases ans with
    | error e => exact trivial
    | ok r => exact trivial
  | audit hm =>
    rw [Phase.next_audit hm]
    exact h.mono hgrows
  | program hother =>
    obtain rfl := hsame hother
    rcases ans with e | _ | ⟨id, onChain⟩
    · exact trivial
    · exact trivial
    · obtain ⟨db, hok, rfl⟩ := hexec.sql_ok
      exact resolved_of_select hok
  | status t =>
    rcases ans with e | _ | _ | _
    · exact trivial
    · exact trivial
    · exact Resolved.mono h hgrows
    · exact trivial
  | payout hother t =>
    obtain rfl := hsame hother
    rcases ans with e | _ | id
    · exact trivial
    · exact Resolved.mono h hgrows
    · obtain ⟨db, hok, rfl⟩ := hexec.sql_ok
      exact ⟨Resolved.mono h hgrows, paid_of_select hok⟩
  | payoutAgain hother t => exact h.mono hgrows
  | contributor hother t =>
    obtain rfl := hsame hother
    rcases ans with e | _ | address
    · exact trivial
    · exact trivial
    · obtain ⟨db, hok, rfl⟩ := hexec.sql_ok
      exact ⟨Resolved.mono h hgrows, registered_of_select hok⟩
  | attest hother t address => exact h.mono hgrows
  | reward t address =>
    rcases ans with e | _ | reward
    · exact trivial
    · exact trivial
    · obtain ⟨db, hok, rfl⟩ := hexec.sql_ok
      exact ⟨h.1.mono hgrows, h.2.mono hgrows, reward_pos_of_select hok⟩
  | record hother t address reward hpr =>
    obtain rfl := hsame hother
    have hresolved := h.1.mono hgrows
    cases ans with
    | ok id =>
      obtain ⟨db, hok, rfl⟩ := hexec.sql_ok
      obtain ⟨row, hadds, -, hprogram, hnumber, -⟩ := Db.insertPayout_ok hok
      exact ⟨hresolved, row, hadds.mem_payouts.2 (.inr rfl), hprogram, hnumber⟩
    | error e =>
      cases e with
      | unique name =>
        cases hexec with
        | done hexact =>
          obtain ⟨herror, rfl⟩ := hexact.sql_error
          exact ⟨hresolved, paid_of_payout? (Db.payout?_of_insertPayout_unique herror)⟩
      | _ => exact trivial
  | spend t reward =>
    cases ans with
    | ok n => exact h.mono hgrows
    | error e => exact h.mono hgrows

end Next

/-- **Every handler knows what its phase says**, in every run and at any time. -/
theorem knows_of_run {ι : Type} [DecidableEq ι] {C : Crates} {config : AppConfig} {calls : ι → Call}
    {h : List (Entry (Service ι) (Event ι Op Op.Ans))} {s : Service ι}
    (hrun : Run (Service.FaultyStep C config calls) (Service.start C config calls w) h s) {i : ι}
    {req : Request} (hi : calls i = .webhook req) (hmerge : req.merge? C = some merge) :
    Knows merge (s.phase i) s.world.db := by
  refine webhook_of_run (K := fun _ req m _ w => ∀ merge, req.merge? C = some merge →
    Knows merge m w.db) hrun ?_ ?_ ?_ hi merge hmerge
  · intro i req merge _
    unfold startPhase
    split_ifs <;> exact trivial
  · intro h s e s' req _ hs _ hallowed hknows merge hmerge
    exact knows_next hmerge hallowed hs.answered (hknows merge hmerge)
  · intro i req h s e s' hs hknows merge hmerge
    exact (hknows merge hmerge).mono hs.answered.grows

/-- Nothing recorded is lost. -/
theorem grows_since {ι : Type} [DecidableEq ι] {C : Crates} {config : AppConfig} {calls : ι → Call}
    {h : List (Entry (Service ι) (Event ι Op Op.Ans))} {s₀ s : Service ι}
    (hrun : Run (Service.FaultyStep C config calls) s₀ h s) : s₀.world.db.Grows s.world.db := by
  refine hrun.kept (fun s => s₀.world.db.Grows s.world.db) (.refl _) ?_
  intro e he hs hgrows
  exact hgrows.trans hs.answered.grows

/-! ### Payouts -/

/-- A payout that a step brings about is the one that it records. -/
theorem insertPayout_of_new {row : PayoutRow} {ans : op.Ans}
    (hexec : op.Faulty source w ans w') (habsent : row ∉ w.db.payouts)
    (hpresent : row ∈ w'.db.payouts) :
    ∃ txHash, op = .sql (.insertPayout row.programId row.prNumber row.githubUsername.val
      row.stellarAddress.val row.points row.amount txHash) := by
  rcases hexec.effect with hdb | ⟨q, r, rfl, hok⟩
  · rw [hdb] at hpresent
    exact absurd hpresent habsent
  · have hpays : q.Pays := by
      by_contra hno
      rw [Stmt.payouts_kept hno hok] at hpresent
      exact habsent hpresent
    cases q with
    | insertPayout id pr username address points amount txHash =>
      obtain ⟨row', hadds, -, rfl, rfl, rfl, rfl, rfl, rfl, -⟩ := Db.insertPayout_ok hok
      obtain hold | rfl := hadds.mem_payouts.1 hpresent
      · exact absurd hold habsent
      · exact ⟨txHash, rfl⟩
    | _ => exact absurd hpays id

/-- The first payout of a pull request can be recorded. -/
theorem insertPayout_of_knows (source : UuidSource) {pr : Int64} {address txHash : String}
    {reward : Int64} (hpoints : merge.points = 1)
    (hknows : Knows merge (.priced t address reward) db) (htxHash : Storable txHash)
    (hnew : db.payout? t.program pr = none) :
    ∃ id db', db.insertPayout source t.program pr merge.githubUsername address
      (pointsColumn merge.points) reward txHash = .ok (id, db') := by
  obtain ⟨⟨q, hq, hid, -⟩, ⟨r, -, -, husername, haddress⟩, hreward⟩ := hknows
  refine Db.insertPayout_succeeds source ?_ ?_ htxHash hreward ?_ hnew ⟨q, hq, hid⟩
  · rw [← husername]
    exact r.githubUsername.storable
  · rw [← haddress]
    exact r.stellarAddress.storable
  · rw [hpoints]
    decide

/-- Only the handler of a merge records a payout, when it has read the price. -/
theorem priced_of_record {ι : Type} {C : Crates} {config : AppConfig} {calls : ι → Call}
    {s : Service ι} {i : ι} {id : Uuid} {pr : Int64} {username address txHash : String}
    {points : Int32} {amount : Int64}
    (hallowed : (protocols C config calls i).allows (s.phase i)
      (.sql (.insertPayout id pr username address points amount txHash))) :
    ∃ req merge t, calls i = .webhook req ∧ req.merge? C = some merge ∧
      s.phase i = .priced t address amount ∧ t.program = id ∧ pr.toInt = merge.prNumber.toNat ∧
      merge.githubUsername = username ∧ points = 1 := by
  obtain ⟨req, hcall, hallows⟩ := webhook_of_allows (by rintro ⟨⟩) hallowed
  generalize hm : s.phase i = m at hallows
  cases hallows with
  | record hmerge t address reward hpr =>
    exact ⟨req, _, t, hcall, hmerge, rfl, rfl, toInt_saturate hpr, rfl,
      by rw [points_of_merge? hmerge]; rfl⟩

end WaveFlow
