import WaveFlow.Gateway.Registrations
import WaveFlow.Postgres.Refusals

/-!
# What a Conflict says

`persist_payout`, `create_program` and `register_contributor` answer every violated constraint with
one message, that the row exists already. For a payout no other constraint can fire: the amount and
the points are positive, and the program is there, because the handler has found it and no program
is ever deleted. The other two rows have a text in an index, which is named as well when it has no
room for a long one (`registerContributor_truthful`), and a program has an id on chain besides its
repo; the message is about the repo also when the id is taken (`createProgram_truthful`).
-/

namespace WaveFlow

open Interaction Postgres Transition

/-- A conflict is a violated constraint. -/
theorem conflictOr_eq_conflict {text text' : String} {e : DbError} :
    conflictOr text e = .conflict text' ↔ e.Names ∧ text = text' := by
  unfold conflictOr DbError.Names
  split_ifs with h
  · simp [h]
  · simp [h, databaseError]

/-! ### Creating a program -/

section CreateProgram

variable {source : UuidSource} {w w' : World} {body : CreateProgramRequest} {text : String}

/-- The request gets as far as the constraints: it passes the validators, and its slug can be
stored. -/
structure CreateProgramRequest.Reaches (body : CreateProgramRequest) : Prop where
  repo : validateGithubRepo body.githubRepo
  reward : 0 < body.rewardPerPoint
  maintainer : validateStellarAddress body.maintainerAddress
  storable : Storable body.githubRepo

/-- The id on chain, as its column has it, is taken. -/
def IdTaken (db : Db) (onChain : UInt64) : Prop :=
  ∃ p ∈ db.programs, p.onChainProgramId = saturate onChain

theorem storable_of_validateStellarAddress {address : String}
    (h : validateStellarAddress address) : Storable address := by
  intro hzero
  unfold validateStellarAddress at h
  simp only [Bool.and_eq_true, List.all_eq_true] at h
  have hnul := h.2 _ hzero
  exact absurd hnul (by decide)

/-- A valid request is answered with a conflict when its insert is refused. -/
theorem createProgram_refused (hrepo : validateGithubRepo body.githubRepo)
    (hreward : 0 < body.rewardPerPoint)
    (hmaintainer : validateStellarAddress body.maintainerAddress) :
    tryAlone source w (createProgram body) = (.error (.conflict text), w') ↔
      text = "program already exists for repo " ++ body.githubRepo ∧ w' = w ∧
        ∃ err, err.Names ∧ w.db.insertProgram source (saturate body.onChainProgramId)
          body.githubRepo body.maintainerAddress body.rewardPerPoint body.milestoneCap =
            .error err := by
  unfold createProgram
  rw [if_neg (by simp [hrepo]), if_neg (Int64.not_le.2 hreward), if_neg (by simp [hmaintainer])]
  cases hexec : (Stmt.insertProgram (saturate body.onChainProgramId) body.githubRepo
      body.maintainerAddress body.rewardPerPoint body.milestoneCap).exec source w.db with
  | ok r =>
    obtain ⟨id, db⟩ := r
    rw [tryAlone_bind_ok (tryAlone_query_ok hexec)]
    refine iff_of_false ?_ ?_
    · intro h
      cases h
    · rintro ⟨-, -, err, -, h⟩
      cases hexec.symm.trans h
  | error err =>
    rw [tryAlone_bind_error (tryAlone_query_error hexec)]
    constructor
    · intro h
      injection h with hconflict hworld
      injection hconflict with hconflict
      obtain ⟨hnames, htext⟩ := conflictOr_eq_conflict.1 hconflict
      exact ⟨htext.symm, hworld.symm, err, hnames, hexec⟩
    · rintro ⟨rfl, rfl, err', hnames, h⟩
      cases hexec.symm.trans h
      rw [conflictOr_eq_conflict.2 ⟨hnames, rfl⟩]

/-- When `create_program` answers with a conflict, and what it says then. -/
theorem createProgram_conflict :
    tryAlone source w (createProgram body) = (.error (.conflict text), w') ↔
      text = "program already exists for repo " ++ body.githubRepo ∧ w' = w ∧ body.Reaches ∧
        (HasProgram w.db body.githubRepo ∨ IdTaken w.db body.onChainProgramId ∨
          w.db.server.NamedRefusal (.text body.githubRepo)) := by
  by_cases hvalid : validateGithubRepo body.githubRepo ∧ 0 < body.rewardPerPoint ∧
      validateStellarAddress body.maintainerAddress
  · obtain ⟨hrepo, hreward, hmaintainer⟩ := hvalid
    rw [createProgram_refused hrepo hreward hmaintainer,
      Db.insertProgram_refused_iff hreward (storable_of_validateStellarAddress hmaintainer)]
    refine and_congr_right fun _ => and_congr_right fun _ => ?_
    constructor
    · rintro ⟨hstorable, hrefused⟩
      refine ⟨⟨hrepo, hreward, hmaintainer, hstorable⟩, ?_⟩
      rcases hrefused with ⟨p, hp, hid | hname⟩ | hlarge
      · exact .inr (.inl ⟨p, hp, hid⟩)
      · exact .inl ⟨p, hp, hname⟩
      · exact .inr (.inr hlarge)
    · rintro ⟨hreaches, hrefused⟩
      refine ⟨hreaches.storable, ?_⟩
      rcases hrefused with ⟨p, hp, hname⟩ | ⟨p, hp, hid⟩ | hlarge
      · exact .inl ⟨p, hp, .inr hname⟩
      · exact .inl ⟨p, hp, .inl hid⟩
      · exact .inr hlarge
  · refine iff_of_false ?_ ?_
    · intro h
      unfold createProgram at h
      split_ifs at h with hrepo hreward hmaintainer
      · cases h
      · cases h
      · cases h
      · exact hvalid ⟨by simpa using hrepo, Int64.not_le.1 hreward, by simpa using hmaintainer⟩
    · rintro ⟨-, -, hreaches, -⟩
      exact hvalid ⟨hreaches.repo, hreaches.reward, hreaches.maintainer⟩

/-- A conflict of `create_program` says that the repo has a program. It does, unless the repo has
none, and the id on chain is taken or the index has no room for the slug. -/
theorem createProgram_truthful :
    ((∃ text w', tryAlone source w (createProgram body) = (.error (.conflict text), w')) →
        HasProgram w.db body.githubRepo) ↔
      ¬ body.Reaches ∨ HasProgram w.db body.githubRepo ∨
        (¬ IdTaken w.db body.onChainProgramId ∧
          ¬ w.db.server.NamedRefusal (.text body.githubRepo)) := by
  constructor
  · intro htruthful
    by_cases hreaches : body.Reaches
    · by_cases hrefused : IdTaken w.db body.onChainProgramId ∨
          w.db.server.NamedRefusal (.text body.githubRepo)
      · exact .inr (.inl (htruthful
          ⟨_, _, createProgram_conflict.2 ⟨rfl, rfl, hreaches, .inr hrefused⟩⟩))
      · exact .inr (.inr (not_or.1 hrefused))
    · exact .inl hreaches
  · rintro hwhen ⟨text, w', hconflict⟩
    obtain ⟨-, -, hreaches, hhas | hrefused⟩ := createProgram_conflict.1 hconflict
    · exact hhas
    · rcases hwhen with hnot | hhas | hfree
      · exact absurd hreaches hnot
      · exact hhas
      · exact absurd hrefused (not_or.2 hfree)

end CreateProgram

/-! ### Registering a contributor -/

section RegisterContributor

variable {source : UuidSource} {w w' : World} {body : RegisterContributorRequest} {text : String}

/-- The request gets as far as the constraints: it passes the validators, its program is there, and
its username can be stored. -/
structure RegisterContributorRequest.Reaches (db : Db) (body : RegisterContributorRequest) :
    Prop where
  username : ¬ body.githubUsername.isEmpty
  given : ¬ body.stellarAddress.isEmpty
  address : validateStellarAddress body.stellarAddress
  program : ∃ p ∈ db.programs, p.id = body.programId
  storable : Storable body.githubUsername

def HasContributor (db : Db) (programId : Uuid) (username : String) : Prop :=
  ∃ row ∈ db.contributors, row.programId = programId ∧ row.githubUsername.val = username

/-- A valid request for a program that is there is answered with a conflict when its insert is
refused. -/
theorem registerContributor_refused (husername : ¬ body.githubUsername.isEmpty)
    (hgiven : ¬ body.stellarAddress.isEmpty) (haddress : validateStellarAddress body.stellarAddress)
    (hprogram : ∃ p ∈ w.db.programs, p.id = body.programId) :
    tryAlone source w (registerContributor body) = (.error (.conflict text), w') ↔
      text = "contributor already registered" ∧ w' = w ∧
        ∃ err, err.Names ∧ w.db.insertContributor body.programId body.githubUsername
          body.stellarAddress = .error err := by
  obtain ⟨p, hp, hid⟩ := hprogram
  have hfound : (Stmt.selectProgramId body.programId).exec source w.db = .ok (some p.id, w.db) := by
    simp only [Stmt.exec, w.db.program?_eq_some.2 ⟨hp, hid⟩, Option.map_some]
  unfold registerContributor
  rw [if_neg (by simp [husername, hgiven]), if_neg (by simp [haddress]),
    tryAlone_bind_ok (tryAlone_query_ok hfound), if_neg (by simp)]
  cases hinsert : w.db.insertContributor body.programId body.githubUsername body.stellarAddress with
  | ok db =>
    have hexec : (Stmt.insertContributor body.programId body.githubUsername
        body.stellarAddress).exec source w.db = .ok ((), db) := by
      simp only [Stmt.exec, hinsert]
      rfl
    rw [tryAlone_bind_ok (tryAlone_query_ok hexec)]
    refine iff_of_false ?_ ?_
    · intro h
      cases h
    · rintro ⟨-, -, err, -, h⟩
      cases h
  | error err =>
    have hexec : (Stmt.insertContributor body.programId body.githubUsername
        body.stellarAddress).exec source w.db = .error err := by
      simp only [Stmt.exec, hinsert]
      rfl
    rw [tryAlone_bind_error (tryAlone_query_error hexec)]
    constructor
    · intro h
      injection h with hconflict hworld
      injection hconflict with hconflict
      obtain ⟨hnames, htext⟩ := conflictOr_eq_conflict.1 hconflict
      exact ⟨htext.symm, hworld.symm, err, hnames, rfl⟩
    · rintro ⟨rfl, rfl, err', hnames, h⟩
      cases h
      rw [conflictOr_eq_conflict.2 ⟨hnames, rfl⟩]

/-- When `register_contributor` answers with a conflict, and what it says then. -/
theorem registerContributor_conflict :
    tryAlone source w (registerContributor body) = (.error (.conflict text), w') ↔
      text = "contributor already registered" ∧ w' = w ∧ body.Reaches w.db ∧
        (HasContributor w.db body.programId body.githubUsername ∨
          w.db.server.NamedRefusal (.idText body.programId body.githubUsername)) := by
  by_cases hvalid : (¬ body.githubUsername.isEmpty ∧ ¬ body.stellarAddress.isEmpty) ∧
      validateStellarAddress body.stellarAddress ∧ ∃ p ∈ w.db.programs, p.id = body.programId
  · obtain ⟨⟨husername, hgiven⟩, haddress, hprogram⟩ := hvalid
    rw [registerContributor_refused husername hgiven haddress hprogram,
      Db.insertContributor_refused_iff hprogram]
    refine and_congr_right fun _ => and_congr_right fun _ => ?_
    refine and_congr_left fun _ => ⟨fun h => ⟨husername, hgiven, haddress, hprogram, h.1⟩, ?_⟩
    exact fun h => ⟨h.storable, storable_of_validateStellarAddress haddress⟩
  · refine iff_of_false ?_ ?_
    · intro h
      unfold registerContributor at h
      split_ifs at h with hempty haddress
      · cases h
      · cases h
      · cases hp : w.db.program? body.programId with
        | none =>
          have hexec : (Stmt.selectProgramId body.programId).exec source w.db =
              .ok (none, w.db) := by
            simp only [Stmt.exec, hp, Option.map_none]
          rw [tryAlone_bind_ok (tryAlone_query_ok hexec)] at h
          cases h
        | some p =>
          exact hvalid ⟨by simpa using hempty, by simpa using haddress, p,
            w.db.program?_eq_some.1 hp⟩
    · rintro ⟨-, -, hreaches, -⟩
      exact hvalid ⟨⟨hreaches.username, hreaches.given⟩, hreaches.address, hreaches.program⟩

/-- A conflict of `register_contributor` says that the user is registered. The user is, unless it is
the index that has no room for the name. -/
theorem registerContributor_truthful :
    ((∃ text w', tryAlone source w (registerContributor body) = (.error (.conflict text), w')) →
        HasContributor w.db body.programId body.githubUsername) ↔
      ¬ body.Reaches w.db ∨ HasContributor w.db body.programId body.githubUsername ∨
        ¬ w.db.server.NamedRefusal (.idText body.programId body.githubUsername) := by
  constructor
  · intro htruthful
    by_cases hreaches : body.Reaches w.db
    · by_cases hlarge : w.db.server.NamedRefusal (.idText body.programId body.githubUsername)
      · exact .inr (.inl (htruthful
          ⟨_, _, registerContributor_conflict.2 ⟨rfl, rfl, hreaches, .inr hlarge⟩⟩))
      · exact .inr (.inr hlarge)
    · exact .inl hreaches
  · rintro hwhen ⟨text, w', hconflict⟩
    obtain ⟨-, -, hreaches, hhas | hlarge⟩ := registerContributor_conflict.1 hconflict
    · exact hhas
    · rcases hwhen with hnot | hhas | hroom
      · exact absurd hreaches hnot
      · exact hhas
      · exact absurd hlarge hroom

end RegisterContributor

/-! ### Refused inserts -/

section Run

variable {ι : Type} [DecidableEq ι] {C : Crates} {config : AppConfig} {calls : ι → Call} {w : World}
  {s s' : Service ι} {e : Event ι Op Op.Ans} {h : List (Entry (Service ι) (Event ι Op Op.Ans))}

/-- The answer to a statement makes its handler return a conflict. -/
def Conflicts (e : Event ι Op Op.Ans) (q : Stmt) : Prop :=
  ∃ i err text, e = ⟨i, .sql q, .error err⟩ ∧ conflictOr text err = .conflict text

/-- A violated constraint comes from the database, not from the way to it. -/
theorem Op.Faulty.exec_of_names {source : UuidSource} {w w' : World} {q : Stmt} {err : DbError}
    (h : Op.Faulty source (.sql q) w (.error err) w') (hnames : err.Names) :
    q.exec source w.db = .error err := by
  cases h with
  | done h => exact h.sql_error.1
  | lost => exact absurd hnames Bool.false_ne_true
  | unheard => exact absurd hnames Bool.false_ne_true

/-- **A payout conflicts with a payout**: when its insert is refused, there is one for the PR. -/
theorem payout_of_conflict
    (hrun : Run (Service.FaultyStep C config calls) (Service.start C config calls w) h s)
    {e : Entry (Service ι) (Event ι Op Op.Ans)} (he : e ∈ h) {program : Uuid} {pr : Int64}
    {username address txHash : String} {points : Int32} {amount : Int64}
    (hconflict : Conflicts e.label
      (.insertPayout program pr username address points amount txHash)) :
    ∃ req merge, calls e.label.thread = .webhook req ∧ req.merge? C = some merge ∧
      ∃ row ∈ e.pre.world.db.payouts, row.programId = program ∧
        row.prNumber.toInt = merge.prNumber.toNat := by
  obtain ⟨before, rest, -, hbefore, hstep⟩ := hrun.split he
  have hallowed := allowed_of_run hbefore hstep
  have hanswered := hstep.answered
  obtain ⟨i, err, text, hlabel, hconflict⟩ := hconflict
  rw [hlabel] at hallowed hanswered
  obtain ⟨req, merge, t, hcall, hmerge, hphase, hprogram, hnumber, -, hpoints⟩ :=
    priced_of_record hallowed
  have hnames := (conflictOr_eq_conflict.1 hconflict).1
  -- What the handler has read leaves the constraint of the PR as the only one that can fire.
  have hknows := knows_of_run hbefore hcall hmerge
  rw [hphase] at hknows
  obtain ⟨⟨p, hp, hid, -⟩, -, hamount⟩ := hknows
  have hpositive : (0 : Int32) < points := by
    rw [hpoints]
    decide
  obtain ⟨row, hrow, hrowid, hrownumber⟩ := Db.insertPayout_refused hnames hamount hpositive
    ⟨p, hp, hid.trans hprogram⟩ (hanswered.exec_of_names hnames)
  refine ⟨req, merge, ?_, hmerge, row, hrow, hrowid, ?_⟩
  · rw [hlabel]
    exact hcall
  · rw [hrownumber]
    exact hnumber

/-! ### Registrations in a run -/

/-- What is known of a `register_contributor`. -/
inductive Registering
  | asked
  /-- The program was found. -/
  | found
  /-- The insert was refused. -/
  | refused

variable {m : Registering} {body : RegisterContributorRequest}

/-- The phase after an answer. -/
def Registering.next (m : Registering) (op : Op) : op.Ans → Registering :=
  match m, op with
  | .asked, .sql (.selectProgramId _) => fun
    | .ok (some _) => .found
    | _ => .asked
  | .found, .sql (.insertContributor _ _ _) => fun
    | .ok () => .found
    | .error err => if err.constraint?.isSome then .refused else .found
  | _, _ => fun _ => m

/-- What `register_contributor` does in a phase. -/
inductive Registers (body : RegisterContributorRequest) : Registering → Op → Prop
  | lookUp : Registers body .asked (.sql (.selectProgramId body.programId))
  | insert : Registers body .found
      (.sql (.insertContributor body.programId body.githubUsername body.stellarAddress))

/-- The protocol of a `register_contributor`; other calls are not watched. -/
def registering : Call → Protocol Op Op.Ans Registering
  | .admin (.registerContributor body) => ⟨Registers body, Registering.next⟩
  | _ => only fun _ => True

/-- The phase and the result with which `register_contributor` ends. -/
def Registering.Ends (m : Registering) : Except WaveFlowError Response → Prop
  | .ok r => r.status = 201
  | .error err => err.httpStatusCode = 409 → m = .refused

theorem follows_registerContributor (body : RegisterContributorRequest) :
    Follows (registering (.admin (.registerContributor body))) .asked
      (registerContributor body).run Registering.Ends := by
  unfold registerContributor
  split_ifs with hempty haddress
  · intro hstatus
    cases hstatus
  · intro hstatus
    cases hstatus
  · refine follows_except_bind (follows_query .lookUp (fun found => ?_) fun _ hstatus => ?_)
    · cases found with
      | none =>
        intro hstatus
        cases hstatus
      | some id =>
        refine follows_except_bind (follows_query .insert (fun _ => rfl) fun err hstatus => ?_)
        have hnames : err.constraint?.isSome = true := by
          by_contra hnot
          rw [conflictOr, if_neg hnot] at hstatus
          cases hstatus
        exact if_pos hnames
    · cases hstatus

/-- A registration is answered with status 409 when its insert was refused. -/
theorem follows_registering (call : Call) :
    Follows (registering call) .asked (call.handler C config) fun m r => ∀ body,
      call = .admin (.registerContributor body) → r.status = 409 → m = .refused := by
  by_cases hcall : ∃ body, call = .admin (.registerContributor body)
  · obtain ⟨body, rfl⟩ := hcall
    refine follows_bind ((follows_registerContributor body).mono ?_)
    rintro m (err | r) hends - - hstatus
    · exact hends hstatus
    · have hcreated : r.status = 201 := hends
      rw [show r.status = 409 from hstatus] at hcreated
      cases hcreated
  · have hprotocol : registering call = only fun _ => True := by
      unfold registering
      split
      · exact absurd ⟨_, rfl⟩ hcall
      · rfl
    rw [hprotocol]
    exact (follows_anything _).mono fun _ _ _ body hbody => absurd ⟨body, hbody⟩ hcall

/-- What the phase of a registration tells about the database. -/
def Registering.Knows (body : RegisterContributorRequest) : Registering → Db → Prop
  | .asked, _ => True
  | .found, db => ∃ p ∈ db.programs, p.id = body.programId
  | .refused, db => HasContributor db body.programId body.githubUsername ∨
      db.server.NamedRefusal (.idText body.programId body.githubUsername)

theorem Registering.Knows.mono {db db' : Db} (hknows : m.Knows body db) (hgrows : db.Grows db') :
    m.Knows body db' := by
  cases m with
  | asked => trivial
  | found =>
    obtain ⟨p, hp, hid⟩ := hknows
    obtain ⟨q, hq, hsame⟩ := hgrows.programs p hp
    exact ⟨q, hq, hsame.id.trans hid⟩
  | refused =>
    rcases hknows with ⟨row, hrow, hrest⟩ | hlarge
    · exact .inl ⟨row, hgrows.contributors row hrow, hrest⟩
    · exact .inr (hgrows.server ▸ hlarge)

/-- The lookup finds the program, and after that only the primary key can refuse the insert. -/
theorem Registering.Knows.next {source : UuidSource} {op : Op} {w w' : World} {ans : op.Ans}
    (hregisters : Registers body m op) (hexec : op.Faulty source w ans w')
    (hknows : m.Knows body w.db) : (m.next op ans).Knows body w'.db := by
  cases hregisters with
  | lookUp =>
    rcases ans with err | _ | id
    · trivial
    · trivial
    · obtain ⟨db, hok, rfl⟩ := hexec.sql_ok
      simp only [Stmt.exec, Except.ok.injEq, Prod.mk.injEq, Option.map_eq_some_iff] at hok
      obtain ⟨⟨p, hp, -⟩, rfl⟩ := hok
      exact ⟨p, w.db.program?_eq_some.1 hp⟩
  | insert =>
    cases ans with
    | ok r => exact hknows.mono hexec.grows
    | error err =>
      have hstays := hknows.mono hexec.grows
      show (if err.constraint?.isSome then Registering.refused else .found).Knows body w'.db
      split_ifs with hnames
      · have hrefused := hexec.exec_of_names hnames
        simp only [Stmt.exec, bind_eq_error] at hrefused
        rcases hrefused with hrefused | ⟨db, -, hdone⟩
        · have hknown : Registering.refused.Knows body w.db :=
            ((Db.insertContributor_refused_iff hknows).1 ⟨err, hnames, hrefused⟩).2
          exact hknown.mono hexec.grows
        · cases hdone
      · exact hstays

theorem registering_of_run
    (hrun : Run (Service.FaultyStep C config calls) (Service.start C config calls w) h s) {i : ι}
    (hi : calls i = .admin (.registerContributor body)) :
    (Pool.watch (registering (calls i)) .asked i h).Knows body s.world.db := by
  refine Pool.watched_of_run (R := fun i => registering (calls i)) (n := fun _ => .asked)
    (J := fun i m _ w => ∀ body, calls i = .admin (.registerContributor body) → m.Knows body w.db)
    hrun (fun i => follows_registering (calls i)) ?_ ?_ ?_ i body hi
  · intro i body _
    trivial
  · intro h s e s' _ hs hallowed hJ body hi
    have hknows := hJ body hi
    simp only [hi, registering] at hallowed hknows ⊢
    exact hknows.next hallowed hs.answered
  · intro i h s e s' _ hs _ hJ body hi
    exact (hJ body hi).mono hs.answered.grows

/-- **A registration conflicts with a registration**: when it is answered with status 409, the user
is registered, or the index has no room for the name. -/
theorem contributor_of_conflict
    (hrun : Run (Service.FaultyStep C config calls) (Service.start C config calls w) h s) {i : ι}
    (hi : calls i = .admin (.registerContributor body)) {r : Response} (hr : s.prog i = .ret r)
    (hstatus : r.status = 409) :
    HasContributor s.world.db body.programId body.githubUsername ∨
      s.world.db.server.NamedRefusal (.idText body.programId body.githubUsername) := by
  have hthread := Pool.follows_watch (R := fun i => registering (calls i)) (n := fun _ => .asked)
    hrun (fun i => follows_registering (calls i)) i
  rw [hr] at hthread
  have hrefused := hthread body hi hstatus
  have hknows := registering_of_run hrun hi
  rw [hrefused] at hknows
  exact hknows

/-! ### Which conflicts are truthful -/

/-- The conflicts of payouts in a run, and those of registrations whose names the index has room
for, say what is there. -/
structure Truthful (C : Crates) (calls : ι → Call)
    (h : List (Entry (Service ι) (Event ι Op Op.Ans))) (s : Service ι) : Prop where
  payout : ∀ e ∈ h, ∀ program pr username address points amount txHash,
    Conflicts e.label (.insertPayout program pr username address points amount txHash) →
      ∃ req merge, calls e.label.thread = .webhook req ∧ req.merge? C = some merge ∧
        ∃ row ∈ e.pre.world.db.payouts, row.programId = program ∧
          row.prNumber.toInt = merge.prNumber.toNat
  contributor : ∀ i body r, calls i = .admin (.registerContributor body) → s.prog i = .ret r →
    r.status = 409 → ¬ s.world.db.server.NamedRefusal (.idText body.programId body.githubUsername) →
    HasContributor s.world.db body.programId body.githubUsername

/-- **Which conflicts are truthful.** Those of payouts are, in every run. That of a `create_program`
is, unless the repo has no program, and the id on chain is taken or the index has no room for the
slug; that of a `register_contributor`, unless the user is not registered and the index has no room
for the name. -/
theorem conflicts_truthful
    (hrun : Run (Service.FaultyStep C config calls) (Service.start C config calls w) h s) :
    Truthful C calls h s ∧
      (∀ body : CreateProgramRequest,
        ((∃ text w', tryAlone C.uuids s.world (createProgram body) =
            (.error (.conflict text), w')) →
          HasProgram s.world.db body.githubRepo) ↔
        ¬ body.Reaches ∨ HasProgram s.world.db body.githubRepo ∨
          (¬ IdTaken s.world.db body.onChainProgramId ∧
            ¬ s.world.db.server.NamedRefusal (.text body.githubRepo))) ∧
      ∀ body : RegisterContributorRequest,
        ((∃ text w', tryAlone C.uuids s.world (registerContributor body) =
            (.error (.conflict text), w')) →
          HasContributor s.world.db body.programId body.githubUsername) ↔
        ¬ body.Reaches s.world.db ∨
          HasContributor s.world.db body.programId body.githubUsername ∨
          ¬ s.world.db.server.NamedRefusal (.idText body.programId body.githubUsername) := by
  refine ⟨⟨?_, ?_⟩, fun body => createProgram_truthful, fun body => registerContributor_truthful⟩
  · intro e he program pr username address points amount txHash hconflict
    exact payout_of_conflict hrun he hconflict
  · intro i body r hi hr hstatus hroom
    exact (contributor_of_conflict hrun hi hr hstatus).resolve_right hroom

/-- A contributor is registered twice. -/
theorem conflicts_truthful_setup :
    let calls : Fin 3 → Call := fun i => Setup.founding (if i = 0 then 0 else 1)
    let play := Service.play Setup.crates Setup.config calls Setup.blank
      (List.replicate 4 0 ++ List.replicate 4 1 ++ List.replicate 4 2)
    ∃ row ∈ play.2.world.db.contributors, row.programId = Setup.program.1 ∧
      row.githubUsername.val = "alice" := by
  intro calls play
  have hstatus : (play.2.prog 2).value?.map Response.status = some 409 := by decide +kernel
  obtain ⟨r, hr, hstatus⟩ := Option.map_eq_some_iff.1 hstatus
  have hrun := faulty_of_run (Service.run_play Setup.crates Setup.config calls Setup.blank
    (List.replicate 4 0 ++ List.replicate 4 1 ++ List.replicate 4 2))
  exact (conflicts_truthful hrun).1.contributor 2 _ r rfl (Prog.value?_eq_some.1 hr) hstatus
    (by decide +kernel)

/-- A second repo with the id of the first one: there is no program for it, but the answer says
so. -/
theorem conflict_untruthful :
    let calls : Fin 1 → Call := fun _ => Setup.founding 0
    let play := Service.play Setup.crates Setup.config calls Setup.blank (List.replicate 4 0)
    let body : CreateProgramRequest := ⟨1, "StellarRoute/Docs", Setup.account, 10, none⟩
    tryAlone Setup.uuids play.2.world (createProgram body) =
      (.error (.conflict "program already exists for repo StellarRoute/Docs"), play.2.world) ∧
      ¬ HasProgram play.2.world.db body.githubRepo := by
  intro calls play body
  constructor
  · have htaken : ∃ p ∈ play.2.world.db.programs.rows,
        p.onChainProgramId = saturate body.onChainProgramId := by
      decide +kernel
    have hreaches : body.Reaches :=
      ⟨by decide +kernel, by decide +kernel, by decide +kernel, by decide +kernel⟩
    exact createProgram_conflict.2 ⟨by decide +kernel, rfl, hreaches, .inr (.inl htaken)⟩
  · rintro ⟨p, hp, hrepo⟩
    have hrows : ∀ p ∈ play.2.world.db.programs.rows, p.githubRepo.val ≠ body.githubRepo := by
      decide +kernel
    exact hrows p hp hrepo

end Run

end WaveFlow
