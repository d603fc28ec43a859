import WaveFlow.Api.Isolation
import WaveFlow.Api.Site
import WaveFlow.Gateway.Price
import WaveFlow.Gateway.Settlement

/-!
# Where a payout comes from

A site that began with an empty database can account for every payout in it
(`payout_accounted_for`): a request with an admin key created its program, one registered its
author, one set the reward that is paid, and a signed webhook delivered the merge. Nothing in the
row comes from elsewhere, in any run, with any number of requests and with a failing database.

The three admin requests are found one by one, each as the step in which something came about that
was not there before (`founded_of_run`, `registered_of_run`, `offered_of_run`).
-/

namespace WaveFlow

open Interaction Postgres Transition

variable {ι : Type} [DecidableEq ι] {C : Crates} {config : AppConfig} {calls : ι → Call}
  {w : World} {s s' : Service ι} {h : List (Entry (Service ι) (Event ι Op Op.Ans))}
  {e : Event ι Op Op.Ans} {source : UuidSource} {server : Server} {db db' : Db} {id : Uuid}
  {row : PayoutRow}

/-! ### Deeds -/

/-- Who took a step, and the databases around it. -/
structure Deed (ι : Type) where
  thread : ι
  before : Db
  after : Db

def Deed.of (e : Entry (Service ι) (Event ι Op Op.Ans)) : Deed ι :=
  ⟨e.label.thread, e.pre.world.db, e.post.world.db⟩

/-- The history, without the handlers. -/
def deeds (h : List (Entry (Service ι) (Event ι Op Op.Ans))) : List (Deed ι) := h.map Deed.of

omit [DecidableEq ι] in
theorem deeds_sublist {l : List (Deed ι)}
    {before after : List (Entry (Service ι) (Event ι Op Op.Ans))}
    {e : Entry (Service ι) (Event ι Op Op.Ans)} (hl : l.Sublist (deeds before)) :
    (l ++ [Deed.of e]).Sublist (deeds (before ++ e :: after)) := by
  rw [deeds, List.map_append, List.map_cons]
  exact hl.append (List.singleton_sublist.2 List.mem_cons_self)

/-- The program right after its creation. -/
def CreateProgramRequest.record (body : CreateProgramRequest) (createdAt : Timestamp) (id : Uuid) :
    ProgramRecord :=
  ⟨id, (saturate body.onChainProgramId).toUInt64, body.githubRepo, body.maintainerAddress,
    body.rewardPerPoint.toInt, 0, body.milestoneCap.map Int64.toInt, 0, .active, createdAt⟩

/-- The calls that set the reward of a program. -/
inductive SetsReward (id : Uuid) (reward : Int64) (db : Db) : Call → Prop
  | created (body : CreateProgramRequest) (hnew : db.program? id = none)
      (hreward : body.rewardPerPoint = reward) :
      SetsReward id reward db (.admin (.createProgram body))
  | updated : SetsReward id reward db (.admin (.updateRatio id ⟨reward⟩))

/-- A payout, and what it comes from: `came i call` says that thread `i` handles the call. -/
structure Custody (C : Crates) (config : AppConfig) (came : ι → Call → Prop) (row : PayoutRow)
    (created registered priced paid : Deed ι) (founding : CreateProgramRequest)
    (registration : RegisterContributorRequest) (reward : Int64) (req : Request)
    (merge : MergeAttestation) : Prop where
  founds : came created.thread (.admin (.createProgram founding))
  unfounded : created.before.program? row.programId = none
  founded : created.after.shown row.programId =
    some (founding.record created.before.creationTime row.programId)
  registers : came registered.thread (.admin (.registerContributor registration))
  program : registration.programId = row.programId
  author : registration.githubUsername = merge.githubUsername
  unknown : registered.before.contributor? row.programId merge.githubUsername = none
  known : registered.after.contributor? row.programId merge.githubUsername ≠ none
  prices : ∃ call, came priced.thread call ∧ SetsReward row.programId reward priced.before call
  offered : ∃ p, priced.after.program? row.programId = some p ∧ p.rewardPerPoint = reward
  delivers : came paid.thread (.webhook req)
  signed : req.Signed C config
  merges : req.merge? C = some merge
  repo : merge.githubRepo = founding.githubRepo
  unpaid : paid.before.payout? row.programId row.prNumber = none
  recorded : row ∈ paid.after.payouts
  entry : row.entry = Deal.entry config merge
    ⟨⟨row.programId, saturate founding.onChainProgramId⟩, registration.stellarAddress, reward⟩

/-! ### Statements -/

/-- A program comes about by its creation. -/
theorem Postgres.Stmt.founds {q : Stmt} {r : q.Result} (h : q.exec source db = .ok (r, db'))
    (hnone : db.program? id = none) (hsome : db'.program? id ≠ none) :
    ∃ onChain repo maintainer reward cap,
      q = .insertProgram onChain repo maintainer reward cap ∧
        db'.shown id = some ⟨id, onChain.toUInt64, repo, maintainer, reward.toInt, 0,
          cap.map Int64.toInt, 0, .active, db.creationTime⟩ := by
  cases Stmt.writes h with
  | kept => exact absurd hnone hsome
  | contributor hadds | payout hadds | event hadds =>
    rw [Db.program?_of_programs hadds.programs] at hsome
    exact absurd hnone hsome
  | status | reward | raised =>
    refine absurd ?_ hsome
    exact (Db.program?_modifyProgram _ _ _ _).trans (by rw [hnone, Option.map_none])
  | program =>
    obtain ⟨p, hadds, -, hrecord, -⟩ := Db.insertProgram_record h
    have hpid : p.id = _ := congrArg ProgramRecord.id hrecord
    rw [hadds.program?, hnone, Option.none_or] at hsome
    split_ifs at hsome with hid
    · refine ⟨_, _, _, _, _, rfl, ?_⟩
      rw [Db.shown, hadds.program?, hnone, Option.none_or, if_pos hid, Option.map_some, hrecord]
      rw [← hid, hpid]
    · exact absurd rfl hsome

/-- A registration comes about as it is asked for. -/
theorem Postgres.Stmt.registers {q : Stmt} {r : q.Result} (h : q.exec source db = .ok (r, db'))
    {row : ContributorRow} (habsent : row ∉ db.contributors) (hpresent : row ∈ db'.contributors) :
    q = .insertContributor row.programId row.githubUsername.val row.stellarAddress.val ∧
      db'.programs = db.programs := by
  cases Stmt.writes h with
  | kept | status | reward | raised => exact absurd hpresent habsent
  | program hadds | payout hadds | event hadds =>
    rw [hadds.contributors] at hpresent
    exact absurd hpresent habsent
  | contributor hadds =>
    rcases hadds.mem_contributors.1 hpresent with hold | rfl
    · exact absurd hold habsent
    · exact ⟨rfl, hadds.programs⟩

/-- The program has this reward. -/
def Postgres.Db.Offers (db : Db) (id : Uuid) (reward : Int64) : Prop :=
  ∃ p, db.program? id = some p ∧ p.rewardPerPoint = reward

/-- A reward comes about by the creation of its program, or by an update. -/
theorem Postgres.Stmt.prices {q : Stmt} {r : q.Result} (h : q.exec source db = .ok (r, db'))
    {reward : Int64} (hbefore : ¬ db.Offers id reward) (hafter : db'.Offers id reward) :
    (db.program? id = none ∧ ∃ onChain repo maintainer cap,
        q = .insertProgram onChain repo maintainer reward cap) ∨ q = .updateReward reward id := by
  obtain ⟨p', hp', hreward'⟩ := hafter
  have hchanges := Stmt.changes h id
  cases hp : db.program? id with
  | none =>
    obtain ⟨onChain, repo, maintainer, reward', cap, hq, hshown⟩ :=
      Stmt.founds h hp (by rw [hp']; exact Option.some_ne_none p')
    rw [shown_of_program hp'] at hshown
    have hsame : p'.rewardPerPoint.toInt = reward'.toInt :=
      congrArg ProgramRecord.rewardPerPoint (Option.some.inj hshown)
    rw [hreward', Int64.toInt_inj] at hsame
    exact .inl ⟨rfl, onChain, repo, maintainer, cap, hsame ▸ hq⟩
  | some p =>
    rw [hp, hp'] at hchanges
    obtain ⟨p'', heq, hkept | hset⟩ := hchanges.reward_eq
    · obtain rfl := Option.some.inj heq
      exact absurd ⟨p, hp, hkept.symm.trans hreward'⟩ hbefore
    · obtain rfl := Option.some.inj heq
      exact .inr (hreward' ▸ hset)

/-- A payout comes about for a pull request that had none. -/
theorem unpaid_of_new (hgrows : db.Grows db') (habsent : row ∉ db.payouts)
    (hpresent : row ∈ db'.payouts) : db.payout? row.programId row.prNumber = none := by
  by_contra hpaid
  obtain ⟨row', hrow', hprogram, hnumber⟩ := db.payout?_ne_none.1 hpaid
  have hsame := db'.payout_eq_of_pr (hgrows.payouts row' hrow') hpresent hprogram hnumber
  exact habsent (hsame ▸ hrow')

/-- A registration comes about for an author who had none. -/
theorem unregistered_of_new (hgrows : db.Grows db') {r : ContributorRow}
    (habsent : r ∉ db.contributors) (hpresent : r ∈ db'.contributors) :
    db.contributor? r.programId r.githubUsername.val = none := by
  by_contra hsome
  obtain ⟨r', hr'⟩ := Option.ne_none_iff_exists'.1 hsome
  obtain ⟨hmem, hid, husername⟩ := db.contributor?_eq_some.1 hr'
  have hkept := db'.contributor?_eq_some.2 ⟨hgrows.contributors r' hmem, hid, husername⟩
  rw [db'.contributor?_eq_some.2 ⟨hpresent, rfl, rfl⟩] at hkept
  exact habsent (Option.some.inj hkept ▸ hmem)

/-! ### Admin calls -/

section Performs

variable {a : AdminCall} {q : Stmt}

theorem AdminCall.Performs.creates (hperforms : a.Performs (.sql q)) {onChain : Int64}
    {repo maintainer : String} {reward : Int64} {cap : Option Int64}
    (hq : q = .insertProgram onChain repo maintainer reward cap) :
    ∃ body, a = .createProgram body ∧ onChain = saturate body.onChainProgramId ∧
      repo = body.githubRepo ∧ maintainer = body.maintainerAddress ∧
      reward = body.rewardPerPoint ∧ cap = body.milestoneCap := by
  cases hperforms with
  | create body =>
    obtain ⟨honChain, hrepo, hmaintainer, hreward, hcap⟩ := Stmt.insertProgram.inj hq
    exact ⟨body, rfl, honChain.symm, hrepo.symm, hmaintainer.symm, hreward.symm, hcap.symm⟩
  | _ => cases hq

theorem AdminCall.Performs.registers (hperforms : a.Performs (.sql q)) {username address : String}
    (hq : q = .insertContributor id username address) :
    a = .registerContributor ⟨id, username, address⟩ := by
  cases hperforms with
  | register body =>
    obtain ⟨rfl, rfl, rfl⟩ := Stmt.insertContributor.inj hq
    rfl
  | _ => cases hq

theorem AdminCall.Performs.updates (hperforms : a.Performs (.sql q)) {reward : Int64}
    (hq : q = .updateReward reward id) : a = .updateRatio id ⟨reward⟩ := by
  cases hperforms with
  | updateRatio id body =>
    obtain ⟨rfl, rfl⟩ := Stmt.updateReward.inj hq
    rfl
  | _ => cases hq

end Performs

/-- Terms and registrations are set by admin calls, as these ask for them. -/
theorem administered_of_run
    (hrun : Run (Service.FaultyStep C config calls) (Service.start C config calls w) h s)
    (hs : Service.FaultyStep C config calls s e s') {q : Stmt} (hop : e.op = .sql q)
    (hq : ¬ q.KeepsTerms) : ∃ a, calls e.thread = .admin a ∧ a.Performs (.sql q) := by
  have hallowed := allowed_of_run hrun hs
  have hperforms := performed_of_run hrun hs
  rw [hop] at hallowed hperforms
  cases hcall : calls e.thread with
  | admin a =>
    rw [hcall] at hperforms
    exact ⟨a, rfl, hperforms⟩
  | webhook req =>
    rw [protocols, hcall] at hallowed
    have hallows : Allows C config req (s.phase e.thread) (.sql q) := hallowed
    exact absurd hallows.keepsTerms hq

theorem founded_of_step
    (hrun : Run (Service.FaultyStep C config calls) (Service.start C config calls w) h s)
    (hs : Service.FaultyStep C config calls s e s') (hnone : s.world.db.program? id = none)
    (hsome : s'.world.db.program? id ≠ none) :
    ∃ founding, calls e.thread = .admin (.createProgram founding) ∧
      s'.world.db.shown id = some (founding.record s.world.db.creationTime id) := by
  have hanswered : e.op.Faulty C.uuids s.world e.ans s'.world := hs.answered
  rcases hanswered.effect with hdb | ⟨q, r, hop, hok⟩
  · rw [hdb] at hsome
    exact absurd hnone hsome
  · obtain ⟨onChain, repo, maintainer, reward, cap, rfl, hshown⟩ := Stmt.founds hok hnone hsome
    obtain ⟨a, hcall, hperforms⟩ := administered_of_run hrun hs hop fun h => h
    obtain ⟨body, rfl, honChain, hrepo, hmaintainer, hreward, hcap⟩ := hperforms.creates rfl
    refine ⟨body, hcall, ?_⟩
    rw [hshown, honChain, hrepo, hmaintainer, hreward, hcap, CreateProgramRequest.record]

theorem registered_of_step
    (hrun : Run (Service.FaultyStep C config calls) (Service.start C config calls w) h s)
    (hs : Service.FaultyStep C config calls s e s') {row : ContributorRow}
    (habsent : row ∉ s.world.db.contributors) (hpresent : row ∈ s'.world.db.contributors) :
    calls e.thread = .admin (.registerContributor
        ⟨row.programId, row.githubUsername.val, row.stellarAddress.val⟩) ∧
      s'.world.db.programs = s.world.db.programs := by
  have hanswered : e.op.Faulty C.uuids s.world e.ans s'.world := hs.answered
  rcases hanswered.effect with hdb | ⟨q, r, hop, hok⟩
  · rw [hdb] at hpresent
    exact absurd hpresent habsent
  · obtain ⟨rfl, hprograms⟩ := Stmt.registers hok habsent hpresent
    obtain ⟨a, hcall, hperforms⟩ := administered_of_run hrun hs hop fun h => h
    exact ⟨by rw [hcall, hperforms.registers rfl], hprograms⟩

theorem priced_of_step
    (hrun : Run (Service.FaultyStep C config calls) (Service.start C config calls w) h s)
    (hs : Service.FaultyStep C config calls s e s') {reward : Int64}
    (hbefore : ¬ s.world.db.Offers id reward) (hafter : s'.world.db.Offers id reward) :
    SetsReward id reward s.world.db (calls e.thread) := by
  have hanswered : e.op.Faulty C.uuids s.world e.ans s'.world := hs.answered
  rcases hanswered.effect with hdb | ⟨q, r, hop, hok⟩
  · rw [hdb] at hafter
    exact absurd hafter hbefore
  · rcases Stmt.prices hok hbefore hafter with ⟨hnew, onChain, repo, maintainer, cap, rfl⟩ | rfl
    · obtain ⟨a, hcall, hperforms⟩ := administered_of_run hrun hs hop fun h => h
      obtain ⟨body, rfl, -, -, -, hreward, -⟩ := hperforms.creates rfl
      rw [hcall]
      exact .created body hnew hreward.symm
    · obtain ⟨a, hcall, hperforms⟩ := administered_of_run hrun hs hop fun h => h
      rw [hcall, hperforms.updates rfl]
      exact .updated

/-! ### Runs of the services -/

omit [DecidableEq ι] in
theorem world_start (w : World) : (Service.start C config calls w).world = w := rfl

/-- A program was created, and has kept its on-chain id and its repo. -/
theorem founded_of_run
    (hrun : Run (Service.FaultyStep C config calls) (Service.start C config calls w) h s)
    (hempty : w.db = .empty server) {p : ProgramRow} (hp : p ∈ s.world.db.programs) :
    ∃ e ∈ h, ∃ founding, calls e.label.thread = .admin (.createProgram founding) ∧
      e.pre.world.db.program? p.id = none ∧
      e.post.world.db.shown p.id =
        some (founding.record e.pre.world.db.creationTime p.id) ∧
      p.onChainProgramId = saturate founding.onChainProgramId ∧
      p.githubRepo.val = founding.githubRepo := by
  have hthere : s.world.db.program? p.id = some p := s.world.db.program?_eq_some.2 ⟨hp, rfl⟩
  obtain ⟨e, before, rest, rfl, hr, hs, hnone, hsome⟩ :=
    hrun.came_about (fun s => s.world.db.program? p.id ≠ none)
      (fun hno => hno (by rw [world_start, hempty]; rfl))
      (by rw [hthere]; exact Option.some_ne_none p)
  rw [not_not] at hnone
  obtain ⟨founding, hcall, hshown⟩ := founded_of_step hr hs hnone hsome
  -- The program keeps its keys from then on.
  obtain ⟨p₁, hp₁, hrecord⟩ := Option.map_eq_some_iff.1 hshown
  rw [ProgramRow.intoRecord, CreateProgramRequest.record] at hrecord
  obtain ⟨-, honChain, hrepo, -⟩ := ProgramRecord.mk.inj hrecord
  obtain ⟨-, -, hafter⟩ := hrun.around
  obtain ⟨hmem, hid⟩ := e.post.world.db.program?_eq_some.1 hp₁
  obtain ⟨p', hp', hkeys⟩ := (grows_since hafter).programs p₁ hmem
  obtain rfl := s.world.db.program_eq_of_id hp' hp (hkeys.id.trans hid)
  refine ⟨e, List.mem_append_right _ List.mem_cons_self, founding, hcall, hnone, hshown, ?_, ?_⟩
  · exact hkeys.onChain.trans (toUInt64_injective honChain)
  · rw [hkeys.repo, hrepo]

/-- A contributor was registered, for a program that was there. -/
theorem registered_of_run
    (hrun : Run (Service.FaultyStep C config calls) (Service.start C config calls w) h s)
    (hempty : w.db = .empty server) {r : ContributorRow} (hr : r ∈ s.world.db.contributors) :
    ∃ e before rest, h = before ++ e :: rest ∧
      calls e.label.thread = .admin (.registerContributor
        ⟨r.programId, r.githubUsername.val, r.stellarAddress.val⟩) ∧
      e.pre.world.db.contributor? r.programId r.githubUsername.val = none ∧
      e.post.world.db.contributor? r.programId r.githubUsername.val = some r ∧
      ∃ p ∈ e.pre.world.db.programs, p.id = r.programId := by
  obtain ⟨e, before, rest, hh, hbefore, hs, habsent, hpresent⟩ :=
    hrun.came_about (fun s => r ∈ s.world.db.contributors)
      (by rw [world_start, hempty]; simp [Db.empty]) hr
  obtain ⟨hcall, hprograms⟩ := registered_of_step hbefore hs habsent hpresent
  exact ⟨e, before, rest, hh, hcall, unregistered_of_new hs.answered.grows habsent hpresent,
    e.post.world.db.contributor?_eq_some.2 ⟨hpresent, rfl, rfl⟩,
    hprograms ▸ e.post.world.db.contributors_fkey r hpresent⟩

/-- A reward was set. -/
theorem offered_of_run
    (hrun : Run (Service.FaultyStep C config calls) (Service.start C config calls w) h s)
    (hempty : w.db = .empty server) {reward : Int64} (hoffers : s.world.db.Offers id reward) :
    ∃ e ∈ h, SetsReward id reward e.pre.world.db (calls e.label.thread) ∧
      e.post.world.db.Offers id reward := by
  have hnew : ¬ (Service.start C config calls w).world.db.Offers id reward := by
    rintro ⟨p, hp, -⟩
    rw [world_start, hempty] at hp
    cases hp
  obtain ⟨e, before, rest, rfl, hr, hs, hbefore, hafter⟩ :=
    hrun.came_about (fun s => s.world.db.Offers id reward) hnew hoffers
  exact ⟨e, List.mem_append_right _ List.mem_cons_self, priced_of_step hr hs hbefore hafter, hafter⟩

/-- **The services account for their payouts.** -/
theorem custody_of_run
    (hrun : Run (Service.FaultyStep C config calls) (Service.start C config calls w) h s)
    (hempty : w.db = .empty server) (hrow : row ∈ s.world.db.payouts) :
    ∃ created registered priced paid founding registration reward req merge,
      [created, registered, paid].Sublist (deeds h) ∧ [priced, paid].Sublist (deeds h) ∧
        Custody C config (fun i call => calls i = call) row created registered priced paid founding
          registration reward req merge := by
  obtain ⟨paid, before, rest, rfl, hr, hs, habsent, hpresent⟩ :=
    hrun.came_about (fun s => row ∈ s.world.db.payouts)
      (by rw [world_start, hempty]; simp [Db.empty]) hrow
  obtain ⟨id, pr, username, address, points, amount, txHash, hop, hentry⟩ :=
    record_of_new hs.answered habsent hpresent
  have hallowed := allowed_of_run hr hs
  rw [hop] at hallowed
  obtain ⟨req, hcall, hallows⟩ := webhook_of_allows (by rintro ⟨⟩) hallowed
  generalize hphase : paid.pre.phase paid.label.thread = m at hallows
  cases hallows with
  | @record merge hmerge t address reward hpr =>
    have hprogram : row.programId = t.program := congrArg PayoutEntry.programId hentry
    have hknows := knows_of_run hr hcall hmerge
    have hquoted := quoted_of_run hr hcall hmerge
    obtain ⟨-, hsigned⟩ := signed_of_run hr hcall (by rw [hphase]; simp)
    rw [hphase] at hknows hquoted
    obtain ⟨⟨p, hp, hpid, honChain, hrepo⟩, ⟨r, hrmem, hrid, husername, haddress⟩, -⟩ := hknows
    -- The registration, and before it the creation of its program.
    obtain ⟨registered, b₁, b₂, rfl, hregisters, hunknown, hknown, p₀, hp₀, hp₀id⟩ :=
      registered_of_run hr hempty hrmem
    obtain ⟨hbefore, hregistered, hafter⟩ := hr.around
    obtain ⟨created, hcreated, founding, hfounds, hunfounded, hfounded, honChain₀, hrepo₀⟩ :=
      founded_of_run hbefore hempty hp₀
    obtain ⟨p', hp', hkeys⟩ :=
      (hregistered.answered.grows.trans (grows_since hafter)).programs p₀ hp₀
    obtain rfl := paid.pre.world.db.program_eq_of_id hp' hp
      (hkeys.id.trans (hp₀id.trans (hrid.trans hpid.symm)))
    -- The price, before it was read.
    obtain ⟨attested, loaded, -, q, horder, -, hloads, hreward, -⟩ := hquoted
    obtain ⟨l₁, l₂, hl, hloaded, -⟩ := hr.split
      (horder.subset (List.mem_cons_of_mem _ List.mem_cons_self))
    obtain ⟨priced, hpriced, hsets, hoffers⟩ :=
      offered_of_run hloaded hempty ⟨q, hloads.program, hreward⟩
    rw [hp₀id, hrid] at hunfounded hfounded
    rw [hrid, husername] at hunknown hknown hregisters
    refine ⟨Deed.of created, Deed.of registered, Deed.of priced, Deed.of paid, founding,
      ⟨t.program, merge.githubUsername, r.stellarAddress.val⟩, amount, req, merge,
      deeds_sublist (l := [_, _]) ?_, deeds_sublist (l := [_]) ?_, ?_⟩
    · exact deeds_sublist (l := [_]) (List.singleton_sublist.2 (List.mem_map_of_mem hcreated))
    · rw [hl]
      exact List.singleton_sublist.2 (List.mem_map_of_mem (List.mem_append_left _ hpriced))
    · exact
        { founds := hfounds
          unfounded := by rw [hprogram]; exact hunfounded
          founded := by rw [hprogram]; exact hfounded
          registers := hregisters
          program := hprogram.symm
          author := rfl
          unknown := by rw [hprogram]; exact hunknown
          known := by
            rw [hprogram, Deed.of, hknown]
            exact Option.some_ne_none r
          prices := ⟨_, rfl, by rw [hprogram]; exact hsets⟩
          offered := by rw [hprogram]; exact hoffers
          delivers := hcall
          signed := hsigned
          merges := hmerge
          repo := by rw [← hrepo, hkeys.repo, hrepo₀]
          unpaid := unpaid_of_new hs.answered.grows habsent hpresent
          recorded := hpresent
          entry := by
            rw [hentry, Deal.entry, hprogram, haddress, ← honChain₀, ← hkeys.onChain, honChain] }

/-! ### Runs of the site -/

section Site

variable {X : Extractors} {apiConfig : ApiConfig} {exchanges : ι → Exchange}

/-- The exchange is a webhook, or an admin request with a key whose route and body make the call. -/
inductive Exchange.Carries (X : Extractors) (apiConfig : ApiConfig) : Exchange → Call → Prop
  | webhook (req : Request) : Carries X apiConfig (.webhook req) (.webhook req)
  | admin {req : HttpRequest} {route : AdminRoute} {a : AdminCall}
      (hkey : HasKey apiConfig req.toRequest) (hroute : adminRoute req = some route)
      (hcall : route.call X req.toRequest = .ok a) : Carries X apiConfig (.admin req) (.admin a)

theorem Exchange.carries_of_call {x : Exchange} {call : Call}
    (hcall : x.call? X apiConfig = some call) : x.Carries X apiConfig call := by
  cases x with
  | webhook req =>
    cases hcall
    exact .webhook req
  | admin req =>
    rw [call?] at hcall
    obtain ⟨⟨-, hkey⟩, hcall⟩ := Option.ite_none_right_eq_some.1 hcall
    obtain ⟨route, hroute, hadmin⟩ := Option.bind_eq_some_iff.1 hcall
    obtain ⟨a, ha, rfl⟩ := Option.map_eq_some_iff.1 hadmin
    cases hok : route.call X req.toRequest with
    | error response =>
      rw [hok] at ha
      cases ha
    | ok a' =>
      rw [hok] at ha
      cases ha
      exact .admin hkey hroute hok

omit [DecidableEq ι] in
/-- The site and the services do the same. -/
theorem deeds_eq {h' : List (Entry (Service ι) (Event ι Op Op.Ans))}
    (hsame : List.Forall₂ SameStep h h') : deeds h' = deeds h := by
  induction hsame with
  | nil => rfl
  | cons he _ ih =>
    rw [deeds, deeds, List.map_cons, List.map_cons, Deed.of, Deed.of, he.label, he.pre, he.post]
    exact congrArg _ ih

omit [DecidableEq ι] in
theorem Custody.mono {came came' : ι → Call → Prop} {created registered priced paid : Deed ι}
    {founding : CreateProgramRequest} {registration : RegisterContributorRequest} {reward : Int64}
    {req : Request} {merge : MergeAttestation}
    (hcustody : Custody C config came row created registered priced paid founding registration
      reward req merge)
    (hcame : ∀ deed ∈ [created, registered, priced, paid], ∀ call,
      came deed.thread call → came' deed.thread call) :
    Custody C config came' row created registered priced paid founding registration reward req
      merge :=
  { hcustody with
    founds := hcame _ (by simp) _ hcustody.founds
    registers := hcame _ (by simp) _ hcustody.registers
    prices := by
      obtain ⟨call, hcall, hsets⟩ := hcustody.prices
      exact ⟨call, hcame _ (by simp) _ hcall, hsets⟩
    delivers := hcame _ (by simp) _ hcustody.delivers }

/-- **The site accounts for its payouts**: when it began with an empty database, four requests
answer for every payout. Two with an admin key created its program and registered its author, in
this order and before it was recorded, and one set its reward; the fourth is the signed webhook that
recorded it, when the pull request had no payout. The row is what the merge and the bodies of these
requests say. -/
theorem payout_accounted_for
    (hrun : Run (Site.FaultyStep X C config apiConfig exchanges)
      (Site.start X C config apiConfig exchanges w) h s)
    (hempty : w.db = .empty server) (hrow : row ∈ s.world.db.payouts) :
    ∃ created registered priced paid founding registration reward req merge,
      [created, registered, paid].Sublist (deeds h) ∧ [priced, paid].Sublist (deeds h) ∧
        Custody C config (fun i call => (exchanges i).Carries X apiConfig call) row created
          registered priced paid founding registration reward req merge := by
  obtain ⟨h', s', hrun', hsame, hsim⟩ := simulated_of_run hrun
  rw [← hsim.world] at hrow
  obtain ⟨created, registered, priced, paid, founding, registration, reward, req, merge, hfirst,
    hsecond, hcustody⟩ := custody_of_run hrun' hempty hrow
  rw [deeds_eq hsame] at hfirst hsecond
  refine ⟨created, registered, priced, paid, founding, registration, reward, req, merge, hfirst,
    hsecond, hcustody.mono ?_⟩
  have hmem : ∀ deed ∈ [created, registered, priced, paid], deed ∈ deeds h := by
    have hfirst := hfirst.subset
    have hsecond := hsecond.subset
    simp only [List.subset_def, List.forall_mem_cons] at hfirst hsecond ⊢
    exact ⟨hfirst.1, hfirst.2.1, hsecond.1, hsecond.2⟩
  rintro deed hdeed call rfl
  obtain ⟨e, he, rfl⟩ := List.mem_map.1 (hmem deed hdeed)
  obtain ⟨_, _, -, hbefore, hs⟩ := hrun.split he
  obtain ⟨call, hcall, -⟩ := writes_of_site hbefore hs
  exact Exchange.carries_of_call (hcall.trans (congrArg some (Site.calls_of_call hcall).symm))

end Site

namespace Setup

/-- What the bodies of the requests are parsed to. -/
def bodies : Extractors :=
  { extractors with
    createProgramRequest := fun _ => .ok ⟨1, "StellarRoute/WaveFlow", account, 100, none⟩
    registerContributorRequest := fun _ => .ok ⟨program.1, "alice", account⟩ }

/-- An admin request to the route. -/
def adminPost (path : String) : HttpRequest := { pause "key-a" with path }

/-- A program is created, its author is registered, and the merge is delivered. -/
def history : Fin 3 → Exchange
  | 0 => .admin (adminPost "/api/v1/admin/programs")
  | 1 => .admin (adminPost "/api/v1/admin/contributors")
  | 2 => .webhook (deliver signature none)

def bareWorld : World := ⟨.empty Setup.server, [], fun _ => 0⟩

def historyRun : List (Entry (Service (Fin 3)) (Event (Fin 3) Op Op.Ans)) × Service (Fin 3) :=
  Pool.play (fun i => (history i).protocol bodies crates Setup.config keyConfig)
    (Op.exec crates.uuids) (Site.start bodies crates Setup.config keyConfig history bareWorld)
    ((List.finRange 3).flatMap fun i => List.replicate 14 i)

theorem run_historyRun :
    Run (Site.FaultyStep bodies crates Setup.config keyConfig history)
      (Site.start bodies crates Setup.config keyConfig history bareWorld) historyRun.1
      historyRun.2 :=
  (Pool.run_play _ _ (fun _ _ => rfl) _ _).mono fun _ _ _ hs => hs.mono fun _ _ _ _ => .done

end Setup

theorem payout_accounted_for_setup :
    ∃ row ∈ Setup.historyRun.2.world.db.payouts,
      ∃ created registered priced paid founding registration reward req merge,
        [created, registered, paid].Sublist (deeds Setup.historyRun.1) ∧
        [priced, paid].Sublist (deeds Setup.historyRun.1) ∧
        Custody Setup.crates Setup.config
          (fun i call => (Setup.history i).Carries Setup.bodies Setup.keyConfig call) row created
          registered priced paid founding registration reward req merge := by
  have hpaid : Setup.historyRun.2.world.db.payouts.rows.length = 1 := by decide +kernel
  obtain ⟨row, hrows⟩ := List.length_eq_one_iff.1 hpaid
  have hrow : row ∈ Setup.historyRun.2.world.db.payouts := by
    rw [← Relational.Table.mem_rows, hrows]
    exact List.mem_singleton_self row
  exact ⟨row, hrow, payout_accounted_for Setup.run_historyRun rfl hrow⟩

end WaveFlow
