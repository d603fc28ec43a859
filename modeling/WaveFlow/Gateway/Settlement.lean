import WaveFlow.Api.Provenance
import WaveFlow.Gateway.OneClaim
import WaveFlow.Gateway.Redelivery

/-!
# What a batch of deliveries comes to

Any number of deliveries is handled side by side, while no maintainer changes anything and the
database is there. When all handlers have ended, the payouts are those of before and those that the
deliveries earn by the registry (`deliveries_settle`): no merge is lost or made up, and the order of
the steps does not show. A delivery earns nothing when its body is over the limit or its id has no
room in the index, as the gateway turns it away.

The registry does not change during such a run (`Db.SameRegistry`), so what a handler has looked up
is what it would have looked up at the start (`Trades`). A delivery can come any number of times
under its id: one handler reserves the id, and the others leave the work to it (`admitted_of_run`).
-/

namespace WaveFlow

open Interaction Postgres Transition Relational

variable {ι : Type} [DecidableEq ι] {C : Crates} {config : AppConfig} {reqs : ι → Request}
  {w w' : World} {s s' : Service ι} {h : List (Entry (Service ι) (Event ι Op Op.Ans))}
  {source : UuidSource} {db db' : Db} {merge : MergeAttestation} {req : Request}

/-! ### What a delivery earns -/

/-- A payout without its row id. -/
structure PayoutEntry where
  programId : Uuid
  prNumber : Int64
  githubUsername : String
  stellarAddress : String
  points : Int32
  amount : Int64
  txHash : Option String
  deriving DecidableEq

def Postgres.PayoutRow.entry (row : PayoutRow) : PayoutEntry where
  programId := row.programId
  prNumber := row.prNumber
  githubUsername := row.githubUsername.val
  stellarAddress := row.stellarAddress.val
  points := row.points
  amount := row.amount
  txHash := row.txHash.map Text.val

/-- The entries of the payouts. -/
def Postgres.Db.Booked (db : Db) (entry : PayoutEntry) : Prop :=
  ∃ row ∈ db.payouts, row.entry = entry

/-- What the registry has for a merge. -/
structure Deal where
  target : Target
  address : String
  reward : Int64

def Postgres.ProgramRow.target (p : ProgramRow) : Target := ⟨p.id, p.onChainProgramId⟩

def Postgres.Db.deal? (db : Db) (merge : MergeAttestation) : Option Deal :=
  (db.activeProgram? merge.githubRepo).bind fun p =>
    (db.contributor? p.id merge.githubUsername).map fun r =>
      ⟨p.target, r.stellarAddress.val, p.rewardPerPoint⟩

def Deal.entry (config : AppConfig) (merge : MergeAttestation) (deal : Deal) : PayoutEntry where
  programId := deal.target.program
  prNumber := saturate merge.prNumber
  githubUsername := merge.githubUsername
  stellarAddress := deal.address
  points := pointsColumn merge.points
  amount := deal.reward
  txHash := some (attestationHash config (buildAttestation deal.target.onChain.toUInt64 merge))

@[simp] theorem Deal.entry_programId (merge : MergeAttestation) (deal : Deal) :
    (deal.entry config merge).programId = deal.target.program := rfl

@[simp] theorem Deal.entry_prNumber (merge : MergeAttestation) (deal : Deal) :
    (deal.entry config merge).prNumber = saturate merge.prNumber := by rw [Deal.entry]

/-- The payout that a request earns; one that does not get in earns none. -/
def Postgres.Db.earned? (C : Crates) (config : AppConfig) (db : Db) (req : Request) :
    Option PayoutEntry :=
  if req.Signed C config ∧ req.Admissible db.server then
    (req.merge? C).bind fun merge =>
      if merge.prNumber.toNat < 2 ^ 63 then (db.deal? merge).map (·.entry config merge) else none
  else none

theorem earned?_eq_some {entry : PayoutEntry} :
    db.earned? C config req = some entry ↔ (req.Signed C config ∧ req.Admissible db.server) ∧
      ∃ merge deal, req.merge? C = some merge ∧ merge.prNumber.toNat < 2 ^ 63 ∧
        db.deal? merge = some deal ∧ deal.entry config merge = entry := by
  unfold Db.earned?
  by_cases hsigned : req.Signed C config ∧ req.Admissible db.server
  · rw [if_pos hsigned, and_iff_right hsigned, Option.bind_eq_some_iff]
    constructor
    · rintro ⟨merge, hmerge, hdeal⟩
      split_ifs at hdeal with hpr
      obtain ⟨deal, hsome, hentry⟩ := Option.map_eq_some_iff.1 hdeal
      exact ⟨merge, deal, hmerge, hpr, hsome, hentry⟩
    · rintro ⟨merge, deal, hmerge, hpr, hsome, hentry⟩
      refine ⟨merge, hmerge, ?_⟩
      rw [if_pos hpr, hsome, Option.map_some, hentry]
  · rw [if_neg hsigned]
    constructor
    · intro hnone
      cases hnone
    · rintro ⟨hsigned', -⟩
      exact absurd hsigned' hsigned

theorem deal?_eq_some {deal : Deal} :
    db.deal? merge = some deal ↔ ∃ p r, db.activeProgram? merge.githubRepo = some p ∧
      db.contributor? p.id merge.githubUsername = some r ∧
        deal = ⟨p.target, r.stellarAddress.val, p.rewardPerPoint⟩ := by
  simp only [Db.deal?, Option.bind_eq_some_iff, Option.map_eq_some_iff]
  constructor
  · rintro ⟨p, hp, r, hr, rfl⟩
    exact ⟨p, r, hp, hr, rfl⟩
  · rintro ⟨p, r, hp, hr, rfl⟩
    exact ⟨p, hp, r, hr, rfl⟩

/-! ### The registry -/

/-- The rows differ at most in their balances. -/
structure Postgres.ProgramRow.SameDeal (p q : ProgramRow) : Prop extends p.SameKeys q where
  status : p.status = q.status
  reward : p.rewardPerPoint = q.rewardPerPoint

theorem Postgres.ProgramRow.SameDeal.trans {p q r : ProgramRow} (hpq : p.SameDeal q)
    (hqr : q.SameDeal r) : p.SameDeal r :=
  ⟨hpq.toSameKeys.trans hqr.toSameKeys, hpq.status.trans hqr.status, hpq.reward.trans hqr.reward⟩

/-- The databases have the same programs on the same terms, and the same registrations. -/
structure Postgres.Db.SameRegistry (db db' : Db) : Prop where
  kept : ∀ p ∈ db.programs, ∃ q ∈ db'.programs, q.SameDeal p
  old : ∀ q ∈ db'.programs, ∃ p ∈ db.programs, q.SameDeal p
  contributors : db'.contributors = db.contributors

namespace Postgres.Db.SameRegistry

theorem of_programs (hprograms : db'.programs = db.programs)
    (hcontributors : db'.contributors = db.contributors) : db.SameRegistry db' where
  kept p hp := ⟨p, by rwa [hprograms], ⟨.refl p, rfl, rfl⟩⟩
  old q hq := ⟨q, by rwa [← hprograms], ⟨.refl q, rfl, rfl⟩⟩
  contributors := hcontributors

theorem trans {a b c : Db} (hab : a.SameRegistry b) (hbc : b.SameRegistry c) :
    a.SameRegistry c where
  kept p hp := by
    obtain ⟨q, hq, hqp⟩ := hab.kept p hp
    obtain ⟨r, hr, hrq⟩ := hbc.kept q hq
    exact ⟨r, hr, hrq.trans hqp⟩
  old r hr := by
    obtain ⟨q, hq, hrq⟩ := hbc.old r hr
    obtain ⟨p, hp, hqp⟩ := hab.old q hq
    exact ⟨p, hp, hrq.trans hqp⟩
  contributors := hbc.contributors.trans hab.contributors

theorem setBalances (db : Db) (id : Uuid) (spent escrow : Int64) :
    db.SameRegistry (db.setBalances id spent escrow) := by
  have hdeal : ∀ p, (ProgramRow.ifId id (.withBalances spent escrow) p).SameDeal p := by
    intro p
    unfold ProgramRow.ifId
    split_ifs
    · exact ⟨ProgramRow.sameKeys_withBalances _ _ p, rfl, rfl⟩
    · exact ⟨.refl p, rfl, rfl⟩
  refine ⟨fun p hp => ⟨_, List.mem_map_of_mem hp, hdeal p⟩, fun q hq => ?_, rfl⟩
  obtain ⟨p, hp, rfl⟩ := List.mem_map.1 hq
  exact ⟨p, hp, hdeal p⟩

/-- An active program is found with the same key and price. -/
theorem activeProgram? (hsame : db.SameRegistry db') (repo : String) :
    (db'.activeProgram? repo).map (fun p => (p.target, p.rewardPerPoint)) =
      (db.activeProgram? repo).map fun p => (p.target, p.rewardPerPoint) := by
  cases hp : db.activeProgram? repo with
  | some p =>
    obtain ⟨hmem, hrepo, hactive⟩ := db.activeProgram?_eq_some.1 hp
    obtain ⟨q, hq, hdeal⟩ := hsame.kept p hmem
    have hfound : db'.activeProgram? repo = some q :=
      db'.activeProgram?_eq_some.2 ⟨hq, by rw [hdeal.repo, hrepo], hdeal.status.trans hactive⟩
    rw [hfound, Option.map_some, Option.map_some, ProgramRow.target, ProgramRow.target, hdeal.id,
      hdeal.onChain, hdeal.reward]
  | none =>
    cases hq : db'.activeProgram? repo with
    | none => rfl
    | some q =>
      obtain ⟨hmem, hrepo, hactive⟩ := db'.activeProgram?_eq_some.1 hq
      obtain ⟨p, hp', hdeal⟩ := hsame.old q hmem
      have hfound : db.activeProgram? repo = some p :=
        db.activeProgram?_eq_some.2 ⟨hp', by rw [← hdeal.repo, hrepo],
          hdeal.status.symm.trans hactive⟩
      rw [hp] at hfound
      cases hfound

/-- So is a program by its id. -/
theorem program? (hsame : db.SameRegistry db') {id : Uuid} {p : ProgramRow}
    (hp : db.program? id = some p) : ∃ q, db'.program? id = some q ∧ q.SameDeal p := by
  obtain ⟨hmem, rfl⟩ := db.program?_eq_some.1 hp
  obtain ⟨q, hq, hdeal⟩ := hsame.kept p hmem
  exact ⟨q, db'.program?_eq_some.2 ⟨hq, hdeal.id⟩, hdeal⟩

end Postgres.Db.SameRegistry

theorem Postgres.Stmt.KeepsTerms.sameRegistry {q : Stmt} (hq : q.KeepsTerms) {r : q.Result}
    (h : q.exec source db = .ok (r, db')) : db.SameRegistry db' := by
  cases Stmt.writes h with
  | kept => exact .of_programs rfl rfl
  | program | contributor | status | reward => exact absurd hq id
  | payout hadds | event hadds => exact .of_programs hadds.programs hadds.contributors
  | raised escrow => exact .setBalances _ _ _ escrow

/-! ### What a handler has looked up -/

/-- What the phase of a handler tells about the registry. -/
def Trades (db : Db) (merge : MergeAttestation) : Phase → Prop
  | .outside | .rejected | .begun | .duplicate | .unseen => False
  | .claimed => True
  | .missed | .failed => db.deal? merge = none
  | .resolved t | .opened t | .unpaid t | .paid t =>
      ∃ p, db.activeProgram? merge.githubRepo = some p ∧ p.target = t
  | .registered t address | .attested t address =>
      ∃ reward, db.deal? merge = some ⟨t, address, reward⟩
  | .priced t address reward => db.deal? merge = some ⟨t, address, reward⟩
  | .recorded t _ | .booked t => ∃ address reward, db.deal? merge = some ⟨t, address, reward⟩

variable {m : Phase} {t : Target} {op : Op}

theorem deal?_of_inactive (h : db.activeProgram? merge.githubRepo = none) :
    db.deal? merge = none := by
  rw [Db.deal?, h, Option.bind_none]

theorem deal?_of_unregistered {p : ProgramRow} (hp : db.activeProgram? merge.githubRepo = some p)
    (h : db.contributor? p.id merge.githubUsername = none) : db.deal? merge = none := by
  rw [Db.deal?, hp, Option.bind_some, h, Option.map_none]

/-- The lookup of the active program, during a run. -/
theorem trades_program {ans : Except DbError (Option (Uuid × Int64))}
    (hsame : db.SameRegistry w.db)
    (hexec : (Op.sql (.selectActiveProgram merge.githubRepo)).Exact source w ans w') :
    Trades db merge (Phase.next .claimed (.sql (.selectActiveProgram merge.githubRepo)) ans) := by
  have hfound := hsame.activeProgram? merge.githubRepo
  cases ans with
  | error e =>
    -- No program has a repo that cannot be stored.
    apply deal?_of_inactive
    by_contra hsome
    obtain ⟨p, hp⟩ := Option.ne_none_iff_exists'.1 hsome
    obtain ⟨-, hrepo, -⟩ := db.activeProgram?_eq_some.1 hp
    obtain ⟨herror, -⟩ := hexec.sql_error
    simp only [Stmt.exec, ← hrepo, Text.ofParam_val, bind, Except.bind] at herror
    cases herror
  | ok found =>
    obtain ⟨db', hok, -⟩ := hexec.sql_ok
    simp only [Stmt.exec, bind_eq_ok] at hok
    obtain ⟨_, -, hok⟩ := hok
    obtain rfl := congrArg Prod.fst (Except.ok.inj hok)
    cases hq : w.db.activeProgram? merge.githubRepo with
    | none =>
      rw [hq, Option.map_none] at hfound
      exact deal?_of_inactive (Option.map_eq_none_iff.1 hfound.symm)
    | some q =>
      rw [hq, Option.map_some] at hfound
      obtain ⟨p, hp, hsame⟩ := Option.map_eq_some_iff.1 hfound.symm
      exact ⟨p, hp, (Prod.mk.inj hsame).1⟩

/-- The lookup of the author, during a run. -/
theorem trades_contributor {ans : Except DbError (Option String)} (hsame : db.SameRegistry w.db)
    (htrades : Trades db merge (.unpaid t))
    (hexec : (Op.sql (.selectContributorAddress t.program merge.githubUsername)).Exact source w ans
      w') :
    Trades db merge (Phase.next (.unpaid t)
      (.sql (.selectContributorAddress t.program merge.githubUsername)) ans) := by
  obtain ⟨p, hp, rfl⟩ := htrades
  have hcontributor : w.db.contributor? p.id merge.githubUsername =
      db.contributor? p.id merge.githubUsername := by
    rw [Db.contributor?, hsame.contributors, Db.contributor?]
  cases ans with
  | error e =>
    apply deal?_of_unregistered hp
    by_contra hsome
    obtain ⟨r, hr⟩ := Option.ne_none_iff_exists'.1 hsome
    obtain ⟨-, -, husername⟩ := db.contributor?_eq_some.1 hr
    obtain ⟨herror, -⟩ := hexec.sql_error
    simp only [Stmt.exec, ← husername, Text.ofParam_val, bind, Except.bind] at herror
    cases herror
  | ok found =>
    obtain ⟨db', hok, -⟩ := hexec.sql_ok
    simp only [Stmt.exec, bind_eq_ok] at hok
    obtain ⟨_, -, hok⟩ := hok
    have hfound := congrArg Prod.fst (Except.ok.inj hok)
    rw [show p.target.program = p.id from rfl, hcontributor] at hfound
    cases hr : db.contributor? p.id merge.githubUsername with
    | none =>
      rw [hr] at hfound
      subst hfound
      exact deal?_of_unregistered hp hr
    | some r =>
      rw [hr] at hfound
      subst hfound
      exact ⟨p.rewardPerPoint, deal?_eq_some.2 ⟨p, r, hp, hr, rfl⟩⟩

/-- The lookup of the price, during a run. -/
theorem trades_reward {address : String} {ans : Except DbError (Option Int64)}
    (hsame : db.SameRegistry w.db) (htrades : Trades db merge (.attested t address))
    (hexec : (Op.sql (.selectRewardPerPoint t.program)).Exact source w ans w') :
    Trades db merge
      (Phase.next (.attested t address) (.sql (.selectRewardPerPoint t.program)) ans) := by
  obtain ⟨reward, hdeal⟩ := htrades
  obtain ⟨p, r, hp, hr, hdeal'⟩ := deal?_eq_some.1 hdeal
  obtain ⟨rfl, rfl, rfl⟩ := Deal.mk.inj hdeal'
  obtain ⟨hmem, -⟩ := db.activeProgram?_eq_some.1 hp
  obtain ⟨q, hq, hsameDeal⟩ := hsame.program? (db.program?_eq_some.2 ⟨hmem, rfl⟩)
  have hok : (Stmt.selectRewardPerPoint p.target.program).exec source w.db =
      .ok (some p.rewardPerPoint, w.db) := by
    rw [← hsameDeal.reward, show p.target.program = p.id from rfl]
    simp only [Stmt.exec, hq, Option.map_some]
  obtain ⟨rfl, -⟩ := hexec.answer hok
  exact hdeal

/-- The status of a program that was found active. -/
theorem trades_status {ans : Except DbError (Option ProgramStatus)}
    (hsame : db.SameRegistry w.db) (htrades : Trades db merge (.resolved t))
    (hexec : (Op.sql (.selectProgramStatus t.program)).Exact source w ans w') :
    Trades db merge (Phase.next (.resolved t) (.sql (.selectProgramStatus t.program)) ans) := by
  obtain ⟨p, hp, rfl⟩ := htrades
  obtain ⟨hmem, -, hactive⟩ := db.activeProgram?_eq_some.1 hp
  obtain ⟨q, hq, hsameDeal⟩ := hsame.program? (db.program?_eq_some.2 ⟨hmem, rfl⟩)
  have hok : (Stmt.selectProgramStatus p.target.program).exec source w.db =
      .ok (some .active, w.db) := by
    rw [← hactive, ← hsameDeal.status, show p.target.program = p.id from rfl]
    simp only [Stmt.exec, hq, Option.map_some]
  obtain ⟨rfl, -⟩ := hexec.answer hok
  exact ⟨p, hp, rfl⟩

/-- A payout of a handler that has read the price is refused only when there is one. -/
theorem unique_of_record {pr : Int64} {address txHash : String} {reward : Int64} {e : DbError}
    (hpoints : merge.points = 1) (hknows : Knows merge (.priced t address reward) w.db)
    (htxHash : Storable txHash)
    (hexec : (Op.sql (.insertPayout t.program pr merge.githubUsername address
      (pointsColumn merge.points) reward txHash)).Exact source w (.error e) w') :
    ∃ name, e = .unique name := by
  obtain ⟨⟨q, hq, hid, -⟩, ⟨r, -, -, husername, haddress⟩, hreward⟩ := hknows
  obtain ⟨herror, -⟩ := hexec.sql_error
  have hpositive : 0 < pointsColumn merge.points := by
    rw [hpoints]
    decide
  simp only [Stmt.exec, Db.insertPayout, ← husername, ← haddress, Text.ofParam_val,
    Text.ofParam_of_storable htxHash, bind, Except.bind, hreward, hpositive, dite_true] at herror
  split at herror
  · cases herror
    exact ⟨_, rfl⟩
  · split_ifs at herror with hfk
    exact absurd ⟨q, hq, hid⟩ hfk

/-- **A handler trades by the registry**: each of its steps, while the registry stays as it is. -/
theorem Trades.next {ans : op.Ans} (hmerge : req.merge? C = some merge)
    (hallowed : Allows C config req m op) (hexec : op.Exact source w ans w')
    (hsame : db.SameRegistry w.db) (hknows : Knows merge m w.db) (htrades : Trades db merge m) :
    Trades db merge (m.next op ans) := by
  have hother : ∀ {other}, req.merge? C = some other → other = merge := fun hother =>
    Option.some.inj (hother.symm.trans hmerge)
  cases hallowed with
  | count c =>
    rw [Phase.next_count]
    exact htrades
  | reject | lookUp | claim => exact absurd htrades id
  | audit hm =>
    rw [Phase.next_audit hm]
    exact htrades
  | program h =>
    obtain rfl := hother h
    exact trades_program hsame hexec
  | status t => exact trades_status hsame htrades hexec
  | payout h t =>
    rcases ans with e | _ | id
    · obtain ⟨herror, -⟩ := hexec.sql_error
      cases herror
    · exact htrades
    · exact htrades
  | payoutAgain h t => exact htrades
  | contributor h t =>
    obtain rfl := hother h
    exact trades_contributor hsame htrades hexec
  | attest h t address => exact htrades
  | reward t address => exact trades_reward hsame htrades hexec
  | record h t address reward =>
    obtain rfl := hother h
    cases ans with
    | ok id => exact ⟨address, reward, htrades⟩
    | error e =>
      obtain ⟨name, rfl⟩ := unique_of_record (points_of_merge? hmerge) hknows
        (storable_attestationHash config _) hexec
      obtain ⟨p, r, hp, -, hdeal⟩ := deal?_eq_some.1 htrades
      exact ⟨p, hp, (Deal.mk.inj hdeal).1.symm⟩
  | spend t reward =>
    obtain ⟨address, reward', hdeal⟩ := htrades
    cases ans with
    | ok n => exact ⟨address, reward', hdeal⟩
    | error e => exact ⟨address, reward', hdeal⟩

/-! ### Delivery ids -/

/-- Every delivery id is new, and stands for one request, which may come any number of times. -/
structure FreshIds (db : Db) (reqs : ι → Request) : Prop where
  new : ∀ i d, (reqs i).deliveryId = some d → db.webhookEvent? d = none
  same : ∀ i j d, (reqs i).deliveryId = some d → (reqs j).deliveryId = some d → reqs i = reqs j

/-- Thread `i` has reserved its delivery id, if it has one. -/
def Admitted (reqs : ι → Request) (h : List (Entry (Service ι) (Event ι Op Op.Ans))) (i : ι) :
    Prop :=
  ∀ d, (reqs i).deliveryId = some d → PastClaim h i d

/-- A delivery id is seen after a statement that records it. -/
theorem unseen_of_exec {q : Stmt} {r : q.Result} {d : String}
    (h : q.exec source db = .ok (r, db'))
    (hq : ∀ eventType repo number payload status error,
      q ≠ .insertWebhookEvent (some d) eventType repo number payload status error)
    (hnone : db.webhookEvent? d = none) : db'.webhookEvent? d = none := by
  by_cases haudits : q.Audits
  · cases q with
    | selectWebhookEventId =>
      simp only [Stmt.exec, bind_eq_ok] at h
      obtain ⟨_, -, h⟩ := h
      cases h
      exact hnone
    | insertWebhookEvent =>
      simp only [Stmt.exec, bind_eq_ok] at h
      obtain ⟨db₁, hinsert, hok⟩ := h
      cases hok
      obtain ⟨row, hadds, hdelivery, -⟩ := Db.insertWebhookEvent_ok hinsert
      by_contra hseen
      obtain ⟨r, hr, hd⟩ := Db.webhookEvent?_ne_none _ |>.1 hseen
      rcases hadds.mem_webhookEvents.1 hr with hr | rfl
      · exact (Db.webhookEvent?_ne_none _).2 ⟨r, hr, hd⟩ hnone
      · rw [hdelivery] at hd
        subst hd
        exact hq _ _ _ _ _ _ rfl
    | _ => exact absurd haudits id
  · rw [Db.webhookEvent?, Stmt.webhookEvents_kept haudits h]
    exact hnone

/-- A handler records audit rows of its own delivery only. -/
theorem Allows.delivery {delivery error : Option String} {eventType repo : String}
    {number : Option Int64} {payload : Json} {status : EventStatus}
    (h : Allows C config req m
      (.sql (.insertWebhookEvent delivery eventType repo number payload status error))) :
    delivery = req.deliveryId := by
  cases h with
  | reject => rfl
  | claim hdelivery => exact hdelivery.symm
  | audit => rfl

/-- It does so when it turns a request away, when it reserves the id, and at the end. -/
theorem Allows.records {delivery error : Option String} {eventType repo : String}
    {number : Option Int64} {payload : Json} {status : EventStatus}
    (h : Allows C config req m
      (.sql (.insertWebhookEvent delivery eventType repo number payload status error))) :
    m = .rejected ∨ (m.Claimed ∧ status ≠ .processing) ∨
      m = .unseen ∧ Stmt.insertWebhookEvent delivery eventType repo number payload status error =
        .insertWebhookEvent delivery req.eventType "pending" none (.obj []) .processing none := by
  cases h with
  | reject => exact .inl rfl
  | claim => exact .inr (.inr ⟨rfl, rfl⟩)
  | audit hm _ _ _ _ hstatus => exact .inr (.inl ⟨hm, hstatus⟩)

/-- A handler has seen its delivery id, if there is room for it, when it gives way or goes on. -/
theorem Allows.seen {d : String} {ans : op.Ans} (h : Allows C config req m op)
    (hexec : op.Exact source w ans w') (hdelivery : req.deliveryId = some d)
    (hroom : w.db.server.Fits (.text d))
    (hseen : m.Claimed ∨ m = .duplicate → w.db.webhookEvent? d ≠ none)
    (hnext : (m.next op ans).Claimed ∨ m.next op ans = .duplicate) :
    w'.db.webhookEvent? d ≠ none := by
  by_cases hm : m.Claimed ∨ m = .duplicate
  · exact hexec.grows.seen (hseen hm)
  · rcases hnext with hclaimed | hduplicate
    · cases h with
      | count c =>
        rw [Phase.next_count] at hclaimed
        exact absurd (.inl hclaimed) hm
      | reject => exact absurd hclaimed id
      | lookUp =>
        rcases ans with e | _ | _
        · exact absurd hclaimed id
        · exact absurd hclaimed id
        · exact absurd hclaimed id
      | audit hm' => exact absurd (.inl hm') hm
      | claim hd =>
        obtain rfl := Option.some.inj (hd.symm.trans hdelivery)
        cases ans with
        | ok u =>
          obtain ⟨db', hok, rfl⟩ := hexec.sql_ok
          simp only [Stmt.exec, bind_eq_ok] at hok
          obtain ⟨db₁, hinsert, hok⟩ := hok
          cases hok
          obtain ⟨row, hadds, hrow, -⟩ := Db.insertWebhookEvent_ok hinsert
          exact (Db.webhookEvent?_ne_none _).2 ⟨row, hadds.mem_webhookEvents.2 (.inr rfl), hrow⟩
        | error e =>
          -- The id could be reserved, had nobody reserved it.
          obtain ⟨herror, rfl⟩ := hexec.sql_error
          by_contra hnone
          obtain ⟨db', hinsert⟩ := Db.insertWebhookEvent_succeeds source w'.db (some _)
            req.eventType "pending" none (.obj []) .processing none req.storable_eventType
            (by decide) (Server.fits_pending _) rfl (by simp) fun d hsome => by
              cases hsome
              exact ⟨Request.storable_header hdelivery, hroom, hnone⟩
          simp only [Stmt.exec, hinsert] at herror
          cases herror
      | _ => exact absurd (.inl trivial) hm
    · obtain ⟨d', rfl, hfound, rfl⟩ := h.lookUp_of_duplicate hduplicate (.done hexec)
      cases h with
      | lookUp hd =>
        obtain rfl := Option.some.inj (hd.symm.trans hdelivery)
        exact hfound

/-- A handler that was not turned away is not turned away later. -/
theorem Allows.not_turnedAway {ans : op.Ans} (h : Allows C config req m op)
    (hm : ¬ m.TurnedAway) : ¬ (m.next op ans).TurnedAway := by
  by_cases hclaimed : m.Claimed
  · exact fun hturned => hturned.not_claimed (hclaimed.next op ans)
  · cases h with
    | count c =>
      rw [Phase.next_count]
      exact hm
    | reject => exact absurd (.inr rfl) hm
    | lookUp => rcases ans with e | _ | id <;> simp [Phase.next]
    | claim => rcases ans with e | u <;> simp [Phase.next]
    | audit h => exact absurd h hclaimed
    | _ => exact absurd trivial hclaimed

/-! ### How a handler ends -/

/-- The handler has found or recorded the payout. -/
def Phase.HasPaid : Phase → Prop
  | .paid _ | .recorded _ _ | .booked _ => True
  | _ => False

/-- A handler whose merge has a deal ends with its payout. -/
theorem Ends.hasPaid {r : Response} {deal : Deal} (hends : Ends C req m r)
    (hmerge : req.merge? C = some merge) (hpr : merge.prNumber.toNat < 2 ^ 63)
    (hdeal : db.deal? merge = some deal) (htrades : Trades db merge m) : m.HasPaid := by
  have hstops : ∀ {err}, MergeEnds C req m (.error err) → m.HasPaid := by
    intro err hmergeEnds
    cases hmergeEnds with
    | ignored h =>
      rw [hmerge] at h
      cases h
    | stopped h =>
      rcases h with rfl | rfl
      · exact absurd (hdeal.symm.trans htrades) (by simp)
      · exact absurd (hdeal.symm.trans htrades) (by simp)
    | overflow h t address reward hlarge =>
      obtain rfl := Option.some.inj (h.symm.trans hmerge)
      omega
    | alreadyPaid | overdrawn | unaudited => exact trivial
  cases hends with
  | oversized | rejected | duplicate => exact absurd htrades id
  | unclaimed => exact absurd (hdeal.symm.trans htrades) (by simp)
  | malformed h | unsupported h =>
    rw [hmerge] at h
    cases h
  | merged h => cases h <;> exact trivial
  | skipped h => exact hstops h
  | unmerged h => exact hstops h

/-- A handler that ends without being turned away has given way or gone on. -/
theorem Ends.claimed_or_duplicate {r : Response} (hends : Ends C req m r)
    (hm : ¬ m.TurnedAway) : m.Claimed ∨ m = .duplicate := by
  cases hends with
  | oversized => exact absurd (.inl rfl) hm
  | rejected => exact absurd (.inr rfl) hm
  | duplicate => exact .inr rfl
  | unclaimed | malformed | unsupported => exact .inl trivial
  | merged h | skipped h | unmerged h => exact .inl h.claimed

/-- Such a payout is one of the program that the registry names. -/
theorem Trades.paid {p : ProgramRow} (hp : db.activeProgram? merge.githubRepo = some p)
    (htrades : Trades db merge m) (hpaid : m.HasPaid) (hknows : Knows merge m db') :
    Paid db' p.target (saturate merge.prNumber) := by
  have hdealt : ∀ {t address reward}, db.deal? merge = some ⟨t, address, reward⟩ →
      t = p.target := by
    intro t address reward hdeal
    obtain ⟨q, r, hq, -, hdeal⟩ := deal?_eq_some.1 hdeal
    obtain rfl := Option.some.inj (hp.symm.trans hq)
    exact (Deal.mk.inj hdeal).1
  cases m with
  | paid t =>
    obtain ⟨q, hq, rfl⟩ := htrades
    obtain rfl := Option.some.inj (hp.symm.trans hq)
    exact hknows.2
  | recorded t =>
    obtain ⟨address, reward, hdeal⟩ := htrades
    exact hdealt hdeal ▸ hknows.2
  | booked t =>
    obtain ⟨address, reward, hdeal⟩ := htrades
    exact hdealt hdeal ▸ hknows.2
  | _ => exact absurd hpaid id

/-- A payout that an operation brings about has what is written down. -/
theorem record_of_new {row : PayoutRow} {ans : op.Ans} (hexec : op.Faulty source w ans w')
    (habsent : row ∉ w.db.payouts) (hpresent : row ∈ w'.db.payouts) :
    ∃ id pr username address points amount txHash,
      op = .sql (.insertPayout id pr username address points amount txHash) ∧
        row.entry = ⟨id, pr, username, address, points, amount, some txHash⟩ := by
  rcases hexec.effect with hdb | ⟨q, r, rfl, hok⟩
  · rw [hdb] at hpresent
    exact absurd hpresent habsent
  · have hpays : q.Pays := by
      by_contra hno
      rw [Stmt.payouts_kept hno hok] at hpresent
      exact habsent hpresent
    cases q with
    | insertPayout id pr username address points amount txHash =>
      obtain ⟨row', hadds, -, hrow⟩ := Db.insertPayout_ok hok
      refine ⟨id, pr, username, address, points, amount, txHash, rfl, ?_⟩
      rcases hadds.mem_payouts.1 hpresent with hold | rfl
      · exact absurd hold habsent
      · obtain ⟨rfl, rfl, rfl, rfl, rfl, rfl, htxHash⟩ := hrow
        rw [PayoutRow.entry, htxHash]
    | _ => exact absurd hpays id

/-! ### Runs -/

section Run

variable {i : ι}

variable (reqs) in
/-- All requests are deliveries. -/
abbrev batch (i : ι) : Call := .webhook (reqs i)

variable
  (hrun : Run (Service.Step C config (batch reqs)) (Service.start C config (batch reqs) w) h s)

include hrun

theorem grows_of_run : w.db.Grows s.world.db := grows_since (faulty_of_run hrun)

theorem sameRegistry_of_run : w.db.SameRegistry s.world.db := by
  refine hrun.invariant (fun _ s => w.db.SameRegistry s.world.db) (.of_programs rfl rfl) ?_
  intro h s e s' hr hsame hs
  have hallowed : Allows C config (reqs e.thread) (s.phase e.thread) e.op := allowed_of_run hr hs
  have hfaulty : e.op.Faulty C.uuids s.world e.ans s'.world := .done hs.answered
  rcases hfaulty.effect with hdb | ⟨q, r, hop, hok⟩
  · rwa [hdb]
  · rw [hop] at hallowed
    exact hsame.trans (hallowed.keepsTerms.sameRegistry hok)

/-- There was room for a delivery id that was claimed. -/
theorem fits_of_pastClaim {d : String} (hpast : PastClaim h i d) : w.db.server.Fits (.text d) := by
  obtain ⟨⟨before, l, after⟩, he, eventType, rfl⟩ := hpast
  obtain ⟨_, _, -, hr, hs⟩ := hrun.split he
  have hexec : Op.Exact C.uuids (.sql (.insertWebhookEvent (some d) eventType "pending" none
    (.obj []) .processing none)) before.world (.ok ()) after.world := hs.answered
  obtain ⟨db', hok, -⟩ := hexec.sql_ok
  simp only [Stmt.exec, bind_eq_ok] at hok
  obtain ⟨db, hinsert, -⟩ := hok
  rw [← (grows_of_run hr).server]
  exact (Db.insertWebhookEvent_enters _ _ hinsert).2 d rfl

omit [DecidableEq ι] hrun in
/-- Nothing is reserved at the start. -/
theorem unclaimed_at_start {d : String} (hdelivery : (reqs i).deliveryId = some d) :
    ¬ ((startPhase C config (reqs i)).Claimed ∨ startPhase C config (reqs i) = .duplicate) := by
  rw [startPhase, hdelivery]
  split_ifs <;> simp_all [Phase.Claimed]

theorem seen_of_claimed {d : String} (hdelivery : (reqs i).deliveryId = some d)
    (hroom : w.db.server.Fits (.text d))
    (hphase : (s.phase i).Claimed ∨ s.phase i = .duplicate) : s.world.db.webhookEvent? d ≠ none := by
  refine hrun.invariant (fun _ s => (s.phase i).Claimed ∨ s.phase i = .duplicate →
    s.world.db.webhookEvent? d ≠ none) ?_ ?_ hphase
  · exact fun hphase => absurd hphase (unclaimed_at_start hdelivery)
  · intro h s e s' hr hseen hs hphase
    by_cases hi : i = e.thread
    · subst hi
      rw [hs.phase_self] at hphase
      rw [← (grows_of_run hr).server] at hroom
      exact Allows.seen (allowed_of_run hr hs) hs.answered hdelivery hroom hseen hphase
    · rw [hs.phase_other hi] at hphase
      exact hs.answered.grows.seen (hseen hphase)

theorem not_turnedAway_of_signed (hfits : (reqs i).BodyFits) (hsigned : (reqs i).Signed C config) :
    ¬ (s.phase i).TurnedAway := by
  have hcall : batch reqs i = .webhook (reqs i) := rfl
  refine webhook_of_run (K := fun _ req m _ _ => req.BodyFits → req.Signed C config →
    ¬ m.TurnedAway) (faulty_of_run hrun) ?_ ?_ ?_ hcall hfits hsigned
  · intro i req hfits hsigned
    rw [startPhase_signed hfits hsigned]
    split_ifs <;> simp
  · intro h s e s' req _ _ _ hallowed hbefore hfits hsigned
    exact hallowed.not_turnedAway (hbefore hfits hsigned)
  · intro i req h s e s' _ hbefore
    exact hbefore

/-- Who has seen a delivery id knows of a handler that has reserved it. -/
theorem claimed_of_seen (hfresh : FreshIds w.db reqs) (hfits : (reqs i).BodyFits)
    (hsigned : (reqs i).Signed C config) {d : String} (hdelivery : (reqs i).deliveryId = some d)
    (hseen : s.world.db.webhookEvent? d ≠ none) : ∃ j, reqs j = reqs i ∧ PastClaim h j d := by
  refine hrun.invariant (fun h s => s.world.db.webhookEvent? d ≠ none →
    ∃ j, reqs j = reqs i ∧ PastClaim h j d) ?_ ?_ hseen
  · intro hseen
    exact absurd (hfresh.new i d hdelivery) hseen
  · intro h s e s' hr hclaimed hs hseen
    by_cases hbefore : s.world.db.webhookEvent? d = none
    · obtain ⟨j, op, ans⟩ := e
      have hallowed : Allows C config (reqs j) (s.phase j) op := allowed_of_run hr hs
      have hexec : op.Exact C.uuids s.world ans s'.world := hs.answered
      rcases (Op.Faulty.done hexec).effect with hdb | ⟨q, r, rfl, hok⟩
      · rw [hdb] at hseen
        exact absurd hbefore hseen
      -- The step has recorded the delivery id.
      obtain ⟨eventType, repo, number, payload, status, error, rfl⟩ :
          ∃ eventType repo number payload status error,
            q = .insertWebhookEvent (some d) eventType repo number payload status error := by
        by_contra hno
        refine hseen (unseen_of_exec hok ?_ hbefore)
        rintro _ _ _ _ _ _ rfl
        exact hno ⟨_, _, _, _, _, _, rfl⟩
      have hsame := hfresh.same j i d hallowed.delivery.symm hdelivery
      rcases hallowed.records with hrejected | ⟨hm, -⟩ | ⟨-, hclaims⟩
      · rw [← hsame] at hfits hsigned
        exact absurd (.inr hrejected) (not_turnedAway_of_signed hr hfits hsigned)
      · simp only [Stmt.exec, bind_eq_ok] at hok
        obtain ⟨db, hinsert, -⟩ := hok
        have hroom := (Db.insertWebhookEvent_enters _ _ hinsert).2 d rfl
        rw [(grows_of_run hr).server] at hroom
        exact absurd hbefore (seen_of_claimed hr hallowed.delivery.symm hroom (.inl hm))
      · cases hclaims
        obtain ⟨rfl, -⟩ := hexec.answer hok
        exact ⟨j, hsame, _, List.mem_concat_self, _, rfl⟩
    · obtain ⟨j, hj, hpast⟩ := hclaimed hbefore
      exact ⟨j, hj, hpast.append⟩

/-- **A delivery is admitted once its handlers have ended**: one of them reserved its id. -/
theorem admitted_of_run (hfresh : FreshIds w.db reqs) (hsigned : (reqs i).Signed C config)
    (hadmissible : (reqs i).Admissible w.db.server) {r : Response} (hended : s.prog i = .ret r) : ∃ j, reqs j = reqs i ∧ Admitted reqs h j := by
  cases hdelivery : (reqs i).deliveryId with
  | none =>
    refine ⟨i, rfl, fun d hd => ?_⟩
    rw [hdelivery] at hd
    cases hd
  | some d =>
    have hends : Ends C (reqs i) (s.phase i) r :=
      (Pool.follow_of_run hrun (follow_start C config (batch reqs) w)).ended hended
    have hseen := seen_of_claimed hrun hdelivery (hadmissible.2 d hdelivery)
      (hends.claimed_or_duplicate (not_turnedAway_of_signed hrun hadmissible.1 hsigned))
    obtain ⟨j, hj, hpast⟩ := claimed_of_seen hrun hfresh hadmissible.1 hsigned hdelivery hseen
    refine ⟨j, hj, fun d' hd' => ?_⟩
    rw [hj, hdelivery] at hd'
    exact Option.some.inj hd' ▸ hpast

theorem trades_of_run (hfits : (reqs i).BodyFits) (hsigned : (reqs i).Signed C config)
    (hmerge : (reqs i).merge? C = some merge) (hadmitted : Admitted reqs h i) : Trades w.db merge (s.phase i) := by
  refine hrun.invariant (fun h s => Admitted reqs h i → Trades w.db merge (s.phase i)) ?_ ?_
    hadmitted
  · intro hadmitted
    show Trades w.db merge (startPhase C config (reqs i))
    cases hdelivery : (reqs i).deliveryId with
    | none =>
      rw [startPhase_signed hfits hsigned, if_pos hdelivery]
      exact trivial
    | some d =>
      obtain ⟨e, he, -⟩ := hadmitted d hdelivery
      cases he
  · intro h s e s' hr htrades hs hadmitted
    by_cases hi : i = e.thread
    · subst hi
      rw [hs.phase_self]
      have hallowed : Allows C config (reqs e.thread) (s.phase e.thread) e.op :=
        allowed_of_run hr hs
      by_cases hbefore : Admitted reqs h e.thread
      · have hcall : batch reqs e.thread = .webhook (reqs e.thread) := rfl
        exact (htrades hbefore).next hmerge hallowed hs.answered (sameRegistry_of_run hr)
          (knows_of_run (faulty_of_run hr) hcall hmerge)
      · -- The step is the claim.
        obtain ⟨d, hdelivery, hnew⟩ : ∃ d, (reqs e.thread).deliveryId = some d ∧
            ¬ PastClaim h e.thread d := by
          by_contra hno
          exact hbefore fun d hd => by_contra fun hnew => hno ⟨d, hd, hnew⟩
        obtain ⟨eventType, heq⟩ : Claims e.thread d e := by
          obtain ⟨e', he', hclaims⟩ := hadmitted d hdelivery
          rcases List.mem_append.1 he' with hold | hlast
          · exact absurd ⟨e', hold, hclaims⟩ hnew
          · obtain rfl := List.mem_singleton.1 hlast
            exact hclaims
        obtain ⟨j, op, ans⟩ := e
        cases heq
        rcases hallowed.records with hrejected | ⟨-, hstatus⟩ | ⟨hunseen, -⟩
        · exact absurd (.inr hrejected) (not_turnedAway_of_signed hr hfits hsigned)
        · exact absurd rfl hstatus
        · rw [hunseen]
          exact trivial
    · rw [hs.phase_other hi]
      refine htrades fun d hdelivery => ?_
      obtain ⟨e', he', hclaims⟩ := hadmitted d hdelivery
      rcases List.mem_append.1 he' with hold | hnew
      · exact ⟨e', hold, hclaims⟩
      · obtain rfl := List.mem_singleton.1 hnew
        obtain ⟨eventType, heq⟩ := hclaims
        exact absurd (congrArg Event.thread heq).symm hi

/-- **What is earned is paid**, when the handlers have ended. -/
theorem paid_of_earned (hfresh : FreshIds w.db reqs) (hended : ∀ i, ∃ r, s.prog i = .ret r)
    {entry : PayoutEntry} (hearned : w.db.earned? C config (reqs i) = some entry) :
    ∃ row ∈ s.world.db.payouts, row.programId = entry.programId ∧
      row.prNumber = entry.prNumber := by
  obtain ⟨⟨hsigned, hadmissible⟩, merge, deal, hmerge, hpr, hdeal, rfl⟩ :=
    earned?_eq_some.1 hearned
  obtain ⟨p, c, hp, -, hdeal'⟩ := deal?_eq_some.1 hdeal
  obtain ⟨r, hr⟩ := hended i
  obtain ⟨j, hj, hadmitted⟩ := admitted_of_run hrun hfresh hsigned hadmissible hr
  obtain ⟨r', hr'⟩ := hended j
  have hends : Ends C (reqs j) (s.phase j) r' :=
    (Pool.follow_of_run hrun (follow_start C config (batch reqs) w)).ended hr'
  have hcall : batch reqs j = .webhook (reqs j) := rfl
  rw [← hj] at hsigned hadmissible hmerge
  have htrades := trades_of_run hrun hadmissible.1 hsigned hmerge hadmitted
  have hknows := knows_of_run (faulty_of_run hrun) hcall hmerge
  obtain ⟨row, hrow, hprogram, hnumber⟩ :=
    htrades.paid hp (hends.hasPaid hmerge hpr hdeal htrades) hknows
  refine ⟨row, hrow, ?_, ?_⟩
  · rw [Deal.entry_programId, hdeal', hprogram]
  · rw [Deal.entry_prNumber, hnumber]

/-- **What is paid is earned**: a payout that was not there before. -/
theorem earned_of_paid {row : PayoutRow} (hrow : row ∈ s.world.db.payouts)
    (hnew : row ∉ w.db.payouts) :
    ∃ i, w.db.earned? C config (reqs i) = some row.entry := by
  obtain ⟨e, before, rest, -, hr, hs, habsent, hpresent⟩ :=
    hrun.came_about (fun s => row ∈ s.world.db.payouts) hnew hrow
  obtain ⟨id, pr, username, address, points, amount, txHash, hop, hentry⟩ :=
    record_of_new (.done hs.answered) habsent hpresent
  have hallowed : Allows C config (reqs e.label.thread) (e.pre.phase e.label.thread) e.label.op :=
    allowed_of_run hr hs
  rw [hop] at hallowed
  generalize hphase : e.pre.phase e.label.thread = m at hallowed
  cases hallowed with
  | @record merge hmerge t address _ hpr =>
    have hcall : batch reqs e.label.thread = .webhook (reqs e.label.thread) := rfl
    obtain ⟨hfits, hsigned⟩ := signed_of_run (faulty_of_run hr) hcall (by rw [hphase]; simp)
    have hadmitted : Admitted reqs before e.label.thread := fun d hdelivery =>
      pastClaim_of_run (faulty_of_run hr) hcall hdelivery (by rw [hphase]; exact trivial)
    have htrades := trades_of_run hr hfits hsigned hmerge hadmitted
    rw [hphase] at htrades
    have hadmissible : (reqs e.label.thread).Admissible w.db.server :=
      ⟨hfits, fun d hdelivery => fits_of_pastClaim hr (hadmitted d hdelivery)⟩
    refine ⟨e.label.thread, earned?_eq_some.2 ⟨⟨hsigned, hadmissible⟩, merge, ⟨t, address, amount⟩, hmerge, hpr,
      htrades, ?_⟩⟩
    rw [hentry, Deal.entry]

end Run

/-- Two deliveries of a pull request that name the same author earn the same payout. -/
theorem earned_eq {req' : Request} {entry entry' : PayoutEntry}
    (hearned : db.earned? C config req = some entry)
    (hearned' : db.earned? C config req' = some entry')
    (hprogram : entry.programId = entry'.programId) (hnumber : entry.prNumber = entry'.prNumber)
    (husername : entry.githubUsername = entry'.githubUsername) : entry = entry' := by
  obtain ⟨-, merge, deal, hmerge, hpr, hdeal, rfl⟩ := earned?_eq_some.1 hearned
  obtain ⟨-, merge', deal', hmerge', hpr', hdeal', rfl⟩ := earned?_eq_some.1 hearned'
  obtain ⟨p, r, hp, hr, rfl⟩ := deal?_eq_some.1 hdeal
  obtain ⟨p', r', hp', hr', rfl⟩ := deal?_eq_some.1 hdeal'
  have hid : p.id = p'.id := hprogram
  obtain rfl := db.program_eq_of_id (db.activeProgram?_eq_some.1 hp).1
    (db.activeProgram?_eq_some.1 hp').1 hid
  have hname : merge.githubUsername = merge'.githubUsername := husername
  rw [hname] at hr
  obtain rfl := Option.some.inj (hr.symm.trans hr')
  have hpr_eq : merge.prNumber = merge'.prNumber := by
    rw [Deal.entry_prNumber, Deal.entry_prNumber] at hnumber
    rw [← toUInt64_saturate.2 hpr, ← toUInt64_saturate.2 hpr', hnumber]
  have hpoints : merge.points = merge'.points := by
    rw [points_of_merge? hmerge, points_of_merge? hmerge']
  simp only [Deal.entry, hname, hpr_eq, hpoints, buildAttestation]

/-- The deliveries of a pull request name one author. -/
def OneAuthor (C : Crates) (config : AppConfig) (db : Db) (reqs : ι → Request) : Prop :=
  ∀ i j entry entry', db.earned? C config (reqs i) = some entry →
    db.earned? C config (reqs j) = some entry' → entry.programId = entry'.programId →
    entry.prNumber = entry'.prNumber → entry.githubUsername = entry'.githubUsername

/-- What is booked when all handlers have ended. -/
theorem booked_of_ended
    (hrun : Run (Service.Step C config (batch reqs)) (Service.start C config (batch reqs) w) h s)
    (hended : ∀ i, ∃ r, s.prog i = .ret r) (hfresh : FreshIds w.db reqs)
    (hauthor : OneAuthor C config w.db reqs) (entry : PayoutEntry) :
    s.world.db.Booked entry ↔ w.db.Booked entry ∨
      (∃ i, w.db.earned? C config (reqs i) = some entry) ∧
        w.db.payout? entry.programId entry.prNumber = none := by
  have hgrows : w.db.Grows s.world.db := grows_of_run hrun
  constructor
  · rintro ⟨row, hrow, rfl⟩
    by_cases hold : row ∈ w.db.payouts
    · exact .inl ⟨row, hold, rfl⟩
    · refine .inr ⟨earned_of_paid hrun hrow hold, ?_⟩
      by_contra hpaid
      obtain ⟨row', hrow', hprogram, hnumber⟩ := w.db.payout?_ne_none.1 hpaid
      have hsame := s.world.db.payout_eq_of_pr (hgrows.payouts row' hrow') hrow hprogram hnumber
      exact hold (hsame ▸ hrow')
  · rintro (⟨row, hrow, hentry⟩ | ⟨⟨i, hearned⟩, hunpaid⟩)
    · exact ⟨row, hgrows.payouts row hrow, hentry⟩
    · obtain ⟨row, hrow, hprogram, hnumber⟩ := paid_of_earned hrun hfresh hended hearned
      have hnew : row ∉ w.db.payouts := fun hold =>
        w.db.payout?_ne_none.2 ⟨row, hold, hprogram, hnumber⟩ hunpaid
      obtain ⟨j, hearned'⟩ := earned_of_paid hrun hrow hnew
      have husername := hauthor j i _ _ hearned' hearned hprogram hnumber
      exact ⟨row, hrow, earned_eq hearned' hearned hprogram hnumber husername⟩

/-- **A batch of deliveries settles**: when all handlers have ended, in whatever order their steps
came, the payouts are those of before and those that the deliveries earn by the registry, for pull
requests that had none. -/
theorem deliveries_settle
    (hrun : Run (Service.Step C config (batch reqs)) (Service.start C config (batch reqs) w) h s)
    (hended : ∀ i, ∃ r, s.prog i = .ret r) (hfresh : FreshIds w.db reqs)
    (hauthor : OneAuthor C config w.db reqs) :
    ∀ entry, s.world.db.Booked entry ↔ w.db.Booked entry ∨
      (∃ i, w.db.earned? C config (reqs i) = some entry) ∧
        w.db.payout? entry.programId entry.prNumber = none :=
  booked_of_ended hrun hended hfresh hauthor

namespace Setup

/-- A merge that is delivered twice, and a request with a bad signature. -/
def redelivered : Fin 3 → Request
  | 0 | 1 => deliver signature (some "72d3162e")
  | 2 => deliver "sha256=00" none

def settled :=
  Service.play crates Setup.config (batch redelivered) world
    ((List.range 16).flatMap fun _ => List.finRange 3)

theorem run_settled :
    Run (Service.Step crates Setup.config (batch redelivered))
      (Service.start crates Setup.config (batch redelivered) world) settled.1 settled.2 :=
  Service.run_play crates Setup.config (batch redelivered) world _

theorem ended_settled : ∀ i, ∃ r, settled.2.prog i = .ret r := by
  have hended : ∀ i, (settled.2.prog i).value?.isSome = true := by decide +kernel
  intro i
  obtain ⟨r, hr⟩ := Option.isSome_iff_exists.1 (hended i)
  exact ⟨r, Prog.value?_eq_some.1 hr⟩

theorem freshIds_redelivered : FreshIds world.db redelivered where
  new i d hd := by
    have hempty : world.db.webhookEvents.rows = [] := by decide +kernel
    by_contra hseen
    obtain ⟨row, hrow, -⟩ := (Db.webhookEvent?_ne_none _).1 hseen
    rw [← Table.mem_rows, hempty] at hrow
    cases hrow
  same i j d hi hj := by
    have hdelivery : ∀ i, (redelivered i).deliveryId = some d →
        redelivered i = deliver signature (some "72d3162e")
      | 0, _ | 1, _ => rfl
      | 2, h => by
        rw [show (redelivered 2).deliveryId = none by decide +kernel] at h
        cases h
    exact (hdelivery i hi).trans (hdelivery j hj).symm

theorem oneAuthor_redelivered : OneAuthor crates Setup.config world.db redelivered := by
  have hall : ∀ i, ((world.db.earned? crates Setup.config (redelivered i)).all
      fun entry => entry.githubUsername = "alice") = true := by decide +kernel
  intro i j entry entry' hi hj _ _
  have hi' := hall i
  have hj' := hall j
  rw [hi] at hi'
  rw [hj] at hj'
  exact (of_decide_eq_true hi').trans (of_decide_eq_true hj').symm

end Setup

theorem deliveries_settle_setup :
    ∃ entry, Setup.world.db.earned? Setup.crates Setup.config (Setup.redelivered 0) = some entry ∧
      Setup.settled.2.world.db.Booked entry := by
  have hearns : (Setup.world.db.earned? Setup.crates Setup.config (Setup.redelivered 0)).isSome =
      true := by decide +kernel
  obtain ⟨entry, hentry⟩ := Option.isSome_iff_exists.1 hearns
  have hunpaid : Setup.world.db.payout? entry.programId entry.prNumber = none := by
    by_contra hpaid
    obtain ⟨row, hrow, -⟩ := Setup.world.db.payout?_ne_none.1 hpaid
    rw [← Table.mem_rows, show Setup.world.db.payouts.rows = [] by decide +kernel] at hrow
    cases hrow
  exact ⟨entry, hentry, (deliveries_settle Setup.run_settled Setup.ended_settled
    Setup.freshIds_redelivered Setup.oneAuthor_redelivered entry).2 (.inr ⟨⟨0, hentry⟩, hunpaid⟩)⟩

example : Setup.settled.2.world.db.payouts.rows.length = 1 := by decide +kernel

end WaveFlow
