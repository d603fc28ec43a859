import WaveFlow.Postgres.Schema

/-!
# The statements of the gateway and the API

Every statement commits on its own or fails and changes nothing. It fails when a parameter is no
value of its column's type, when it violates a constraint, when an index has no room for a text, or
when a sum leaves the range of `BIGINT`; `unavailable` stands for every failure that is not the
statement's fault.

A row id is drawn with `Uuid::new_v4`. What the source does before the statement is done here by the
statement itself: the id is a new one among those of the table.
-/

namespace WaveFlow.Postgres

open Relational

/-- `sqlx::Error`, as far as the code looks into it. -/
inductive DbError
  | check (relation constraint : String)
  | unique (constraint : String)
  | foreignKey (relation constraint : String)
  | indexRowSize (size : ℕ) (index : String)
  | indexRowRequires (size : ℕ)
  | outOfRange
  | invalidText
  | invalidJson
  | unavailable (text : String)
  deriving DecidableEq

namespace DbError

/-- `db_err.constraint()` -/
def constraint? : DbError → Option String
  | .check _ name | .unique name | .foreignKey _ name | .indexRowSize _ name => some name
  | .indexRowRequires _ | .outOfRange | .invalidText | .invalidJson | .unavailable _ => none

/-- `e.to_string()` -/
def toText : DbError → String
  | .check relation name => "error returned from database: new row for relation \"" ++ relation ++
      "\" violates check constraint \"" ++ name ++ "\""
  | .unique name => "error returned from database: duplicate key value violates unique constraint \""
      ++ name ++ "\""
  | .foreignKey relation name => "error returned from database: insert or update on table \"" ++
      relation ++ "\" violates foreign key constraint \"" ++ name ++ "\""
  | .indexRowSize size name => "error returned from database: index row size " ++ size.repr ++
      " exceeds btree version 4 maximum 2704 for index \"" ++ name ++ "\""
  | .indexRowRequires size => "error returned from database: index row requires " ++ size.repr ++
      " bytes, maximum size is 8191"
  | .outOfRange => "error returned from database: bigint out of range"
  | .invalidText =>
      "error returned from database: invalid byte sequence for encoding \"UTF8\": 0x00"
  | .invalidJson => "error returned from database: unsupported Unicode escape sequence"
  | .unavailable text => text

end DbError

/-- `Uuid::new_v4`, as a draw that avoids the ids in use. -/
structure UuidSource where
  draw : List Uuid → Uuid
  fresh : ∀ ids, draw ids ∉ ids

/-! ### Parameters -/

/-- Bind a `TEXT` parameter. -/
def Text.ofParam (s : String) : Except DbError Text :=
  if h : Storable s then .ok ⟨s, h⟩ else .error .invalidText

@[simp] theorem Text.ofParam_val (t : Text) : Text.ofParam t.val = .ok t := by
  simp [Text.ofParam, t.storable]

theorem Text.ofParam_eq_ok {s : String} {t : Text} : Text.ofParam s = .ok t ↔ t.val = s := by
  constructor
  · intro h
    unfold Text.ofParam at h
    split_ifs at h
    cases h
    rfl
  · rintro rfl
    exact Text.ofParam_val t

/-- Bind a `TEXT` parameter that can be null. -/
def Text.ofParam? : Option String → Except DbError (Option Text)
  | none => .ok none
  | some s => (Text.ofParam s).map some

/-- Bind a `JSONB` parameter. -/
def Jsonb.ofParam (v : Json) : Except DbError Jsonb :=
  if h : v.storable then .ok ⟨v, h⟩ else .error .invalidJson

/-! ### Index rows -/

namespace Server

variable (server : Server)

/-- Why there is no index row with this key. A row that no page can hold is refused by its index,
one that is too large to be a row before that. -/
def refusal (index : String) (key : IndexKey) : DbError :=
  if 8191 < server.indexRowSize key then .indexRowRequires (server.indexRowSize key)
  else .indexRowSize (server.indexRowSize key) index

/-- Add a row to an index. -/
def enter (index : String) (key : IndexKey) : Except DbError Unit :=
  if server.Fits key then .ok () else .error (server.refusal index key)

/-- Add a row to an index that leaves out the null texts. -/
def enter? (index : String) : Option String → Except DbError Unit
  | none => .ok ()
  | some s => server.enter index (.text s)

end Server

/-! ### Rows with the same keys -/

namespace ProgramRow

/-- The rows agree in every indexed column. -/
structure SameKeys (p q : ProgramRow) : Prop where
  id : p.id = q.id
  onChain : p.onChainProgramId = q.onChainProgramId
  repo : p.githubRepo = q.githubRepo

theorem SameKeys.refl (p : ProgramRow) : p.SameKeys p := ⟨rfl, rfl, rfl⟩

theorem SameKeys.trans {p q r : ProgramRow} (hpq : p.SameKeys q) (hqr : q.SameKeys r) :
    p.SameKeys r :=
  ⟨hpq.id.trans hqr.id, hpq.onChain.trans hqr.onChain, hpq.repo.trans hqr.repo⟩

/-! What the updates set: -/

def withStatus (status : ProgramStatus) (p : ProgramRow) : ProgramRow := { p with status }

def withReward (rewardPerPoint : Int64) (h : 0 < rewardPerPoint) (p : ProgramRow) : ProgramRow :=
  { p with rewardPerPoint, reward_pos := h }

def withBalances (milestoneSpent escrowBalance : Int64) (p : ProgramRow) : ProgramRow :=
  { p with milestoneSpent, escrowBalance }

theorem sameKeys_withStatus (status : ProgramStatus) (p : ProgramRow) :
    (p.withStatus status).SameKeys p := ⟨rfl, rfl, rfl⟩

theorem sameKeys_withReward {reward : Int64} (h : 0 < reward) (p : ProgramRow) :
    (p.withReward reward h).SameKeys p := ⟨rfl, rfl, rfl⟩

theorem sameKeys_withBalances (spent escrow : Int64) (p : ProgramRow) :
    (p.withBalances spent escrow).SameKeys p := ⟨rfl, rfl, rfl⟩

/-- Change the row with this id. -/
def ifId (id : Uuid) (f : ProgramRow → ProgramRow) (p : ProgramRow) : ProgramRow :=
  if p.id = id then f p else p

theorem sameKeys_ifId {f : ProgramRow → ProgramRow} (id : Uuid) (hf : ∀ p, (f p).SameKeys p)
    (p : ProgramRow) : (ifId id f p).SameKeys p := by
  unfold ifId
  split_ifs
  · exact hf p
  · exact .refl p

theorem same_of_sameKeys {f : ProgramRow → ProgramRow} (hf : ∀ p, (f p).SameKeys p) :
    ∀ ix ∈ indexes, ∀ a b, ix.same (f a) (f b) = ix.same a b := by
  intro ix hix a b
  simp only [indexes, List.mem_cons, List.not_mem_nil, or_false] at hix
  rcases hix with rfl | rfl | rfl
  · simp [idIndex, Index.on, (hf _).id]
  · simp [onChainIndex, Index.on, (hf _).onChain]
  · simp [repoIndex, Index.on, (hf _).repo]

end ProgramRow

/-! ### Inserts -/

namespace Db

variable (source : UuidSource) (db : Db)

def insertProgram (onChainProgramId : Int64) (githubRepo maintainerAddress : String)
    (rewardPerPoint : Int64) (milestoneCap : Option Int64) : Except DbError (Uuid × Db) := do
  let githubRepo ← Text.ofParam githubRepo
  let maintainerAddress ← Text.ofParam maintainerAddress
  if hreward : 0 < rewardPerPoint then
    let id := source.draw (db.programs.rows.map ProgramRow.id)
    let row : ProgramRow :=
      { id, onChainProgramId, githubRepo, maintainerAddress, rewardPerPoint, escrowBalance := 0,
        milestoneCap, milestoneSpent := 0, status := .active, createdAt := db.creationTime,
        reward_pos := hreward }
    match h : db.programs.insert row with
    | .error name => .error (.unique name)
    | .ok programs =>
      if hfits : db.server.Fits (.text githubRepo.val) then
        have keep : ∀ {id}, (∃ p ∈ db.programs, p.id = id) → ∃ p ∈ programs, p.id = id := by
          rintro _ ⟨p, hp, rfl⟩
          exact ⟨p, Table.mem_of_insert h hp, rfl⟩
        .ok (id, { db with
          programs
          contributors_fkey := fun r hr => keep (db.contributors_fkey r hr)
          payouts_fkey := fun r hr => keep (db.payouts_fkey r hr)
          programs_fit := fun p hp => by
            rcases Table.mem_insert h hp with hp | rfl
            · exact db.programs_fit p hp
            · exact hfits })
      else .error (db.server.refusal ProgramRow.repoIndex.name (.text githubRepo.val))
  else .error (.check "programs" "programs_reward_per_point_check")

def insertContributor (programId : Uuid) (githubUsername stellarAddress : String) :
    Except DbError Db := do
  let githubUsername ← Text.ofParam githubUsername
  let stellarAddress ← Text.ofParam stellarAddress
  let registeredAt := db.server.now "contributors" db.contributors.rows.length
  let row : ContributorRow := { programId, githubUsername, stellarAddress, registeredAt }
  match h : db.contributors.insert row with
  | .error name => .error (.unique name)
  | .ok contributors => do
    db.server.enter ContributorRow.index.name (.idText programId githubUsername.val)
    -- A foreign key is checked at the end of the statement.
    if hfk : ∃ p ∈ db.programs.rows, p.id = programId then
      .ok { db with
        contributors
        contributors_fkey := fun r hr => by
          rcases Table.mem_insert h hr with hr | rfl
          · exact db.contributors_fkey r hr
          · exact hfk }
    else .error (.foreignKey "contributors" "contributors_program_id_fkey")

def insertPayout (programId : Uuid) (prNumber : Int64) (githubUsername stellarAddress : String)
    (points : Int32) (amount : Int64) (txHash : String) : Except DbError (Uuid × Db) := do
  let githubUsername ← Text.ofParam githubUsername
  let stellarAddress ← Text.ofParam stellarAddress
  let txHash ← Text.ofParam txHash
  if hamount : 0 < amount then
    if hpoints : 0 < points then
      let id := source.draw (db.payouts.rows.map PayoutRow.id)
      let createdAt := db.server.now "payouts" db.payouts.rows.length
      let row : PayoutRow :=
        { id, programId, prNumber, githubUsername, stellarAddress, points, amount,
          txHash := some txHash, createdAt, amount_pos := hamount, points_pos := hpoints }
      match h : db.payouts.insert row with
      | .error name => .error (.unique name)
      | .ok payouts =>
        if hfk : ∃ p ∈ db.programs.rows, p.id = programId then
          .ok (id, { db with
            payouts
            payouts_fkey := fun r hr => by
              rcases Table.mem_insert h hr with hr | rfl
              · exact db.payouts_fkey r hr
              · exact hfk })
        else .error (.foreignKey "payouts" "payouts_program_id_fkey")
    else .error (.check "payouts" "payouts_points_check")
  else .error (.check "payouts" "payouts_amount_check")

def insertWebhookEvent (deliveryId : Option String) (eventType githubRepo : String)
    (prNumber : Option Int64) (payload : Json) (status : EventStatus)
    (errorMessage : Option String) : Except DbError Db := do
  let deliveryId ← Text.ofParam? deliveryId
  let eventType ← Text.ofParam eventType
  let githubRepo ← Text.ofParam githubRepo
  let payload ← Jsonb.ofParam payload
  let errorMessage ← Text.ofParam? errorMessage
  -- The indexes take the row in the order of their creation.
  db.server.enter "idx_webhook_events_repo" (.text githubRepo.val)
  let id := source.draw (db.webhookEvents.rows.map WebhookEventRow.id)
  match db.webhookEvents.insert
      { id, deliveryId, eventType, githubRepo, prNumber, payload, status, errorMessage } with
  | .error name => .error (.unique name)
  | .ok webhookEvents => do
    db.server.enter? WebhookEventRow.deliveryIndex.name (deliveryId.map Text.val)
    .ok { db with webhookEvents }

/-! ### Updates -/

/-- Change the program with this id, but none of its keys. -/
def modifyProgram (id : Uuid) (f : ProgramRow → ProgramRow) (hf : ∀ p, (f p).SameKeys p) : Db :=
  have hg := ProgramRow.sameKeys_ifId id hf
  have keep : ∀ {id'}, (∃ p ∈ db.programs, p.id = id') →
      ∃ p ∈ db.programs.modify (ProgramRow.ifId id f) (ProgramRow.same_of_sameKeys hg),
        p.id = id' := by
    rintro _ ⟨p, hp, rfl⟩
    exact ⟨_, (Table.mem_modify _).2 ⟨p, hp, rfl⟩, (hg p).id⟩
  { db with
    programs := db.programs.modify (ProgramRow.ifId id f) (ProgramRow.same_of_sameKeys hg)
    contributors_fkey := fun r hr => keep (db.contributors_fkey r hr)
    payouts_fkey := fun r hr => keep (db.payouts_fkey r hr)
    programs_fit := fun p hp => by
      obtain ⟨q, hq, rfl⟩ := (Table.mem_modify _).1 hp
      rw [(hg q).repo]
      exact db.programs_fit q hq }

def setStatus (id : Uuid) (status : ProgramStatus) : Db :=
  db.modifyProgram id (.withStatus status) (ProgramRow.sameKeys_withStatus status)

def setReward (id : Uuid) (rewardPerPoint : Int64) (h : 0 < rewardPerPoint) : Db :=
  db.modifyProgram id (.withReward rewardPerPoint h) (ProgramRow.sameKeys_withReward h)

def setBalances (id : Uuid) (milestoneSpent escrowBalance : Int64) : Db :=
  db.modifyProgram id (.withBalances milestoneSpent escrowBalance)
    (ProgramRow.sameKeys_withBalances _ _)

def updateStatus (id : Uuid) (src dst : ProgramStatus) : ℕ × Db :=
  match db.program? id with
  | some p =>
    if p.status = src then (1, db.setStatus id dst) else (0, db)
  | none => (0, db)

def updateReward (id : Uuid) (rewardPerPoint : Int64) : Except DbError (ℕ × Db) :=
  match db.program? id with
  | some _ =>
    if hreward : 0 < rewardPerPoint then
      .ok (1, db.setReward id rewardPerPoint hreward)
    else .error (.check "programs" "programs_reward_per_point_check")
  | none => .ok (0, db)

def updateMilestoneSpent (amount : Int64) (id : Uuid) : Except DbError (ℕ × Db) :=
  match db.program? id with
  | some p =>
    match i64TryFrom (p.milestoneSpent.toInt + amount.toInt),
        i64TryFrom (p.escrowBalance.toInt - amount.toInt) with
    | some milestoneSpent, some rest => .ok (1, db.setBalances id milestoneSpent (max rest 0))
    | _, _ => .error .outOfRange
  | none => .ok (0, db)

end Db

/-! ### Statements -/

inductive Stmt
  /-- `SELECT id, on_chain_program_id FROM programs WHERE github_repo = $1 AND status = 'active'` -/
  | selectActiveProgram (githubRepo : String)
  /-- `SELECT stellar_address FROM contributors WHERE program_id = $1 AND github_username = $2` -/
  | selectContributorAddress (programId : Uuid) (githubUsername : String)
  /-- `SELECT id FROM payouts WHERE program_id = $1 AND pr_number = $2` -/
  | selectPayoutId (programId : Uuid) (prNumber : Int64)
  /-- `SELECT id FROM webhook_events WHERE delivery_id = $1 LIMIT 1` -/
  | selectWebhookEventId (deliveryId : String)
  /-- `SELECT status FROM programs WHERE id = $1` -/
  | selectProgramStatus (id : Uuid)
  /-- `SELECT reward_per_point FROM programs WHERE id = $1` -/
  | selectRewardPerPoint (id : Uuid)
  /-- `SELECT id FROM programs WHERE id = $1` -/
  | selectProgramId (id : Uuid)
  /-- `INSERT INTO programs ..` -/
  | insertProgram (onChainProgramId : Int64) (githubRepo maintainerAddress : String)
      (rewardPerPoint : Int64) (milestoneCap : Option Int64)
  /-- `INSERT INTO contributors ..` -/
  | insertContributor (programId : Uuid) (githubUsername stellarAddress : String)
  /-- `INSERT INTO payouts ..` -/
  | insertPayout (programId : Uuid) (prNumber : Int64) (githubUsername stellarAddress : String)
      (points : Int32) (amount : Int64) (txHash : String)
  /-- `INSERT INTO webhook_events ..` -/
  | insertWebhookEvent (deliveryId : Option String) (eventType githubRepo : String)
      (prNumber : Option Int64) (payload : Json) (status : EventStatus)
      (errorMessage : Option String)
  /-- `UPDATE programs SET status = $dst WHERE id = $1 AND status = $src` -/
  | updateStatus (id : Uuid) (src dst : ProgramStatus)
  /-- `UPDATE programs SET reward_per_point = $1 WHERE id = $2` -/
  | updateReward (rewardPerPoint : Int64) (id : Uuid)
  /-- `UPDATE programs SET milestone_spent = milestone_spent + $1, escrow_balance =
  GREATEST(escrow_balance - $1, 0) WHERE id = $2` -/
  | updateMilestoneSpent (amount : Int64) (id : Uuid)

namespace Stmt

/-- What a statement returns: a selected column, the id of a new row, or the rows it changed. -/
abbrev Result : Stmt → Type
  | .selectActiveProgram _ => Option (Uuid × Int64)
  | .selectContributorAddress _ _ => Option String
  | .selectPayoutId _ _ | .selectWebhookEventId _ | .selectProgramId _ => Option Uuid
  | .selectProgramStatus _ => Option ProgramStatus
  | .selectRewardPerPoint _ => Option Int64
  | .insertProgram _ _ _ _ _ | .insertPayout _ _ _ _ _ _ _ => Uuid
  | .insertContributor _ _ _ | .insertWebhookEvent _ _ _ _ _ _ _ => Unit
  | .updateStatus _ _ _ | .updateReward _ _ | .updateMilestoneSpent _ _ => ℕ

def exec (source : UuidSource) : (s : Stmt) → Db → Except DbError (s.Result × Db)
  | .selectActiveProgram repo, db => do
      let _ ← Text.ofParam repo
      .ok ((db.activeProgram? repo).map fun p => (p.id, p.onChainProgramId), db)
  | .selectContributorAddress id username, db => do
      let _ ← Text.ofParam username
      .ok ((db.contributor? id username).map fun r => r.stellarAddress.val, db)
  | .selectPayoutId id pr, db => .ok ((db.payout? id pr).map PayoutRow.id, db)
  | .selectWebhookEventId delivery, db => do
      let _ ← Text.ofParam delivery
      .ok ((db.webhookEvent? delivery).map WebhookEventRow.id, db)
  | .selectProgramStatus id, db => .ok ((db.program? id).map ProgramRow.status, db)
  | .selectRewardPerPoint id, db => .ok ((db.program? id).map ProgramRow.rewardPerPoint, db)
  | .selectProgramId id, db => .ok ((db.program? id).map ProgramRow.id, db)
  | .insertProgram onChain repo maintainer reward cap, db =>
      db.insertProgram source onChain repo maintainer reward cap
  | .insertContributor id username address, db => do
      .ok ((), ← db.insertContributor id username address)
  | .insertPayout id pr username address points amount txHash, db =>
      db.insertPayout source id pr username address points amount txHash
  | .insertWebhookEvent delivery eventType repo pr payload status error, db => do
      .ok ((), ← db.insertWebhookEvent source delivery eventType repo pr payload status error)
  | .updateStatus id src dst, db => .ok (db.updateStatus id src dst)
  | .updateReward reward id, db => db.updateReward id reward
  | .updateMilestoneSpent amount id, db => db.updateMilestoneSpent amount id

end Stmt

end WaveFlow.Postgres
