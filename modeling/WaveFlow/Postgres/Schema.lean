import Mathlib.Algebra.Order.Group.Nat
import Mathlib.Algebra.Ring.Int.Defs
import Mathlib.Tactic.SplitIfs
import WaveFlow.Library.Table
import WaveFlow.Shared.Types

/-!
# The database schema

The tables of migrations 001 and 002, with their columns, unique indexes, checks and foreign keys.
A check is a field of the row, a unique index one of its table, a foreign key a field of `Db`: so
every `Db` is a state that the migrations allow, and only such states can be built.

The row of an index has to fit its page, so a text column with an index has a longest text.
`received_at` of an audit row is left out; nothing reads it.
-/

namespace WaveFlow.Postgres

open Relational

/-! ### Column types -/

/-- `i64::try_from(n)` -/
def i64TryFrom (n : ℤ) : Option Int64 :=
  if -2 ^ 63 ≤ n ∧ n < 2 ^ 63 then some (Int64.ofInt n) else none

theorem i64TryFrom_eq_some {n : ℤ} {k : Int64} : i64TryFrom n = some k ↔ k.toInt = n := by
  unfold i64TryFrom
  split_ifs with h
  · rw [Option.some.injEq, ← Int64.toInt_inj, Int64.toInt_ofInt_of_le h.1 h.2, eq_comm]
  · constructor
    · intro hk
      cases hk
    · rintro rfl
      exact absurd ⟨k.le_toInt, k.toInt_lt⟩ h

theorem i64TryFrom_eq_none {n : ℤ} : i64TryFrom n = none ↔ n < -2 ^ 63 ∨ 2 ^ 63 ≤ n := by
  unfold i64TryFrom
  split_ifs with h
  · simp only [false_iff]
    omega
  · simp only [true_iff]
    omega

@[simp] theorem i64TryFrom_toInt (k : Int64) : i64TryFrom k.toInt = some k :=
  i64TryFrom_eq_some.2 rfl

/-- A value of a `TEXT` column. -/
structure Text where
  val : String
  storable : Storable val
  deriving DecidableEq

theorem Text.eq_of_val {s t : Text} (h : s.val = t.val) : s = t := by
  cases s
  cases t
  cases h
  rfl

/-- A value of a `JSONB` column. -/
structure Jsonb where
  val : Json
  storable : val.storable

/-! ### The server -/

/-- The key of an index on a text column: a text, or a program id with a text. -/
inductive IndexKey
  | text (s : String)
  | idText (id : Uuid) (s : String)

/-- The length of a key, before compression. -/
def IndexKey.bytes : IndexKey → ℕ
  | .text s => s.utf8ByteSize
  | .idText _ s => 16 + s.utf8ByteSize

/-- What the statements read of the server and do not change. -/
structure Server where
  /-- The size of an index row with this key. Long texts are compressed. -/
  indexRowSize : IndexKey → ℕ
  /-- A row header, a length word and padding come on top of the key. -/
  indexRowSize_le : ∀ key, indexRowSize key ≤ key.bytes + 19
  /-- `NOW()`, when this table has so many rows and gets another one. -/
  now : (table : String) → (rows : ℕ) → Timestamp

namespace Server

variable (server : Server)

/-- A page has room for the index row with this key. -/
def Fits (key : IndexKey) : Prop := server.indexRowSize key ≤ 2704

instance (key : IndexKey) : Decidable (server.Fits key) := inferInstanceAs (Decidable (_ ≤ _))

theorem fits_of_bytes {key : IndexKey} (h : key.bytes ≤ 2685) : server.Fits key := by
  have hle := server.indexRowSize_le key
  unfold Fits
  omega

/-- The index is named in the refusal of this key: its row fits no page, but is a row. -/
def NamedRefusal (key : IndexKey) : Prop :=
  2704 < server.indexRowSize key ∧ server.indexRowSize key ≤ 8191

instance (key : IndexKey) : Decidable (server.NamedRefusal key) :=
  inferInstanceAs (Decidable (_ ∧ _))

theorem NamedRefusal.not_fits {server : Server} {key : IndexKey} (h : server.NamedRefusal key) :
    ¬ server.Fits key := Nat.not_le.2 h.1

end Server

/-! ### Rows -/

structure ProgramRow where
  id : Uuid
  onChainProgramId : Int64
  githubRepo : Text
  maintainerAddress : Text
  rewardPerPoint : Int64
  escrowBalance : Int64
  milestoneCap : Option Int64
  milestoneSpent : Int64
  status : ProgramStatus
  createdAt : Timestamp
  reward_pos : 0 < rewardPerPoint

structure ContributorRow where
  programId : Uuid
  githubUsername : Text
  stellarAddress : Text
  registeredAt : Timestamp

structure PayoutRow where
  id : Uuid
  programId : Uuid
  prNumber : Int64
  githubUsername : Text
  stellarAddress : Text
  points : Int32
  amount : Int64
  txHash : Option Text
  createdAt : Timestamp
  amount_pos : 0 < amount
  points_pos : 0 < points

/-- The statuses of an audit row. -/
inductive EventStatus
  | processing
  | rejected
  | ignored
  | failed
  | processed
  deriving DecidableEq

structure WebhookEventRow where
  id : Uuid
  deliveryId : Option Text
  eventType : Text
  githubRepo : Text
  prNumber : Option Int64
  payload : Jsonb
  status : EventStatus
  errorMessage : Option Text

/-! ### Tables -/

namespace ProgramRow

def idIndex : Index ProgramRow := .on "programs_pkey" id
def onChainIndex : Index ProgramRow := .on "programs_on_chain_program_id_key" onChainProgramId
def repoIndex : Index ProgramRow := .on "programs_github_repo_key" githubRepo
def indexes : List (Index ProgramRow) := [idIndex, onChainIndex, repoIndex]

end ProgramRow

namespace ContributorRow

def index : Index ContributorRow := .on "contributors_pkey" fun r => (r.programId, r.githubUsername)
def indexes : List (Index ContributorRow) := [index]

end ContributorRow

namespace PayoutRow

def idIndex : Index PayoutRow := .on "payouts_pkey" id
def prIndex : Index PayoutRow :=
  .on "payouts_program_id_pr_number_key" fun r => (r.programId, r.prNumber)
def indexes : List (Index PayoutRow) := [idIndex, prIndex]

end PayoutRow

namespace WebhookEventRow

def idIndex : Index WebhookEventRow := .on "webhook_events_pkey" id
/-- The partial index of migration 002: rows without a delivery id are not in it. -/
def deliveryIndex : Index WebhookEventRow := .onSome "idx_webhook_events_delivery_id" deliveryId
def indexes : List (Index WebhookEventRow) := [idIndex, deliveryIndex]

end WebhookEventRow

structure Db where
  server : Server
  programs : Table ProgramRow.indexes
  contributors : Table ContributorRow.indexes
  payouts : Table PayoutRow.indexes
  webhookEvents : Table WebhookEventRow.indexes
  contributors_fkey : ∀ r ∈ contributors, ∃ p ∈ programs, p.id = r.programId
  payouts_fkey : ∀ r ∈ payouts, ∃ p ∈ programs, p.id = r.programId
  programs_fit : ∀ p ∈ programs, server.Fits (.text p.githubRepo.val)

namespace Db

variable (db : Db)

/-- The database right after the migrations. -/
def empty (server : Server) : Db := ⟨server, ∅, ∅, ∅, ∅, by simp, by simp, by simp⟩

/-- `created_at` of the next program. -/
def creationTime : Timestamp := db.server.now "programs" db.programs.rows.length

/-- `SELECT .. FROM programs WHERE id = $1` -/
def program? (id : Uuid) : Option ProgramRow := db.programs.find? fun p => p.id = id

/-- `SELECT .. FROM programs WHERE github_repo = $1 AND status = 'active'` -/
def activeProgram? (repo : String) : Option ProgramRow :=
  db.programs.find? fun p => p.githubRepo.val = repo ∧ p.status = .active

/-- `SELECT .. FROM contributors WHERE program_id = $1 AND github_username = $2` -/
def contributor? (id : Uuid) (username : String) : Option ContributorRow :=
  db.contributors.find? fun r => r.programId = id ∧ r.githubUsername.val = username

/-- `SELECT .. FROM payouts WHERE program_id = $1 AND pr_number = $2` -/
def payout? (id : Uuid) (pr : Int64) : Option PayoutRow :=
  db.payouts.find? fun r => r.programId = id ∧ r.prNumber = pr

/-- `SELECT .. FROM webhook_events WHERE delivery_id = $1 LIMIT 1` -/
def webhookEvent? (delivery : String) : Option WebhookEventRow :=
  db.webhookEvents.find? fun r => r.deliveryId.map Text.val = some delivery

theorem program?_eq_some {id : Uuid} {p : ProgramRow} :
    db.program? id = some p ↔ p ∈ db.programs ∧ p.id = id := by
  constructor
  · intro h
    simpa using db.programs.mem_of_find? h
  · rintro ⟨hp, rfl⟩
    refine db.programs.find?_eq_some_of_mem ProgramRow.idIndex (by simp [ProgramRow.indexes])
      ?_ hp (by simp)
    simp +contextual [ProgramRow.idIndex, Index.on]

theorem activeProgram?_eq_some {repo : String} {p : ProgramRow} :
    db.activeProgram? repo = some p ↔
      p ∈ db.programs ∧ p.githubRepo.val = repo ∧ p.status = .active := by
  constructor
  · intro h
    simpa using db.programs.mem_of_find? h
  · rintro ⟨hp, rfl, hactive⟩
    refine db.programs.find?_eq_some_of_mem ProgramRow.repoIndex
      (by simp [ProgramRow.indexes]) ?_ hp (by simp [hactive])
    intro a b ha hb
    simp only [Bool.decide_and, Bool.and_eq_true, decide_eq_true_eq] at ha hb
    have hrepo : a.githubRepo = b.githubRepo := Text.eq_of_val (ha.1.trans hb.1.symm)
    simp [ProgramRow.repoIndex, Index.on, hrepo]

theorem contributor?_eq_some {id : Uuid} {username : String} {r : ContributorRow} :
    db.contributor? id username = some r ↔
      r ∈ db.contributors ∧ r.programId = id ∧ r.githubUsername.val = username := by
  constructor
  · intro h
    simpa using db.contributors.mem_of_find? h
  · rintro ⟨hr, rfl, rfl⟩
    refine db.contributors.find?_eq_some_of_mem ContributorRow.index
      (by simp [ContributorRow.indexes]) ?_ hr (by simp)
    intro a b ha hb
    simp only [Bool.decide_and, Bool.and_eq_true, decide_eq_true_eq] at ha hb
    have husername : a.githubUsername = b.githubUsername := Text.eq_of_val (ha.2.trans hb.2.symm)
    simp [ContributorRow.index, Index.on, ha.1, hb.1, husername]

/-- A repo has one program, whatever its status. -/
theorem program_eq_of_repo {p q : ProgramRow} (hp : p ∈ db.programs) (hq : q ∈ db.programs)
    (h : p.githubRepo = q.githubRepo) : p = q :=
  db.programs.eq_of_same ProgramRow.repoIndex (by simp [ProgramRow.indexes]) hp hq
    (by simp [ProgramRow.repoIndex, Index.on, h])

/-- An id on chain belongs to one program. -/
theorem program_eq_of_onChain {p q : ProgramRow} (hp : p ∈ db.programs) (hq : q ∈ db.programs)
    (h : p.onChainProgramId = q.onChainProgramId) : p = q :=
  db.programs.eq_of_same ProgramRow.onChainIndex (by simp [ProgramRow.indexes]) hp hq
    (by simp [ProgramRow.onChainIndex, Index.on, h])

/-- A pull request has one payout for a program. -/
theorem payout_eq_of_pr {r r' : PayoutRow} (hr : r ∈ db.payouts) (hr' : r' ∈ db.payouts)
    (hprogram : r.programId = r'.programId) (hnumber : r.prNumber = r'.prNumber) : r = r' :=
  db.payouts.eq_of_same PayoutRow.prIndex (by simp [PayoutRow.indexes]) hr hr'
    (by simp [PayoutRow.prIndex, Index.on, hprogram, hnumber])

theorem payout?_ne_none {id : Uuid} {pr : Int64} :
    db.payout? id pr ≠ none ↔ ∃ r ∈ db.payouts, r.programId = id ∧ r.prNumber = pr := by
  simp [payout?, Table.find?_ne_none]

theorem webhookEvent?_ne_none {delivery : String} :
    db.webhookEvent? delivery ≠ none ↔
      ∃ r ∈ db.webhookEvents, r.deliveryId.map Text.val = some delivery := by
  simp [webhookEvent?, Table.find?_ne_none]

end Db

end WaveFlow.Postgres
