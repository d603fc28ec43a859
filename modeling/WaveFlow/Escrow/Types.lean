import Mathlib.Data.BitVec
import Mathlib.Data.Finmap
import Mathlib.Data.Int.Basic

/-!
# Data of the escrow contract

The types of `types.rs`, `errors.rs` and `events.rs`, the storage keys of `storage.rs`, and the
machine integers the contract computes with.

* `u64` and `u32` are `UInt64` and `UInt32`; `i128` is `ℤ` with explicit range checks
  (`checkedAdd`, `checkedSub`, `checkedMul`).
* A `Symbol` is any string, as in the contract's tests.
* `DataKey.Val k` is the type of the value the contract stores under the key `k`.
-/

namespace WaveFlow.Escrow

/-! ### Machine integers -/

/-- `i128::MIN`. -/
def i128Min : ℤ := -2 ^ 127

/-- `i128::MAX`. -/
def i128Max : ℤ := 2 ^ 127 - 1

/-- A value an `i128` can hold. -/
def InI128 (n : ℤ) : Prop := i128Min ≤ n ∧ n ≤ i128Max

instance (n : ℤ) : Decidable (InI128 n) := inferInstanceAs (Decidable (_ ∧ _))

/-- An exact result, if an `i128` can hold it. -/
def checked (n : ℤ) : Option ℤ := if InI128 n then some n else none

def checkedAdd (a b : ℤ) : Option ℤ := checked (a + b)

def checkedSub (a b : ℤ) : Option ℤ := checked (a - b)

def checkedMul (a b : ℤ) : Option ℤ := checked (a * b)

@[simp] theorem checked_eq_some {n m : ℤ} : checked n = some m ↔ InI128 n ∧ n = m := by
  unfold checked; split_ifs with h <;> simp [h]

/-! ### Addresses, symbols and errors -/

/-- An account or a contract on the ledger. -/
inductive Address
  | account (key : BitVec 256)
  | contract (id : BitVec 256)
  deriving DecidableEq

abbrev Symbol := String

inductive ContractError
  | alreadyInitialized
  | notInitialized
  | unauthorized
  | invalidRepo
  | programNotFound
  | contributorNotFound
  | contributorAlreadyRegistered
  | insufficientEscrow
  | programPaused
  | prAlreadyProcessed
  | milestoneCapExceeded
  | insufficientDeposit
  | invalidRatio
  | overflow
  | programNotPaused
  deriving DecidableEq

/-- Why a call fails: the contract returns an error, or the host traps (a missing authorisation,
a failing token, an arithmetic overflow). Either way the host rolls the call back. -/
inductive Failure
  | error (e : ContractError)
  | trap
  deriving DecidableEq

/-! ### Stored records -/

inductive ProgramStatus
  | active
  | paused
  deriving DecidableEq

structure Program where
  maintainer : Address
  githubRepo : Symbol
  rewardPerPoint : ℤ
  escrowBalance : ℤ
  milestoneCap : Option ℤ
  milestoneSpent : ℤ
  status : ProgramStatus
  deriving DecidableEq

structure Contributor where
  stellarAddress : Address
  deriving DecidableEq

/-! ### Events -/

inductive Event
  | programCreated (programId : UInt64) (maintainer : Address) (githubRepo : Symbol)
      (rewardPerPoint : ℤ)
  | funded (programId : UInt64) (amount newBalance : ℤ)
  | contributorRegistered (programId : UInt64) (githubUsername : Symbol) (stellarAddress : Address)
  | mergeRecorded (programId : UInt64) (githubUsername : Symbol) (prNumber : UInt64)
      (points : UInt32) (payoutAmount : ℤ)
  | programPaused (programId : UInt64)
  | programResumed (programId : UInt64)
  deriving DecidableEq

/-! ### Storage keys -/

inductive DataKey
  | admin
  | gateway
  | token
  | programCounter
  | program (id : UInt64)
  | contributor (id : UInt64) (githubUsername : Symbol)
  | processedPr (id prNumber : UInt64)
  deriving DecidableEq

/-- The type of the value stored under a key. -/
abbrev DataKey.Val : DataKey → Type
  | .admin | .gateway | .token => Address
  | .programCounter => UInt64
  | .program _ => Program
  | .contributor _ _ => Contributor
  | .processedPr _ _ => Bool

/-- One of the contract's two storage areas. -/
abbrev Storage := Finmap DataKey.Val

end WaveFlow.Escrow
