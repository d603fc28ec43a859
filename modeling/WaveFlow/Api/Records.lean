import WaveFlow.Postgres.Schema

/-!
# Records of the public routes

What `GET /api/v1/programs` and `GET /api/v1/programs/:id/payouts` show of a row. A signed column is
cast to the unsigned type of its field, which wraps.
-/

namespace WaveFlow

open Postgres

structure ProgramRecord where
  id : Uuid
  onChainProgramId : UInt64
  githubRepo : String
  maintainerAddress : String
  rewardPerPoint : ℤ
  escrowBalance : ℤ
  milestoneCap : Option ℤ
  milestoneSpent : ℤ
  status : ProgramStatus
  createdAt : Timestamp
  deriving DecidableEq

structure PayoutRecord where
  id : Uuid
  programId : Uuid
  prNumber : UInt64
  githubUsername : String
  stellarAddress : String
  points : UInt32
  amount : ℤ
  txHash : Option String
  createdAt : Timestamp
  deriving DecidableEq

def Postgres.ProgramRow.intoRecord (row : ProgramRow) : ProgramRecord where
  id := row.id
  onChainProgramId := row.onChainProgramId.toUInt64
  githubRepo := row.githubRepo.val
  maintainerAddress := row.maintainerAddress.val
  rewardPerPoint := row.rewardPerPoint.toInt
  escrowBalance := row.escrowBalance.toInt
  milestoneCap := row.milestoneCap.map Int64.toInt
  milestoneSpent := row.milestoneSpent.toInt
  status := row.status
  createdAt := row.createdAt

def Postgres.PayoutRow.intoRecord (row : PayoutRow) : PayoutRecord where
  id := row.id
  programId := row.programId
  prNumber := row.prNumber.toUInt64
  githubUsername := row.githubUsername.val
  stellarAddress := row.stellarAddress.val
  points := row.points.toUInt32
  amount := row.amount.toInt
  txHash := row.txHash.map Text.val
  createdAt := row.createdAt

end WaveFlow
