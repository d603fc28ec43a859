import WaveFlow.Escrow.Storage

/-!
# The escrow contract

`contract.rs`, function by function, and `invoke`, which runs any one of its state-changing
entry points. The read-only accessors `getProgram`, `getEscrowBalance`, `isProcessed` and `admin`
change nothing, so a run does not list them. `initialise` is the entry point `initialize`, which is
a keyword of Lean.
-/

namespace WaveFlow.Escrow

open Contract

variable {H : Host}

def minDeposit : ℤ := 1

def initialise (admin gateway token : Address) : Contract H Unit := do
  failWhen (← instanceGet .admin).isSome .alreadyInitialized
  requireAuth admin
  instanceSet .admin admin
  instanceSet .gateway gateway
  instanceSet .token token
  instanceSet .programCounter (0 : UInt64)

def createProgram (maintainer : Address) (githubRepo : Symbol) (rewardPerPoint : ℤ)
    (milestoneCap : Option ℤ) : Contract H UInt64 := do
  requireAuth maintainer
  failWhen (rewardPerPoint ≤ 0) .invalidRatio
  ofResult (validateRepo githubRepo)
  let programId ← nextProgramId
  let program : Program :=
    { maintainer, githubRepo, rewardPerPoint, escrowBalance := 0, milestoneCap,
      milestoneSpent := 0, status := .active }
  writeProgram programId program
  publish (.programCreated programId maintainer githubRepo rewardPerPoint)
  return programId

def fund (programId : UInt64) (src : Address) (amount : ℤ) : Contract H Unit := do
  requireAuth src
  failWhen (amount < minDeposit) .insufficientDeposit
  let program ← readProgram programId
  failWhen (program.maintainer ≠ src) .unauthorized
  let token ← readToken
  transfer token src (← currentContractAddress) amount
  let escrowBalance ← orFail (checkedAdd program.escrowBalance amount) .overflow
  writeProgram programId { program with escrowBalance }
  publish (.funded programId amount escrowBalance)

def registerContributor (programId : UInt64) (caller : Address) (githubUsername : Symbol)
    (stellarAddress : Address) : Contract H Unit := do
  requireAuth caller
  let program ← readProgram programId
  failWhen (program.maintainer ≠ caller) .unauthorized
  failWhen (← persistentGet (.contributor programId githubUsername)).isSome
    .contributorAlreadyRegistered
  writeContributor programId githubUsername { stellarAddress }
  publish (.contributorRegistered programId githubUsername stellarAddress)

/-- The milestone counter after a payout: it moves only under a cap, and never past it. -/
def spendMilestone (program : Program) (payout : ℤ) : Contract H ℤ :=
  match program.milestoneCap with
  | none => return program.milestoneSpent
  | some cap => do
    let newSpent ← orFail (checkedAdd program.milestoneSpent payout) .overflow
    failWhen (cap < newSpent) .milestoneCapExceeded
    return newSpent

def recordMerge (gateway : Address) (programId : UInt64) (githubUsername : Symbol)
    (prNumber : UInt64) (points : UInt32) : Contract H ℤ := do
  requireAuth gateway
  failWhen ((← readGateway) ≠ gateway) .unauthorized
  failWhen (points = 0) .invalidRatio
  failWhen (← isPrProcessed programId prNumber) .prAlreadyProcessed
  let program ← readProgram programId
  ofResult (requireActive program)
  let contributor ← readContributor programId githubUsername
  let payout ← orFail (checkedMul points.toNat program.rewardPerPoint) .overflow
  failWhen (program.escrowBalance < payout) .insufficientEscrow
  let milestoneSpent ← spendMilestone program payout
  let token ← readToken
  transfer token (← currentContractAddress) contributor.stellarAddress payout
  let escrowBalance ← orFail (checkedSub program.escrowBalance payout) .overflow
  writeProgram programId { program with milestoneSpent, escrowBalance }
  markPrProcessed programId prNumber
  publish (.mergeRecorded programId githubUsername prNumber points payout)
  return payout

/-- `pause` and `resume` differ in the status they set and in the event. -/
def setStatus (status : ProgramStatus) (event : Event) (programId : UInt64)
    (maintainer : Address) : Contract H Unit := do
  requireAuth maintainer
  let program ← readProgram programId
  failWhen (program.maintainer ≠ maintainer) .unauthorized
  writeProgram programId { program with status }
  publish event

def pause (programId : UInt64) (maintainer : Address) : Contract H Unit :=
  setStatus .paused (.programPaused programId) programId maintainer

def resume (programId : UInt64) (maintainer : Address) : Contract H Unit :=
  setStatus .active (.programResumed programId) programId maintainer

def setRatio (programId : UInt64) (maintainer : Address) (rewardPerPoint : ℤ) :
    Contract H Unit := do
  requireAuth maintainer
  failWhen (rewardPerPoint ≤ 0) .invalidRatio
  let program ← readProgram programId
  failWhen (program.maintainer ≠ maintainer) .unauthorized
  writeProgram programId { program with rewardPerPoint }

def withdrawRemaining (programId : UInt64) (maintainer : Address) : Contract H ℤ := do
  requireAuth maintainer
  let program ← readProgram programId
  failWhen (program.maintainer ≠ maintainer) .unauthorized
  failWhen (program.status ≠ .paused) .programNotPaused
  let amount := program.escrowBalance
  if amount ≤ 0 then
    return 0
  else
    let token ← readToken
    transfer token (← currentContractAddress) maintainer amount
    writeProgram programId { program with escrowBalance := 0 }
    return amount

/-! ### Calls -/

/-- A call of a state-changing entry point, with its arguments. -/
inductive Call
  | initialise (admin gateway token : Address)
  | createProgram (maintainer : Address) (githubRepo : Symbol) (rewardPerPoint : ℤ)
      (milestoneCap : Option ℤ)
  | fund (programId : UInt64) (src : Address) (amount : ℤ)
  | registerContributor (programId : UInt64) (caller : Address) (githubUsername : Symbol)
      (stellarAddress : Address)
  | recordMerge (gateway : Address) (programId : UInt64) (githubUsername : Symbol)
      (prNumber : UInt64) (points : UInt32)
  | pause (programId : UInt64) (maintainer : Address)
  | resume (programId : UInt64) (maintainer : Address)
  | setRatio (programId : UInt64) (maintainer : Address) (rewardPerPoint : ℤ)
  | withdrawRemaining (programId : UInt64) (maintainer : Address)
  deriving DecidableEq

/-- What a call returns. -/
inductive Value
  | unit
  | programId (p : UInt64)
  | amount (n : ℤ)
  deriving DecidableEq

/-- Run a call. -/
def invoke : Call → Contract H Value
  | .initialise admin gateway token => do
    initialise admin gateway token; return .unit
  | .createProgram maintainer repo reward cap => do
    return .programId (← createProgram maintainer repo reward cap)
  | .fund p src amount => do
    fund p src amount; return .unit
  | .registerContributor p caller user a => do
    registerContributor p caller user a; return .unit
  | .recordMerge gateway p user pr points => do
    return .amount (← recordMerge gateway p user pr points)
  | .pause p maintainer => do
    pause p maintainer; return .unit
  | .resume p maintainer => do
    resume p maintainer; return .unit
  | .setRatio p maintainer reward => do
    setRatio p maintainer reward; return .unit
  | .withdrawRemaining p maintainer => do
    return .amount (← withdrawRemaining p maintainer)

end WaveFlow.Escrow
