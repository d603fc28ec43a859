import WaveFlow.Shared.Effects

/-!
# The admin routes of the API

The handlers of `admin.rs`, behind the check of the admin key. `Administers` lists the operations
they perform, with what they have validated by then.
-/

namespace WaveFlow

open Interaction Postgres

structure CreateProgramRequest where
  onChainProgramId : UInt64
  githubRepo : String
  maintainerAddress : String
  rewardPerPoint : Int64
  milestoneCap : Option Int64

structure UpdateRatioRequest where
  rewardPerPoint : Int64

structure RegisterContributorRequest where
  programId : Uuid
  githubUsername : String
  stellarAddress : String

def createProgram (body : CreateProgramRequest) : Fallible Response := do
  if !validateGithubRepo body.githubRepo then throw (.validation "invalid github_repo slug")
  else if body.rewardPerPoint ≤ 0 then throw (.validation "reward_per_point must be positive")
  else if !validateStellarAddress body.maintainerAddress then
    throw (.validation "invalid maintainer stellar address")
  else
    let id ← query (.insertProgram (saturate body.onChainProgramId) body.githubRepo
        body.maintainerAddress body.rewardPerPoint body.milestoneCap)
      (conflictOr ("program already exists for repo " ++ body.githubRepo))
    return ⟨201, .obj [("id", .str id.text)]⟩

/-- The text of a status. -/
def ProgramStatus.text : ProgramStatus → String
  | .active => "active"
  | .paused => "paused"

/-- Move a program from one status to the other. -/
def changeStatus (src dst : ProgramStatus) (id : Uuid) : Fallible Response := do
  if (← query (.updateStatus id src dst) databaseError) = 0 then
    throw (.notFound (src.text ++ " program " ++ id.text ++ " not found"))
  else return ⟨200, .obj [("id", .str id.text), ("status", .str dst.text)]⟩

def pauseProgram (id : Uuid) : Fallible Response := changeStatus .active .paused id

def resumeProgram (id : Uuid) : Fallible Response := changeStatus .paused .active id

def updateRatio (id : Uuid) (body : UpdateRatioRequest) : Fallible Response := do
  if body.rewardPerPoint ≤ 0 then throw (.validation "reward_per_point must be positive")
  else if (← query (.updateReward body.rewardPerPoint id) databaseError) = 0 then
    throw (.notFound ("program " ++ id.text ++ " not found"))
  else return ⟨200, .obj
    [("id", .str id.text), ("reward_per_point", .num (.posInt body.rewardPerPoint.toUInt64))]⟩

def registerContributor (body : RegisterContributorRequest) : Fallible Response := do
  if body.githubUsername.isEmpty || body.stellarAddress.isEmpty then
    throw (.validation "username and address required")
  else if !validateStellarAddress body.stellarAddress then
    throw (.validation "invalid stellar public key")
  else if (← query (.selectProgramId body.programId) databaseError).isNone then
    throw (.notFound ("program " ++ body.programId.text ++ " not found"))
  else
    query (.insertContributor body.programId body.githubUsername body.stellarAddress)
      (conflictOr "contributor already registered")
    return ⟨201, .obj
      [("program_id", .str body.programId.text), ("github_username", .str body.githubUsername)]⟩

/-! ### What the handlers do -/

/-- A request to one of the admin routes. -/
inductive AdminCall
  | createProgram (body : CreateProgramRequest)
  | pauseProgram (id : Uuid)
  | resumeProgram (id : Uuid)
  | updateRatio (id : Uuid) (body : UpdateRatioRequest)
  | registerContributor (body : RegisterContributorRequest)

def AdminCall.route : AdminCall → Fallible Response
  | .createProgram body => WaveFlow.createProgram body
  | .pauseProgram id => WaveFlow.pauseProgram id
  | .resumeProgram id => WaveFlow.resumeProgram id
  | .updateRatio id body => WaveFlow.updateRatio id body
  | .registerContributor body => WaveFlow.registerContributor body

/-- The handler of an admin route; an error becomes a response. -/
def AdminCall.handler (call : AdminCall) : Action Response := do
  match ← call.route.run with
  | .ok response => return response
  | .error err => return mapError err

/-- The operations of the admin routes. -/
inductive Administers : Op → Prop
  | createProgram (onChain : UInt64) {repo maintainer : String} {reward : Int64}
      (cap : Option Int64) (hrepo : validateGithubRepo repo) (hreward : 0 < reward)
      (hmaintainer : validateStellarAddress maintainer) :
      Administers (.sql (.insertProgram (saturate onChain) repo maintainer reward cap))
  | changeStatus (src dst : ProgramStatus) (id : Uuid) :
      Administers (.sql (.updateStatus id src dst))
  | updateRatio (id : Uuid) {reward : Int64} (hreward : 0 < reward) :
      Administers (.sql (.updateReward reward id))
  | lookUp (id : Uuid) : Administers (.sql (.selectProgramId id))
  | registerContributor (id : Uuid) (username : String) {address : String}
      (haddress : validateStellarAddress address) :
      Administers (.sql (.insertContributor id username address))

variable {M : Type} {m : M}

theorem uses_createProgram (body : CreateProgramRequest) :
    Follows (only Administers) m (createProgram body).run fun m' _ => m' = m := by
  unfold createProgram
  split_ifs with hrepo hreward hmaintainer
  · rfl
  · rfl
  · rfl
  · refine follows_except_bind (follows_query (.createProgram _ _ ?_ ?_ ?_) (fun _ => rfl)
      fun _ => rfl)
    · simpa using hrepo
    · exact Int64.not_le.1 hreward
    · simpa using hmaintainer

theorem uses_changeStatus (src dst : ProgramStatus) (id : Uuid) :
    Follows (only Administers) m (changeStatus src dst id).run fun m' _ => m' = m := by
  refine follows_except_bind (follows_query (.changeStatus src dst id) (fun n => ?_)
    fun _ => rfl)
  simp only
  split_ifs <;> rfl

theorem uses_updateRatio (id : Uuid) (body : UpdateRatioRequest) :
    Follows (only Administers) m (updateRatio id body).run fun m' _ => m' = m := by
  unfold updateRatio
  split_ifs with hreward
  · rfl
  · refine follows_except_bind (follows_query (.updateRatio id (Int64.not_le.1 hreward))
      (fun n => ?_) fun _ => rfl)
    simp only
    split_ifs <;> rfl

theorem uses_registerContributor (body : RegisterContributorRequest) :
    Follows (only Administers) m (registerContributor body).run fun m' _ => m' = m := by
  unfold registerContributor
  split_ifs with hempty haddress
  · rfl
  · rfl
  · refine follows_except_bind (follows_query (.lookUp _) (fun found => ?_) fun _ => rfl)
    simp only
    split_ifs
    · rfl
    · refine follows_except_bind (follows_query (.registerContributor _ _ ?_) (fun _ => rfl)
        fun _ => rfl)
      simpa using haddress

/-- An admin route performs no other operations. -/
theorem AdminCall.uses (call : AdminCall) :
    Follows (only Administers) m call.handler fun m' _ => m' = m := by
  have hroute : Follows (only Administers) m call.route.run fun m' _ => m' = m := by
    cases call with
    | createProgram body => exact uses_createProgram body
    | pauseProgram id => exact uses_changeStatus .active .paused id
    | resumeProgram id => exact uses_changeStatus .paused .active id
    | updateRatio id body => exact uses_updateRatio id body
    | registerContributor body => exact uses_registerContributor body
  refine follows_bind (hroute.mono ?_)
  rintro m r rfl
  cases r <;> rfl

end WaveFlow
