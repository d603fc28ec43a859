import WaveFlow.Shared.Json

/-!
# Domain types shared by the gateway and the API

`GitHubPullRequestEvent.fromValue` is the derived deserializer: unknown fields of an object are
skipped, a missing field is an error, and a struct may also come as the array of its fields.
-/

namespace WaveFlow

/-- A UUID, by its hyphenated text. -/
structure Uuid where
  text : String
  deriving DecidableEq

/-- `DateTime<Utc>`, in microseconds as `TIMESTAMPTZ` keeps it. -/
structure Timestamp where
  micros : Int64
  deriving DecidableEq

inductive ProgramStatus
  | active
  | paused
  deriving DecidableEq

/-- `AppConfig`, the fields the gateway reads. -/
structure AppConfig where
  githubWebhookSecret : String
  escrowContractId : Option String
  gatewaySecretKey : Option String

/-! ### Errors -/

inductive WaveFlowError
  | config (text : String)
  | unauthorized (text : String)
  | validation (text : String)
  | notFound (text : String)
  | conflict (text : String)
  | database (text : String)
  | webhook (text : String)
  | chain (text : String)
  | internal (text : String)
  deriving DecidableEq

namespace WaveFlowError

/-- `err.to_string()` -/
def toText : WaveFlowError → String
  | .config text => "configuration error: " ++ text
  | .unauthorized text => "unauthorized: " ++ text
  | .validation text => "validation error: " ++ text
  | .notFound text => "not found: " ++ text
  | .conflict text => "conflict: " ++ text
  | .database text => "database error: " ++ text
  | .webhook text => "webhook error: " ++ text
  | .chain text => "chain error: " ++ text
  | .internal text => "internal error: " ++ text

def httpStatusCode : WaveFlowError → ℕ
  | .unauthorized _ => 401
  | .validation _ | .webhook _ => 400
  | .notFound _ => 404
  | .conflict _ => 409
  | .config _ | .database _ | .chain _ | .internal _ => 500

/-- `matches!(err, WaveFlowError::Validation(_))` -/
def isValidation : WaveFlowError → Bool
  | .validation _ => true
  | _ => false

end WaveFlowError

/-! ### Attestations and webhook payloads -/

structure AttestationRequest where
  programId : UInt64
  githubUsername : String
  prNumber : UInt64
  points : UInt32
  deriving DecidableEq

structure GitHubRef where
  refName : String
  deriving DecidableEq

structure GitHubUser where
  login : String
  deriving DecidableEq

structure GitHubRepository where
  fullName : String
  defaultBranch : String
  deriving DecidableEq

structure GitHubPullRequest where
  merged : Bool
  user : GitHubUser
  base : GitHubRef
  deriving DecidableEq

structure GitHubPullRequestEvent where
  action : String
  number : UInt64
  pullRequest : GitHubPullRequest
  repository : GitHubRepository
  deriving DecidableEq

namespace Json

def asBool : Json → Option Bool
  | .bool b => some b
  | _ => none

/-- The values of the named fields of a struct, from an object or from an array of that length. -/
def structFields (names : List String) : Json → Option (List Json)
  | .obj fields => names.mapM fun name => fields.lookup name
  | .arr items => if items.length = names.length then some items else none
  | _ => none

end Json

def GitHubRef.fromValue (v : Json) : Option GitHubRef := do
  let [refName] ← v.structFields ["ref"] | none
  return { refName := ← refName.asStr }

def GitHubUser.fromValue (v : Json) : Option GitHubUser := do
  let [login] ← v.structFields ["login"] | none
  return { login := ← login.asStr }

def GitHubRepository.fromValue (v : Json) : Option GitHubRepository := do
  let [fullName, defaultBranch] ← v.structFields ["full_name", "default_branch"] | none
  return { fullName := ← fullName.asStr, defaultBranch := ← defaultBranch.asStr }

def GitHubPullRequest.fromValue (v : Json) : Option GitHubPullRequest := do
  let [merged, user, base] ← v.structFields ["merged", "user", "base"] | none
  return { merged := ← merged.asBool, user := ← GitHubUser.fromValue user,
           base := ← GitHubRef.fromValue base }

def GitHubPullRequestEvent.fromValue (v : Json) : Option GitHubPullRequestEvent := do
  let [action, number, pullRequest, repository] ←
    v.structFields ["action", "number", "pull_request", "repository"] | none
  return { action := ← action.asStr, number := ← number.asU64,
           pullRequest := ← GitHubPullRequest.fromValue pullRequest,
           repository := ← GitHubRepository.fromValue repository }

/-! ### Validators -/

/-- A slug `owner/name`: two parts, neither empty nor with a blank. -/
def validateGithubRepo (repo : String) : Bool :=
  let parts := repo.splitToList (· = '/')
  parts.length = 2 && parts.all fun p => !p.isEmpty && !p.toList.contains ' '

/-- A Stellar public key: `G` and 55 more characters of base 32. -/
def validateStellarAddress (address : String) : Bool :=
  address.utf8ByteSize = 56 && address.toList.head? = some 'G' &&
    address.toList.all fun c => ('A' ≤ c && c ≤ 'Z') || ('2' ≤ c && c ≤ '7')

end WaveFlow
