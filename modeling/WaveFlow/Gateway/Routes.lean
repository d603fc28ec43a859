import Mathlib.Algebra.Order.BigOperators.Group.List
import Mathlib.Algebra.Order.Ring.Nat
import WaveFlow.Gateway.Attestation

/-!
# The webhook handler

`githubWebhook` is the handler of `POST /webhooks/github`, and `processMerge` the part of it that
attests a merge. Both are cut into parts: `rejectWebhook` and `reserveDelivery` end or begin the
handler, `answerMerge` turns the result of `processMerge` into a response; `attestMerge` and
`recordMerge` are the second half of `processMerge`, from the submission on. `webhookRoute` is the
handler behind the limit that `main.rs` sets for a body.
-/

namespace WaveFlow

open Interaction Postgres

/-- The object that describes an outcome. -/
def outcome (status : String) (fields : List (String × Json)) : Json :=
  .obj (("status", .str status) :: fields)

/-! ### `process_merge` -/

/-- `result?` -/
def ofResult {α : Type} (result : Except WaveFlowError α) : Fallible α := .mk (.ret result)

theorem ofResult_ok_bind {α β : Type} (a : α) (f : α → Fallible β) :
    (ofResult (.ok a) >>= f) = f a := rfl

/-- The address registered for the author; a missing registration is counted. -/
def contributorAddress (programUuid : Uuid) (githubUsername : String) : Fallible String := do
  match ← ExceptT.lift (resolveContributorAddress programUuid githubUsername).run with
  | .ok address => pure address
  | .error (.notFound _) =>
    count .contributorNotFound
    throw (notRegistered programUuid githubUsername)
  | .error err => throw err

def alreadyProcessed (programUuid : Uuid) (prNumber : UInt64) (existing : Option Uuid) : Json :=
  outcome "already_processed"
    [ ("payout_id", existing.elim .null fun id => .str id.text),
      ("program_id", .str programUuid.text),
      ("pr_number", .num (.posInt prNumber)) ]

def processed (programUuid payoutId : Uuid) (txHash : String) : Json :=
  outcome "processed"
    [ ("payout_id", .str payoutId.text),
      ("tx_hash", .str txHash),
      ("program_id", .str programUuid.text) ]

/-- Record an attested merge: the payout, the milestone and the audit row. -/
def recordMerge (merge : MergeAttestation) (programUuid : Uuid) (stellarAddress : String)
    (amount : ℤ) (txHash : String) (rawPayload : Json) (deliveryId : Option String) :
    Fallible Uuid := do
  let payoutId ← persistPayout programUuid merge stellarAddress amount txHash
  incrementMilestoneSpent programUuid amount
  persistWebhookEvent deliveryId "pull_request" merge.githubRepo (some merge.prNumber) rawPayload
    .processed none
  return payoutId

/-- Attest a merge that has no payout yet, and record it. -/
def attestMerge (config : AppConfig) (merge : MergeAttestation) (programUuid : Uuid)
    (onChainProgramId : UInt64) (stellarAddress : String) (rawPayload : Json)
    (deliveryId : Option String) : Fallible Json := do
  let txHash ← submitAttestation config (buildAttestation onChainProgramId merge)
  let rewardPerPoint ← loadRewardPerPoint programUuid
  let payoutId ← recordMerge merge programUuid stellarAddress
    (merge.points.toNat * rewardPerPoint) txHash rawPayload deliveryId
  return processed programUuid payoutId txHash

def processMerge (config : AppConfig) (event : GitHubPullRequestEvent) (rawPayload : Json)
    (deliveryId : Option String) : Fallible Json := do
  let merge ← ofResult (parseMergeEvent event)
  let (programUuid, onChainProgramId) ← resolveProgramId merge.githubRepo
  if (← loadProgramStatus programUuid) = .paused then
    throw (.validation "program is paused")
  else if ← payoutExists programUuid merge.prNumber then
    return alreadyProcessed programUuid merge.prNumber
      (← fetchPayoutId programUuid merge.prNumber)
  else
    let stellarAddress ← contributorAddress programUuid merge.githubUsername
    attestMerge config merge programUuid onChainProgramId stellarAddress rawPayload deliveryId

/-! ### `github_webhook` -/

/-- The body as it is kept when the signature fails. -/
def rejectedPayload (C : Crates) (req : Request) : Json :=
  match C.fromSlice req.body with
  | .ok payload => payload
  | .error _ => .obj [("raw", .str (fromUtf8Lossy req.body))]

/-- Record a request whose signature fails, and answer it. -/
def rejectWebhook (C : Crates) (req : Request) (err : WaveFlowError) : Action Response := do
  count .webhookRejected
  let _ ← (persistWebhookEvent req.deliveryId req.eventType "unknown" none (rejectedPayload C req)
    .rejected (some "invalid webhook signature")).run
  return mapError err

def duplicateDelivery (deliveryId : String) : Response :=
  ⟨200, outcome "duplicate_delivery" [("delivery_id", .str deliveryId)]⟩

/-- Reserve the delivery id, if there is one. A response is the answer to a delivery that was seen
before or could not be reserved. -/
def reserveDelivery (deliveryId : Option String) (eventType : String) :
    Action (Option Response) := do
  match deliveryId with
  | none => return none
  | some delivery =>
    if ((← (deliveryIdSeen delivery).run).toOption.getD false) then
      return some (duplicateDelivery delivery)
    else
      match ← (claimDeliveryId delivery eventType).run with
      | .ok () => return none
      | .error err => return some (mapError err)

/-- Answer an event that is no pull request. -/
def ignoreEvent (eventType : String) (deliveryId : Option String) (payload : Json) :
    Action Response := do
  let _ ← (persistWebhookEvent deliveryId eventType "unknown" none payload .ignored
    (some "unsupported event type")).run
  return ⟨200, outcome "ignored" []⟩

/-- The repo named in a payload. -/
def payloadRepo (payload : Json) : String :=
  (((payload.get "repository").bind (·.get "full_name")).bind Json.asStr).getD "unknown"

/-- The pull request number in a payload. -/
def payloadNumber (payload : Json) : Option UInt64 := (payload.get "number").bind Json.asU64

/-- Turn the result of `processMerge` into a response; an error is recorded. -/
def answerMerge (eventType : String) (deliveryId : Option String) (payload : Json) :
    Except WaveFlowError Json → Action Response
  | .ok response => do
      count .payoutSuccess
      return ⟨200, response⟩
  | .error err => do
      if err.isValidation then
        count .webhookIgnored
        let _ ← (persistWebhookEvent deliveryId eventType (payloadRepo payload)
          (payloadNumber payload) payload .ignored (some err.toText)).run
        return ⟨200, outcome "ignored" [("reason", .str err.toText)]⟩
      else
        count .webhookFailed
        let _ ← (persistWebhookEvent deliveryId eventType (payloadRepo payload)
          (payloadNumber payload) payload .failed (some err.toText)).run
        return mapError err

/-- Handle the body of an authentic request whose delivery id is reserved. -/
def handleBody (C : Crates) (config : AppConfig) (req : Request) : Action Response :=
  match C.fromSlice req.body with
  | .error text => return mapError (.webhook ("invalid JSON: " ++ text))
  | .ok payload =>
    if req.eventType ≠ "pull_request" then ignoreEvent req.eventType req.deliveryId payload
    else match GitHubPullRequestEvent.fromValue payload with
      | none =>
        return mapError (.webhook ("invalid pull_request payload: " ++ C.fromValueError payload))
      | some event => do
        let result ← (processMerge config event payload req.deliveryId).run
        answerMerge req.eventType req.deliveryId payload result

def githubWebhook (C : Crates) (config : AppConfig) (req : Request) : Action Response := do
  count .webhook
  match verifyGithubSignature C config.githubWebhookSecret req.body req.signature with
  | .error err => rejectWebhook C req err
  | .ok () =>
    match ← reserveDelivery req.deliveryId req.eventType with
    | some response => return response
    | none => handleBody C config req

/-- The limit of the layer in `main.rs`, 256 KiB. -/
def bodyLimit : ℕ := 256 * 1024

def Request.BodyFits (req : Request) : Prop := req.body.length ≤ bodyLimit

instance (req : Request) : Decidable req.BodyFits := inferInstanceAs (Decidable (_ ≤ _))

/-- The route takes the request, and the index has room for its delivery id. -/
def Request.Admissible (server : Server) (req : Request) : Prop :=
  req.BodyFits ∧ ∀ d ∈ req.deliveryId, server.Fits (.text d)

instance (server : Server) (req : Request) : Decidable (req.Admissible server) :=
  inferInstanceAs (Decidable (_ ∧ _))

/-- `POST /webhooks/github` -/
def webhookRoute (C : Crates) (config : AppConfig) (req : Request) : Action Response :=
  if req.BodyFits then githubWebhook C config req else return payloadTooLarge

/-! ### A gateway with one program -/

namespace Setup

/-- Ids of growing length. -/
def uuids : UuidSource where
  draw ids := ⟨"00000000-0000-4000-8000-" ++
    String.ofList (List.replicate (12 + (ids.map fun id => id.text.length).sum) '0')⟩
  fresh ids h := by
    have hle : _ ≤ (ids.map fun id => id.text.length).sum :=
      List.le_sum_of_mem (List.mem_map_of_mem (f := fun id : Uuid => id.text.length) h)
    simp only [String.length_append, String.length_ofList, List.length_replicate] at hle
    omega

/-- No text is compressed, and each row of a table is a microsecond younger than the one before. -/
def server : Server where
  indexRowSize key := key.bytes + 12
  indexRowSize_le key := by omega
  now _ rows := ⟨Int64.ofNat rows⟩

/-- The merge of `fixtures/merged_pr.json`, on one line. -/
def body : List UInt8 :=
  ("\x7b\"action\":\"closed\",\"number\":42,\"pull_request\":\x7b\"merged\":true,\"user\":\x7b" ++
    "\"login\":\"alice\"\x7d,\"base\":\x7b\"ref\":\"main\"\x7d\x7d,\"repository\":\x7b\"full_name\":" ++
    "\"StellarRoute/WaveFlow\",\"default_branch\":\"main\"\x7d\x7d").toUTF8.data.toList

/-- The merge as a value. -/
def payload : Json := .obj
  [ ("action", .str "closed"), ("number", .num (.posInt 42)),
    ("pull_request", .obj
      [ ("base", .obj [("ref", .str "main")]), ("merged", .bool true),
        ("user", .obj [("login", .str "alice")]) ]),
    ("repository", .obj
      [("default_branch", .str "main"), ("full_name", .str "StellarRoute/WaveFlow")]) ]

def event : GitHubPullRequestEvent where
  action := "closed"
  number := 42
  pullRequest := ⟨true, ⟨"alice"⟩, ⟨"main"⟩⟩
  repository := ⟨"StellarRoute/WaveFlow", "main"⟩

theorem fromValue_payload : GitHubPullRequestEvent.fromValue payload = some event := by
  decide +kernel

def secret : String := "test-secret"

/-- The HMAC-SHA256 of `body` under `secret`. -/
def digest : Vector UInt8 32 :=
  #v[0x5c, 0xd5, 0xd2, 0x94, 0x4d, 0x92, 0xeb, 0xd7, 0xc2, 0xb0, 0x8f, 0x47, 0xba, 0x6b, 0xfa, 0x91,
    0xdb, 0x1a, 0xea, 0x94, 0x34, 0x72, 0xb1, 0x21, 0xb3, 0xfd, 0xf0, 0xb0, 0xac, 0x32, 0x92, 0x53]

def crates : Crates where
  uuids := uuids
  hmacSha256 key message :=
    if key = secret.toUTF8.data.toList ∧ message = body then digest else Vector.replicate 32 0
  fromSlice bytes := if bytes = body then .ok payload else .error "expected value at line 1 column 1"
  fromValueError _ := "invalid type"

theorem fromSlice_body : crates.fromSlice body = .ok payload := by
  simp only [crates, if_true]

def config : AppConfig := ⟨secret, none, none⟩

/-- The request that delivers the merge, signed with `signature`. -/
def deliver (signature : String) (deliveryId : Option String) : Request where
  headers :=
    [ ("x-github-event", "pull_request".toUTF8.data.toList),
      ("x-hub-signature-256", signature.toUTF8.data.toList) ] ++
    (deliveryId.map fun d => ("x-github-delivery", d.toUTF8.data.toList)).toList
  body := body

def signature : String := "sha256=5cd5d2944d92ebd7c2b08f47ba6bfa91db1aea943472b121b3fdf0b0ac329253"

theorem signed_deliver (deliveryId : Option String) :
    (deliver signature deliveryId).Signed crates config := by
  have hnone : (deliver signature none).Signed crates config := by decide +kernel
  exact hnone

theorem bodyFits_deliver (signature : String) (deliveryId : Option String) :
    (deliver signature deliveryId).BodyFits := by
  have hbody : body.length ≤ bodyLimit := by decide +kernel
  exact hbody

theorem eventType_deliver (signature : String) (deliveryId : Option String) :
    (deliver signature deliveryId).eventType = "pull_request" := by
  have hnone : (deliver "" none).eventType = "pull_request" := by decide +kernel
  exact hnone

def account : String := "GAAAAAAAAAAAAAAAAAAAAAAAAAAAAAAAAAAAAAAAAAAAAAAAAAAAAWHF"

/-- One active program. -/
def program : Uuid × Db :=
  ((Db.empty server).insertProgram uuids 1 "StellarRoute/WaveFlow" account 100 none).toOption.getD
    (⟨""⟩, .empty server)

/-- The author of the merge is registered with it. -/
def db : Db :=
  (program.2.insertContributor program.1 "alice" account).toOption.getD program.2

def world : World := ⟨db, [], fun _ => 0⟩

example : (runAlone uuids world (webhookRoute crates config (deliver signature none))).1.status =
    200 := by decide +kernel

end Setup

end WaveFlow
