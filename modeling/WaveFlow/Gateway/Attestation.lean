import WaveFlow.Gateway.Webhook

/-!
# Attestations and their records

The functions of `attestation.rs`, each a statement or two.
-/

namespace WaveFlow

open Interaction Postgres

/-- Resolve the program of a repo, if it is active. -/
def resolveProgramId (githubRepo : String) : Fallible (Uuid × UInt64) := do
  match ← query (.selectActiveProgram githubRepo) databaseError with
  | some (id, onChain) => pure (id, onChain.toUInt64)
  | none => throw (.notFound ("no active program for repo " ++ githubRepo))

def notRegistered (programId : Uuid) (githubUsername : String) : WaveFlowError :=
  .notFound ("contributor " ++ githubUsername ++ " not registered for program " ++ programId.text)

def resolveContributorAddress (programId : Uuid) (githubUsername : String) : Fallible String := do
  match ← query (.selectContributorAddress programId githubUsername) databaseError with
  | some address => pure address
  | none => throw (notRegistered programId githubUsername)

/-- The id of the payout of a pull request that was already processed. -/
def fetchPayoutId (programId : Uuid) (prNumber : UInt64) : Fallible (Option Uuid) :=
  query (.selectPayoutId programId (saturate prNumber)) databaseError

def payoutExists (programId : Uuid) (prNumber : UInt64) : Fallible Bool := do
  return (← fetchPayoutId programId prNumber).isSome

def deliveryIdSeen (deliveryId : String) : Fallible Bool := do
  return (← query (.selectWebhookEventId deliveryId) databaseError).isSome

def programNotFound (programId : Uuid) : WaveFlowError :=
  .notFound ("program " ++ programId.text ++ " not found")

def loadProgramStatus (programId : Uuid) : Fallible ProgramStatus := do
  match ← query (.selectProgramStatus programId) databaseError with
  | some status => pure status
  | none => throw (programNotFound programId)

def amountOverflow : WaveFlowError := .internal "amount overflow"

def incrementMilestoneSpent (programId : Uuid) (amount : ℤ) : Fallible Unit := do
  match i64TryFrom amount with
  | some amount => let _ ← query (.updateMilestoneSpent amount programId) databaseError
  | none => throw amountOverflow

def loadRewardPerPoint (programId : Uuid) : Fallible ℤ := do
  match ← query (.selectRewardPerPoint programId) databaseError with
  | some reward => pure reward.toInt
  | none => throw (programNotFound programId)

def buildAttestation (onChainProgramId : UInt64) (merge : MergeAttestation) : AttestationRequest :=
  { programId := onChainProgramId
    githubUsername := merge.githubUsername
    prNumber := merge.prNumber
    points := merge.points }

/-- The hash that `submitAttestation` returns, a placeholder in either mode. -/
def attestationHash (config : AppConfig) (attestation : AttestationRequest) : String :=
  (if config.escrowContractId.isSome && config.gatewaySecretKey.isSome then "simulated-tx-"
    else "dry-run-") ++
  toString attestation.programId ++ "-" ++ toString attestation.prNumber

def submitAttestation (config : AppConfig) (attestation : AttestationRequest) : Fallible String := do
  (Prog.perform (Op.attest attestation) : Action Unit)
  return attestationHash config attestation

/-- `i32::try_from(points).unwrap_or(1)` -/
def pointsColumn (points : UInt32) : Int32 :=
  if points.toNat < 2 ^ 31 then Int32.ofNat points.toNat else 1

def persistPayout (programId : Uuid) (merge : MergeAttestation) (stellarAddress : String)
    (amount : ℤ) (txHash : String) : Fallible Uuid := do
  match i64TryFrom amount, i64TryFrom merge.prNumber.toNat with
  | none, _ => throw amountOverflow
  | some _, none => throw (.internal "pr_number overflow")
  | some amount, some prNumber =>
    query (.insertPayout programId prNumber merge.githubUsername stellarAddress
        (pointsColumn merge.points) amount txHash)
      (conflictOr ("PR " ++ toString merge.prNumber ++ " already processed for program " ++
        programId.text))

/-- Reserve a delivery id before the chain submission. -/
def claimDeliveryId (deliveryId eventType : String) : Fallible Unit :=
  query (.insertWebhookEvent deliveryId eventType "pending" none (.obj []) .processing none)
    (conflictOr ("duplicate delivery " ++ deliveryId))

def persistWebhookEvent (deliveryId : Option String) (eventType githubRepo : String)
    (prNumber : Option UInt64) (payload : Json) (status : EventStatus)
    (errorMessage : Option String) : Fallible Unit :=
  query (.insertWebhookEvent deliveryId eventType githubRepo (prNumber.map saturate) payload status
    errorMessage) databaseError

end WaveFlow
