import WaveFlow.Gateway.Authentic
import WaveFlow.Gateway.Signature
import WaveFlow.Shared.Config

/-!
# An empty webhook secret

The gateway starts with an empty `GITHUB_WEBHOOK_SECRET` and warns that it will reject all
deliveries. HMAC is defined for the empty key as for every other, so anyone can sign for it:
`verifyGithubSignature` fails exactly when the header is not the signature under the empty key, in
hex digits of either case.
-/

namespace WaveFlow

open Interaction Postgres Transition

/-! ### Starting -/

def emptySecretWarning : String :=
  "GITHUB_WEBHOOK_SECRET is empty; webhook signature verification will reject all deliveries"

def dryRunWarning : String :=
  "ESCROW_CONTRACT_ID is set but GATEWAY_SECRET_KEY is missing; " ++
    "chain submission stays in dry-run mode"

/-- The check of the configuration: its warnings, and its result. -/
def validateGatewayConfig (config : AppConfig) : List String × Except WaveFlowError Unit :=
  ((if config.githubWebhookSecret.isEmpty then [emptySecretWarning] else []) ++
    (if config.escrowContractId.isSome && config.gatewaySecretKey.isNone then [dryRunWarning]
      else []), .ok ())

/-- What `main` does before it connects to the database: the configuration, and the warnings. -/
def startGateway (vars : Vars) : Except WaveFlowError (AppConfig × List String) := do
  let config ← AppConfig.fromEnv vars
  let (warnings, result) := validateGatewayConfig config
  result
  return (config, warnings)

/-- The gateway starts with an empty secret, and warns. -/
theorem startGateway_empty {vars : Vars} {config : AppConfig} {warnings : List String}
    (hstart : startGateway vars = .ok (config, warnings))
    (hsecret : vars "GITHUB_WEBHOOK_SECRET" = some "") :
    config.githubWebhookSecret = "" ∧ emptySecretWarning ∈ warnings := by
  unfold startGateway AppConfig.fromEnv requiredVar at hstart
  rw [hsecret] at hstart
  cases hurl : vars "DATABASE_URL" with
  | none =>
    rw [hurl] at hstart
    cases hstart
  | some url =>
    rw [hurl] at hstart
    cases hstart
    exact ⟨rfl, List.mem_append_left _ List.mem_cons_self⟩

/-! ### What an empty secret lets through -/

/-- The header is the signature of the body under the empty key. -/
def SignedKeyless (C : Crates) (body : List UInt8) (header : String) : Prop :=
  ∃ digits, header = "sha256=" ++ String.ofList digits ∧
    digits.map Char.toLower = hexEncode (C.hmacSha256 [] body).toList

theorem verifyGithubSignature_empty_error {C : Crates} {body : List UInt8} {header : String} :
    (∃ err, verifyGithubSignature C "" body header = .error err) ↔
      ¬ SignedKeyless C body header := by
  have hok : verifyGithubSignature C "" body header = .ok () ↔ SignedKeyless C body header :=
    verifyGithubSignature_ok
  rw [← hok]
  cases verifyGithubSignature C "" body header with
  | error err => simp
  | ok u => simp

/-- What the handler of a rejected request does: it steps counters, and writes the audit row. -/
inductive Rejects : Op → Prop
  | count (c : Counter) : Rejects (.count c)
  | audit (delivery : Option String) (eventType repo : String) (number : Option Int64)
      (payload : Json) (error : Option String) :
      Rejects (.sql (.insertWebhookEvent delivery eventType repo number payload .rejected error))

theorem Allows.rejects {C : Crates} {config : AppConfig} {req : Request} {m : Phase} {op : Op}
    (h : Allows C config req m op) (hm : m.TurnedAway) : Rejects op := by
  cases h with
  | count c => exact .count c
  | reject => exact .audit _ _ _ _ _ _
  | audit hclaimed => exact absurd hclaimed hm.not_claimed
  | _ => rcases hm with hm | hm <;> cases hm

/-- The answer to a request that is not handled: an error, or that its body is over the limit. -/
def TurnsAway (req : Request) (r : Response) : Prop :=
  (∃ err, r = mapError err) ∨ ¬ req.BodyFits ∧ r = payloadTooLarge

theorem Ends.turnsAway {C : Crates} {req : Request} {m : Phase} {r : Response}
    (h : Ends C req m r) (hm : m.TurnedAway) : TurnsAway req r := by
  cases h with
  | oversized hover => exact .inr ⟨hover, rfl⟩
  | rejected err => exact .inl ⟨err, rfl⟩
  | merged h | skipped h | unmerged h => exact absurd h.claimed hm.not_claimed
  | _ => rcases hm with hm | hm <;> cases hm

variable {ι : Type} [DecidableEq ι] {C : Crates} {config : AppConfig} {calls : ι → Call}
  {req : Request} {w : World} {s : Service ι}
  {h : List (Entry (Service ι) (Event ι Op Op.Ans))} {i : ι}

/-- A request whose signature fails is turned away in every run. -/
theorem rejected_of_run
    (hrun : Run (Service.FaultyStep C config calls) (Service.start C config calls w) h s)
    (hi : calls i = .webhook req) (hunsigned : ¬ req.Signed C config) :
    (∀ e ∈ h, e.label.thread = i → Rejects e.label.op) ∧
      ∀ r, s.prog i = .ret r → TurnsAway req r := by
  have hphase : ∀ {h s}, Run (Service.FaultyStep C config calls) (Service.start C config calls w)
      h s → (s.phase i).TurnedAway := by
    intro h s hrun
    by_contra hphase
    exact hunsigned (signed_of_run hrun hi hphase).2
  constructor
  · rintro e he rfl
    obtain ⟨before, -, -, hbefore, hstep⟩ := hrun.split he
    have hallowed := allowed_of_run hbefore hstep
    simp only [protocols, hi] at hallowed
    exact Allows.rejects hallowed (hphase hbefore)
  · intro r hr
    have hended := (Pool.follow_of_run hrun (follow_start C config calls w)).ended hr
    rw [hi] at hended
    exact Ends.turnsAway hended (hphase hrun)

/-- **What a gateway with an empty secret rejects.** The gateway starts and announces that it will
reject all deliveries. It rejects those whose header is not the signature of the body under the
empty key, and no other. -/
theorem empty_secret_rejects {vars : Vars} {warnings : List String}
    (hstart : startGateway vars = .ok (config, warnings))
    (hsecret : vars "GITHUB_WEBHOOK_SECRET" = some "")
    (hrun : Run (Service.FaultyStep C config calls) (Service.start C config calls w) h s) :
    emptySecretWarning ∈ warnings ∧
      (∀ body header,
        (∃ err, verifyGithubSignature C config.githubWebhookSecret body header = .error err) ↔
          ¬ SignedKeyless C body header) ∧
      ∀ i req, calls i = .webhook req → ¬ SignedKeyless C req.body req.signature →
        (∀ e ∈ h, e.label.thread = i → Rejects e.label.op) ∧
          ∀ r, s.prog i = .ret r → TurnsAway req r := by
  obtain ⟨hempty, hwarning⟩ := startGateway_empty hstart hsecret
  refine ⟨hwarning, fun body header => ?_, fun i req hi hkeyless => ?_⟩
  · rw [hempty]
    exact verifyGithubSignature_empty_error
  · apply rejected_of_run hrun hi
    intro hsigned
    obtain ⟨err, herr⟩ := verifyGithubSignature_empty_error.2 hkeyless
    unfold Request.Signed at hsigned
    rw [hempty, herr] at hsigned
    cases hsigned

namespace Setup

/-- The variables of a gateway with an empty secret. -/
def openVars : Vars := fun name =>
  if name = "DATABASE_URL" then some "postgres://localhost/waveflow"
  else if name = "GITHUB_WEBHOOK_SECRET" then some ""
  else none

def openConfig : AppConfig := ⟨"", none, none⟩

/-- The HMAC-SHA256 of `body` under the empty key. -/
def keylessDigest : Vector UInt8 32 :=
  #v[0xb2, 0x45, 0xb8, 0x3c, 0xc6, 0x67, 0x4a, 0xa5, 0x94, 0xd4, 0xa2, 0xd7, 0xde, 0xb9, 0x3f, 0x44,
    0xa2, 0x09, 0x7e, 0xdf, 0xee, 0x25, 0x94, 0x98, 0x7a, 0xef, 0xe3, 0x26, 0xef, 0xb6, 0xa4, 0x41]

def keylessSignature : String :=
  "sha256=b245b83cc6674aa594d4a2d7deb93f44a2097edfee2594987aefe326efb6a441"

def keylessCrates : Crates :=
  { crates with
    hmacSha256 := fun key message =>
      if key = [] ∧ message = body then keylessDigest else crates.hmacSha256 key message }

theorem startGateway_openVars :
    startGateway openVars = .ok (openConfig, [emptySecretWarning]) := rfl

end Setup

/-- A delivery whose header is no signature. -/
theorem empty_secret_rejects_setup :
    let calls : Unit → Call := fun _ => .webhook (Setup.deliver "sha256=00" none)
    let play := Service.play Setup.keylessCrates Setup.openConfig calls Setup.world [(), (), ()]
    emptySecretWarning ∈ [emptySecretWarning] ∧
      (∀ body header, (∃ err, verifyGithubSignature Setup.keylessCrates
          Setup.openConfig.githubWebhookSecret body header = .error err) ↔
        ¬ SignedKeyless Setup.keylessCrates body header) ∧
      ∀ i req, calls i = .webhook req → ¬ SignedKeyless Setup.keylessCrates req.body req.signature →
        (∀ e ∈ play.1, e.label.thread = i → Rejects e.label.op) ∧
          ∀ r, play.2.prog i = .ret r → TurnsAway req r :=
  empty_secret_rejects Setup.startGateway_openVars rfl (faulty_of_run (Service.run_play _ _ _ _ _))

/-- A merge that is signed under the empty key is attested and paid. -/
theorem keyless_merge_processed :
    let r := handle Setup.keylessCrates Setup.openConfig Setup.world
      (Setup.deliver Setup.keylessSignature none)
    startGateway Setup.openVars = .ok (Setup.openConfig, [emptySecretWarning]) ∧
      verifyGithubSignature Setup.keylessCrates "" Setup.body Setup.keylessSignature = .ok () ∧
      r.1.status = 200 ∧ r.2.attestations.length = 1 ∧ r.2.db.payouts.rows.length = 1 := by
  refine ⟨Setup.startGateway_openVars, by decide +kernel, by decide +kernel, by decide +kernel,
    by decide +kernel⟩

end WaveFlow
