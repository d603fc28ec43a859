import WaveFlow.Library.Pieces
import WaveFlow.Shared.Types

/-!
# The configuration

`AppConfig::from_env` reads the environment once; what the gateway needs of it is an `AppConfig`,
and the API needs the admin keys as well.
-/

namespace WaveFlow

open Pieces

/-- The environment variables of a process. -/
abbrev Vars := String → Option String

/-- A variable that has to be set. -/
def requiredVar (vars : Vars) (name : String) : Except WaveFlowError String :=
  match vars name with
  | some value => .ok value
  | none => .error (.config (name ++ " is required"))

def AppConfig.fromEnv (vars : Vars) : Except WaveFlowError AppConfig := do
  let _ ← requiredVar vars "DATABASE_URL"
  let githubWebhookSecret ← requiredVar vars "GITHUB_WEBHOOK_SECRET"
  return { githubWebhookSecret
           escrowContractId := vars "ESCROW_CONTRACT_ID"
           gatewaySecretKey := vars "GATEWAY_SECRET_KEY" }

/-! ### Admin keys -/

/-- `char::is_whitespace`: the characters with the Unicode property `White_Space`. -/
def isWhitespace (c : Char) : Bool :=
  (0x9 ≤ c.toNat && c.toNat ≤ 0xD) || (0x2000 ≤ c.toNat && c.toNat ≤ 0x200A) ||
    c.toNat ∈ [0x20, 0x85, 0xA0, 0x1680, 0x2028, 0x2029, 0x202F, 0x205F, 0x3000]

/-- The keys of `API_ADMIN_KEYS`. -/
def adminKeys (value : String) : List String :=
  (((value.toList.splitOn ',').map (trim isWhitespace)).filter (!·.isEmpty)).map String.ofList

/-- `AppConfig`, the fields the API reads as well. -/
structure ApiConfig extends AppConfig where
  apiAdminKeys : List String

def ApiConfig.fromEnv (vars : Vars) : Except WaveFlowError ApiConfig := do
  let config ← AppConfig.fromEnv vars
  return { toAppConfig := config
           apiAdminKeys := adminKeys ((vars "API_ADMIN_KEYS").getD "") }

/-- A piece of `value` between commas, trimmed and not empty. -/
def IsKeyOf (value key : String) : Prop :=
  key ≠ "" ∧ ∃ piece, IsPiece ',' value.toList piece ∧ Trims isWhitespace piece key.toList

/-- **The keys are the trimmed pieces that are not empty.** -/
theorem mem_adminKeys {value key : String} : key ∈ adminKeys value ↔ IsKeyOf value key := by
  simp only [adminKeys, List.mem_map, List.mem_filter, mem_splitOn, Bool.not_eq_true',
    List.isEmpty_eq_false_iff]
  constructor
  · rintro ⟨_, ⟨⟨piece, hpiece, rfl⟩, hne⟩, rfl⟩
    refine ⟨?_, piece, hpiece, ?_⟩
    · rwa [ne_eq, String.ofList_eq_empty_iff]
    · rw [String.toList_ofList, ← trim_eq_iff]
  · rintro ⟨hne, piece, hpiece, htrims⟩
    refine ⟨key.toList, ⟨⟨piece, hpiece, trim_eq_iff.2 htrims⟩, ?_⟩, String.ofList_toList⟩
    rwa [ne_eq, String.toList_eq_nil_iff]

example : adminKeys "key-a, key-b" = ["key-a", "key-b"] := by decide +kernel

theorem not_isKeyOf_empty (key : String) : ¬ IsKeyOf "" key := by
  rintro ⟨hne, piece, ⟨-, front, back, hsegment, -⟩, ⟨-, margin, margin', hmargins, -⟩⟩
  have hnil : front ++ piece ++ back = [] := hsegment.symm
  rw [hmargins] at hnil
  simp only [List.append_eq_nil_iff] at hnil
  exact hne (String.toList_eq_nil_iff.1 hnil.1.2.1.2)

/-- The keys of the configuration, set or not. -/
theorem ApiConfig.mem_apiAdminKeys {vars : Vars} {config : ApiConfig}
    (hconfig : ApiConfig.fromEnv vars = .ok config) {key : String} :
    key ∈ config.apiAdminKeys ↔
      ∃ value, vars "API_ADMIN_KEYS" = some value ∧ IsKeyOf value key := by
  unfold ApiConfig.fromEnv at hconfig
  cases happ : AppConfig.fromEnv vars with
  | error err =>
    rw [happ] at hconfig
    cases hconfig
  | ok app =>
    rw [happ] at hconfig
    cases hconfig
    rw [mem_adminKeys]
    cases hvalue : vars "API_ADMIN_KEYS" with
    | none => simpa using not_isKeyOf_empty key
    | some value => simp

end WaveFlow
