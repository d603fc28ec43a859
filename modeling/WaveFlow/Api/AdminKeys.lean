import WaveFlow.Shared.Config
import WaveFlow.Shared.Effects
import WaveFlow.Shared.Requests

/-!
# The check of the admin key

`require_admin_key` stands before the admin routes. It passes a request on exactly when the header
`x-api-key` is one of the configured keys, and no key is empty or has a blank at an end.
-/

namespace WaveFlow

open Pieces

variable {vars : Vars} {config : ApiConfig} {req : Request}

def keysNotConfigured : Response :=
  ⟨500, .obj [("error", .str "API_ADMIN_KEYS not configured")]⟩

def keyInvalid : Response := ⟨401, .obj [("error", .str "invalid or missing x-api-key")]⟩

/-- `require_admin_key` before the handler `next`. -/
def requireAdminKey (config : ApiConfig) (req : Request) (next : Request → Action Response) :
    Action Response :=
  if config.apiAdminKeys.isEmpty then return keysNotConfigured
  else
    let authorized := (req.header "x-api-key").any fun key => config.apiAdminKeys.any (· = key)
    if !authorized then return keyInvalid else next req

/-- The request goes to the handler behind the check, whatever that is. -/
def PassesOn (config : ApiConfig) (req : Request) : Prop :=
  ∀ next, requireAdminKey config req next = next req

/-- The request is answered by the check itself, with an error. -/
def Refused (config : ApiConfig) (req : Request) : Prop :=
  ∃ r ∈ [keysNotConfigured, keyInvalid], ∀ next, requireAdminKey config req next = return r

theorem Refused.not_passesOn (h : Refused config req) : ¬ PassesOn config req := by
  intro hpasses
  obtain ⟨r, hr, hrefused⟩ := h
  -- A handler that answers 200 tells the two apart.
  have hsame : (return r : Action Response) = return ⟨200, .null⟩ :=
    (hrefused fun _ => return ⟨200, .null⟩).symm.trans (hpasses _)
  have hresponse : r = ⟨200, .null⟩ := by
    injection hsame
  subst hresponse
  simp [keysNotConfigured, keyInvalid] at hr

/-- The header is there, can be read, and is a key. -/
def HasKey (config : ApiConfig) (req : Request) : Prop :=
  ∃ key, req.header "x-api-key" = some key ∧ key ∈ config.apiAdminKeys

theorem authorized_iff : ((req.header "x-api-key").any fun key =>
    config.apiAdminKeys.any (· = key)) = true ↔ HasKey config req := by
  unfold HasKey
  cases req.header "x-api-key" with
  | none => simp
  | some key => simp

theorem passesOn_of_hasKey (h : HasKey config req) : PassesOn config req := by
  intro next
  have hconfigured : ¬ config.apiAdminKeys.isEmpty = true := by
    obtain ⟨key, -, hkey⟩ := h
    intro hempty
    rw [List.isEmpty_iff.1 hempty] at hkey
    cases hkey
  rw [requireAdminKey, if_neg hconfigured, authorized_iff.2 h]
  rfl

theorem refused_of_not_hasKey (h : ¬ HasKey config req) : Refused config req := by
  by_cases hempty : config.apiAdminKeys.isEmpty = true
  · refine ⟨keysNotConfigured, List.mem_cons_self, fun next => ?_⟩
    rw [requireAdminKey, if_pos hempty]
  · refine ⟨keyInvalid, List.mem_cons_of_mem _ List.mem_cons_self, fun next => ?_⟩
    have hunauthorized := Bool.eq_false_iff.2 (mt authorized_iff.1 h)
    rw [requireAdminKey, if_neg hempty, hunauthorized]
    rfl

/-- Which requests are passed on; the others are refused. -/
theorem passesOn_iff : PassesOn config req ↔ HasKey config req := by
  constructor
  · intro hpasses
    by_contra h
    exact (refused_of_not_hasKey h).not_passesOn hpasses
  · exact passesOn_of_hasKey

/-- A key of the variable `API_ADMIN_KEYS`. -/
def IsAdminKey (vars : Vars) (key : String) : Prop :=
  ∃ value, vars "API_ADMIN_KEYS" = some value ∧ IsKeyOf value key

/-- **Admin keys are matched exactly**: no key is empty or has a blank at an end; a request is
passed on exactly when its header can be read as a trimmed, non-empty piece of the variable, and
refused otherwise; without such a piece none is passed on. -/
theorem admin_keys_exact (hconfig : ApiConfig.fromEnv vars = .ok config) :
    (∀ key ∈ config.apiAdminKeys, key ≠ "" ∧ IsTrimmed isWhitespace key.toList) ∧
      (∀ req, PassesOn config req ↔ ∃ value key, req.headers.lookup "x-api-key" = some value ∧
        headerText value = some key ∧ IsAdminKey vars key) ∧
      (∀ req, ¬ PassesOn config req → Refused config req) ∧
      ((∀ key, ¬ IsAdminKey vars key) → ∀ req, ¬ PassesOn config req) := by
  have hkeys : ∀ key, key ∈ config.apiAdminKeys ↔ IsAdminKey vars key :=
    fun key => ApiConfig.mem_apiAdminKeys hconfig
  refine ⟨fun key hkey => ?_, fun req => ?_, fun req hno => ?_, fun hnone req hpasses => ?_⟩
  · obtain ⟨value, -, hne, piece, -, htrims⟩ := (hkeys key).1 hkey
    exact ⟨hne, htrims.trimmed⟩
  · rw [passesOn_iff]
    constructor
    · rintro ⟨key, hheader, hkey⟩
      obtain ⟨value, hvalue, htext⟩ := Option.bind_eq_some_iff.1 hheader
      exact ⟨value, key, hvalue, htext, (hkeys key).1 hkey⟩
    · rintro ⟨value, key, hvalue, htext, hkey⟩
      exact ⟨key, Option.bind_eq_some_iff.2 ⟨value, hvalue, htext⟩, (hkeys key).2 hkey⟩
  · exact refused_of_not_hasKey (mt passesOn_iff.2 hno)
  · obtain ⟨key, -, hkey⟩ := passesOn_iff.1 hpasses
    exact hnone key ((hkeys key).1 hkey)

namespace Setup

/-- A variable with padding, a doubled comma and a blank piece. -/
def keyVars : Vars := fun name =>
  if name = "DATABASE_URL" then some "postgres://localhost/waveflow"
  else if name = "GITHUB_WEBHOOK_SECRET" then some "secret"
  else if name = "API_ADMIN_KEYS" then some " key-a,, key b ,\t"
  else none

def keyConfig : ApiConfig := ⟨⟨"secret", none, none⟩, ["key-a", "key b"]⟩

theorem fromEnv_keyVars : ApiConfig.fromEnv keyVars = .ok keyConfig := by
  have hkeys : adminKeys " key-a,, key b ,\t" = ["key-a", "key b"] := by decide +kernel
  unfold ApiConfig.fromEnv
  show Except.ok _ = _
  rw [keyConfig, ← hkeys]
  rfl

end Setup

/-- Two keys. -/
theorem admin_keys_exact_setup :
    (∀ key ∈ Setup.keyConfig.apiAdminKeys, key ≠ "" ∧ IsTrimmed isWhitespace key.toList) ∧
      (∀ req, PassesOn Setup.keyConfig req ↔ ∃ value key,
        req.headers.lookup "x-api-key" = some value ∧ headerText value = some key ∧
          IsAdminKey Setup.keyVars key) ∧
      (∀ req, ¬ PassesOn Setup.keyConfig req → Refused Setup.keyConfig req) ∧
      ((∀ key, ¬ IsAdminKey Setup.keyVars key) → ∀ req, ¬ PassesOn Setup.keyConfig req) :=
  admin_keys_exact Setup.fromEnv_keyVars

end WaveFlow
