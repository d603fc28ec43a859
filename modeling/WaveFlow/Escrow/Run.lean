import WaveFlow.Escrow.Effect
import WaveFlow.Library.Transition

/-!
# Runs of the escrow contract

A run starts from a fresh deployment and takes any finite sequence of steps. A step is a call of any
entry point, with any arguments and authorised by any addresses; the host commits a successful call
and rolls a failed one back. Between calls anybody may move tokens about, mint and burn them; only
the contract's own balance cannot fall that way, because the contract authorises nobody.
-/

namespace WaveFlow.Escrow

open Transition

variable {H : Host}

/-- What a step was. -/
inductive Label
  | ok (auths : Finset Address) (call : Call) (value : Value)
  | failed (auths : Finset Address) (call : Call) (why : Failure)
  | outside
  deriving DecidableEq

/-- The addresses that authorised a step. -/
def Label.auths : Label → Finset Address
  | .ok auths _ _ | .failed auths _ _ => auths
  | .outside => ∅

inductive Step : Env H → Label → Env H → Prop
  | ok {env env' : Env H} {auths : Finset Address} {call : Call} {value : Value}
      (hcall : (invoke call).exec auths env = .ok (value, env')) :
      Step env (.ok auths call value) env'
  | failed {env : Env H} {auths : Finset Address} {call : Call} {why : Failure}
      (hcall : (invoke call).exec auths env = .error why) :
      Step env (.failed auths call why) env
  | outside {env : Env H} (tokens : Address → H.token.State)
      (hpool : ∀ token, env.pool token ≤ H.token.balance (tokens token) H.self) :
      Step env .outside { env with tokens }

/-- The histories of the contract. -/
abbrev History (H : Host) := List (Entry (Env H) Label)

theorem Step.effect {env env' : Env H} {auths : Finset Address} {call : Call} {value : Value}
    (h : Step env (.ok auths call value) env') : Effect auths env call value env' := by
  cases h with
  | ok hcall => exact effect_of_invoke hcall

/-- A step takes effect, or changes at most the balances of tokens outside the contract. -/
theorem Step.cases {env env' : Env H} {l : Label} (h : Step env l env') :
    (∃ auths call value, l = .ok auths call value ∧ Effect auths env call value env') ∨
    ((∃ auths call why, l = .failed auths call why) ∧ env' = env) ∨
    (l = .outside ∧ ∃ tokens, (∀ token, env.pool token ≤ H.token.balance (tokens token) H.self) ∧
      env' = { env with tokens }) := by
  cases h with
  | ok hcall => exact Or.inl ⟨_, _, _, rfl, effect_of_invoke hcall⟩
  | failed hcall => exact Or.inr (Or.inl ⟨⟨_, _, _, rfl⟩, rfl⟩)
  | outside tokens hpool => exact Or.inr (Or.inr ⟨rfl, tokens, hpool, rfl⟩)

/-! ### Running calls -/

/-- What the host makes of a call: it commits a success and rolls a failure back. -/
def perform (env : Env H) (auths : Finset Address) (call : Call) : Label × Env H :=
  match (invoke call).exec auths env with
  | .ok (value, env') => (.ok auths call value, env')
  | .error why => (.failed auths call why, env)

theorem step_perform (env : Env H) (auths : Finset Address) (call : Call) :
    Step env (perform env auths call).1 (perform env auths call).2 := by
  unfold perform
  split
  · rename_i hcall; exact .ok hcall
  · rename_i hcall; exact .failed hcall

theorem exec_of_perform {env : Env H} {auths : Finset Address} {call : Call} {value : Value}
    (h : (perform env auths call).1 = .ok auths call value) :
    (invoke call).exec auths env = .ok (value, (perform env auths call).2) := by
  unfold perform at h ⊢
  split at h
  · rename_i value' env' hcall
    cases h
    rw [hcall]
  · cases h

theorem step_of_perform {env : Env H} (auths : Finset Address) (call : Call) (value : Value)
    (h : (perform env auths call).1 = .ok auths call value) :
    Step env (.ok auths call value) (perform env auths call).2 :=
  h ▸ step_perform env auths call

/-- The history of a list of calls, each with the addresses that authorise it. -/
def performAll (env : Env H) : List (Finset Address × Call) → History H × Env H
  | [] => ([], env)
  | (auths, call) :: calls =>
      let (l, env') := perform env auths call
      let (h, env'') := performAll env' calls
      (⟨env, l, env'⟩ :: h, env'')

theorem run_performAll (env : Env H) (calls : List (Finset Address × Call)) :
    Run Step env (performAll env calls).1 (performAll env calls).2 := by
  induction calls generalizing env with
  | nil => exact .nil
  | cons c calls ih => exact (ih _).cons (step_perform env c.1 c.2)

theorem mem_performAll (env : Env H) (auths : Finset Address) (call : Call)
    (calls : List (Finset Address × Call)) :
    ⟨env, (perform env auths call).1, (perform env auths call).2⟩ ∈
      (performAll env ((auths, call) :: calls)).1 := by
  simp [performAll]

/-! ### The ledger of the contract's tests -/

namespace Setup

/-- One token in use, a plain one; the escrow is deployed at a contract address. -/
def host : Host := ⟨.contract 0, plainToken⟩

def admin : Address := .account 1
def gateway : Address := .account 2
def maintainer : Address := .account 3
def contributorWallet : Address := .account 4
def token : Address := .contract 5

/-- The maintainer holds 10 000 of the token, as after `mint`. -/
def tokens : Address → host.token.State := fun _ =>
  ⟨fun a => if a = maintainer then 10000 else 0, fun a => by
    by_cases ha : a = maintainer <;> simp [ha, i128Max]⟩

/-- The calls of `record_merge_pays_contributor`. -/
def calls : List (Finset Address × Call) :=
  [ ({admin}, .initialise admin gateway token),
    ({maintainer}, .createProgram maintainer "StellarRoute/WaveFlow" 100 none),
    ({maintainer}, .fund 1 maintainer 5000),
    ({maintainer}, .registerContributor 1 maintainer "alice-dev" contributorWallet),
    ({gateway}, .recordMerge gateway 1 "alice-dev" 42 3) ]

example : ((performAll (deploy tokens) calls).2.persistent.program 1).map Program.escrowBalance =
    some 4700 := by decide +kernel

end Setup

end WaveFlow.Escrow
