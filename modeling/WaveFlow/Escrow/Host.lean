import WaveFlow.Escrow.Types

/-!
# The Soroban host, as the contract sees it

* `Sep41`: a token contract, given by its balances and its `transfer`. Nothing else is assumed of
  it than that balances are non-negative `i128`s and that a transfer that succeeds was covered and
  moved exactly its amount; it may fail for reasons of its own.
* `Host`: the address of the deployed contract and the token code of the ledger.
* `Env`: everything a call can read and change. Tokens are contracts of their own, so `tokens` gives
  the state of the token at every address.
* `Contract`: a computation of the contract. It reads the addresses that authorise the invocation
  and the environment, and fails or returns a value and a new environment. A failure carries no
  environment: the host rolls the call back.

Every operation that can fail or write has its inversion lemma, `..._ok`: when it succeeds and
what it then does.
-/

namespace WaveFlow.Escrow

/-- The balances after `amount` moved from `src` to `dst`. -/
def moved (balance : Address → ℤ) (src dst : Address) (amount : ℤ) (a : Address) : ℤ :=
  balance a - (if a = src then amount else 0) + (if a = dst then amount else 0)

/-- The code of a SEP-41 token. -/
structure Sep41 where
  State : Type
  balance : State → Address → ℤ
  transfer : State → Address → Address → ℤ → Option State
  balance_nonneg : ∀ st a, 0 ≤ balance st a
  balance_le_max : ∀ st a, balance st a ≤ i128Max
  transfer_covered : ∀ {st src dst amount st'}, transfer st src dst amount = some st' →
    amount ≤ balance st src
  transfer_moves : ∀ {st src dst amount st'}, transfer st src dst amount = some st' →
    ∀ a, balance st' a = moved (balance st) src dst amount a

/-- Balances an `i128` can hold. -/
def BalanceTable : Type := { balance : Address → ℤ // ∀ a, 0 ≤ balance a ∧ balance a ≤ i128Max }

theorem moved_mem {balance : Address → ℤ} (h : ∀ a, 0 ≤ balance a ∧ balance a ≤ i128Max)
    {src dst : Address} {amount : ℤ} (hpos : 0 ≤ amount) (hsrc : amount ≤ balance src)
    (hdst : moved balance src dst amount dst ≤ i128Max) (a : Address) :
    0 ≤ moved balance src dst amount a ∧ moved balance src dst amount a ≤ i128Max := by
  have ha := h a
  by_cases hd : a = dst
  · subst hd
    refine ⟨?_, hdst⟩
    simp only [moved, if_true]
    split_ifs with hs
    · omega
    · omega
  · simp only [moved, if_neg hd]
    split_ifs with hs
    · subst hs; omega
    · omega

/-- The plain token: a table of balances, and a transfer that fails only for a negative amount, for
lack of funds, or when the receiver's balance would overflow. -/
def plainToken : Sep41 where
  State := BalanceTable
  balance st := st.1
  transfer st src dst amount :=
    if h : 0 ≤ amount ∧ amount ≤ st.1 src ∧ moved st.1 src dst amount dst ≤ i128Max then
      some ⟨moved st.1 src dst amount, moved_mem st.2 h.1 h.2.1 h.2.2⟩
    else none
  balance_nonneg st a := (st.2 a).1
  balance_le_max st a := (st.2 a).2
  transfer_covered h := by
    split_ifs at h with hok
    exact hok.2.1
  transfer_moves h := by
    split_ifs at h with hok
    cases h
    exact fun _ => rfl

/-- A deployment: the contract's own address, and the token code. -/
structure Host where
  self : Address
  token : Sep41

/-- The event a SEP-41 token publishes for a transfer. -/
structure Transfer where
  token : Address
  src : Address
  dst : Address
  amount : ℤ
  deriving DecidableEq

/-- The environment of a call. -/
structure Env (H : Host) where
  instanceStorage : Storage
  persistent : Storage
  tokens : Address → H.token.State
  transfers : List Transfer
  events : List Event

/-- The contract right after its deployment, on a ledger with the given tokens. -/
def deploy {H : Host} (tokens : Address → H.token.State) : Env H where
  instanceStorage := ∅
  persistent := ∅
  tokens := tokens
  transfers := []
  events := []

/-- The contract's own balance of the token at `token`. -/
def Env.pool {H : Host} (env : Env H) (token : Address) : ℤ :=
  H.token.balance (env.tokens token) H.self

/-- The environment after the token at `token`, now in state `st`, moved `amount`. -/
def Env.withTransfer {H : Host} (env : Env H) (token src dst : Address) (amount : ℤ)
    (st : H.token.State) : Env H :=
  { env with
    tokens := Function.update env.tokens token st
    transfers := env.transfers ++ [⟨token, src, dst, amount⟩] }

/-- A computation of the contract. -/
structure Contract (H : Host) (α : Type) where
  exec : Finset Address → Env H → Except Failure (α × Env H)

namespace Contract

variable {H : Host} {α β : Type} {auths : Finset Address} {env env' : Env H}

instance : Monad (Contract H) where
  pure a := ⟨fun _ env => .ok (a, env)⟩
  bind x f := ⟨fun auths env =>
    match x.exec auths env with
    | .error e => .error e
    | .ok (a, env₁) => (f a).exec auths env₁⟩

@[simp] theorem pure_ok {a b : α} :
    (pure a : Contract H α).exec auths env = .ok (b, env') ↔ a = b ∧ env = env' := by
  simp [pure]

@[simp] theorem bind_ok {x : Contract H α} {f : α → Contract H β} {r : β × Env H} :
    (x >>= f).exec auths env = .ok r ↔
      ∃ a env₁, x.exec auths env = .ok (a, env₁) ∧ (f a).exec auths env₁ = .ok r := by
  simp only [bind]
  cases x.exec auths env with
  | error e => simp
  | ok p => obtain ⟨a, env₁⟩ := p; simp

/-- `return Err(e)`. -/
def fail (e : ContractError) : Contract H α := ⟨fun _ _ => .error (.error e)⟩

@[simp] theorem fail_ok {e : ContractError} {r : α × Env H} :
    (fail e : Contract H α).exec auths env = .ok r ↔ False := by simp [fail]

/-- `if c { return Err(e) }`. -/
def failWhen (c : Prop) [Decidable c] (e : ContractError) : Contract H Unit :=
  if c then fail e else pure ()

@[simp] theorem failWhen_ok {c : Prop} [Decidable c] {e : ContractError} {u : Unit} :
    (failWhen c e : Contract H Unit).exec auths env = .ok (u, env') ↔ ¬ c ∧ env = env' := by
  unfold failWhen; split_ifs with h <;> simp [h]

/-- The operator `?` on a `Result`. -/
def ofResult : Except ContractError α → Contract H α
  | .ok a => pure a
  | .error e => fail e

@[simp] theorem ofResult_ok {x : Except ContractError α} {a : α} :
    (ofResult x : Contract H α).exec auths env = .ok (a, env') ↔ x = .ok a ∧ env = env' := by
  cases x <;> simp [ofResult]

/-- `.ok_or(e)?`. -/
def orFail (x : Option α) (e : ContractError) : Contract H α :=
  match x with
  | some a => pure a
  | none => fail e

@[simp] theorem orFail_ok {x : Option α} {e : ContractError} {a : α} :
    (orFail x e : Contract H α).exec auths env = .ok (a, env') ↔ x = some a ∧ env = env' := by
  cases x <;> simp [orFail]

/-- A host function that traps when it has no result. -/
def orTrap (x : Option α) : Contract H α :=
  ⟨fun _ env => match x with
    | some a => .ok (a, env)
    | none => .error .trap⟩

@[simp] theorem orTrap_ok {x : Option α} {a : α} :
    (orTrap x : Contract H α).exec auths env = .ok (a, env') ↔ x = some a ∧ env = env' := by
  cases x <;> simp [orTrap]

/-- `address.require_auth()`. -/
def requireAuth (a : Address) : Contract H Unit :=
  ⟨fun auths env => if a ∈ auths then .ok ((), env) else .error .trap⟩

@[simp] theorem requireAuth_ok {a : Address} {u : Unit} :
    (requireAuth a : Contract H Unit).exec auths env = .ok (u, env') ↔ a ∈ auths ∧ env = env' := by
  by_cases h : a ∈ auths <;> simp [requireAuth, h]

/-- `env.storage().instance().get(&key)`. -/
def instanceGet (k : DataKey) : Contract H (Option k.Val) :=
  ⟨fun _ env => .ok (env.instanceStorage.lookup k, env)⟩

/-- `env.storage().instance().set(&key, &value)`. -/
def instanceSet (k : DataKey) (v : k.Val) : Contract H Unit :=
  ⟨fun _ env => .ok ((), { env with instanceStorage := env.instanceStorage.insert k v })⟩

@[simp] theorem instanceSet_ok {k : DataKey} {v : k.Val} {u : Unit} :
    (instanceSet k v : Contract H Unit).exec auths env = .ok (u, env') ↔
      { env with instanceStorage := env.instanceStorage.insert k v } = env' := by simp [instanceSet]

/-- `env.storage().persistent().get(&key)`. -/
def persistentGet (k : DataKey) : Contract H (Option k.Val) :=
  ⟨fun _ env => .ok (env.persistent.lookup k, env)⟩

/-- `env.storage().persistent().set(&key, &value)`. -/
def persistentSet (k : DataKey) (v : k.Val) : Contract H Unit :=
  ⟨fun _ env => .ok ((), { env with persistent := env.persistent.insert k v })⟩

@[simp] theorem persistentSet_ok {k : DataKey} {v : k.Val} {u : Unit} :
    (persistentSet k v : Contract H Unit).exec auths env = .ok (u, env') ↔
      { env with persistent := env.persistent.insert k v } = env' := by simp [persistentSet]

/-- `env.events().publish(..)`. -/
def publish (ev : Event) : Contract H Unit :=
  ⟨fun _ env => .ok ((), { env with events := env.events ++ [ev] })⟩

@[simp] theorem publish_ok {ev : Event} {u : Unit} :
    (publish ev : Contract H Unit).exec auths env = .ok (u, env') ↔
      { env with events := env.events ++ [ev] } = env' := by simp [publish]

/-- `env.current_contract_address()`. -/
def currentContractAddress : Contract H Address := pure H.self

@[simp] theorem currentContractAddress_ok {a : Address} :
    (currentContractAddress : Contract H Address).exec auths env = .ok (a, env') ↔
      H.self = a ∧ env = env' := by simp [currentContractAddress]

/-- `TokenClient::new(&env, &token).transfer(&src, &dst, &amount)`. -/
def transfer (token src dst : Address) (amount : ℤ) : Contract H Unit :=
  ⟨fun _ env => match H.token.transfer (env.tokens token) src dst amount with
    | some st => .ok ((), env.withTransfer token src dst amount st)
    | none => .error .trap⟩

@[simp] theorem transfer_ok {token src dst : Address} {amount : ℤ} {u : Unit} :
    (transfer token src dst amount : Contract H Unit).exec auths env = .ok (u, env') ↔
      ∃ st, H.token.transfer (env.tokens token) src dst amount = some st ∧
        env.withTransfer token src dst amount st = env' := by
  cases h : H.token.transfer (env.tokens token) src dst amount <;> simp [transfer, h]

end Contract

end WaveFlow.Escrow
