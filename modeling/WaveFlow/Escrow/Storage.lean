import WaveFlow.Escrow.Host

/-!
# Storage keys and typed accessors

`storage.rs`. The functions of the first section read a storage area directly; the accessors after
it are the contract's own. Writes to one key leave the others alone, so `program`, `contributor`
and `processedPr` of a written storage are computed by `simp`.
-/

namespace WaveFlow.Escrow

/-! ### Reading a storage area -/

namespace Storage

def admin (s : Storage) : Option Address := s.lookup .admin

def gateway (s : Storage) : Option Address := s.lookup .gateway

def token (s : Storage) : Option Address := s.lookup .token

def programCounter (s : Storage) : Option UInt64 := s.lookup .programCounter

def program (s : Storage) (id : UInt64) : Option Program := s.lookup (.program id)

def contributor (s : Storage) (id : UInt64) (user : Symbol) : Option Contributor :=
  s.lookup (.contributor id user)

def processedPr (s : Storage) (id pr : UInt64) : Option Bool := s.lookup (.processedPr id pr)

variable (s : Storage) (p q n m : UInt64) (u v : Symbol)

@[simp] theorem program_empty : program ∅ p = none := rfl
@[simp] theorem contributor_empty : contributor ∅ p u = none := rfl
@[simp] theorem processedPr_empty : processedPr ∅ p n = none := rfl

section Writes

variable (x : Program) (c : Contributor) (b : Bool)

theorem program_insert_program :
    program (s.insert (.program p) x) q = if q = p then some x else program s q := by
  split_ifs with h
  · subst h; simp [program]
  · simp [program, Finmap.lookup_insert_of_ne, h]

@[simp] theorem program_insert_self : program (s.insert (.program p) x) p = some x := by
  simp [program]

@[simp] theorem program_insert_contributor :
    program (s.insert (.contributor p u) c) q = program s q := by
  simp [program, Finmap.lookup_insert_of_ne]

@[simp] theorem program_insert_processedPr :
    program (s.insert (.processedPr p n) b) q = program s q := by
  simp [program, Finmap.lookup_insert_of_ne]

@[simp] theorem contributor_insert_program :
    contributor (s.insert (.program p) x) q v = contributor s q v := by
  simp [contributor, Finmap.lookup_insert_of_ne]

theorem contributor_insert_contributor :
    contributor (s.insert (.contributor p u) c) q v =
      if q = p ∧ v = u then some c else contributor s q v := by
  split_ifs with h
  · obtain ⟨rfl, rfl⟩ := h; simp [contributor]
  · rw [contributor, Finmap.lookup_insert_of_ne _ (by simpa using h)]; rfl

@[simp] theorem contributor_insert_processedPr :
    contributor (s.insert (.processedPr p n) b) q v = contributor s q v := by
  simp [contributor, Finmap.lookup_insert_of_ne]

@[simp] theorem processedPr_insert_program :
    processedPr (s.insert (.program p) x) q n = processedPr s q n := by
  simp [processedPr, Finmap.lookup_insert_of_ne]

@[simp] theorem processedPr_insert_contributor :
    processedPr (s.insert (.contributor p u) c) q n = processedPr s q n := by
  simp [processedPr, Finmap.lookup_insert_of_ne]

theorem processedPr_insert_processedPr :
    processedPr (s.insert (.processedPr p n) b) q m =
      if q = p ∧ m = n then some b else processedPr s q m := by
  split_ifs with h
  · obtain ⟨rfl, rfl⟩ := h; simp [processedPr]
  · rw [processedPr, Finmap.lookup_insert_of_ne _ (by simpa using h)]; rfl

end Writes

/-- The instance storage that `initialise` leaves behind. -/
def bootstrap (s : Storage) (admin gateway token : Address) : Storage :=
  (((s.insert .admin admin).insert .gateway gateway).insert .token token).insert .programCounter
    (0 : UInt64)

section Bootstrap

variable (a g t : Address)

@[simp] theorem admin_bootstrap : admin (s.bootstrap a g t) = some a := by
  simp [admin, bootstrap, Finmap.lookup_insert_of_ne]

@[simp] theorem gateway_bootstrap : gateway (s.bootstrap a g t) = some g := by
  simp [gateway, bootstrap, Finmap.lookup_insert_of_ne]

@[simp] theorem token_bootstrap : token (s.bootstrap a g t) = some t := by
  simp [token, bootstrap, Finmap.lookup_insert_of_ne]

end Bootstrap

section Counter

@[simp] theorem admin_insert_programCounter :
    admin (s.insert .programCounter n) = admin s := by
  simp [admin, Finmap.lookup_insert_of_ne]

@[simp] theorem gateway_insert_programCounter :
    gateway (s.insert .programCounter n) = gateway s := by
  simp [gateway, Finmap.lookup_insert_of_ne]

@[simp] theorem token_insert_programCounter :
    token (s.insert .programCounter n) = token s := by
  simp [token, Finmap.lookup_insert_of_ne]

@[simp] theorem programCounter_insert_programCounter :
    programCounter (s.insert .programCounter n) = some n := by simp [programCounter]

end Counter

end Storage

/-! ### The contract's accessors -/

open Contract

variable {H : Host} {auths : Finset Address} {env env' : Env H}

def readAdmin : Contract H Address := do
  orFail (← instanceGet .admin) .notInitialized

def readGateway : Contract H Address := do
  orFail (← instanceGet .gateway) .notInitialized

def readToken : Contract H Address := do
  orFail (← instanceGet .token) .notInitialized

def readProgram (programId : UInt64) : Contract H Program := do
  orFail (← persistentGet (.program programId)) .programNotFound

def writeProgram (programId : UInt64) (program : Program) : Contract H Unit :=
  persistentSet (.program programId) program

/-- `u64` addition that traps, as with the `overflow-checks` of the contract's manifest. A build from
the workspace root does not read that profile, and wraps; only the creation after `2 ^ 64 - 1` others
would tell the two apart. -/
def addU64 (a b : UInt64) : Option UInt64 :=
  if a.toNat + b.toNat < 2 ^ 64 then some (a + b) else none

def nextProgramId : Contract H UInt64 := do
  let current : UInt64 := (← instanceGet .programCounter).getD 0
  let next ← orTrap (addU64 current 1)
  instanceSet .programCounter next
  return next

def isPrProcessed (programId prNumber : UInt64) : Contract H Bool := do
  return (← persistentGet (.processedPr programId prNumber)).getD false

def markPrProcessed (programId prNumber : UInt64) : Contract H Unit :=
  persistentSet (.processedPr programId prNumber) true

def readContributor (programId : UInt64) (githubUsername : Symbol) : Contract H Contributor := do
  orFail (← persistentGet (.contributor programId githubUsername)) .contributorNotFound

def writeContributor (programId : UInt64) (githubUsername : Symbol) (contributor : Contributor) :
    Contract H Unit :=
  persistentSet (.contributor programId githubUsername) contributor

/-- `b'/'`. -/
def slash : UInt8 := 47

def validateRepo (repo : Symbol) : Except ContractError Unit :=
  let bytes := repo.toUTF8.data.toList
  let slashCount := (bytes.filter (· == slash)).length
  if slashCount ≠ 1 ∨ bytes.isEmpty ∨ bytes.head? = some slash ∨ bytes.getLast? = some slash then
    .error .invalidRepo
  else .ok ()

def requireActive (program : Program) : Except ContractError Unit :=
  if program.status = .paused then .error .programPaused else .ok ()

@[simp] theorem readAdmin_ok {a : Address} :
    (readAdmin : Contract H _).exec auths env = .ok (a, env') ↔
      env.instanceStorage.admin = some a ∧ env = env' := by
  simp [readAdmin, instanceGet, Storage.admin]

@[simp] theorem readGateway_ok {a : Address} :
    (readGateway : Contract H _).exec auths env = .ok (a, env') ↔
      env.instanceStorage.gateway = some a ∧ env = env' := by
  simp [readGateway, instanceGet, Storage.gateway]

@[simp] theorem readToken_ok {a : Address} :
    (readToken : Contract H _).exec auths env = .ok (a, env') ↔
      env.instanceStorage.token = some a ∧ env = env' := by
  simp [readToken, instanceGet, Storage.token]

@[simp] theorem readProgram_ok {p : UInt64} {x : Program} :
    (readProgram p : Contract H _).exec auths env = .ok (x, env') ↔
      env.persistent.program p = some x ∧ env = env' := by
  simp [readProgram, persistentGet, Storage.program]

@[simp] theorem isPrProcessed_ok {p n : UInt64} {b : Bool} :
    (isPrProcessed p n : Contract H _).exec auths env = .ok (b, env') ↔
      (env.persistent.processedPr p n).getD false = b ∧ env = env' := by
  simp [isPrProcessed, persistentGet, Storage.processedPr, and_comm]

@[simp] theorem readContributor_ok {p : UInt64} {u : Symbol} {c : Contributor} :
    (readContributor p u : Contract H _).exec auths env = .ok (c, env') ↔
      env.persistent.contributor p u = some c ∧ env = env' := by
  simp [readContributor, persistentGet, Storage.contributor]

theorem addU64_eq_some {a b c : UInt64} :
    addU64 a b = some c ↔ a.toNat + b.toNat < 2 ^ 64 ∧ a + b = c := by
  unfold addU64; split_ifs with h
  · simp only [Option.some.injEq, h, true_and]
  · simp only [h, false_and]

/-- A fresh id is one more than the counter, which it replaces. -/
@[simp] theorem nextProgramId_ok {p : UInt64} :
    (nextProgramId : Contract H _).exec auths env = .ok (p, env') ↔
      addU64 (env.instanceStorage.programCounter.getD 0) 1 = some p ∧
      { env with instanceStorage := env.instanceStorage.insert .programCounter p } = env' := by
  simp [nextProgramId, instanceGet, Storage.programCounter]

@[simp] theorem requireActive_ok {x : Program} :
    requireActive x = .ok () ↔ x.status = .active := by
  unfold requireActive
  cases x.status <;> simp

end WaveFlow.Escrow
