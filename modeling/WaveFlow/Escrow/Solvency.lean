import Mathlib.Algebra.Order.Group.Int
import WaveFlow.Escrow.Run
import WaveFlow.Library.KeyedStore

/-!
# Solvency

All programs share the contract's one balance of the token. `Solvent` says that this pool covers the
escrow of every program at once, and that no escrow is negative. It is kept by every step of a run
in which the contract's own address authorises nothing, also when a program is written over and in
the states before `initialise`, where no program can have been funded.
-/

namespace WaveFlow.Escrow

open Transition

variable {H : Host}

/-! ### The total escrow -/

/-- What a stored entry adds to the total escrow. -/
def escrowOf : ∀ k : DataKey, k.Val → ℤ
  | .program _, x => x.escrowBalance
  | .admin, _ | .gateway, _ | .token, _ | .programCounter, _ | .contributor _ _, _
  | .processedPr _ _, _ => 0

/-- The sum of `escrowBalance` over all stored programs. -/
def escrowTotal (s : Storage) : ℤ := KeyedStore.total escrowOf s

/-- The escrow of program `p`; nothing when there is no such program. -/
def escrowAt (s : Storage) (p : UInt64) : ℤ := (s.program p).elim 0 Program.escrowBalance

variable (s : Storage) (p : UInt64)

@[simp] theorem escrowTotal_empty : escrowTotal ∅ = 0 := KeyedStore.total_empty _

theorem escrowTotal_insert_program (x : Program) :
    escrowTotal (s.insert (.program p) x) = escrowTotal s - escrowAt s p + x.escrowBalance :=
  KeyedStore.total_insert escrowOf s (.program p) x

theorem weight_contributor (u : Symbol) :
    KeyedStore.weight escrowOf s (.contributor p u) = 0 := by
  unfold KeyedStore.weight
  cases s.lookup (.contributor p u) <;> rfl

theorem weight_processedPr (n : UInt64) :
    KeyedStore.weight escrowOf s (.processedPr p n) = 0 := by
  unfold KeyedStore.weight
  cases s.lookup (.processedPr p n) <;> rfl

@[simp] theorem escrowTotal_insert_contributor (u : Symbol) (c : Contributor) :
    escrowTotal (s.insert (.contributor p u) c) = escrowTotal s :=
  KeyedStore.total_insert_of_zero escrowOf s _ _ (weight_contributor s p u) rfl

@[simp] theorem escrowTotal_insert_processedPr (n : UInt64) (b : Bool) :
    escrowTotal (s.insert (.processedPr p n) b) = escrowTotal s :=
  KeyedStore.total_insert_of_zero escrowOf s _ _ (weight_processedPr s p n) rfl

variable {s p}

theorem escrowAt_of_program {x : Program} (hx : s.program p = some x) :
    escrowAt s p = x.escrowBalance := by simp [escrowAt, hx]

/-- Where no escrow is negative, none is more than all together. -/
theorem escrowAt_le_total (h : ∀ p x, s.program p = some x → 0 ≤ x.escrowBalance) (p : UInt64) :
    escrowAt s p ≤ escrowTotal s := by
  refine KeyedStore.weight_le_total escrowOf s (fun k => ?_) (.program p)
  unfold KeyedStore.weight
  cases hk : s.lookup k with
  | none => exact le_rfl
  | some v =>
    cases k with
    | program q => exact h q v hk
    | _ => exact le_rfl

theorem escrowTotal_eq_zero (h : ∀ p x, s.program p = some x → x.escrowBalance = 0) :
    escrowTotal s = 0 := by
  apply KeyedStore.total_eq_zero
  intro k v hk
  cases k with
  | program p => exact h p v hk
  | _ => rfl

/-! ### The pool -/

theorem pool_withTransfer (env : Env H) {token src dst : Address} {amount : ℤ}
    {st : H.token.State}
    (hpay : H.token.transfer (env.tokens token) src dst amount = some st) :
    (env.withTransfer token src dst amount st).pool token =
      moved (H.token.balance (env.tokens token)) src dst amount H.self := by
  simp [Env.pool, Env.withTransfer, H.token.transfer_moves hpay]

/-- A payment out of the pool lowers it by the amount, or not at all when it comes straight back. -/
theorem pool_payment (env : Env H) {token dst : Address} {amount : ℤ} {st : H.token.State}
    (hpay : H.token.transfer (env.tokens token) H.self dst amount = some st) :
    (env.withTransfer token H.self dst amount st).pool token =
      env.pool token - amount + (if H.self = dst then amount else 0) := by
  rw [pool_withTransfer env hpay]
  simp [moved, Env.pool]

/-- A deposit from another address raises the pool by the amount. -/
theorem pool_deposit (env : Env H) {token src : Address} {amount : ℤ} {st : H.token.State}
    (hsrc : src ≠ H.self)
    (hpay : H.token.transfer (env.tokens token) src H.self amount = some st) :
    (env.withTransfer token src H.self amount st).pool token = env.pool token + amount := by
  rw [pool_withTransfer env hpay]
  simp [moved, Env.pool, hsrc.symm]

/-! ### The invariant -/

/-- Every stored program pays a positive reward per point. -/
def PositiveRewards (s : Storage) : Prop := ∀ p x, s.program p = some x → 0 < x.rewardPerPoint

theorem PositiveRewards.insert (h : PositiveRewards s) {x : Program} (hx : 0 < x.rewardPerPoint) :
    PositiveRewards (s.insert (.program p) x) := by
  intro q y hy
  rw [Storage.program_insert_program] at hy
  split_ifs at hy with hq
  · cases hy; exact hx
  · exact h q y hy

theorem PositiveRewards.keep (h : PositiveRewards s) {x y : Program} (hx : s.program p = some x)
    (hy : y.rewardPerPoint = x.rewardPerPoint) : PositiveRewards (s.insert (.program p) y) :=
  h.insert (hy ▸ h p x hx)

theorem PositiveRewards.insert_processedPr (h : PositiveRewards s) (n : UInt64) (b : Bool) :
    PositiveRewards (s.insert (.processedPr p n) b) := by
  intro q y hy
  exact h q y (by simpa using hy)

theorem PositiveRewards.effect {env env' : Env H} {auths : Finset Address} {call : Call}
    {value : Value} (hpos : PositiveRewards env.persistent)
    (h : Effect auths env call value env') : PositiveRewards env'.persistent := by
  cases h with
  | initialise => exact hpos
  | createProgram hauth hreward => exact hpos.insert hreward
  | fund hauth hmin hx => exact hpos.keep hx rfl
  | registerContributor =>
    intro q y hy
    exact hpos q y (by simpa using hy)
  | recordMerge hauth hgateway hpoints hpr hx =>
    refine PositiveRewards.insert_processedPr ?_ _ _
    exact hpos.keep hx rfl
  | pause hauth hx => exact hpos.keep hx rfl
  | resume hauth hx => exact hpos.keep hx rfl
  | setRatio hauth hreward => exact hpos.insert hreward
  | withdrawNothing => exact hpos
  | withdrawRemaining hauth hx => exact hpos.keep hx rfl

theorem PositiveRewards.step {env env' : Env H} {l : Label}
    (hpos : PositiveRewards env.persistent) (hstep : Step env l env') :
    PositiveRewards env'.persistent := by
  rcases hstep.cases with ⟨auths, call, value, rfl, heff⟩ | ⟨-, rfl⟩ | ⟨-, tokens, -, rfl⟩
  · exact hpos.effect heff
  · exact hpos
  · exact hpos

/-- The pool covers all escrows together, none of which is negative; nothing is in escrow before
the token is set, and the token is not set before the admin. -/
structure Solvent (env : Env H) : Prop where
  nonneg : ∀ p x, env.persistent.program p = some x → 0 ≤ x.escrowBalance
  covered : ∀ token, env.instanceStorage.token = some token →
    escrowTotal env.persistent ≤ env.pool token
  unfunded : env.instanceStorage.token = none →
    ∀ p x, env.persistent.program p = some x → x.escrowBalance = 0
  tokenless : env.instanceStorage.admin = none → env.instanceStorage.token = none

theorem solvent_deploy (tokens : Address → H.token.State) : Solvent (deploy tokens) where
  nonneg p x hx := by simp [deploy] at hx
  covered token htoken := by simp [deploy, Storage.token] at htoken
  unfunded _ p x hx := by simp [deploy] at hx
  tokenless _ := by simp [deploy, Storage.token]

/-- Writing program `p` keeps solvency when the pool falls by no more than the escrow of `p`. -/
theorem Solvent.write {env env' : Env H} (hsolvent : Solvent env) {p : UInt64} {x : Program}
    (hadmin : env'.instanceStorage.admin = env.instanceStorage.admin)
    (htoken : env'.instanceStorage.token = env.instanceStorage.token)
    (hprogram : ∀ q, env'.persistent.program q = if q = p then some x else env.persistent.program q)
    (htotal : escrowTotal env'.persistent =
      escrowTotal env.persistent - escrowAt env.persistent p + x.escrowBalance)
    (hnonneg : 0 ≤ x.escrowBalance)
    (hunfunded : env.instanceStorage.token = none → x.escrowBalance = 0)
    (hpool : ∀ token, env.instanceStorage.token = some token →
      env.pool token + x.escrowBalance ≤ env'.pool token + escrowAt env.persistent p) :
    Solvent env' where
  nonneg q y hy := by
    rw [hprogram] at hy
    split_ifs at hy with hq
    · cases hy; exact hnonneg
    · exact hsolvent.nonneg q y hy
  covered token ht := by
    rw [htoken] at ht
    have hcovered := hsolvent.covered token ht
    have hmove := hpool token ht
    omega
  unfunded ht q y hy := by
    rw [htoken] at ht
    rw [hprogram] at hy
    split_ifs at hy with hq
    · cases hy; exact hunfunded ht
    · exact hsolvent.unfunded ht q y hy
  tokenless ha := by
    rw [hadmin] at ha
    exact htoken.trans (hsolvent.tokenless ha)

/-- Rewriting a program with the escrow it had keeps solvency. -/
theorem Solvent.keep {env : Env H} (hsolvent : Solvent env) {p : UInt64} {x y : Program}
    (events : List Event) (hx : env.persistent.program p = some x)
    (hy : y.escrowBalance = x.escrowBalance) :
    Solvent { env with persistent := env.persistent.insert (.program p) y, events } := by
  refine hsolvent.write rfl rfl (fun q => Storage.program_insert_program _ _ _ _)
    (escrowTotal_insert_program _ _ _) ?_ (fun ht => ?_) fun token _ => ?_
  · rw [hy]; exact hsolvent.nonneg p x hx
  · rw [hy]; exact hsolvent.unfunded ht p x hx
  · rw [hy, escrowAt_of_program hx]; exact le_rfl

/-- A payment out of the escrow of `p` keeps solvency, whoever receives it. -/
theorem Solvent.pay {env : Env H} (hsolvent : Solvent env) {p : UInt64} {x y : Program}
    {token dst : Address} {amount : ℤ} {st : H.token.State} {s : Storage} (events : List Event)
    (hx : env.persistent.program p = some x) (htoken : env.instanceStorage.token = some token)
    (hpay : H.token.transfer (env.tokens token) H.self dst amount = some st)
    (hpos : 0 ≤ amount) (hle : amount ≤ x.escrowBalance)
    (hy : y.escrowBalance = x.escrowBalance - amount)
    (hprogram : ∀ q, s.program q = if q = p then some y else env.persistent.program q)
    (htotal : escrowTotal s =
      escrowTotal env.persistent - escrowAt env.persistent p + y.escrowBalance) :
    Solvent { env.withTransfer token H.self dst amount st with persistent := s, events } := by
  refine hsolvent.write rfl rfl hprogram htotal (by omega) (fun h => ?_) fun t ht => ?_
  · rw [htoken] at h; cases h
  · obtain rfl : token = t := Option.some.inj (htoken.symm.trans ht)
    have hpool := pool_payment env hpay
    rw [escrowAt_of_program hx]
    simp only [Env.pool] at hpool ⊢
    split_ifs at hpool <;> omega

theorem minDeposit_le {amount : ℤ} (h : minDeposit ≤ amount) : 0 < amount := by
  unfold minDeposit at h; omega

theorem payout_pos {points : UInt32} {reward : ℤ} (hpoints : points ≠ 0) (hreward : 0 < reward) :
    0 < (points.toNat : ℤ) * reward := by
  have hne : points.toNat ≠ 0 := fun h => hpoints (UInt32.toNat_inj.1 (by simpa using h))
  exact Int.mul_pos (by omega) hreward

/-- A call that the contract itself does not authorise keeps solvency. -/
theorem Solvent.effect {env env' : Env H} {auths : Finset Address} {call : Call} {value : Value}
    (hsolvent : Solvent env) (hrewards : PositiveRewards env.persistent) (hself : H.self ∉ auths)
    (h : Effect auths env call value env') : Solvent env' := by
  cases h with
  | @initialise admin gateway token hnew hauth =>
    have hzero : escrowTotal env.persistent = 0 :=
      escrowTotal_eq_zero (hsolvent.unfunded (hsolvent.tokenless hnew))
    refine ⟨hsolvent.nonneg, fun token _ => ?_, fun ht => ?_, fun ha => ?_⟩
    · rw [hzero]; exact H.token.balance_nonneg _ _
    · simp at ht
    · simp at ha
  | @createProgram maintainer repo reward cap p hauth hreward hrepo hid =>
    refine hsolvent.write (by simp) (by simp) (fun q => Storage.program_insert_program _ _ _ _)
      (escrowTotal_insert_program _ _ _) le_rfl (fun _ => rfl) fun token htoken => ?_
    -- a program written over releases its escrow from the sum, never from the pool
    have hnonneg : 0 ≤ escrowAt env.persistent p := by
      unfold escrowAt
      cases hx : env.persistent.program p with
      | none => exact le_rfl
      | some x => exact hsolvent.nonneg p x hx
    simp only [Env.pool]
    omega
  | @fund p src amount x token st hauth hmin hx hsrc htoken hpay hrange =>
    have hne : src ≠ H.self := fun h => hself (h ▸ hauth)
    have hpos := minDeposit_le hmin
    have hnonneg := hsolvent.nonneg p x hx
    refine hsolvent.write rfl rfl (fun q => Storage.program_insert_program _ _ _ _)
      (escrowTotal_insert_program _ _ _) (by simp only; omega) (fun h => ?_) fun t ht => ?_
    · rw [htoken] at h; cases h
    · obtain rfl : token = t := Option.some.inj (htoken.symm.trans ht)
      have hpool := pool_deposit env hne hpay
      rw [escrowAt_of_program hx]
      simp only [Env.pool] at hpool ⊢
      omega
  | registerContributor hauth hx hcaller hnew =>
    refine ⟨fun q y hy => ?_, fun token ht => ?_, fun ht q y hy => ?_, hsolvent.tokenless⟩
    · exact hsolvent.nonneg q y (by simpa using hy)
    · exact (escrowTotal_insert_contributor _ _ _ _).trans_le (hsolvent.covered token ht)
    · exact hsolvent.unfunded ht q y (by simpa using hy)
  | @recordMerge gateway p user pr points x a token spent st hauth hgateway hpoints hpr hx hactive
      huser hrange hescrow hspent htoken hpay hrange' =>
    refine hsolvent.pay (y := { x with
        milestoneSpent := spent, escrowBalance := x.escrowBalance - points.toNat * x.rewardPerPoint })
      _ hx htoken hpay (payout_pos hpoints (hrewards p x hx)).le hescrow rfl (fun q => ?_) ?_
    · exact (Storage.program_insert_processedPr _ _ _ _ _).trans
        (Storage.program_insert_program _ _ _ _)
    · exact (escrowTotal_insert_processedPr _ _ _ _).trans (escrowTotal_insert_program _ _ _)
  | pause hauth hx => exact hsolvent.keep _ hx rfl
  | resume hauth hx => exact hsolvent.keep _ hx rfl
  | setRatio hauth hreward hx => exact hsolvent.keep _ hx rfl
  | withdrawNothing => exact hsolvent
  | withdrawRemaining hauth hx hmaintainer hpaused hpos htoken hpay =>
    exact hsolvent.pay _ hx htoken hpay hpos.le le_rfl (by simp)
      (fun q => Storage.program_insert_program _ _ _ _) (escrowTotal_insert_program _ _ _)

/-- Token movements outside the contract do not lower its pool, so they keep solvency. -/
theorem Solvent.outside {env : Env H} (hsolvent : Solvent env) {tokens : Address → H.token.State}
    (hpool : ∀ token, env.pool token ≤ H.token.balance (tokens token) H.self) :
    Solvent { env with tokens } where
  nonneg := hsolvent.nonneg
  covered token ht := (hsolvent.covered token ht).trans (hpool token)
  unfunded := hsolvent.unfunded
  tokenless := hsolvent.tokenless

theorem Solvent.step {env env' : Env H} {l : Label} (hsolvent : Solvent env)
    (hrewards : PositiveRewards env.persistent) (hself : H.self ∉ l.auths)
    (hstep : Step env l env') : Solvent env' := by
  rcases hstep.cases with ⟨auths, call, value, rfl, heff⟩ | ⟨-, rfl⟩ | ⟨-, tokens, hpool, rfl⟩
  · exact hsolvent.effect hrewards hself heff
  · exact hsolvent
  · exact hsolvent.outside hpool

/-- Every state of a run in which the contract authorises nothing is solvent. -/
theorem solvent_of_run {tokens : Address → H.token.State} {h : History H} {env : Env H}
    (hrun : Run Step (deploy tokens) h env) (hself : ∀ e ∈ h, H.self ∉ e.label.auths) :
    Solvent env ∧ PositiveRewards env.persistent :=
  (hrun.restrict (C := fun _ l => H.self ∉ l.auths) hself).invariant_state
    (fun env => Solvent env ∧ PositiveRewards env.persistent)
    ⟨solvent_deploy tokens, fun p x hx => by simp [deploy] at hx⟩
    (fun _ _ _ h hstep => ⟨h.1.step h.2 hstep.2 hstep.1, h.2.step hstep.1⟩)

/-- **Solvency.** In every reachable state no escrow is negative, and the contract's balance of the
stored token covers the sum of all escrows. -/
theorem pool_covers_escrow {tokens : Address → H.token.State} {h : History H} {env : Env H}
    (hrun : Run Step (deploy tokens) h env) (hself : ∀ e ∈ h, H.self ∉ e.label.auths) :
    (∀ p x, env.persistent.program p = some x → 0 ≤ x.escrowBalance) ∧
    ∀ token, env.instanceStorage.token = some token →
      escrowTotal env.persistent ≤ env.pool token := by
  obtain ⟨hsolvent, -⟩ := solvent_of_run hrun hself
  exact ⟨hsolvent.nonneg, hsolvent.covered⟩

theorem pool_covers_escrow_setup :
    let r := performAll (deploy Setup.tokens) Setup.calls
    (∀ p x, r.2.persistent.program p = some x → 0 ≤ x.escrowBalance) ∧
    ∀ token, r.2.instanceStorage.token = some token →
      escrowTotal r.2.persistent ≤ r.2.pool token :=
  pool_covers_escrow (run_performAll _ _) (by decide +kernel)

end WaveFlow.Escrow
