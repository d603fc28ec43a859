import WaveFlow.Escrow.Solvency

/-!
# The checks before a transfer are complete

Each of the three entry points that move tokens is its checks, one transfer and its booking, in that
order (`fund_eq`, `recordMerge_eq`, `withdrawRemaining_eq`). In a state of a run in which the contract
authorises nothing, the pool covers whatever `recordMerge` and `withdrawRemaining` pay, and the
booking of `fund` and `recordMerge` cannot fail any more once the transfer is made.
-/

namespace WaveFlow.Escrow

open Contract Transition

variable {H : Host} {env env₁ env₂ : Env H} {auths : Finset Address}

/-! ### Checks, transfer, booking -/

theorem Contract.bind_bind {α β γ : Type} (x : Contract H α) (f : α → Contract H β)
    (g : β → Contract H γ) : (x >>= f) >>= g = x >>= fun a => f a >>= g := by
  show Contract.mk _ = Contract.mk _
  congr 1
  funext auths env
  simp only [bind]
  cases x.exec auths env <;> rfl

/-- Make a transfer. -/
def Contract.pay (t : Transfer) : Contract H Unit := transfer t.token t.src t.dst t.amount

/-- `fund` up to its transfer: the program, and what it is paid. -/
def fundChecks (programId : UInt64) (src : Address) (amount : ℤ) :
    Contract H (Program × Transfer) := do
  requireAuth src
  failWhen (amount < minDeposit) .insufficientDeposit
  let program ← readProgram programId
  failWhen (program.maintainer ≠ src) .unauthorized
  let token ← readToken
  return (program, ⟨token, src, ← currentContractAddress, amount⟩)

/-- `fund` after its transfer. -/
def fundBooking (programId : UInt64) (program : Program) (amount : ℤ) : Contract H Unit := do
  let escrowBalance ← orFail (checkedAdd program.escrowBalance amount) .overflow
  writeProgram programId { program with escrowBalance }
  publish (.funded programId amount escrowBalance)

theorem fund_eq (programId : UInt64) (src : Address) (amount : ℤ) :
    (fund programId src amount : Contract H Unit) =
      fundChecks programId src amount >>= fun c =>
        pay c.2 >>= fun _ => fundBooking programId c.1 amount := by
  simp only [fund, fundChecks, bind_bind]
  rfl

/-- `recordMerge` up to its transfer: the program with its new milestone counter, and what it
pays. -/
def mergeChecks (gateway : Address) (programId : UInt64) (githubUsername : Symbol)
    (prNumber : UInt64) (points : UInt32) : Contract H (Program × Transfer) := do
  requireAuth gateway
  failWhen ((← readGateway) ≠ gateway) .unauthorized
  failWhen (points = 0) .invalidRatio
  failWhen (← isPrProcessed programId prNumber) .prAlreadyProcessed
  let program ← readProgram programId
  ofResult (requireActive program)
  let contributor ← readContributor programId githubUsername
  let payout ← orFail (checkedMul points.toNat program.rewardPerPoint) .overflow
  failWhen (program.escrowBalance < payout) .insufficientEscrow
  let milestoneSpent ← spendMilestone program payout
  let token ← readToken
  return ({ program with milestoneSpent },
    ⟨token, ← currentContractAddress, contributor.stellarAddress, payout⟩)

/-- `recordMerge` after its transfer of `payout`. -/
def mergeBooking (programId : UInt64) (githubUsername : Symbol) (prNumber : UInt64)
    (points : UInt32) (program : Program) (payout : ℤ) : Contract H ℤ := do
  let escrowBalance ← orFail (checkedSub program.escrowBalance payout) .overflow
  writeProgram programId { program with escrowBalance }
  markPrProcessed programId prNumber
  publish (.mergeRecorded programId githubUsername prNumber points payout)
  return payout

theorem recordMerge_eq (gateway : Address) (programId : UInt64) (githubUsername : Symbol)
    (prNumber : UInt64) (points : UInt32) :
    (recordMerge gateway programId githubUsername prNumber points : Contract H ℤ) =
      mergeChecks gateway programId githubUsername prNumber points >>= fun c =>
        pay c.2 >>= fun _ =>
          mergeBooking programId githubUsername prNumber points c.1 c.2.amount := by
  simp only [recordMerge, mergeChecks, bind_bind]
  rfl

/-- `withdrawRemaining` up to its transfer: the program, and what it pays if anything is left. -/
def withdrawChecks (programId : UInt64) (maintainer : Address) :
    Contract H (Program × Option Transfer) := do
  requireAuth maintainer
  let program ← readProgram programId
  failWhen (program.maintainer ≠ maintainer) .unauthorized
  failWhen (program.status ≠ .paused) .programNotPaused
  let amount := program.escrowBalance
  if amount ≤ 0 then
    return (program, none)
  else
    let token ← readToken
    return (program, some ⟨token, ← currentContractAddress, maintainer, amount⟩)

/-- `withdrawRemaining` after its transfer. -/
def withdrawBooking (programId : UInt64) (program : Program) : Contract H ℤ := do
  writeProgram programId { program with escrowBalance := 0 }
  return program.escrowBalance

theorem withdrawRemaining_eq (programId : UInt64) (maintainer : Address) :
    (withdrawRemaining programId maintainer : Contract H ℤ) =
      withdrawChecks programId maintainer >>= fun c =>
        c.2.elim (pure 0) fun t => pay t >>= fun _ => withdrawBooking programId c.1 := by
  simp only [withdrawRemaining, withdrawChecks, bind_bind]
  congr; funext _; congr; funext program; congr; funext _; congr; funext _
  split_ifs with hempty
  · rfl
  · simp only [bind_bind]
    rfl

/-! ### When the checks pass -/

section Passed

variable {p : UInt64} {x : Program} {t : Transfer}

theorem pay_ok {u : Unit} :
    (pay t).exec auths env = .ok (u, env₁) ↔
      ∃ st, H.token.transfer (env.tokens t.token) t.src t.dst t.amount = some st ∧
        env.withTransfer t.token t.src t.dst t.amount st = env₁ := by
  simp [pay]

theorem fundChecks_ok {src : Address} {amount : ℤ}
    (h : (fundChecks p src amount).exec auths env = .ok ((x, t), env₁)) :
    src ∈ auths ∧ minDeposit ≤ amount ∧ env.persistent.program p = some x ∧
      env.instanceStorage.token = some t.token ∧ t = ⟨t.token, src, H.self, amount⟩ ∧
      env₁ = env := by
  simp [fundChecks] at h
  obtain ⟨hauth, hmin, hx, -, token, htoken, rfl, rfl⟩ := h
  exact ⟨hauth, hmin, hx, htoken, rfl, rfl⟩

theorem mergeChecks_ok {gateway : Address} {user : Symbol} {pr : UInt64} {points : UInt32}
    (h : (mergeChecks gateway p user pr points).exec auths env = .ok ((x, t), env₁)) :
    ∃ y, env.persistent.program p = some y ∧ points ≠ 0 ∧
      t.amount = points.toNat * y.rewardPerPoint ∧ t.amount ≤ y.escrowBalance ∧
      x.escrowBalance = y.escrowBalance ∧ env.instanceStorage.token = some t.token ∧
      t.src = H.self ∧ env₁ = env := by
  simp [mergeChecks, checkedMul, spendMilestone_ok] at h
  obtain ⟨-, -, hpoints, -, y, hy, -, c, -, -, hescrow, spent, -, token, htoken, rfl, rfl, rfl⟩ := h
  exact ⟨y, hy, hpoints, rfl, hescrow, rfl, htoken, rfl, rfl⟩

theorem withdrawChecks_ok {maintainer : Address}
    (h : (withdrawChecks p maintainer).exec auths env = .ok ((x, some t), env₁)) :
    env.persistent.program p = some x ∧ t.amount = x.escrowBalance ∧
      env.instanceStorage.token = some t.token ∧ t.src = H.self ∧ env₁ = env := by
  simp [withdrawChecks] at h
  obtain ⟨-, y, hy, -, -, h⟩ := h
  split_ifs at h with hempty
  · simp at h
  · simp at h
    obtain ⟨token, htoken, rfl, rfl, rfl⟩ := h
    exact ⟨hy, rfl, htoken, rfl, rfl⟩

end Passed

/-! ### In a solvent state -/

/-- The pool covers the escrow of every one program. -/
theorem Solvent.escrow_le_pool (hsolvent : Solvent env) {p : UInt64} {x : Program} {token : Address}
    (hx : env.persistent.program p = some x) (htoken : env.instanceStorage.token = some token) :
    x.escrowBalance ≤ env.pool token := by
  have hle := escrowAt_le_total hsolvent.nonneg p
  rw [escrowAt_of_program hx] at hle
  exact hle.trans (hsolvent.covered token htoken)

theorem inI128_of_le {n m : ℤ} (hn : 0 ≤ n) (hnm : n ≤ m) (hm : m ≤ i128Max) : InI128 n :=
  ⟨(show i128Min ≤ 0 by decide).trans hn, hnm.trans hm⟩

/-- A deposit that the token accepted fits the escrow it is added to. -/
theorem Solvent.fundBooking_ok (hsolvent : Solvent env) (hself : H.self ∉ auths) {p : UInt64}
    {src : Address} {amount : ℤ} {x : Program} {t : Transfer} {u : Unit}
    (hchecks : (fundChecks p src amount).exec auths env = .ok ((x, t), env₁))
    (hpay : (Contract.pay t).exec auths env₁ = .ok (u, env₂)) :
    ∃ r, (fundBooking p x amount).exec auths env₂ = .ok r := by
  obtain ⟨hauth, hmin, hx, htoken, ht, rfl⟩ := fundChecks_ok hchecks
  obtain ⟨st, hst, rfl⟩ := pay_ok.1 hpay
  rw [ht] at hst
  have hne : src ≠ H.self := fun h => hself (h ▸ hauth)
  have hescrow := hsolvent.escrow_le_pool hx htoken
  have hpool := pool_deposit env₁ hne hst
  have hmax : env₁.pool t.token + amount ≤ i128Max := by
    rw [← hpool]
    exact H.token.balance_le_max _ _
  have hnonneg := hsolvent.nonneg p x hx
  have hpos := minDeposit_le hmin
  have hrange : InI128 (x.escrowBalance + amount) :=
    inI128_of_le (by omega) (add_le_add_left hescrow amount) hmax
  exact ⟨_, by simp [fundBooking, checkedAdd, hrange, writeProgram]; rfl⟩

/-- What a merge pays is covered by the pool, and by the escrow it is taken from. -/
theorem Solvent.mergeChecks_covered (hsolvent : Solvent env)
    (hrewards : PositiveRewards env.persistent) {gateway : Address} {p : UInt64} {user : Symbol}
    {pr : UInt64} {points : UInt32} {x : Program} {t : Transfer}
    (hchecks : (mergeChecks gateway p user pr points).exec auths env = .ok ((x, t), env₁)) :
    t.src = H.self ∧ t.amount ≤ env₁.pool t.token ∧ ∀ u env₂,
      (Contract.pay t).exec auths env₁ = .ok (u, env₂) →
      ∃ r, (mergeBooking p user pr points x t.amount).exec auths env₂ = .ok r := by
  obtain ⟨y, hy, hpoints, hamount, hescrow, hxy, htoken, hsrc, rfl⟩ := mergeChecks_ok hchecks
  have hpool := hsolvent.escrow_le_pool hy htoken
  refine ⟨hsrc, hescrow.trans hpool, fun u env₂ _ => ?_⟩
  have hpos := payout_pos hpoints (hrewards p y hy)
  have hmax : env₁.pool t.token ≤ i128Max := H.token.balance_le_max _ _
  have hrange : InI128 (x.escrowBalance - t.amount) :=
    inI128_of_le (m := x.escrowBalance) (by omega) (by omega) (by omega)
  exact ⟨_, by simp [mergeBooking, checkedSub, hrange, writeProgram, markPrProcessed]; rfl⟩

/-- What a withdrawal pays is covered by the pool. -/
theorem Solvent.withdrawChecks_covered (hsolvent : Solvent env) {p : UInt64} {maintainer : Address}
    {x : Program} {t : Transfer}
    (hchecks : (withdrawChecks p maintainer).exec auths env = .ok ((x, some t), env₁)) :
    t.src = H.self ∧ t.amount ≤ env₁.pool t.token := by
  obtain ⟨hx, hamount, htoken, hsrc, rfl⟩ := withdrawChecks_ok hchecks
  exact ⟨hsrc, hamount ▸ hsolvent.escrow_le_pool hx htoken⟩

/-- **The checks before a transfer are complete.** Each entry point is its checks, its transfer and
its booking. In every reachable state, when `recordMerge` or `withdrawRemaining` reaches its transfer
the pool covers the amount, and once `fund` or `recordMerge` has made its transfer the rest of the
call succeeds. -/
theorem checks_complete {tokens : Address → H.token.State} {h : History H}
    (hrun : Run Step (deploy tokens) h env) (hself : ∀ e ∈ h, H.self ∉ e.label.auths)
    (hauths : H.self ∉ auths) :
    (∀ p src amount,
      (fund p src amount : Contract H Unit) =
        (fundChecks p src amount >>= fun c => pay c.2 >>= fun _ => fundBooking p c.1 amount) ∧
      ∀ x t u env₁ env₂, (fundChecks p src amount).exec auths env = .ok ((x, t), env₁) →
        (pay t).exec auths env₁ = .ok (u, env₂) →
        ∃ r, (fundBooking p x amount).exec auths env₂ = .ok r) ∧
    (∀ gateway p user pr points,
      (recordMerge gateway p user pr points : Contract H ℤ) =
        (mergeChecks gateway p user pr points >>= fun c =>
          pay c.2 >>= fun _ => mergeBooking p user pr points c.1 c.2.amount) ∧
      ∀ x t env₁, (mergeChecks gateway p user pr points).exec auths env = .ok ((x, t), env₁) →
        t.src = H.self ∧ t.amount ≤ env₁.pool t.token ∧
        ∀ u env₂, (pay t).exec auths env₁ = .ok (u, env₂) →
          ∃ r, (mergeBooking p user pr points x t.amount).exec auths env₂ = .ok r) ∧
    (∀ p maintainer,
      (withdrawRemaining p maintainer : Contract H ℤ) =
        (withdrawChecks p maintainer >>= fun c =>
          c.2.elim (pure 0) fun t => pay t >>= fun _ => withdrawBooking p c.1) ∧
      ∀ x t env₁, (withdrawChecks p maintainer).exec auths env = .ok ((x, some t), env₁) →
        t.src = H.self ∧ t.amount ≤ env₁.pool t.token) := by
  obtain ⟨hsolvent, hrewards⟩ := solvent_of_run hrun hself
  refine ⟨fun p src amount => ⟨fund_eq p src amount, fun x t u env₁ env₂ hchecks hpay => ?_⟩,
    fun gateway p user pr points =>
      ⟨recordMerge_eq gateway p user pr points, fun x t env₁ hchecks => ?_⟩,
    fun p maintainer => ⟨withdrawRemaining_eq p maintainer, fun x t env₁ hchecks => ?_⟩⟩
  · exact hsolvent.fundBooking_ok hauths hchecks hpay
  · exact hsolvent.mergeChecks_covered hrewards hchecks
  · exact hsolvent.withdrawChecks_covered hchecks

theorem checks_complete_setup :
    let env := (performAll (deploy Setup.tokens) (Setup.calls.take 4)).2
    ∀ gateway p user pr points x t env₁,
      (mergeChecks gateway p user pr points).exec {Setup.gateway} env = .ok ((x, t), env₁) →
      t.src = Setup.host.self ∧ t.amount ≤ env₁.pool t.token ∧
      ∀ u env₂, (pay t).exec {Setup.gateway} env₁ = .ok (u, env₂) →
        ∃ r, (mergeBooking p user pr points x t.amount).exec {Setup.gateway} env₂ = .ok r :=
  fun gateway p user pr points =>
    ((checks_complete (run_performAll _ (Setup.calls.take 4)) (by decide +kernel)
      (by decide +kernel)).2.1 gateway p user pr points).2

end WaveFlow.Escrow
