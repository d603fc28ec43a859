import WaveFlow.Escrow.MergeOrder
import WaveFlow.Library.Component

/-!
# The account of a program

What the escrow contract is for, said without the contract: every program has an account, and here
is what can be done to one. There are no other programs, no tokens and no authorisations, and
amounts are plain integers. `Operation.apply` gives for each operation when it is allowed, what it
pays out and the account it leaves; before its creation a program has the account
`Account.unopened`.

* `Account.Extends`: what an account never loses or changes, whatever is done to it;
* `processed_of_replay`: a pull request is marked exactly when it was paid.
-/

namespace WaveFlow.Escrow

open Transition

/-- What is kept for one program. -/
@[ext] structure Account where
  program : Option Program
  contributor : Symbol → Option Contributor
  processed : UInt64 → Bool

namespace Account

/-- Nothing was stored yet. -/
def unopened : Account := ⟨none, fun _ => none, fun _ => false⟩

def withProgram (a : Account) (x : Program) : Account := { a with program := some x }

def withContributor (a : Account) (user : Symbol) (c : Contributor) : Account :=
  { a with contributor := Function.update a.contributor user (some c) }

def mark (a : Account) (pr : UInt64) : Account :=
  { a with processed := Function.update a.processed pr true }

/-- The program, if this is its maintainer. -/
def maintainedBy (a : Account) (m : Address) : Option Program :=
  a.program.filter fun x => x.maintainer = m

theorem maintainedBy_eq_some {a : Account} {m : Address} {x : Program} :
    a.maintainedBy m = some x ↔ a.program = some x ∧ x.maintainer = m := by
  simp [maintainedBy, Option.filter_eq_some_iff]

end Account

/-! ### Operations -/

inductive Operation
  | create (maintainer : Address) (githubRepo : Symbol) (rewardPerPoint : ℤ)
      (milestoneCap : Option ℤ)
  | fund (maintainer : Address) (amount : ℤ)
  | register (maintainer : Address) (githubUsername : Symbol) (stellarAddress : Address)
  | payOut (githubUsername : Symbol) (prNumber : UInt64) (points : UInt32)
  | setStatus (maintainer : Address) (status : ProgramStatus)
  | setRatio (maintainer : Address) (rewardPerPoint : ℤ)
  | withdraw (maintainer : Address)
  deriving DecidableEq

/-- The program can pay `amount`: it is active, the escrow covers it, and it stays below the cap. -/
def Program.Pays (x : Program) (amount : ℤ) : Prop :=
  x.status = .active ∧ amount ≤ x.escrowBalance ∧
    x.milestoneCap.all fun cap => x.milestoneSpent + amount ≤ cap

instance (x : Program) (amount : ℤ) : Decidable (x.Pays amount) :=
  inferInstanceAs (Decidable (_ ∧ _ ∧ _))

/-- What an operation pays out of the account, and the account it leaves, where it is allowed. -/
def Operation.apply (a : Account) : Operation → Option (ℤ × Account)
  | .create maintainer githubRepo rewardPerPoint milestoneCap =>
      if a.program = none ∧ 0 < rewardPerPoint ∧ (validateRepo githubRepo).isOk then
        some (0, a.withProgram
          { maintainer, githubRepo, rewardPerPoint, escrowBalance := 0, milestoneCap,
            milestoneSpent := 0, status := .active })
      else none
  | .fund maintainer amount => do
      let x ← a.maintainedBy maintainer
      if 0 < amount then
        some (0, a.withProgram { x with escrowBalance := x.escrowBalance + amount })
      else none
  | .register maintainer user stellarAddress => do
      let _ ← a.maintainedBy maintainer
      if a.contributor user = none then some (0, a.withContributor user ⟨stellarAddress⟩) else none
  | .payOut user pr points => do
      let x ← a.program
      let payout := points.toNat * x.rewardPerPoint
      if points ≠ 0 ∧ a.processed pr = false ∧ a.contributor user ≠ none ∧ x.Pays payout then
        some (payout, (a.withProgram (x.charge payout)).mark pr)
      else none
  | .setStatus maintainer status => do
      let x ← a.maintainedBy maintainer
      some (0, a.withProgram { x with status })
  | .setRatio maintainer rewardPerPoint => do
      let x ← a.maintainedBy maintainer
      if 0 < rewardPerPoint then some (0, a.withProgram { x with rewardPerPoint }) else none
  | .withdraw maintainer => do
      let x ← a.maintainedBy maintainer
      let rest := max x.escrowBalance 0
      if x.status = .paused then
        some (rest, a.withProgram { x with escrowBalance := x.escrowBalance - rest })
      else none

/-- The machine of accounts. -/
def Account.next (a : Account) (op : Operation) : Option Account := (op.apply a).map Prod.snd

section Apply

variable {a b : Account} {m : Address} {paid : ℤ}

theorem isOk_validateRepo {repo : Symbol} :
    (validateRepo repo).isOk = true ↔ validateRepo repo = .ok () := by
  cases validateRepo repo <;> simp [Except.isOk, Except.toBool]

@[simp] theorem apply_create {repo : Symbol} {reward : ℤ} {cap : Option ℤ} :
    (Operation.create m repo reward cap).apply a = some (paid, b) ↔
      a.program = none ∧ 0 < reward ∧ validateRepo repo = .ok () ∧ 0 = paid ∧
        a.withProgram ⟨m, repo, reward, 0, cap, 0, .active⟩ = b := by
  simp only [Operation.apply, isOk_validateRepo, Option.ite_none_right_eq_some, Option.some.injEq,
    Prod.mk.injEq, and_assoc]

@[simp] theorem apply_fund {amount : ℤ} :
    (Operation.fund m amount).apply a = some (paid, b) ↔
      ∃ x, a.program = some x ∧ x.maintainer = m ∧ 0 < amount ∧ 0 = paid ∧
        a.withProgram { x with escrowBalance := x.escrowBalance + amount } = b := by
  simp [Operation.apply, Option.bind_eq_some_iff, Account.maintainedBy_eq_some, and_assoc]

@[simp] theorem apply_register {user : Symbol} {address : Address} :
    (Operation.register m user address).apply a = some (paid, b) ↔
      ∃ x, a.program = some x ∧ x.maintainer = m ∧ a.contributor user = none ∧ 0 = paid ∧
        a.withContributor user ⟨address⟩ = b := by
  simp [Operation.apply, Option.bind_eq_some_iff, Account.maintainedBy_eq_some, and_assoc]

@[simp] theorem apply_payOut {user : Symbol} {pr : UInt64} {points : UInt32} :
    (Operation.payOut user pr points).apply a = some (paid, b) ↔
      ∃ x, a.program = some x ∧ points ≠ 0 ∧ a.processed pr = false ∧ a.contributor user ≠ none ∧
        x.Pays (points.toNat * x.rewardPerPoint) ∧ points.toNat * x.rewardPerPoint = paid ∧
        (a.withProgram (x.charge (points.toNat * x.rewardPerPoint))).mark pr = b := by
  simp [Operation.apply, Option.bind_eq_some_iff, and_assoc]

@[simp] theorem apply_setStatus {status : ProgramStatus} :
    (Operation.setStatus m status).apply a = some (paid, b) ↔
      ∃ x, a.program = some x ∧ x.maintainer = m ∧ 0 = paid ∧
        a.withProgram { x with status } = b := by
  simp [Operation.apply, Option.bind_eq_some_iff, Account.maintainedBy_eq_some, and_assoc]

@[simp] theorem apply_setRatio {reward : ℤ} :
    (Operation.setRatio m reward).apply a = some (paid, b) ↔
      ∃ x, a.program = some x ∧ x.maintainer = m ∧ 0 < reward ∧ 0 = paid ∧
        a.withProgram { x with rewardPerPoint := reward } = b := by
  simp [Operation.apply, Option.bind_eq_some_iff, Account.maintainedBy_eq_some, and_assoc]

@[simp] theorem apply_withdraw :
    (Operation.withdraw m).apply a = some (paid, b) ↔
      ∃ x, a.program = some x ∧ x.maintainer = m ∧ x.status = .paused ∧
        max x.escrowBalance 0 = paid ∧
        a.withProgram { x with escrowBalance := x.escrowBalance - max x.escrowBalance 0 } = b := by
  simp [Operation.apply, Option.bind_eq_some_iff, Account.maintainedBy_eq_some, and_assoc]

theorem Account.next_eq_some {op : Operation} :
    a.next op = some b ↔ ∃ paid, op.apply a = some (paid, b) := by
  simp [Account.next]

end Apply

/-! ### What lasts -/

/-- The account `b` can be what became of `a`: nothing was lost or reassigned. -/
structure Account.Extends (a b : Account) : Prop where
  program : ∀ x, a.program = some x → 0 < x.rewardPerPoint → ∃ y, b.program = some y ∧
    0 < y.rewardPerPoint ∧ y.maintainer = x.maintainer ∧ y.githubRepo = x.githubRepo ∧
    y.milestoneCap = x.milestoneCap ∧ x.milestoneSpent ≤ y.milestoneSpent
  contributor : ∀ user c, a.contributor user = some c → b.contributor user = some c
  processed : ∀ pr, a.processed pr = true → b.processed pr = true

theorem Account.Extends.refl (a : Account) : a.Extends a where
  program x hx hreward := ⟨x, hx, hreward, rfl, rfl, rfl, le_rfl⟩
  contributor _ _ hc := hc
  processed _ hpr := hpr

theorem Account.Extends.trans {a b c : Account} (hab : a.Extends b) (hbc : b.Extends c) :
    a.Extends c where
  program x hx hreward := by
    obtain ⟨y, hy, hy₀, hmaintainer, hrepo, hcap, hspent⟩ := hab.program x hx hreward
    obtain ⟨z, hz, hz₀, hmaintainer', hrepo', hcap', hspent'⟩ := hbc.program y hy hy₀
    exact ⟨z, hz, hz₀, hmaintainer'.trans hmaintainer, hrepo'.trans hrepo, hcap'.trans hcap,
      hspent.trans hspent'⟩
  contributor user c' hc := hbc.contributor user c' (hab.contributor user c' hc)
  processed pr hpr := hbc.processed pr (hab.processed pr hpr)

/-- Another record for the same program. -/
theorem Account.extends_withProgram {a : Account} {x y : Program} (hx : a.program = some x)
    (hreward : 0 < x.rewardPerPoint → 0 < y.rewardPerPoint)
    (hmaintainer : y.maintainer = x.maintainer) (hrepo : y.githubRepo = x.githubRepo)
    (hcap : y.milestoneCap = x.milestoneCap)
    (hspent : 0 < x.rewardPerPoint → x.milestoneSpent ≤ y.milestoneSpent) :
    a.Extends (a.withProgram y) where
  program x' hx' hpos := by
    obtain rfl : x = x' := Option.some.inj (hx.symm.trans hx')
    exact ⟨y, rfl, hreward hpos, hmaintainer, hrepo, hcap, hspent hpos⟩
  contributor _ _ hc := hc
  processed _ hpr := hpr

theorem Account.extends_mark (a : Account) (pr : UInt64) : a.Extends (a.mark pr) where
  program x hx hreward := ⟨x, hx, hreward, rfl, rfl, rfl, le_rfl⟩
  contributor _ _ hc := hc
  processed n hn := by
    by_cases h : n = pr
    · simp [mark, h]
    · simpa [mark, h] using hn

/-- A payout counts towards the milestone, or there is none. -/
theorem Program.spent_le_charge (x : Program) {amount : ℤ} (hamount : 0 ≤ amount) :
    x.milestoneSpent ≤ (x.charge amount).milestoneSpent := by
  unfold Program.charge
  cases x.milestoneCap with
  | none => exact le_rfl
  | some cap => exact Int.le_add_of_nonneg_right hamount

theorem Account.extends_of_next {a b : Account} {op : Operation} (h : a.next op = some b) :
    a.Extends b := by
  obtain ⟨paid, h⟩ := Account.next_eq_some.1 h
  cases op with
  | create =>
    obtain ⟨hnone, -, -, -, rfl⟩ := apply_create.1 h
    refine ⟨fun x hx => ?_, fun _ _ hc => hc, fun _ hpr => hpr⟩
    rw [hnone] at hx
    cases hx
  | fund =>
    obtain ⟨x, hx, -, -, -, rfl⟩ := apply_fund.1 h
    exact Account.extends_withProgram hx id rfl rfl rfl fun _ => le_rfl
  | register m user address =>
    obtain ⟨x, -, -, hnew, -, rfl⟩ := apply_register.1 h
    refine ⟨fun x hx hreward => ⟨x, hx, hreward, rfl, rfl, rfl, le_rfl⟩, fun user' c hc => ?_,
      fun _ hpr => hpr⟩
    by_cases huser : user' = user
    · subst huser
      rw [hnew] at hc
      cases hc
    · simpa [Account.withContributor, huser] using hc
  | payOut user pr points =>
    obtain ⟨x, hx, -, -, -, -, -, rfl⟩ := apply_payOut.1 h
    apply Account.Extends.trans ?_ (Account.extends_mark _ _)
    refine Account.extends_withProgram hx id rfl rfl rfl fun hreward => ?_
    exact x.spent_le_charge (Int.mul_nonneg (by omega) hreward.le)
  | setStatus =>
    obtain ⟨x, hx, -, -, rfl⟩ := apply_setStatus.1 h
    exact Account.extends_withProgram hx id rfl rfl rfl fun _ => le_rfl
  | setRatio =>
    obtain ⟨x, hx, -, hreward, -, rfl⟩ := apply_setRatio.1 h
    exact Account.extends_withProgram hx (fun _ => hreward) rfl rfl rfl fun _ => le_rfl
  | withdraw =>
    obtain ⟨x, hx, -, -, -, rfl⟩ := apply_withdraw.1 h
    exact Account.extends_withProgram hx id rfl rfl rfl fun _ => le_rfl

/-- **Nothing is lost or reassigned**, whatever is done to an account. -/
theorem Account.extends_of_replay {a b : Account} {ops : List Operation}
    (h : replay Account.next a ops = some b) : a.Extends b :=
  replay_rel Account.Extends .refl Account.Extends.trans (fun _ _ _ => Account.extends_of_next) h

/-! ### What was done -/

/-- The operation pays the pull request. -/
def Operation.marks (pr : UInt64) : Operation → Bool
  | .payOut _ n _ => pr = n
  | _ => false

theorem Account.processed_of_next {a b : Account} {op : Operation} (h : a.next op = some b)
    (pr : UInt64) : b.processed pr = (op.marks pr || a.processed pr) := by
  obtain ⟨paid, h⟩ := Account.next_eq_some.1 h
  cases op with
  | create =>
    obtain ⟨-, -, -, -, rfl⟩ := apply_create.1 h
    rfl
  | fund =>
    obtain ⟨x, -, -, -, -, rfl⟩ := apply_fund.1 h
    rfl
  | register =>
    obtain ⟨x, -, -, -, -, rfl⟩ := apply_register.1 h
    rfl
  | payOut user n points =>
    obtain ⟨x, -, -, -, -, -, -, rfl⟩ := apply_payOut.1 h
    by_cases hn : pr = n
    · simp [Account.mark, Operation.marks, hn]
    · simp [Account.mark, Account.withProgram, Operation.marks, hn]
  | setStatus =>
    obtain ⟨x, -, -, -, rfl⟩ := apply_setStatus.1 h
    rfl
  | setRatio =>
    obtain ⟨x, -, -, -, -, rfl⟩ := apply_setRatio.1 h
    rfl
  | withdraw =>
    obtain ⟨x, -, -, -, -, rfl⟩ := apply_withdraw.1 h
    rfl

/-- **A pull request is marked exactly when it was paid.** -/
theorem processed_of_replay {a : Account} {ops : List Operation}
    (h : replay Account.next .unopened ops = some a) (pr : UInt64) :
    a.processed pr = ops.any (Operation.marks pr) := by
  have hany : ∀ {a b : Account}, replay Account.next a ops = some b →
      b.processed pr = (ops.any (Operation.marks pr) || a.processed pr) := by
    clear h
    intro a b h
    induction ops generalizing a with
    | nil =>
      cases h
      rfl
    | cons op ops ih =>
      obtain ⟨a₁, hop, hops⟩ := Option.bind_eq_some_iff.1 h
      rw [ih hops, Account.processed_of_next hop, List.any_cons]
      cases op.marks pr with
      | true => simp
      | false => simp
  rw [hany h]
  exact Bool.or_false _

end WaveFlow.Escrow
