import Mathlib.Algebra.BigOperators.Group.List.Basic
import WaveFlow.Escrow.Independence

/-!
# Merges of one program can arrive in any order

Merges of one program are not independent calls: each of them rewrites the record of the program and
lowers what the next one may pay. What a list of them comes to still does not depend on their order
(`Settles`): the program is charged with the sum of the payouts, the PR numbers are marked as
processed, and the payments commute.

`Admissible` lists what the merges need of the state, and is an invariant of the run: after the
first merge it holds of the rest, because the sum of the payouts bounds every part of it.
-/

namespace WaveFlow.Escrow

open Contract Transition KeyedStore

variable {H : Host} {env env' : Env H} {gateway : Address} {p : UInt64} {x : Program}

/-! ### Merges -/

/-- A merge of a program, as the gateway reports it. -/
structure MergeCall where
  auths : Finset Address
  githubUsername : Symbol
  prNumber : UInt64
  points : UInt32
  deriving DecidableEq

namespace MergeCall

/-- The call that reports a merge of `p`. -/
def call (gateway : Address) (p : UInt64) (m : MergeCall) : Finset Address × Call :=
  (m.auths, .recordMerge gateway p m.githubUsername m.prNumber m.points)

def payout (reward : ℤ) (m : MergeCall) : ℤ := m.points.toNat * reward

/-- The merge succeeded and returned its payout. -/
def paid (gateway : Address) (p : UInt64) (reward : ℤ) (m : MergeCall) : Label :=
  .ok m.auths (m.call gateway p).2 (.amount (m.payout reward))

/-- The payment of a merge, to the wallet that is registered for its user. -/
def payment (env : Env H) (p : UInt64) (reward : ℤ) (m : MergeCall) : Option Transfer :=
  env.instanceStorage.token.bind fun token =>
    (env.persistent.contributor p m.githubUsername).map fun c =>
      ⟨token, H.self, c.stellarAddress, m.payout reward⟩

/-- The balances after the payment of a merge. -/
def pay (env : Env H) (p : UInt64) (reward : ℤ) (balances : Address → Address → ℤ) (m : MergeCall) :
    Address → Address → ℤ :=
  Plan.balances ⟨m.payment env p reward, []⟩ balances

/-- The mark of a processed PR. -/
def mark (p : UInt64) (m : MergeCall) : Sigma DataKey.Val := ⟨.processedPr p m.prNumber, true⟩

theorem payment_congr {reward : ℤ} {m : MergeCall}
    (hinstance : env'.instanceStorage = env.instanceStorage)
    (huser : env'.persistent.contributor p m.githubUsername =
      env.persistent.contributor p m.githubUsername) :
    m.payment env' p reward = m.payment env p reward := by
  unfold payment
  rw [hinstance, huser]

end MergeCall

/-- What a list of merges pays. -/
def owed (reward : ℤ) (ms : List MergeCall) : ℤ := (ms.map (MergeCall.payout reward)).sum

@[simp] theorem owed_nil (reward : ℤ) : owed reward [] = 0 := rfl

@[simp] theorem owed_cons (reward : ℤ) (m : MergeCall) (ms : List MergeCall) :
    owed reward (m :: ms) = m.payout reward + owed reward ms := by simp [owed]

theorem owed_perm {reward : ℤ} {ms ms' : List MergeCall} (hperm : ms'.Perm ms) :
    owed reward ms' = owed reward ms :=
  (hperm.map _).sum_eq

theorem owed_nonneg {reward : ℤ} (hreward : 0 < reward) {ms : List MergeCall}
    (hpoints : ∀ m ∈ ms, m.points ≠ 0) : 0 ≤ owed reward ms := by
  induction ms with
  | nil => exact le_rfl
  | cons m ms ih =>
    have hm : 0 < m.payout reward := payout_pos (hpoints m List.mem_cons_self) hreward
    have hrest := ih fun m hm => hpoints m (List.mem_cons_of_mem _ hm)
    rw [owed_cons]
    omega

/-! ### The record of the program -/

/-- The record after payouts of `amount`: the milestone counter moves only under a cap. -/
def Program.charge (x : Program) (amount : ℤ) : Program :=
  { x with
    milestoneSpent := x.milestoneCap.elim x.milestoneSpent fun _ => x.milestoneSpent + amount
    escrowBalance := x.escrowBalance - amount }

theorem Program.charge_zero (x : Program) : x.charge 0 = x := by
  obtain ⟨maintainer, repo, reward, escrow, cap, spent, status⟩ := x
  cases cap with
  | none => simp [charge]
  | some cap => simp [charge]

theorem Program.charge_charge (x : Program) (a b : ℤ) :
    (x.charge a).charge b = x.charge (a + b) := by
  obtain ⟨maintainer, repo, reward, escrow, cap, spent, status⟩ := x
  cases cap with
  | none => simp [charge, sub_sub]
  | some cap => simp [charge, sub_sub, add_assoc]

theorem milestoneSpent_charge {payout : ℤ} (hspent : 0 ≤ x.milestoneSpent) (hpayout : 0 ≤ payout)
    (hcap : ∀ cap, x.milestoneCap = some cap → x.milestoneSpent + payout ≤ cap ∧ cap ≤ i128Max) :
    MilestoneSpent x payout (x.charge payout).milestoneSpent := by
  unfold MilestoneSpent Program.charge
  cases hx : x.milestoneCap with
  | none => rfl
  | some cap =>
    obtain ⟨hle, hmax⟩ := hcap cap hx
    exact ⟨inI128_of_le (by omega) hle hmax, rfl, hle⟩

/-! ### The state before the merges -/

/-- No milestone counter is negative. -/
def Counted (s : Storage) : Prop := ∀ p x, s.program p = some x → 0 ≤ x.milestoneSpent

theorem Counted.step {l : Label} (hcounted : Counted env.persistent)
    (hrewards : PositiveRewards env.persistent) (hstep : Step env l env') :
    Counted env'.persistent := by
  intro p y hy
  have hchange := hstep.change p
  rw [hy] at hchange
  generalize hr : env.persistent.program p = r at hchange
  cases hchange with
  | other => exact hcounted p y hr
  | created => exact le_rfl
  | @merged _ _ _ _ points x spent hspent =>
    have hbefore := hcounted p x hr
    have hpayout : 0 ≤ (points.toNat : ℤ) * x.rewardPerPoint :=
      Int.mul_nonneg (by omega) (hrewards p x hr).le
    unfold MilestoneSpent at hspent
    split at hspent
    · exact hspent.symm ▸ hbefore
    · simp only
      omega
  | _ =>
    have hbefore := hcounted p _ hr
    exact hbefore

/-- What every reachable state has. -/
structure Sound (env : Env H) : Prop where
  solvent : Solvent env
  rewards : PositiveRewards env.persistent
  counted : Counted env.persistent

theorem sound_of_run {tokens : Address → H.token.State} {h : History H}
    (hrun : Run Step (deploy tokens) h env) (hself : ∀ e ∈ h, H.self ∉ e.label.auths) :
    Sound env := by
  obtain ⟨hsolvent, hrewards⟩ := solvent_of_run hrun hself
  refine ⟨hsolvent, hrewards, ?_⟩
  refine (hrun.invariant_state (fun env => PositiveRewards env.persistent ∧ Counted env.persistent)
    ⟨fun p x hx => by simp [deploy] at hx, fun p x hx => by simp [deploy] at hx⟩ ?_).2
  exact fun _ _ _ h hstep => ⟨h.1.step hstep, h.2.step h.1 hstep⟩

theorem Sound.effect {auths : Finset Address} {call : Call} {value : Value} (hsound : Sound env)
    (hself : H.self ∉ auths) (heff : Effect auths env call value env') : Sound env' where
  solvent := hsound.solvent.effect hsound.rewards hself heff
  rewards := hsound.rewards.effect heff
  counted := hsound.counted.step hsound.rewards (.ok (invoke_of_effect heff))

/-- What a list of merges of `p` needs: the stored gateway authorises each of them, the PR numbers
are new and differ, every user is registered, and the escrow and the cap of `p` allow the sum. -/
structure Admissible (gateway : Address) (p : UInt64) (x : Program) (ms : List MergeCall)
    (env : Env H) : Prop where
  stored : env.instanceStorage.gateway = some gateway
  program : env.persistent.program p = some x
  active : x.status = .active
  auth : ∀ m ∈ ms, gateway ∈ m.auths ∧ H.self ∉ m.auths
  unprocessed : ∀ m ∈ ms, (env.persistent.processedPr p m.prNumber).getD false = false
  distinct : (ms.map MergeCall.prNumber).Nodup
  points : ∀ m ∈ ms, m.points ≠ 0
  registered : ∀ m ∈ ms, (env.persistent.contributor p m.githubUsername).isSome
  escrow : owed x.rewardPerPoint ms ≤ x.escrowBalance
  milestone : ∀ cap, x.milestoneCap = some cap → x.milestoneSpent + owed x.rewardPerPoint ms ≤ cap

/-! ### One merge -/

/-- The writes of a merge. -/
def MergeCall.writes (p : UInt64) (x : Program) (m : MergeCall) : List (Sigma DataKey.Val) :=
  [⟨.program p, x.charge (m.payout x.rewardPerPoint)⟩, m.mark p]

@[simp] theorem MergeCall.insertAll_writes (s : Storage) (m : MergeCall) :
    insertAll s (m.writes p x) =
      (s.insert (.program p) (x.charge (m.payout x.rewardPerPoint))).insert
        (.processedPr p m.prNumber) true := rfl

/-- What a merge comes to. -/
def MergeCall.plan (env : Env H) (p : UInt64) (x : Program) (m : MergeCall) : Plan :=
  ⟨m.payment env p x.rewardPerPoint, m.writes p x⟩

variable {m : MergeCall} {ms ms' : List MergeCall}

/-- The first payout is positive, and leaves something for the others. -/
theorem Admissible.bounds (h : Admissible gateway p x (m :: ms) env)
    (hreward : 0 < x.rewardPerPoint) :
    0 < m.payout x.rewardPerPoint ∧ 0 ≤ owed x.rewardPerPoint ms :=
  ⟨payout_pos (h.points m List.mem_cons_self) hreward,
    owed_nonneg hreward fun m hm => h.points m (List.mem_cons_of_mem _ hm)⟩

theorem Admissible.payout_le (h : Admissible gateway p x (m :: ms) env)
    (hreward : 0 < x.rewardPerPoint) : m.payout x.rewardPerPoint ≤ x.escrowBalance := by
  have hrest := (h.bounds hreward).2
  have hsum := h.escrow
  rw [owed_cons] at hsum
  omega

/-- A state with an admissible merge has its token set: before that nothing is in escrow. -/
theorem Admissible.token (h : Admissible gateway p x (m :: ms) env) (hsound : Sound env) :
    ∃ token, env.instanceStorage.token = some token := by
  have hreward := hsound.rewards p x h.program
  have hpos := (h.bounds hreward).1
  have hle := h.payout_le hreward
  cases htoken : env.instanceStorage.token with
  | some token => exact ⟨token, rfl⟩
  | none =>
    have hempty := hsound.solvent.unfunded htoken p x h.program
    omega

/-- **An admissible merge succeeds**: the pool covers the payout, and neither the escrow nor the
counter overflows. -/
theorem Admissible.head (h : Admissible gateway p x (m :: ms) env) (hsound : Sound env)
    (haccepting : H.token.Accepting)
    (hsupply : ∀ t, env.instanceStorage.token = some t → SupplyBounded (env.balances t))
    (hi128 : ∀ cap, x.milestoneCap = some cap → cap ≤ i128Max) :
    ∃ env', Effect m.auths env (m.call gateway p).2 (.amount (m.payout x.rewardPerPoint)) env' ∧
      (m.plan env p x).Leads env env' := by
  have hreward := hsound.rewards p x h.program
  obtain ⟨hpos, hrest⟩ := h.bounds hreward
  have hescrow := h.payout_le hreward
  obtain ⟨token, htoken⟩ := h.token hsound
  obtain ⟨⟨a⟩, huser⟩ := Option.isSome_iff_exists.1 (h.registered m List.mem_cons_self)
  have hpool := hsound.solvent.escrow_le_pool h.program htoken
  have hmax : env.pool token ≤ i128Max := H.token.balance_le_max _ _
  have hcovered : m.payout x.rewardPerPoint ≤ env.balances token H.self := hescrow.trans hpool
  obtain ⟨st, hst⟩ := haccepting (env.tokens token) H.self a _ hpos.le hcovered
    ((hsupply token htoken).fits hcovered)
  have hspent : MilestoneSpent x (m.payout x.rewardPerPoint)
      (x.charge (m.payout x.rewardPerPoint)).milestoneSpent := by
    apply milestoneSpent_charge (hsound.counted p x h.program) hpos.le
    intro cap hcap
    have hsum := h.milestone cap hcap
    rw [owed_cons] at hsum
    exact ⟨by omega, hi128 cap hcap⟩
  have hpayment : m.payment env p x.rewardPerPoint =
      some ⟨token, H.self, a, m.payout x.rewardPerPoint⟩ := by
    unfold MergeCall.payment
    rw [htoken, huser]
    rfl
  refine ⟨_, .recordMerge (h.auth m List.mem_cons_self).1 h.stored (h.points m List.mem_cons_self)
    (h.unprocessed m List.mem_cons_self) h.program h.active huser
    (inI128_of_le hpos.le hescrow (hpool.trans hmax)) hescrow hspent htoken hst
    (inI128_of_le (Int.sub_nonneg.2 hescrow) (Int.sub_le_self _ hpos.le) (hpool.trans hmax)), ?_⟩
  unfold MergeCall.plan
  rw [hpayment]
  exact leads_pay (m.writes p x) _ hst

/-- After the first of the merges the others are admissible. -/
theorem Admissible.tail (h : Admissible gateway p x (m :: ms) env)
    (hleads : (m.plan env p x).Leads env env') :
    Admissible gateway p (x.charge (m.payout x.rewardPerPoint)) ms env' := by
  have hpersistent := hleads.persistent.trans (MergeCall.insertAll_writes env.persistent m)
  have hdistinct := h.distinct
  rw [List.map_cons, List.nodup_cons] at hdistinct
  refine ⟨?_, ?_, h.active, fun m hm => h.auth m (List.mem_cons_of_mem _ hm), fun m' hm' => ?_,
    hdistinct.2, fun m hm => h.points m (List.mem_cons_of_mem _ hm), fun m' hm' => ?_, ?_,
    fun cap hcap => ?_⟩
  · exact (congrArg Storage.gateway hleads.instanceStorage).trans h.stored
  · rw [hpersistent, Storage.program_insert_processedPr, Storage.program_insert_self]
  · have hne : m'.prNumber ≠ m.prNumber := fun heq => hdistinct.1 (heq ▸ List.mem_map_of_mem hm')
    rw [hpersistent, Storage.processedPr_insert_processedPr, if_neg fun hand => hne hand.2,
      Storage.processedPr_insert_program]
    exact h.unprocessed m' (List.mem_cons_of_mem _ hm')
  · rw [hpersistent, Storage.contributor_insert_processedPr, Storage.contributor_insert_program]
    exact h.registered m' (List.mem_cons_of_mem _ hm')
  · have hsum := h.escrow
    rw [owed_cons] at hsum
    have hcharge : (x.charge (m.payout x.rewardPerPoint)).escrowBalance =
      x.escrowBalance - m.payout x.rewardPerPoint := rfl
    rw [hcharge]
    exact Int.le_sub_left_of_add_le hsum
  · have hcap' : x.milestoneCap = some cap := hcap
    have hsum := h.milestone cap hcap'
    rw [owed_cons] at hsum
    have hcharge : (x.charge (m.payout x.rewardPerPoint)).milestoneSpent =
      x.milestoneSpent + m.payout x.rewardPerPoint := by simp [Program.charge, hcap']
    rw [hcharge, add_assoc]
    exact hsum

/-! ### All merges -/

/-- The state `env'` is `env` after the merges: the program is charged with the sum, the PR numbers
are marked and the payments made. -/
structure Settles (p : UInt64) (x : Program) (ms : List MergeCall) (env env' : Env H) : Prop where
  instanceStorage : env'.instanceStorage = env.instanceStorage
  persistent : env'.persistent =
    insertAll (env.persistent.insert (.program p) (x.charge (owed x.rewardPerPoint ms)))
      (ms.map (MergeCall.mark p))
  balances : env'.balances = ms.foldl (MergeCall.pay env p x.rewardPerPoint) env.balances

theorem settles_nil (hx : env.persistent.program p = some x) : Settles p x [] env env where
  instanceStorage := rfl
  persistent := by
    rw [owed_nil, Program.charge_zero]
    have hinsert : insertAll (env.persistent.insert (.program p) x) ([].map (MergeCall.mark p)) =
      env.persistent.insert (.program p) x := rfl
    rw [hinsert]
    apply Finmap.ext_lookup
    intro k
    by_cases hk : k = .program p
    · subst hk
      rw [Finmap.lookup_insert]
      exact hx
    · exact (Finmap.lookup_insert_of_ne _ hk).symm
  balances := rfl

/-- One merge, and then the others. -/
theorem Settles.cons {env₁ : Env H} (hleads : (m.plan env p x).Leads env env₁)
    (hrest : Settles p (x.charge (m.payout x.rewardPerPoint)) ms env₁ env') :
    Settles p x (m :: ms) env env' where
  instanceStorage := hrest.instanceStorage.trans hleads.instanceStorage
  persistent := by
    have hpersistent := hleads.persistent.trans (MergeCall.insertAll_writes env.persistent m)
    have hcomm (s : Storage) (y : Program) :
        (s.insert (.processedPr p m.prNumber) true).insert (.program p) y =
          (s.insert (.program p) y).insert (.processedPr p m.prNumber) true :=
      Finmap.insert_insert_of_ne s (by simp)
    rw [hrest.persistent, hpersistent, hcomm, Finmap.insert_insert, Program.charge_charge,
      owed_cons]
    rfl
  balances := by
    have hpay : MergeCall.pay env₁ p x.rewardPerPoint = MergeCall.pay env p x.rewardPerPoint := by
      funext balances m'
      unfold MergeCall.pay
      rw [MergeCall.payment_congr hleads.instanceStorage]
      rw [hleads.persistent.trans (MergeCall.insertAll_writes env.persistent m),
        Storage.contributor_insert_processedPr, Storage.contributor_insert_program]
    have hreward : (x.charge (m.payout x.rewardPerPoint)).rewardPerPoint = x.rewardPerPoint := rfl
    rw [hrest.balances, hleads.balances, hreward, hpay]
    rfl

/-- **A list of admissible merges settles**, each call with its payout. -/
theorem Admissible.settles (h : Admissible gateway p x ms env) (hsound : Sound env)
    (haccepting : H.token.Accepting)
    (hsupply : ∀ t, env.instanceStorage.token = some t → SupplyBounded (env.balances t))
    (hi128 : ∀ cap, x.milestoneCap = some cap → cap ≤ i128Max) :
    (performAll env (ms.map (MergeCall.call gateway p))).1.map Entry.label =
        ms.map (MergeCall.paid gateway p x.rewardPerPoint) ∧
      Settles p x ms env (performAll env (ms.map (MergeCall.call gateway p))).2 := by
  induction ms generalizing env x with
  | nil => exact ⟨rfl, settles_nil h.program⟩
  | cons m ms ih =>
    obtain ⟨env₁, heff, hleads⟩ := h.head hsound haccepting hsupply hi128
    have hcall : (invoke (m.call gateway p).2).exec (m.call gateway p).1 env =
        .ok (.amount (m.payout x.rewardPerPoint), env₁) := invoke_of_effect heff
    have hperform : perform env (m.call gateway p).1 (m.call gateway p).2 =
        (m.paid gateway p x.rewardPerPoint, env₁) := by
      unfold perform
      rw [hcall]
      rfl
    obtain ⟨hlabels, hsettles⟩ := ih (h.tail hleads)
      (hsound.effect (h.auth m List.mem_cons_self).2 heff)
      (fun t ht => heff.supplyBounded hsound.rewards
        (hsupply t (hleads.instanceStorage ▸ ht))) hi128
    have hall : performAll env ((m :: ms).map (MergeCall.call gateway p)) =
        (⟨env, m.paid gateway p x.rewardPerPoint, env₁⟩ ::
          (performAll env₁ (ms.map (MergeCall.call gateway p))).1,
          (performAll env₁ (ms.map (MergeCall.call gateway p))).2) := by
      rw [List.map_cons, performAll, hperform]
    rw [hall]
    exact ⟨congrArg (_ :: ·) hlabels, .cons hleads hsettles⟩

/-! ### Any order -/

theorem Admissible.perm (h : Admissible gateway p x ms env) (hperm : ms'.Perm ms) :
    Admissible gateway p x ms' env where
  stored := h.stored
  program := h.program
  active := h.active
  auth m hm := h.auth m (hperm.mem_iff.1 hm)
  unprocessed m hm := h.unprocessed m (hperm.mem_iff.1 hm)
  distinct := (hperm.map _).nodup_iff.2 h.distinct
  points m hm := h.points m (hperm.mem_iff.1 hm)
  registered m hm := h.registered m (hperm.mem_iff.1 hm)
  escrow := (owed_perm hperm).trans_le h.escrow
  milestone cap hcap := by
    rw [owed_perm hperm]
    exact h.milestone cap hcap

/-- What merges settle to does not depend on their order. -/
theorem Settles.unique {env₁ env₂ : Env H} (h : Settles p x ms env env₁)
    (h' : Settles p x ms' env env₂) (hperm : ms'.Perm ms) :
    env₂.instanceStorage = env₁.instanceStorage ∧ env₂.persistent = env₁.persistent ∧
      env₂.balances = env₁.balances := by
  refine ⟨h'.instanceStorage.trans h.instanceStorage.symm, ?_, ?_⟩
  · rw [h.persistent, h'.persistent, owed_perm hperm]
    -- all marks are `true`, so two of one key are the same
    refine insertAll_perm (fun w hw v hv hkey => ?_) (hperm.map _)
    obtain ⟨m, -, rfl⟩ := List.mem_map.1 hw
    obtain ⟨m', -, rfl⟩ := List.mem_map.1 hv
    have hpr : m.prNumber = m'.prNumber := by simpa [MergeCall.mark] using hkey
    unfold MergeCall.mark
    rw [hpr]
  · rw [h.balances, h'.balances]
    exact hperm.foldl_eq' (fun m _ m' _ balances => Plan.balances_comm _ _ balances) _

/-- **Merges of one program can arrive in any order.** In a reachable state, merges that are
admissible together succeed in every order, each with the same payout, and leave the same storage
and the same token balances. Like every amount of the contract, a cap is an `i128`. -/
theorem merges_in_any_order {tokens : Address → H.token.State} {h : History H}
    (hrun : Run Step (deploy tokens) h env) (hself : ∀ e ∈ h, H.self ∉ e.label.auths)
    (haccepting : H.token.Accepting)
    (hsupply : ∀ t, env.instanceStorage.token = some t → SupplyBounded (env.balances t))
    (hi128 : ∀ cap, x.milestoneCap = some cap → cap ≤ i128Max)
    (hms : Admissible gateway p x ms env) (hperm : ms'.Perm ms) :
    let r := performAll env (ms.map (MergeCall.call gateway p))
    let r' := performAll env (ms'.map (MergeCall.call gateway p))
    r'.1.map Entry.label = ms'.map (MergeCall.paid gateway p x.rewardPerPoint) ∧
      r'.2.instanceStorage = r.2.instanceStorage ∧ r'.2.persistent = r.2.persistent ∧
      r'.2.balances = r.2.balances := by
  have hsound := sound_of_run hrun hself
  obtain ⟨-, hsettles⟩ := hms.settles hsound haccepting hsupply hi128
  obtain ⟨hlabels, hsettles'⟩ := (hms.perm hperm).settles hsound haccepting hsupply hi128
  exact ⟨hlabels, hsettles.unique hsettles' hperm⟩

/-- A program with a cap, and two contributors with one wallet. -/
def Setup.twoContributors : List (Finset Address × Call) :=
  [ ({admin}, .initialise admin Setup.gateway Setup.token),
    ({maintainer}, .createProgram maintainer "StellarRoute/WaveFlow" 100 (some 1000)),
    ({maintainer}, .fund 1 maintainer 5000),
    ({maintainer}, .registerContributor 1 maintainer "alice-dev" contributorWallet),
    ({maintainer}, .registerContributor 1 maintainer "bob-dev" contributorWallet) ]

theorem merges_in_any_order_setup :
    let env := (performAll (deploy Setup.tokens) Setup.twoContributors).2
    let ms : List MergeCall := [⟨{Setup.gateway}, "alice-dev", 42, 3⟩,
      ⟨{Setup.gateway}, "bob-dev", 43, 5⟩, ⟨{Setup.gateway}, "alice-dev", 44, 1⟩]
    let ms' : List MergeCall := [⟨{Setup.gateway}, "alice-dev", 44, 1⟩,
      ⟨{Setup.gateway}, "alice-dev", 42, 3⟩, ⟨{Setup.gateway}, "bob-dev", 43, 5⟩]
    let r := performAll env (ms.map (MergeCall.call Setup.gateway 1))
    let r' := performAll env (ms'.map (MergeCall.call Setup.gateway 1))
    r'.1.map Entry.label = ms'.map (MergeCall.paid Setup.gateway 1 100) ∧
      r'.2.instanceStorage = r.2.instanceStorage ∧ r'.2.persistent = r.2.persistent ∧
      r'.2.balances = r.2.balances :=
  merges_in_any_order
    (x := ⟨Setup.maintainer, "StellarRoute/WaveFlow", 100, 5000, some 1000, 0, .active⟩)
    (run_performAll _ _) (by decide +kernel) plainToken_accepting
    (fun t _ => supplyBounded_performAll _ (fun p x hx => by simp [deploy] at hx)
      (Setup.supplyBounded t))
    (fun cap hcap => by cases hcap; decide)
    ⟨by decide +kernel, by decide +kernel, rfl, by decide +kernel, by decide +kernel, by decide,
      by decide, by decide +kernel, by decide, fun cap hcap => by cases hcap; decide⟩
    (by decide)

end WaveFlow.Escrow
