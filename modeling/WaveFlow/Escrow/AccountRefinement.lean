import WaveFlow.Escrow.Account

/-!
# The contract keeps the accounts

The storage of the contract, read program by program, is a family of accounts (`Storage.account`). A
successful call performs one operation on the account of the program it is about, and leaves the
others alone (`Effect.applies`); so in every run from `initialise` the account of a program is the
replay of its own operations (`account_replayed`), whatever else happens in between.

The other way round, the contract allows all that the account allows (`call_exact`): in a reachable
state a call succeeds exactly when the right party authorises it, the depositor has the tokens, and
the operation is allowed on the account. None of the checks for overflow ever decides.
-/

namespace WaveFlow.Escrow

open Contract Transition

variable {H : Host} {env env' : Env H} {auths : Finset Address} {call : Call} {value : Value}
  {l : Label} {h : History H} {p q : UInt64} {op : Operation}

/-! ### The account in the storage -/

namespace Storage

/-- The account of program `p`. -/
def account (s : Storage) (p : UInt64) : Account where
  program := s.program p
  contributor := s.contributor p
  processed n := (s.processedPr p n).getD false

variable (s : Storage) (p q : UInt64)

@[simp] theorem account_program : (s.account p).program = s.program p := rfl

@[simp] theorem account_contributor : (s.account p).contributor = s.contributor p := rfl

@[simp] theorem account_processed (n : UInt64) :
    (s.account p).processed n = (s.processedPr p n).getD false := rfl

theorem account_empty : account ∅ p = .unopened := rfl

theorem account_insert_program (x : Program) :
    account (s.insert (.program q) x) p =
      if p = q then (s.account p).withProgram x else s.account p := by
  split_ifs with hp
  · subst hp
    ext <;> simp [account, Account.withProgram]
  · ext <;> simp [account, program_insert_program, hp]

theorem account_insert_contributor (user : Symbol) (c : Contributor) :
    account (s.insert (.contributor q user) c) p =
      if p = q then (s.account p).withContributor user c else s.account p := by
  split_ifs with hp
  · subst hp
    ext1
    · simp [Account.withContributor]
    · funext v
      by_cases hv : v = user
      · simp [account, Account.withContributor, contributor_insert_contributor, hv]
      · simp [account, Account.withContributor, contributor_insert_contributor, hv]
    · funext n
      simp [Account.withContributor]
  · ext1
    · simp
    · funext v
      simp [account, contributor_insert_contributor, hp]
    · funext n
      simp

theorem account_insert_processedPr (pr : UInt64) :
    account (s.insert (.processedPr q pr) true) p =
      if p = q then (s.account p).mark pr else s.account p := by
  split_ifs with hp
  · subst hp
    ext1
    · simp [Account.mark]
    · funext v
      simp [account, Account.mark]
    · funext n
      by_cases hn : n = pr
      · simp [account, Account.mark, processedPr_insert_processedPr, hn]
      · simp [account, Account.mark, processedPr_insert_processedPr, hn]
  · ext1
    · simp
    · funext v
      simp [account]
    · funext n
      simp [account, processedPr_insert_processedPr, hp]

end Storage

/-- A record that is written as it is. -/
theorem Account.withProgram_self {a : Account} {x : Program} (hx : a.program = some x) :
    a.withProgram x = a := by
  cases a
  cases hx
  rfl

/-! ### What a call does to the accounts -/

/-- What a call on a program does to its account. -/
def Call.operation? : Call → Option Operation
  | .fund _ src amount => some (.fund src amount)
  | .registerContributor _ caller user a => some (.register caller user a)
  | .recordMerge _ _ user pr points => some (.payOut user pr points)
  | .pause _ maintainer => some (.setStatus maintainer .paused)
  | .resume _ maintainer => some (.setStatus maintainer .active)
  | .setRatio _ maintainer reward => some (.setRatio maintainer reward)
  | .withdrawRemaining _ maintainer => some (.withdraw maintainer)
  | .initialise _ _ _ | .createProgram _ _ _ _ => none

/-- What a step did to the account of `p`. -/
def Label.operation (p : UInt64) : Label → Option Operation
  | .ok _ (.createProgram maintainer repo reward cap) (.programId q) =>
      if p = q then some (.create maintainer repo reward cap) else none
  | .ok _ call _ => if call.program? = some p then call.operation? else none
  | .failed _ _ _ | .outside => none

/-- What a history did to the account of `p`, in order. -/
def operationsOn (p : UInt64) (h : History H) : List Operation :=
  h.filterMap fun e => e.label.operation p

/-- The return value of a call that paid `paid`. -/
def Operation.returns (paid : ℤ) : Operation → Value
  | .payOut _ _ _ | .withdraw _ => .amount paid
  | _ => .unit

/-- **A call performs its operation** on the account of its program, and leaves the others alone. -/
theorem Effect.applies (heff : Effect auths env call value env') (hop : call.operation? = some op) :
    ∃ p paid, call.program? = some p ∧ value = op.returns paid ∧
      op.apply (env.persistent.account p) = some (paid, env'.persistent.account p) ∧
      ∀ q, q ≠ p → env'.persistent.account q = env.persistent.account q := by
  cases heff with
  | initialise => cases hop
  | createProgram => cases hop
  | @fund p src amount x token st hauth hmin hx hsrc htoken hpay hrange =>
    cases hop
    refine ⟨p, 0, rfl, rfl, apply_fund.2 ⟨x, hx, hsrc, minDeposit_le hmin, rfl, ?_⟩, fun q hq => ?_⟩
    · rw [Storage.account_insert_program, if_pos rfl]
    · rw [Storage.account_insert_program, if_neg hq]
  | @registerContributor p caller user a x hauth hx hcaller hnew =>
    cases hop
    refine ⟨p, 0, rfl, rfl, apply_register.2 ⟨x, hx, hcaller, hnew, rfl, ?_⟩, fun q hq => ?_⟩
    · rw [Storage.account_insert_contributor, if_pos rfl]
    · rw [Storage.account_insert_contributor, if_neg hq]
  | @recordMerge gateway p user pr points x a token spent st hauth hgateway hpoints hpr hx hactive
      huser hrange hescrow hspent htoken hpay hrange' =>
    cases hop
    have hcharge : { x with
          milestoneSpent := spent
          escrowBalance := x.escrowBalance - points.toNat * x.rewardPerPoint } =
        x.charge (points.toNat * x.rewardPerPoint) := by
      unfold MilestoneSpent at hspent
      unfold Program.charge
      cases hcap : x.milestoneCap with
      | none =>
        rw [hcap] at hspent
        rw [hspent]
        rfl
      | some cap =>
        rw [hcap] at hspent
        rw [hspent.2.1]
        rfl
    have hpays : x.Pays (points.toNat * x.rewardPerPoint) := by
      refine ⟨hactive, hescrow, ?_⟩
      unfold MilestoneSpent at hspent
      cases hcap : x.milestoneCap with
      | none => rfl
      | some cap =>
        rw [hcap] at hspent
        simpa [hspent.2.1] using hspent.2.2
    refine ⟨p, _, rfl, rfl, apply_payOut.2 ⟨x, hx, hpoints, hpr, ?_, hpays, rfl, ?_⟩,
      fun q hq => ?_⟩
    · rw [Storage.account_contributor, huser]
      exact Option.some_ne_none _
    · rw [Storage.account_insert_processedPr, if_pos rfl, Storage.account_insert_program,
        if_pos rfl, hcharge]
    · rw [Storage.account_insert_processedPr, if_neg hq, Storage.account_insert_program, if_neg hq]
  | @pause p maintainer x hauth hx hmaintainer =>
    cases hop
    refine ⟨p, 0, rfl, rfl, apply_setStatus.2 ⟨x, hx, hmaintainer, rfl, ?_⟩, fun q hq => ?_⟩
    · rw [Storage.account_insert_program, if_pos rfl]
    · rw [Storage.account_insert_program, if_neg hq]
  | @resume p maintainer x hauth hx hmaintainer =>
    cases hop
    refine ⟨p, 0, rfl, rfl, apply_setStatus.2 ⟨x, hx, hmaintainer, rfl, ?_⟩, fun q hq => ?_⟩
    · rw [Storage.account_insert_program, if_pos rfl]
    · rw [Storage.account_insert_program, if_neg hq]
  | @setRatio p maintainer reward x hauth hreward hx hmaintainer =>
    cases hop
    refine ⟨p, 0, rfl, rfl, apply_setRatio.2 ⟨x, hx, hmaintainer, hreward, rfl, ?_⟩, fun q hq => ?_⟩
    · rw [Storage.account_insert_program, if_pos rfl]
    · rw [Storage.account_insert_program, if_neg hq]
  | @withdrawNothing p maintainer x hauth hx hmaintainer hpaused hempty =>
    cases hop
    refine ⟨p, 0, rfl, rfl, apply_withdraw.2 ⟨x, hx, hmaintainer, hpaused, max_eq_right hempty, ?_⟩,
      fun q _ => rfl⟩
    rw [max_eq_right hempty, sub_zero]
    exact Account.withProgram_self hx
  | @withdrawRemaining p maintainer x token st hauth hx hmaintainer hpaused hpos htoken hpay =>
    cases hop
    refine ⟨p, x.escrowBalance, rfl, rfl, apply_withdraw.2 ⟨x, hx, hmaintainer, hpaused,
      max_eq_left hpos.le, ?_⟩, fun q hq => ?_⟩
    · rw [Storage.account_insert_program, if_pos rfl, max_eq_left hpos.le, sub_self]
    · rw [Storage.account_insert_program, if_neg hq]

/-! ### Runs -/

theorem Label.operation_ok (hop : call.operation? = some op) (p : UInt64) :
    (Label.ok auths call value).operation p = if call.program? = some p then some op else none := by
  cases call with
  | initialise => cases hop
  | createProgram => cases hop
  | _ =>
    cases hop
    rfl

/-- **A step drives every account** by the operation it performs on it, if any. -/
theorem Step.drives (hstep : Step env l env') (hall : Allocated env) (p : UInt64) :
    Drives Account.next (fun env : Env H => env.persistent.account p)
      (fun e => e.label.operation p) ⟨env, l, env'⟩ := by
  unfold Drives
  rcases hstep.cases with ⟨auths, call, value, rfl, heff⟩ | ⟨⟨auths, call, why, rfl⟩, rfl⟩ |
    ⟨rfl, tokens, -, rfl⟩
  · cases hop : call.operation? with
    | some op =>
      obtain ⟨q, paid, hq, -, happly, hother⟩ := heff.applies hop
      simp only [Label.operation_ok hop, hq, Option.some.injEq]
      by_cases hp : q = p
      · subst hp
        rw [if_pos rfl]
        exact Account.next_eq_some.2 ⟨paid, happly⟩
      · rw [if_neg hp]
        exact congrArg some (hother p (Ne.symm hp)).symm
    | none =>
      cases heff with
      | initialise => rfl
      | @createProgram maintainer repo reward cap q hauth hreward hrepo hid =>
        have hfresh := not_touched_iff.1 (hall.fresh hid)
        simp only [Label.operation, Storage.account_insert_program]
        by_cases hp : p = q
        · subst hp
          rw [if_pos rfl, if_pos rfl]
          exact Account.next_eq_some.2 ⟨0, apply_create.2 ⟨hfresh.1, hreward, hrepo, rfl, rfl⟩⟩
        · rw [if_neg hp, if_neg hp]
          rfl
      | _ => cases hop
  · rfl
  · rfl

/-- **The contract is a family of accounts.** In every run that begins with `initialise`, what is
stored for a program is what its account comes to by the program's own operations, in order, each of
them allowed where it came: no other call has a part in it. -/
theorem account_replayed {tokens : Address → H.token.State} {auths₀ : Finset Address}
    {admin gateway token : Address} {value₀ : Value} {env₀ : Env H}
    (hinit : Step (deploy tokens) (.ok auths₀ (.initialise admin gateway token) value₀) env₀)
    (hrun : Run Step env₀ h env) (p : UInt64) :
    replay Account.next .unopened (operationsOn p h) = some (env.persistent.account p) := by
  have hempty := (initialised_of_step hinit).2
  have hreplayed : replay Account.next (env₀.persistent.account p) (operationsOn p h) =
      some (env.persistent.account p) := by
    have hdrives : ∀ e ∈ h, Drives Account.next (fun env : Env H => env.persistent.account p)
        (fun e => e.label.operation p) e := by
      intro e he
      obtain ⟨before, -, -, hbefore, hstep⟩ := hrun.split he
      exact hstep.drives (regular_of_run hinit hbefore).allocated p
    exact hrun.replayed hdrives
  rwa [hempty, Storage.account_empty] at hreplayed

/-- The program of the contract's tests. -/
theorem account_replayed_setup :
    let r₀ := perform (deploy Setup.tokens) {Setup.admin}
      (.initialise Setup.admin Setup.gateway Setup.token)
    let r := performAll r₀.2 Setup.calls.tail
    replay Account.next .unopened (operationsOn 1 r.1) = some (r.2.persistent.account 1) :=
  account_replayed (step_of_perform {Setup.admin}
    (.initialise Setup.admin Setup.gateway Setup.token) .unit (by decide +kernel))
    (run_performAll _ Setup.calls.tail) 1

/-! ### What the contract allows -/

/-- Who has to authorise a call. -/
def Call.party : Call → Address
  | .initialise admin _ _ => admin
  | .createProgram maintainer _ _ _ => maintainer
  | .fund _ src _ => src
  | .registerContributor _ caller _ _ => caller
  | .recordMerge gateway _ _ _ _ => gateway
  | .pause _ maintainer | .resume _ maintainer | .setRatio _ maintainer _
  | .withdrawRemaining _ maintainer => maintainer

/-- The right party authorises the call: a merge is for the stored gateway to report. -/
structure Call.Authorised (auths : Finset Address) (env : Env H) (call : Call) : Prop where
  party : call.party ∈ auths
  gateway : ∀ g p user pr points, call = .recordMerge g p user pr points →
    env.instanceStorage.gateway = some g

/-- Who deposits has the tokens. -/
def Call.Funded (env : Env H) (call : Call) : Prop :=
  ∀ p src amount, call = .fund p src amount →
    ∃ token, env.instanceStorage.token = some token ∧ amount ≤ env.balances token src

theorem Call.funded_of_ne (hne : ∀ p src amount, call ≠ .fund p src amount) : call.Funded env :=
  fun p src amount h => absurd h (hne p src amount)

theorem Call.authorised_of_ne (hparty : call.party ∈ auths)
    (hne : ∀ g p user pr points, call ≠ .recordMerge g p user pr points) :
    call.Authorised auths env :=
  ⟨hparty, fun g p user pr points h => absurd h (hne g p user pr points)⟩

theorem Effect.authorised (heff : Effect auths env call value env') :
    call.Authorised auths env := by
  cases heff with
  | recordMerge hauth hgateway =>
    refine ⟨hauth, ?_⟩
    rintro _ _ _ _ _ ⟨⟩
    exact hgateway
  | _ => exact Call.authorised_of_ne (by assumption) (by rintro _ _ _ _ _ ⟨⟩)

theorem Effect.funded (heff : Effect auths env call value env') : call.Funded env := by
  cases heff with
  | fund hauth hmin hx hsrc htoken hpay =>
    rintro _ _ _ ⟨⟩
    exact ⟨_, htoken, H.token.transfer_covered hpay⟩
  | _ => exact Call.funded_of_ne (by rintro _ _ _ ⟨⟩)

/-- Like every amount of the contract, the cap of a new program is an `i128`. -/
def Label.CapFits : Label → Prop
  | .ok _ (.createProgram _ _ _ (some cap)) _ => cap ≤ i128Max
  | _ => True

instance (l : Label) : Decidable l.CapFits := by
  unfold Label.CapFits
  split <;> infer_instance

/-- Every cap is an `i128`. -/
def CapsFit (s : Storage) : Prop :=
  ∀ p x cap, s.program p = some x → x.milestoneCap = some cap → cap ≤ i128Max

theorem CapsFit.step (hcaps : CapsFit env.persistent) (hl : l.CapFits) (hstep : Step env l env') :
    CapsFit env'.persistent := by
  intro p y cap hy hcap
  have hchange := hstep.change p
  rw [hy] at hchange
  generalize hr : env.persistent.program p = r at hchange
  cases hchange with
  | created =>
    cases hcap
    exact hl
  | _ => exact hcaps p _ cap hr hcap

theorem capsFit_of_run {tokens : Address → H.token.State} (hrun : Run Step (deploy tokens) h env)
    (hcaps : ∀ e ∈ h, e.label.CapFits) : CapsFit env.persistent :=
  (hrun.restrict (C := fun _ l => l.CapFits) hcaps).invariant_state
    (fun env => CapsFit env.persistent) (fun p x cap hx => by simp [deploy] at hx)
    (fun _ _ _ h hstep => h.step hstep.2 hstep.1)

/-- The token makes every payment that is covered. -/
theorem transfer_of_covered {token src : Address} {amount : ℤ} (dst : Address)
    (haccepting : H.token.Accepting) (hsupply : SupplyBounded (env.balances token))
    (hpos : 0 ≤ amount) (hcovered : amount ≤ env.balances token src) :
    ∃ st, H.token.transfer (env.tokens token) src dst amount = some st :=
  haccepting _ _ _ _ hpos hcovered (hsupply.fits hcovered)

theorem Sound.fund_enabled (hsound : Sound env) (hself : H.self ∉ auths)
    (haccepting : H.token.Accepting)
    (hsupply : ∀ t, env.instanceStorage.token = some t → SupplyBounded (env.balances t))
    {src : Address} {amount : ℤ} {x : Program} (hauth : src ∈ auths)
    (hfunded : (Call.fund p src amount).Funded env) (hx : env.persistent.program p = some x)
    (hsrc : x.maintainer = src) (hpos : 0 < amount) :
    ∃ value env', Effect auths env (.fund p src amount) value env' := by
  obtain ⟨token, htoken, hcovered⟩ := hfunded p src amount rfl
  obtain ⟨st, hst⟩ := transfer_of_covered H.self haccepting (hsupply token htoken) hpos.le hcovered
  have hne : src ≠ H.self := fun h => hself (h ▸ hauth)
  -- The escrow is within the pool, and the pool after the deposit is a balance of the token.
  have hpool := pool_deposit env hne hst
  have hmax := H.token.balance_le_max ((env.withTransfer token src H.self amount st).tokens token)
    H.self
  have hescrow := hsound.solvent.escrow_le_pool hx htoken
  have hnonneg := hsound.solvent.nonneg p x hx
  have hrange : InI128 (x.escrowBalance + amount) := by
    refine inI128_of_le (m := env.pool token + amount) (by omega) (by omega) ?_
    rw [← hpool]
    exact hmax
  exact ⟨_, _, .fund hauth (by unfold minDeposit; omega) hx hsrc htoken hst hrange⟩

theorem Sound.merge_enabled (hsound : Sound env) (hself : H.self ∉ auths)
    (haccepting : H.token.Accepting)
    (hsupply : ∀ t, env.instanceStorage.token = some t → SupplyBounded (env.balances t))
    {gateway : Address} {user : Symbol} {pr : UInt64} {points : UInt32} {x : Program}
    (hcap : ∀ cap, x.milestoneCap = some cap → cap ≤ i128Max) (hauth : gateway ∈ auths)
    (hgateway : env.instanceStorage.gateway = some gateway)
    (hx : env.persistent.program p = some x) (hpoints : points ≠ 0)
    (hpr : (env.persistent.processedPr p pr).getD false = false)
    (huser : env.persistent.contributor p user ≠ none)
    (hpays : x.Pays (points.toNat * x.rewardPerPoint)) :
    ∃ value env', Effect auths env (.recordMerge gateway p user pr points) value env' := by
  obtain ⟨hactive, hescrow, hspent⟩ := hpays
  let m : MergeCall := ⟨auths, user, pr, points⟩
  have hadmissible : Admissible gateway p x [m] env := by
    refine ⟨hgateway, hx, hactive, ?_, ?_, ?_, ?_, ?_, ?_, fun cap hc => ?_⟩
    · simpa [m] using ⟨hauth, hself⟩
    · simpa [m] using hpr
    · exact List.nodup_singleton _
    · simpa [m] using hpoints
    · simpa [m, Option.isSome_iff_ne_none] using huser
    · simpa [m, MergeCall.payout] using hescrow
    · rw [hc] at hspent
      simpa [m, MergeCall.payout] using hspent
  obtain ⟨env', heff, -⟩ := hadmissible.head hsound haccepting hsupply hcap
  exact ⟨_, env', heff⟩

theorem Sound.withdraw_enabled (hsound : Sound env) (haccepting : H.token.Accepting)
    (hsupply : ∀ t, env.instanceStorage.token = some t → SupplyBounded (env.balances t))
    {maintainer : Address} {x : Program} (hauth : maintainer ∈ auths)
    (hx : env.persistent.program p = some x) (hmaintainer : x.maintainer = maintainer)
    (hpaused : x.status = .paused) :
    ∃ value env', Effect auths env (.withdrawRemaining p maintainer) value env' := by
  by_cases hempty : x.escrowBalance ≤ 0
  · exact ⟨_, _, .withdrawNothing hauth hx hmaintainer hpaused hempty⟩
  · cases htoken : env.instanceStorage.token with
    | none =>
      -- Before `initialise` nothing is in escrow.
      have hunfunded := hsound.solvent.unfunded htoken p x hx
      omega
    | some token =>
      obtain ⟨st, hst⟩ := transfer_of_covered maintainer haccepting (hsupply token htoken)
        (by omega) (hsound.solvent.escrow_le_pool hx htoken)
      exact ⟨_, _, .withdrawRemaining hauth hx hmaintainer hpaused (by omega) htoken hst⟩

/-- **What the account allows, the contract does**, when the right party asks for it. -/
theorem Sound.enabled (hsound : Sound env) (hself : H.self ∉ auths) (haccepting : H.token.Accepting)
    (hsupply : ∀ t, env.instanceStorage.token = some t → SupplyBounded (env.balances t))
    (hcaps : CapsFit env.persistent) (hauthorised : call.Authorised auths env)
    (hfunded : call.Funded env) (hp : call.program? = some p)
    (hop : call.operation? = some op) {paid : ℤ} {b : Account}
    (happly : op.apply (env.persistent.account p) = some (paid, b)) :
    ∃ value env', Effect auths env call value env' := by
  have hparty := hauthorised.party
  cases call with
  | initialise => cases hop
  | createProgram => cases hop
  | fund q src amount =>
    cases hp
    cases hop
    obtain ⟨x, hx, hsrc, hpos, -, -⟩ := apply_fund.1 happly
    exact hsound.fund_enabled hself haccepting hsupply hparty hfunded hx hsrc hpos
  | registerContributor q caller user a =>
    cases hp
    cases hop
    obtain ⟨x, hx, hcaller, hnew, -, -⟩ := apply_register.1 happly
    exact ⟨_, _, .registerContributor hparty hx hcaller hnew⟩
  | recordMerge gateway q user pr points =>
    cases hp
    cases hop
    obtain ⟨x, hx, hpoints, hpr, huser, hpays, -, -⟩ := apply_payOut.1 happly
    exact hsound.merge_enabled hself haccepting hsupply (hcaps p x · hx) hparty
      (hauthorised.gateway _ _ _ _ _ rfl) hx hpoints hpr huser hpays
  | pause q maintainer =>
    cases hp
    cases hop
    obtain ⟨x, hx, hmaintainer, -, -⟩ := apply_setStatus.1 happly
    exact ⟨_, _, .pause hparty hx hmaintainer⟩
  | resume q maintainer =>
    cases hp
    cases hop
    obtain ⟨x, hx, hmaintainer, -, -⟩ := apply_setStatus.1 happly
    exact ⟨_, _, .resume hparty hx hmaintainer⟩
  | setRatio q maintainer reward =>
    cases hp
    cases hop
    obtain ⟨x, hx, hmaintainer, hreward, -, -⟩ := apply_setRatio.1 happly
    exact ⟨_, _, .setRatio hparty hreward hx hmaintainer⟩
  | withdrawRemaining q maintainer =>
    cases hp
    cases hop
    obtain ⟨x, hx, hmaintainer, hpaused, -, -⟩ := apply_withdraw.1 happly
    exact hsound.withdraw_enabled haccepting hsupply hparty hx hmaintainer hpaused

/-- **The contract does what the account allows, no more and no less.** In every reachable state a
call on a program returns `value` and leaves the account `b` exactly when the right party authorises
it, a depositor has the tokens, and its operation is allowed on the account and leaves `b`. Accounts
have plain integers, so none of the contract's checks for overflow ever decides. -/
theorem call_exact {tokens : Address → H.token.State} (hrun : Run Step (deploy tokens) h env)
    (hself : ∀ e ∈ h, H.self ∉ e.label.auths) (hcaps : ∀ e ∈ h, e.label.CapFits)
    (hauths : H.self ∉ auths) (haccepting : H.token.Accepting)
    (hsupply : ∀ t, env.instanceStorage.token = some t → SupplyBounded (env.balances t))
    (hp : call.program? = some p) (hop : call.operation? = some op) (b : Account) :
    (∃ env', (invoke call).exec auths env = .ok (value, env') ∧ env'.persistent.account p = b) ↔
      call.Authorised auths env ∧ call.Funded env ∧
        ∃ paid, op.apply (env.persistent.account p) = some (paid, b) ∧ value = op.returns paid := by
  constructor
  · rintro ⟨env', hcall, rfl⟩
    have heff := effect_of_invoke hcall
    obtain ⟨q, paid, hq, hvalue, happly, -⟩ := heff.applies hop
    obtain rfl : q = p := Option.some.inj (hq.symm.trans hp)
    exact ⟨heff.authorised, heff.funded, paid, happly, hvalue⟩
  · rintro ⟨hauthorised, hfunded, paid, happly, rfl⟩
    obtain ⟨value, env', heff⟩ := (sound_of_run hrun hself).enabled hauths haccepting hsupply
      (capsFit_of_run hrun hcaps) hauthorised hfunded hp hop happly
    obtain ⟨q, paid', hq, rfl, happly', -⟩ := heff.applies hop
    obtain rfl : q = p := Option.some.inj (hq.symm.trans hp)
    obtain ⟨rfl, rfl⟩ : paid' = paid ∧ env'.persistent.account q = b := by
      simpa using happly'.symm.trans happly
    exact ⟨env', invoke_of_effect heff, rfl⟩

/-- A second merge for the contributor of the contract's tests. -/
theorem call_exact_setup :
    let env := (performAll (deploy Setup.tokens) Setup.calls).2
    let call : Call := .recordMerge Setup.gateway 1 "alice-dev" 43 2
    let b := (perform env {Setup.gateway} call).2.persistent.account 1
    (∃ env', (invoke call).exec {Setup.gateway} env = .ok (.amount 200, env') ∧
        env'.persistent.account 1 = b) ↔
      call.Authorised {Setup.gateway} env ∧ call.Funded env ∧
        ∃ paid, (Operation.payOut "alice-dev" 43 2).apply (env.persistent.account 1) =
          some (paid, b) ∧ .amount 200 = (Operation.payOut "alice-dev" 43 2).returns paid :=
  call_exact (run_performAll _ _) (by decide +kernel) (by decide +kernel) (by decide)
    plainToken_accepting (fun t _ => supplyBounded_performAll _
      (fun p x hx => by simp [deploy] at hx) (Setup.supplyBounded t)) rfl rfl _

end WaveFlow.Escrow
