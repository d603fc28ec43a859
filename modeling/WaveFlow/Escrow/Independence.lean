import Mathlib.Algebra.BigOperators.Group.Finset.Piecewise
import WaveFlow.Escrow.ProgramChange
import WaveFlow.Escrow.Checks

/-!
# Calls on different programs are independent

What a call on a program does is decided by the roles, by the token and by what is stored under that
program's id; it makes at most one payment and writes under that id only (`Carries`). So a call on
another program does not change it, the writes of the two commute, and so do their payments. What is
not local is that the second payment still goes through: the pool covers it because the state after
the first call is solvent, and nobody's balance overflows because the supply of the token does not.
-/

namespace WaveFlow.Escrow

open Contract Transition

variable {H : Host} {env env₁ env' env₁' : Env H} {auths : Finset Address} {call : Call}
  {value : Value} {p q : UInt64} {token src dst : Address} {amount : ℤ} {st : H.token.State}

/-! ### Plans -/

/-- The program a key is about. -/
def DataKey.program? : DataKey → Option UInt64
  | .program p | .contributor p _ | .processedPr p _ => some p
  | .admin | .gateway | .token | .programCounter => none

/-- What a call on a program comes to: at most one payment, and writes. -/
structure Plan where
  payment : Option Transfer
  writes : List (Sigma DataKey.Val)

/-- The balances of every token. -/
def Env.balances (env : Env H) (t a : Address) : ℤ := H.token.balance (env.tokens t) a

/-- The balances after a payment. -/
def pay (tr : Transfer) (balances : Address → Address → ℤ) (t a : Address) : ℤ :=
  if t = tr.token then moved (balances t) tr.src tr.dst tr.amount a else balances t a

/-- The balances after the payment of a plan. -/
def Plan.balances (plan : Plan) (balances : Address → Address → ℤ) : Address → Address → ℤ :=
  plan.payment.elim balances fun tr => Escrow.pay tr balances

/-- The token accepts the payment of a plan. -/
def Plan.Payable (plan : Plan) (env : Env H) : Prop :=
  ∀ tr, plan.payment = some tr →
    ∃ st, H.token.transfer (env.tokens tr.token) tr.src tr.dst tr.amount = some st

/-- What carrying out a plan changes. -/
structure Plan.Leads (plan : Plan) (env env' : Env H) : Prop where
  instanceStorage : env'.instanceStorage = env.instanceStorage
  persistent : env'.persistent = KeyedStore.insertAll env.persistent plan.writes
  balances : env'.balances = plan.balances env.balances

theorem leads_write (writes : List (Sigma DataKey.Val)) (events : List Event) :
    Plan.Leads ⟨none, writes⟩ env
      { env with persistent := KeyedStore.insertAll env.persistent writes, events } :=
  ⟨rfl, rfl, rfl⟩

theorem leads_pay (writes : List (Sigma DataKey.Val)) (events : List Event)
    (hpay : H.token.transfer (env.tokens token) src dst amount = some st) :
    Plan.Leads ⟨some ⟨token, src, dst, amount⟩, writes⟩ env
      { env.withTransfer token src dst amount st with
        persistent := KeyedStore.insertAll env.persistent writes, events } := by
  refine ⟨rfl, rfl, ?_⟩
  funext t a
  simp only [Plan.balances, Option.elim_some, Escrow.pay, Env.balances, Env.withTransfer]
  split_ifs with ht
  · subst ht
    rw [Function.update_self, H.token.transfer_moves hpay]
    rfl
  · rw [Function.update_of_ne ht]

/-- Two environments look the same to a call on `p`. -/
structure SameFor (p : UInt64) (env env₁ : Env H) : Prop where
  instanceStorage : env₁.instanceStorage = env.instanceStorage
  lookup : ∀ k : DataKey, k.program? = some p → env₁.persistent.lookup k = env.persistent.lookup k

/-- Who pays what in a plan for `p`: a maintainer pays for a `fund` that they authorise, or the
contract pays no more than the escrow of `p`. -/
def Sourced (auths : Finset Address) (env : Env H) (p : UInt64) (call : Call) (tr : Transfer) :
    Prop :=
  env.instanceStorage.token = some tr.token ∧ 0 < tr.amount ∧
    ((tr.src ∈ auths ∧ tr.dst = H.self ∧ call = .fund p tr.src tr.amount) ∨
      (tr.src = H.self ∧ tr.amount ≤ escrowAt env.persistent p))

/-- The call leads from `env` to `env'` by `plan`, as it does wherever things look the same to it and
the token accepts the payment. -/
structure Carries (auths : Finset Address) (p : UInt64) (call : Call) (value : Value) (plan : Plan)
    (env env' : Env H) : Prop where
  paid : plan.Payable env
  leads : plan.Leads env env'
  writes : ∀ w ∈ plan.writes, w.1.program? = some p
  payment : ∀ tr, plan.payment = some tr → Sourced auths env p call tr
  again : ∀ env₁, SameFor p env env₁ → plan.Payable env₁ →
    ∃ env₁', Effect auths env₁ call value env₁' ∧ plan.Leads env₁ env₁'

/-- A call that only writes. -/
theorem Carries.of_write (writes : List (Sigma DataKey.Val)) {events : List Event}
    (hwrites : ∀ w ∈ writes, w.1.program? = some p)
    (hagain : ∀ env₁ : Env H, SameFor p env env₁ → ∃ events, Effect auths env₁ call value
      { env₁ with persistent := KeyedStore.insertAll env₁.persistent writes, events }) :
    Carries auths p call value ⟨none, writes⟩ env
      { env with persistent := KeyedStore.insertAll env.persistent writes, events } where
  paid _ h := by cases h
  leads := leads_write writes events
  writes := hwrites
  payment _ h := by cases h
  again env₁ hsame _ := by
    obtain ⟨events, heff⟩ := hagain env₁ hsame
    exact ⟨_, heff, leads_write writes events⟩

/-- A call that pays and writes. -/
theorem Carries.of_pay (writes : List (Sigma DataKey.Val)) {events : List Event}
    (hpay : H.token.transfer (env.tokens token) src dst amount = some st)
    (hwrites : ∀ w ∈ writes, w.1.program? = some p)
    (hsourced : Sourced auths env p call ⟨token, src, dst, amount⟩)
    (hagain : ∀ (env₁ : Env H) st, SameFor p env env₁ →
      H.token.transfer (env₁.tokens token) src dst amount = some st →
      ∃ events, Effect auths env₁ call value
        { env₁.withTransfer token src dst amount st with
          persistent := KeyedStore.insertAll env₁.persistent writes, events }) :
    Carries auths p call value ⟨some ⟨token, src, dst, amount⟩, writes⟩ env
      { env.withTransfer token src dst amount st with
        persistent := KeyedStore.insertAll env.persistent writes, events } where
  paid tr h := by cases h; exact ⟨st, hpay⟩
  leads := leads_pay writes events hpay
  writes := hwrites
  payment tr h := by cases h; exact hsourced
  again env₁ hsame hpayable := by
    obtain ⟨st₁, hst₁⟩ := hpayable _ rfl
    obtain ⟨events, heff⟩ := hagain env₁ st₁ hsame hst₁
    exact ⟨_, heff, leads_pay writes events hst₁⟩

/-- **A call on a program has a plan.** -/
theorem Effect.carries (heff : Effect auths env call value env')
    (hrewards : PositiveRewards env.persistent) (hp : call.program? = some p) :
    ∃ plan, Carries auths p call value plan env env' := by
  have program : ∀ {env₁ : Env H}, SameFor p env env₁ →
      env₁.persistent.program p = env.persistent.program p :=
    fun hsame => hsame.lookup (.program p) rfl
  have role : ∀ {env₁ : Env H} {f : Storage → Option Address} {a : Address}, SameFor p env env₁ →
      f env.instanceStorage = some a → f env₁.instanceStorage = some a :=
    fun hsame h => hsame.instanceStorage ▸ h
  cases heff with
  | initialise => cases hp
  | createProgram => cases hp
  | @fund r src amount x token st hauth hmin hx hsrc htoken hpay hrange =>
    obtain rfl : p = r := (Option.some.inj hp).symm
    refine ⟨_, .of_pay [⟨.program p, { x with escrowBalance := x.escrowBalance + amount }⟩] hpay
      (by simp [DataKey.program?])
      ⟨htoken, minDeposit_le hmin, Or.inl ⟨hauth, rfl, rfl⟩⟩ fun env₁ st₁ hsame hst₁ =>
        ⟨_, .fund hauth hmin ((program hsame).trans hx) hsrc (role hsame htoken) hst₁ hrange⟩⟩
  | @registerContributor r caller user a x hauth hx hcaller hnew =>
    obtain rfl : p = r := (Option.some.inj hp).symm
    refine ⟨_, .of_write [⟨.contributor p user, (⟨a⟩ : Contributor)⟩] (by simp [DataKey.program?])
      fun env₁ hsame => ⟨_, .registerContributor hauth ((program hsame).trans hx) hcaller
        ((hsame.lookup (.contributor p user) rfl).trans hnew)⟩⟩
  | @recordMerge gateway r user pr points x a token spent st hauth hgateway hpoints hpr hx hactive
      huser hrange hescrow hspent htoken hpay hrange' =>
    obtain rfl : p = r := (Option.some.inj hp).symm
    have processed : ∀ {env₁ : Env H}, SameFor p env env₁ →
        env₁.persistent.processedPr p pr = env.persistent.processedPr p pr :=
      fun hsame => hsame.lookup (.processedPr p pr) rfl
    refine ⟨_, .of_pay [⟨.program p, { x with
          milestoneSpent := spent
          escrowBalance := x.escrowBalance - points.toNat * x.rewardPerPoint }⟩,
        ⟨.processedPr p pr, true⟩] hpay (by simp [DataKey.program?])
      ⟨htoken, payout_pos hpoints (hrewards p x hx),
        Or.inr ⟨rfl, (escrowAt_of_program hx).symm ▸ hescrow⟩⟩ fun env₁ st₁ hsame hst₁ =>
        ⟨_, .recordMerge hauth (role hsame hgateway) hpoints (processed hsame ▸ hpr)
          ((program hsame).trans hx) hactive
          ((hsame.lookup (.contributor p user) rfl).trans huser) hrange hescrow hspent
          (role hsame htoken) hst₁ hrange'⟩⟩
  | @pause r maintainer x hauth hx hmaintainer =>
    obtain rfl : p = r := (Option.some.inj hp).symm
    refine ⟨_, .of_write [⟨.program p, { x with status := .paused }⟩] (by simp [DataKey.program?])
      fun env₁ hsame => ⟨_, .pause hauth ((program hsame).trans hx) hmaintainer⟩⟩
  | @resume r maintainer x hauth hx hmaintainer =>
    obtain rfl : p = r := (Option.some.inj hp).symm
    refine ⟨_, .of_write [⟨.program p, { x with status := .active }⟩] (by simp [DataKey.program?])
      fun env₁ hsame => ⟨_, .resume hauth ((program hsame).trans hx) hmaintainer⟩⟩
  | @setRatio r maintainer reward x hauth hreward hx hmaintainer =>
    obtain rfl : p = r := (Option.some.inj hp).symm
    refine ⟨_, .of_write [⟨.program p, { x with rewardPerPoint := reward }⟩]
      (by simp [DataKey.program?]) fun env₁ hsame =>
        ⟨env₁.events, .setRatio hauth hreward ((program hsame).trans hx) hmaintainer⟩⟩
  | @withdrawNothing r maintainer x hauth hx hmaintainer hpaused hempty =>
    obtain rfl : p = r := (Option.some.inj hp).symm
    refine ⟨_, .of_write [] (by simp) fun env₁ hsame => ⟨env₁.events,
      .withdrawNothing hauth ((program hsame).trans hx) hmaintainer hpaused hempty⟩⟩
  | @withdrawRemaining r maintainer x token st hauth hx hmaintainer hpaused hpos htoken hpay =>
    obtain rfl : p = r := (Option.some.inj hp).symm
    refine ⟨_, .of_pay [⟨.program p, { x with escrowBalance := 0 }⟩] hpay
      (by simp [DataKey.program?])
      ⟨htoken, hpos, Or.inr ⟨rfl, (escrowAt_of_program hx).ge⟩⟩
      fun env₁ st₁ hsame hst₁ => ⟨env₁.events, .withdrawRemaining hauth
        ((program hsame).trans hx) hmaintainer hpaused hpos (role hsame htoken) hst₁⟩⟩

/-! ### The supply of the token -/

/-- No set of addresses holds more than an `i128` can tell. -/
def SupplyBounded (balance : Address → ℤ) : Prop :=
  ∀ s : Finset Address, ∑ a ∈ s, balance a ≤ i128Max

/-- The token makes every transfer that the balances allow. -/
def Sep41.Accepting (T : Sep41) : Prop :=
  ∀ st src dst amount, 0 ≤ amount → amount ≤ T.balance st src →
    moved (T.balance st) src dst amount dst ≤ i128Max → ∃ st', T.transfer st src dst amount = some st'

theorem plainToken_accepting : plainToken.Accepting := by
  intro st src dst amount hpos hsrc hdst
  exact ⟨_, dif_pos ⟨hpos, hsrc, hdst⟩⟩

/-- A transfer does not change the supply. -/
theorem SupplyBounded.moved {balance : Address → ℤ} (h : SupplyBounded balance)
    (hnonneg : ∀ a, 0 ≤ moved balance src dst amount a) :
    SupplyBounded (moved balance src dst amount) := by
  intro s
  let u := insert src (insert dst s)
  have hsrc : src ∈ u := Finset.mem_insert_self _ _
  have hdst : dst ∈ u := Finset.mem_insert_of_mem (Finset.mem_insert_self _ _)
  have hsub : s ⊆ u := (Finset.subset_insert _ _).trans (Finset.subset_insert _ _)
  calc ∑ a ∈ s, Escrow.moved balance src dst amount a
      ≤ ∑ a ∈ u, Escrow.moved balance src dst amount a :=
        Finset.sum_le_sum_of_subset_of_nonneg hsub fun a _ _ => hnonneg a
    _ = ∑ a ∈ u, balance a := by
        simp only [Escrow.moved, Finset.sum_add_distrib, Finset.sum_sub_distrib]
        simp [hsrc, hdst]
    _ ≤ i128Max := h u

/-- What a covered transfer brings fits the balance of its receiver. -/
theorem SupplyBounded.fits {balance : Address → ℤ} (h : SupplyBounded balance)
    (hle : amount ≤ balance src) : Escrow.moved balance src dst amount dst ≤ i128Max := by
  by_cases heq : dst = src
  · subst heq
    have hown := h {dst}
    rw [Finset.sum_singleton] at hown
    simp only [Escrow.moved, if_true]
    omega
  · have hboth := h {src, dst}
    rw [Finset.sum_pair (Ne.symm heq)] at hboth
    simp only [Escrow.moved, if_neg heq, if_true]
    omega

/-! ### After a call on another program -/

variable {A B : Call} {vA vB : Value} {planA planB : Plan} {authsA authsB : Finset Address}
  {envA envB : Env H}

/-- A call on `p` looks to a call on `q` as if nothing had happened. -/
theorem Carries.sameFor (hA : Carries authsA p A vA planA env envA) (hpq : p ≠ q) :
    SameFor q env envA := by
  refine ⟨hA.leads.instanceStorage, fun k hk => ?_⟩
  rw [hA.leads.persistent]
  refine KeyedStore.lookup_insertAll_of_not_mem fun w hw hwk => hpq ?_
  subst hwk
  exact Option.some.inj ((hA.writes w hw).symm.trans hk)

theorem Carries.supplyBounded (hA : Carries authsA p A vA planA env envA) (t : Address)
    (hsupply : SupplyBounded (env.balances t)) : SupplyBounded (envA.balances t) := by
  have hnonneg : ∀ a, 0 ≤ envA.balances t a := fun a => H.token.balance_nonneg _ _
  rw [hA.leads.balances] at hnonneg ⊢
  unfold Plan.balances at hnonneg ⊢
  cases hpayment : planA.payment with
  | none => exact hsupply
  | some tr =>
    rw [hpayment] at hnonneg
    simp only [Option.elim_some] at hnonneg ⊢
    by_cases ht : t = tr.token
    · have hpay : Escrow.pay tr env.balances t =
          Escrow.moved (env.balances t) tr.src tr.dst tr.amount := funext fun a => if_pos ht
      rw [hpay] at hnonneg ⊢
      exact hsupply.moved hnonneg
    · have hpay : Escrow.pay tr env.balances t = env.balances t := funext fun a => if_neg ht
      rwa [hpay]

/-- No call changes the supply. -/
theorem Effect.supplyBounded (heff : Effect auths env call value env')
    (hrewards : PositiveRewards env.persistent) {t : Address}
    (hsupply : SupplyBounded (env.balances t)) : SupplyBounded (env'.balances t) := by
  cases hp : call.program? with
  | some p =>
    obtain ⟨plan, hcarries⟩ := heff.carries hrewards hp
    exact hcarries.supplyBounded t hsupply
  | none =>
    cases heff with
    | initialise => exact hsupply
    | createProgram => exact hsupply
    | _ => cases hp

theorem supplyBounded_performAll (calls : List (Finset Address × Call)) {t : Address}
    (hrewards : PositiveRewards env.persistent) (hsupply : SupplyBounded (env.balances t)) :
    SupplyBounded ((performAll env calls).2.balances t) := by
  induction calls generalizing env with
  | nil => exact hsupply
  | cons c calls ih =>
    have hstep := step_perform env c.1 c.2
    refine ih (hrewards.step hstep) ?_
    split
    · rename_i hcall
      exact (effect_of_invoke hcall).supplyBounded hrewards hsupply
    · exact hsupply

/-- Who does not pay keeps their balances. -/
theorem Carries.balance_le (hA : Carries authsA p A vA planA env envA) {t a : Address}
    (ha : ∀ tr, planA.payment = some tr → tr.src ≠ a) : env.balances t a ≤ envA.balances t a := by
  rw [hA.leads.balances]
  unfold Plan.balances
  cases hpayment : planA.payment with
  | none => exact le_rfl
  | some tr =>
    have hpos := (hA.payment tr hpayment).2.1
    have hne := ha tr hpayment
    simp only [Option.elim_some, Escrow.pay]
    split_ifs with ht
    · simp only [Escrow.moved, if_neg hne.symm]
      split_ifs
      · omega
      · omega
    · exact le_rfl

/-- Two calls that are not both a `fund` from one wallet. -/
def DistinctWallets (A B : Call) : Prop :=
  ∀ p q w n m, A = .fund p w n → B ≠ .fund q w m

/-- The payer of the second call can still pay after the first. -/
theorem Carries.payable_after (hA : Carries authsA p A vA planA env envA)
    (hB : Carries authsB q B vB planB env envB) (hpq : p ≠ q) (hwallets : DistinctWallets A B)
    (hself : H.self ∉ authsB) (hsolvent : Solvent envA) (haccepting : H.token.Accepting)
    (hsupply : ∀ t, env.instanceStorage.token = some t → SupplyBounded (env.balances t)) :
    planB.Payable envA := by
  intro tr htr
  obtain ⟨htoken, hpos, hsource⟩ := hB.payment tr htr
  have hsame := hA.sameFor hpq
  have hcovered : tr.amount ≤ envA.balances tr.token tr.src := by
    rcases hsource with ⟨hauth, -, hfund⟩ | ⟨hsrc, hescrow⟩
    · -- a wallet: the first call does not pay from it
      obtain ⟨st, hst⟩ := hB.paid tr htr
      refine (H.token.transfer_covered hst).trans (hA.balance_le fun tr' htr' heq => ?_)
      rcases (hA.payment tr' htr').2.2 with ⟨-, -, hfund'⟩ | ⟨hsrc', -⟩
      · rw [heq] at hfund'
        exact hwallets _ _ _ _ _ hfund' hfund
      · exact hself (hsrc' ▸ heq ▸ hauth)
    · -- the pool: the state after the first call is solvent
      have hlookup : escrowAt envA.persistent q = escrowAt env.persistent q :=
        congrArg (Option.elim · 0 Program.escrowBalance) (hsame.lookup (.program q) rfl)
      have hle := escrowAt_le_total hsolvent.nonneg q
      have hpool := hsolvent.covered tr.token (hsame.instanceStorage ▸ htoken)
      rw [hsrc]
      simp only [Env.balances, Env.pool] at hpool ⊢
      omega
  exact haccepting _ _ _ _ hpos.le hcovered
    ((hA.supplyBounded tr.token (hsupply tr.token htoken)).fits hcovered)

/-- The second call succeeds after the first, and comes to the same. -/
theorem Carries.after (hA : Carries authsA p A vA planA env envA)
    (hB : Carries authsB q B vB planB env envB) (hpq : p ≠ q) (hwallets : DistinctWallets A B)
    (hself : H.self ∉ authsB) (hsolvent : Solvent envA) (haccepting : H.token.Accepting)
    (hsupply : ∀ t, env.instanceStorage.token = some t → SupplyBounded (env.balances t)) :
    ∃ envAB, (invoke B).exec authsB envA = .ok (vB, envAB) ∧ planB.Leads envA envAB := by
  obtain ⟨envAB, heff, hleads⟩ := hB.again envA (hA.sameFor hpq)
    (hA.payable_after hB hpq hwallets hself hsolvent haccepting hsupply)
  exact ⟨envAB, invoke_of_effect heff, hleads⟩

/-! ### Both orders -/

/-- Payments commute. -/
theorem pay_comm (tr tr' : Transfer) (balances : Address → Address → ℤ) :
    Escrow.pay tr (Escrow.pay tr' balances) = Escrow.pay tr' (Escrow.pay tr balances) := by
  funext t a
  unfold Escrow.pay
  by_cases ht : t = tr.token
  · by_cases ht' : t = tr'.token
    · simp only [if_pos ht, if_pos ht', moved]
      omega
    · simp only [if_pos ht, if_neg ht', moved]
  · by_cases ht' : t = tr'.token
    · simp only [if_neg ht, if_pos ht', moved]
    · simp only [if_neg ht, if_neg ht']

theorem Plan.balances_comm (P Q : Plan) (balances : Address → Address → ℤ) :
    P.balances (Q.balances balances) = Q.balances (P.balances balances) := by
  obtain ⟨paymentP, writesP⟩ := P
  obtain ⟨paymentQ, writesQ⟩ := Q
  cases paymentP with
  | none => rfl
  | some tr =>
    cases paymentQ with
    | none => rfl
    | some tr' => exact pay_comm tr tr' balances

/-- **Calls on different programs are independent.** In a reachable state, two calls on different
programs that each succeed alone, and are not both a `fund` from one wallet, succeed in either order,
return what they return alone, and leave the same storage and the same token balances. -/
theorem different_programs_independent {tokens : Address → H.token.State} {h : History H}
    (hrun : Run Step (deploy tokens) h env) (hself : ∀ e ∈ h, H.self ∉ e.label.auths)
    (haccepting : H.token.Accepting)
    (hsupply : ∀ t, env.instanceStorage.token = some t → SupplyBounded (env.balances t))
    (hA : (invoke A).exec authsA env = .ok (vA, envA))
    (hB : (invoke B).exec authsB env = .ok (vB, envB))
    (hp : A.program? = some p) (hq : B.program? = some q) (hpq : p ≠ q)
    (hselfA : H.self ∉ authsA) (hselfB : H.self ∉ authsB)
    (hwallets : ∀ w n m, ¬ (A = .fund p w n ∧ B = .fund q w m)) :
    ∃ envAB envBA, (invoke B).exec authsB envA = .ok (vB, envAB) ∧
      (invoke A).exec authsA envB = .ok (vA, envBA) ∧
      envAB.instanceStorage = envBA.instanceStorage ∧ envAB.persistent = envBA.persistent ∧
      envAB.balances = envBA.balances := by
  obtain ⟨hsolvent, hrewards⟩ := solvent_of_run hrun hself
  have hdistinct : DistinctWallets A B := by
    rintro p' q' w n m rfl rfl
    obtain rfl : p' = p := Option.some.inj hp
    obtain rfl : q' = q := Option.some.inj hq
    exact hwallets w n m ⟨rfl, rfl⟩
  have heffA := effect_of_invoke hA
  have heffB := effect_of_invoke hB
  obtain ⟨planA, hcarriesA⟩ := heffA.carries hrewards hp
  obtain ⟨planB, hcarriesB⟩ := heffB.carries hrewards hq
  obtain ⟨envAB, hAB, hleadsAB⟩ := hcarriesA.after hcarriesB hpq hdistinct hselfB
    (hsolvent.effect hrewards hselfA heffA) haccepting hsupply
  obtain ⟨envBA, hBA, hleadsBA⟩ := hcarriesB.after hcarriesA hpq.symm
    (fun _ _ _ _ _ hfundB hfundA => hdistinct _ _ _ _ _ hfundA hfundB) hselfA
    (hsolvent.effect hrewards hselfB heffB) haccepting hsupply
  -- both orders make the same two payments and the same writes, to different keys
  refine ⟨envAB, envBA, hAB, hBA, ?_, ?_, ?_⟩
  · rw [hleadsAB.instanceStorage, hleadsBA.instanceStorage, hcarriesA.leads.instanceStorage,
      hcarriesB.leads.instanceStorage]
  · rw [hleadsAB.persistent, hleadsBA.persistent, hcarriesA.leads.persistent,
      hcarriesB.leads.persistent]
    refine KeyedStore.insertAll_comm fun w hw v hv heq => hpq ?_
    have hkey := (hcarriesA.writes w hw).symm.trans (heq ▸ hcarriesB.writes v hv)
    exact Option.some.inj hkey
  · rw [hleadsAB.balances, hleadsBA.balances, hcarriesA.leads.balances, hcarriesB.leads.balances,
      Plan.balances_comm]

/-- Two programs of one maintainer, the first funded and with a contributor. -/
def Setup.twoPrograms : List (Finset Address × Call) :=
  [ ({admin}, .initialise admin gateway Setup.token),
    ({maintainer}, .createProgram maintainer "StellarRoute/WaveFlow" 100 none),
    ({maintainer}, .createProgram maintainer "StellarRoute/Docs" 10 none),
    ({maintainer}, .fund 1 maintainer 5000),
    ({maintainer}, .registerContributor 1 maintainer "alice-dev" maintainer) ]

theorem Setup.supplyBounded (t : Address) : SupplyBounded ((deploy Setup.tokens).balances t) := by
  intro s
  have hmint : ∀ a, (deploy Setup.tokens).balances t a = if a = maintainer then 10000 else 0 :=
    fun a => rfl
  simp only [hmint, Finset.sum_ite_eq']
  split_ifs
  · decide
  · decide

theorem different_programs_independent_setup :
    let env := (performAll (deploy Setup.tokens) Setup.twoPrograms).2
    let merge : Call := .recordMerge Setup.gateway 1 "alice-dev" 42 3
    let fund : Call := .fund 2 Setup.maintainer 1000
    let envA := (perform env {Setup.gateway} merge).2
    let envB := (perform env {Setup.maintainer} fund).2
    ∃ envAB envBA, (invoke fund).exec {Setup.maintainer} envA = .ok (.unit, envAB) ∧
      (invoke merge).exec {Setup.gateway} envB = .ok (.amount 300, envBA) ∧
      envAB.instanceStorage = envBA.instanceStorage ∧ envAB.persistent = envBA.persistent ∧
      envAB.balances = envBA.balances :=
  different_programs_independent (run_performAll _ _) (by decide +kernel) plainToken_accepting
    (fun t _ => supplyBounded_performAll _ (fun p x hx => by simp [deploy] at hx)
      (Setup.supplyBounded t))
    (exec_of_perform (by decide +kernel)) (exec_of_perform (by decide +kernel)) rfl rfl (by decide)
    (by decide +kernel) (by decide +kernel) (fun w n m h => by cases h.1)

end WaveFlow.Escrow
