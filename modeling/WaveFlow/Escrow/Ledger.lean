import WaveFlow.Escrow.ProgramHistory

/-!
# The ledger of a program, and who can take from it

Two results about every run that begins with a successful `initialise`:

* `ledger_exact`: the escrow of a program is what was funded less what its merges and withdrawals
  returned, and each of these amounts is what the token moved;
* `only_right_party`: a step that lowers the pool or an escrow is a merge by the gateway of an
  active program, or a withdrawal by the creator of a paused one.
-/

namespace WaveFlow.Escrow

open Transition

variable {H : Host} {env env' : Env H} {l : Label} {p : UInt64} {gateway token : Address}
  {h : History H}

/-- The step made one transfer, of `amount` at `token` from `src` to `dst`, and moved exactly
that. -/
structure Paid (env env' : Env H) (token src dst : Address) (amount : ℤ) : Prop where
  transfers : env'.transfers = env.transfers ++ [⟨token, src, dst, amount⟩]
  balances : ∀ a, H.token.balance (env'.tokens token) a =
    moved (H.token.balance (env.tokens token)) src dst amount a
  others : ∀ t, t ≠ token → env'.tokens t = env.tokens t

theorem paid_withTransfer {src dst : Address} {amount : ℤ} {st : H.token.State}
    (hpay : H.token.transfer (env.tokens token) src dst amount = some st)
    (persistent : Storage) (events : List Event) :
    Paid env { env.withTransfer token src dst amount st with persistent, events }
      token src dst amount where
  transfers := rfl
  balances a := by simp [Env.withTransfer, H.token.transfer_moves hpay]
  others t ht := by simp [Env.withTransfer, ht]

theorem Initialised.token_eq (hinit : Initialised gateway token env) {t : Address}
    (ht : env.instanceStorage.token = some t) : t = token :=
  Option.some.inj (ht.symm.trans hinit.token)

/-! ### What each operation moves -/

/-- A successful `fund` takes its amount from the maintainer. -/
theorem Regular.fund_paid (hreg : Regular gateway token h env) {auths : Finset Address}
    {src : Address} {amount : ℤ} {value : Value}
    (hstep : Step env (.ok auths (.fund p src amount) value) env') :
    (env.persistent.program p).map Program.maintainer = some src ∧
      Paid env env' token src H.self amount := by
  cases hstep.effect with
  | fund hauth hmin hx hsrc htoken hpay hrange =>
    obtain rfl := hreg.initialised.token_eq htoken
    exact ⟨by simp [hx, hsrc], paid_withTransfer hpay _ _⟩

/-- A successful `record_merge` pays points times the last reward set, which is positive, to the
registered address. -/
theorem Regular.merge_paid (hreg : Regular gateway token h env) {auths : Finset Address}
    {g : Address} {user : Symbol} {pr : UInt64} {points : UInt32} {value : Value}
    (hstep : Step env (.ok auths (.recordMerge g p user pr points) value) env') :
    ∃ n reward a, value = .amount n ∧ 0 < n ∧ lastIn (Label.ratio p) h = some reward ∧
      n = points.toNat * reward ∧ env.persistent.contributor p user = some ⟨a⟩ ∧
      Paid env env' token H.self a n := by
  cases hstep.effect with
  | recordMerge hauth hgateway hpoints hpr hx hactive huser hrange hescrow hspent htoken hpay =>
    obtain rfl := hreg.initialised.token_eq htoken
    refine ⟨_, _, _, rfl, payout_pos hpoints (hreg.rewards _ _ hx), ?_, rfl, huser,
      paid_withTransfer hpay _ _⟩
    rw [← hreg.recorded.ratio, hx]
    rfl

/-- A successful `withdraw_remaining` of a paused program pays its whole escrow to the maintainer,
and nothing at all when it is empty. -/
theorem Regular.withdraw_paid (hreg : Regular gateway token h env) {auths : Finset Address}
    {maintainer : Address} {value : Value}
    (hstep : Step env (.ok auths (.withdrawRemaining p maintainer) value) env') :
    ∃ n, value = .amount n ∧ (env.persistent.program p).map Program.maintainer = some maintainer ∧
      (n = 0 ∧ escrowAt env.persistent p ≤ 0 ∧ env' = env ∨
        0 < n ∧ n = escrowAt env.persistent p ∧ Paid env env' token H.self maintainer n) := by
  cases hstep.effect with
  | withdrawNothing hauth hx hmaintainer hpaused hempty =>
    exact ⟨0, rfl, by simp [hx, hmaintainer],
      Or.inl ⟨rfl, (escrowAt_of_program hx).trans_le hempty, rfl⟩⟩
  | withdrawRemaining hauth hx hmaintainer hpaused hpos htoken hpay =>
    obtain rfl := hreg.initialised.token_eq htoken
    exact ⟨_, rfl, by simp [hx, hmaintainer],
      Or.inr ⟨hpos, (escrowAt_of_program hx).symm, paid_withTransfer hpay _ _⟩⟩

/-- **Exact ledger.** The escrow of every program is the sum of what was funded less the sums of
what its merges and withdrawals returned. A merge returns a positive amount, the points times the
reward last set, and each amount is what the token moved: from the maintainer, to the registered
address, to the maintainer. A withdrawal that returns nothing found nothing to return. -/
theorem ledger_exact {tokens : Address → H.token.State} {auths₀ : Finset Address} {admin : Address}
    {value₀ : Value} {env₀ : Env H}
    (hinit : Step (deploy tokens) (.ok auths₀ (.initialise admin gateway token) value₀) env₀)
    (hrun : Run Step env₀ h env) :
    (∀ p, escrowAt env.persistent p =
      sumIn (Label.funded p) h - sumIn (Label.merged p) h - sumIn (Label.withdrawn p) h) ∧
    (∀ auths p src amount value env', Step env (.ok auths (.fund p src amount) value) env' →
      (env.persistent.program p).map Program.maintainer = some src ∧
        Paid env env' token src H.self amount) ∧
    (∀ auths g p user pr points value env',
      Step env (.ok auths (.recordMerge g p user pr points) value) env' →
      ∃ n reward a, value = .amount n ∧ 0 < n ∧ lastIn (Label.ratio p) h = some reward ∧
        n = (points.toNat : ℤ) * reward ∧ env.persistent.contributor p user = some ⟨a⟩ ∧
        Paid env env' token H.self a n) ∧
    (∀ auths p maintainer value env',
      Step env (.ok auths (.withdrawRemaining p maintainer) value) env' →
      ∃ n, value = .amount n ∧
        (env.persistent.program p).map Program.maintainer = some maintainer ∧
        (n = 0 ∧ escrowAt env.persistent p ≤ 0 ∧ env' = env ∨
          0 < n ∧ n = escrowAt env.persistent p ∧ Paid env env' token H.self maintainer n)) := by
  have hreg := regular_of_run hinit hrun
  exact ⟨hreg.recorded.escrow, fun _ _ _ _ _ _ hstep => hreg.fund_paid hstep,
    fun _ _ _ _ _ _ _ _ hstep => hreg.merge_paid hstep,
    fun _ _ _ _ _ hstep => hreg.withdraw_paid hstep⟩

theorem ledger_exact_setup :
    let r₀ := perform (deploy Setup.tokens) {Setup.admin}
      (.initialise Setup.admin Setup.gateway Setup.token)
    let r := performAll r₀.2 Setup.calls.tail
    ∀ p, escrowAt r.2.persistent p =
      sumIn (Label.funded p) r.1 - sumIn (Label.merged p) r.1 - sumIn (Label.withdrawn p) r.1 :=
  (ledger_exact (step_of_perform {Setup.admin}
    (.initialise Setup.admin Setup.gateway Setup.token) .unit (by decide +kernel))
    (run_performAll _ Setup.calls.tail)).1

/-! ### Who can take from it -/

/-- The step was a merge of an active program `p` by the gateway, paid to the registered address. -/
def MergePayment (gateway token : Address) (h : History H) (env : Env H) (l : Label) (env' : Env H)
    (p : UInt64) : Prop :=
  ∃ auths user pr points n a, l = .ok auths (.recordMerge gateway p user pr points) (.amount n) ∧
    gateway ∈ auths ∧ lastIn (Label.toggle p) h ≠ some .paused ∧
    env.persistent.contributor p user = some ⟨a⟩ ∧ Paid env env' token H.self a n

/-- The step was a withdrawal of the whole escrow of a paused program `p`, by and to its creator. -/
def CreatorWithdrawal (token : Address) (h : History H) (env : Env H) (l : Label) (env' : Env H)
    (p : UInt64) : Prop :=
  ∃ auths creator n, l = .ok auths (.withdrawRemaining p creator) (.amount n) ∧
    creator ∈ auths ∧ lastIn (Label.creator p) h = some creator ∧
    lastIn (Label.toggle p) h = some .paused ∧ n = escrowAt env.persistent p ∧
    Paid env env' token H.self creator n

/-- The contract holds no less of any token than before, and no program has less in escrow. -/
structure Kept (env env' : Env H) : Prop where
  pool : ∀ t, env.pool t ≤ env'.pool t
  escrow : ∀ p, escrowAt env.persistent p ≤ escrowAt env'.persistent p

theorem Regular.not_paused (hreg : Regular gateway token h env) {x : Program}
    (hx : env.persistent.program p = some x) (hactive : x.status = .active) :
    lastIn (Label.toggle p) h ≠ some .paused := by
  intro ht
  have hstatus := hreg.recorded.status p x hx
  rw [ht, hactive] at hstatus
  exact absurd hstatus (by simp)

theorem Regular.paused (hreg : Regular gateway token h env) {x : Program}
    (hx : env.persistent.program p = some x) (hpaused : x.status = .paused) :
    lastIn (Label.toggle p) h = some .paused := by
  have hstatus := hreg.recorded.status p x hx
  rw [hpaused] at hstatus
  cases ht : lastIn (Label.toggle p) h with
  | none => simp [ht] at hstatus
  | some status => simpa [ht] using hstatus.symm

/-- A deposit takes nothing from the pool, whoever makes it. -/
theorem pool_le_deposit (env : Env H) {token src : Address} {amount : ℤ} {st : H.token.State}
    (hpos : 0 ≤ amount)
    (hpay : H.token.transfer (env.tokens token) src H.self amount = some st) (t : Address) :
    env.pool t ≤ (env.withTransfer token src H.self amount st).pool t := by
  by_cases ht : t = token
  · subst ht
    rw [pool_withTransfer env hpay]
    simp only [moved, Env.pool]
    split_ifs <;> omega
  · simp [Env.pool, Env.withTransfer, ht]

/-- A step other than a merge or a withdrawal keeps the pool and every escrow. -/
theorem Regular.step_cases (hreg : Regular gateway token h env) (hstep : Step env l env') :
    Kept env env' ∨ ∃ p,
      (MergePayment gateway token h env l env' p ∨ CreatorWithdrawal token h env l env' p) ∧
      ∀ q, q ≠ p → escrowAt env'.persistent q = escrowAt env.persistent q := by
  have hescrow := hstep.escrow hreg.allocated
  rcases hstep.cases with ⟨auths, call, value, rfl, heff⟩ | ⟨⟨auths, call, why, rfl⟩, rfl⟩ |
    ⟨rfl, tokens, hpool, rfl⟩
  · cases heff with
    | fund hauth hmin hx hsrc htoken hpay =>
      have hpos := minDeposit_le hmin
      refine Or.inl ⟨pool_le_deposit env hpos.le hpay, fun q => le_of_le_of_eq ?_ (hescrow q).symm⟩
      simp only [Label.funded, Label.merged, Label.withdrawn]
      split_ifs <;> omega
    | @recordMerge g p user pr points x a t spent st hauth hgateway hpoints hpr hx hactive huser
        hrange hcovered hspent htoken hpay =>
      obtain rfl := hreg.initialised.token_eq htoken
      obtain rfl := Option.some.inj (hgateway.symm.trans hreg.initialised.gateway)
      refine Or.inr ⟨p, Or.inl ⟨_, _, _, _, _, _, rfl, hauth, hreg.not_paused hx hactive, huser,
        paid_withTransfer hpay _ _⟩, fun q hq => ?_⟩
      simpa [Label.funded, Label.merged, Label.withdrawn, hq] using hescrow q
    | @withdrawRemaining p maintainer x t st hauth hx hmaintainer hpaused hpos htoken hpay =>
      obtain rfl := hreg.initialised.token_eq htoken
      have hcreator := hreg.recorded.creator p
      rw [hx] at hcreator
      refine Or.inr ⟨p, Or.inr ⟨_, _, _, rfl, hauth, hcreator.symm.trans (congrArg some hmaintainer),
        hreg.paused hx hpaused, (escrowAt_of_program hx).symm, paid_withTransfer hpay _ _⟩,
        fun q hq => ?_⟩
      simpa [Label.funded, Label.merged, Label.withdrawn, hq] using hescrow q
    | _ =>
      refine Or.inl ⟨fun t => le_rfl, fun q => le_of_le_of_eq ?_ (hescrow q).symm⟩
      simp [Label.funded, Label.merged, Label.withdrawn]
  · exact Or.inl ⟨fun t => le_rfl, fun q => le_rfl⟩
  · exact Or.inl ⟨hpool, fun q => le_rfl⟩

/-- **Only the right party can take tokens out.** A step that lowers a token balance of the contract
or an escrow is a merge by the gateway of a program not paused, or a withdrawal by the creator of a
paused one, and lowers the escrow of that program only; and no merge of a paused program succeeds. -/
theorem only_right_party {tokens : Address → H.token.State} {auths₀ : Finset Address}
    {admin : Address} {value₀ : Value} {env₀ : Env H}
    (hinit : Step (deploy tokens) (.ok auths₀ (.initialise admin gateway token) value₀) env₀)
    (hrun : Run Step env₀ h env) (hstep : Step env l env') :
    ((∃ t, env'.pool t < env.pool t) ∨
        (∃ q, escrowAt env'.persistent q < escrowAt env.persistent q) → ∃ p,
      (MergePayment gateway token h env l env' p ∨ CreatorWithdrawal token h env l env' p) ∧
      ∀ q, escrowAt env'.persistent q < escrowAt env.persistent q → q = p) ∧
    ∀ auths g p user pr points value, l = .ok auths (.recordMerge g p user pr points) value →
      lastIn (Label.toggle p) h ≠ some .paused := by
  have hreg := regular_of_run hinit hrun
  constructor
  · intro hlower
    rcases hreg.step_cases hstep with hkept | ⟨p, hp, hothers⟩
    · rcases hlower with ⟨t, ht⟩ | ⟨q, hq⟩
      · exact absurd (hkept.pool t) (by omega)
      · exact absurd (hkept.escrow q) (by omega)
    · refine ⟨p, hp, fun q hq => ?_⟩
      by_contra hne
      exact absurd (hothers q hne) (by omega)
  · rintro auths g p user pr points value rfl
    cases hstep.effect with
    | recordMerge hauth hgateway hpoints hpr hx hactive => exact hreg.not_paused hx hactive

theorem only_right_party_setup :
    let r₀ := perform (deploy Setup.tokens) {Setup.admin}
      (.initialise Setup.admin Setup.gateway Setup.token)
    let r := performAll r₀.2 (Setup.calls.take 4).tail
    let merge : Call := .recordMerge Setup.gateway 1 "alice-dev" 42 3
    let l : Label := .ok {Setup.gateway} merge (.amount 300)
    let env' := (perform r.2 {Setup.gateway} merge).2
    ∃ p, (MergePayment Setup.gateway Setup.token r.1 r.2 l env' p ∨
        CreatorWithdrawal Setup.token r.1 r.2 l env' p) ∧
      ∀ q, escrowAt env'.persistent q < escrowAt r.2.persistent q → q = p :=
  (only_right_party (step_of_perform {Setup.admin}
    (.initialise Setup.admin Setup.gateway Setup.token) .unit (by decide +kernel))
    (run_performAll _ (Setup.calls.take 4).tail)
    (step_of_perform {Setup.gateway} _ _ (by decide +kernel))).1
    (Or.inr ⟨1, by decide +kernel⟩)

end WaveFlow.Escrow
