import WaveFlow.Escrow.Solvency
import WaveFlow.Escrow.ProgramIds

/-!
# Stranded tokens

A token in the pool is stranded when no escrow counts it and nobody sent it there directly. Two steps
strand tokens: a creation over a stored program drops its escrow from the sum, and a merge paid to
the contract itself lowers the escrow of a program but not the pool. The pool is the sum of all
escrows, what outsiders sent and what the steps stranded (`Balanced`); so nothing is stranded if and
only if no step of the run strands anything (`nothing_stranded`).
-/

namespace WaveFlow.Escrow

open Transition

variable {H : Host} {env env' : Env H} {l : Label} {h : History H} {t : Address}

/-! ### What a step strands -/

/-- The tokens a step strands. -/
def stranded (env : Env H) : Label → ℤ
  | .ok _ (.createProgram _ _ _ _) (.programId p) => escrowAt env.persistent p
  | .ok _ (.recordMerge _ p user _ _) (.amount n) =>
    if env.persistent.contributor p user = some ⟨H.self⟩ then n else 0
  | _ => 0

/-- The step strands nothing: the next id is not that of a program with tokens in escrow, and a merge
is not paid to the contract itself. -/
def StrandsNothing (env : Env H) : Label → Prop
  | .ok _ (.createProgram _ _ _ _) _ =>
    ((addU64 env.counter 1).elim 0 (escrowAt env.persistent)) = 0
  | .ok _ (.recordMerge _ p user _ _) _ => env.persistent.contributor p user ≠ some ⟨H.self⟩
  | _ => True

instance (env : Env H) (l : Label) : Decidable (StrandsNothing env l) := by
  unfold StrandsNothing
  split <;> infer_instance

/-- What outsiders sent to the contract in one step. -/
def sent (t : Address) (e : Entry (Env H) Label) : ℤ :=
  match e.label with
  | .outside => e.post.pool t - e.pre.pool t
  | .ok _ _ _ | .failed _ _ _ => 0

/-- What outsiders sent to the contract in a history. -/
def sentIn (t : Address) (h : History H) : ℤ := (h.map (sent t)).sum

/-- What the steps of a history stranded. -/
def strandedIn (h : History H) : ℤ := (h.map fun e => stranded e.pre e.label).sum

@[simp] theorem sentIn_nil : sentIn t ([] : History H) = 0 := rfl

@[simp] theorem sentIn_snoc (e : Entry (Env H) Label) :
    sentIn t (h ++ [e]) = sentIn t h + sent t e := by simp [sentIn]

@[simp] theorem strandedIn_nil : strandedIn ([] : History H) = 0 := rfl

@[simp] theorem strandedIn_snoc (e : Entry (Env H) Label) :
    strandedIn (h ++ [e]) = strandedIn h + stranded e.pre e.label := by simp [strandedIn]

theorem Solvent.escrowAt_nonneg (hsolvent : Solvent env) (p : UInt64) :
    0 ≤ escrowAt env.persistent p := by
  unfold escrowAt
  cases hx : env.persistent.program p with
  | none => exact le_rfl
  | some x => exact hsolvent.nonneg p x hx

theorem Solvent.escrowAt_eq_zero (hsolvent : Solvent env) (ht : env.instanceStorage.token = none)
    (p : UInt64) : escrowAt env.persistent p = 0 := by
  unfold escrowAt
  cases hx : env.persistent.program p with
  | none => rfl
  | some x => exact hsolvent.unfunded ht p x hx

/-- A step strands a non-negative amount, and nothing exactly if `StrandsNothing` says so. -/
theorem Step.strands_iff (hstep : Step env l env') (hsolvent : Solvent env)
    (hrewards : PositiveRewards env.persistent) :
    0 ≤ stranded env l ∧ (stranded env l = 0 ↔ StrandsNothing env l) := by
  rcases hstep.cases with ⟨auths, call, value, rfl, heff⟩ | ⟨⟨auths, call, why, rfl⟩, -⟩ | ⟨rfl, -⟩
  · cases heff with
    | @createProgram maintainer repo reward cap p hauth hreward hrepo hid =>
      refine ⟨hsolvent.escrowAt_nonneg p, ?_⟩
      simp only [stranded, StrandsNothing, Env.counter, hid, Option.elim_some]
    | @recordMerge g p user pr points x a token spent st hauth hgateway hpoints hpr hx hactive
        huser =>
      have hpos := payout_pos hpoints (hrewards p x hx)
      simp only [stranded, StrandsNothing]
      split_ifs with hself
      · exact ⟨hpos.le, iff_of_false hpos.ne' (not_not_intro hself)⟩
      · exact ⟨le_rfl, iff_of_true rfl hself⟩
    | _ => exact ⟨le_rfl, iff_of_true rfl trivial⟩
  · exact ⟨le_rfl, iff_of_true rfl trivial⟩
  · exact ⟨le_rfl, iff_of_true rfl trivial⟩

/-- Before the token is set nothing can be stranded. -/
theorem Step.stranded_unset (hstep : Step env l env') (hsolvent : Solvent env)
    (ht : env.instanceStorage.token = none) : stranded env l = 0 := by
  rcases hstep.cases with ⟨auths, call, value, rfl, heff⟩ | ⟨⟨auths, call, why, rfl⟩, -⟩ | ⟨rfl, -⟩
  · cases heff with
    | createProgram => exact hsolvent.escrowAt_eq_zero ht _
    | recordMerge hauth hgateway hpoints hpr hx hactive huser hrange hescrow hspent htoken =>
      rw [ht] at htoken
      cases htoken
    | _ => rfl
  · rfl
  · rfl

/-! ### The balance of the pool -/

/-- The token at `t` is the stored one, or none is stored yet. -/
def Env.Uses (env : Env H) (t : Address) : Prop :=
  env.instanceStorage.token = none ∨ env.instanceStorage.token = some t

theorem Env.Uses.eq (huses : env.Uses t) {token : Address}
    (htoken : env.instanceStorage.token = some token) : token = t := by
  rcases huses with h | h
  · rw [h] at htoken; cases htoken
  · exact Option.some.inj (htoken.symm.trans h)

/-- The stored token never changes to another, and is never removed. -/
theorem Step.token (hstep : Step env l env') (hsolvent : Solvent env) :
    env.instanceStorage.token = none ∨
      env'.instanceStorage.token = env.instanceStorage.token := by
  rcases hstep.cases with ⟨auths, call, value, rfl, heff⟩ | ⟨-, rfl⟩ | ⟨-, tokens, -, rfl⟩
  · cases heff with
    | initialise hnew => exact Or.inl (hsolvent.tokenless hnew)
    | createProgram => exact Or.inr (by simp)
    | _ => exact Or.inr rfl
  · exact Or.inr rfl
  · exact Or.inr rfl

theorem Step.uses (hstep : Step env l env') (hsolvent : Solvent env) (huses : env'.Uses t) :
    env.Uses t := by
  rcases hstep.token hsolvent with h | h
  · exact Or.inl h
  · rwa [Env.Uses, ← h]

/-- What a step adds to the pool beyond the escrows is what it was sent and what it strands. -/
theorem Step.pool (hstep : Step env l env') (hsolvent : Solvent env) (hself : H.self ∉ l.auths)
    (huses : env.Uses t) :
    env'.pool t - escrowTotal env'.persistent =
      env.pool t - escrowTotal env.persistent + sent t ⟨env, l, env'⟩ + stranded env l := by
  rcases hstep.cases with ⟨auths, call, value, rfl, heff⟩ | ⟨⟨auths, call, why, rfl⟩, rfl⟩ |
    ⟨rfl, tokens, -, rfl⟩
  · cases heff with
    | initialise => simp [sent, stranded, Env.pool]
    | createProgram =>
      simp only [sent, stranded, escrowTotal_insert_program, Env.pool]
      omega
    | @fund p src amount x token st hauth hmin hx hsrc htoken hpay =>
      obtain rfl := huses.eq htoken
      have hpool := pool_deposit env (fun h => hself (h ▸ hauth)) hpay
      simp only [sent, stranded, escrowTotal_insert_program, escrowAt_of_program hx, Env.pool]
        at hpool ⊢
      omega
    | registerContributor => simp [sent, stranded, Env.pool]
    | @recordMerge g p user pr points x a token spent st hauth hgateway hpoints hpr hx hactive
        huser hrange hescrow hspent htoken hpay =>
      obtain rfl := huses.eq htoken
      have hpool := pool_payment env hpay
      simp only [sent, stranded, escrowTotal_insert_processedPr, escrowTotal_insert_program,
        escrowAt_of_program hx, huser, Env.pool, Option.some.injEq, Contributor.mk.injEq]
        at hpool ⊢
      -- paid to the contract itself, the tokens leave the escrow and stay in the pool
      by_cases ha : a = H.self
      · rw [if_pos ha.symm] at hpool
        rw [if_pos ha]
        omega
      · rw [if_neg (Ne.symm ha)] at hpool
        rw [if_neg ha]
        omega
    | pause hauth hx =>
      simp only [sent, stranded, escrowTotal_insert_program, escrowAt_of_program hx, Env.pool]
      omega
    | resume hauth hx =>
      simp only [sent, stranded, escrowTotal_insert_program, escrowAt_of_program hx, Env.pool]
      omega
    | setRatio hauth hreward hx =>
      simp only [sent, stranded, escrowTotal_insert_program, escrowAt_of_program hx, Env.pool]
      omega
    | withdrawNothing => simp [sent, stranded]
    | @withdrawRemaining p maintainer x token st hauth hx hmaintainer hpaused hpos htoken hpay =>
      obtain rfl := huses.eq htoken
      have hne : H.self ≠ maintainer := fun h => hself (h ▸ hauth)
      have hpool := pool_payment env hpay
      simp only [sent, stranded, escrowTotal_insert_program, escrowAt_of_program hx, Env.pool,
        if_neg hne] at hpool ⊢
      omega
  · simp [sent, stranded]
  · simp only [sent, stranded]
    omega

/-- The pool is the sum of all escrows, what outsiders sent, and what was stranded; nothing is
stranded before the token is set. -/
structure Balanced (start : Env H) (h : History H) (env : Env H) : Prop where
  pool : ∀ t, env.Uses t → env.pool t =
    escrowTotal env.persistent + (start.pool t + sentIn t h) + strandedIn h
  unset : env.instanceStorage.token = none → strandedIn h = 0

theorem Balanced.step {start : Env H} (hbalanced : Balanced start h env)
    (hstep : Step env l env') (hsolvent : Solvent env) (hself : H.self ∉ l.auths) :
    Balanced start (h ++ [⟨env, l, env'⟩]) env' where
  pool t huses := by
    have huses := hstep.uses hsolvent huses
    have hbefore := hbalanced.pool t huses
    have hmove := hstep.pool hsolvent hself huses
    rw [sentIn_snoc, strandedIn_snoc]
    dsimp only
    omega
  unset ht := by
    have hbefore : env.instanceStorage.token = none := by
      rcases hstep.token hsolvent with h | h
      · exact h
      · rw [← h, ht]
    rw [strandedIn_snoc, hbalanced.unset hbefore, hstep.stranded_unset hsolvent hbefore, add_zero]

/-! ### Every run -/

/-- What is known of every state of a run in which the contract authorises nothing. -/
structure Accounted (start : Env H) (h : History H) (env : Env H) : Prop where
  solvent : Solvent env
  rewards : PositiveRewards env.persistent
  balanced : Balanced start h env
  nonneg : 0 ≤ strandedIn h
  zero_iff : strandedIn h = 0 ↔ ∀ e ∈ h, StrandsNothing e.pre e.label

theorem Accounted.step {start : Env H} (hacc : Accounted start h env) (hstep : Step env l env')
    (hself : H.self ∉ l.auths) : Accounted start (h ++ [⟨env, l, env'⟩]) env' := by
  obtain ⟨hnonneg, hzero⟩ := hstep.strands_iff hacc.solvent hacc.rewards
  have hbefore := hacc.nonneg
  refine ⟨hacc.solvent.step hacc.rewards hself hstep, hacc.rewards.step hstep,
    hacc.balanced.step hstep hacc.solvent hself, ?_, ?_⟩
  · rw [strandedIn_snoc]
    exact add_nonneg hbefore hnonneg
  · rw [strandedIn_snoc, add_eq_zero_iff_of_nonneg hbefore hnonneg, hacc.zero_iff, hzero]
    simp only [List.forall_mem_append, List.forall_mem_singleton]

theorem accounted_of_run {tokens : Address → H.token.State} (hrun : Run Step (deploy tokens) h env)
    (hself : ∀ e ∈ h, H.self ∉ e.label.auths) : Accounted (deploy tokens) h env := by
  refine (hrun.restrict (C := fun _ l => H.self ∉ l.auths) hself).invariant
    (Accounted (deploy tokens)) ⟨solvent_deploy tokens, fun p x hx => by simp [deploy] at hx, ?_,
      le_rfl, by simp⟩ (fun _ _ _ _ _ hacc hstep => hacc.step hstep.1 hstep.2)
  exact ⟨fun t _ => by simp [deploy, Env.pool], fun _ => rfl⟩

/-- **Nothing is stranded.** In a run from a fresh deployment the contract holds no more of the
stored token than all escrows together and what outsiders sent, before the deployment or after, if
and only if no step of the run strands anything. -/
theorem nothing_stranded {tokens : Address → H.token.State} (hrun : Run Step (deploy tokens) h env)
    (hself : ∀ e ∈ h, H.self ∉ e.label.auths) :
    (∀ token, env.instanceStorage.token = some token →
      env.pool token ≤
        escrowTotal env.persistent + ((deploy tokens).pool token + sentIn token h)) ↔
    ∀ e ∈ h, StrandsNothing e.pre e.label := by
  have hacc := accounted_of_run hrun hself
  have hnonneg := hacc.nonneg
  rw [← hacc.zero_iff]
  constructor
  · intro hle
    cases htoken : env.instanceStorage.token with
    | none => exact hacc.balanced.unset htoken
    | some token =>
      have hpool := hacc.balanced.pool token (Or.inr htoken)
      have hle := hle token htoken
      omega
  · intro hzero token htoken
    have hpool := hacc.balanced.pool token (Or.inr htoken)
    omega

theorem nothing_stranded_setup :
    let r := performAll (deploy Setup.tokens) Setup.calls
    ∀ token, r.2.instanceStorage.token = some token →
      r.2.pool token ≤
        escrowTotal r.2.persistent + ((deploy Setup.tokens).pool token + sentIn token r.1) :=
  (nothing_stranded (run_performAll _ _) (by decide +kernel)).2 (by decide +kernel)

/-- A program funded before another takes its id, and a merge paid to the contract itself: the pool
holds the deposit of 5000, the escrows count nothing of it, or what the merge left. -/
theorem deposit_stranded :
    let create : Call := .createProgram Setup.maintainer "org/repo" 100 none
    let init : Call := .initialise Setup.admin Setup.gateway Setup.token
    let fund : Call := .fund 1 Setup.maintainer 5000
    let r := performAll (deploy Setup.tokens) [({Setup.maintainer}, create), ({Setup.admin}, init),
      ({Setup.maintainer}, fund), ({Setup.maintainer}, create)]
    let r' := performAll (deploy Setup.tokens) [({Setup.admin}, init), ({Setup.maintainer}, create),
      ({Setup.maintainer}, fund),
      ({Setup.maintainer}, .registerContributor 1 Setup.maintainer "alice-dev" Setup.host.self),
      ({Setup.gateway}, .recordMerge Setup.gateway 1 "alice-dev" 42 3)]
    (Run Step (deploy Setup.tokens) r.1 r.2 ∧ (∀ e ∈ r.1, Setup.host.self ∉ e.label.auths) ∧
      r.2.instanceStorage.token = some Setup.token ∧ r.2.pool Setup.token = 5000 ∧
      escrowTotal r.2.persistent + ((deploy Setup.tokens).pool Setup.token +
        sentIn Setup.token r.1) = 0) ∧
    (Run Step (deploy Setup.tokens) r'.1 r'.2 ∧ (∀ e ∈ r'.1, Setup.host.self ∉ e.label.auths) ∧
      r'.2.instanceStorage.token = some Setup.token ∧ r'.2.pool Setup.token = 5000 ∧
      escrowTotal r'.2.persistent + ((deploy Setup.tokens).pool Setup.token +
        sentIn Setup.token r'.1) = 4700) :=
  ⟨⟨run_performAll _ _, by decide +kernel⟩, ⟨run_performAll _ _, by decide +kernel⟩⟩

end WaveFlow.Escrow
