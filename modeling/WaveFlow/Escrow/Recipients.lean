import WaveFlow.Escrow.Ledger

/-!
# Who chose the recipient of a payout

A contributor entry is written once and never changed. It was written by the maintainer the program
had then; that is the maintainer it has at the payout as long as its id was not given out again.
So the recipient of every payout was chosen by the program's own maintainer in every run in which
`initialise` comes before any program (`recipient_registered`), and need not be when it comes later
(`recipient_of_former_maintainer`).
-/

namespace WaveFlow.Escrow

open Transition

variable {H : Host} {env env' : Env H} {l : Label} {p : UInt64} {u : Symbol} {h : History H}

/-- The step registered `a` for `u` with program `p`, authorised by `maintainer`. -/
def Label.Registers (p : UInt64) (maintainer : Address) (u : Symbol) (a : Address) : Label → Prop
  | .ok auths (.registerContributor q caller v b) _ =>
      q = p ∧ caller = maintainer ∧ v = u ∧ b = a ∧ maintainer ∈ auths
  | _ => False

instance (p : UInt64) (maintainer : Address) (u : Symbol) (a : Address) (l : Label) :
    Decidable (l.Registers p maintainer u a) := by
  unfold Label.Registers
  split <;> infer_instance

/-! ### One step -/

/-- A registration is never changed. -/
theorem Step.contributor_kept (hstep : Step env l env') {c : Contributor}
    (hc : env.persistent.contributor p u = some c) :
    env'.persistent.contributor p u = some c := by
  rcases hstep.cases with ⟨auths, call, value, rfl, heff⟩ | ⟨-, rfl⟩ | ⟨-, tokens, -, rfl⟩
  · cases heff with
    | registerContributor hauth hx hcaller hnew =>
      rw [Storage.contributor_insert_contributor]
      split_ifs with hq
      · obtain ⟨rfl, rfl⟩ := hq
        rw [hnew] at hc
        cases hc
      · exact hc
    | _ => simpa using hc
  · exact hc
  · exact hc

/-- A registration that is there after a step was there before it, or the step made it, for the
maintainer of the program. -/
theorem Step.contributor_origin (hstep : Step env l env') {a : Address}
    (ha : env'.persistent.contributor p u = some ⟨a⟩) :
    env.persistent.contributor p u = some ⟨a⟩ ∨
      ∃ m, (env.persistent.program p).map Program.maintainer = some m ∧ l.Registers p m u a := by
  rcases hstep.cases with ⟨auths, call, value, rfl, heff⟩ | ⟨-, rfl⟩ | ⟨-, tokens, -, rfl⟩
  · cases heff with
    | @registerContributor q caller v b x hauth hx hcaller hnew =>
      rw [Storage.contributor_insert_contributor] at ha
      split_ifs at ha with hq
      · obtain ⟨rfl, rfl⟩ := hq
        cases ha
        exact Or.inr ⟨caller, by simp [hx, hcaller], rfl, rfl, rfl, rfl, hauth⟩
      · exact Or.inl ha
    | _ => exact Or.inl (by simpa using ha)
  · exact Or.inl ha
  · exact Or.inl ha

/-- The maintainer of a stored program stays, as long as ids are given out once. -/
theorem Step.maintainer_kept (hstep : Step env l env') (hall : Allocated env) {m : Address}
    (hm : (env.persistent.program p).map Program.maintainer = some m) :
    (env'.persistent.program p).map Program.maintainer = some m := by
  rw [hstep.creator p, hm]
  unfold Label.creator
  split
  · split_ifs with hq
    · subst hq
      rw [hall.fresh_of_step hstep] at hm
      cases hm
    · rfl
  · rfl

/-! ### Runs -/

theorem contributor_kept_of_mem {env₀ : Env H} (hrun : Run Step env₀ h env)
    {e : Entry (Env H) Label} (he : e ∈ h) {c : Contributor}
    (hc : e.pre.persistent.contributor p u = some c) : env.persistent.contributor p u = some c := by
  refine hrun.invariant (fun h env => ∀ e ∈ h, e.pre.persistent.contributor p u = some c →
    env.persistent.contributor p u = some c) (by simp) ?_ e he hc
  intro h s l s' _ ih hstep e he hc
  rcases List.mem_append.1 he with he | he
  · exact hstep.contributor_kept (ih e he hc)
  · obtain rfl := List.mem_singleton.1 he
    exact hstep.contributor_kept hc

/-- Ids are given out once, and every registration was made by the maintainer of its program. -/
structure Chosen (h : History H) (env : Env H) : Prop where
  allocated : Allocated env
  registered : ∀ p u a, env.persistent.contributor p u = some ⟨a⟩ →
    ∃ m, (env.persistent.program p).map Program.maintainer = some m ∧
      ∃ e ∈ h, e.label.Registers p m u a

theorem Chosen.step (hchosen : Chosen h env) (hfirst : InitialisedFirst env l)
    (hstep : Step env l env') : Chosen (h ++ [⟨env, l, env'⟩]) env' where
  allocated := hchosen.allocated.step hfirst hstep
  registered p u a ha := by
    rcases hstep.contributor_origin ha with ha | ⟨m, hm, hl⟩
    · obtain ⟨m, hm, e, he, hl⟩ := hchosen.registered p u a ha
      exact ⟨m, hstep.maintainer_kept hchosen.allocated hm, e, List.mem_append_left _ he, hl⟩
    · exact ⟨m, hstep.maintainer_kept hchosen.allocated hm, ⟨env, l, env'⟩, by simp, hl⟩

theorem chosen_of_run {tokens : Address → H.token.State}
    (hrun : Run Step (deploy tokens) h env) (hfirst : ∀ e ∈ h, InitialisedFirst e.pre e.label) :
    Chosen h env := by
  refine (hrun.restrict (C := InitialisedFirst) hfirst).invariant Chosen
    ⟨allocated_deploy tokens, ?_⟩ (fun _ _ _ _ _ hchosen hstep => hchosen.step hstep.2 hstep.1)
  intro p u a ha
  simp [deploy] at ha

/-- **The maintainer chooses the recipient** in a run in which `initialise` comes before any
program: the address a merge pays was registered by whoever is the maintainer at the payout, and
every earlier merge of this user's work on the program paid the same address. -/
theorem recipient_registered {tokens : Address → H.token.State} {auths : Finset Address}
    {gateway : Address} {pr : UInt64} {points : UInt32} {n : ℤ}
    (hrun : Run Step (deploy tokens) h env) (hfirst : ∀ e ∈ h, InitialisedFirst e.pre e.label)
    (hstep : Step env (.ok auths (.recordMerge gateway p u pr points) (.amount n)) env') :
    ∃ x a token, env.persistent.program p = some x ∧
      env.persistent.contributor p u = some ⟨a⟩ ∧ Paid env env' token H.self a n ∧
      (∃ e ∈ h, e.label.Registers p x.maintainer u a) ∧
      ∀ e ∈ h, ∀ auths' gateway' pr' points' n',
        e.label = .ok auths' (.recordMerge gateway' p u pr' points') (.amount n') →
        ∃ token', Paid e.pre e.post token' H.self a n' := by
  have hchosen := chosen_of_run hrun hfirst
  cases hstep.effect with
  | @recordMerge _ _ _ _ _ x a token spent st hauth hgateway hpoints hpr hx hactive huser hrange
      hescrow hspent htoken hpay =>
    obtain ⟨m, hm, e, he, hl⟩ := hchosen.registered p u a huser
    rw [hx] at hm
    obtain rfl : x.maintainer = m := Option.some.inj hm
    refine ⟨x, a, token, hx, huser, paid_withTransfer hpay _ _, ⟨e, he, hl⟩, ?_⟩
    intro e he auths' gateway' pr' points' n' hlabel
    have hstep' := hrun.step_of_mem he
    rw [hlabel] at hstep'
    generalize e.post = post at hstep' ⊢
    cases hstep'.effect with
    | @recordMerge _ _ _ _ _ x' a' token' spent' st' hauth' hgateway' hpoints' hpr' hx' hactive'
        huser' hrange' hescrow' hspent' htoken' hpay' =>
      have hkept := contributor_kept_of_mem hrun he huser'
      obtain rfl : a = a' := by simpa using huser.symm.trans hkept
      exact ⟨token', paid_withTransfer hpay' _ _⟩

theorem recipient_registered_setup :
    let r := performAll (deploy Setup.tokens) (Setup.calls.take 4)
    let env' := (perform r.2 {Setup.gateway} (.recordMerge Setup.gateway 1 "alice-dev" 42 3)).2
    ∃ x a token, r.2.persistent.program 1 = some x ∧
      r.2.persistent.contributor 1 "alice-dev" = some ⟨a⟩ ∧
      Paid r.2 env' token Setup.host.self a 300 ∧
      (∃ e ∈ r.1, e.label.Registers 1 x.maintainer "alice-dev" a) ∧
      ∀ e ∈ r.1, ∀ auths' gateway' pr' points' n',
        e.label = .ok auths' (.recordMerge gateway' 1 "alice-dev" pr' points') (.amount n') →
        ∃ token', Paid e.pre e.post token' Setup.host.self a n' :=
  recipient_registered (run_performAll _ _) (by decide +kernel)
    (step_of_perform {Setup.gateway} _ _ (by decide +kernel))

/-- Somebody creates program 1 before `initialise` and registers a wallet with it; the maintainer's
own program then takes id 1 again, and its escrow pays that wallet, which the maintainer never
registered. -/
theorem recipient_of_former_maintainer :
    let former : Address := .account 6
    let wallet : Address := .account 7
    let r := performAll (deploy Setup.tokens)
      [ ({former}, .createProgram former "org/other" 1 none),
        ({former}, .registerContributor 1 former "alice-dev" wallet),
        ({Setup.admin}, .initialise Setup.admin Setup.gateway Setup.token),
        ({Setup.maintainer}, .createProgram Setup.maintainer "StellarRoute/WaveFlow" 100 none),
        ({Setup.maintainer}, .fund 1 Setup.maintainer 5000) ]
    let merge : Call := .recordMerge Setup.gateway 1 "alice-dev" 42 3
    Run Step (deploy Setup.tokens) r.1 r.2 ∧
      (perform r.2 {Setup.gateway} merge).1 = .ok {Setup.gateway} merge (.amount 300) ∧
      (r.2.persistent.program 1).map Program.maintainer = some Setup.maintainer ∧
      r.2.persistent.contributor 1 "alice-dev" = some ⟨wallet⟩ ∧
      ∀ e ∈ r.1, ¬ e.label.Registers 1 Setup.maintainer "alice-dev" wallet :=
  ⟨run_performAll _ _, by decide +kernel⟩

end WaveFlow.Escrow
