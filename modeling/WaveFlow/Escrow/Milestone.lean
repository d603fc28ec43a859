import WaveFlow.Escrow.ProgramChange

/-!
# Milestone caps

The milestone counter of a program with a cap is the sum of what its merges returned, and never
passes the cap, in every run that begins with a successful `initialise`. Six entry points write the
whole record back; each keeps cap and counter but `recordMerge`, which checks the new sum against the
cap before it pays.
-/

namespace WaveFlow.Escrow

open Transition

variable {H : Host} {env env' : Env H} {l : Label} {p : UInt64} {gateway token : Address}
  {h : History H}

/-! ### One step -/

/-- The counter of a program with a cap moves by what a merge returned, and only up to the cap. -/
structure Spends (l : Label) (p : UInt64) (x y : Program) : Prop where
  cap : y.milestoneCap = x.milestoneCap
  spent : ∀ cap, x.milestoneCap = some cap → y.milestoneSpent = x.milestoneSpent + l.merged p
  bound : ∀ cap, x.milestoneCap = some cap →
    y.milestoneSpent = x.milestoneSpent ∨ y.milestoneSpent ≤ cap

theorem Spends.same {x y : Program} (hcap : y.milestoneCap = x.milestoneCap)
    (hspent : y.milestoneSpent = x.milestoneSpent) (hmerged : l.merged p = 0) :
    Spends l p x y where
  cap := hcap
  spent _ _ := by omega
  bound _ _ := Or.inl hspent

/-- A stored program stays stored, and spends by its merges only. -/
theorem Step.spends (hstep : Step env l env') (hall : Allocated env) {x : Program}
    (hx : env.persistent.program p = some x) :
    ∃ y, env'.persistent.program p = some y ∧ Spends l p x y := by
  have hchange := hstep.change p
  rw [hx] at hchange
  generalize env'.persistent.program p = r at hchange ⊢
  cases hchange with
  | other hother => exact ⟨x, rfl, .same rfl rfl (Label.merged_of_other hother)⟩
  | created =>
    rw [hall.fresh_of_step hstep] at hx
    cases hx
  | merged hspent =>
    refine ⟨_, rfl, rfl, fun cap hcap => ?_, fun cap hcap => Or.inr ?_⟩
    · rw [MilestoneSpent, hcap] at hspent
      simpa [Label.merged] using hspent.2.1
    · rw [MilestoneSpent, hcap] at hspent
      exact hspent.2.2
  | _ => exact ⟨_, rfl, .same rfl rfl rfl⟩

/-- A merge needs a stored program, and a program appears by being created, with nothing spent. -/
theorem Step.unspent (hstep : Step env l env') (hx : env.persistent.program p = none) :
    l.merged p = 0 ∧ ∀ y, env'.persistent.program p = some y → y.milestoneSpent = 0 := by
  have hchange := hstep.change p
  rw [hx] at hchange
  generalize env'.persistent.program p = r at hchange ⊢
  cases hchange with
  | other hother => exact ⟨Label.merged_of_other hother, fun y hy => by cases hy⟩
  | created => exact ⟨rfl, fun y hy => by cases hy; rfl⟩

/-! ### Every run -/

/-- Under a cap the counter of a stored program is what its merges returned, and within the cap; the
creations of the history stand, each with its cap. -/
structure Capped (h : History H) (env : Env H) : Prop where
  spent : ∀ p x cap, env.persistent.program p = some x → x.milestoneCap = some cap →
    x.milestoneSpent = sumIn (Label.merged p) h
  bound : ∀ p x cap, env.persistent.program p = some x → x.milestoneCap = some cap →
    x.milestoneSpent ≤ max cap 0
  unspent : ∀ p, env.persistent.program p = none → sumIn (Label.merged p) h = 0
  created : ∀ e ∈ h, ∀ auths maintainer repo reward cap p,
    e.label = .ok auths (.createProgram maintainer repo reward cap) (.programId p) →
    ∃ x, env.persistent.program p = some x ∧ x.milestoneCap = cap

/-- A successful creation stores the cap it was given. -/
theorem Step.creates (hstep : Step env l env') {auths : Finset Address} {maintainer : Address}
    {repo : Symbol} {reward : ℤ} {cap : Option ℤ}
    (hl : l = .ok auths (.createProgram maintainer repo reward cap) (.programId p)) :
    ∃ x, env'.persistent.program p = some x ∧ x.milestoneCap = cap := by
  have hchange := hstep.change p
  subst hl
  generalize env'.persistent.program p = r at hchange ⊢
  cases hchange with
  | other hother => exact absurd rfl hother
  | created => exact ⟨_, rfl, rfl⟩

theorem Capped.step (hcapped : Capped h env) (hall : Allocated env) (hstep : Step env l env') :
    Capped (h ++ [⟨env, l, env'⟩]) env' where
  spent p y cap hy hcap := by
    rw [sumIn_snoc]
    cases hx : env.persistent.program p with
    | none =>
      -- created in this step: no merge of it can have come before
      obtain ⟨hmerged, hspent⟩ := hstep.unspent hx
      rw [hspent y hy, hcapped.unspent p hx, hmerged, add_zero]
    | some x =>
      obtain ⟨z, hz, hspends⟩ := hstep.spends hall hx
      obtain rfl := Option.some.inj (hy.symm.trans hz)
      have hcap' := hspends.cap.symm.trans hcap
      rw [hspends.spent cap hcap', hcapped.spent p x cap hx hcap']
  bound p y cap hy hcap := by
    cases hx : env.persistent.program p with
    | none =>
      have hspent := (hstep.unspent hx).2 y hy
      omega
    | some x =>
      obtain ⟨z, hz, hspends⟩ := hstep.spends hall hx
      obtain rfl := Option.some.inj (hy.symm.trans hz)
      have hcap' := hspends.cap.symm.trans hcap
      have hbefore := hcapped.bound p x cap hx hcap'
      rcases hspends.bound cap hcap' with hspent | hspent
      · omega
      · omega
  unspent p hy := by
    rw [sumIn_snoc]
    cases hx : env.persistent.program p with
    | none => rw [hcapped.unspent p hx, (hstep.unspent hx).1, add_zero]
    | some x =>
      obtain ⟨z, hz, -⟩ := hstep.spends hall hx
      rw [hz] at hy
      cases hy
  created e he auths maintainer repo reward cap p hl := by
    rcases List.mem_append.1 he with he | he
    · obtain ⟨x, hx, hcap⟩ := hcapped.created e he auths maintainer repo reward cap p hl
      obtain ⟨y, hy, hspends⟩ := hstep.spends hall hx
      exact ⟨y, hy, hspends.cap.trans hcap⟩
    · rw [List.mem_singleton.1 he] at hl
      exact hstep.creates hl

theorem capped_of_run {tokens : Address → H.token.State} {auths : Finset Address}
    {admin : Address} {value : Value} {env₀ : Env H}
    (hinit : Step (deploy tokens) (.ok auths (.initialise admin gateway token) value) env₀)
    (hrun : Run Step env₀ h env) : Capped h env := by
  obtain ⟨-, hempty⟩ := initialised_of_step hinit
  refine (hrun.invariant (fun h env => Regular gateway token h env ∧ Capped h env)
    ⟨regular_of_run hinit .nil, ?_⟩ fun h s l s' _ hboth hstep => ?_).2
  · constructor <;> simp [hempty]
  · exact ⟨hboth.1.step hstep, hboth.2.step hboth.1.allocated hstep⟩

/-- **A milestone cap bounds total spending.** A program created with a cap has spent what its merges
returned so far, and no more than the cap; nothing when the cap is negative. -/
theorem milestone_bounds_spending {tokens : Address → H.token.State} {auths₀ : Finset Address}
    {admin : Address} {value₀ : Value} {env₀ : Env H}
    (hinit : Step (deploy tokens) (.ok auths₀ (.initialise admin gateway token) value₀) env₀)
    (hrun : Run Step env₀ h env) {e : Entry (Env H) Label} (he : e ∈ h) {auths : Finset Address}
    {maintainer : Address} {repo : Symbol} {reward cap : ℤ}
    (hcreate : e.label =
      .ok auths (.createProgram maintainer repo reward (some cap)) (.programId p)) :
    ∃ x, env.persistent.program p = some x ∧ x.milestoneSpent = sumIn (Label.merged p) h ∧
      sumIn (Label.merged p) h ≤ max cap 0 := by
  have hcapped := capped_of_run hinit hrun
  obtain ⟨x, hx, hcap⟩ := hcapped.created e he _ _ _ _ _ _ hcreate
  have hspent := hcapped.spent p x cap hx hcap
  exact ⟨x, hx, hspent, hspent ▸ hcapped.bound p x cap hx hcap⟩

theorem milestone_bounds_spending_setup :
    let create : Call := .createProgram Setup.maintainer "StellarRoute/WaveFlow" 100 (some 500)
    let r₀ := perform (deploy Setup.tokens) {Setup.admin}
      (.initialise Setup.admin Setup.gateway Setup.token)
    let r := performAll r₀.2 (({Setup.maintainer}, create) :: Setup.calls.drop 2)
    ∃ x, r.2.persistent.program 1 = some x ∧ x.milestoneSpent = sumIn (Label.merged 1) r.1 ∧
      sumIn (Label.merged 1) r.1 ≤ max 500 0 :=
  milestone_bounds_spending (step_of_perform {Setup.admin}
    (.initialise Setup.admin Setup.gateway Setup.token) .unit (by decide +kernel))
    (run_performAll _ _) (mem_performAll _ {Setup.maintainer} _ _)
    (show _ = Label.ok {Setup.maintainer}
      (.createProgram Setup.maintainer "StellarRoute/WaveFlow" 100 (some 500)) (.programId 1) by
      decide +kernel)

end WaveFlow.Escrow
