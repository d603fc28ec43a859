import Mathlib.Data.List.Basic

/-!
# Runs of a labelled transition system

A system is a relation `step s l s'`: in state `s` the event `l` can happen and leads to `s'`.
A *run* keeps its history, oldest entry first, and every entry keeps the states before and after
its step. So a statement about "every step of every run" is one about `e ∈ h`, and a statement
about what a run has done so far is one about the history `h`.

* `Run step s₀ h s`: the history `h` leads from `s₀` to `s`;
* `Run.invariant`: the induction rule, with the history at hand;
* `Run.split`, `Run.step_of_mem`: what is known of a step that occurs in a history;
* `Run.came_about`: what did not hold at the start came about in some step;
* `Run.around`, `Run.kept`, `Run.since`: the runs before and after an entry, and what a step brings
  about and no later step destroys;
* `Run.restrict`: a run whose steps all meet a condition is a run of the restricted system.
-/

namespace Transition

/-- One step of a history, with the states around it. -/
structure Entry (σ ℓ : Type*) where
  pre : σ
  label : ℓ
  post : σ

variable {σ ℓ : Type*} {step : σ → ℓ → σ → Prop} {s₀ s s' : σ} {l : ℓ} {h : List (Entry σ ℓ)}

/-- The history `h` leads from `s₀` to `s`. -/
inductive Run (step : σ → ℓ → σ → Prop) (s₀ : σ) : List (Entry σ ℓ) → σ → Prop
  | nil : Run step s₀ [] s₀
  | snoc {h : List (Entry σ ℓ)} {s s' : σ} {l : ℓ} :
      Run step s₀ h s → step s l s' → Run step s₀ (h ++ [⟨s, l, s'⟩]) s'

/-- A property of history and state that holds at the start and is kept by every step holds of
every run. -/
theorem Run.invariant (P : List (Entry σ ℓ) → σ → Prop) (h₀ : P [] s₀)
    (hstep : ∀ h s l s', Run step s₀ h s → P h s → step s l s' → P (h ++ [⟨s, l, s'⟩]) s')
    (hrun : Run step s₀ h s) : P h s := by
  induction hrun with
  | nil => exact h₀
  | snoc hr hs ih => exact hstep _ _ _ _ hr ih hs

/-- The same for a property of the state alone. -/
theorem Run.invariant_state (P : σ → Prop) (h₀ : P s₀)
    (hstep : ∀ s l s', P s → step s l s' → P s') (hrun : Run step s₀ h s) : P s :=
  hrun.invariant (fun _ => P) h₀ (fun _ s l s' _ hP hs => hstep s l s' hP hs)

/-- A step before a run makes a longer run. -/
theorem Run.cons (hrun : Run step s h s') (hs : step s₀ l s) :
    Run step s₀ (⟨s₀, l, s⟩ :: h) s' := by
  induction hrun with
  | nil => exact .snoc .nil hs
  | snoc hr hs' ih => exact .snoc ih hs'

/-- Two runs, one after the other. -/
theorem Run.append {h' : List (Entry σ ℓ)} (hrun : Run step s₀ h s) (hrun' : Run step s h' s') :
    Run step s₀ (h ++ h') s' := by
  induction hrun' with
  | nil => rwa [List.append_nil]
  | snoc hr hs ih =>
    rw [← List.append_assoc]
    exact .snoc ih hs

/-- An entry of a history splits it into the run that leads to the entry, and the rest. -/
theorem Run.split (hrun : Run step s₀ h s) {e : Entry σ ℓ} (he : e ∈ h) :
    ∃ h₁ h₂, h = h₁ ++ e :: h₂ ∧ Run step s₀ h₁ e.pre ∧ step e.pre e.label e.post := by
  induction hrun with
  | nil => simp at he
  | @snoc h s s' l hr hs ih =>
    rcases List.mem_append.1 he with he | he
    · obtain ⟨h₁, h₂, rfl, hr₁, hs₁⟩ := ih he
      exact ⟨h₁, h₂ ++ [⟨s, l, s'⟩], by simp, hr₁, hs₁⟩
    · rw [List.mem_singleton.1 he]
      exact ⟨_, [], rfl, hr, hs⟩

theorem Run.step_of_mem (hrun : Run step s₀ h s) {e : Entry σ ℓ} (he : e ∈ h) :
    step e.pre e.label e.post := by
  obtain ⟨_, _, _, _, hs⟩ := hrun.split he
  exact hs

/-- What has come about in a run came about in one of its steps. -/
theorem Run.came_about (P : σ → Prop) (hrun : Run step s₀ h s) (h₀ : ¬ P s₀) (hP : P s) :
    ∃ e before rest, h = before ++ e :: rest ∧ Run step s₀ before e.pre ∧
      step e.pre e.label e.post ∧ ¬ P e.pre ∧ P e.post := by
  induction hrun with
  | nil => exact absurd hP h₀
  | @snoc h s s' l hr hs ih =>
    by_cases hbefore : P s
    · obtain ⟨e, before, rest, rfl, hcame⟩ := ih hbefore
      exact ⟨e, before, rest ++ [⟨s, l, s'⟩], by simp, hcame⟩
    · exact ⟨⟨s, l, s'⟩, h, [], rfl, hr, hs, hbefore, hP⟩

/-- The runs before and after an entry. -/
theorem Run.around {before after : List (Entry σ ℓ)} {e : Entry σ ℓ}
    (hrun : Run step s₀ (before ++ e :: after) s) :
    Run step s₀ before e.pre ∧ step e.pre e.label e.post ∧ Run step e.post after s := by
  generalize hh : before ++ e :: after = h at hrun
  induction hrun generalizing after with
  | nil => simp at hh
  | @snoc h s s' l hr hs ih =>
    -- The last entry is `e`, or the last one of those after it.
    rcases List.eq_nil_or_concat after with rfl | ⟨after, last, rfl⟩
    · obtain ⟨rfl, hlast⟩ := List.append_inj' hh rfl
      obtain rfl := List.singleton_inj.1 hlast
      exact ⟨hr, hs, .nil⟩
    · rw [List.concat_eq_append, ← List.cons_append, ← List.append_assoc] at hh
      obtain ⟨hbefore, hlast⟩ := List.append_inj' hh rfl
      obtain rfl := List.singleton_inj.1 hlast
      obtain ⟨hr₁, hs₁, hr₂⟩ := ih hbefore
      refine ⟨hr₁, hs₁, ?_⟩
      rw [List.concat_eq_append]
      exact .snoc hr₂ hs

/-- What holds at the start and is kept by the steps of a run holds at its end. -/
theorem Run.kept (P : σ → Prop) (hrun : Run step s₀ h s) (h₀ : P s₀)
    (hkeep : ∀ e ∈ h, step e.pre e.label e.post → P e.pre → P e.post) : P s := by
  induction hrun with
  | nil => exact h₀
  | @snoc h s s' l hr hs ih =>
    have hP := ih fun e he => hkeep e (List.mem_append_left _ he)
    exact hkeep ⟨s, l, s'⟩ List.mem_concat_self hs hP

/-- What an entry brings about and the entries after it keep holds at the end. -/
theorem Run.since (P : σ → Prop) {before after : List (Entry σ ℓ)} {e : Entry σ ℓ}
    (hrun : Run step s₀ (before ++ e :: after) s) (hP : P e.post)
    (hkeep : ∀ e' ∈ after, step e'.pre e'.label e'.post → P e'.pre → P e'.post) : P s := by
  obtain ⟨-, -, hafter⟩ := hrun.around
  exact hafter.kept P hP hkeep

/-- A run of a system is one of every system with more steps. -/
theorem Run.mono {step' : σ → ℓ → σ → Prop} (hrun : Run step s₀ h s)
    (hstep : ∀ s l s', step s l s' → step' s l s') : Run step' s₀ h s := by
  induction hrun with
  | nil => exact .nil
  | snoc hr hs ih => exact .snoc ih (hstep _ _ _ hs)

/-- The system restricted to the steps that meet a condition on the state and the label. -/
def Restrict (step : σ → ℓ → σ → Prop) (C : σ → ℓ → Prop) (s : σ) (l : ℓ) (s' : σ) : Prop :=
  step s l s' ∧ C s l

/-- A run whose steps all meet `C` is a run of the restricted system. -/
theorem Run.restrict {C : σ → ℓ → Prop} (hrun : Run step s₀ h s)
    (hC : ∀ e ∈ h, C e.pre e.label) : Run (Restrict step C) s₀ h s := by
  induction hrun with
  | nil => exact .nil
  | @snoc h s s' l hr hs ih =>
    refine .snoc (ih fun e he => hC e (List.mem_append_left _ he)) ⟨hs, hC ⟨s, l, s'⟩ ?_⟩
    exact List.mem_concat_self

end Transition
