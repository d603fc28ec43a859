import WaveFlow.Library.Transition

/-!
# Components of a transition system

A *machine* is a partial function `next`: what an operation makes of a state, where it is allowed.
A *component* of a system is a part `view` of its state that every step of the system either leaves
alone or drives by one operation of a machine. Which operation that is, if any, `own` reads off the
entry of the history.

* `replay`: the state after a list of operations, one after the other;
* `replay_invariant`, `replay_rel`: what the operations of a machine keep, and how they relate a
  state to the later ones;
* `Run.replayed`: in every run a component is where its own operations take it, and each of them was
  allowed where it came. What else happens in the run does not matter to it.
-/

namespace Transition

variable {σ ℓ τ κ : Type*} {step : σ → ℓ → σ → Prop} {s₀ s : σ} {h : List (Entry σ ℓ)}
  {next : τ → κ → Option τ} {t t' : τ} {ks : List κ}

/-! ### Machines -/

/-- The state after a list of operations, if each is allowed where it comes. -/
def replay (next : τ → κ → Option τ) : τ → List κ → Option τ
  | t, [] => some t
  | t, k :: ks => (next t k).bind fun t => replay next t ks

theorem replay_append (ks ks' : List κ) :
    replay next t (ks ++ ks') = (replay next t ks).bind fun t => replay next t ks' := by
  induction ks generalizing t with
  | nil => rfl
  | cons k ks ih => simp only [List.cons_append, replay, ih, Option.bind_assoc]

@[simp] theorem replay_snoc (ks : List κ) (k : κ) :
    replay next t (ks ++ [k]) = (replay next t ks).bind fun t => next t k := by
  simp [replay_append, replay]

/-- What operations keep holds after any number of them. -/
theorem replay_invariant (P : τ → Prop) (h₀ : P t)
    (hnext : ∀ t k t', P t → next t k = some t' → P t') (h : replay next t ks = some t') :
    P t' := by
  induction ks generalizing t with
  | nil =>
    cases h
    exact h₀
  | cons k ks ih =>
    obtain ⟨t₁, hk, hks⟩ := Option.bind_eq_some_iff.1 h
    exact ih (hnext t k t₁ h₀ hk) hks

/-- A reflexive and transitive relation that every operation respects relates a state to all later
ones. -/
theorem replay_rel (R : τ → τ → Prop) (hrefl : ∀ t, R t t)
    (htrans : ∀ {a b c}, R a b → R b c → R a c)
    (hnext : ∀ t k t', next t k = some t' → R t t') (h : replay next t ks = some t') : R t t' :=
  replay_invariant (R t) (hrefl t) (fun _ _ _ hR hk => htrans hR (hnext _ _ _ hk)) h

/-! ### Components -/

/-- The entry leaves the component alone, or drives it by its operation. -/
def Drives (next : τ → κ → Option τ) (view : σ → τ) (own : Entry σ ℓ → Option κ)
    (e : Entry σ ℓ) : Prop :=
  (own e).elim (some (view e.pre)) (next (view e.pre)) = some (view e.post)

/-- **A component follows its own operations.** -/
theorem Run.replayed {view : σ → τ} {own : Entry σ ℓ → Option κ} (hrun : Run step s₀ h s)
    (hdrives : ∀ e ∈ h, Drives next view own e) :
    replay next (view s₀) (h.filterMap own) = some (view s) := by
  induction hrun with
  | nil => rfl
  | @snoc h s s' l hr hs ih =>
    have hbefore := ih fun e he => hdrives e (List.mem_append_left _ he)
    have hlast : Drives next view own ⟨s, l, s'⟩ := hdrives _ List.mem_concat_self
    unfold Drives at hlast
    rw [List.filterMap_append, List.filterMap_cons, List.filterMap_nil]
    cases hown : own ⟨s, l, s'⟩ with
    | none =>
      rw [hown] at hlast
      rw [List.append_nil, hbefore]
      exact hlast
    | some k =>
      rw [hown] at hlast
      rw [replay_snoc, hbefore]
      exact hlast

end Transition
