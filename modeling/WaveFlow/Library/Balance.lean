import Mathlib.Algebra.BigOperators.Group.Finset.Piecewise
import WaveFlow.Library.Transition

/-!
# Quantities over a run

A quantity of the state changes over a run by the sum of what the steps change. When every step
belongs to a thread, the sum can be taken thread by thread: `Run.sum_threads`.
-/

namespace Transition

variable {σ ℓ ι A : Type*} [AddCommGroup A] {step : σ → ℓ → σ → Prop} {s₀ s : σ}
  {h : List (Entry σ ℓ)}

/-- The change of a quantity over an entry of a history. -/
def Entry.change (f : σ → A) (e : Entry σ ℓ) : A := f e.post - f e.pre

theorem Run.sum_change (hrun : Run step s₀ h s) (f : σ → A) :
    f s = f s₀ + (h.map (Entry.change f)).sum := by
  induction hrun with
  | nil => simp
  | @snoc h s s' l hr hs ih =>
    rw [List.map_append, List.sum_append, ← add_assoc, ← ih]
    simp [Entry.change]

/-- What the entries of one thread sum to. -/
def threadSum [DecidableEq ι] (thread : ℓ → ι) (f : Entry σ ℓ → A) (i : ι)
    (h : List (Entry σ ℓ)) : A :=
  (h.map fun e => if thread e.label = i then f e else 0).sum

theorem threadSum_snoc [DecidableEq ι] (thread : ℓ → ι) (f : Entry σ ℓ → A) (i : ι)
    (e : Entry σ ℓ) :
    threadSum thread f i (h ++ [e]) =
      threadSum thread f i h + if thread e.label = i then f e else 0 := by
  simp [threadSum]

/-- The threads together. -/
theorem sum_threadSum [DecidableEq ι] (thread : ℓ → ι) (f : Entry σ ℓ → A) (S : Finset ι)
    (hS : ∀ e ∈ h, thread e.label ∈ S) :
    ∑ i ∈ S, threadSum thread f i h = (h.map f).sum := by
  induction h with
  | nil => simp [threadSum]
  | cons e h ih =>
    have hrest := ih fun e' he' => hS e' (List.mem_cons_of_mem _ he')
    simp only [threadSum, List.map_cons, List.sum_cons, Finset.sum_add_distrib] at hrest ⊢
    rw [hrest, Finset.sum_ite_eq, if_pos (hS e List.mem_cons_self)]

/-- The threads that took a step. -/
def threads [DecidableEq ι] (thread : ℓ → ι) (h : List (Entry σ ℓ)) : Finset ι :=
  (h.map fun e => thread e.label).toFinset

theorem mem_threads [DecidableEq ι] {thread : ℓ → ι} {i : ι} :
    i ∈ threads thread h ↔ ∃ e ∈ h, thread e.label = i := by
  simp [threads]

/-- A quantity has changed by what its changes sum to, thread by thread. -/
theorem Run.sum_threads [DecidableEq ι] (hrun : Run step s₀ h s) (thread : ℓ → ι) (f : σ → A) :
    f s = f s₀ + ∑ i ∈ threads thread h, threadSum thread (Entry.change f) i h := by
  rw [hrun.sum_change f, sum_threadSum]
  intro e he
  exact mem_threads.2 ⟨e, he, rfl⟩

end Transition
