import Mathlib.Algebra.BigOperators.Group.Finset.Piecewise
import Mathlib.Algebra.Order.BigOperators.Group.Finset
import WaveFlow.Library.Pool

/-!
# Programs that end

`p.Within n` says that `p` performs at most `n` operations, whatever the answers are.

* `within_bind`, `within_except_bind`: the budgets of the parts add up;
* `Pool.within_of_run`, `Pool.length_le`: in every run of a pool a thread keeps to its budget, and
  the run to the sum of the budgets;
* `Pool.ends_alone`: when all operations are answered, a thread can end by steps of its own, so it
  never waits for another one;
* `Pool.all_end`: finitely many threads can all end.
-/

namespace Interaction

open Transition

universe u v w

variable {Op : Type u} {Ans : Op → Type v} {α β : Type w} {n m : ℕ}

namespace Prog

/-- The program performs at most this many operations. -/
def Within : Prog Op Ans α → ℕ → Prop
  | .ret _, _ => True
  | .call _ _, 0 => False
  | .call _ k, n + 1 => ∀ ans, (k ans).Within n

@[simp] theorem within_ret (a : α) (n : ℕ) : (ret a : Prog Op Ans α).Within n := trivial

theorem within_call {op : Op} {k : Ans op → Prog Op Ans α} (h : ∀ ans, (k ans).Within n) :
    (call op k).Within (n + 1) := h

theorem Within.mono {p : Prog Op Ans α} (hp : p.Within n) (h : n ≤ m) : p.Within m := by
  induction p generalizing n m with
  | ret a => trivial
  | call op k ih =>
    cases n with
    | zero => exact absurd hp id
    | succ n =>
      obtain ⟨m, rfl⟩ : ∃ m', m = m' + 1 := Nat.exists_eq_add_one.2 (by omega)
      exact fun ans => ih ans (hp ans) (by omega)

/-- Sequential composition. -/
theorem within_bind {p : Prog Op Ans α} {f : α → Prog Op Ans β} (hp : p.Within n)
    (hf : ∀ a, (f a).Within m) : (p >>= f).Within (n + m) := by
  induction p generalizing n with
  | ret a => exact (hf a).mono (by omega)
  | call op k ih =>
    cases n with
    | zero => exact absurd hp id
    | succ n =>
      rw [Nat.succ_add]
      exact within_call fun ans => ih ans (hp ans)

theorem within_except_bind {ε : Type w} {p : ExceptT ε (Prog Op Ans) α}
    {f : α → ExceptT ε (Prog Op Ans) β} (hp : p.run.Within n) (hf : ∀ a, (f a).run.Within m) :
    (ExceptT.run (p >>= f)).Within (n + m) := by
  refine within_bind hp fun r => ?_
  cases r with
  | ok a => exact hf a
  | error e => trivial

end Prog

namespace Pool

variable {ι : Type*} [DecidableEq ι] {M W : Type*} {exec : (op : Op) → W → Ans op → W → Prop}
  {P : ι → Protocol Op Ans M} {s s' s₀ : Pool ι Op Ans α M W} {e : Event ι Op Ans}
  {h : List (Entry (Pool ι Op Ans α M W) (Event ι Op Ans))}

/-- The number of steps of thread `i`. -/
def steps (i : ι) (h : List (Entry (Pool ι Op Ans α M W) (Event ι Op Ans))) : ℕ :=
  h.countP fun e => e.label.thread = i

theorem steps_snoc (i : ι) :
    steps i (h ++ [⟨s, e, s'⟩]) = steps i h + if e.thread = i then 1 else 0 := by
  rw [steps, List.countP_append, List.countP_singleton]
  simp only [decide_eq_true_eq, steps]

theorem steps_append (i : ι) (h h' : List (Entry (Pool ι Op Ans α M W) (Event ι Op Ans))) :
    steps i (h ++ h') = steps i h + steps i h' := List.countP_append

theorem steps_of_own {i : ι} (hown : ∀ e ∈ h, e.label.thread = i) : steps i h = h.length :=
  List.countP_eq_length.2 fun e he => decide_eq_true (hown e he)

/-- A history is made of the steps of its threads. -/
theorem sum_steps [Fintype ι] (h : List (Entry (Pool ι Op Ans α M W) (Event ι Op Ans))) :
    ∑ i, steps i h = h.length := by
  induction h with
  | nil => simp [steps]
  | cons e h ih =>
    simp only [steps, List.countP_cons, decide_eq_true_eq, Finset.sum_add_distrib,
      Finset.sum_ite_eq, Finset.mem_univ, if_true, List.length_cons] at ih ⊢
    rw [ih]

/-- **A thread keeps to its budget.** -/
theorem within_of_run {n : ι → ℕ} (hrun : Run (Step exec P) s₀ h s)
    (hwithin : ∀ i, (s₀.prog i).Within (n i)) (i : ι) :
    steps i h ≤ n i ∧ (s.prog i).Within (n i - steps i h) := by
  induction hrun with
  | nil => exact ⟨Nat.zero_le _, hwithin i⟩
  | @snoc h s s' e hr hs ih =>
    rw [steps_snoc]
    by_cases hi : e.thread = i
    · subst hi
      obtain ⟨hle, hbefore⟩ := ih
      cases hs with
      | perform i ans hprog hexec =>
        rw [hprog] at hbefore
        simp only [if_true, resume, Function.update_self]
        generalize hleft : n i - steps i h = left at hbefore
        cases left with
        | zero => exact absurd hbefore id
        | succ left =>
          refine ⟨by omega, ?_⟩
          rw [show n i - (steps i h + 1) = left by omega]
          exact hbefore ans
    · rw [if_neg hi, hs.prog_other (Ne.symm hi)]
      exact ih

/-- Threads with budgets make a run of bounded length. -/
theorem length_le [Fintype ι] {n : ι → ℕ} (hrun : Run (Step exec P) s₀ h s)
    (hwithin : ∀ i, (s₀.prog i).Within (n i)) : h.length ≤ ∑ i, n i := by
  rw [← sum_steps]
  exact Finset.sum_le_sum fun i _ => (within_of_run hrun hwithin i).1

/-- **A thread can end on its own**, within its budget, and leaves the others where they are. -/
theorem ends_alone (htotal : ∀ op w, ∃ ans w', exec op w ans w') {i : ι}
    (hwithin : (s.prog i).Within n) :
    ∃ h s', Run (Step exec P) s h s' ∧ (∀ e ∈ h, e.label.thread = i) ∧
      (∃ a, s'.prog i = .ret a) ∧ ∀ j, j ≠ i → s'.prog j = s.prog j := by
  induction n generalizing s with
  | zero =>
    cases hprog : s.prog i with
    | ret a => exact ⟨[], s, .nil, by simp, ⟨a, hprog⟩, fun _ _ => rfl⟩
    | call op k =>
      rw [hprog] at hwithin
      exact absurd hwithin id
  | succ n ih =>
    cases hprog : s.prog i with
    | ret a => exact ⟨[], s, .nil, by simp, ⟨a, hprog⟩, fun _ _ => rfl⟩
    | call op k =>
      rw [hprog] at hwithin
      obtain ⟨ans, world, hexec⟩ := htotal op s.world
      have hs : Step exec P s ⟨i, op, ans⟩ (s.resume P ⟨i, op, ans⟩ (k ans) world) :=
        .perform i ans hprog hexec
      obtain ⟨h, s', hrun, hown, hended, hothers⟩ :=
        ih (s := s.resume P ⟨i, op, ans⟩ (k ans) world)
          (by simp only [resume, Function.update_self]; exact hwithin ans)
      refine ⟨_, s', hrun.cons hs, ?_, hended, fun j hj => ?_⟩
      · rw [List.forall_mem_cons]
        exact ⟨rfl, hown⟩
      · rw [hothers j hj, hs.prog_other hj]

/-- Threads that have ended stay so while the others end one after the other. -/
theorem list_ends (htotal : ∀ op w, ∃ ans w', exec op w ans w') {n : ι → ℕ} (is : List ι)
    (hwithin : ∀ i, (s.prog i).Within (n i)) :
    ∃ h s', Run (Step exec P) s h s' ∧ ∀ i ∈ is, ∃ a, s'.prog i = .ret a := by
  induction is with
  | nil => exact ⟨[], s, .nil, by simp⟩
  | cons i is ih =>
    obtain ⟨h, s₁, hrun, hended⟩ := ih
    obtain ⟨h', s₂, hrun', -, hi, hothers⟩ :=
      ends_alone htotal (within_of_run hrun hwithin i).2
    refine ⟨h ++ h', s₂, hrun.append hrun', fun j hj => ?_⟩
    by_cases hji : j = i
    · rw [hji]
      exact hi
    · rw [hothers j hji]
      exact hended j ((List.mem_cons.1 hj).resolve_left hji)

/-- **All threads can end.** -/
theorem all_end [Fintype ι] (htotal : ∀ op w, ∃ ans w', exec op w ans w') {n : ι → ℕ}
    (hwithin : ∀ i, (s.prog i).Within (n i)) :
    ∃ h s', Run (Step exec P) s h s' ∧ ∀ i, ∃ a, s'.prog i = .ret a := by
  obtain ⟨h, s', hrun, hended⟩ := list_ends htotal Finset.univ.toList hwithin
  exact ⟨h, s', hrun, fun i => hended i (Finset.mem_toList.2 (Finset.mem_univ i))⟩

end Pool

end Interaction
