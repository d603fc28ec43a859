import WaveFlow.Library.Prog
import WaveFlow.Library.Transition

/-!
# Programs that only look

A program whose operations look at the state of a system and change nothing runs beside the system:
before, between and after its operations the system takes any steps. `answers op s ans` says that in
state `s` the operation can be answered by `ans`.

* `Observes`: the program ends with a value, beside a run;
* `AtMoment`: it ends with the value when all its operations are answered in one state;
* `Settled`: whenever the program goes on after an answer, that answer stays possible in all later
  states;
* `Observes.atMoment`: what a settled program returns, it returns at one moment of the run. So a
  program of several operations cannot be told from one that looks at everything at once.
-/

namespace Interaction

open Transition

universe u v w

variable {Op : Type u} {Ans : Op → Type v} {α : Type w} {σ ℓ : Type*}

/-- The program `p`, started in state `s`, ends with `a` beside a run that leads to `t`. -/
inductive Observes (step : σ → ℓ → σ → Prop) (answers : (op : Op) → σ → Ans op → Prop) :
    σ → Prog Op Ans α → α → σ → Prop
  | ret {s t : σ} {h : List (Entry σ ℓ)} (a : α) (hrun : Run step s h t) :
      Observes step answers s (.ret a) a t
  | look {s s' t : σ} {h : List (Entry σ ℓ)} {op : Op} {k : Ans op → Prog Op Ans α} {ans : Ans op}
      {a : α} (hrun : Run step s h s') (hans : answers op s' ans)
      (hrest : Observes step answers s' (k ans) a t) : Observes step answers s (.call op k) a t

/-- The program ends with `a` when all its operations are answered in state `s`. -/
def AtMoment (answers : (op : Op) → σ → Ans op → Prop) (s : σ) : Prog Op Ans α → α → Prop
  | .ret a', a => a' = a
  | .call op k, a => ∃ ans, answers op s ans ∧ AtMoment answers s (k ans) a

variable {step : σ → ℓ → σ → Prop} {answers : (op : Op) → σ → Ans op → Prop} {s t : σ}
  {p : Prog Op Ans α} {a : α} {h : List (Entry σ ℓ)}

@[simp] theorem atMoment_ret {a' : α} : AtMoment answers s (.ret a') a ↔ a' = a := Iff.rfl

@[simp] theorem atMoment_call {op : Op} {k : Ans op → Prog Op Ans α} :
    AtMoment answers s (.call op k) a ↔ ∃ ans, answers op s ans ∧ AtMoment answers s (k ans) a :=
  Iff.rfl

/-- The answer stays possible. -/
def Lasts (step : σ → ℓ → σ → Prop) (answers : (op : Op) → σ → Ans op → Prop) (op : Op)
    (ans : Ans op) : Prop :=
  ∀ s t h, Run step s h t → answers op s ans → answers op t ans

/-- After an answer the program ends, or the answer lasts. -/
def Settled (step : σ → ℓ → σ → Prop) (answers : (op : Op) → σ → Ans op → Prop) :
    Prog Op Ans α → Prop
  | .ret _ => True
  | .call op k => ∀ ans, (∃ a, k ans = .ret a) ∨
      (Lasts step answers op ans ∧ Settled step answers (k ans))

/-- A program of one operation is settled. -/
theorem settled_of_ends {op : Op} {k : Ans op → Prog Op Ans α} (hk : ∀ ans, ∃ a, k ans = .ret a) :
    Settled step answers (.call op k) :=
  fun ans => .inl (hk ans)

/-- What an observer returns at one moment is what it returns beside a run through that moment. -/
theorem AtMoment.observes (hp : AtMoment answers s p a) : Observes step answers s p a s := by
  induction p with
  | ret a' =>
    cases hp
    exact .ret a .nil
  | call op k ih =>
    obtain ⟨ans, hans, hrest⟩ := hp
    exact .look .nil hans (ih ans hrest)

/-- **A settled program looks at one moment**: its answer is the one of some state that the run
beside it goes through. -/
theorem Observes.atMoment (hp : Observes step answers s p a t)
    (hsettled : Settled step answers p) :
    ∃ m h h', Run step s h m ∧ Run step m h' t ∧ AtMoment answers m p a := by
  induction hp with
  | ret a hrun => exact ⟨_, _, _, .nil, hrun, rfl⟩
  | @look s s' t h op k ans a hrun hans hrest ih =>
    rcases hsettled ans with ⟨a', hends⟩ | ⟨hlasts, hsettled⟩
    · rw [hends] at hrest
      cases hrest with
      | ret a hrun' => exact ⟨s', h, _, hrun, hrun', ans, hans, by rw [hends]; rfl⟩
    · obtain ⟨m, h₁, h₂, hrun₁, hrun₂, hmoment⟩ := ih hsettled
      exact ⟨m, _, h₂, hrun.append hrun₁, hrun₂, ans, hlasts _ _ _ hrun₁ hans, hmoment⟩

end Interaction
