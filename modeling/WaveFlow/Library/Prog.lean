import Mathlib.Logic.Basic

/-!
# Programs that perform operations

A program ends with a value, or performs an operation of its environment and goes on with the
answer. The same program can be run alone against a world (`run`) and be one of many threads that
share a world (`Library.Pool`).

A `Protocol` is an automaton that watches the operations of a program and their answers, and says
which operation is allowed when. `Follows P m p Q` says that `p`, started in phase `m`, only does
what `P` allows, whatever the answers are, and ends in a phase and with a value that meet `Q`.

* `follows_bind`, `follows_except_bind`: the rules of sequential composition;
* `Follows.simulate`: a program that follows one protocol follows another;
* `Uses`: a program that keeps to a set of operations; `Uses.ignored_bind` and `Uses.ignored_try`
  pass over one whose operations do not concern a protocol;
* `Follows.run`: an invariant of world and phase holds at the end of a run;
* `run_related`: two runs in related worlds give the same value and end in related worlds.
-/

namespace Interaction

universe u v w

/-- A program over the operations `Op`, where `op` is answered by a value of type `Ans op`. -/
inductive Prog (Op : Type u) (Ans : Op → Type v) (α : Type w) : Type (max u v w)
  | ret (a : α)
  | call (op : Op) (k : Ans op → Prog Op Ans α)

namespace Prog

variable {Op : Type u} {Ans : Op → Type v} {α β : Type w}

/-- Run `p`, then `f` on its value. -/
def bind (p : Prog Op Ans α) (f : α → Prog Op Ans β) : Prog Op Ans β :=
  match p with
  | .ret a => f a
  | .call op k => .call op fun ans => (k ans).bind f

instance : Monad (Prog Op Ans) where
  pure := .ret
  bind := bind

/-- Perform one operation. -/
def perform {Op : Type u} {Ans : Op → Type w} (op : Op) : Prog Op Ans (Ans op) := .call op .ret

/-- The value of a program that has ended. -/
def value? : Prog Op Ans α → Option α
  | .ret a => some a
  | .call _ _ => none

theorem value?_eq_some {p : Prog Op Ans α} {a : α} : p.value? = some a ↔ p = .ret a := by
  cases p <;> simp [value?]

/-! ### Running alone -/

variable {W : Type*} (exec : (op : Op) → W → Ans op × W)

/-- Run a program alone: value and final world. -/
def run : Prog Op Ans α → W → α × W
  | .ret a, s => (a, s)
  | .call op k, s => run (k (exec op s).1) (exec op s).2

@[simp] theorem run_call (op : Op) (k : Ans op → Prog Op Ans α) (s : W) :
    run exec (.call op k) s = run exec (k (exec op s).1) (exec op s).2 := rfl

@[simp] theorem run_bind (p : Prog Op Ans α) (f : α → Prog Op Ans β) (s : W) :
    run exec (p >>= f) s = run exec (f (run exec p s).1) (run exec p s).2 := by
  induction p generalizing s with
  | ret a => rfl
  | call op k ih => exact ih _ _

end Prog

/-! ### Protocols -/

/-- An automaton that watches a program. -/
structure Protocol (Op : Type u) (Ans : Op → Type v) (M : Type*) where
  allows : M → Op → Prop
  next : M → (op : Op) → Ans op → M

open Prog

variable {Op : Type u} {Ans : Op → Type v} {α β : Type w} {M : Type*} {P : Protocol Op Ans M}
  {m : M}

/-- From phase `m` the program only does what `P` allows, and ends as `Q` says. -/
def Follows (P : Protocol Op Ans M) (m : M) (p : Prog Op Ans α) (Q : M → α → Prop) : Prop :=
  match p with
  | .ret a => Q m a
  | .call op k => P.allows m op ∧ ∀ ans, Follows P (P.next m op ans) (k ans) Q

@[simp] theorem follows_ret {a : α} {Q : M → α → Prop} :
    Follows P m (.ret a) Q ↔ Q m a := Iff.rfl

@[simp] theorem follows_call {op : Op} {k : Ans op → Prog Op Ans α} {Q : M → α → Prop} :
    Follows P m (.call op k) Q ↔
      P.allows m op ∧ ∀ ans, Follows P (P.next m op ans) (k ans) Q := Iff.rfl

theorem Follows.mono {p : Prog Op Ans α} {Q R : M → α → Prop} (hp : Follows P m p Q)
    (h : ∀ m a, Q m a → R m a) : Follows P m p R := by
  induction p generalizing m with
  | ret a => exact h m a hp
  | call op k ih => exact ⟨hp.1, fun ans => ih ans (hp.2 ans)⟩

/-- Sequential composition. -/
theorem follows_bind {p : Prog Op Ans α} {f : α → Prog Op Ans β} {Q : M → β → Prop}
    (hp : Follows P m p fun m a => Follows P m (f a) Q) : Follows P m (p >>= f) Q := by
  induction p generalizing m with
  | ret a => exact hp
  | call op k ih => exact ⟨hp.1, fun ans => ih ans (hp.2 ans)⟩

/-- A run alone keeps whatever the allowed operations keep. -/
theorem Follows.run {W : Type*} {exec : (op : Op) → W → Ans op × W} {I : M → W → Prop}
    (hop : ∀ m op s, P.allows m op → I m s → I (P.next m op (exec op s).1) (exec op s).2)
    {p : Prog Op Ans α} {Q : M → α → Prop} (hp : Follows P m p Q) {s : W} (hs : I m s) :
    ∃ m', Q m' (run exec p s).1 ∧ I m' (run exec p s).2 := by
  induction p generalizing m s with
  | ret a => exact ⟨m, hp, hs⟩
  | call op k ih => exact ih _ (hp.2 _) (hop m op s hp.1 hs)

/-- The protocol that never leaves its phase. -/
def only (allowed : Op → Prop) : Protocol Op Ans M := ⟨fun _ => allowed, fun m _ _ => m⟩

/-- A protocol that allows everything is followed by every program. -/
theorem follows_anything (p : Prog Op Ans α) :
    Follows (only fun _ => True) m p fun _ _ => True := by
  induction p with
  | ret a => trivial
  | call op k ih => exact ⟨trivial, ih⟩

/-- Another protocol follows along, when it allows what `P` allows in related phases. -/
theorem Follows.simulate {N : Type*} {P' : Protocol Op Ans N} {R : M → N → Prop}
    (hR : ∀ m n op, R m n → P.allows m op →
      P'.allows n op ∧ ∀ ans, R (P.next m op ans) (P'.next n op ans))
    {p : Prog Op Ans α} {Q : M → α → Prop} {n : N} (hmn : R m n) (hp : Follows P m p Q) :
    Follows P' n p fun n' a => ∃ m', R m' n' ∧ Q m' a := by
  induction p generalizing m n with
  | ret a => exact ⟨m, hmn, hp⟩
  | call op k ih =>
    obtain ⟨hallowed, hnext⟩ := hR m n op hmn hp.1
    exact ⟨hallowed, fun ans => ih ans (hnext ans) (hp.2 ans)⟩

/-- What a program may do from a phase on, when it never leaves the phases `N`. -/
theorem Follows.only {allowed : Op → Prop} {N : M → Prop}
    (hN : ∀ m op, N m → P.allows m op → allowed op ∧ ∀ ans, N (P.next m op ans))
    {p : Prog Op Ans α} {Q : M → α → Prop} (hm : N m) (hp : Follows P m p Q) :
    Follows (only allowed) () p fun _ a => ∃ m, N m ∧ Q m a :=
  hp.simulate (R := fun m _ => N m) (fun m _ op => hN m op) hm

/-- The program performs allowed operations only. -/
def Uses (allowed : Op → Prop) (p : Prog Op Ans α) : Prop :=
  Follows (Interaction.only allowed) () p fun _ _ => True

@[simp] theorem uses_ret {allowed : Op → Prop} (a : α) :
    Uses allowed (.ret a : Prog Op Ans α) := trivial

theorem uses_bind {allowed : Op → Prop} {p : Prog Op Ans α} {f : α → Prog Op Ans β}
    (hp : Uses allowed p) (hf : ∀ a, Uses allowed (f a)) : Uses allowed (p >>= f) :=
  follows_bind (hp.mono fun _ a _ => hf a)

/-- What performs these operations only performs those. -/
theorem Follows.uses {allowed allowed' : Op → Prop} (h : ∀ op, allowed op → allowed' op)
    {p : Prog Op Ans α} {Q : M → α → Prop} (hp : Follows (Interaction.only allowed) m p Q) :
    Uses allowed' p := by
  induction p with
  | ret a => trivial
  | call op k ih => exact ⟨h op hp.1, fun ans => ih ans (hp.2 ans)⟩

/-- A protocol that allows them in the phases `N`, and stays there, sees nothing else. -/
theorem Uses.follows {allowed : Op → Prop} {N : M → Prop}
    (hN : ∀ m op, N m → allowed op → P.allows m op ∧ ∀ ans, N (P.next m op ans))
    {p : Prog Op Ans α} (hm : N m) (hp : Uses allowed p) : Follows P m p fun m' _ => N m' := by
  refine (Follows.simulate (R := fun _ m => N m) (fun _ m op => hN m op) hm hp).mono ?_
  rintro m' a ⟨-, hm', -⟩
  exact hm'

/-- The protocol lets the operations pass and stays in its phase. -/
def Protocol.Ignores (P : Protocol Op Ans M) (m : M) (allowed : Op → Prop) : Prop :=
  ∀ op, allowed op → P.allows m op ∧ ∀ ans, P.next m op ans = m

theorem Uses.ignored {allowed : Op → Prop} (hm : P.Ignores m allowed) {p : Prog Op Ans α}
    (hp : Uses allowed p) : Follows P m p fun m' _ => m' = m := by
  refine hp.follows (N := fun m' => m' = m) ?_ rfl
  rintro m' op rfl hop
  exact hm op hop

/-- After operations that are ignored, the phase is as before. -/
theorem Uses.ignored_bind {allowed : Op → Prop} (hm : P.Ignores m allowed) {p : Prog Op Ans α}
    (hp : Uses allowed p) {f : α → Prog Op Ans β} {Q : M → β → Prop}
    (hf : ∀ a, Follows P m (f a) Q) : Follows P m (p >>= f) Q := by
  refine follows_bind ((hp.ignored hm).mono ?_)
  rintro m' a rfl
  exact hf a

/-- Two runs in worlds that the allowed operations cannot tell apart. -/
theorem run_related {W : Type*} {exec : (op : Op) → W → Ans op × W} {R : W → W → Prop}
    {allowed : Op → Prop}
    (hop : ∀ op s t, allowed op → R s t →
      (exec op s).1 = (exec op t).1 ∧ R (exec op s).2 (exec op t).2)
    {p : Prog Op Ans α} {Q : Unit → α → Prop} (hp : Follows (Interaction.only allowed) () p Q)
    {s t : W} (hst : R s t) :
    (run exec p s).1 = (run exec p t).1 ∧ R (run exec p s).2 (run exec p t).2 := by
  induction p generalizing s t with
  | ret a => exact ⟨rfl, hst⟩
  | call op k ih =>
    obtain ⟨hans, hrel⟩ := hop op s t hp.1 hst
    rw [run_call, run_call, hans]
    exact ih _ (hp.2 _) hrel

/-! ### Programs that can fail -/

section Fallible

variable {ε : Type w}

/-- The operator `?`: the rest runs on a value, an error ends the program. -/
theorem run_except_bind {W : Type*} (exec : (op : Op) → W → Ans op × W)
    (p : ExceptT ε (Prog Op Ans) α) (f : α → ExceptT ε (Prog Op Ans) β) (s : W) :
    run exec (ExceptT.run (p >>= f)) s =
      match run exec p.run s with
      | (.ok a, t) => run exec (f a).run t
      | (.error e, t) => (.error e, t) := by
  show run exec (Prog.bind p.run (ExceptT.bindCont f)) s = _
  rw [show Prog.bind p.run (ExceptT.bindCont f) = p.run >>= ExceptT.bindCont f from rfl, run_bind]
  rcases run exec p.run s with ⟨_ | a, t⟩ <;> rfl

theorem follows_except_bind {p : ExceptT ε (Prog Op Ans) α} {f : α → ExceptT ε (Prog Op Ans) β}
    {Q : M → Except ε β → Prop}
    (hp : Follows P m p.run fun m r => match r with
      | .ok a => Follows P m (f a).run Q
      | .error e => Q m (.error e)) :
    Follows P m (ExceptT.run (p >>= f)) Q := by
  refine follows_bind (hp.mono fun m r hr => ?_)
  cases r with
  | ok a => exact hr
  | error e => exact hr

/-- The same for a program that can fail: its error is passed on. -/
theorem Uses.ignored_try {allowed : Op → Prop} (hm : P.Ignores m allowed)
    {p : ExceptT ε (Prog Op Ans) α} (hp : Uses allowed p.run) {f : α → ExceptT ε (Prog Op Ans) β}
    {Q : M → Except ε β → Prop} (hf : ∀ a, Follows P m (f a).run Q) (herror : ∀ e, Q m (.error e)) :
    Follows P m (ExceptT.run (p >>= f)) Q := by
  apply hp.ignored_bind hm
  intro r
  cases r with
  | ok a => exact hf a
  | error e => exact herror e

theorem uses_except_bind {allowed : Op → Prop} {p : ExceptT ε (Prog Op Ans) α}
    {f : α → ExceptT ε (Prog Op Ans) β} (hp : Uses allowed p.run) (hf : ∀ a, Uses allowed (f a).run) :
    Uses allowed (ExceptT.run (p >>= f)) := by
  apply uses_bind hp
  intro r
  cases r with
  | ok a => exact hf a
  | error e => trivial

end Fallible

end Interaction
