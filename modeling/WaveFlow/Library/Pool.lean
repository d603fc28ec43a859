import Mathlib.Logic.Function.Basic
import WaveFlow.Library.Prog
import WaveFlow.Library.Transition

/-!
# Programs that share a world

A pool is a world and a family of programs, the threads. In every step one thread performs its next
operation; which thread is up to chance, and a thread that stops for good is one that is never
chosen again. `exec op w ans w'` says that the operation can be answered by `ans` and leave `w'`.

Every thread is watched by a protocol. `Step.allowed` and `Follow.ended` say what a thread that
follows its protocol does and how it ends. A thread can be watched by other protocols as well, over
the history of a run: `watched_of_run` is the rule for what a watcher knows of history and world.
From it follows `traced_of_run`, for the phases of the threads. `Did` says that a thread has taken a
step of some kind.
-/

namespace Interaction

open Transition

universe u v w

/-- The state of a pool of threads `ι`: the world, and for each thread what is left of it and the
phase of its protocol. -/
structure Pool (ι : Type*) (Op : Type u) (Ans : Op → Type v) (α : Type w) (M W : Type*) where
  world : W
  prog : ι → Prog Op Ans α
  phase : ι → M

/-- A thread performed an operation. -/
structure Event (ι : Type*) (Op : Type u) (Ans : Op → Type v) where
  thread : ι
  op : Op
  ans : Ans op

namespace Pool

variable {ι : Type*} [DecidableEq ι] {Op : Type u} {Ans : Op → Type v} {α : Type w} {M W : Type*}

/-- The pool after thread `i` got an answer. -/
def resume (P : ι → Protocol Op Ans M) (s : Pool ι Op Ans α M W) (e : Event ι Op Ans)
    (rest : Prog Op Ans α) (world : W) : Pool ι Op Ans α M W where
  world := world
  prog := Function.update s.prog e.thread rest
  phase := Function.update s.phase e.thread ((P e.thread).next (s.phase e.thread) e.op e.ans)

variable (exec : (op : Op) → W → Ans op → W → Prop) (P : ι → Protocol Op Ans M)

/-- One thread performs its next operation. -/
inductive Step (s : Pool ι Op Ans α M W) : Event ι Op Ans → Pool ι Op Ans α M W → Prop
  | perform (i : ι) {op : Op} {k : Ans op → Prog Op Ans α} (ans : Ans op) {world : W}
      (hprog : s.prog i = .call op k) (hexec : exec op s.world ans world) :
      Step s ⟨i, op, ans⟩ (s.resume P ⟨i, op, ans⟩ (k ans) world)

variable {exec P} {s s' s₀ : Pool ι Op Ans α M W} {e : Event ι Op Ans}
  {h : List (Entry (Pool ι Op Ans α M W) (Event ι Op Ans))}

theorem Step.answered (hs : Step exec P s e s') : exec e.op s.world e.ans s'.world := by
  cases hs with
  | perform i ans hprog hexec => exact hexec

theorem Step.phase_self (hs : Step exec P s e s') :
    s'.phase e.thread = (P e.thread).next (s.phase e.thread) e.op e.ans := by
  cases hs with
  | perform i ans hprog hexec => exact Function.update_self _ _ _

theorem Step.phase_other (hs : Step exec P s e s') {j : ι} (hj : j ≠ e.thread) :
    s'.phase j = s.phase j := by
  cases hs with
  | perform i ans hprog hexec => exact Function.update_of_ne hj _ _

theorem Step.prog_other (hs : Step exec P s e s') {j : ι} (hj : j ≠ e.thread) :
    s'.prog j = s.prog j := by
  cases hs with
  | perform i ans hprog hexec => exact Function.update_of_ne hj _ _

theorem Step.mono {exec' : (op : Op) → W → Ans op → W → Prop} (hs : Step exec P s e s')
    (hexec : ∀ op w ans w', exec op w ans w' → exec' op w ans w') : Step exec' P s e s' := by
  cases hs with
  | perform i ans hprog hdone => exact .perform i ans hprog (hexec _ _ _ _ hdone)

/-! ### Threads that follow their protocols -/

variable {Q : ι → M → α → Prop}

/-- What is left of every thread follows its protocol. -/
def Follow (P : ι → Protocol Op Ans M) (Q : ι → M → α → Prop) (s : Pool ι Op Ans α M W) : Prop :=
  ∀ i, Follows (P i) (s.phase i) (s.prog i) (Q i)

theorem Step.follow (hs : Step exec P s e s') (hfollow : Follow P Q s) : Follow P Q s' := by
  intro j
  by_cases hj : j = e.thread
  · subst hj
    cases hs with
    | perform i ans hprog hexec =>
      have hi := hfollow i
      rw [hprog] at hi
      simp only [resume, Function.update_self]
      exact hi.2 ans
  · rw [hs.phase_other hj, hs.prog_other hj]
    exact hfollow j

/-- A thread only does what its protocol allows. -/
theorem Step.allowed (hs : Step exec P s e s') (hfollow : Follow P Q s) :
    (P e.thread).allows (s.phase e.thread) e.op := by
  cases hs with
  | perform i ans hprog hexec =>
    have hi := hfollow i
    rw [hprog] at hi
    exact hi.1

theorem follow_of_run (hrun : Run (Step exec P) s₀ h s) (hfollow : Follow P Q s₀) : Follow P Q s :=
  hrun.invariant_state (Follow P Q) hfollow fun _ _ _ hf hs => hs.follow hf

omit [DecidableEq ι] in
/-- A thread ends as its protocol says. -/
theorem Follow.ended (hfollow : Follow P Q s) {i : ι} {a : α} (hi : s.prog i = .ret a) :
    Q i (s.phase i) a := by
  have := hfollow i
  rwa [hi] at this

/-! ### Watching the threads -/

section Watch

variable {N : Type*} {R : ι → Protocol Op Ans N} {n : ι → N} {K : ι → N → α → Prop}

/-- The phase in which a protocol, started in `n`, sees thread `i` after a history. -/
def watch (R : Protocol Op Ans N) (n : N) (i : ι)
    (h : List (Entry (Pool ι Op Ans α M W) (Event ι Op Ans))) : N :=
  h.foldl (fun n e => if e.label.thread = i then R.next n e.label.op e.label.ans else n) n

theorem watch_snoc (R : Protocol Op Ans N) (n : N) (i : ι) :
    watch R n i (h ++ [⟨s, e, s'⟩]) =
      if e.thread = i then R.next (watch R n i h) e.op e.ans else watch R n i h := by
  simp only [watch, List.foldl_append, List.foldl_cons, List.foldl_nil]

theorem watch_of_unmoved (R : Protocol Op Ans N) (n : N) {i : ι}
    (hi : ∀ e ∈ h, e.label.thread ≠ i) : watch R n i h = n := by
  induction h with
  | nil => rfl
  | cons e h ih =>
    rw [watch, List.foldl_cons, if_neg (hi e List.mem_cons_self)]
    exact ih fun e' he' => hi e' (List.mem_cons_of_mem _ he')

/-- Any protocol that a thread follows from the start can watch it. -/
theorem follows_watch (hrun : Run (Step exec P) s₀ h s)
    (hfollow : ∀ i, Follows (R i) (n i) (s₀.prog i) (K i)) (i : ι) :
    Follows (R i) (watch (R i) (n i) i h) (s.prog i) (K i) := by
  induction hrun with
  | nil => exact hfollow i
  | @snoc h s s' e hr hs ih =>
    rw [watch_snoc]
    by_cases hi : e.thread = i
    · subst hi
      cases hs with
      | perform i ans hprog hexec =>
        rw [hprog] at ih
        simp only [resume, Function.update_self, if_true]
        exact ih.2 ans
    · rw [if_neg hi, hs.prog_other (Ne.symm hi)]
      exact ih

/-- A thread does what the protocol that watches it allows. -/
theorem allowed_of_watch (hrun : Run (Step exec P) s₀ h s)
    (hfollow : ∀ i, Follows (R i) (n i) (s₀.prog i) (K i)) (hs : Step exec P s e s') :
    (R e.thread).allows (watch (R e.thread) (n e.thread) e.thread h) e.op := by
  have hthread := follows_watch hrun hfollow e.thread
  cases hs with
  | perform i ans hprog hexec =>
    rw [hprog] at hthread
    exact hthread.1

/-- The rule for a property of each thread, as its protocol sees it, and of the history and the
world: the thread's own steps establish it, and the steps of other threads keep it. -/
theorem watched_of_run
    {J : ι → N → List (Entry (Pool ι Op Ans α M W) (Event ι Op Ans)) → W → Prop}
    (hrun : Run (Step exec P) s₀ h s) (hfollow : ∀ i, Follows (R i) (n i) (s₀.prog i) (K i))
    (h₀ : ∀ i, J i (n i) [] s₀.world)
    (hown : ∀ h s e s', Run (Step exec P) s₀ h s → Step exec P s e s' →
      (R e.thread).allows (watch (R e.thread) (n e.thread) e.thread h) e.op →
      J e.thread (watch (R e.thread) (n e.thread) e.thread h) h s.world →
      J e.thread ((R e.thread).next (watch (R e.thread) (n e.thread) e.thread h) e.op e.ans)
        (h ++ [⟨s, e, s'⟩]) s'.world)
    (hother : ∀ i h s e s', Run (Step exec P) s₀ h s → Step exec P s e s' → e.thread ≠ i →
      J i (watch (R i) (n i) i h) h s.world →
      J i (watch (R i) (n i) i h) (h ++ [⟨s, e, s'⟩]) s'.world) (i : ι) :
    J i (watch (R i) (n i) i h) h s.world := by
  induction hrun with
  | nil => exact h₀ i
  | @snoc h s s' e hr hs ih =>
    rw [watch_snoc]
    by_cases hi : e.thread = i
    · subst hi
      rw [if_pos rfl]
      exact hown h s e s' hr hs (allowed_of_watch hr hfollow hs) ih
    · rw [if_neg hi]
      exact hother i h s e s' hr hs hi ih

end Watch

theorem phase_eq_watch (hrun : Run (Step exec P) s₀ h s) (i : ι) :
    s.phase i = watch (P i) (s₀.phase i) i h := by
  induction hrun with
  | nil => rfl
  | @snoc h s s' e hr hs ih =>
    rw [watch_snoc, ← ih]
    by_cases hi : e.thread = i
    · subst hi
      rw [if_pos rfl, hs.phase_self]
    · rw [if_neg hi, hs.phase_other (Ne.symm hi)]

/-- The rule for a property of each thread's phase and of the history and the world. -/
theorem traced_of_run
    {J : ι → M → List (Entry (Pool ι Op Ans α M W) (Event ι Op Ans)) → W → Prop}
    (hrun : Run (Step exec P) s₀ h s) (hfollow : Follow P Q s₀)
    (h₀ : ∀ i, J i (s₀.phase i) [] s₀.world)
    (hown : ∀ h s e s', Run (Step exec P) s₀ h s → Step exec P s e s' →
      (P e.thread).allows (s.phase e.thread) e.op → J e.thread (s.phase e.thread) h s.world →
      J e.thread ((P e.thread).next (s.phase e.thread) e.op e.ans) (h ++ [⟨s, e, s'⟩]) s'.world)
    (hother : ∀ i h s e s', Step exec P s e s' → e.thread ≠ i → J i (s.phase i) h s.world →
      J i (s.phase i) (h ++ [⟨s, e, s'⟩]) s'.world) (i : ι) : J i (s.phase i) h s.world := by
  rw [phase_eq_watch hrun]
  refine watched_of_run hrun hfollow h₀ ?_ ?_ i
  · intro h s e s' hr hs
    rw [← phase_eq_watch hr]
    exact hown h s e s' hr hs
  · intro i h s e s' hr hs
    rw [← phase_eq_watch hr]
    exact hother i h s e s' hs

/-! ### What a thread has done -/

section Did

variable {T T' : Pool ι Op Ans α M W → Event ι Op Ans → Prop} {i : ι}

omit [DecidableEq ι] in
/-- Thread `i` has taken a step of the kind `T`. -/
def Did (T : Pool ι Op Ans α M W → Event ι Op Ans → Prop)
    (h : List (Entry (Pool ι Op Ans α M W) (Event ι Op Ans))) (i : ι) : Prop :=
  ∃ e ∈ h, e.label.thread = i ∧ T e.pre e.label

omit [DecidableEq ι] in
theorem did_nil (T : Pool ι Op Ans α M W → Event ι Op Ans → Prop) (i : ι) : ¬ Did T [] i := by
  rintro ⟨e, he, -⟩
  cases he

omit [DecidableEq ι] in
theorem did_snoc : Did T (h ++ [⟨s, e, s'⟩]) i ↔ Did T h i ∨ e.thread = i ∧ T s e := by
  constructor
  · rintro ⟨e', he', hthread, hT⟩
    rcases List.mem_append.1 he' with hold | hnew
    · exact .inl ⟨e', hold, hthread, hT⟩
    · obtain rfl := List.mem_singleton.1 hnew
      exact .inr ⟨hthread, hT⟩
  · rintro (⟨e', he', hthread, hT⟩ | ⟨hthread, hT⟩)
    · exact ⟨e', List.mem_append_left _ he', hthread, hT⟩
    · exact ⟨⟨s, e, s'⟩, List.mem_concat_self, hthread, hT⟩

omit [DecidableEq ι] in
theorem did_snoc_self : Did T (h ++ [⟨s, e, s'⟩]) e.thread ↔ Did T h e.thread ∨ T s e := by
  rw [did_snoc, and_iff_right rfl]

omit [DecidableEq ι] in
theorem did_snoc_other (hne : e.thread ≠ i) : Did T (h ++ [⟨s, e, s'⟩]) i ↔ Did T h i := by
  rw [did_snoc, or_iff_left fun hnew => hne hnew.1]

end Did

/-! ### Schedules -/

section Play

variable (run : (op : Op) → W → Ans op × W) (P)

/-- Let threads take steps in the given order; a thread that has ended is passed over. -/
def play (s : Pool ι Op Ans α M W) : List ι →
    List (Entry (Pool ι Op Ans α M W) (Event ι Op Ans)) × Pool ι Op Ans α M W
  | [] => ([], s)
  | i :: rest =>
    match s.prog i with
    | .ret _ => play s rest
    | .call op k =>
      let s' := s.resume P ⟨i, op, (run op s.world).1⟩ (k (run op s.world).1) (run op s.world).2
      let r := play s' rest
      (⟨s, ⟨i, op, (run op s.world).1⟩, s'⟩ :: r.1, r.2)

/-- A schedule is played by a run. -/
theorem run_play (hrun : ∀ op w, exec op w (run op w).1 (run op w).2) (is : List ι)
    (s : Pool ι Op Ans α M W) :
    Run (Step exec P) s (play P run s is).1 (play P run s is).2 := by
  induction is generalizing s with
  | nil => exact .nil
  | cons i rest ih =>
    unfold play
    split
    · exact ih s
    · rename_i op k hprog
      exact (ih _).cons (.perform i _ hprog (hrun op s.world))

end Play

end Pool

end Interaction
