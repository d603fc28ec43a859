import Mathlib.Data.Set.Insert

/-!
# Doing a thing once, by looking first

Threads that want something done at most once for each key look whether it is recorded, do it, and
record it. Between the look and the record a thread is inside the key. Nothing is done twice as long
as no thread enters a key that is recorded or that another one is inside of: `Safe.step`.
-/

namespace Exclusion

/-- The threads `ι`, the keys `κ`. A thread that is inside a key has acted on it or not. -/
@[ext]
structure State (ι κ : Type*) where
  inside : ι → Option (κ × Bool)
  recorded : Set κ
  acted : κ → ℕ

variable {ι κ : Type*} [DecidableEq ι] [DecidableEq κ] {s s' : State ι κ}

/-- Put a thread inside a key, or outside. -/
def State.move (s : State ι κ) (i : ι) (place : Option (κ × Bool)) : State ι κ :=
  { s with inside := Function.update s.inside i place }

inductive Step (s : State ι κ) : State ι κ → Prop
  | idle : Step s s
  /-- A thread finds nothing recorded, and no other thread is inside. -/
  | enter (i : ι) {k : κ} (hout : s.inside i = none) (hk : k ∉ s.recorded)
      (halone : ∀ j b, s.inside j ≠ some (k, b)) : Step s (s.move i (some (k, false)))
  | act (i : ι) {k : κ} (hin : s.inside i = some (k, false)) :
      Step s { s.move i (some (k, true)) with acted := Function.update s.acted k (s.acted k + 1) }
  | record (i : ι) {k : κ} (hin : s.inside i = some (k, true)) :
      Step s { s.move i none with recorded := insert k s.recorded }

structure Safe (s : State ι κ) : Prop where
  alone : ∀ i j k b c, s.inside i = some (k, b) → s.inside j = some (k, c) → i = j
  unrecorded : ∀ i k b, s.inside i = some (k, b) → k ∉ s.recorded
  acted_inside : ∀ i k b, s.inside i = some (k, b) → s.acted k = if b then 1 else 0
  acted_once : ∀ k, s.acted k ≠ 0 →
    s.acted k = 1 ∧ (k ∈ s.recorded ∨ ∃ i, s.inside i = some (k, true))

section

omit [DecidableEq ι] [DecidableEq κ]

theorem Safe.acted_le (h : Safe s) (k : κ) : s.acted k ≤ 1 := by
  by_cases hk : s.acted k = 0
  · omega
  · exact (h.acted_once k hk).1.le

/-- A key that nobody is inside of and that is not recorded was not acted on. -/
theorem Safe.acted_eq_zero {k : κ} (h : Safe s) (hk : k ∉ s.recorded)
    (halone : ∀ j b, s.inside j ≠ some (k, b)) : s.acted k = 0 := by
  by_contra hacted
  rcases (h.acted_once k hacted).2 with hrec | ⟨j, hj⟩
  · exact hk hrec
  · exact halone j true hj

theorem safe_start (hinside : ∀ i, s.inside i = none) (hacted : ∀ k, s.acted k = 0) : Safe s where
  alone i j k b c hi := by simp [hinside] at hi
  unrecorded i k b hi := by simp [hinside] at hi
  acted_inside i k b hi := by simp [hinside] at hi
  acted_once k hk := absurd (hacted k) hk

end

section Move

variable {i j : ι} {place : Option (κ × Bool)} {k : κ} {b : Bool}

omit [DecidableEq κ]

@[simp] theorem inside_move_self : (s.move i place).inside i = place := Function.update_self _ _ _

@[simp] theorem inside_move_other (hj : j ≠ i) : (s.move i place).inside j = s.inside j :=
  Function.update_of_ne hj _ _

@[simp] theorem move_self : s.move i (s.inside i) = s := by
  simp [State.move]

/-- Who is inside a key after a thread moved. -/
theorem inside_move (h : (s.move i place).inside j = some (k, b)) :
    j = i ∧ place = some (k, b) ∨ j ≠ i ∧ s.inside j = some (k, b) := by
  by_cases hj : j = i
  · subst hj
    exact .inl ⟨rfl, by simpa using h⟩
  · exact .inr ⟨hj, by simpa [hj] using h⟩

/-- Threads stay alone when one goes outside, stays in its key, or enters one where no other is. -/
theorem Safe.alone_move (h : Safe s) (hplace : ∀ k b, place = some (k, b) → ∀ j c, j ≠ i →
    s.inside j ≠ some (k, c)) :
    ∀ j j' k b c, (s.move i place).inside j = some (k, b) →
      (s.move i place).inside j' = some (k, c) → j = j' := by
  intro j j' k b c hj hj'
  rcases inside_move hj with ⟨rfl, hin⟩ | ⟨hne, hin⟩
  · rcases inside_move hj' with ⟨rfl, -⟩ | ⟨hne', hin'⟩
    · rfl
    · exact absurd hin' (hplace k b hin j' c hne')
  · rcases inside_move hj' with ⟨rfl, hin'⟩ | ⟨-, hin'⟩
    · exact absurd hin (hplace k c hin' j b hne)
    · exact h.alone j j' k b c hin hin'

/-- A key that was acted on stays recorded or occupied when a thread moves that has not acted on it. -/
theorem kept_move (hi : s.inside i ≠ some (k, true))
    (h : k ∈ s.recorded ∨ ∃ j, s.inside j = some (k, true)) :
    k ∈ s.recorded ∨ ∃ j, (s.move i place).inside j = some (k, true) := by
  rcases h with hrec | ⟨j, hj⟩
  · exact .inl hrec
  · have hne : j ≠ i := by
      rintro rfl
      exact hi hj
    exact .inr ⟨j, by simpa [hne] using hj⟩

theorem Safe.enter (h : Safe s) (hout : s.inside i = none) (hk : k ∉ s.recorded)
    (halone : ∀ j b, s.inside j ≠ some (k, b)) : Safe (s.move i (some (k, false))) := by
  refine ⟨h.alone_move ?_, ?_, ?_, ?_⟩
  · rintro _ _ ⟨⟩ j c -
    exact halone j c
  · intro j k' b hj
    rcases inside_move hj with ⟨-, ⟨⟩⟩ | ⟨-, hin⟩
    · exact hk
    · exact h.unrecorded j k' b hin
  · intro j k' b hj
    rcases inside_move hj with ⟨-, ⟨⟩⟩ | ⟨-, hin⟩
    · exact h.acted_eq_zero hk halone
    · exact h.acted_inside j k' b hin
  · intro k' hacted
    obtain ⟨hone, hkept⟩ := h.acted_once k' hacted
    exact ⟨hone, kept_move (by simp [hout]) hkept⟩

theorem Safe.record (h : Safe s) (hin : s.inside i = some (k, true)) :
    Safe { s.move i none with recorded := insert k s.recorded } := by
  refine ⟨h.alone_move (by simp), ?_, ?_, ?_⟩
  · intro j k' b hj
    rcases inside_move hj with ⟨-, ⟨⟩⟩ | ⟨hne, hin'⟩
    rintro (rfl | hrec)
    · exact hne (h.alone j i k' b true hin' hin)
    · exact h.unrecorded j k' b hin' hrec
  · intro j k' b hj
    rcases inside_move hj with ⟨-, ⟨⟩⟩ | ⟨-, hin'⟩
    exact h.acted_inside j k' b hin'
  · intro k' hacted
    obtain ⟨hone, hkept⟩ := h.acted_once k' hacted
    refine ⟨hone, ?_⟩
    by_cases hk : k' = k
    · exact .inl (.inl hk)
    · have hi : s.inside i ≠ some (k', true) := by simp [hin, Ne.symm hk]
      exact (kept_move hi hkept).imp_left .inr

end Move

theorem Safe.act {i : ι} {k : κ} (h : Safe s) (hin : s.inside i = some (k, false)) :
    Safe { s.move i (some (k, true)) with
      acted := Function.update s.acted k (s.acted k + 1) } := by
  have hzero : s.acted k = 0 := h.acted_inside i k false hin
  have hother : ∀ j k' b, j ≠ i → s.inside j = some (k', b) → k' ≠ k := by
    rintro j k' b hne hj rfl
    exact hne (h.alone j i k' b false hj hin)
  refine ⟨h.alone_move ?_, ?_, ?_, ?_⟩
  · rintro _ _ ⟨⟩ j c hne hj
    exact hother j k c hne hj rfl
  · intro j k' b hj
    rcases inside_move hj with ⟨-, ⟨⟩⟩ | ⟨-, hin'⟩
    · exact h.unrecorded i k false hin
    · exact h.unrecorded j k' b hin'
  · intro j k' b hj
    rcases inside_move hj with ⟨-, ⟨⟩⟩ | ⟨hne, hin'⟩
    · simp [hzero]
    · have hk' := hother j k' b hne hin'
      simpa [hk'] using h.acted_inside j k' b hin'
  · intro k' hacted
    by_cases hk' : k' = k
    · subst hk'
      exact ⟨by simp [hzero], .inr ⟨i, by simp⟩⟩
    · have hacted' : s.acted k' ≠ 0 := by simpa [hk'] using hacted
      obtain ⟨hone, hkept⟩ := h.acted_once k' hacted'
      exact ⟨by simpa [hk'] using hone, kept_move (by simp [hin]) hkept⟩

/-- **Nothing is done twice.** -/
theorem Safe.step (h : Safe s) (hs : Step s s') : Safe s' := by
  cases hs with
  | idle => exact h
  | enter i hout hk halone => exact h.enter hout hk halone
  | act i hin => exact h.act hin
  | record i hin => exact h.record hin

end Exclusion
