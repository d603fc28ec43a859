import Mathlib.Data.List.DropRight

/-!
# Pieces of a list

A list is cut at its separators, and the margins of the pieces are trimmed. The pieces are the
segments without a separator that go from one separator, or the start, to the next, or the end; a
trimmed piece is what is left between two margins when neither end of it belongs to a margin.
-/

namespace Pieces

variable {α : Type*}

/-! ### Segments between separators -/

/-- A segment of `l` from one separator, or the start, to the next, or the end. -/
structure IsPiece (sep : α) (l piece : List α) : Prop where
  not_mem : sep ∉ piece
  segment : ∃ front back, l = front ++ piece ++ back ∧ (front = [] ∨ ∃ m, front = m ++ [sep]) ∧
    (back = [] ∨ ∃ m, back = sep :: m)

variable {sep : α} {l m piece : List α}

theorem IsPiece.whole (h : sep ∉ l) : IsPiece sep l l :=
  ⟨h, [], [], by simp, .inl rfl, .inl rfl⟩

theorem IsPiece.first (h : sep ∉ piece) (l : List α) : IsPiece sep (piece ++ sep :: l) piece :=
  ⟨h, [], sep :: l, by simp, .inl rfl, .inr ⟨l, rfl⟩⟩

theorem IsPiece.append (h : IsPiece sep l piece) (m : List α) :
    IsPiece sep (m ++ sep :: l) piece := by
  obtain ⟨hmem, front, back, rfl, hfront, hback⟩ := h
  refine ⟨hmem, m ++ sep :: front, back, by simp, .inr ?_, hback⟩
  rcases hfront with rfl | ⟨start, rfl⟩
  · exact ⟨m, rfl⟩
  · exact ⟨m ++ sep :: start, by simp⟩

variable [BEq α] [LawfulBEq α]

/-- **The pieces are what a list is split into.** -/
theorem mem_splitOn : piece ∈ l.splitOn sep ↔ IsPiece sep l piece := by
  constructor
  · intro h
    induction hn : l.length using Nat.strongRecOn generalizing l with
    | ind n ih =>
      by_cases hmem : sep ∈ l
      · obtain ⟨start, rest, rfl, hstart⟩ := List.eq_append_cons_of_mem hmem
        rw [List.splitOn_append_cons_self_of_not_mem hstart, List.mem_cons] at h
        rcases h with rfl | h
        · exact .first hstart rest
        · have hlt : rest.length < n := by
            rw [← hn, List.length_append, List.length_cons]
            omega
          exact (ih _ hlt h rfl).append start
      · rw [List.splitOn_eq_singleton hmem, List.mem_singleton] at h
        subst h
        exact .whole hmem
  · rintro ⟨hmem, front, back, rfl, hfront, hback⟩
    have hpiece : piece ∈ (piece ++ back).splitOn sep := by
      rcases hback with rfl | ⟨m, rfl⟩
      · rw [List.append_nil, List.splitOn_eq_singleton hmem]
        exact List.mem_singleton_self piece
      · rw [List.splitOn_append_cons_self_of_not_mem hmem]
        exact List.mem_cons_self
    rw [List.append_assoc]
    rcases hfront with rfl | ⟨m, rfl⟩
    · exact hpiece
    · rw [List.append_assoc, List.singleton_append, List.splitOn_append_cons_self]
      exact List.mem_append_right _ hpiece

/-! ### Margins -/

variable {p : α → Bool}

/-- Neither the first element nor the last belongs to a margin. -/
def IsTrimmed (p : α → Bool) (l : List α) : Prop :=
  (∀ a ∈ l.head?, p a = false) ∧ ∀ a ∈ l.getLast?, p a = false

/-- What is left of `l` between its margins. -/
structure Trims (p : α → Bool) (l m : List α) : Prop where
  trimmed : IsTrimmed p m
  margins : ∃ front back, l = front ++ m ++ back ∧ (∀ a ∈ front, p a) ∧ ∀ a ∈ back, p a

/-- A list without its margins. -/
def trim (p : α → Bool) (l : List α) : List α := (l.dropWhile p).rdropWhile p

omit [BEq α] [LawfulBEq α]

theorem isTrimmed_trim (p : α → Bool) (l : List α) : IsTrimmed p (trim p l) := by
  constructor
  · intro a ha
    -- What is left starts like the list without its front margin.
    have hhead : (l.dropWhile p).head? = some a := by
      obtain ⟨back, hback⟩ := List.rdropWhile_prefix p (l.dropWhile p)
      rw [← hback, List.head?_append]
      exact Option.or_eq_some_iff.2 (.inl ha)
    rw [← List.head_of_head?_eq_some hhead]
    exact List.head_dropWhile_not p _
  · intro a ha
    rw [← List.getLast_of_mem_getLast? ha]
    exact Bool.eq_false_iff.2 (List.rdropWhile_last_not p _ _)

theorem rdropWhile_append_of_pos {back : List α} (h : ∀ a ∈ back, p a) :
    (l ++ back).rdropWhile p = l.rdropWhile p := by
  rw [List.rdropWhile, List.rdropWhile, List.reverse_append, List.dropWhile_append_of_pos]
  intro a ha
  exact h a (List.mem_reverse.1 ha)

/-- **What trimming leaves**, and that nothing else is left. -/
theorem trim_eq_iff : trim p l = m ↔ Trims p l m := by
  constructor
  · rintro rfl
    refine ⟨isTrimmed_trim p l, l.takeWhile p, (l.dropWhile p).rtakeWhile p, ?_, ?_, ?_⟩
    · rw [List.append_assoc, trim, List.rdropWhile_append_rtakeWhile,
        List.takeWhile_append_dropWhile]
    · exact fun a ha => List.mem_takeWhile_imp ha
    · exact fun a ha => List.mem_rtakeWhile_imp ha
  · rintro ⟨⟨hfirst, hlast⟩, front, back, rfl, hfront, hback⟩
    rw [trim, List.append_assoc, List.dropWhile_append_of_pos hfront]
    cases m with
    | nil =>
      rw [List.nil_append, List.dropWhile_eq_nil_iff.2 hback, List.rdropWhile_nil]
    | cons a m =>
      have ha : ¬ p a = true := by simpa using hfirst a rfl
      rw [List.cons_append, List.dropWhile_cons_of_neg ha, ← List.cons_append,
        rdropWhile_append_of_pos hback, List.rdropWhile_eq_self_iff]
      intro hne
      simpa using hlast _ (List.getLast?_eq_some_getLast hne)

end Pieces
