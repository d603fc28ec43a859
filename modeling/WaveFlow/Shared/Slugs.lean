import WaveFlow.Escrow.Storage
import WaveFlow.Library.Utf8
import WaveFlow.Shared.Types

/-!
# Do the two repo validators agree?

`validateGithubRepo` splits a text at the slashes and looks at the parts; the contract's
`validateRepo` counts the slashes among the bytes and looks at both ends. As functions on texts both
accept slugs, the first one without blanks only. But the contract's texts are symbols, and no symbol
has a slash.
-/

namespace WaveFlow

variable {s : String} {owner name : List Char}

/-- A text `owner/name`, with one slash and neither part empty. -/
def IsSlug (s : String) : Prop :=
  ∃ owner name, s.toList = owner ++ '/' :: name ∧ owner ≠ [] ∧ name ≠ [] ∧ '/' ∉ owner ∧ '/' ∉ name

/-- A text that can be passed to the contract as a `Symbol`. -/
def IsSymbol (s : String) : Prop :=
  s.length ≤ 32 ∧ ∀ c ∈ s.toList, c.isAlphanum ∨ c = '_'

/-! ### The contract's validator -/

theorem asciiByte_slash : Utf8.asciiByte '/' = Escrow.slash := rfl

/-- One slash cuts a text in two. -/
theorem count_slash_eq_one {l : List Char} :
    l.count '/' = 1 ↔ ∃ owner name, l = owner ++ '/' :: name ∧ '/' ∉ owner ∧ '/' ∉ name := by
  constructor
  · intro hcount
    have hmem : '/' ∈ l := List.count_pos_iff.1 (by omega)
    obtain ⟨owner, name, rfl, howner⟩ := List.eq_append_cons_of_mem hmem
    rw [List.count_append, List.count_cons_self] at hcount
    exact ⟨owner, name, rfl, howner, List.count_eq_zero.1 (by omega)⟩
  · rintro ⟨owner, name, rfl, howner, hname⟩
    rw [List.count_append, List.count_cons_self, List.count_eq_zero.2 howner,
      List.count_eq_zero.2 hname]

/-- What the checks of the contract say of the characters. -/
theorem validateRepo_eq_ok_iff : Escrow.validateRepo s = .ok () ↔
    s.toList.count '/' = 1 ∧ s.toList.head? ≠ some '/' ∧ s.toList.getLast? ≠ some '/' := by
  have hslash : ('/' : Char).toNat < 128 := by decide
  have hcount : ((s.toUTF8.data.toList).filter (· == Escrow.slash)).length =
      s.toList.count '/' := by
    rw [← List.countP_eq_length_filter, Utf8.toList_toUTF8]
    exact Utf8.count_asciiByte hslash s.toList
  have hhead := Utf8.head?_eq_asciiByte hslash (l := s.toList)
  have hlast := Utf8.getLast?_eq_asciiByte hslash (l := s.toList)
  rw [← Utf8.toList_toUTF8, asciiByte_slash] at hhead hlast
  have hempty : s.toUTF8.data.toList.isEmpty → s.toList.count '/' = 0 := by
    intro hnil
    rw [← hcount, List.isEmpty_iff.1 hnil]
    rfl
  unfold Escrow.validateRepo
  simp only [hcount, hhead, hlast]
  split_ifs with hbad
  · simp only [false_iff]
    rintro ⟨hone, hfirst, hend⟩
    rcases hbad with hno | hnil | hno | hno
    · exact hno hone
    · rw [hempty hnil] at hone
      cases hone
    · exact hfirst hno
    · exact hend hno
  · simp only [true_iff]
    push Not at hbad
    exact ⟨hbad.1, hbad.2.2⟩

/-- **The contract accepts slugs.** -/
theorem validateRepo_iff : Escrow.validateRepo s = .ok () ↔ IsSlug s := by
  rw [validateRepo_eq_ok_iff, count_slash_eq_one]
  constructor
  · rintro ⟨⟨owner, name, hs, howner, hname⟩, hhead, hlast⟩
    refine ⟨owner, name, hs, ?_, ?_, howner, hname⟩
    · rintro rfl
      rw [hs] at hhead
      exact hhead rfl
    · rintro rfl
      rw [hs] at hlast
      exact hlast List.getLast?_concat
  · rintro ⟨owner, name, hs, howner, hname, hno, hno'⟩
    refine ⟨⟨owner, name, hs, hno, hno'⟩, fun hhead => ?_, fun hlast => ?_⟩
    · rw [hs, List.head?_append_of_ne_nil _ howner] at hhead
      exact hno (List.mem_of_head? hhead)
    · rw [hs, List.getLast?_append_of_ne_nil _ (List.cons_ne_nil _ _),
        List.getLast?_cons_of_ne_nil hname] at hlast
      exact hno' (List.mem_of_getLast? hlast)

/-! ### The validator of the API -/

/-- Splitting at the slashes makes one part more than there are slashes. -/
theorem length_splitOnP_slash (l : List Char) :
    (l.splitOnP (· = '/')).length = l.count '/' + 1 := by
  induction l with
  | nil => rfl
  | cons c l ih =>
    rw [List.splitOnP_cons_eq_if_modifyHead]
    by_cases hc : c = '/'
    · subst hc
      simp [ih]
    · simp [hc, ih, List.count_cons_of_ne hc]

theorem splitOnP_slash (howner : '/' ∉ owner) (hname : '/' ∉ name) :
    (owner ++ '/' :: name).splitOnP (· = '/') = [owner, name] := by
  have hno : ∀ {l : List Char}, '/' ∉ l → l.splitOnP (· = '/') = [l] := by
    intro l hl
    refine List.splitOnP_eq_singleton fun c hc => decide_eq_false ?_
    rintro rfl
    exact hl hc
  rw [List.splitOnP_append_cons owner name (by simp), hno howner, hno hname, List.singleton_append]

/-- A part is accepted when it is not empty and has no blank. -/
theorem part_accepted {l : List Char} :
    (!(String.ofList l).isEmpty && !(String.ofList l).toList.contains ' ') = true ↔
      l ≠ [] ∧ ' ' ∉ l := by
  rw [Bool.and_eq_true, Bool.not_eq_true', Bool.not_eq_true', String.toList_ofList,
    List.contains_eq_mem, decide_eq_false_iff_not]
  apply and_congr_left
  intro _
  rw [← Bool.not_eq_true, String.isEmpty_iff, ← String.ofList_nil, String.ofList_inj]

/-- **The API accepts slugs without blanks.** -/
theorem validateGithubRepo_iff : validateGithubRepo s ↔ IsSlug s ∧ ' ' ∉ s.toList := by
  unfold validateGithubRepo
  rw [String.splitToList_of_valid]
  simp only [List.length_map, length_splitOnP_slash, Bool.and_eq_true, decide_eq_true_eq]
  constructor
  · rintro ⟨hlength, hall⟩
    obtain ⟨owner, name, hs, ho, hn⟩ := count_slash_eq_one.1 (Nat.succ.inj hlength)
    rw [hs, splitOnP_slash ho hn] at hall
    rw [List.map_cons, List.map_singleton, List.all_cons, List.all_cons, List.all_nil,
      Bool.and_true, Bool.and_eq_true, part_accepted, part_accepted] at hall
    obtain ⟨⟨howner, hblank⟩, hname, hblank'⟩ := hall
    refine ⟨⟨owner, name, hs, howner, hname, ho, hn⟩, ?_⟩
    simp [hs, hblank, hblank']
  · rintro ⟨⟨owner, name, hs, howner, hname, ho, hn⟩, hblank⟩
    rw [hs] at hblank ⊢
    simp only [List.mem_append, List.mem_cons, not_or] at hblank
    refine ⟨congrArg Nat.succ (count_slash_eq_one.2 ⟨owner, name, rfl, ho, hn⟩), ?_⟩
    rw [splitOnP_slash ho hn, List.map_cons, List.map_singleton, List.all_cons, List.all_cons,
      List.all_nil, Bool.and_true, Bool.and_eq_true, part_accepted, part_accepted]
    exact ⟨⟨howner, hblank.1⟩, hname, hblank.2.2⟩

/-! ### Slugs and symbols -/

theorem not_isSlug_of_isSymbol (hs : IsSymbol s) : ¬ IsSlug s := by
  rintro ⟨owner, name, hslug, -⟩
  have hslash := hs.2 '/' (by simp [hslug])
  revert hslash
  decide

/-- **When the two validators agree**: on the texts that the API refuses, which are those that are
no slug or have a blank. The contract accepts no symbol. -/
theorem validators_agree_iff (s : String) :
    (validateGithubRepo s ↔ IsSymbol s ∧ Escrow.validateRepo s = .ok ()) ↔
      ¬ (IsSlug s ∧ ' ' ∉ s.toList) := by
  rw [validateRepo_iff, validateGithubRepo_iff]
  have hnone : ¬ (IsSymbol s ∧ IsSlug s) := fun h => not_isSlug_of_isSymbol h.1 h.2
  rw [iff_false_right hnone]

/-- The slug of the repository itself, and of the contract's tests. -/
theorem slug_not_passable :
    validateGithubRepo "StellarRoute/WaveFlow" ∧ ¬ (IsSymbol "StellarRoute/WaveFlow" ∧
      Escrow.validateRepo "StellarRoute/WaveFlow" = .ok ()) := by
  refine ⟨by decide +kernel, fun h => ?_⟩
  exact not_isSlug_of_isSymbol h.1 (validateRepo_iff.1 h.2)

end WaveFlow
