import Mathlib.Data.String.Basic

/-!
# ASCII characters in UTF-8

An ASCII character is encoded in one byte, and its byte is part of the encoding of no other
character. So what a program finds out about the bytes of a text by looking for ASCII bytes is true
of the characters.
-/

namespace Utf8

variable {a c : Char} {l : List Char}

/-- The bytes of a text. -/
theorem toList_toUTF8 (s : String) :
    s.toUTF8.data.toList = s.toList.flatMap String.utf8EncodeChar := by
  rw [String.toUTF8_eq_toByteArray, ← String.utf8Encode_toList, List.utf8Encode,
    List.data_toByteArray]

/-- The byte of an ASCII character. -/
def asciiByte (a : Char) : UInt8 := UInt8.ofNat a.toNat

theorem utf8EncodeChar_ascii (ha : a.toNat < 128) : String.utf8EncodeChar a = [asciiByte a] := by
  have hle : a.val.toNat ≤ 0x7f := Nat.le_of_lt_succ ha
  simp only [String.utf8EncodeChar, if_pos hle]
  rfl

/-- The bytes of other characters are others. -/
theorem ne_asciiByte (ha : a.toNat < 128) (hc : c ≠ a) {b : UInt8}
    (hb : b ∈ String.utf8EncodeChar c) : b ≠ asciiByte a := by
  have hval : c.val.toNat ≠ a.toNat := fun h => hc (Char.ext (UInt32.toNat_inj.1 h))
  have hbyte : ∀ n, n < 256 → n ≠ a.toNat → UInt8.ofNat n ≠ asciiByte a := by
    intro n hn hne heq
    have := congrArg UInt8.toNat heq
    simp only [asciiByte, UInt8.toNat_ofNat'] at this
    omega
  -- A byte of a longer encoding is at least 128.
  simp only [String.utf8EncodeChar] at hb
  split_ifs at hb <;> simp only [List.mem_cons, List.not_mem_nil, or_false] at hb
  · subst hb
    exact hbyte _ (by omega) hval
  · rcases hb with rfl | rfl <;> exact hbyte _ (by omega) (by omega)
  · rcases hb with rfl | rfl | rfl <;> exact hbyte _ (by omega) (by omega)
  · rcases hb with rfl | rfl | rfl | rfl <;> exact hbyte _ (by omega) (by omega)

theorem count_asciiByte (ha : a.toNat < 128) (l : List Char) :
    (l.flatMap String.utf8EncodeChar).count (asciiByte a) = l.count a := by
  induction l with
  | nil => rfl
  | cons c l ih =>
    rw [List.flatMap_cons, List.count_append, ih]
    by_cases hc : c = a
    · subst hc
      rw [utf8EncodeChar_ascii ha, List.count_singleton_self, List.count_cons_self, Nat.add_comm]
    · have hzero : (String.utf8EncodeChar c).count (asciiByte a) = 0 :=
        List.count_eq_zero.2 fun hmem => ne_asciiByte ha hc hmem rfl
      rw [hzero, List.count_cons_of_ne hc, Nat.zero_add]

theorem head?_eq_asciiByte (ha : a.toNat < 128) :
    (l.flatMap String.utf8EncodeChar).head? = some (asciiByte a) ↔ l.head? = some a := by
  cases l with
  | nil => simp
  | cons c l =>
    rw [List.flatMap_cons, List.head?_append_of_ne_nil _ String.utf8EncodeChar_ne_nil,
      List.head?_cons, Option.some.injEq]
    constructor
    · intro h
      by_contra hc
      exact ne_asciiByte ha hc (List.mem_of_head? h) rfl
    · rintro rfl
      rw [utf8EncodeChar_ascii ha, List.head?_cons]

theorem getLast?_eq_asciiByte (ha : a.toNat < 128) :
    (l.flatMap String.utf8EncodeChar).getLast? = some (asciiByte a) ↔ l.getLast? = some a := by
  rcases List.eq_nil_or_concat l with rfl | ⟨l, c, rfl⟩
  · simp
  · rw [List.concat_eq_append, List.flatMap_append, List.flatMap_singleton,
      List.getLast?_append_of_ne_nil _ String.utf8EncodeChar_ne_nil, List.getLast?_concat,
      Option.some.injEq]
    constructor
    · intro h
      by_contra hc
      exact ne_asciiByte ha hc (List.mem_of_getLast? h) rfl
    · rintro rfl
      rw [utf8EncodeChar_ascii ha, List.getLast?_singleton]

/-! ### Offsets in bytes -/

/-- What is left of a text after its first `n` bytes; there is none when a character goes over the
end of them. -/
def dropBytes : ℕ → List Char → Option (List Char)
  | 0, l => some l
  | _ + 1, [] => none
  | n + 1, c :: l => if c.utf8Size ≤ n + 1 then dropBytes (n + 1 - c.utf8Size) l else none

/-- The number of bytes of a text. -/
def byteLength : List Char → ℕ
  | [] => 0
  | c :: l => c.utf8Size + byteLength l

@[simp] theorem byteLength_nil : byteLength [] = 0 := rfl

@[simp] theorem byteLength_cons (c : Char) (l : List Char) :
    byteLength (c :: l) = c.utf8Size + byteLength l := rfl

theorem dropBytes_append (l rest : List Char) :
    dropBytes (byteLength l) (l ++ rest) = some rest := by
  induction l with
  | nil => rw [byteLength_nil, List.nil_append, dropBytes]
  | cons c l ih =>
    have hpos := c.utf8Size_pos
    rw [byteLength_cons, List.cons_append]
    obtain ⟨n, hn⟩ : ∃ n, c.utf8Size + byteLength l = n + 1 :=
      ⟨c.utf8Size + byteLength l - 1, by omega⟩
    rw [hn, dropBytes, if_pos (by omega), show n + 1 - c.utf8Size = byteLength l by omega]
    exact ih

/-- **Where a text can be cut**: at the end of a character. -/
theorem dropBytes_eq_some {n : ℕ} {l rest : List Char} :
    dropBytes n l = some rest ↔ ∃ front, l = front ++ rest ∧ byteLength front = n := by
  constructor
  · intro h
    fun_induction dropBytes n l with
    | case1 l =>
      cases h
      exact ⟨[], rfl, rfl⟩
    | case2 n => cases h
    | case3 n c l hle ih =>
      obtain ⟨front, rfl, hfront⟩ := ih h
      exact ⟨c :: front, rfl, by rw [byteLength_cons]; omega⟩
    | case4 n c l hle => cases h
  · rintro ⟨front, rfl, rfl⟩
    exact dropBytes_append front rest

end Utf8
