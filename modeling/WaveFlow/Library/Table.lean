import Mathlib.Data.List.Basic
import Mathlib.Data.List.Pairwise

/-!
# Tables with unique indexes

A table is a list of rows, oldest first, no two of which agree on one of its unique indexes. It can
only be built by `insert`, which names the first index that a new row violates, and `modify`, which
changes no indexed column.
-/

namespace Relational

/-- A unique index: its name, and when two rows have the same key. A null key is the same as
none. -/
structure Index (Row : Type*) where
  name : String
  same : Row → Row → Bool
  symm : ∀ a b, same a b = same b a

/-- The index on a column. -/
def Index.on {Row κ : Type*} [DecidableEq κ] (name : String) (key : Row → κ) : Index Row where
  name := name
  same a b := key a = key b
  symm a b := by simp [eq_comm]

/-- The index on a column that can be null. -/
def Index.onSome {Row κ : Type*} [DecidableEq κ] (name : String) (key : Row → Option κ) :
    Index Row where
  name := name
  same a b := (key a).isSome && key a = key b
  symm a b := by
    by_cases h : key a = key b
    · simp [h]
    · have h' : ¬ key b = key a := fun e => h e.symm
      simp [h, h']

variable {Row : Type*}

/-- Rows that violate none of the indexes. -/
structure Table (indexes : List (Index Row)) where
  rows : List Row
  distinct : ∀ ix ∈ indexes, rows.Pairwise fun a b => ix.same a b = false

namespace Table

variable {indexes : List (Index Row)} (t : Table indexes)

def empty : Table indexes := ⟨[], fun _ _ => List.Pairwise.nil⟩

instance : EmptyCollection (Table indexes) := ⟨empty⟩

instance : Membership Row (Table indexes) := ⟨fun t r => r ∈ t.rows⟩

@[simp] theorem mem_rows {r : Row} : r ∈ t.rows ↔ r ∈ t := Iff.rfl

@[simp] theorem not_mem_empty (r : Row) : r ∉ (∅ : Table indexes) := List.not_mem_nil

/-- Some row has the key of `r` in index `ix`. -/
def Has (ix : Index Row) (r : Row) : Prop := ∃ a ∈ t, ix.same a r

instance (ix : Index Row) (r : Row) : Decidable (t.Has ix r) :=
  decidable_of_iff (∃ a ∈ t.rows, ix.same a r) Iff.rfl

/-- The first index that `r` violates. -/
def violated (r : Row) : Option (Index Row) := indexes.find? fun ix => t.Has ix r

theorem not_has_of_violated_eq_none {r : Row} (h : t.violated r = none) :
    ∀ ix ∈ indexes, ¬ t.Has ix r := by
  intro ix hix hhas
  exact List.find?_eq_none.1 h ix hix (by simpa using hhas)

/-- Add a row, or name the index that forbids it. -/
def insert (r : Row) : Except String (Table indexes) :=
  match h : t.violated r with
  | some ix => .error ix.name
  | none => .ok
    { rows := t.rows ++ [r]
      distinct := fun ix hix => by
        refine List.pairwise_append.2 ⟨t.distinct ix hix, List.pairwise_singleton _ _, ?_⟩
        intro a ha b hb
        obtain rfl := List.mem_singleton.1 hb
        have hno := t.not_has_of_violated_eq_none h ix hix
        exact Bool.eq_false_iff.2 fun hsame => hno ⟨a, ha, hsame⟩ }

/-- Rows that are the same in a unique index are one row. -/
theorem eq_of_same (ix : Index Row) (hix : ix ∈ indexes) {a b : Row} (ha : a ∈ t) (hb : b ∈ t)
    (hsame : ix.same a b) : a = b := by
  by_contra hne
  have : Std.Symm fun a b => ix.same a b = false := ⟨fun a b h => (ix.symm b a).trans h⟩
  have hdiff := (t.distinct ix hix).forall ha hb hne
  rw [hdiff] at hsame
  cases hsame

/-- The keys of a unique index are distinct. -/
theorem nodup_on {κ : Type*} [DecidableEq κ] {name : String} {key : Row → κ}
    (hix : Index.on name key ∈ indexes) : (t.rows.map key).Nodup := by
  rw [List.Nodup, List.pairwise_map]
  refine (t.distinct _ hix).imp fun {a b} hdiff hsame => ?_
  rw [Index.on, decide_eq_false_iff_not] at hdiff
  exact hdiff hsame

theorem insert_eq_ok {r : Row} {t' : Table indexes} :
    t.insert r = .ok t' ↔ (∀ ix ∈ indexes, ¬ t.Has ix r) ∧ t'.rows = t.rows ++ [r] := by
  unfold insert
  split
  · rename_i ix hix
    constructor
    · intro h; cases h
    · rintro ⟨hno, -⟩
      have hmem := List.mem_of_find?_eq_some hix
      exact absurd (by simpa using List.find?_some hix) (hno ix hmem)
  · rename_i hnone
    constructor
    · intro h
      cases h
      exact ⟨t.not_has_of_violated_eq_none hnone, rfl⟩
    · rintro ⟨-, hrows⟩
      cases t'
      cases hrows
      rfl

theorem insert_eq_error {r : Row} {name : String} (h : t.insert r = .error name) :
    ∃ ix ∈ indexes, ix.name = name ∧ t.Has ix r := by
  unfold insert at h
  split at h
  · rename_i ix hix
    cases h
    exact ⟨ix, List.mem_of_find?_eq_some hix, rfl, by simpa using List.find?_some hix⟩
  · cases h

theorem mem_of_insert {t t' : Table indexes} {r a : Row} (h : t.insert r = .ok t') (ha : a ∈ t) :
    a ∈ t' := by
  rw [← mem_rows, (t.insert_eq_ok.1 h).2]
  exact List.mem_append_left _ ha

theorem mem_insert {t t' : Table indexes} {r a : Row} (h : t.insert r = .ok t') (ha : a ∈ t') :
    a ∈ t ∨ a = r := by
  rw [← mem_rows, (t.insert_eq_ok.1 h).2] at ha
  simpa using ha

/-- Change rows without changing what the indexes see. -/
def modify (f : Row → Row) (hf : ∀ ix ∈ indexes, ∀ a b, ix.same (f a) (f b) = ix.same a b) :
    Table indexes where
  rows := t.rows.map f
  distinct ix hix := by
    rw [List.pairwise_map]
    refine (t.distinct ix hix).imp fun {a b} h => ?_
    rw [hf ix hix]
    exact h

theorem mem_modify {f : Row → Row}
    {hf : ∀ ix ∈ indexes, ∀ a b, ix.same (f a) (f b) = ix.same a b} {r : Row} :
    r ∈ t.modify f hf ↔ ∃ a ∈ t, f a = r := List.mem_map

/-- The first row that meets `p`. -/
def find? (p : Row → Bool) : Option Row := t.rows.find? p

theorem find?_eq_none {p : Row → Bool} : t.find? p = none ↔ ∀ r ∈ t, ¬ p r := List.find?_eq_none

theorem mem_of_find? {p : Row → Bool} {r : Row} (h : t.find? p = some r) : r ∈ t ∧ p r :=
  ⟨List.mem_of_find?_eq_some h, List.find?_some h⟩

theorem find?_ne_none {p : Row → Bool} : t.find? p ≠ none ↔ ∃ r ∈ t, p r := by
  rw [Ne, find?_eq_none]
  simp

/-- When all rows that meet `p` are the same in an index, the row found is the one that does. -/
theorem find?_eq_some_of_mem {p : Row → Bool} (ix : Index Row) (hix : ix ∈ indexes)
    (hp : ∀ a b, p a → p b → ix.same a b) {r : Row} (hr : r ∈ t) (hpr : p r) :
    t.find? p = some r := by
  cases hfind : t.find? p with
  | none => exact absurd hpr ((t.find?_eq_none).1 hfind r hr)
  | some a =>
    obtain ⟨ha, hpa⟩ := t.mem_of_find? hfind
    rw [t.eq_of_same ix hix ha hr (hp a r hpa hpr)]

end Table

end Relational
