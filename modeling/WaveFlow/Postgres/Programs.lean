import WaveFlow.Postgres.Rules

/-!
# What the statements do to a program

`Stmt.Changes id s r r'` lists how a statement can change the row of a program, and `Stmt.changes`
shows that a statement that succeeds changes it so. What happens to a single column follows by cases:
`Stmt.Changes.spent` for the milestone, `Stmt.Changes.reward_eq` for the price. `Stmt.status_eq` says
what a statement does to the status.
-/

namespace WaveFlow.Postgres

open Relational

variable {source : UuidSource} {db db' : Db} {id : Uuid} {s : Stmt}

/-- What a statement adds to the milestone of a program. -/
def Stmt.raise : Stmt → Uuid → ℤ
  | .updateMilestoneSpent amount p, id => if p = id then amount.toInt else 0
  | _, _ => 0

@[simp] theorem Stmt.raise_self (amount : Int64) (id : Uuid) :
    (Stmt.updateMilestoneSpent amount id).raise id = amount.toInt := if_pos rfl

theorem Stmt.raise_other (amount : Int64) {id id' : Uuid} (h : id ≠ id') :
    (Stmt.updateMilestoneSpent amount id').raise id = 0 := if_neg (Ne.symm h)

/-- How a statement changes the row of program `id`. -/
inductive Stmt.Changes (id : Uuid) : Stmt → Option ProgramRow → Option ProgramRow → Prop
  | absent (s : Stmt) : Changes id s none none
  | same {s : Stmt} (hs : s.raise id = 0) (p : ProgramRow) : Changes id s (some p) (some p)
  | created (s : Stmt) {p : ProgramRow} (hspent : p.milestoneSpent = 0) :
      Changes id s none (some p)
  | status (src dst : ProgramStatus) (p : ProgramRow) :
      Changes id (.updateStatus id src dst) (some p) (some (p.withStatus dst))
  | reward {reward : Int64} (hreward : 0 < reward) (p : ProgramRow) :
      Changes id (.updateReward reward id) (some p) (some (p.withReward reward hreward))
  | raised {amount spent : Int64} (escrow : Int64) {p : ProgramRow}
      (hspent : spent.toInt = p.milestoneSpent.toInt + amount.toInt) :
      Changes id (.updateMilestoneSpent amount id) (some p) (some (p.withBalances spent escrow))

theorem Stmt.Changes.of_same (hs : s.raise id = 0) (r : Option ProgramRow) : s.Changes id r r := by
  cases r with
  | none => exact .absent s
  | some p => exact .same hs p

/-! ### Rows by their id -/

theorem Db.program?_of_programs (h : db'.programs = db.programs) (id : Uuid) :
    db'.program? id = db.program? id := by
  rw [Db.program?, h]
  rfl

theorem Db.program?_modifyProgram (db : Db) (id id' : Uuid) {f : ProgramRow → ProgramRow}
    (hf : ∀ p, (f p).SameKeys p) :
    (db.modifyProgram id f hf).program? id' = (db.program? id').map (ProgramRow.ifId id f) := by
  have hid : ∀ p : ProgramRow, (ProgramRow.ifId id f p).id = p.id :=
    fun p => (ProgramRow.sameKeys_ifId id hf p).id
  show (db.programs.rows.map (ProgramRow.ifId id f)).find? _ = _
  rw [List.find?_map]
  simp only [Function.comp_def, hid]
  rfl

/-- An update of a program leaves the others alone. -/
theorem Db.program?_modifyProgram_other {id' : Uuid} {f : ProgramRow → ProgramRow}
    (hf : ∀ p, (f p).SameKeys p) (hne : id' ≠ id) :
    (db.modifyProgram id f hf).program? id' = db.program? id' := by
  rw [Db.program?_modifyProgram]
  cases hp : db.program? id' with
  | none => rfl
  | some p =>
    obtain ⟨-, rfl⟩ := db.program?_eq_some.1 hp
    rw [Option.map_some, ProgramRow.ifId, if_neg hne]

theorem Db.program?_modifyProgram_self {p : ProgramRow} {f : ProgramRow → ProgramRow}
    (hf : ∀ p, (f p).SameKeys p) (hp : db.program? id = some p) :
    (db.modifyProgram id f hf).program? id = some (f p) := by
  obtain ⟨-, hid⟩ := db.program?_eq_some.1 hp
  rw [Db.program?_modifyProgram, hp, Option.map_some, ProgramRow.ifId, if_pos hid]

theorem Db.Grows.program? (hgrows : db.Grows db') {id : Uuid} {p : ProgramRow}
    (hp : db.program? id = some p) : ∃ p', db'.program? id = some p' := by
  obtain ⟨hmem, hid⟩ := db.program?_eq_some.1 hp
  obtain ⟨p', hmem', hkeys⟩ := hgrows.programs p hmem
  exact ⟨p', db'.program?_eq_some.2 ⟨hmem', hkeys.id.trans hid⟩⟩

/-! ### Every statement -/

/-- A new row comes last, so a program that is there is still found first. -/
theorem Db.AddsProgram.changes {p : ProgramRow} (h : db.AddsProgram db' p)
    (hspent : p.milestoneSpent = 0) (hs : ∀ id, s.raise id = 0) (id : Uuid) :
    s.Changes id (db.program? id) (db'.program? id) := by
  unfold Db.program? Table.find?
  rw [h.programs, List.find?_append]
  cases hp : db.programs.rows.find? fun p => p.id = id with
  | some q => exact .same (hs id) q
  | none =>
    rw [Option.none_or, List.find?_singleton]
    split_ifs
    · exact .created s hspent
    · exact .absent s

/-- An update changes the row that it finds, and no other. -/
theorem Db.changes_modifyProgram {id' : Uuid} {f : ProgramRow → ProgramRow}
    (hf : ∀ p, (f p).SameKeys p) {p : ProgramRow} (hp : db.program? id' = some p)
    (hself : s.Changes id' (some p) (some (f p))) (hother : ∀ id, id ≠ id' → s.raise id = 0)
    (id : Uuid) : s.Changes id (db.program? id) ((db.modifyProgram id' f hf).program? id) := by
  by_cases hid : id = id'
  · subst hid
    rw [Db.program?_modifyProgram_self hf hp, hp]
    exact hself
  · rw [Db.program?_modifyProgram_other hf hid]
    exact .of_same (hother id hid) _

/-- **How a statement changes a program.** -/
theorem Stmt.changes {r : s.Result} (h : s.exec source db = .ok (r, db')) (id : Uuid) :
    s.Changes id (db.program? id) (db'.program? id) := by
  cases Stmt.writes h with
  | program hadds hspent => exact hadds.changes hspent (fun _ => rfl) id
  | contributor hadds | payout hadds | event hadds =>
    rw [Db.program?_of_programs hadds.programs]
    exact .of_same rfl _
  | status src dst hp => exact Db.changes_modifyProgram _ hp (.status src dst _) (fun _ _ => rfl) id
  | reward hreward hp => exact Db.changes_modifyProgram _ hp (.reward hreward _) (fun _ _ => rfl) id
  | raised escrow hp hspent =>
    exact Db.changes_modifyProgram _ hp (.raised escrow hspent) (fun _ => Stmt.raise_other _) id
  | kept hraise =>
    by_cases hs : s.raise id = 0
    · exact .of_same hs _
    · -- The update of a milestone that found no program.
      cases s with
      | updateMilestoneSpent amount id' =>
        have hid : id = id' := by
          by_contra hne
          exact hs (Stmt.raise_other amount hne)
        rw [hid, hraise amount id' rfl]
        exact .absent _
      | _ => exact absurd rfl hs

/-! ### Columns -/

/-- A program that is there has its milestone raised by the statement. -/
theorem Stmt.Changes.spent {p : ProgramRow} {r : Option ProgramRow} (h : s.Changes id (some p) r) :
    ∃ p', r = some p' ∧ p'.milestoneSpent.toInt = p.milestoneSpent.toInt + s.raise id := by
  generalize hold : some p = old at h
  cases h with
  | absent => cases hold
  | created => cases hold
  | same hs q =>
    cases hold
    exact ⟨_, rfl, by rw [hs, add_zero]⟩
  | status src dst q =>
    cases hold
    exact ⟨_, rfl, (add_zero _).symm⟩
  | reward hreward q =>
    cases hold
    exact ⟨_, rfl, (add_zero _).symm⟩
  | raised escrow hspent =>
    cases hold
    exact ⟨_, rfl, by rw [Stmt.raise_self]; exact hspent⟩

/-- A program appears with an empty milestone. -/
theorem Stmt.Changes.unspent {p : ProgramRow} (h : s.Changes id none (some p)) :
    p.milestoneSpent = 0 := by
  cases h with
  | created _ hspent => exact hspent

/-- A program keeps its price, unless it is set. -/
theorem Stmt.Changes.reward_eq {p : ProgramRow} {r : Option ProgramRow}
    (h : s.Changes id (some p) r) :
    ∃ p', r = some p' ∧
      (p'.rewardPerPoint = p.rewardPerPoint ∨ s = .updateReward p'.rewardPerPoint id) := by
  generalize hold : some p = old at h
  cases h with
  | absent => cases hold
  | created => cases hold
  | reward hreward q => exact ⟨_, rfl, .inr rfl⟩
  | same hs q =>
    cases hold
    exact ⟨_, rfl, .inl rfl⟩
  | status src dst q =>
    cases hold
    exact ⟨_, rfl, .inl rfl⟩
  | raised escrow hspent =>
    cases hold
    exact ⟨_, rfl, .inl rfl⟩

/-- A program keeps its status, unless the statement moves it from that status to another. -/
theorem Stmt.status_eq {r : s.Result} (h : s.exec source db = .ok (r, db')) {p : ProgramRow}
    (hp : db.program? id = some p) :
    ∃ p', db'.program? id = some p' ∧
      (p'.status = p.status ∨ s = .updateStatus id p.status p'.status) := by
  have hchanges := Stmt.changes h id
  rw [hp] at hchanges
  generalize hold : some p = old at hchanges
  generalize hnew : db'.program? id = new at hchanges
  cases hchanges with
  | absent => cases hold
  | created => cases hold
  | same hs q =>
    cases hold
    exact ⟨_, rfl, .inl rfl⟩
  | reward hreward q =>
    cases hold
    exact ⟨_, rfl, .inl rfl⟩
  | raised escrow hspent =>
    cases hold
    exact ⟨_, rfl, .inl rfl⟩
  | status src dst q =>
    cases hold
    refine ⟨_, rfl, ?_⟩
    by_cases hsrc : p.status = src
    · exact .inr (by rw [hsrc]; rfl)
    · -- The guard of the update does not hold, so it changes no row.
      have hdb : db' = (db.updateStatus id src dst).2 :=
        (congrArg Prod.snd (Except.ok.inj h)).symm
      rw [hdb, Db.updateStatus, hp] at hnew
      simp only [if_neg hsrc, hp, Option.some.injEq] at hnew
      exact .inl (congrArg ProgramRow.status hnew).symm

end WaveFlow.Postgres
