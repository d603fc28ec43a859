import WaveFlow.Postgres.Rules

/-!
# What the constraints refuse

An insert that violates a constraint does not say which of its columns was at fault. Where the other
constraints of the table cannot fire, the row that stands in the way is found in the table. An index
without room for the row is named in the same way, and then there is no such row.
-/

namespace WaveFlow.Postgres

open Relational

variable {source : UuidSource} {db : Db} {err : DbError} {id : Uuid}

/-- The error names a constraint. -/
def DbError.Names (err : DbError) : Prop := err.constraint?.isSome = true

theorem Text.ofParam_names {s : String} (h : Text.ofParam s = .error err) : ¬ err.Names := by
  unfold Text.ofParam at h
  split_ifs at h
  cases h
  exact Bool.false_ne_true

/-- A text that cannot be stored violates no constraint. -/
theorem Text.ofParam_bind_names {α : Type} {s : String} {f : Text → Except DbError α}
    (hnames : err.Names) (h : (Text.ofParam s >>= f) = .error err) :
    ∃ t, Text.ofParam s = .ok t ∧ f t = .error err := by
  rcases bind_eq_error.1 h with h | hrest
  · exact absurd hnames (Text.ofParam_names h)
  · exact hrest

/-- An index that has no room is named, unless the key makes no index row at all. -/
theorem Server.refusal_names {server : Server} (index : String) {key : IndexKey}
    (h : ¬ server.Fits key) : (server.refusal index key).Names ↔ server.NamedRefusal key := by
  have hlarge : 2704 < server.indexRowSize key := Nat.lt_of_not_le h
  unfold DbError.Names Server.refusal Server.NamedRefusal
  split_ifs with hrow
  · refine iff_of_false Bool.false_ne_true ?_
    omega
  · refine iff_of_true rfl ?_
    omega

theorem Server.enter_refused_iff {server : Server} (index : String) {key : IndexKey} :
    (∃ err, err.Names ∧ server.enter index key = .error err) ↔ server.NamedRefusal key := by
  by_cases hfits : server.Fits key
  · refine iff_of_false ?_ fun h => h.not_fits hfits
    rintro ⟨err, -, h⟩
    rw [Server.enter_of_fits hfits] at h
    cases h
  · rw [← Server.refusal_names index hfits, Server.enter, if_neg hfits]
    constructor
    · rintro ⟨err, hnames, h⟩
      cases h
      exact hnames
    · intro hnames
      exact ⟨_, hnames, rfl⟩

namespace Db

/-- A payout of a known program, with points and an amount, is refused when there is one for the
PR. -/
theorem insertPayout_refused {pr : Int64} {username address txHash : String} {points : Int32}
    {amount : Int64} (hnames : err.Names) (hamount : 0 < amount) (hpoints : 0 < points)
    (hprogram : ∃ p ∈ db.programs, p.id = id)
    (h : db.insertPayout source id pr username address points amount txHash = .error err) :
    ∃ row ∈ db.payouts, row.programId = id ∧ row.prNumber = pr := by
  rw [← payout?_ne_none]
  have hkept := h
  unfold insertPayout at h
  obtain ⟨username', -, h⟩ := Text.ofParam_bind_names hnames h
  obtain ⟨address', -, h⟩ := Text.ofParam_bind_names hnames h
  obtain ⟨txHash', -, h⟩ := Text.ofParam_bind_names hnames h
  simp only [dif_pos hamount, dif_pos hpoints] at h
  split at h
  · cases h
    exact payout?_of_insertPayout_unique hkept
  · have hfk : ∃ p ∈ db.programs.rows, p.id = id := hprogram
    rw [dif_pos hfk] at h
    cases h

/-- A registration with a known program is refused when there is one for the user, or when the index
has no room for the name. -/
theorem insertContributor_refused_iff {username address : String}
    (hprogram : ∃ p ∈ db.programs, p.id = id) :
    (∃ err, err.Names ∧ db.insertContributor id username address = .error err) ↔
      (Storable username ∧ Storable address) ∧
        ((∃ row ∈ db.contributors, row.programId = id ∧ row.githubUsername.val = username) ∨
          db.server.NamedRefusal (.idText id username)) := by
  by_cases hstorable : Storable username ∧ Storable address
  · obtain ⟨husername, haddress⟩ := hstorable
    unfold insertContributor
    rw [Text.ofParam_of_storable husername, Text.ofParam_of_storable haddress]
    simp only [bind_ok, husername, haddress, and_self, true_and]
    split
    · rename_i hinsert
      obtain ⟨ix, hix, -, row, hrow, hsame⟩ := db.contributors.insert_eq_error hinsert
      simp only [ContributorRow.indexes, List.mem_singleton] at hix
      subst hix
      have heq : row.programId = id ∧ row.githubUsername = ⟨username, husername⟩ := by
        simpa [ContributorRow.index, Index.on] using hsame
      refine iff_of_true ⟨.unique _, rfl, rfl⟩ (.inl ⟨row, hrow, heq.1, ?_⟩)
      rw [heq.2]
    · rename_i contributors hinsert
      have hnone : ¬ ∃ row ∈ db.contributors, row.programId = id ∧
          row.githubUsername.val = username := by
        rintro ⟨row, hrow, hid, hname⟩
        refine ((Table.insert_eq_ok _).1 hinsert).1 ContributorRow.index
          (by simp [ContributorRow.indexes]) ⟨row, hrow, ?_⟩
        have heq : row.githubUsername = ⟨username, husername⟩ := Text.eq_of_val hname
        simp [ContributorRow.index, Index.on, hid, heq]
      have hfk : ∃ p ∈ db.programs.rows, p.id = id := hprogram
      rw [or_iff_right hnone, ← Server.enter_refused_iff ContributorRow.index.name]
      refine exists_congr fun err => and_congr_right fun _ => ?_
      rw [bind_eq_error, dif_pos hfk]
      refine or_iff_left ?_
      rintro ⟨_, -, h⟩
      cases h
  · refine iff_of_false ?_ fun h => hstorable h.1
    rintro ⟨err, hnames, h⟩
    unfold insertContributor at h
    obtain ⟨t, ht, h⟩ := Text.ofParam_bind_names hnames h
    obtain ⟨t', ht', -⟩ := Text.ofParam_bind_names hnames h
    refine hstorable ⟨?_, ?_⟩
    · rw [← Text.ofParam_eq_ok.1 ht]
      exact t.storable
    · rw [← Text.ofParam_eq_ok.1 ht']
      exact t'.storable

/-- A program that is refused, but not for its row id: its id on chain or its repo has a program. -/
theorem taken_of_insert {row : ProgramRow} {name : String}
    (hid : row.id ∉ db.programs.rows.map ProgramRow.id)
    (h : db.programs.insert row = .error name) :
    ∃ p ∈ db.programs, p.onChainProgramId = row.onChainProgramId ∨
      p.githubRepo.val = row.githubRepo.val := by
  obtain ⟨ix, hix, -, p, hp, hsame⟩ := db.programs.insert_eq_error h
  refine ⟨p, hp, ?_⟩
  simp only [ProgramRow.indexes, List.mem_cons, List.not_mem_nil, or_false] at hix
  rcases hix with rfl | rfl | rfl
  · have heq : p.id = row.id := by simpa [ProgramRow.idIndex, Index.on] using hsame
    rw [← heq] at hid
    exact absurd (List.mem_map_of_mem hp) hid
  · exact .inl (by simpa [ProgramRow.onChainIndex, Index.on] using hsame)
  · have heq : p.githubRepo = row.githubRepo := by
      simpa [ProgramRow.repoIndex, Index.on] using hsame
    exact .inr (congrArg Text.val heq)

theorem free_of_insert {row : ProgramRow} {programs : Table ProgramRow.indexes}
    (h : db.programs.insert row = .ok programs) :
    ¬ ∃ p ∈ db.programs, p.onChainProgramId = row.onChainProgramId ∨
      p.githubRepo.val = row.githubRepo.val := by
  have hfree := ((Table.insert_eq_ok _).1 h).1
  rintro ⟨p, hp, hsame | hsame⟩
  · refine hfree ProgramRow.onChainIndex (by simp [ProgramRow.indexes]) ⟨p, hp, ?_⟩
    simpa [ProgramRow.onChainIndex, Index.on] using hsame
  · refine hfree ProgramRow.repoIndex (by simp [ProgramRow.indexes]) ⟨p, hp, ?_⟩
    have heq : p.githubRepo = row.githubRepo := Text.eq_of_val hsame
    simpa [ProgramRow.repoIndex, Index.on] using heq

/-- A program with a price is refused when its id on chain or its repo has one, or when the index has
no room for the repo. -/
theorem insertProgram_refused_iff {onChain : Int64} {repo maintainer : String} {reward : Int64}
    {cap : Option Int64} (hreward : 0 < reward) (hmaintainer : Storable maintainer) :
    (∃ err, err.Names ∧
        db.insertProgram source onChain repo maintainer reward cap = .error err) ↔
      Storable repo ∧
        ((∃ p ∈ db.programs, p.onChainProgramId = onChain ∨ p.githubRepo.val = repo) ∨
          db.server.NamedRefusal (.text repo)) := by
  by_cases hrepo : Storable repo
  · unfold insertProgram
    simp only [Text.ofParam_of_storable, hrepo, hmaintainer, bind, Except.bind, dif_pos hreward]
    split
    · rename_i name hinsert
      exact iff_of_true ⟨.unique name, rfl, rfl⟩
        ⟨trivial, .inl (taken_of_insert (source.fresh _) hinsert)⟩
    · rename_i programs hinsert
      rw [or_iff_right (free_of_insert hinsert)]
      by_cases hfits : db.server.Fits (.text repo)
      · rw [dif_pos hfits]
        refine iff_of_false ?_ fun h => h.2.not_fits hfits
        rintro ⟨err, -, h⟩
        cases h
      · rw [dif_neg hfits, ← Server.refusal_names ProgramRow.repoIndex.name hfits]
        constructor
        · rintro ⟨err, hnames, h⟩
          cases h
          exact ⟨trivial, hnames⟩
        · rintro ⟨-, hnames⟩
          exact ⟨_, hnames, rfl⟩
  · refine iff_of_false ?_ fun h => hrepo h.1
    rintro ⟨err, hnames, h⟩
    have hparam : Text.ofParam repo = .error .invalidText := dif_neg hrepo
    unfold insertProgram at h
    rw [hparam] at h
    cases h
    exact Bool.false_ne_true hnames

end Db

end WaveFlow.Postgres
