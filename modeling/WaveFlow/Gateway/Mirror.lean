import WaveFlow.Escrow.Run
import WaveFlow.Gateway.MergeAlone
import WaveFlow.Postgres.Programs

/-!
# Does the database follow the contract?

A merge is booked twice: `record_merge` updates the program of the contract and
`increment_milestone_spent` its row in the database. `Mirrors` relates the two records. A merge of a
program with a cap keeps the relation. Without a cap the contract leaves the milestone alone and the
database does not, and from then on the two stay apart: `Departed`.
-/

namespace WaveFlow

open Interaction Postgres Transition

variable {H : Escrow.Host} {source : UuidSource} {w : World} {id : Uuid} {x : Escrow.Program}
  {r r' : ProgramRow} {amount spent : ℤ}

/-- The row says of a program what the contract says. -/
structure Mirrors (x : Escrow.Program) (r : ProgramRow) : Prop where
  reward : r.rewardPerPoint.toInt = x.rewardPerPoint
  cap : r.milestoneCap.map Int64.toInt = x.milestoneCap
  spent : r.milestoneSpent.toInt = x.milestoneSpent
  escrow : r.escrowBalance.toInt = x.escrowBalance

/-- The two sides of the service. -/
structure Sides (H : Escrow.Host) where
  env : Escrow.Env H
  world : World

/-- A merge, with what is needed to book it on both sides. -/
structure Merge where
  auths : Finset Escrow.Address
  gateway : Escrow.Address
  program : UInt64
  row : Uuid
  githubUsername : Escrow.Symbol
  prNumber : UInt64
  points : UInt32

/-- A merge that the contract accepts is booked on chain, and then in the row of its program. -/
inductive Merged (source : UuidSource) (s : Sides H) (m : Merge) : Sides H → Prop
  | book {payout : ℤ} {env' : Escrow.Env H} {r : ProgramRow}
      (hmerge : (Escrow.recordMerge m.gateway m.program m.githubUsername m.prNumber m.points).exec
        m.auths s.env = .ok (payout, env'))
      (hrow : s.world.db.program? m.row = some r)
      (hprogram : r.onChainProgramId.toUInt64 = m.program) :
      Merged source s m ⟨env', (tryAlone source s.world
        (incrementMilestoneSpent m.row (m.points.toNat * r.rewardPerPoint.toInt))).2⟩

/-! ### The database -/

/-- What an update by an amount that the escrow covers makes of a row. -/
inductive Raised (amount : ℤ) (r : ProgramRow) : ProgramRow → Prop
  | raised {spent escrow : Int64} (hspent : spent.toInt = r.milestoneSpent.toInt + amount)
      (hescrow : escrow.toInt = r.escrowBalance.toInt - amount) :
      Raised amount r (r.withBalances spent escrow)
  | refused (hbig : 2 ^ 63 ≤ r.milestoneSpent.toInt + amount) : Raised amount r r

theorem Raised.onChain (h : Raised amount r r') : r'.onChainProgramId = r.onChainProgramId := by
  cases h <;> rfl

/-- The database after `increment_milestone_spent`. -/
theorem db_incrementMilestoneSpent (source : UuidSource) (w : World) (id : Uuid) (k : Int64) :
    (tryAlone source w (incrementMilestoneSpent id k.toInt)).2.db =
      (w.db.updateMilestoneSpent k id).toOption.elim w.db Prod.snd := by
  unfold incrementMilestoneSpent
  rw [i64TryFrom_toInt]
  cases h : w.db.updateMilestoneSpent k id with
  | ok q =>
    obtain ⟨n, db⟩ := q
    have hok : tryAlone source w (query (.updateMilestoneSpent k id) databaseError) =
        (.ok n, { w with db }) := tryAlone_query_ok h
    rw [tryAlone_bind_ok hok]
    rfl
  | error err =>
    have herror : tryAlone source w (query (.updateMilestoneSpent k id) databaseError) =
        (.error (databaseError err), w) := tryAlone_query_error h
    rw [tryAlone_bind_error herror]
    rfl

/-- Clamping the balance at zero does nothing when it covers the amount. -/
theorem max_zero_eq {rest : Int64} (h : 0 ≤ rest.toInt) : max rest 0 = rest := by
  show (if rest ≤ 0 then (0 : Int64) else rest) = rest
  split_ifs with hle
  · have hle' : rest.toInt ≤ 0 := Int64.le_iff_toInt_le.1 hle
    exact Int64.toInt_inj.1 (le_antisymm h hle')
  · rfl

theorem raised_of_increment (source : UuidSource) (hr : w.db.program? id = some r)
    (hpos : 0 < amount) (hle : amount ≤ r.escrowBalance.toInt) :
    ∃ r', (tryAlone source w (incrementMilestoneSpent id amount)).2.db.program? id = some r' ∧
      Raised amount r r' := by
  have hlt := r.escrowBalance.toInt_lt
  obtain ⟨k, hk⟩ : ∃ k : Int64, k.toInt = amount :=
    ⟨Int64.ofInt amount, Int64.toInt_ofInt_of_le (by omega) (by omega)⟩
  rw [← hk, db_incrementMilestoneSpent]
  cases hspent : i64TryFrom (r.milestoneSpent.toInt + amount) with
  | none =>
    -- The sum leaves the range of the column.
    have hspent' := hspent
    rw [i64TryFrom_eq_none] at hspent'
    have hge := r.milestoneSpent.le_toInt
    refine ⟨r, ?_, .refused (by omega)⟩
    have herror : w.db.updateMilestoneSpent k id = .error .outOfRange := by
      simp only [Db.updateMilestoneSpent, hr, hk, hspent]
    rw [herror]
    exact hr
  | some total =>
    obtain ⟨rest, hrest⟩ : ∃ rest : Int64, rest.toInt = r.escrowBalance.toInt - amount :=
      ⟨Int64.ofInt (r.escrowBalance.toInt - amount),
        Int64.toInt_ofInt_of_le (by omega) (by omega)⟩
    have hok : w.db.updateMilestoneSpent k id = .ok (1, w.db.setBalances id total rest) := by
      simp only [Db.updateMilestoneSpent, hr, hk, hspent, i64TryFrom_eq_some.2 hrest]
      rw [max_zero_eq (by omega)]
    have htotal := i64TryFrom_eq_some.1 hspent
    refine ⟨r.withBalances total rest, ?_, .raised (by omega) (by omega)⟩
    rw [hok]
    exact Db.program?_modifyProgram_self (ProgramRow.sameKeys_withBalances total rest) hr

/-- The other rows are left alone. -/
theorem program?_increment_other (source : UuidSource) (w : World) {id' : Uuid} (hne : id' ≠ id)
    (amount : ℤ) :
    (tryAlone source w (incrementMilestoneSpent id amount)).2.db.program? id' =
      w.db.program? id' := by
  cases hk : i64TryFrom amount with
  | none =>
    unfold incrementMilestoneSpent
    rw [hk]
    rfl
  | some k =>
    rw [← i64TryFrom_eq_some.1 hk, db_incrementMilestoneSpent]
    cases h : w.db.updateMilestoneSpent k id with
    | error err => rfl
    | ok q =>
      unfold Db.updateMilestoneSpent at h
      split at h
      · split at h
        · rename_i total rest _ _
          cases h
          exact Db.program?_modifyProgram_other (ProgramRow.sameKeys_withBalances total _) hne
        · cases h
      · cases h
        rfl

/-! ### The contract -/

/-- What `record_merge` makes of the stored programs. -/
theorem Escrow.program_of_recordMerge {auths : Finset Escrow.Address} {env env' : Escrow.Env H}
    {gateway : Escrow.Address} {p pr : UInt64} {user : Escrow.Symbol} {points : UInt32}
    {payout : ℤ}
    (h : (Escrow.recordMerge gateway p user pr points).exec auths env = .ok (payout, env')) :
    ∃ x spent, env.persistent.program p = some x ∧ points ≠ 0 ∧
      payout = points.toNat * x.rewardPerPoint ∧ payout ≤ x.escrowBalance ∧
      Escrow.MilestoneSpent x payout spent ∧
      ∀ q, env'.persistent.program q =
        if q = p then
          some { x with milestoneSpent := spent, escrowBalance := x.escrowBalance - payout }
        else env.persistent.program q := by
  cases Escrow.recordMerge_effect h with
  | recordMerge hauth hgateway hpoints hpr hx hactive huser hrange hescrow hspent =>
    refine ⟨_, _, hx, hpoints, rfl, hescrow, hspent, fun q => ?_⟩
    simp only [Escrow.Storage.program_insert_processedPr]
    exact Escrow.Storage.program_insert_program _ _ _ _

/-! ### One merge -/

/-- A row that claims more than its program, which has no cap. -/
structure Departed (x : Escrow.Program) (r : ProgramRow) : Prop where
  reward : r.rewardPerPoint.toInt = x.rewardPerPoint
  uncapped : x.milestoneCap = none
  spent : x.milestoneSpent ≤ r.milestoneSpent.toInt
  escrow : x.escrowBalance ≤ r.escrowBalance.toInt
  apart : x.milestoneSpent + x.escrowBalance < r.milestoneSpent.toInt + r.escrowBalance.toInt

theorem Departed.not_mirrors (h : Departed x r) : ¬ Mirrors x r := by
  intro hmirrors
  have hapart := h.apart
  rw [hmirrors.spent, hmirrors.escrow] at hapart
  exact lt_irrefl _ hapart

/-- With a cap the sum is within the cap, so the update takes effect. -/
theorem Mirrors.merge_capped (h : Mirrors x r) (hcap : x.milestoneCap ≠ none)
    (hspent : Escrow.MilestoneSpent x amount spent) (hraised : Raised amount r r') :
    Mirrors { x with milestoneSpent := spent, escrowBalance := x.escrowBalance - amount } r' := by
  obtain ⟨cap, hcap⟩ := Option.ne_none_iff_exists'.1 hcap
  simp only [Escrow.MilestoneSpent, hcap] at hspent
  obtain ⟨-, rfl, hle⟩ := hspent
  cases hraised with
  | raised hspent hescrow =>
    exact
      { reward := h.reward
        cap := h.cap
        spent := by rw [← h.spent]; exact hspent
        escrow := by rw [← h.escrow]; exact hescrow }
  | refused hbig =>
    obtain ⟨k, -, hk⟩ := Option.map_eq_some_iff.1 (h.cap.trans hcap)
    have hlt := k.toInt_lt
    rw [h.spent] at hbig
    omega

/-- Without a cap the two part. -/
theorem Mirrors.merge_uncapped (h : Mirrors x r) (hcap : x.milestoneCap = none) (hpos : 0 < amount)
    (hspent : Escrow.MilestoneSpent x amount spent) (hraised : Raised amount r r') :
    Departed { x with milestoneSpent := spent, escrowBalance := x.escrowBalance - amount } r' := by
  simp only [Escrow.MilestoneSpent, hcap] at hspent
  obtain rfl := hspent
  obtain ⟨hreward, -, hspent, hescrow⟩ := h
  cases hraised with
  | raised hspent' hescrow' =>
    refine ⟨hreward, hcap, ?_, ?_, ?_⟩ <;> simp only [ProgramRow.withBalances] <;> omega
  | refused =>
    refine ⟨hreward, hcap, ?_, ?_, ?_⟩ <;> simp only <;> omega

/-- They stay apart. -/
theorem Departed.merge (h : Departed x r) (hpos : 0 < amount)
    (hspent : Escrow.MilestoneSpent x amount spent) (hraised : Raised amount r r') :
    Departed { x with milestoneSpent := spent, escrowBalance := x.escrowBalance - amount } r' := by
  obtain ⟨hreward, hcap, hspent', hescrow, hapart⟩ := h
  simp only [Escrow.MilestoneSpent, hcap] at hspent
  obtain rfl := hspent
  cases hraised with
  | raised hraised' hrest =>
    refine ⟨hreward, hcap, ?_, ?_, ?_⟩ <;> simp only [ProgramRow.withBalances] <;> omega
  | refused =>
    refine ⟨hreward, hcap, ?_, ?_, ?_⟩ <;> simp only <;> omega

/-! ### Every sequence of merges -/

variable {s s' s₀ : Sides H} {h : List (Entry (Sides H) Merge)} {m : Merge} {p : UInt64}

/-- How program `p`, with this cap, and row `id` stand to each other after a sequence of merges. -/
def Standing (p : UInt64) (id : Uuid) (cap : Option ℤ) (h : List (Entry (Sides H) Merge))
    (s : Sides H) : Prop :=
  ∃ x r, s.env.persistent.program p = some x ∧ s.world.db.program? id = some r ∧
    r.onChainProgramId.toUInt64 = p ∧ x.milestoneCap = cap ∧
    ((Mirrors x r ∧ (cap ≠ none ∨ ∀ e ∈ h, e.label.row ≠ id)) ∨
      (Departed x r ∧ ∃ e ∈ h, e.label.row = id))

/-- **One more merge**, of this program or of another one. -/
theorem Standing.snoc {cap : Option ℤ} (hstanding : Standing p id cap h s)
    (hs : Merged source s m s') : Standing p id cap (h ++ [⟨s, m, s'⟩]) s' := by
  obtain ⟨x, r, hx, hr, hid, hcap, hside⟩ := hstanding
  have hreward : r.rewardPerPoint.toInt = x.rewardPerPoint := by
    rcases hside with ⟨hmirrors, -⟩ | ⟨hdeparted, -⟩
    · exact hmirrors.reward
    · exact hdeparted.reward
  cases hs with
  | @book payout env' r' hmerge hrow hprogram =>
    obtain ⟨y, spent, hy, hpoints, hpayout, hescrow, hspent, hchain⟩ :=
      Escrow.program_of_recordMerge hmerge
    by_cases hm : m.row = id
    · obtain rfl : r' = r := Option.some.inj (hrow.symm.trans (hm ▸ hr))
      obtain rfl : m.program = p := hprogram.symm.trans hid
      obtain rfl : y = x := Option.some.inj (hy.symm.trans hx)
      have hsame : (m.points.toNat : ℤ) * r'.rewardPerPoint.toInt = payout := by
        rw [hreward, hpayout]
      have hpos : 0 < payout := by
        have hreward_pos : 0 < r'.rewardPerPoint.toInt := Int64.lt_iff_toInt_lt.1 r'.reward_pos
        have hpoints_pos : 0 < m.points.toNat :=
          Nat.pos_of_ne_zero fun hzero => hpoints (UInt32.toNat_inj.1 hzero)
        rw [← hsame]
        exact Int.mul_pos (by omega) hreward_pos
      have hle : payout ≤ r'.escrowBalance.toInt := by
        rcases hside with ⟨hmirrors, -⟩ | ⟨hdeparted, -⟩
        · rwa [hmirrors.escrow]
        · exact hescrow.trans hdeparted.escrow
      obtain ⟨r'', hr'', hraised⟩ := raised_of_increment source hr hpos hle
      refine ⟨_, r'', (hchain m.program).trans (if_pos rfl), ?_, by rw [hraised.onChain, hid],
        hcap, ?_⟩
      · rw [hsame, hm]
        exact hr''
      · have hnow : ∀ s', ∃ e ∈ h ++ [(⟨s, m, s'⟩ : Entry (Sides H) Merge)], e.label.row = id :=
          fun s' => ⟨⟨s, m, s'⟩, List.mem_concat_self, hm⟩
        rcases hside with ⟨hmirrors, -⟩ | ⟨hdeparted, -⟩
        · by_cases hnone : y.milestoneCap = none
          · exact .inr ⟨hmirrors.merge_uncapped hnone hpos hspent hraised, hnow _⟩
          · exact .inl ⟨hmirrors.merge_capped hnone hspent hraised, .inl (hcap ▸ hnone)⟩
        · exact .inr ⟨hdeparted.merge hpos hspent hraised, hnow _⟩
    · -- A merge of another program: both records are left alone.
      have hother : p ≠ m.program := by
        rintro rfl
        obtain ⟨hmem, hmid⟩ := s.world.db.program?_eq_some.1 hr
        obtain ⟨hmem', hmid'⟩ := s.world.db.program?_eq_some.1 hrow
        have honChain := toUInt64_injective (hprogram.trans hid.symm)
        obtain rfl := s.world.db.program_eq_of_onChain hmem' hmem honChain
        exact hm (hmid'.symm.trans hmid)
      refine ⟨x, r, ?_, ?_, hid, hcap, ?_⟩
      · rw [hchain p, if_neg hother, hx]
      · rw [program?_increment_other source s.world (Ne.symm hm), hr]
      · simp only [List.mem_append, List.mem_singleton]
        rcases hside with ⟨hmirrors, hcapped⟩ | ⟨hdeparted, e, he, hrow'⟩
        · refine .inl ⟨hmirrors, hcapped.imp_right fun hno => ?_⟩
          rintro e (he | rfl)
          · exact hno e he
          · exact hm
        · exact .inr ⟨hdeparted, e, .inl he, hrow'⟩

/-- **When the database follows the contract**, over any sequence of merges that the contract
accepts: a row that agrees with its program agrees with it again exactly if the program has a cap,
or none of the merges was one of it. -/
theorem mirror_follows (hrun : Run (Merged source) s₀ h s)
    (hrow : s₀.world.db.program? id = some r)
    (hprogram : s₀.env.persistent.program r.onChainProgramId.toUInt64 = some x)
    (hmirrors : Mirrors x r) :
    ∃ x' r', s.env.persistent.program r.onChainProgramId.toUInt64 = some x' ∧
      s.world.db.program? id = some r' ∧
      (Mirrors x' r' ↔ x.milestoneCap ≠ none ∨ ∀ e ∈ h, e.label.row ≠ id) := by
  have hstanding : Standing r.onChainProgramId.toUInt64 id x.milestoneCap h s := by
    refine hrun.invariant (Standing r.onChainProgramId.toUInt64 id x.milestoneCap) ?_ ?_
    · exact ⟨x, r, hprogram, hrow, rfl, rfl, .inl ⟨hmirrors, .inr (by simp)⟩⟩
    · intro h s m s' _ hstanding hs
      exact hstanding.snoc hs
  obtain ⟨x', r', hx', hr', -, hcap, hside⟩ := hstanding
  refine ⟨x', r', hx', hr', ?_⟩
  rcases hside with ⟨hmirrors, hcapped⟩ | ⟨hdeparted, e, he, hrow'⟩
  · exact iff_of_true hmirrors hcapped
  · apply iff_of_false hdeparted.not_mirrors
    rintro (hcapped | hno)
    · exact hcapped (hcap ▸ hdeparted.uncapped)
    · exact hno e he hrow'

/-! ### Two merges -/

instance (x : Escrow.Program) (r : ProgramRow) : Decidable (Mirrors x r) :=
  decidable_of_iff (r.rewardPerPoint.toInt = x.rewardPerPoint ∧
      r.milestoneCap.map Int64.toInt = x.milestoneCap ∧
      r.milestoneSpent.toInt = x.milestoneSpent ∧ r.escrowBalance.toInt = x.escrowBalance)
    ⟨fun ⟨hreward, hcap, hspent, hescrow⟩ => ⟨hreward, hcap, hspent, hescrow⟩,
      fun h => ⟨h.reward, h.cap, h.spent, h.escrow⟩⟩

namespace Setup

/-- A program with 5000 in escrow, on chain and in the database. -/
def sides (cap : Option Int64) : Sides Escrow.Setup.host where
  env := (Escrow.performAll (Escrow.deploy Escrow.Setup.tokens)
    [ ({Escrow.Setup.admin},
        .initialise Escrow.Setup.admin Escrow.Setup.gateway Escrow.Setup.token),
      ({Escrow.Setup.maintainer}, .createProgram Escrow.Setup.maintainer "StellarRoute/WaveFlow"
        100 (cap.map Int64.toInt)),
      ({Escrow.Setup.maintainer}, .fund 1 Escrow.Setup.maintainer 5000),
      ({Escrow.Setup.maintainer}, .registerContributor 1 Escrow.Setup.maintainer "alice"
        Escrow.Setup.contributorWallet) ]).2
  world :=
    let inserted := ((Db.empty server).insertProgram uuids 1 "StellarRoute/WaveFlow" account 100 cap).toOption
    { world with db := (inserted.map fun r => r.2.setBalances r.1 0 5000).getD (.empty server) }

/-- A merge of three points. -/
def merge : Merge where
  auths := {Escrow.Setup.gateway}
  gateway := Escrow.Setup.gateway
  program := 1
  row := program.1
  githubUsername := "alice"
  prNumber := 42
  points := 3

/-- The program and its row agree. -/
def mirrored (s : Sides Escrow.Setup.host) : Bool :=
  (s.world.db.program? program.1).any fun r => r.onChainProgramId.toUInt64 = 1 ∧
    (s.env.persistent.program 1).any fun x => Mirrors x r

theorem mirrored_iff {s : Sides Escrow.Setup.host} :
    mirrored s ↔ ∃ r x, s.world.db.program? program.1 = some r ∧
      r.onChainProgramId.toUInt64 = 1 ∧ s.env.persistent.program 1 = some x ∧ Mirrors x r := by
  simp [mirrored, Option.any_eq_true]

/-- The merge is booked on both sides. -/
theorem merged_of_perform {s : Sides Escrow.Setup.host}
    (hmirrored : mirrored s) (hmerge : (Escrow.perform s.env merge.auths
      (.recordMerge merge.gateway 1 "alice" 42 3)).1 =
        .ok merge.auths (.recordMerge merge.gateway 1 "alice" 42 3) (.amount 300)) :
    ∃ s', Merged uuids s merge s' := by
  obtain ⟨r, x, hrow, hid, -⟩ := mirrored_iff.1 hmirrored
  have hexec := Escrow.exec_of_perform hmerge
  simp only [Escrow.invoke, Escrow.Contract.bind_ok, Escrow.Contract.pure_ok] at hexec
  obtain ⟨payout, env', hexec, -, -⟩ := hexec
  exact ⟨_, .book hexec hrow hid⟩

end Setup

/-- The program has a cap of 1000. -/
theorem mirror_follows_setup :
    ∃ s, Merged Setup.uuids (Setup.sides (some 1000)) Setup.merge s ∧
      ∃ x r, s.env.persistent.program 1 = some x ∧ s.world.db.program? Setup.program.1 = some r ∧
        Mirrors x r := by
  have hmirrored : Setup.mirrored (Setup.sides (some 1000)) := by decide +kernel
  have hcap : ((Setup.sides (some 1000)).env.persistent.program 1).any (·.milestoneCap ≠ none) := by
    decide +kernel
  obtain ⟨s, hs⟩ := Setup.merged_of_perform hmirrored (by decide +kernel)
  obtain ⟨r, x, hrow, hid, hprogram, hmirrors⟩ := Setup.mirrored_iff.1 hmirrored
  obtain ⟨x', r', hx', hr', hiff⟩ := mirror_follows (.snoc .nil hs) hrow (hid ▸ hprogram) hmirrors
  rw [hprogram] at hcap
  rw [hid] at hx'
  exact ⟨s, hs, x', r', hx', hr', hiff.2 (.inl (by simpa using hcap))⟩

/-- It has none: the database counts the merge towards the milestone, and the contract does not. -/
theorem milestone_not_mirrored :
    ∃ s, Merged Setup.uuids (Setup.sides none) Setup.merge s ∧ Setup.mirrored (Setup.sides none) ∧
      ∃ x r, s.env.persistent.program 1 = some x ∧ s.world.db.program? Setup.program.1 = some r ∧
        ¬ Mirrors x r := by
  have hmirrored : Setup.mirrored (Setup.sides none) := by decide +kernel
  have hcap : ((Setup.sides none).env.persistent.program 1).any (·.milestoneCap = none) := by
    decide +kernel
  obtain ⟨s, hs⟩ := Setup.merged_of_perform hmirrored (by decide +kernel)
  obtain ⟨r, x, hrow, hid, hprogram, hmirrors⟩ := Setup.mirrored_iff.1 hmirrored
  rw [hprogram] at hcap
  have hstart : Standing 1 Setup.program.1 none [] (Setup.sides none) :=
    ⟨x, r, hprogram, hrow, hid, by simpa using hcap, .inl ⟨hmirrors, .inr (by simp)⟩⟩
  obtain ⟨x', r', hx', hr', -, -, hside⟩ := hstart.snoc hs
  refine ⟨s, hs, hmirrored, x', r', hx', hr', ?_⟩
  rcases hside with ⟨-, hcapped | hno⟩ | ⟨hdeparted, -⟩
  · exact absurd rfl hcapped
  · exact absurd rfl (hno _ List.mem_concat_self)
  · exact hdeparted.not_mirrors

end WaveFlow
