import WaveFlow.Api.Records
import WaveFlow.Gateway.Authentic
import WaveFlow.Gateway.MergeAlone
import WaveFlow.Gateway.Registrations

/-!
# Unsigned numbers in signed columns

Ids and PR numbers are `u64`, their columns `BIGINT`. `create_program` writes what does not fit as
`i64::MAX`, and so do the lookups of payouts; `persist_payout` refuses it, but writes points that do
not fit an `INTEGER` as 1. Both services cast what they read back.

* `on_chain_id_survives`: an id comes back from the database exactly when it is below `2 ^ 63`.
* `payouts_agree`: a payout shows its points when they are below `2 ^ 31`; a PR number below
  `2 ^ 63` is looked up as it was written, and every other one finds the payout of `i64::MAX`.
-/

namespace WaveFlow

open Interaction Postgres Relational Transition

/-! ### The id on chain -/

section OnChainId

variable {ι : Type} [DecidableEq ι] {C : Crates} {config : AppConfig} {calls : ι → Call}
  {w w' w₀ : World} {s : Service ι} {h : List (Entry (Service ι) (Event ι Op Op.Ans))}
  {body : CreateProgramRequest} {response : Response} {repo : String} {k : Int64}

/-- The repo has a program, whose column holds `k`. -/
def Holds (repo : String) (k : Int64) (db : Db) : Prop :=
  ∃ p ∈ db.programs, p.githubRepo.val = repo ∧ p.onChainProgramId = k

theorem Holds.mono {db db' : Db} (hholds : Holds repo k db) (hgrows : db.Grows db') :
    Holds repo k db' := by
  obtain ⟨p, hp, hrepo, hk⟩ := hholds
  obtain ⟨q, hq, hsame⟩ := hgrows.programs p hp
  exact ⟨q, hq, hsame.repo ▸ hrepo, hsame.onChain.trans hk⟩

/-- Every row of the repo is the one that holds `k`. -/
theorem Holds.eq {db : Db} (hholds : Holds repo k db) {p : ProgramRow} (hp : p ∈ db.programs)
    (hrepo : p.githubRepo.val = repo) : p.onChainProgramId = k := by
  obtain ⟨q, hq, hqrepo, hk⟩ := hholds
  rw [db.program_eq_of_repo hp hq (Text.eq_of_val (hrepo.trans hqrepo.symm)), hk]

/-- A request that succeeds has inserted its program. -/
theorem holds_of_createProgram
    (hcreate : tryAlone C.uuids w₀ (createProgram body) = (.ok response, w)) :
    Holds body.githubRepo (saturate body.onChainProgramId) w.db := by
  unfold createProgram at hcreate
  split_ifs at hcreate
  · cases hcreate
  · cases hcreate
  · cases hcreate
  · obtain ⟨id, w₁, hquery, hreturn⟩ := tryAlone_bind_eq_ok hcreate
    obtain ⟨db, hexec, rfl⟩ := tryAlone_query_eq_ok hquery
    obtain ⟨p, hadds, -, hk, hrepo, -⟩ := Db.insertProgram_ok hexec
    cases hreturn
    exact ⟨p, hadds.mem_programs.2 (.inr rfl), hrepo, hk⟩

theorem holds_of_run (hholds : Holds repo k w.db)
    (hrun : Run (Service.FaultyStep C config calls) (Service.start C config calls w) h s) :
    Holds repo k s.world.db :=
  hrun.invariant_state (fun s => Holds repo k s.world.db) hholds
    fun _ _ _ hs hstep => hs.mono hstep.answered.grows

/-- The attestations of the repo carry what the column holds. -/
theorem programId_of_attest (hholds : Holds repo k w.db)
    (hrun : Run (Service.FaultyStep C config calls) (Service.start C config calls w) h s)
    {e : Entry (Service ι) (Event ι Op Op.Ans)} (he : e ∈ h) {r : AttestationRequest}
    (hop : e.label.op = .attest r) {req : Request} {merge : MergeAttestation}
    (hcall : calls e.label.thread = .webhook req) (hmerge : req.merge? C = some merge)
    (hrepo : merge.githubRepo = repo) : r.programId = k.toUInt64 := by
  obtain ⟨before, rest, -, hbefore, hstep⟩ := hrun.split he
  have hallowed := allowed_of_run hbefore hstep
  obtain ⟨req', merge', t, address, hcall', hmerge', hphase, rfl⟩ :=
    registered_of_attest hallowed hop
  rw [hcall] at hcall'
  cases hcall'
  obtain rfl := Option.some.inj (hmerge.symm.trans hmerge')
  have hknows := knows_of_run hbefore hcall hmerge
  rw [hphase] at hknows
  obtain ⟨⟨p, hp, -, hk, hprepo⟩, -⟩ := hknows
  have heq := (holds_of_run hholds hbefore).eq hp (hprepo.trans hrepo)
  rw [← hk, heq]
  rfl

/-- Wherever the id of a repo is read, it is `n`: in the record of the API, by `resolve_program_id`
while the program is active, and in the attestations of its merges. -/
structure Shown (C : Crates) (calls : ι → Call)
    (h : List (Entry (Service ι) (Event ι Op Op.Ans))) (s : Service ι) (repo : String)
    (n : UInt64) : Prop where
  recorded : ∃ p ∈ s.world.db.programs, p.githubRepo.val = repo ∧ p.intoRecord.onChainProgramId = n
  resolved : ∀ p ∈ s.world.db.programs, p.githubRepo.val = repo → p.status = .active →
    tryAlone C.uuids s.world (resolveProgramId repo) = (.ok (p.id, n), s.world)
  attested : ∀ e ∈ h, ∀ r, e.label.op = .attest r → ∀ req merge,
    calls e.label.thread = .webhook req → req.merge? C = some merge → merge.githubRepo = repo →
      r.programId = n

/-- **Which ids survive the database.** After a successful `create_program`, in every state of every
run, the id is shown as it was given exactly when it is below `2 ^ 63`. -/
theorem on_chain_id_survives
    (hcreate : tryAlone C.uuids w₀ (createProgram body) = (.ok response, w))
    (hrun : Run (Service.FaultyStep C config calls) (Service.start C config calls w) h s) :
    Shown C calls h s body.githubRepo body.onChainProgramId ↔
      body.onChainProgramId.toNat < 2 ^ 63 := by
  have hstart := holds_of_createProgram hcreate
  have hholds := holds_of_run hstart hrun
  constructor
  · intro hshown
    obtain ⟨p, hp, hrepo, hshows⟩ := hshown.recorded
    rw [← toUInt64_saturate, ← hholds.eq hp hrepo]
    exact hshows
  · intro hn
    have hback := toUInt64_saturate.2 hn
    refine ⟨?_, fun p hp hrepo hactive => ?_, fun e he r hop req merge hcall hmerge hrepo => ?_⟩
    · obtain ⟨p, hp, hrepo, hk⟩ := hholds
      refine ⟨p, hp, hrepo, ?_⟩
      rw [← hback, ← hk]
      rfl
    · rw [run_resolveProgramId ((s.world.db.activeProgram?_eq_some).2 ⟨hp, hrepo, hactive⟩),
        hholds.eq hp hrepo, hback]
    · exact (programId_of_attest hstart hrun he hop hcall hmerge hrepo).trans hback

/-- A program, its contributor and a merge. -/
theorem on_chain_id_survives_setup :
    let body : CreateProgramRequest := ⟨1, "StellarRoute/WaveFlow", Setup.account, 100, none⟩
    let w := (tryAlone Setup.uuids Setup.blank (createProgram body)).2
    let calls : Fin 2 → Call := fun i => Setup.founding i.succ
    let play := Service.play Setup.crates Setup.config calls w
      (List.replicate 4 0 ++ List.replicate 16 1)
    Shown Setup.crates calls play.1 play.2 "StellarRoute/WaveFlow" 1 := by
  intro body w calls play
  have hsome : (tryAlone Setup.uuids Setup.blank (createProgram body)).1.toOption.isSome := by
    decide +kernel
  cases hresult : (tryAlone Setup.uuids Setup.blank (createProgram body)).1 with
  | error err =>
    rw [hresult] at hsome
    cases hsome
  | ok response =>
    exact (on_chain_id_survives (C := Setup.crates) (Prod.ext hresult rfl)
      (faulty_of_run (Service.run_play _ _ calls _ _))).2 (by decide)

/-- The id `2 ^ 63` is stored and shown as the one below it. -/
theorem on_chain_id_changed :
    let body : CreateProgramRequest :=
      ⟨9223372036854775808, "StellarRoute/WaveFlow", Setup.account, 100, none⟩
    let r := tryAlone Setup.uuids Setup.blank (createProgram body)
    r.1.toOption.isSome ∧
      r.2.db.programs.rows.map (fun p => p.intoRecord.onChainProgramId) = [9223372036854775807] ∧
      ((tryAlone Setup.uuids r.2 (resolveProgramId "StellarRoute/WaveFlow")).1.toOption.map
        fun found => found.2) = some 9223372036854775807 := by
  decide +kernel

end OnChainId

/-! ### Payouts -/

section Payouts

variable {source : UuidSource} {w w' w₀ : World} {program : Uuid} {merge : MergeAttestation}
  {address txHash : String} {amount : ℤ} {id : Uuid} {number : UInt64}
  {h : List (Entry World (Option (Uuid × UInt64)))}

/-- The operation inserts no payout. -/
def Op.KeepsPayouts : Op → Prop
  | .sql q => ¬ q.Pays
  | .attest _ | .count _ => True

/-- What happens to the payouts: a `persist_payout` succeeds, which the label tells, or an operation
of any other kind is performed. -/
inductive PayoutStep (source : UuidSource) : World → Option (Uuid × UInt64) → World → Prop
  | persisted {w w' : World} {program : Uuid} {merge : MergeAttestation} {address : String}
      {amount : ℤ} {txHash : String} {id : Uuid}
      (h : tryAlone source w (persistPayout program merge address amount txHash) = (.ok id, w')) :
      PayoutStep source w (some (program, merge.prNumber)) w'
  | other {w w' : World} {op : Op} {ans : op.Ans} (hop : op.KeepsPayouts)
      (h : op.exec source w = (ans, w')) : PayoutStep source w none w'

theorem payouts_of_keepsPayouts {op : Op} {ans : op.Ans} (hop : op.KeepsPayouts)
    (h : op.exec source w = (ans, w')) : w'.db.payouts = w.db.payouts := by
  cases op with
  | attest r | count c =>
    cases h
    rfl
  | sql q =>
    cases hexec : q.exec source w.db with
    | error e =>
      rw [Op.exec_sql_error hexec] at h
      cases h
      rfl
    | ok r =>
      obtain ⟨r, db⟩ := r
      rw [Op.exec_sql_ok hexec] at h
      cases h
      exact Stmt.payouts_kept hop hexec

/-- What a successful `persist_payout` adds. -/
theorem persistPayout_ok
    (h : tryAlone source w (persistPayout program merge address amount txHash) = (.ok id, w')) :
    merge.prNumber.toNat < 2 ^ 63 ∧ ∃ row, w.db.AddsPayout w'.db row ∧ row.id = id ∧
      row.programId = program ∧ row.prNumber = saturate merge.prNumber ∧
      row.points = pointsColumn merge.points ∧ row.amount.toInt = amount := by
  unfold persistPayout at h
  split at h
  · cases h
  · cases h
  · rename_i amount' pr hamount hpr
    rw [i64TryFrom_eq_some] at hamount hpr
    obtain ⟨db, hexec, rfl⟩ := tryAlone_query_eq_ok h
    obtain ⟨row, hadds, hid, hprogram, hnumber, -, -, hpoints, hrow, -⟩ := Db.insertPayout_ok hexec
    have hlt := pr.toInt_lt
    exact ⟨by omega, row, hadds, hid, hprogram, hnumber.trans (saturate_eq hpr).symm, hpoints,
      by rw [hrow, hamount]⟩

theorem toUInt32_pointsColumn {points : UInt32} :
    (pointsColumn points).toUInt32 = points ↔ points.toNat < 2 ^ 31 := by
  unfold pointsColumn
  split_ifs with hpoints
  · have hback : (Int32.ofNat points.toNat).toUInt32 = UInt32.ofNat points.toNat := rfl
    rw [hback, UInt32.ofNat_toNat]
    exact iff_of_true rfl hpoints
  · refine iff_of_false (fun heq => hpoints ?_) hpoints
    rw [← heq]
    decide

/-! ### What the payouts came from -/

/-- Every payout was persisted, for the number in its column. -/
def Persisted (h : List (Entry World (Option (Uuid × UInt64)))) (w : World) : Prop :=
  ∀ row ∈ w.db.payouts, ∃ e ∈ h, ∃ number : UInt64, e.label = some (row.programId, number) ∧
    row.prNumber = saturate number

theorem Persisted.step {l : Option (Uuid × UInt64)} (hpersisted : Persisted h w)
    (hstep : PayoutStep source w l w') : Persisted (h ++ [⟨w, l, w'⟩]) w' := by
  intro row hrow
  have hold : row ∈ w.db.payouts → ∃ e ∈ h ++ [⟨w, l, w'⟩], ∃ number : UInt64,
      e.label = some (row.programId, number) ∧ row.prNumber = saturate number := by
    intro hrow
    obtain ⟨e, he, hrest⟩ := hpersisted row hrow
    exact ⟨e, List.mem_append_left _ he, hrest⟩
  cases hstep with
  | persisted hpersist =>
    obtain ⟨-, new, hadds, -, hprogram, hnumber, -⟩ := persistPayout_ok hpersist
    rcases hadds.mem_payouts.1 hrow with hrow | rfl
    · exact hold hrow
    · exact ⟨_, List.mem_concat_self, _, by rw [hprogram], hnumber⟩
  | other hop hexec =>
    rw [payouts_of_keepsPayouts hop hexec] at hrow
    exact hold hrow

theorem persisted_of_run (hempty : w₀.db.payouts.rows = [])
    (hrun : Run (PayoutStep source) w₀ h w) : Persisted h w := by
  refine hrun.invariant Persisted ?_ fun h w l w' _ hpersisted hstep => hpersisted.step hstep
  intro row hrow
  rw [← Table.mem_rows, hempty] at hrow
  cases hrow

/-- What was persisted fits its column. -/
theorem number_of_run (hrun : Run (PayoutStep source) w₀ h w)
    {e : Entry World (Option (Uuid × UInt64))} (he : e ∈ h)
    (hlabel : e.label = some (program, number)) : number.toNat < 2 ^ 63 := by
  have hstep := hrun.step_of_mem he
  rw [hlabel] at hstep
  cases hstep with
  | persisted hpersist => exact (persistPayout_ok hpersist).1

/-! ### The lookup -/

/-- A program has a payout under the greatest number of the column. -/
def HasMaxPayout (db : Db) (program : Uuid) : Prop :=
  ∃ row ∈ db.payouts, row.programId = program ∧ row.prNumber = Int64.maxValue

theorem saturate_of_ge (hnumber : 2 ^ 63 ≤ number.toNat) : saturate number = Int64.maxValue := by
  have hnone : i64TryFrom number.toNat = none := i64TryFrom_eq_none.2 (by omega)
  rw [saturate, hnone]
  rfl

theorem saturate_injective {n m : UInt64} (hn : n.toNat < 2 ^ 63) (hm : m.toNat < 2 ^ 63)
    (h : saturate n = saturate m) : n = m := by
  rw [← toUInt64_saturate.2 hn, ← toUInt64_saturate.2 hm, h]

theorem alreadyProcessed_inj {program' : Uuid} {number' : UInt64} {existing existing' : Option Uuid}
    (h : alreadyProcessed program number existing = alreadyProcessed program' number' existing') :
    program = program' ∧ number = number' := by
  unfold alreadyProcessed outcome at h
  simp at h
  obtain ⟨-, htext, hnumber⟩ := h
  obtain ⟨text⟩ := program
  obtain ⟨text'⟩ := program'
  exact ⟨congrArg Uuid.mk htext, hnumber⟩

theorem processed_ne {program' id : Uuid} {existing : Option Uuid} :
    processed program' id txHash ≠ alreadyProcessed program number existing := by
  simp [processed, alreadyProcessed, outcome]

/-- Who is answered `already_processed` has a payout in the lookup. -/
theorem found_of_alreadyProcessed {config : AppConfig} {event : GitHubPullRequestEvent}
    {payload : Json} {deliveryId : Option String} {existing : Option Uuid}
    (h : tryAlone source w (processMerge config event payload deliveryId) =
      (.ok (alreadyProcessed program number existing), w')) :
    w.db.payout? program (saturate number) ≠ none := by
  cases hparse : parseMergeEvent event with
  | error err =>
    unfold processMerge at h
    obtain ⟨merge, w₁, hmerge, -⟩ := tryAlone_bind_eq_ok h
    rw [hparse] at hmerge
    cases hmerge
  | ok merge =>
    cases hp : w.db.activeProgram? merge.githubRepo with
    | none =>
      obtain ⟨err, herror, -⟩ :=
        run_processMerge_inactive source config payload deliveryId hparse hp
      rw [herror] at h
      cases h
    | some p =>
      cases hrow : w.db.payout? p.id (saturate merge.prNumber) with
      | some row =>
        rw [run_processMerge_paid source config hparse hp hrow] at h
        injection h with hanswer
        injection hanswer with hanswer
        obtain ⟨rfl, rfl⟩ := alreadyProcessed_inj hanswer
        rw [hrow]
        simp
      | none =>
        -- The rest of the handling attests the merge, and answers `processed`.
        obtain ⟨hmem, -, hactive⟩ := (w.db.activeProgram?_eq_some).1 hp
        have hid : w.db.program? p.id = some p := (w.db.program?_eq_some).2 ⟨hmem, rfl⟩
        unfold processMerge at h
        rw [tryAlone_bind_ok (run_parseMergeEvent source w hparse),
          tryAlone_bind_ok (run_resolveProgramId hp), tryAlone_bind_ok (run_loadProgramStatus hid),
          hactive, if_neg (by decide), tryAlone_bind_ok (run_payoutExists _ _), hrow] at h
        simp only [Option.isSome_none, Bool.false_eq_true, if_false] at h
        obtain ⟨address, w₁, -, h⟩ := tryAlone_bind_eq_ok h
        unfold attestMerge at h
        obtain ⟨txHash, w₂, -, h⟩ := tryAlone_bind_eq_ok h
        obtain ⟨reward, w₃, -, h⟩ := tryAlone_bind_eq_ok h
        obtain ⟨id, w₄, -, h⟩ := tryAlone_bind_eq_ok h
        injection h with hanswer
        injection hanswer with hanswer
        exact absurd hanswer processed_ne

/-! ### What the record shows -/

/-- The record of a payout shows the number, the points and the amount. -/
def ShowsPayout (db : Db) (id : Uuid) (merge : MergeAttestation) (amount : ℤ) : Prop :=
  ∃ row ∈ db.payouts, row.id = id ∧ row.intoRecord.prNumber = merge.prNumber ∧
    row.intoRecord.points = merge.points ∧ row.intoRecord.amount = amount

theorem payout_eq_of_id {db : Db} {r r' : PayoutRow} (hr : r ∈ db.payouts) (hr' : r' ∈ db.payouts)
    (hid : r.id = r'.id) : r = r' :=
  db.payouts.eq_of_same PayoutRow.idIndex (by simp [PayoutRow.indexes]) hr hr'
    (by simp [PayoutRow.idIndex, Index.on, hid])

theorem showsPayout_iff
    (h : tryAlone source w (persistPayout program merge address amount txHash) = (.ok id, w')) :
    ShowsPayout w'.db id merge amount ↔ merge.points.toNat < 2 ^ 31 := by
  obtain ⟨hnumber, row, hadds, hid, -, hpr, hpoints, hamount⟩ := persistPayout_ok h
  have hrow : row ∈ w'.db.payouts := hadds.mem_payouts.2 (Or.inr rfl)
  rw [← toUInt32_pointsColumn, ← hpoints]
  constructor
  · rintro ⟨row', hrow', hid', -, hshows, -⟩
    obtain rfl := payout_eq_of_id hrow' hrow (hid'.trans hid.symm)
    exact hshows
  · intro hshows
    refine ⟨row, hrow, hid, ?_, hshows, hamount⟩
    show row.prNumber.toUInt64 = merge.prNumber
    rw [hpr]
    exact toUInt64_saturate.2 hnumber

/-- What was persisted is found. -/
theorem payoutExists_of_persistPayout
    (h : tryAlone source w (persistPayout program merge address amount txHash) = (.ok id, w')) :
    tryAlone source w' (payoutExists program merge.prNumber) = (.ok true, w') := by
  obtain ⟨-, row, hadds, -, hprogram, hpr, -⟩ := persistPayout_ok h
  have hfound : w'.db.payout? program (saturate merge.prNumber) ≠ none :=
    (w'.db.payout?_ne_none).2 ⟨row, hadds.mem_payouts.2 (Or.inr rfl), hprogram, hpr⟩
  rw [run_payoutExists, Option.isSome_iff_ne_none.2 hfound]

/-- The gateway takes a PR for paid: the lookup finds a payout, or `process_merge` answers
`already_processed`. -/
def TakenForPaid (source : UuidSource) (w : World) (program : Uuid) (number : UInt64) : Prop :=
  tryAlone source w (payoutExists program number) = (.ok true, w) ∨
    ∃ config event payload deliveryId existing w',
      tryAlone source w (processMerge config event payload deliveryId) =
        (.ok (alreadyProcessed program number existing), w')

theorem takenForPaid_iff :
    TakenForPaid source w program number ↔ w.db.payout? program (saturate number) ≠ none := by
  constructor
  · rintro (hexists | ⟨config, event, payload, deliveryId, existing, w', hanswer⟩)
    · rw [run_payoutExists] at hexists
      injection hexists with hfound
      injection hfound with hfound
      exact Option.isSome_iff_ne_none.1 hfound
    · exact found_of_alreadyProcessed hanswer
  · intro hfound
    apply Or.inl
    rw [run_payoutExists, Option.isSome_iff_ne_none.2 hfound]

/-- A PR that is taken for paid was paid, when its number fits the column or no payout has the
greatest number. -/
theorem paid_iff (hempty : w₀.db.payouts.rows = []) (hrun : Run (PayoutStep source) w₀ h w) :
    (TakenForPaid source w program number → ∃ e ∈ h, e.label = some (program, number)) ↔
      number.toNat < 2 ^ 63 ∨ ¬ HasMaxPayout w.db program := by
  rw [takenForPaid_iff, Db.payout?_ne_none]
  constructor
  · intro hpaid
    by_contra hno
    push Not at hno
    obtain ⟨hnumber, row, hrow, hprogram, hmax⟩ := hno
    rw [saturate_of_ge hnumber] at hpaid
    obtain ⟨e, he, hlabel⟩ := hpaid ⟨row, hrow, hprogram, hmax⟩
    have hlt := number_of_run hrun he hlabel
    omega
  · rintro hwhen ⟨row, hrow, rfl, hpr⟩
    obtain ⟨e, he, paid, hlabel, hcolumn⟩ := persisted_of_run hempty hrun row hrow
    have hpaid := number_of_run hrun he hlabel
    rcases Nat.lt_or_ge number.toNat (2 ^ 63) with hnumber | hnumber
    · obtain rfl := saturate_injective hnumber hpaid (hpr.symm.trans hcolumn)
      exact ⟨e, he, hlabel⟩
    · rw [saturate_of_ge hnumber] at hpr
      rcases hwhen with hlt | hnone
      · omega
      · exact absurd ⟨row, hrow, rfl, hpr⟩ hnone

/-- **Where payouts and lookups agree.** In any world a payout is recorded as it was persisted
exactly when its points are below `2 ^ 31`, and is found by its number. In a history that begins
without payouts, what is taken for paid was persisted, for exactly those numbers that are below
`2 ^ 63` or look up a number that no payout has. -/
theorem payouts_agree (hempty : w₀.db.payouts.rows = [])
    (hrun : Run (PayoutStep source) w₀ h w) :
    (∀ before program merge address amount txHash id w',
      tryAlone source before (persistPayout program merge address amount txHash) = (.ok id, w') →
        (ShowsPayout w'.db id merge amount ↔ merge.points.toNat < 2 ^ 31) ∧
          tryAlone source w' (payoutExists program merge.prNumber) = (.ok true, w')) ∧
    ∀ program number,
      (TakenForPaid source w program number → ∃ e ∈ h, e.label = some (program, number)) ↔
        number.toNat < 2 ^ 63 ∨ ¬ HasMaxPayout w.db program :=
  ⟨fun _ _ _ _ _ _ _ _ hpersist =>
    ⟨showsPayout_iff hpersist, payoutExists_of_persistPayout hpersist⟩,
    fun _ _ => paid_iff hempty hrun⟩

/-- The history of one payout. -/
theorem payouts_agree_setup :
    let r := tryAlone Setup.uuids Setup.world (persistPayout Setup.program.1
      ⟨"StellarRoute/WaveFlow", "alice", 42, 1⟩ Setup.account 100 "dry-run-1-42")
    (∀ before program merge address amount txHash id w',
      tryAlone Setup.uuids before (persistPayout program merge address amount txHash) =
          (.ok id, w') →
        (ShowsPayout w'.db id merge amount ↔ merge.points.toNat < 2 ^ 31) ∧
          tryAlone Setup.uuids w' (payoutExists program merge.prNumber) = (.ok true, w')) ∧
    ∀ program number,
      (TakenForPaid Setup.uuids r.2 program number →
        ∃ e ∈ [Entry.mk Setup.world (some (Setup.program.1, 42)) r.2],
          e.label = some (program, number)) ↔
        number.toNat < 2 ^ 63 ∨ ¬ HasMaxPayout r.2.db program := by
  intro r
  have hsome : r.1.toOption.isSome := by decide +kernel
  cases hresult : r.1 with
  | error err =>
    rw [hresult] at hsome
    cases hsome
  | ok id =>
    exact payouts_agree (by decide +kernel) (.snoc .nil (.persisted (Prod.ext hresult rfl)))

/-- A payout of `2 ^ 31` points is shown as one of 1 point, and after a payout of PR `2 ^ 63 - 1`
the PR `2 ^ 63` is answered `already_processed`. -/
theorem payouts_disagree :
    let big := tryAlone Setup.uuids Setup.world (persistPayout Setup.program.1
      ⟨"StellarRoute/WaveFlow", "alice", 42, 2147483648⟩ Setup.account 100 "dry-run-1-42")
    let last := tryAlone Setup.uuids Setup.world (persistPayout Setup.program.1
      ⟨"StellarRoute/WaveFlow", "alice", 9223372036854775807, 1⟩ Setup.account 100 "dry-run-1")
    big.1.toOption.isSome ∧
      big.2.db.payouts.rows.map (fun row => row.intoRecord.points) = [1] ∧
      last.2.db.payouts.rows.map (fun row => row.intoRecord.prNumber) = [9223372036854775807] ∧
      (tryAlone Setup.uuids last.2 (payoutExists Setup.program.1 9223372036854775808)).1.toOption =
        some true ∧
      ((tryAlone Setup.uuids last.2 (processMerge Setup.config
          { Setup.event with number := 9223372036854775808 } Setup.payload none)).1.toOption.bind
        (Json.textAt "status")) = some "already_processed" := by
  refine ⟨by decide +kernel, by decide +kernel, by decide +kernel, by decide +kernel, ?_⟩
  decide +kernel

end Payouts

end WaveFlow
