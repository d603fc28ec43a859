import Mathlib.Algebra.Order.BigOperators.Group.Finset
import WaveFlow.Gateway.Bookkeeping
import WaveFlow.Gateway.MergeAlone
import WaveFlow.Library.Balance
import WaveFlow.Postgres.Programs

/-!
# Is the milestone the sum of the payouts?

Between recording a payout and raising the milestone a handler leaves its program in arrears. The
arrears of a program are what the handlers owe it, so when no handler is between two of its steps they
are what failed raises have left behind: nothing, exactly when every raise fits the balances.
-/

namespace WaveFlow

open Interaction Postgres Transition

variable {ι : Type} [DecidableEq ι] {C : Crates} {config : AppConfig} {calls : ι → Call}
  {source : UuidSource} {db db' : Db} {w w' : World} {s s' : Service ι} {i : ι} {m : Account}
  {h : List (Entry (Service ι) (Event ι Op Op.Ans))}

/-- What the payouts of a program sum to. -/
def paidFor (db : Db) (id : Uuid) : ℤ :=
  ((db.payouts.rows.filter fun r => r.programId = id).map fun r => r.amount.toInt).sum

/-- The milestone of every program is the sum of its payouts. -/
def SpentIsPaid (db : Db) : Prop :=
  ∀ p ∈ db.programs, p.milestoneSpent.toInt = paidFor db p.id

/-- No handler is between two of its steps. -/
def Quiescent (h : List (Entry (Service ι) (Event ι Op Op.Ans))) (s : Service ι) : Prop :=
  ∀ i, (∀ e ∈ h, e.label.thread ≠ i) ∨ ∃ r, s.prog i = .ret r

/-- When a milestone is raised, the new balances fit their columns. -/
def RaiseFits (s : Service ι) (e : Event ι Op Op.Ans) : Prop :=
  ∀ amount id p, e.op = .sql (.updateMilestoneSpent amount id) →
    s.world.db.program? id = some p → BalancesFit p amount

/-! ### Arrears -/

/-- The milestone of a program, if there is one. -/
def spentOf (db : Db) (id : Uuid) : ℤ := (db.program? id).elim 0 fun p => p.milestoneSpent.toInt

/-- What was paid for a program and is not in its milestone. -/
def arrears (db : Db) (id : Uuid) : ℤ := paidFor db id - spentOf db id

/-- A program that is not there has no payouts. -/
theorem paidFor_eq_zero {id : Uuid} (hp : db.program? id = none) : paidFor db id = 0 := by
  have hnone : db.payouts.rows.filter (fun r => r.programId = id) = [] := by
    rw [List.filter_eq_nil_iff]
    intro r hr hid
    obtain ⟨p, hmem, hpid⟩ := db.payouts_fkey r hr
    have hsome : db.program? id = some p :=
      db.program?_eq_some.2 ⟨hmem, hpid.trans (by simpa using hid)⟩
    rw [hp] at hsome
    cases hsome
  rw [paidFor, hnone]
  rfl

theorem spentIsPaid_iff : SpentIsPaid db ↔ ∀ id, arrears db id = 0 := by
  constructor
  · intro hpaid id
    unfold arrears spentOf
    cases hp : db.program? id with
    | none =>
      rw [paidFor_eq_zero hp]
      rfl
    | some p =>
      obtain ⟨hmem, rfl⟩ := db.program?_eq_some.1 hp
      rw [Option.elim_some, hpaid p hmem, sub_self]
  · intro hzero p hp
    have hid := hzero p.id
    rw [arrears, spentOf, db.program?_eq_some.2 ⟨hp, rfl⟩, Option.elim_some] at hid
    omega

theorem paidFor_of_payouts (hpayouts : db'.payouts = db.payouts) (id : Uuid) :
    paidFor db' id = paidFor db id := by
  rw [paidFor, hpayouts]
  rfl

/-- What a statement does to the milestone of a program. -/
theorem spentOf_exec {q : Stmt} {r : q.Result} (hexec : q.exec source db = .ok (r, db')) (id : Uuid)
    (hthere : q.raise id ≠ 0 → ∃ p, db.program? id = some p) :
    spentOf db' id = spentOf db id + q.raise id := by
  have hchanges := Stmt.changes hexec id
  unfold spentOf
  cases hp : db.program? id with
  | some p =>
    rw [hp] at hchanges
    obtain ⟨p', hp', hspent⟩ := hchanges.spent
    rw [hp']
    exact hspent
  | none =>
    rw [hp] at hchanges hthere
    have hraise : q.raise id = 0 := by
      by_contra hne
      obtain ⟨p, hsome⟩ := hthere hne
      cases hsome
    rw [hraise]
    cases hp' : db'.program? id with
    | none => rfl
    | some p' =>
      rw [hp'] at hchanges
      rw [Option.elim_some, hchanges.unspent]
      rfl

/-- A bystander changes no arrears. -/
theorem arrears_bystand {op : Op} (hop : op.Bystands) {ans : op.Ans}
    (hexec : op.Exact source w ans w') (id : Uuid) : arrears w'.db id = arrears w.db id := by
  cases op with
  | attest r =>
    cases hexec
    rfl
  | count c =>
    cases hexec
    rfl
  | sql q =>
    cases ans with
    | error e =>
      obtain ⟨-, rfl⟩ := hexec.sql_error
      rfl
    | ok r =>
      obtain ⟨db, hok, rfl⟩ := hexec.sql_ok
      have hpays : ¬ q.Pays := by
        intro hpays
        cases q <;> first | exact hop | exact hpays
      have hraise : q.raise id = 0 := by
        cases q <;> first | exact False.elim hop | rfl
      have hspent := spentOf_exec hok id fun hne => absurd hraise hne
      rw [hraise, add_zero] at hspent
      rw [arrears, arrears, paidFor_of_payouts (Stmt.payouts_kept hpays hok), hspent]

/-- Recording a payout leaves its amount in arrears. -/
theorem arrears_pay {row : PayoutRow} (hadds : db.AddsPayout db' row) (id : Uuid) :
    arrears db' id = arrears db id + if row.programId = id then row.amount.toInt else 0 := by
  have hspent : spentOf db' id = spentOf db id := by
    rw [spentOf, Db.program?_of_programs hadds.programs]
    rfl
  have hpaid : paidFor db' id =
      paidFor db id + if row.programId = id then row.amount.toInt else 0 := by
    unfold paidFor
    rw [hadds.payouts, List.filter_append, List.map_append, List.sum_append]
    by_cases hid : row.programId = id
    · simp [hid]
    · simp [hid]
  rw [arrears, arrears, hspent, hpaid]
  omega

/-- Raising the milestone takes it off again. -/
theorem arrears_raise {amount : Int64} {program : Uuid} {n : ℕ} {p : ProgramRow}
    (hp : db.program? program = some p)
    (hexec : (Stmt.updateMilestoneSpent amount program).exec source db = .ok (n, db')) (id : Uuid) :
    arrears db' id = arrears db id - if program = id then amount.toInt else 0 := by
  have hspent := spentOf_exec hexec id fun hne => by
    by_cases hid : id = program
    · subst hid
      exact ⟨p, hp⟩
    · exact absurd (Stmt.raise_other amount hid) hne
  have hpays : ¬ (Stmt.updateMilestoneSpent amount program).Pays := fun hpays => hpays
  have hpaid := paidFor_of_payouts (Stmt.payouts_kept hpays hexec) id
  rw [arrears, arrears, hspent, hpaid, Stmt.raise]
  omega

/-! ### What the handlers owe -/

/-- What the account of thread `i` says of the history and of the world. -/
structure Accounted (i : ι) (m : Account) (h : List (Entry (Service ι) (Event ι Op Op.Ans)))
    (w : World) : Prop where
  owed : ∀ id amount, m = .owes id amount → 0 < amount ∧ ∃ p, w.db.program? id = some p
  debt : ∀ id, threadSum Event.thread (Entry.change fun s => arrears s.world.db id) i h = m.debt id
  overdrawn : ∀ id amount, m = .overdrawn id amount →
    0 < amount ∧ ∃ e ∈ h, ¬ RaiseFits e.pre e.label
  fits : (∀ id amount, m ≠ .overdrawn id amount) →
    ∀ e ∈ h, e.label.thread = i → RaiseFits e.pre e.label

theorem debt_snoc_self (e : Event ι Op Op.Ans) (id : Uuid) :
    threadSum Event.thread (Entry.change fun s => arrears s.world.db id) e.thread
        (h ++ [⟨s, e, s'⟩]) =
      threadSum Event.thread (Entry.change fun s => arrears s.world.db id) e.thread h +
        (arrears s'.world.db id - arrears s.world.db id) := by
  rw [threadSum_snoc, if_pos rfl]
  rfl

theorem Accounted.other (hacc : Accounted i m h s.world) {e : Event ι Op Op.Ans}
    (hgrows : s.world.db.Grows s'.world.db) (hne : e.thread ≠ i) :
    Accounted i m (h ++ [⟨s, e, s'⟩]) s'.world where
  owed id amount hm := by
    obtain ⟨hpos, p, hp⟩ := hacc.owed id amount hm
    exact ⟨hpos, hgrows.program? hp⟩
  debt id := by
    rw [threadSum_snoc, if_neg hne, add_zero]
    exact hacc.debt id
  overdrawn id amount hm := by
    obtain ⟨hpos, e', he', hfails⟩ := hacc.overdrawn id amount hm
    exact ⟨hpos, e', List.mem_append_left _ he', hfails⟩
  fits hm e' he' hthread := by
    rcases List.mem_append.1 he' with hold | hnew
    · exact hacc.fits hm e' hold hthread
    · rw [List.mem_singleton.1 hnew] at hthread
      exact absurd hthread hne

omit [DecidableEq ι] in
/-- A step that raises no milestone fits. -/
theorem raiseFits_of_ne {e : Event ι Op Op.Ans}
    (hop : ∀ amount id, e.op ≠ .sql (.updateMilestoneSpent amount id)) : RaiseFits s e :=
  fun amount id _ hraise => absurd hraise (hop amount id)

section Own

variable {e : Event ι Op Op.Ans} (hacc : Accounted e.thread m h s.world)

include hacc

/-- A step of its own that leaves the handler neither overdrawn before nor after. -/
theorem Accounted.own {m' : Account} (hm : ∀ id amount, m ≠ .overdrawn id amount)
    (hfits : RaiseFits s e) (hm' : ∀ id amount, m' ≠ .overdrawn id amount)
    (howed : ∀ id amount, m' = .owes id amount → 0 < amount ∧ ∃ p, s'.world.db.program? id = some p)
    (hdebt : ∀ id, arrears s'.world.db id - arrears s.world.db id = m'.debt id - m.debt id) :
    Accounted e.thread m' (h ++ [⟨s, e, s'⟩]) s'.world where
  owed := howed
  debt id := by
    rw [debt_snoc_self, hacc.debt, hdebt]
    omega
  overdrawn id amount hover := absurd hover (hm' id amount)
  fits _ e' he' hthread := by
    rcases List.mem_append.1 he' with hold | hnew
    · exact hacc.fits hm e' hold hthread
    · rw [List.mem_singleton.1 hnew]
      exact hfits

theorem Accounted.bystand (hop : e.op.Bystands)
    (hexec : e.op.Exact source s.world e.ans s'.world) :
    Accounted e.thread m (h ++ [⟨s, e, s'⟩]) s'.world where
  owed id amount howes := by
    obtain ⟨hpos, p, hp⟩ := hacc.owed id amount howes
    exact ⟨hpos, hexec.grows.program? hp⟩
  debt id := by
    rw [debt_snoc_self, hacc.debt, arrears_bystand hop hexec, sub_self, add_zero]
  overdrawn id amount hover := by
    obtain ⟨hpos, e', he', hfails⟩ := hacc.overdrawn id amount hover
    exact ⟨hpos, e', List.mem_append_left _ he', hfails⟩
  fits hm e' he' hthread := by
    rcases List.mem_append.1 he' with hold | hnew
    · exact hacc.fits hm e' hold hthread
    · rw [List.mem_singleton.1 hnew]
      apply raiseFits_of_ne
      intro amount id hraise
      rw [hraise] at hop
      exact hop

end Own

/-- Recording a payout puts its amount on the account. -/
theorem Accounted.pay {id : Uuid} {pr : Int64} {username address : String} {points : Int32}
    {amount : Int64} {txHash : String} {ans : Except DbError Uuid}
    (hacc : Accounted i .settled h s.world)
    (hexec : (Op.sql (.insertPayout id pr username address points amount txHash)).Exact source
      s.world ans s'.world) :
    Accounted i (Account.settled.next
        (.sql (.insertPayout id pr username address points amount txHash)) ans)
      (h ++ [⟨s, ⟨i, .sql (.insertPayout id pr username address points amount txHash), ans⟩, s'⟩])
      s'.world := by
  have hfits : RaiseFits s (⟨i, .sql (.insertPayout id pr username address points amount txHash),
      ans⟩ : Event ι Op Op.Ans) := raiseFits_of_ne fun _ _ hne => by cases hne
  cases ans with
  | error err =>
    obtain ⟨-, hworld⟩ := hexec.sql_error
    apply hacc.own (by simp) hfits (by simp [Account.next]) (by simp [Account.next])
    intro id'
    rw [hworld, sub_self]
    rfl
  | ok pid =>
    obtain ⟨db', hok, hworld⟩ := hexec.sql_ok
    obtain ⟨row, hadds, -, rfl, -, -, -, -, rfl, -⟩ := Db.insertPayout_ok hok
    refine hacc.own (by simp) hfits (by simp [Account.next]) ?_ fun id' => ?_
    · rintro _ _ ⟨⟩
      have hrow : row ∈ db'.payouts := hadds.mem_payouts.2 (.inr rfl)
      obtain ⟨p, hp, hid⟩ := db'.payouts_fkey row hrow
      rw [hworld]
      exact ⟨row.amount_pos, p, db'.program?_eq_some.2 ⟨hp, hid⟩⟩
    · rw [hworld, arrears_pay hadds]
      show _ = (if row.programId = id' then row.amount.toInt else 0) - 0
      omega

omit [DecidableEq ι] in
/-- A raise goes through exactly when it fits. -/
theorem raise_ok_iff {id : Uuid} {amount : Int64} {p : ProgramRow} {ans : Except DbError ℕ}
    (hpos : 0 < amount) (hp : s.world.db.program? id = some p)
    (hexec : (Op.sql (.updateMilestoneSpent amount id)).Exact source s.world ans w') :
    (∃ n, ans = .ok n) ↔ RaiseFits s ⟨i, .sql (.updateMilestoneSpent amount id), ans⟩ := by
  constructor
  · rintro ⟨n, rfl⟩
    obtain ⟨db', hok, -⟩ := hexec.sql_ok
    rintro _ _ p' ⟨⟩ hp'
    by_contra hno
    simp only [Stmt.exec, updateMilestoneSpent_big hp' hno] at hok
    cases hok
  · intro hfits
    obtain ⟨spent, escrow, -, hok⟩ := updateMilestoneSpent_fits hpos hp (hfits amount id p rfl hp)
    cases ans with
    | ok n => exact ⟨n, rfl⟩
    | error err =>
      obtain ⟨herror, -⟩ := hexec.sql_error
      simp only [Stmt.exec, hok] at herror
      cases herror

/-- Raising the milestone takes it off, unless the raise does not fit. -/
theorem Accounted.raise {id : Uuid} {amount : Int64} {ans : Except DbError ℕ}
    (hacc : Accounted i (.owes id amount) h s.world)
    (hexec : (Op.sql (.updateMilestoneSpent amount id)).Exact source s.world ans s'.world) :
    Accounted i ((Account.owes id amount).next (.sql (.updateMilestoneSpent amount id)) ans)
      (h ++ [⟨s, ⟨i, .sql (.updateMilestoneSpent amount id), ans⟩, s'⟩]) s'.world := by
  obtain ⟨hpos, p, hp⟩ := hacc.owed id amount rfl
  have hiff := raise_ok_iff (i := i) hpos hp hexec
  cases ans with
  | ok n =>
    obtain ⟨db', hok, hworld⟩ := hexec.sql_ok
    refine hacc.own (by simp) (hiff.1 ⟨n, rfl⟩) (by simp [Account.next]) (by simp [Account.next])
      fun id' => ?_
    rw [hworld, arrears_raise hp hok]
    show _ = 0 - (if id = id' then amount.toInt else 0)
    omega
  | error err =>
    obtain ⟨-, hworld⟩ := hexec.sql_error
    have hfails := mt hiff.2 (by simp)
    -- The payout stands and the milestone is not raised: the debt stays.
    exact
      { owed := by simp [Account.next]
        debt := fun id' => by
          rw [threadSum_snoc, if_pos rfl, hacc.debt, Entry.change, hworld, sub_self, add_zero]
          rfl
        overdrawn := fun id' amount' hover => by
          cases hover
          exact ⟨hpos, _, List.mem_concat_self, hfails⟩
        fits := fun hm => absurd rfl (hm id amount) }

/-- **A handler's own step keeps its account.** -/
theorem Accounted.step {e : Event ι Op Op.Ans} (hs : Service.Step C config calls s e s')
    (hbooks : Books m e.op) (hacc : Accounted e.thread m h s.world) :
    Accounted e.thread (m.next e.op e.ans) (h ++ [⟨s, e, s'⟩]) s'.world := by
  obtain ⟨i, op, ans⟩ := e
  have hexec : op.Exact C.uuids s.world ans s'.world := hs.answered
  cases hbooks with
  | bystand hm hop =>
    rw [Account.next_bystand m hop]
    exact hacc.bystand hop hexec
  | pay => exact hacc.pay hexec
  | raise => exact hacc.raise hexec

theorem accounted_of_run
    (hrun : Run (Service.Step C config calls) (Service.start C config calls w) h s) (i : ι) :
    Accounted i (Pool.watch bookkeeping .settled i h) h s.world := by
  refine Pool.watched_of_run (J := fun i m h w => Accounted i m h w) (R := fun _ => bookkeeping)
    hrun (fun i => (calls i).settles C config) ?_ ?_ ?_ i
  · intro i
    exact ⟨by simp, fun _ => rfl, by simp, by simp⟩
  · intro h s e s' _ hs hbooks hacc
    exact hacc.step hs hbooks
  · intro i h s e s' _ hs hne hacc
    have hexec : e.op.Exact C.uuids s.world e.ans s'.world := hs.answered
    exact hacc.other hexec.grows hne

/-- In a run, a raise goes through exactly when it fits. -/
theorem raise_ok_of_run {id : Uuid} {amount : Int64} {ans : Except DbError ℕ}
    (hrun : Run (Service.Step C config calls) (Service.start C config calls w) h s)
    (hs : Service.Step C config calls s ⟨i, .sql (.updateMilestoneSpent amount id), ans⟩ s') :
    (∃ n, ans = .ok n) ↔ RaiseFits s ⟨i, .sql (.updateMilestoneSpent amount id), ans⟩ := by
  have hbooks := Pool.allowed_of_watch (R := fun _ => bookkeeping) (n := fun _ => .settled) hrun
    (fun i => (calls i).settles C config) hs
  have hacc := accounted_of_run hrun i
  generalize Pool.watch bookkeeping .settled i h = m at hbooks hacc
  cases hbooks with
  | bystand hm hop => exact False.elim hop
  | raise =>
    obtain ⟨hpos, p, hp⟩ := hacc.owed id amount rfl
    exact raise_ok_iff hpos hp hs.answered

/-! ### When no handler is between two of its steps -/

theorem Accounted.debt_nonneg (hacc : Accounted i m h w) (hm : m.Idle) (id : Uuid) :
    0 ≤ m.debt id := by
  cases m with
  | settled => exact le_rfl
  | owes => exact absurd hm (fun hno => hno)
  | overdrawn p amount =>
    have hpos := Int64.lt_iff_toInt_lt.1 (hacc.overdrawn p amount rfl).1
    simp only [Account.debt]
    split_ifs
    · exact hpos.le
    · exact le_rfl

/-- A handler that owes nothing has raised every milestone it was to raise. -/
theorem Accounted.fits_of_debt (hacc : Accounted i m h w) (hdebt : ∀ id, m.debt id = 0) :
    ∀ e ∈ h, e.label.thread = i → RaiseFits e.pre e.label := by
  apply hacc.fits
  rintro p amount rfl
  have hpos := Int64.lt_iff_toInt_lt.1 (hacc.overdrawn p amount rfl).1
  have hzero := hdebt p
  rw [Account.debt, if_pos rfl] at hzero
  rw [hzero] at hpos
  exact absurd hpos (lt_irrefl _)

/-- A protocol that every handler follows sees them all at their ends. -/
theorem ended_of_quiescent {N : Type} {R : ι → Protocol Op Op.Ans N} {n : N} {K : N → Prop}
    (hrun : Run (Service.Step C config calls) (Service.start C config calls w) h s)
    (hquiet : Quiescent h s) (hn : K n)
    (hfollow : ∀ i, Follows (R i) n ((calls i).handler C config) fun m _ => K m) (i : ι) :
    K (Pool.watch (R i) n i h) := by
  rcases hquiet i with hunmoved | ⟨r, hr⟩
  · rw [Pool.watch_of_unmoved _ _ hunmoved]
    exact hn
  · have hfollows := Pool.follows_watch (R := R) hrun hfollow i
    rw [hr] at hfollows
    exact hfollows

theorem idle_of_quiescent
    (hrun : Run (Service.Step C config calls) (Service.start C config calls w) h s)
    (hquiet : Quiescent h s) (i : ι) : (Pool.watch bookkeeping .settled i h).Idle :=
  ended_of_quiescent (R := fun _ => bookkeeping) hrun hquiet Account.idle_settled
    (fun i => (calls i).settles C config) i

/-- **When the milestone is the sum of the payouts**, in every state of every run in which no handler
is between two of its steps: exactly when every raise fitted the balances it found. -/
theorem spent_is_paid (hw : SpentIsPaid w.db)
    (hrun : Run (Service.Step C config calls) (Service.start C config calls w) h s)
    (hquiet : Quiescent h s) :
    SpentIsPaid s.world.db ↔ ∀ e ∈ h, RaiseFits e.pre e.label := by
  have hacc := accounted_of_run hrun
  have hidle := idle_of_quiescent hrun hquiet
  -- What is in arrears is what the handlers owe, as the arrears change in steps of theirs only.
  have hsum : ∀ id, arrears s.world.db id =
      ∑ i ∈ threads Event.thread h, (Pool.watch bookkeeping .settled i h).debt id := by
    intro id
    have hstart : arrears w.db id = 0 := spentIsPaid_iff.1 hw id
    rw [hrun.sum_threads Event.thread fun s => arrears s.world.db id]
    simp only [(hacc _).debt]
    show arrears w.db id + _ = _
    rw [hstart, zero_add]
  rw [spentIsPaid_iff]
  constructor
  · intro hzero e he
    refine (hacc e.label.thread).fits_of_debt (fun id => ?_) e he rfl
    -- No debt is negative, so none is left when they sum to zero.
    have hall := hsum id
    rw [hzero id, eq_comm, Finset.sum_eq_zero_iff_of_nonneg
      fun i _ => (hacc i).debt_nonneg (hidle i) id] at hall
    exact hall _ (mem_threads.2 ⟨e, he, rfl⟩)
  · intro hfits id
    rw [hsum]
    apply Finset.sum_eq_zero
    intro i _
    have hi := hidle i
    have hover := (hacc i).overdrawn
    generalize Pool.watch bookkeeping .settled i h = m at hi hover
    cases m with
    | settled => rfl
    | owes => exact absurd hi (fun hno => hno)
    | overdrawn p amount =>
      obtain ⟨-, e, he, hfails⟩ := hover p amount rfl
      exact absurd (hfits e he) hfails

/-! ### Two runs -/

instance (db : Db) : Decidable (SpentIsPaid db) :=
  inferInstanceAs (Decidable (∀ p ∈ db.programs.rows, p.milestoneSpent.toInt = paidFor db p.id))

/-- Every handler has ended. -/
def Service.Ended (s : Service ι) : Prop := ∀ i, (s.prog i).value?.isSome

instance [Fintype ι] (s : Service ι) : Decidable s.Ended :=
  inferInstanceAs (Decidable (∀ i, (s.prog i).value?.isSome))

omit [DecidableEq ι] in
theorem quiescent_of_ended (h : List (Entry (Service ι) (Event ι Op Op.Ans))) (hended : s.Ended) :
    Quiescent h s := by
  intro i
  obtain ⟨r, hr⟩ := Option.isSome_iff_exists.1 (hended i)
  exact .inr ⟨r, Prog.value?_eq_some.1 hr⟩

namespace Setup

/-- The merge of pull request 43. -/
def laterBody : List UInt8 := body.map fun b => if b = 0x32 then 0x33 else b

def laterPayload : Json := .obj
  [ ("action", .str "closed"), ("number", .num (.posInt 43)),
    ("pull_request", .obj
      [ ("base", .obj [("ref", .str "main")]), ("merged", .bool true),
        ("user", .obj [("login", .str "alice")]) ]),
    ("repository", .obj
      [("default_branch", .str "main"), ("full_name", .str "StellarRoute/WaveFlow")]) ]

/-- The HMAC-SHA256 of `laterBody` under `secret`. -/
def laterDigest : Vector UInt8 32 :=
  #v[0xa7, 0xf0, 0xe5, 0xd4, 0x5f, 0x7f, 0xe8, 0xbe, 0x63, 0xe7, 0xe5, 0xa6, 0x1f, 0xed, 0x99, 0x59,
    0x0a, 0x1c, 0xf0, 0xb0, 0xbe, 0x9d, 0x13, 0x8d, 0x63, 0x9f, 0x21, 0xf2, 0xf1, 0x78, 0xfb, 0x2f]

def laterCrates : Crates where
  uuids := uuids
  hmacSha256 key message :=
    if key = secret.toUTF8.data.toList ∧ message = laterBody then laterDigest
    else crates.hmacSha256 key message
  fromSlice bytes := if bytes = laterBody then .ok laterPayload else crates.fromSlice bytes
  fromValueError := crates.fromValueError

def laterSignature : String :=
  "sha256=a7f0e5d45f7fe8be63e7e5a61fed99590a1cf0b0be9d138d639f21f2f178fb2f"

/-- A program with the highest reward is created, its author registered, and two merges are
delivered. -/
def dearMerges : Fin 4 → Call
  | 0 => .admin (.createProgram ⟨1, "StellarRoute/WaveFlow", account, Int64.maxValue, none⟩)
  | 1 => .admin (.registerContributor ⟨program.1, "alice", account⟩)
  | 2 => .webhook (deliver signature none)
  | 3 => .webhook { deliver laterSignature none with body := laterBody }

end Setup

/-- A merge is delivered and paid. -/
theorem spent_is_paid_setup :
    let calls : Fin 1 → Call := fun _ => .webhook (Setup.deliver Setup.signature none)
    let play := Service.play Setup.crates Setup.config calls Setup.world (List.replicate 16 0)
    SpentIsPaid play.2.world.db ↔ ∀ e ∈ play.1, RaiseFits e.pre e.label := by
  intro calls play
  exact spent_is_paid (by decide +kernel) (Service.run_play _ _ calls _ _)
    (quiescent_of_ended _ (by decide +kernel))

/-- The second of two merges at the highest reward is paid, and the milestone stays behind. -/
theorem milestone_left_behind :
    let w : World := ⟨.empty Setup.server, [], fun _ => 0⟩
    let play := Service.play Setup.laterCrates Setup.config Setup.dearMerges w
      (List.replicate 4 0 ++ List.replicate 4 1 ++ List.replicate 16 2 ++ List.replicate 16 3)
    SpentIsPaid w.db ∧
      Run (Service.Step Setup.laterCrates Setup.config Setup.dearMerges)
        (Service.start Setup.laterCrates Setup.config Setup.dearMerges w) play.1 play.2 ∧
      Quiescent play.1 play.2 ∧ play.2.world.db.payouts.rows.length = 2 ∧
      ¬ SpentIsPaid play.2.world.db := by
  intro w play
  have hend : play.2.Ended ∧ play.2.world.db.payouts.rows.length = 2 ∧
      ¬ SpentIsPaid play.2.world.db := by
    decide +kernel
  obtain ⟨hended, hlength, hbehind⟩ := hend
  exact ⟨by decide +kernel, Service.run_play _ _ Setup.dearMerges _ _,
    quiescent_of_ended _ hended, hlength, hbehind⟩

end WaveFlow
