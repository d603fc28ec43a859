import Mathlib.Algebra.BigOperators.Ring.Finset
import Mathlib.Data.Set.Card
import WaveFlow.Gateway.OneClaim
import WaveFlow.Gateway.Replay
import WaveFlow.Gateway.Spending
import WaveFlow.Gateway.Tally

/-!
# Does the payout counter count payouts?

It is stepped where the result of `process_merge` is answered, not where the payout is recorded. A
merge that was paid before is counted again, and a payout is not counted when one of the two writes
after it fails; the audit row always fails for a request with a delivery id, whose row is taken.
When no handler is between two of its steps, the counter agrees with the table exactly when these
two kinds of handlers are equally many.
-/

namespace WaveFlow

open Interaction Postgres Transition

variable {ι : Type} [DecidableEq ι] {C : Crates} {config : AppConfig} {calls : ι → Call}
  {source : UuidSource} {w w' : World} {s s' : Service ι} {i : ι} {m : Tally}
  {h : List (Entry (Service ι) (Event ι Op Op.Ans))}

/-- The counter has grown by the number of payouts that were recorded. -/
def PayoutsCounted (w w' : World) : Prop :=
  w'.counters .payoutSuccess + w.db.payouts.rows.length =
    w.counters .payoutSuccess + w'.db.payouts.rows.length

/-- The step looks for a payout that is there. -/
def FindsPayout (s : Service ι) (e : Event ι Op Op.Ans) : Prop :=
  ∃ id pr, e.op = .sql (.selectPayoutId id pr) ∧ s.world.db.payout? id pr ≠ none

/-- The step records the payout of a pull request that has none. -/
def RecordsPayout (s : Service ι) (e : Event ι Op Op.Ans) : Prop :=
  ∃ id pr username address points amount txHash,
    e.op = .sql (.insertPayout id pr username address points amount txHash) ∧
      s.world.db.payout? id pr = none

/-- The request has no delivery id, and a payload that can be stored. -/
def Call.Auditable (C : Crates) : Call → Prop
  | .webhook req =>
      req.deliveryId = none ∧ ∀ payload, C.fromSlice req.body = .ok payload → payload.storable
  | .admin _ => True

/-- A handler that recorded a payout, and cannot write the audit row or raise the milestone. -/
def Misses (C : Crates) (calls : ι → Call) (h : List (Entry (Service ι) (Event ι Op Op.Ans)))
    (i : ι) : Prop :=
  Pool.Did RecordsPayout h i ∧
    (¬ (calls i).Auditable C ∨ Pool.Did (fun s e => ¬ RaiseFits s e) h i)

/-- A step after which the counter can agree with the table: it finds no payout, records one only
for a request that can be audited, and raises the milestone within its range. -/
structure Countable (C : Crates) (calls : ι → Call) (s : Service ι) (e : Event ι Op Op.Ans) :
    Prop where
  unpaid : ¬ FindsPayout s e
  auditable : RecordsPayout s e → (calls e.thread).Auditable C
  fits : RaiseFits s e

/-! ### The counter and the table -/

/-- What the counter is ahead of the table. -/
def surplus (w : World) : ℤ := w.counters .payoutSuccess - w.db.payouts.rows.length

theorem payoutsCounted_iff : PayoutsCounted w w' ↔ surplus w' = surplus w := by
  unfold PayoutsCounted surplus
  omega

theorem gain_error (q : Stmt) (e : DbError) : Op.gain (.sql q) (.error e) = 0 := by
  cases q <;> rfl

/-- What an operation does to the surplus. -/
theorem surplus_exec {op : Op} {ans : op.Ans} (hexec : op.Exact source w ans w') :
    surplus w' = surplus w + op.gain ans := by
  cases op with
  | attest r =>
    cases hexec
    exact (add_zero _).symm
  | count c =>
    cases hexec
    cases c with
    | payoutSuccess =>
      simp only [surplus, World.bump, Function.update_self, Op.gain]
      omega
    | _ => simp [surplus, World.bump, Op.gain]
  | sql q =>
    cases ans with
    | error e =>
      obtain ⟨-, rfl⟩ := hexec.sql_error
      rw [gain_error, add_zero]
    | ok r =>
      obtain ⟨db, hok, rfl⟩ := hexec.sql_ok
      by_cases hpays : q.Pays
      · cases q with
        | insertPayout =>
          obtain ⟨row, hadds, -⟩ := Db.insertPayout_ok hok
          simp only [surplus, hadds.payouts, List.length_append, List.length_singleton, Op.gain]
          omega
        | _ => exact False.elim hpays
      · have hgain : Op.gain (.sql q) (.ok r) = 0 := by
          cases q <;> first | rfl | exact absurd trivial hpays
        rw [hgain, add_zero, surplus, surplus, Stmt.payouts_kept hpays hok]

/-! ### What a tally tells -/

/-- The handler has recorded a payout. -/
def Tally.HasRecorded : Tally → Prop
  | .recorded | .booked | .complete | .missed | .counted => True
  | _ => False

/-- What the tally of thread `i` says of the history and of the world. -/
structure Tallied (C : Crates) (calls : ι → Call) (i : ι) (m : Tally)
    (h : List (Entry (Service ι) (Event ι Op Op.Ans))) (w : World) : Prop where
  gap : threadSum Event.thread (Entry.change fun s => surplus s.world) i h = m.gap
  finds : Pool.Did FindsPayout h i ↔ m = .found ∨ m = .recounted
  records : Pool.Did RecordsPayout h i ↔ m.HasRecorded
  fits : Pool.Did (fun s e => ¬ RaiseFits s e) h i → m = .missed
  missed : m = .missed →
    ¬ (calls i).Auditable C ∨ Pool.Did (fun s e => ¬ RaiseFits s e) h i
  auditable : m = .complete ∨ m = .counted → (calls i).Auditable C
  ready : m = .recorded ∨ m = .booked → ∀ req, calls i = .webhook req →
    (∀ merge, req.merge? C = some merge → HasProgram w.db merge.githubRepo) ∧
      ∀ d, req.deliveryId = some d → w.db.webhookEvent? d ≠ none

theorem Tallied.other (hacc : Tallied C calls i m h s.world) {e : Event ι Op Op.Ans}
    (hgrows : s.world.db.Grows s'.world.db) (hne : e.thread ≠ i) :
    Tallied C calls i m (h ++ [⟨s, e, s'⟩]) s'.world where
  gap := by
    rw [threadSum_snoc, if_neg hne, add_zero]
    exact hacc.gap
  finds := by
    rw [Pool.did_snoc_other hne]
    exact hacc.finds
  records := by
    rw [Pool.did_snoc_other hne]
    exact hacc.records
  fits := by
    rw [Pool.did_snoc_other hne]
    exact hacc.fits
  missed := by
    rw [Pool.did_snoc_other hne]
    exact hacc.missed
  auditable := hacc.auditable
  ready hm req hcall := by
    obtain ⟨hrepo, hseen⟩ := hacc.ready hm req hcall
    exact ⟨fun merge hmerge => (hrepo merge hmerge).grows hgrows,
      fun d hd => hgrows.seen (hseen d hd)⟩

section Own

variable {e : Event ι Op Op.Ans}

/-- A step of its own, by what it adds to what is told. -/
theorem Tallied.own (hacc : Tallied C calls e.thread m h s.world)
    (hallowed : Tallies C (calls e.thread) m e.op)
    (hexec : e.op.Exact source s.world e.ans s'.world) {m' : Tally}
    (hm' : m.next e.op e.ans = m')
    (hfinds : (m = .found ∨ m = .recounted) ∨ FindsPayout s e ↔ m' = .found ∨ m' = .recounted)
    (hrecords : m.HasRecorded ∨ RecordsPayout s e ↔ m'.HasRecorded)
    (hfits : m = .missed ∨ ¬ RaiseFits s e → m' = .missed)
    (hmissed : m' = .missed →
      m = .missed ∨ ¬ (calls e.thread).Auditable C ∨ ¬ RaiseFits s e)
    (hauditable : m' = .complete ∨ m' = .counted →
      (m = .complete ∨ m = .counted) ∨ (calls e.thread).Auditable C)
    (hready : m' = .recorded ∨ m' = .booked → ∀ req, calls e.thread = .webhook req →
      (∀ merge, req.merge? C = some merge → HasProgram s'.world.db merge.githubRepo) ∧
        ∀ d, req.deliveryId = some d → s'.world.db.webhookEvent? d ≠ none) :
    Tallied C calls e.thread (m.next e.op e.ans) (h ++ [⟨s, e, s'⟩]) s'.world := by
  have hgap := hallowed.gap_next e.ans
  rw [hm'] at hgap ⊢
  refine ⟨?_, ?_, ?_, ?_, ?_, ?_, hready⟩
  · have hchange : surplus s'.world - surplus s.world = e.op.gain e.ans := by
      rw [surplus_exec hexec]
      omega
    rw [threadSum_snoc, if_pos rfl, hacc.gap, hgap, ← hchange]
    rfl
  · rw [Pool.did_snoc_self, hacc.finds, hfinds]
  · rw [Pool.did_snoc_self, hacc.records, hrecords]
  · rw [Pool.did_snoc_self]
    rintro (hbefore | hnow)
    · exact hfits (.inl (hacc.fits hbefore))
    · exact hfits (.inr hnow)
  · intro hm
    rw [Pool.did_snoc_self]
    rcases hmissed hm with hbefore | hno | hnow
    · exact (hacc.missed hbefore).imp_right .inl
    · exact .inl hno
    · exact .inr (.inr hnow)
  · intro hm
    rcases hauditable hm with hbefore | hnow
    · exact hacc.auditable hbefore
    · exact hnow

theorem Tallied.aside (hacc : Tallied C calls e.thread m h s.world) (hm : m.Rests)
    (hop : e.op.Aside) (hexec : e.op.Exact source s.world e.ans s'.world) :
    Tallied C calls e.thread (m.next e.op e.ans) (h ++ [⟨s, e, s'⟩]) s'.world := by
  have hfinds : ¬ FindsPayout s e := by
    rintro ⟨id, pr, hselect, -⟩
    rw [hselect] at hop
    exact hop
  have hrecords : ¬ RecordsPayout s e := by
    rintro ⟨id, pr, username, address, points, amount, txHash, hinsert, -⟩
    rw [hinsert] at hop
    exact hop
  have hfits : RaiseFits s e := by
    apply raiseFits_of_ne
    intro amount id hraise
    rw [hraise] at hop
    exact hop
  refine hacc.own (.aside hm hop) hexec (Tally.next_aside hm hop e.ans) (or_iff_left hfinds)
    (or_iff_left hrecords) ?_ .inl .inl ?_
  · rintro (hbefore | hno)
    · exact hbefore
    · exact absurd hfits hno
  · rintro (rfl | rfl)
    · exact False.elim hm
    · exact False.elim hm

end Own

/-- A lookup is answered with the payout, if there is one. -/
theorem answer_of_lookUp {id : Uuid} {pr : Int64} {ans : Except DbError (Option Uuid)}
    (hexec : (Op.sql (.selectPayoutId id pr)).Exact source w ans w') :
    ans = .ok ((w.db.payout? id pr).map PayoutRow.id) := by
  have hok : (Stmt.selectPayoutId id pr).exec source w.db =
      .ok ((w.db.payout? id pr).map PayoutRow.id, w.db) := rfl
  exact (hexec.answer hok).1

theorem Tallied.lookUp {id : Uuid} {pr : Int64} {ans : Except DbError (Option Uuid)}
    (hacc : Tallied C calls i .idle h s.world)
    (hexec : (Op.sql (.selectPayoutId id pr)).Exact source s.world ans s'.world) :
    Tallied C calls i (Tally.idle.next (.sql (.selectPayoutId id pr)) ans)
      (h ++ [⟨s, ⟨i, .sql (.selectPayoutId id pr), ans⟩, s'⟩]) s'.world := by
  have hfits : ∀ ans, RaiseFits s (⟨i, .sql (.selectPayoutId id pr), ans⟩ : Event ι Op Op.Ans) :=
    fun ans => raiseFits_of_ne fun _ _ hne => by cases hne
  have hans := answer_of_lookUp hexec
  cases hpaid : s.world.db.payout? id pr with
  | none =>
    rw [hpaid] at hans
    subst hans
    refine Tallied.own (e := ⟨i, .sql (.selectPayoutId id pr), _⟩) hacc (.lookUp id pr) hexec
      (show _ = Tally.idle from rfl) ?_ ?_ ?_ ?_ ?_ ?_ <;>
      simp [FindsPayout, RecordsPayout, hpaid, hfits, Tally.HasRecorded]
  | some row =>
    rw [hpaid] at hans
    subst hans
    refine Tallied.own (e := ⟨i, .sql (.selectPayoutId id pr), _⟩) hacc (.lookUp id pr) hexec
      (show _ = Tally.found from rfl) ?_ ?_ ?_ ?_ ?_ ?_ <;>
      simp [FindsPayout, RecordsPayout, hpaid, hfits, Tally.HasRecorded]

theorem Tallied.lookAgain {id : Uuid} {pr : Int64} {ans : Except DbError (Option Uuid)}
    (hacc : Tallied C calls i .found h s.world)
    (hexec : (Op.sql (.selectPayoutId id pr)).Exact source s.world ans s'.world) :
    Tallied C calls i (Tally.found.next (.sql (.selectPayoutId id pr)) ans)
      (h ++ [⟨s, ⟨i, .sql (.selectPayoutId id pr), ans⟩, s'⟩]) s'.world := by
  have hfits : RaiseFits s (⟨i, .sql (.selectPayoutId id pr), ans⟩ : Event ι Op Op.Ans) :=
    raiseFits_of_ne fun _ _ hne => by cases hne
  have hnext : Tally.found.next (.sql (.selectPayoutId id pr)) ans = .found := by
    rw [answer_of_lookUp hexec]
    rfl
  refine Tallied.own (e := ⟨i, .sql (.selectPayoutId id pr), ans⟩) hacc (.lookAgain id pr) hexec
    hnext ?_ ?_ ?_ ?_ ?_ ?_ <;>
    simp [RecordsPayout, hfits, Tally.HasRecorded]

/-- What is due is counted. -/
theorem Tallied.count {ans : Unit} (hacc : Tallied C calls i m h s.world)
    (hm : m = .found ∨ m = .complete)
    (hexec : (Op.count .payoutSuccess).Exact source s.world ans s'.world) :
    Tallied C calls i (m.next (.count .payoutSuccess) ans)
      (h ++ [⟨s, ⟨i, .count .payoutSuccess, ans⟩, s'⟩]) s'.world := by
  have hfits : RaiseFits s (⟨i, .count .payoutSuccess, ans⟩ : Event ι Op Op.Ans) :=
    raiseFits_of_ne fun _ _ hne => by cases hne
  rcases hm with rfl | rfl
  · refine Tallied.own (e := ⟨i, .count .payoutSuccess, ans⟩) hacc (.count (.inl rfl)) hexec
      (show _ = Tally.recounted from rfl) ?_ ?_ ?_ ?_ ?_ ?_ <;>
      simp [FindsPayout, RecordsPayout, hfits, Tally.HasRecorded]
  · refine Tallied.own (e := ⟨i, .count .payoutSuccess, ans⟩) hacc (.count (.inr rfl)) hexec
      (show _ = Tally.counted from rfl) ?_ ?_ ?_ ?_ ?_ ?_ <;>
      simp [FindsPayout, RecordsPayout, hfits, Tally.HasRecorded]

/-- The milestone is raised, unless that does not fit. -/
theorem Tallied.raise {id : Uuid} {amount : Int64} {ans : Except DbError ℕ}
    (hacc : Tallied C calls i .recorded h s.world)
    (hexec : (Op.sql (.updateMilestoneSpent amount id)).Exact source s.world ans s'.world)
    (hok : (∃ n, ans = .ok n) ↔ RaiseFits s ⟨i, .sql (.updateMilestoneSpent amount id), ans⟩) :
    Tallied C calls i (Tally.recorded.next (.sql (.updateMilestoneSpent amount id)) ans)
      (h ++ [⟨s, ⟨i, .sql (.updateMilestoneSpent amount id), ans⟩, s'⟩]) s'.world := by
  cases ans with
  | ok n =>
    have hfits := hok.1 ⟨n, rfl⟩
    refine Tallied.own (e := ⟨i, .sql (.updateMilestoneSpent amount id), .ok n⟩) hacc
      (.raise amount id) hexec (show _ = Tally.booked from rfl) ?_ ?_ ?_ ?_ ?_ ?_
    case refine_6 =>
      intro _ req hcall
      obtain ⟨hrepo, hseen⟩ := hacc.ready (.inl rfl) req hcall
      exact ⟨fun merge hmerge => (hrepo merge hmerge).grows hexec.grows,
        fun d hd => hexec.grows.seen (hseen d hd)⟩
    all_goals simp [FindsPayout, RecordsPayout, hfits, Tally.HasRecorded]
  | error err =>
    have hfails := mt hok.2 (by simp)
    refine Tallied.own (e := ⟨i, .sql (.updateMilestoneSpent amount id), .error err⟩) hacc
      (.raise amount id) hexec (show _ = Tally.missed from rfl) ?_ ?_ ?_ ?_ ?_ ?_ <;>
      simp [FindsPayout, RecordsPayout, hfails, Tally.HasRecorded]

/-- The audit row of a merge is written for a request that can be audited, and for no other. -/
theorem audit_ok_iff {req : Request} {repo : String} {number : Option Int64} {payload : Json}
    {ans : Except DbError Unit} (hbody : C.fromSlice req.body = .ok payload)
    (hrepo : HasProgram w.db repo)
    (hseen : ∀ d, req.deliveryId = some d → w.db.webhookEvent? d ≠ none)
    (hexec : (Op.sql (.insertWebhookEvent req.deliveryId "pull_request" repo number payload
      .processed none)).Exact source w ans w') :
    ans = .ok () ↔ (Call.webhook req).Auditable C := by
  constructor
  · rintro rfl
    obtain ⟨db', hok, -⟩ := hexec.sql_ok
    simp only [Stmt.exec, bind_eq_ok] at hok
    obtain ⟨db, hinsert, -⟩ := hok
    constructor
    · by_contra hdelivery
      obtain ⟨d, hd⟩ := Option.ne_none_iff_exists'.1 hdelivery
      rw [hd] at hinsert
      exact Db.insertWebhookEvent_seen source w.db (hseen d hd) hinsert
    · intro payload' hbody'
      obtain rfl : payload = payload' := Except.ok.inj (hbody.symm.trans hbody')
      obtain ⟨row, -, -, -, -, -, hrow, -⟩ := Db.insertWebhookEvent_ok hinsert
      rw [← hrow]
      exact row.payload.storable
  · rintro ⟨hdelivery, hstorable⟩
    obtain ⟨db', hinsert⟩ := Db.insertWebhookEvent_succeeds source w.db none "pull_request" repo
      number payload .processed none (by decide) hrepo.storable hrepo.fits (hstorable payload hbody)
      (by simp) (by simp)
    rw [hdelivery] at hexec
    cases ans with
    | ok u => rfl
    | error err =>
      obtain ⟨herror, -⟩ := hexec.sql_error
      simp only [Stmt.exec, hinsert] at herror
      cases herror

theorem Tallied.audit {req : Request} {merge : MergeAttestation} {number : Option Int64}
    {payload : Json} {ans : Except DbError Unit} (hacc : Tallied C calls i .booked h s.world)
    (hcall : calls i = .webhook req) (hmerge : req.merge? C = some merge)
    (hbody : C.fromSlice req.body = .ok payload)
    (hexec : (Op.sql (.insertWebhookEvent req.deliveryId "pull_request" merge.githubRepo number
      payload .processed none)).Exact source s.world ans s'.world) :
    Tallied C calls i (Tally.booked.next (.sql (.insertWebhookEvent req.deliveryId "pull_request"
        merge.githubRepo number payload .processed none)) ans)
      (h ++ [⟨s, ⟨i, .sql (.insertWebhookEvent req.deliveryId "pull_request" merge.githubRepo number
        payload .processed none), ans⟩, s'⟩]) s'.world := by
  have hfits : ∀ ans, RaiseFits s (⟨i, .sql (.insertWebhookEvent req.deliveryId "pull_request"
      merge.githubRepo number payload .processed none), ans⟩ : Event ι Op Op.Ans) :=
    fun ans => raiseFits_of_ne fun _ _ hne => by cases hne
  have hallowed : Tallies C (calls i) .booked (.sql (.insertWebhookEvent req.deliveryId
    "pull_request" merge.githubRepo number payload .processed none)) := .audit hcall hmerge hbody _
  obtain ⟨hrepo, hseen⟩ := hacc.ready (.inr rfl) req hcall
  have hok := audit_ok_iff hbody (hrepo merge hmerge) hseen hexec
  rw [← hcall] at hok
  cases ans with
  | ok u =>
    have hauditable := hok.1 rfl
    refine Tallied.own (e := ⟨i, _, _⟩) hacc hallowed hexec (show _ = Tally.complete from rfl)
      ?_ ?_ ?_ ?_ ?_ ?_ <;>
      simp [FindsPayout, RecordsPayout, hfits, hauditable, Tally.HasRecorded]
  | error err =>
    have hunauditable := mt hok.2 (by simp)
    refine Tallied.own (e := ⟨i, _, _⟩) hacc hallowed hexec (show _ = Tally.missed from rfl)
      ?_ ?_ ?_ ?_ ?_ ?_ <;>
      simp [FindsPayout, RecordsPayout, hfits, hunauditable, Tally.HasRecorded]

/-- A payout is recorded exactly when the pull request has none. -/
theorem Tallied.record {id : Uuid} {pr : Int64} {username address : String} {points : Int32}
    {amount : Int64} {txHash : String} {ans : Except DbError Uuid}
    (hrun : Run (Service.Step C config calls) (Service.start C config calls w) h s)
    (hs : Service.Step C config calls s
      ⟨i, .sql (.insertPayout id pr username address points amount txHash), ans⟩ s')
    (hacc : Tallied C calls i .idle h s.world) :
    Tallied C calls i
      (Tally.idle.next (.sql (.insertPayout id pr username address points amount txHash)) ans)
      (h ++ [⟨s, ⟨i, .sql (.insertPayout id pr username address points amount txHash), ans⟩, s'⟩])
      s'.world := by
  have hexec : (Op.sql (.insertPayout id pr username address points amount txHash)).Exact C.uuids
    s.world ans s'.world := hs.answered
  have hfits : ∀ ans, RaiseFits s (⟨i, .sql (.insertPayout id pr username address points amount
      txHash), ans⟩ : Event ι Op Op.Ans) := fun ans => raiseFits_of_ne fun _ _ hne => by cases hne
  have hallowed : Tallies C (calls i) .idle
    (.sql (.insertPayout id pr username address points amount txHash)) := .record _ _ _ _ _ _ _
  -- The phase of the handler tells what it knows: the repo, the author and the price.
  obtain ⟨req, hcall, hallows⟩ := webhook_of_allows (by rintro ⟨⟩) (allowed_of_run hrun hs)
  have hpast : (s.phase i).Past := hallows.past_of_inMerge trivial
  have hseen : ∀ d, req.deliveryId = some d → s.world.db.webhookEvent? d ≠ none := fun d hd =>
    (pastClaim_of_run (faulty_of_run hrun) hcall hd hpast).seen (faulty_of_run hrun)
  have hknows : ∀ merge, req.merge? C = some merge → Knows merge (s.phase i) s.world.db :=
    fun merge hmerge => knows_of_run (faulty_of_run hrun) hcall hmerge
  generalize hphase : s.phase i = m at hallows hknows
  cases hallows with
  | @record merge hmerge t address reward hpr =>
    have hknown := hknows merge hmerge
    cases ans with
    | ok pid =>
      obtain ⟨db', hok, -⟩ := hexec.sql_ok
      have hnew := Db.payout?_of_insertPayout_ok hok
      refine Tallied.own (e := ⟨i, _, _⟩) hacc hallowed hexec (show _ = Tally.recorded from rfl)
        ?_ ?_ ?_ ?_ ?_ ?_
      case refine_6 =>
        intro _ req' hcall'
        obtain rfl : req = req' := Call.webhook.inj (hcall.symm.trans hcall')
        refine ⟨fun merge' hmerge' => ?_, fun d hd => hexec.grows.seen (hseen d hd)⟩
        obtain rfl : merge = merge' := Option.some.inj (hmerge.symm.trans hmerge')
        obtain ⟨p, hp, -, -, hrepo⟩ := hknown.1
        exact HasProgram.grows ⟨p, hp, hrepo⟩ hexec.grows
      all_goals simp [FindsPayout, RecordsPayout, hnew, hfits, Tally.HasRecorded]
    | error err =>
      have hpaid : s.world.db.payout? t.program (saturate merge.prNumber) ≠ none := by
        intro hnew
        obtain ⟨pid, db', hinsert⟩ := insertPayout_of_knows C.uuids (points_of_merge? hmerge) hknown
          (storable_attestationHash config _) hnew
        obtain ⟨herror, -⟩ := hexec.answer hinsert
        cases herror
      refine Tallied.own (e := ⟨i, _, _⟩) hacc hallowed hexec (show _ = Tally.idle from rfl)
        ?_ ?_ ?_ ?_ ?_ ?_ <;>
        simp [FindsPayout, RecordsPayout, hpaid, hfits, Tally.HasRecorded]

/-- **A handler's own step keeps its tally.** -/
theorem Tallied.step {e : Event ι Op Op.Ans}
    (hrun : Run (Service.Step C config calls) (Service.start C config calls w) h s)
    (hs : Service.Step C config calls s e s') (hallowed : Tallies C (calls e.thread) m e.op)
    (hacc : Tallied C calls e.thread m h s.world) :
    Tallied C calls e.thread (m.next e.op e.ans) (h ++ [⟨s, e, s'⟩]) s'.world := by
  obtain ⟨i, op, ans⟩ := e
  have hexec : op.Exact C.uuids s.world ans s'.world := hs.answered
  cases hallowed with
  | aside hm hop => exact hacc.aside hm hop hexec
  | lookUp => exact hacc.lookUp hexec
  | lookAgain => exact hacc.lookAgain hexec
  | record => exact hacc.record hrun hs
  | raise => exact hacc.raise hexec (raise_ok_of_run hrun hs)
  | audit hcall hmerge hbody => exact hacc.audit hcall hmerge hbody hexec
  | count hm => exact hacc.count hm hexec

theorem tallied_of_run
    (hrun : Run (Service.Step C config calls) (Service.start C config calls w) h s) (i : ι) :
    Tallied C calls i (Pool.watch (tallying C (calls i)) .idle i h) h s.world := by
  refine Pool.watched_of_run (J := fun i m h w => Tallied C calls i m h w)
    (R := fun i => tallying C (calls i)) hrun (fun i => (calls i).tallies C config) ?_ ?_ ?_ i
  · intro i
    refine ⟨rfl, ?_, ?_, ?_, ?_, ?_, ?_⟩ <;>
      simp [Pool.did_nil, Tally.HasRecorded]
  · intro h s e s' hr hs hallowed hacc
    exact hacc.step hr hs hallowed
  · intro i h s e s' _ hs hne hacc
    have hexec : e.op.Exact C.uuids s.world e.ans s'.world := hs.answered
    exact hacc.other hexec.grows hne

/-! ### When no handler is between two of its steps -/

theorem rests_of_quiescent
    (hrun : Run (Service.Step C config calls) (Service.start C config calls w) h s)
    (hquiet : Quiescent h s) (i : ι) : (Pool.watch (tallying C (calls i)) .idle i h).Rests :=
  ended_of_quiescent (R := fun i => tallying C (calls i)) hrun hquiet trivial
    (fun i => (calls i).tallies C config) i

open Classical in
/-- At its end a handler has counted a payout too many, or one too few, or neither. -/
theorem Tallied.gap_of_rests (hacc : Tallied C calls i m h w) (hm : m.Rests) :
    m.gap = (if Pool.Did FindsPayout h i then 1 else 0) - if Misses C calls h i then 1 else 0 := by
  have hfinds := hacc.finds
  have hrecords := hacc.records
  have hmisses : Misses C calls h i ↔ m = .missed := by
    constructor
    · rintro ⟨hrecorded, hno | hfails⟩
      · cases m with
        | missed => rfl
        | counted => exact absurd (hacc.auditable (.inr rfl)) hno
        | _ => first | exact False.elim hm | exact False.elim (hrecords.1 hrecorded)
      · exact hacc.fits hfails
    · rintro rfl
      exact ⟨hrecords.2 trivial, hacc.missed rfl⟩
  cases m with
  | idle | missed | counted | recounted => simp [hfinds, hmisses, Tally.gap]
  | _ => exact False.elim hm

open Classical in
/-- Threads that took a step are finitely many, and can be counted. -/
theorem ncard_of_threads {P : ι → Prop} (hP : ∀ i, P i → ∃ e ∈ h, e.label.thread = i) :
    {i | P i}.ncard = ((threads Event.thread h).filter P).card := by
  have hset : {i | P i} = ((threads Event.thread h).filter P : Set ι) := by
    ext i
    simp only [Set.mem_ofPred_eq, Finset.coe_filter, mem_threads]
    exact ⟨fun hi => ⟨hP i hi, hi⟩, fun hi => hi.2⟩
  rw [hset, Set.ncard_coe_finset]

/-- **When the payout counter counts the payouts**, in every state of every run in which no handler
is between two of its steps: exactly when as many handlers found a payout of another one as recorded
one themselves without being able to raise the milestone and write the audit row; in particular when
no handler did either. -/
theorem payouts_counted
    (hrun : Run (Service.Step C config calls) (Service.start C config calls w) h s)
    (hquiet : Quiescent h s) :
    (PayoutsCounted w s.world ↔
        {i | Pool.Did FindsPayout h i}.ncard = {i | Misses C calls h i}.ncard) ∧
      ((∀ e ∈ h, Countable C calls e.pre e.label) → PayoutsCounted w s.world) := by
  classical
  have hfound : {i | Pool.Did FindsPayout h i}.ncard =
      ((threads Event.thread h).filter fun i => Pool.Did FindsPayout h i).card :=
    ncard_of_threads fun i ⟨e, he, hthread, _⟩ => ⟨e, he, hthread⟩
  have hmissed : {i | Misses C calls h i}.ncard =
      ((threads Event.thread h).filter fun i => Misses C calls h i).card :=
    ncard_of_threads fun i ⟨⟨e, he, hthread, _⟩, _⟩ => ⟨e, he, hthread⟩
  have hsum : surplus s.world = surplus w +
      (({i | Pool.Did FindsPayout h i}.ncard : ℤ) - {i | Misses C calls h i}.ncard) := by
    rw [hfound, hmissed, ← Finset.sum_boole, ← Finset.sum_boole, ← Finset.sum_sub_distrib,
      hrun.sum_threads Event.thread fun s => surplus s.world]
    refine congrArg (surplus w + ·) (Finset.sum_congr rfl fun i _ => ?_)
    have hacc := tallied_of_run hrun i
    rw [hacc.gap, hacc.gap_of_rests (rests_of_quiescent hrun hquiet i)]
  have hiff : PayoutsCounted w s.world ↔
      {i | Pool.Did FindsPayout h i}.ncard = {i | Misses C calls h i}.ncard := by
    rw [payoutsCounted_iff, hsum]
    omega
  refine ⟨hiff, fun hall => hiff.2 ?_⟩
  have hnone : {i | Pool.Did FindsPayout h i} = ∅ := by
    apply Set.eq_empty_of_forall_notMem
    rintro i ⟨e, he, -, hfinds⟩
    exact (hall e he).unpaid hfinds
  have hnone' : {i | Misses C calls h i} = ∅ := by
    apply Set.eq_empty_of_forall_notMem
    rintro i ⟨⟨e, he, rfl, hrecords⟩, hno | ⟨e', he', -, hfails⟩⟩
    · exact hno ((hall e he).auditable hrecords)
    · exact hfails (hall e' he').fits
  rw [hnone, hnone']

instance (w w' : World) : Decidable (PayoutsCounted w w') :=
  inferInstanceAs (Decidable (_ = _))

/-- A merge is delivered without a delivery id, and paid. -/
theorem payouts_counted_setup :
    let calls : Fin 1 → Call := fun _ => .webhook Setup.anonymous
    let play := Service.play Setup.crates Setup.config calls Setup.world (List.replicate 16 0)
    (PayoutsCounted Setup.world play.2.world ↔
        {i | Pool.Did FindsPayout play.1 i}.ncard =
          {i | Misses Setup.crates calls play.1 i}.ncard) ∧
      ((∀ e ∈ play.1, Countable Setup.crates calls e.pre e.label) →
        PayoutsCounted Setup.world play.2.world) := by
  intro calls play
  exact payouts_counted (Service.run_play _ _ calls _ _)
    (quiescent_of_ended _ (by decide +kernel))

namespace Setup

/-- A program is created, the author registered, and the merge delivered with a delivery id. -/
def firstDelivery : Fin 3 → Call
  | 0 => .admin (.createProgram ⟨1, "StellarRoute/WaveFlow", account, 100, none⟩)
  | 1 => registration
  | 2 => .webhook (deliver signature (some "72d3162e"))

/-- The merge is delivered without a delivery id, and once more. -/
def deliveredTwice : Fin 4 → Call
  | 0 => .admin (.createProgram ⟨1, "StellarRoute/WaveFlow", account, 100, none⟩)
  | 1 => registration
  | _ => .webhook anonymous

/-- The calls are handled one after the other. -/
def inTurn {n : ℕ} (calls : Fin n → Call) :
    List (Entry (Service (Fin n)) (Event (Fin n) Op Op.Ans)) × Service (Fin n) :=
  Service.play crates Setup.config calls start ((List.finRange n).flatMap (List.replicate 16))

theorem run_inTurn {n : ℕ} (calls : Fin n → Call) :
    Run (Service.Step crates Setup.config calls) (Service.start crates Setup.config calls start)
      (inTurn calls).1 (inTurn calls).2 := Service.run_play _ _ calls _ _

end Setup

/-- A payout that is not counted, and one that is counted twice. -/
theorem payouts_not_counted :
    let once := Setup.inTurn Setup.firstDelivery
    let twice := Setup.inTurn Setup.deliveredTwice
    (Run (Service.Step Setup.crates Setup.config Setup.firstDelivery)
        (Service.start Setup.crates Setup.config Setup.firstDelivery Setup.start) once.1 once.2 ∧
      Quiescent once.1 once.2 ∧ once.2.world.db.payouts.rows.length = 1 ∧
      once.2.world.counters .payoutSuccess = 0 ∧ ¬ PayoutsCounted Setup.start once.2.world) ∧
    (Run (Service.Step Setup.crates Setup.config Setup.deliveredTwice)
        (Service.start Setup.crates Setup.config Setup.deliveredTwice Setup.start) twice.1 twice.2 ∧
      Quiescent twice.1 twice.2 ∧ twice.2.world.db.payouts.rows.length = 1 ∧
      twice.2.world.counters .payoutSuccess = 2 ∧ ¬ PayoutsCounted Setup.start twice.2.world) := by
  intro once twice
  have honce : once.2.Ended ∧ once.2.world.db.payouts.rows.length = 1 ∧
      once.2.world.counters .payoutSuccess = 0 ∧ ¬ PayoutsCounted Setup.start once.2.world := by
    decide +kernel
  have htwice : twice.2.Ended ∧ twice.2.world.db.payouts.rows.length = 1 ∧
      twice.2.world.counters .payoutSuccess = 2 ∧ ¬ PayoutsCounted Setup.start twice.2.world := by
    decide +kernel
  obtain ⟨hended, hlength, hcounter, hno⟩ := honce
  obtain ⟨hended', hlength', hcounter', hno'⟩ := htwice
  exact ⟨⟨Setup.run_inTurn _, quiescent_of_ended _ hended, hlength, hcounter, hno⟩,
    ⟨Setup.run_inTurn _, quiescent_of_ended _ hended', hlength', hcounter', hno'⟩⟩

end WaveFlow
