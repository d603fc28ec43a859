import WaveFlow.Gateway.Service
import WaveFlow.Gateway.Unauthenticated

/-!
# Can a failed delivery be paid by sending it again?

A delivery id is reserved before any of the work that can fail, and never released. A redelivery is
answered as a duplicate from then on, whatever became of the first handler. So duplicates are paid in
the runs in which, whenever a delivery id is found, the pull request was paid before the run or some
handler of the same merge has run through: it has gone on from the payout to its bookkeeping, or it
has ended, and neither a lookup nor a failing statement stopped it before the payout.
-/

namespace WaveFlow

open Interaction Postgres Transition

variable {ι : Type} [DecidableEq ι] {C : Crates} {config : AppConfig} {calls : ι → Call}
  {req : Request} {merge : MergeAttestation} {m : Phase} {w : World} {s : Service ι}
  {h : List (Entry (Service ι) (Event ι Op Op.Ans))}

/-- The request is authentic and delivers a merge for an active program by a registered author. -/
structure Qualifies (C : Crates) (config : AppConfig) (db : Db) (req : Request)
    (merge : MergeAttestation) (p : ProgramRow) : Prop where
  signed : req.Signed C config
  delivers : req.merge? C = some merge
  program : db.activeProgram? merge.githubRepo = some p
  author : db.contributor? p.id merge.githubUsername ≠ none

/-- Whenever a qualifying merge is answered as a duplicate, its pull request has a payout. -/
def DuplicatesPaid (C : Crates) (config : AppConfig) (calls : ι → Call)
    (h : List (Entry (Service ι) (Event ι Op Op.Ans))) : Prop :=
  ∀ e ∈ h, ∀ req merge p r, calls e.label.thread = .webhook req →
    Qualifies C config e.post.world.db req merge p → e.post.prog e.label.thread = .ret r →
    r.body.textAt "status" = some "duplicate_delivery" →
    ∃ row ∈ e.post.world.db.payouts, row.programId = p.id ∧
      row.prNumber.toInt = merge.prNumber.toNat

/-! ### The condition -/

/-- Nothing has stopped the handler so far. -/
def Phase.Unstopped (m : Phase) : Prop :=
  m ≠ .rejected ∧ m ≠ .duplicate ∧ m ≠ .missed ∧ m ≠ .failed

instance (m : Phase) : Decidable m.Unstopped := by
  unfold Phase.Unstopped
  infer_instance

/-- The handler has gone on from the payout to its bookkeeping. -/
def Phase.Bookkeeping : Phase → Prop
  | .recorded _ _ | .booked _ => True
  | _ => False

instance (m : Phase) : Decidable m.Bookkeeping := by
  cases m <;> unfold Phase.Bookkeeping <;> infer_instance

/-- Thread `j` has run through with an authentic delivery of the pull request. -/
structure RanThrough (C : Crates) (config : AppConfig) (calls : ι → Call) (s : Service ι)
    (merge : MergeAttestation) (j : ι) : Prop where
  call : ∃ req merge', calls j = .webhook req ∧ req.Signed C config ∧ req.BodyFits ∧
    req.merge? C = some merge' ∧ merge'.githubRepo = merge.githubRepo ∧
    merge'.prNumber = merge.prNumber
  number : merge.prNumber.toNat < 2 ^ 63
  through : (s.phase j).Bookkeeping ∨ (∃ r, s.prog j = .ret r) ∧ (s.phase j).Unstopped

/-- When the delivery id of a qualifying merge is found, the pull request had a payout before the
run, or some handler of the merge has run through. -/
def FirstRanThrough (C : Crates) (config : AppConfig) (calls : ι → Call) (first : World)
    (s : Service ι) (e : Event ι Op Op.Ans) : Prop :=
  ∀ req merge p d, calls e.thread = .webhook req → Qualifies C config s.world.db req merge p →
    e.op = .sql (.selectWebhookEventId d) → s.world.db.webhookEvent? d ≠ none →
    (∃ row ∈ first.db.payouts, row.programId = p.id ∧
      row.prNumber.toInt = merge.prNumber.toNat) ∨ ∃ j, RanThrough C config calls s merge j

/-! ### Duplicates -/

/-- Only a handler that found its delivery id answers so. -/
theorem Ends.eq_duplicate {r : Response} (h : Ends C req m r)
    (hr : r.body.textAt "status" = some "duplicate_delivery") : m = .duplicate := by
  cases h with
  | duplicate => rfl
  | merged h => exact absurd hr (Ends.not_duplicate (.merged h) h.claimed)
  | _ => simp at hr

/-- It finds it by a lookup. -/
theorem Allows.lookUp_of_duplicate {op : Op} {ans : op.Ans} (hallowed : Allows C config req m op)
    (hnext : m.next op ans = .duplicate) {source : UuidSource} {w' : World}
    (hexec : op.Faulty source w ans w') :
    ∃ d, op = .sql (.selectWebhookEventId d) ∧ w.db.webhookEvent? d ≠ none ∧ w' = w := by
  by_cases hm : m.Claimed
  · exact absurd hnext (hm.next op ans).ne_duplicate
  · cases hallowed with
    | @lookUp d hd =>
      rcases ans with e | _ | id
      · cases hnext
      · cases hnext
      · obtain ⟨db, hok, rfl⟩ := hexec.sql_ok
        simp only [Stmt.exec, bind_eq_ok] at hok
        obtain ⟨_, -, hok⟩ := hok
        refine ⟨d, rfl, fun hnone => ?_, ?_⟩
        · rw [hnone] at hok
          cases hok
        · have hdb : w.db = db := congrArg Prod.snd (Except.ok.inj hok)
          rw [← hdb]
    | count c hcount =>
      rw [Phase.next_count] at hnext
      exact absurd hnext hcount
    | reject => cases hnext
    | claim =>
      cases ans with
      | ok u => cases hnext
      | error e => cases hnext
    | audit hclaimed => exact absurd hclaimed hm
    | _ => exact absurd trivial hm

/-- A handler that has run through has paid its merge, or found it paid. -/
theorem RanThrough.paid {j : ι} (hj : RanThrough C config calls s merge j)
    (hrun : Run (Service.FaultyStep C config calls) (Service.start C config calls w) h s) :
    ∃ t, Resolved s.world.db merge.githubRepo t ∧
      Paid s.world.db t (saturate merge.prNumber) := by
  obtain ⟨req, merge', hcall, -, hfits, hmerge, hrepo, hnumber⟩ := hj.call
  have hknows := knows_of_run hrun hcall hmerge
  rw [← hrepo, ← hnumber]
  rcases hj.through with hbookkeeping | ⟨⟨r, hr⟩, hrejected, hduplicate, hmissed, hfailed⟩
  · generalize s.phase j = m at hknows hbookkeeping
    cases m with
    | recorded | booked => exact ⟨_, hknows⟩
    | _ => exact absurd hbookkeeping id
  have hends := (Pool.follow_of_run hrun (follow_start C config calls w)).ended hr
  simp only [hcall, Call.Ends] at hends
  -- What is left: the ways to end in which the pull request has a payout.
  have hmergeEnds : ∀ {m res}, MergeEnds C req m res → m ≠ .missed → m ≠ .failed →
      Knows merge' m s.world.db → ∃ t, Resolved s.world.db merge'.githubRepo t ∧
        Paid s.world.db t (saturate merge'.prNumber) := by
    intro m res hm hmissed hfailed hknows
    cases hm with
    | ignored hnone => simp [hmerge] at hnone
    | stopped hm =>
      rcases hm with rfl | rfl
      · exact absurd rfl hmissed
      · exact absurd rfl hfailed
    | overflow hother t address reward hpr =>
      have hsame := Option.some.inj (hother.symm.trans hmerge)
      have hnumber' := hj.number
      rw [hsame, hnumber] at hpr
      omega
    | alreadyProcessed | alreadyPaid | overdrawn | unaudited | processed => exact ⟨_, hknows⟩
  generalize s.phase j = m at hends hknows hrejected hduplicate hmissed hfailed
  cases hends with
  | oversized hover => exact absurd hfits hover
  | rejected => exact absurd rfl hrejected
  | duplicate => exact absurd rfl hduplicate
  | unclaimed => exact absurd rfl hfailed
  | malformed hnone => simp [hmerge] at hnone
  | unsupported hnone => simp [hmerge] at hnone
  | merged hm | skipped hm | unmerged hm => exact hmergeEnds hm hmissed hfailed hknows

/-- **Duplicates are paid** in every run in which, whenever a lookup finds the delivery id of a
qualifying merge, the pull request was paid before or some handler of the merge has run through. -/
theorem duplicates_paid
    (hrun : Run (Service.FaultyStep C config calls) (Service.start C config calls w) h s)
    (hfirst : ∀ e ∈ h, FirstRanThrough C config calls w e.pre e.label) :
    DuplicatesPaid C config calls h := by
  intro e he req merge p r hcall hqualifies hr hstatus
  obtain ⟨h₁, -, -, hrun₁, hstep⟩ := hrun.split he
  have hfollow := Pool.follow_of_run hrun₁ (follow_start C config calls w)
  have hends := (hstep.follow hfollow).ended hr
  have hallowed := hstep.allowed hfollow
  have hphase := hstep.phase_self
  simp only [protocols, hcall, Call.Ends, Call.protocol] at hends hallowed hphase
  rw [hends.eq_duplicate hstatus] at hphase
  obtain ⟨d, hop, hseen, hworld⟩ := hallowed.lookUp_of_duplicate hphase.symm hstep.answered
  rw [hworld] at hqualifies ⊢
  rcases hfirst e he req merge p d hcall hqualifies hop hseen with ⟨row, hrow, hpays⟩ | ⟨j, hj⟩
  · exact ⟨row, (grows_since hrun₁).payouts row hrow, hpays⟩
  obtain ⟨t, ⟨q, hq, hid, -, hrepo⟩, row, hrow, hprogram, hnumber⟩ := hj.paid hrun₁
  obtain ⟨hp, hprepo, -⟩ := e.pre.world.db.activeProgram?_eq_some.1 hqualifies.program
  obtain rfl := e.pre.world.db.program_eq_of_repo hq hp (Text.eq_of_val (hrepo.trans hprepo.symm))
  exact ⟨row, hrow, hprogram.trans hid.symm, by rw [hnumber, toInt_saturate hj.number]⟩

/-! ### Two runs -/

namespace Setup

/-- A delivery of the merge. -/
def delivery : Call := .webhook (deliver signature (some "72d3162e"))

/-- The registration of its author. -/
def registration : Call := .admin (.registerContributor ⟨program.1, "alice", account⟩)

/-- The merge that `body` delivers. -/
def merged : MergeAttestation := ⟨"StellarRoute/WaveFlow", "alice", 42, 1⟩

theorem merge?_deliver (signature : String) (deliveryId : Option String) :
    (deliver signature deliveryId).merge? crates = some merged := by
  unfold Request.merge?
  rw [show (deliver signature deliveryId).body = body from rfl, fromSlice_body]
  simp only [eventType_deliver, ne_eq, not_true_eq_false, if_false, fromValue_payload]
  rfl

/-- The program is there, but nobody is registered. -/
def unregistered : World := ⟨program.2, [], fun _ => 0⟩

/-- The lookup of a delivery id finds it. -/
def finds {ι : Type} (s : Service ι) (e : Event ι Op Op.Ans) : Bool :=
  match e.op with
  | .sql (.selectWebhookEventId d) => (s.world.db.webhookEvent? d).isSome
  | _ => false

end Setup

/-- A delivery of a registered author's merge is repeated while it is at its bookkeeping. -/
theorem duplicates_paid_setup :
    let calls : Fin 2 → Call := fun _ => Setup.delivery
    DuplicatesPaid Setup.crates Setup.config calls
      (Service.play Setup.crates Setup.config calls Setup.world
        (List.replicate 10 0 ++ List.replicate 4 1)).1 := by
  intro calls
  have hcheck : ∀ e ∈ (Service.play Setup.crates Setup.config calls Setup.world
        (List.replicate 10 0 ++ List.replicate 4 1)).1,
      Setup.finds e.pre e.label → (e.pre.phase 0).Bookkeeping := by
    decide +kernel
  have hmerge := Setup.merge?_deliver Setup.signature (some "72d3162e")
  apply duplicates_paid (faulty_of_run (Service.run_play _ _ calls _ _))
  intro e he req merge p d hcall hqualifies hop hseen
  have hfinds : Setup.finds e.pre e.label := by
    rw [Setup.finds, hop]
    exact Option.isSome_iff_ne_none.2 hseen
  obtain rfl : Setup.deliver Setup.signature (some "72d3162e") = req := Call.webhook.inj hcall
  obtain rfl : Setup.merged = merge := Option.some.inj (hmerge.symm.trans hqualifies.delivers)
  exact .inr ⟨0, ⟨_, _, rfl, Setup.signed_deliver _, Setup.bodyFits_deliver _ _, hmerge, rfl, rfl⟩,
    by decide, .inl (hcheck e he hfinds)⟩

/-- The author is registered after the first delivery: the second is answered as a duplicate,
although the merge was never paid. -/
theorem unpaid_merge_answered_as_duplicate :
    let calls : Fin 3 → Call := fun
      | 0 => Setup.delivery
      | 1 => Setup.registration
      | 2 => Setup.delivery
    let play := Service.play Setup.crates Setup.config calls Setup.unregistered
      (List.replicate 12 0 ++ List.replicate 4 1 ++ List.replicate 4 2)
    Run (Service.FaultyStep Setup.crates Setup.config calls)
        (Service.start Setup.crates Setup.config calls Setup.unregistered) play.1 play.2 ∧
      ¬ DuplicatesPaid Setup.crates Setup.config calls play.1 := by
  intro calls play
  refine ⟨faulty_of_run (Service.run_play _ _ calls _ _), fun hpaid => ?_⟩
  have hentry : ∃ e ∈ play.1, e.label.thread = 2 ∧
      ((e.post.prog 2).value?.any fun r => r.body.textAt "status" = some "duplicate_delivery") ∧
      e.post.world.db.payouts.rows.isEmpty ∧
      (e.post.world.db.activeProgram? Setup.merged.githubRepo).any fun p =>
        (e.post.world.db.contributor? p.id Setup.merged.githubUsername).isSome := by
    decide +kernel
  obtain ⟨e, he, hthread, hduplicate, hpayouts, hprogram⟩ := hentry
  obtain ⟨r, hr, hstatus⟩ := (Option.any_eq_true _ _).1 hduplicate
  obtain ⟨p, hp, hauthor⟩ := (Option.any_eq_true _ _).1 hprogram
  have hqualifies : Qualifies Setup.crates Setup.config e.post.world.db
      (Setup.deliver Setup.signature (some "72d3162e")) Setup.merged p :=
    ⟨Setup.signed_deliver _, Setup.merge?_deliver _ _, hp,
      Option.isSome_iff_ne_none.1 hauthor⟩
  obtain ⟨row, hrow, -⟩ := hpaid e he _ _ p r (by rw [hthread]; rfl) hqualifies
    (by rw [hthread]; exact Prog.value?_eq_some.1 hr) (by simpa using hstatus)
  rw [← Relational.Table.mem_rows, List.isEmpty_iff.1 hpayouts] at hrow
  exact absurd hrow List.not_mem_nil

end WaveFlow
