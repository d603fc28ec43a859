import WaveFlow.Gateway.Authentic

/-!
# Is a delivery processed at most once?

A handler looks its delivery id up and then claims it by inserting an audit row. The lookup decides
nothing: it can fail, and other handlers can come between it and the insert. What counts is that an
insert is only answered with success when no audit row has the delivery id, and that rows stay.
-/

namespace WaveFlow

open Interaction Postgres Transition

variable {ι : Type} [DecidableEq ι] {C : Crates} {config : AppConfig} {calls : ι → Call}
  {req : Request} {m : Phase} {w : World} {d : String} {s : Service ι} {i j : ι}
  {h h' : List (Entry (Service ι) (Event ι Op Op.Ans))}

/-- Thread `i` claimed the delivery id, with success. -/
def Claims (i : ι) (d : String) (e : Event ι Op Op.Ans) : Prop :=
  ∃ eventType, e = ⟨i, .sql (.insertWebhookEvent (some d) eventType "pending" none (.obj [])
    .processing none), .ok ()⟩

/-- Thread `i` got past the claim of the delivery id. -/
def PastClaim (h : List (Entry (Service ι) (Event ι Op Op.Ans))) (i : ι) (d : String) : Prop :=
  ∃ e ∈ h, Claims i d e.label

/-- Thread `i` handles a validly signed request with the delivery id. -/
def Carries (C : Crates) (config : AppConfig) (calls : ι → Call) (d : String) (i : ι) : Prop :=
  ∃ req, calls i = .webhook req ∧ req.Signed C config ∧ req.deliveryId = some d

/-- An operation that only `processMerge` performs. -/
def Op.InMerge : Op → Prop
  | .attest _ => True
  | .count _ => False
  | .sql s => match s with
    | .selectActiveProgram _ | .selectProgramStatus _ | .selectPayoutId _ _
    | .selectContributorAddress _ _ | .selectRewardPerPoint _ | .insertPayout _ _ _ _ _ _ _
    | .updateMilestoneSpent _ _ => True
    | _ => False

/-- The handler is past the claim, and no statement has failed. -/
def Phase.Past : Phase → Prop
  | .outside | .rejected | .begun | .duplicate | .unseen | .failed => False
  | _ => True

/-! ### The claim -/

omit [DecidableEq ι] in
theorem PastClaim.append (hpast : PastClaim h i d) : PastClaim (h ++ h') i d := by
  obtain ⟨e, he, hclaims⟩ := hpast
  exact ⟨e, List.mem_append_left _ he, hclaims⟩

/-- A delivery id can be claimed when it has no audit row, and has one from then on. -/
theorem seen_of_claims {e : Event ι Op Op.Ans} {s' : Service ι}
    (hs : Service.FaultyStep C config calls s e s') (hclaims : Claims i d e) :
    s.world.db.webhookEvent? d = none ∧ s'.world.db.webhookEvent? d ≠ none := by
  obtain ⟨eventType, rfl⟩ := hclaims
  have hexec : Op.Faulty C.uuids (.sql (.insertWebhookEvent (some d) eventType "pending" none
    (.obj []) .processing none)) s.world (.ok ()) s'.world := hs.answered
  obtain ⟨db', hok, hworld⟩ := hexec.sql_ok
  simp only [Stmt.exec, bind_eq_ok] at hok
  obtain ⟨db, hinsert, hdb⟩ := hok
  cases hdb
  constructor
  · by_contra hseen
    exact Db.insertWebhookEvent_seen C.uuids s.world.db hseen hinsert
  · obtain ⟨row, hadds, hdelivery, -⟩ := Db.insertWebhookEvent_ok hinsert
    rw [hworld, Db.webhookEvent?_ne_none]
    exact ⟨row, hadds.mem_webhookEvents.2 (.inr rfl), hdelivery⟩

theorem Postgres.Db.Grows.seen {db db' : Db} (hgrows : db.Grows db')
    (hseen : db.webhookEvent? d ≠ none) : db'.webhookEvent? d ≠ none := by
  rw [Db.webhookEvent?_ne_none] at hseen ⊢
  obtain ⟨row, hrow, hdelivery⟩ := hseen
  exact ⟨row, hgrows.webhookEvents row hrow, hdelivery⟩

/-- A delivery id that was claimed has an audit row ever after. -/
theorem PastClaim.seen
    (hrun : Run (Service.FaultyStep C config calls) (Service.start C config calls w) h s)
    (hpast : PastClaim h i d) : s.world.db.webhookEvent? d ≠ none := by
  refine hrun.invariant (fun h s => PastClaim h i d → s.world.db.webhookEvent? d ≠ none) ?_ ?_ hpast
  · rintro ⟨e, he, -⟩
    cases he
  · rintro h s e s' - hseen hs ⟨e', he', hclaims⟩
    rcases List.mem_append.1 he' with hold | hnew
    · have hgrows : s.world.db.Grows s'.world.db := hs.answered.grows
      exact hgrows.seen (hseen ⟨e', hold, hclaims⟩)
    · obtain rfl := List.mem_singleton.1 hnew
      exact (seen_of_claims hs hclaims).2

/-- **A delivery id is claimed once**: at most one entry of a history claims it. -/
theorem claimed_once
    (hrun : Run (Service.FaultyStep C config calls) (Service.start C config calls w) h s)
    {e e' : Entry (Service ι) (Event ι Op Op.Ans)} (he : e ∈ h) (he' : e' ∈ h)
    (hclaims : Claims i d e.label) (hclaims' : Claims j d e'.label) : e = e' := by
  induction hrun with
  | nil => cases he
  | @snoc h s s' l hr hs ih =>
    -- What was claimed before has an audit row, and cannot be claimed in the last step.
    have hlast : ∀ {k k'}, Claims k d l → ∀ a ∈ h, ¬ Claims k' d a.label := by
      intro k k' hl a ha hclaimed
      exact PastClaim.seen hr ⟨a, ha, hclaimed⟩ (seen_of_claims hs hl).1
    rcases List.mem_append.1 he with hold | hnew
    · rcases List.mem_append.1 he' with hold' | hnew'
      · exact ih hold hold'
      · obtain rfl := List.mem_singleton.1 hnew'
        exact absurd hclaims (hlast hclaims' e hold)
    · obtain rfl := List.mem_singleton.1 hnew
      rcases List.mem_append.1 he' with hold' | hnew'
      · exact absurd hclaims' (hlast hclaims e' hold')
      · exact (List.mem_singleton.1 hnew').symm

/-! ### What comes after it -/

/-- The operations of `processMerge` come after the claim. -/
theorem Allows.past_of_inMerge {op : Op} (hallowed : Allows C config req m op)
    (hop : op.InMerge) : m.Past := by
  cases hallowed with
  | count | reject | lookUp | claim | audit => exact absurd hop id
  | _ => exact trivial

omit [DecidableEq ι] in
/-- A handler with a delivery id gets past the claim by claiming it. -/
theorem past_next {e : Event ι Op Op.Ans} (hdelivery : req.deliveryId = some d)
    (hallowed : Allows C config req m e.op) (hpast : (m.next e.op e.ans).Past) :
    m.Past ∨ Claims e.thread d e := by
  by_cases hm : m.Past
  · exact .inl hm
  · obtain ⟨i, op, ans⟩ := e
    cases hallowed with
    | count c =>
      rw [Phase.next_count] at hpast
      exact .inl hpast
    | audit hclaimed =>
      rw [Phase.next_audit hclaimed] at hpast
      exact .inl hpast
    | reject => exact absurd hpast id
    | lookUp => rcases ans with err | _ | r <;> exact absurd hpast id
    | claim hclaim =>
      obtain rfl := Option.some.inj (hclaim.symm.trans hdelivery)
      cases ans with
      | ok u => exact .inr ⟨_, rfl⟩
      | error err => exact absurd hpast id
    | _ => exact absurd trivial hm

theorem pastClaim_of_run
    (hrun : Run (Service.FaultyStep C config calls) (Service.start C config calls w) h s)
    (hi : calls i = .webhook req) (hdelivery : req.deliveryId = some d)
    (hpast : (s.phase i).Past) : PastClaim h i d := by
  refine webhook_of_run (K := fun i req m h _ => req.deliveryId = some d → m.Past →
    PastClaim h i d) hrun ?_ ?_ ?_ hi hdelivery hpast
  · intro i req hdelivery hpast
    simp only [startPhase, hdelivery] at hpast
    split_ifs at hpast
    · contradiction
    all_goals exact absurd hpast id
  · intro h s e s' req _ _ _ hallowed hbefore hdelivery hpast
    rcases past_next hdelivery hallowed hpast with hpast | hclaims
    · exact (hbefore hdelivery hpast).append
    · exact ⟨⟨s, e, s'⟩, List.mem_concat_self, hclaims⟩
  · intro i req h s e s' _ hbefore hdelivery hpast
    exact (hbefore hdelivery hpast).append

/-- The operations of `processMerge` are those of webhook handlers. -/
theorem pastClaim_of_inMerge
    (hrun : Run (Service.FaultyStep C config calls) (Service.start C config calls w) h s)
    {e : Entry (Service ι) (Event ι Op Op.Ans)} (he : e ∈ h) (hop : e.label.op.InMerge)
    (hcarries : Carries C config calls d e.label.thread) : PastClaim h e.label.thread d := by
  obtain ⟨req, hcall, -, hdelivery⟩ := hcarries
  obtain ⟨before, after, rfl, hr, hs⟩ := hrun.split he
  have hallowed := allowed_of_run hr hs
  simp only [protocols, hcall] at hallowed
  exact (pastClaim_of_run hr hcall hdelivery (hallowed.past_of_inMerge hop)).append

/-- **A delivery is processed at most once**, in every run: one handler gets past the claim of a
delivery id, and of those with a validly signed request that carries it only this one does anything
of `processMerge`, such as submitting an attestation. -/
theorem delivery_processed_once
    (hrun : Run (Service.FaultyStep C config calls) (Service.start C config calls w) h s)
    (d : String) :
    (∀ i j, PastClaim h i d → PastClaim h j d → i = j) ∧
      (∀ e ∈ h, Carries C config calls d e.label.thread → e.label.op.InMerge →
        PastClaim h e.label.thread d) ∧
      ∀ e ∈ h, ∀ e' ∈ h, Carries C config calls d e.label.thread →
        Carries C config calls d e'.label.thread → e.label.op.InMerge → e'.label.op.InMerge →
        e.label.thread = e'.label.thread := by
  have hone : ∀ i j, PastClaim h i d → PastClaim h j d → i = j := by
    rintro i j ⟨e, he, hclaims⟩ ⟨e', he', hclaims'⟩
    obtain rfl := claimed_once hrun he he' hclaims hclaims'
    obtain ⟨_, heq⟩ := hclaims
    obtain ⟨_, heq'⟩ := hclaims'
    exact congrArg Event.thread (heq.symm.trans heq')
  refine ⟨hone, ?_, ?_⟩
  · intro e he hcarries hop
    exact pastClaim_of_inMerge hrun he hop hcarries
  · intro e he e' he' hcarries hcarries' hop hop'
    exact hone _ _ (pastClaim_of_inMerge hrun he hop hcarries)
      (pastClaim_of_inMerge hrun he' hop' hcarries')

/-- Two deliveries with one id, handled in turns: both look the id up before one of them claims
it. -/
theorem delivery_processed_once_setup :
    let calls : Fin 2 → Call := fun _ => Setup.delivery
    let play := Service.play Setup.crates Setup.config calls Setup.world
      (List.replicate 16 [0, 1]).flatten
    (∃ e ∈ play.1, e.label.op.attested? = some ⟨1, "alice", 42, 1⟩) ∧
      (∀ i j, PastClaim play.1 i "72d3162e" → PastClaim play.1 j "72d3162e" → i = j) := by
  intro calls play
  refine ⟨by decide +kernel, ?_⟩
  exact (delivery_processed_once (faulty_of_run (Service.run_play _ _ calls _ _)) "72d3162e").1

end WaveFlow
