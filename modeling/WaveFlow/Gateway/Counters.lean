import Mathlib.Algebra.BigOperators.Ring.Finset
import WaveFlow.Gateway.Bookkeeping
import WaveFlow.Library.Balance

/-!
# What the counters tell

The gateway has six counters, and a handler steps at most three of them, in the order of one of
five words (`Counter.words`). Which word it is shows in the answer (`Accounts`). `counting` watches
a handler for the counters that it steps, and `counters_tell_answers` adds the handlers up: in every
interleaving, also when the database fails, each counter has grown by what the handlers stepped.
-/

namespace WaveFlow

open Interaction Postgres Transition

/-! ### Words -/

/-- The counters that a handler steps, in order. -/
def Counter.words : List (List Counter) :=
  [ [.webhook, .webhookRejected],
    [.webhook, .webhookIgnored],
    [.webhook, .webhookFailed],
    [.webhook, .contributorNotFound, .webhookFailed],
    [.webhook, .payoutSuccess] ]

/-- A beginning of one of the words. -/
def Begins (word : List Counter) : Prop := word ∈ Counter.words.flatMap List.inits

instance (word : List Counter) : Decidable (Begins word) :=
  inferInstanceAs (Decidable (word ∈ Counter.words.flatMap List.inits))

/-- The request was counted, and none of the four outcomes. -/
def Undecided (word : List Counter) : Prop :=
  word = [.webhook] ∨ word = [.webhook, .contributorNotFound]

instance (word : List Counter) : Decidable (Undecided word) :=
  inferInstanceAs (Decidable (_ ∨ _))

/-- A request has an outcome, or is undecided. -/
theorem Begins.outcomes {word : List Counter} (h : Begins word) :
    word.count .webhook = word.count .webhookRejected + word.count .webhookIgnored +
      word.count .webhookFailed + word.count .payoutSuccess +
        if Undecided word then 1 else 0 := by
  have hall : ∀ word ∈ Counter.words.flatMap List.inits,
      word.count .webhook = word.count .webhookRejected + word.count .webhookIgnored +
        word.count .webhookFailed + word.count .payoutSuccess +
          if Undecided word then 1 else 0 := by decide
  exact hall word h

/-- The counter that an operation steps. -/
def Op.counter? : Op → Option Counter
  | .count c => some c
  | _ => none

/-- The operation steps no counter. -/
def Op.Uncounted : Op → Prop
  | .count _ => False
  | _ => True

theorem Op.Uncounted.counter? {op : Op} (h : op.Uncounted) : op.counter? = none := by
  cases op with
  | count c => exact absurd h id
  | _ => rfl

/-- The word of a handler, as an observer keeps it. -/
def counting : Protocol Op Op.Ans (List Counter) where
  allows word op := ∀ c, op.counter? = some c → Begins (word ++ [c])
  next word op _ := word ++ op.counter?.toList

theorem counting_ignores (word : List Counter) : counting.Ignores word Op.Uncounted := by
  intro op hop
  refine ⟨fun c hc => ?_, fun ans => ?_⟩
  · rw [hop.counter?] at hc
    cases hc
  · show word ++ op.counter?.toList = word
    rw [hop.counter?, Option.toList_none, List.append_nil]

theorem counts_count {α : Type} {word : List Counter} {c : Counter} (hc : Begins (word ++ [c]))
    {f : Unit → Action α} {Q : List Counter → α → Prop}
    (hf : Follows counting (word ++ [c]) (f ()) Q) :
    Follows counting word (count c >>= f) Q := by
  refine ⟨fun c' hc' => ?_, fun _ => hf⟩
  obtain rfl := Option.some.inj hc'
  exact hc

/-! ### Answers -/

variable {C : Crates} {config : AppConfig} {req : Request}

/-- What a handler has stepped when `process_merge` ends. -/
inductive MergeAccounts : List Counter → Except WaveFlowError Json → Prop
  | error (err : WaveFlowError) : MergeAccounts [.webhook] (.error err)
  | unregistered (id : Uuid) (username : String) :
      MergeAccounts [.webhook, .contributorNotFound] (.error (notRegistered id username))
  | alreadyProcessed (id : Uuid) (pr : UInt64) (existing : Option Uuid) :
      MergeAccounts [.webhook] (.ok (alreadyProcessed id pr existing))
  | processed (id payoutId : Uuid) (txHash : String) :
      MergeAccounts [.webhook] (.ok (processed id payoutId txHash))

variable (C config req) in
/-- The word and the answer of a handler that has ended. -/
inductive Accounts : List Counter → Response → Prop
  /-- The handler was not reached. -/
  | oversized (h : ¬ req.BodyFits) : Accounts [] payloadTooLarge
  | rejected (h : ¬ req.Signed C config) (err : WaveFlowError) :
      Accounts [.webhook, .webhookRejected] (mapError err)
  | duplicate {d : String} (h : req.deliveryId = some d) :
      Accounts [.webhook] (duplicateDelivery d)
  /-- The delivery id could not be reserved, or the body is malformed. -/
  | refused (err : WaveFlowError) : Accounts [.webhook] (mapError err)
  | unsupported (h : req.eventType ≠ "pull_request") :
      Accounts [.webhook] ⟨200, outcome "ignored" []⟩
  | ignored {err : WaveFlowError} (h : err.isValidation) :
      Accounts [.webhook, .webhookIgnored]
        ⟨200, outcome "ignored" [("reason", .str err.toText)]⟩
  | failed {err : WaveFlowError} (h : ¬ err.isValidation) :
      Accounts [.webhook, .webhookFailed] (mapError err)
  | unregistered (id : Uuid) (username : String) :
      Accounts [.webhook, .contributorNotFound, .webhookFailed]
        (mapError (notRegistered id username))
  | alreadyProcessed (id : Uuid) (pr : UInt64) (existing : Option Uuid) :
      Accounts [.webhook, .payoutSuccess] ⟨200, WaveFlow.alreadyProcessed id pr existing⟩
  | processed (id payoutId : Uuid) (txHash : String) :
      Accounts [.webhook, .payoutSuccess] ⟨200, WaveFlow.processed id payoutId txHash⟩

/-! ### The handler -/

theorem uncounted_audit {delivery : Option String} (eventType repo : String)
    (number : Option Int64) (payload : Json) (status : EventStatus) (error : Option String) :
    Op.Uncounted (.sql (.insertWebhookEvent delivery eventType repo number payload status error)) :=
  trivial

theorem counts_contributorAddress (id : Uuid) (username : String) :
    Follows counting [.webhook] (contributorAddress id username).run fun word r => match r with
      | .ok _ => word = [.webhook]
      | .error err => MergeAccounts word (.error err) := by
  refine follows_except_bind (follows_bind ?_)
  refine follows_except_bind (follows_query (fun c hc => by cases hc) ?_ fun e => .error _)
  rintro (_ | address)
  · refine ⟨fun c hc => ?_, fun _ => .unregistered id username⟩
    obtain rfl := Option.some.inj hc
    exact show Begins [.webhook, .contributorNotFound] by decide
  · exact rfl

theorem uses_recordMerge {allowed : Op → Prop} {merge : MergeAttestation} {id : Uuid}
    {address : String} {amount : ℤ} {txHash : String} {payload : Json} {delivery : Option String}
    (hpay : ∀ pr value, allowed (.sql (.insertPayout id pr merge.githubUsername address
      (pointsColumn merge.points) value txHash)))
    (hraise : ∀ value, allowed (.sql (.updateMilestoneSpent value id)))
    (haudit : ∀ eventType repo number payload status error, allowed
      (.sql (.insertWebhookEvent delivery eventType repo number payload status error))) :
    Uses allowed (recordMerge merge id address amount txHash payload delivery).run := by
  refine uses_except_bind ?_ fun payoutId => uses_except_bind ?_ fun _ =>
    uses_except_bind (uses_persistWebhookEvent haudit) fun _ => trivial
  · unfold persistPayout
    split
    · exact trivial
    · exact trivial
    · exact uses_query (hpay _ _)
  · unfold incrementMilestoneSpent
    split
    · exact uses_except_bind (uses_query (hraise _)) fun _ => trivial
    · exact trivial

theorem counts_processMerge (event : GitHubPullRequestEvent) (payload : Json)
    (delivery : Option String) :
    Follows counting [.webhook] (processMerge config event payload delivery).run
      MergeAccounts := by
  have hignores := counting_ignores [.webhook]
  unfold processMerge
  cases parseMergeEvent event with
  | error err => exact .error err
  | ok merge =>
    rw [ofResult_ok_bind]
    refine (uses_resolveProgramId trivial).ignored_try hignores (fun program => ?_) .error
    refine (uses_loadProgramStatus trivial).ignored_try hignores (fun status => ?_) .error
    split_ifs
    · exact .error _
    · refine (uses_payoutExists trivial).ignored_try hignores (fun paid => ?_) .error
      cases paid with
      | true =>
        exact (uses_fetchPayoutId trivial).ignored_try hignores
          (fun existing => .alreadyProcessed _ _ existing) .error
      | false =>
        refine follows_except_bind ((counts_contributorAddress _ _).mono fun word r hr => ?_)
        cases r with
        | error err => exact hr
        | ok address =>
          subst hr
          refine (uses_submitAttestation trivial).ignored_try hignores (fun txHash => ?_) .error
          refine (uses_loadRewardPerPoint trivial).ignored_try hignores (fun reward => ?_) .error
          exact (uses_recordMerge (fun _ _ => trivial) (fun _ => trivial)
            uncounted_audit).ignored_try hignores (fun payoutId => .processed _ payoutId _) .error

/-- An outcome is counted, and then recorded. -/
theorem counts_outcome {word : List Counter} {c : Counter} (hc : Begins (word ++ [c]))
    {delivery : Option String} {eventType repo : String} {number : Option UInt64} {payload : Json}
    {status : EventStatus} {error : Option String} {response : Response}
    (hend : Accounts C config req (word ++ [c]) response) :
    Follows counting word (do
        count c
        let _ ← (persistWebhookEvent delivery eventType repo number payload status error).run
        return response) (Accounts C config req) :=
  counts_count hc ((uses_persistWebhookEvent uncounted_audit).ignored_bind (counting_ignores _)
    fun _ => hend)

theorem counts_answerMerge {word : List Counter} {r : Except WaveFlowError Json}
    (h : MergeAccounts word r) (eventType : String) (delivery : Option String) (payload : Json) :
    Follows counting word (answerMerge eventType delivery payload r) (Accounts C config req) := by
  cases h with
  | alreadyProcessed id pr existing =>
    exact counts_count (by decide) (.alreadyProcessed id pr existing)
  | processed id payoutId txHash => exact counts_count (by decide) (.processed id payoutId txHash)
  | unregistered id username => exact counts_outcome (by decide) (.unregistered id username)
  | error err =>
    simp only [answerMerge]
    split_ifs with hvalidation
    · exact counts_outcome (by decide) (.ignored hvalidation)
    · exact counts_outcome (by decide) (.failed hvalidation)

theorem counts_handleBody :
    Follows counting [.webhook] (handleBody C config req) (Accounts C config req) := by
  unfold handleBody
  cases C.fromSlice req.body with
  | error text => exact .refused _
  | ok payload =>
    simp only
    split_ifs with htype
    · exact (uses_persistWebhookEvent uncounted_audit).ignored_bind (counting_ignores _)
        fun _ => .unsupported htype
    · cases GitHubPullRequestEvent.fromValue payload with
      | none => exact .refused _
      | some event =>
        exact follows_bind ((counts_processMerge event payload req.deliveryId).mono
          fun word r h => counts_answerMerge h _ _ _)

variable (C config req) in
theorem counts_reserveDelivery :
    Follows counting [.webhook] (reserveDelivery req.deliveryId req.eventType) fun word r =>
      r.elim (word = [.webhook]) (Accounts C config req word) := by
  cases hdelivery : req.deliveryId with
  | none => exact rfl
  | some d =>
    have hignores := counting_ignores [.webhook]
    have hseen : Uses Op.Uncounted (deliveryIdSeen d).run :=
      uses_except_bind (uses_query trivial) fun _ => trivial
    have hclaim : Uses Op.Uncounted (claimDeliveryId d req.eventType).run := uses_query trivial
    refine hseen.ignored_bind hignores fun seen => ?_
    split_ifs
    · exact .duplicate hdelivery
    · refine hclaim.ignored_bind hignores fun claimed => ?_
      cases claimed with
      | ok u => exact rfl
      | error err => exact .refused err

theorem counts_githubWebhook :
    Follows counting [] (githubWebhook C config req) (Accounts C config req) := by
  apply counts_count (by decide)
  cases hverify : verifyGithubSignature C config.githubWebhookSecret req.body req.signature with
  | error err =>
    have hunsigned : ¬ req.Signed C config := by
      intro hsigned
      rw [Request.Signed, hverify] at hsigned
      cases hsigned
    exact counts_outcome (by decide) (.rejected hunsigned err)
  | ok u =>
    refine follows_bind ((counts_reserveDelivery C config req).mono fun word r h => ?_)
    cases r with
    | some response => exact h
    | none =>
      subst h
      exact counts_handleBody

variable (C config) in
/-- The word and the answer of a thread that has ended. -/
def Call.Accounts : Call → List Counter → Response → Prop
  | .webhook req, word, r => WaveFlow.Accounts C config req word r
  | .admin _, word, _ => word = []

theorem Call.counts (call : Call) :
    Follows counting [] (call.handler C config) (call.Accounts C config) := by
  cases call with
  | webhook req => exact follows_route (fun _ => counts_githubWebhook) .oversized
  | admin a =>
    have huses : Uses Op.Uncounted a.handler := by
      apply (a.uses (m := ())).uses
      intro op hop
      cases hop <;> exact trivial
    exact huses.ignored (counting_ignores [])

/-! ### Runs -/

variable {ι : Type} [DecidableEq ι] {calls : ι → Call} {source : UuidSource} {w w' : World}
  {s s' : Service ι} {h : List (Entry (Service ι) (Event ι Op Op.Ans))}

/-- The counters that a thread has stepped. -/
def stepped (i : ι) (h : List (Entry (Service ι) (Event ι Op Op.Ans))) : List Counter :=
  h.filterMap fun e => if e.label.thread = i then e.label.op.counter? else none

theorem stepped_snoc (i : ι) (e : Entry (Service ι) (Event ι Op Op.Ans)) :
    stepped i (h ++ [e]) =
      stepped i h ++ if e.label.thread = i then e.label.op.counter?.toList else [] := by
  rw [stepped, List.filterMap_append, stepped]
  by_cases hi : e.label.thread = i
  · rw [if_pos hi, List.filterMap_cons, if_pos hi]
    cases e.label.op.counter? <;> rfl
  · rw [if_neg hi, List.filterMap_cons, if_neg hi]
    rfl

theorem watch_counting (hrun : Run (Service.FaultyStep C config calls) s' h s) (i : ι) :
    Pool.watch counting [] i h = stepped i h := by
  induction hrun with
  | nil => rfl
  | @snoc h s s' e hr hs ih =>
    rw [Pool.watch_snoc, stepped_snoc, ih]
    split_ifs
    · rfl
    · rw [List.append_nil]

theorem Op.Faulty.counters {op : Op} {ans : op.Ans} (h : op.Faulty source w ans w') (c : Counter) :
    w'.counters c = w.counters c + op.counter?.toList.count c := by
  cases h with
  | lost => rfl
  | unheard => rfl
  | done h =>
    cases op with
    | attest r =>
      cases h
      rfl
    | sql q =>
      cases ans with
      | error e =>
        obtain ⟨-, rfl⟩ := h.sql_error
        rfl
      | ok r =>
        obtain ⟨db, -, rfl⟩ := h.sql_ok
        rfl
    | count c' =>
      cases h
      show Function.update w.counters c' (w.counters c' + 1) c = w.counters c + [c'].count c
      by_cases hc : c = c'
      · subst hc
        rw [Function.update_self, List.count_singleton_self]
      · rw [Function.update_of_ne hc, List.count_singleton, if_neg (by simpa using Ne.symm hc)]
        rfl

/-- What a thread changes of a counter is how often it has stepped it. -/
theorem threadSum_counter (hrun : Run (Service.FaultyStep C config calls) s' h s) (c : Counter)
    (i : ι) :
    threadSum Event.thread (Entry.change fun s => (s.world.counters c : ℤ)) i h =
      (stepped i h).count c := by
  induction hrun with
  | nil => rfl
  | @snoc h s s' e hr hs ih =>
    rw [threadSum_snoc, ih, stepped_snoc, List.count_append, Nat.cast_add, add_right_inj]
    have hcounters := Op.Faulty.counters hs.answered c
    split_ifs
    · simp only [Entry.change, hcounters]
      omega
    · rfl

/-- Each counter has grown by what the threads stepped. -/
theorem counters_of_run
    (hrun : Run (Service.FaultyStep C config calls) (Service.start C config calls w) h s)
    (c : Counter) :
    s.world.counters c =
      w.counters c + ∑ i ∈ threads Event.thread h, (stepped i h).count c := by
  have hsum := hrun.sum_threads Event.thread fun s => (s.world.counters c : ℤ)
  simp only [threadSum_counter hrun] at hsum
  change (s.world.counters c : ℤ) = (w.counters c : ℤ) + _ at hsum
  exact_mod_cast hsum

/-- What a thread has stepped begins a word, and says how the thread ended. -/
theorem accounts_of_run
    (hrun : Run (Service.FaultyStep C config calls) (Service.start C config calls w) h s) (i : ι) :
    Begins (stepped i h) ∧
      ∀ r, s.prog i = .ret r → (calls i).Accounts C config (stepped i h) r := by
  have hfollow : ∀ i, Follows counting [] ((Service.start C config calls w).prog i)
      ((calls i).Accounts C config) := fun i => (calls i).counts
  constructor
  · rw [← watch_counting hrun]
    refine Pool.watched_of_run (J := fun _ word _ _ => Begins word) (R := fun _ => counting) hrun
      hfollow (fun _ => by decide) ?_ (fun _ _ _ _ _ _ _ _ hbegins => hbegins) i
    intro h s e s' _ _ hallowed hbegins
    show Begins (_ ++ e.op.counter?.toList)
    cases hc : e.op.counter? with
    | none => rwa [Option.toList_none, List.append_nil]
    | some c => exact hallowed c hc
  · intro r hr
    have hends := Pool.follows_watch (R := fun _ => counting) hrun hfollow i
    rwa [hr, watch_counting hrun] at hends

namespace Setup

/-- A merge, and a request with a bad signature. -/
def counted : Fin 2 → Call
  | 0 => .webhook (deliver signature none)
  | 1 => .webhook (deliver "sha256=00" none)

def countedRun := Service.play crates Setup.config counted world [0, 1, 0, 1, 0, 0, 1, 0, 0, 0]

theorem run_counted :
    Run (Service.FaultyStep crates Setup.config counted)
      (Service.start crates Setup.config counted world) countedRun.1 countedRun.2 :=
  faulty_of_run (Service.run_play crates Setup.config counted world _)

end Setup

example : stepped 1 Setup.countedRun.1 = [.webhook, .webhookRejected] := by decide +kernel

end WaveFlow
