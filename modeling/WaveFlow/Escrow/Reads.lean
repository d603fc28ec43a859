import WaveFlow.Escrow.AccountRefinement
import WaveFlow.Escrow.ProcessedPrs

/-!
# The read-only entry points

`get_program`, `get_escrow_balance`, `is_processed` and `admin` are open to everybody and change
nothing. What they answer is a matter of the history of the run (`reads_tell_history`): the programs
are numbered in the order of their creation, a pull request is processed when a merge of it
succeeded, the balance is what came in less what went out. And what they have once answered stays
true of what they answer later (`reads_last`).
-/

namespace WaveFlow.Escrow

open Contract Transition

variable {H : Host} {env env' : Env H} {auths : Finset Address} {l : Label} {h : History H}
  {p : UInt64} {gateway token : Address}

def getProgram (programId : UInt64) : Contract H Program := readProgram programId

def getEscrowBalance (programId : UInt64) : Contract H ℤ := do
  return (← readProgram programId).escrowBalance

def isProcessed (programId prNumber : UInt64) : Contract H Bool := isPrProcessed programId prNumber

def admin : Contract H Address := readAdmin

/-! ### What a read answers -/

theorem getProgram_exec (auths : Finset Address) (env : Env H) (p : UInt64) :
    (getProgram p).exec auths env =
      (env.persistent.program p).elim (.error (.error .programNotFound)) fun x => .ok (x, env) := by
  unfold getProgram
  cases hx : env.persistent.program p with
  | some x => exact readProgram_ok.2 ⟨hx, rfl⟩
  | none =>
    have hlookup : env.persistent.lookup (.program p) = none := hx
    simp only [readProgram, persistentGet, bind, hlookup, orFail, fail, Option.elim_none]

theorem getEscrowBalance_exec (auths : Finset Address) (env : Env H) {p : UInt64} {x : Program}
    (hx : env.persistent.program p = some x) :
    (getEscrowBalance p).exec auths env = .ok (escrowAt env.persistent p, env) := by
  rw [escrowAt_of_program hx]
  simp [getEscrowBalance, hx]

theorem isProcessed_exec (auths : Finset Address) (env : Env H) (p n : UInt64) :
    (isProcessed p n).exec auths env = .ok ((env.persistent.processedPr p n).getD false, env) :=
  isPrProcessed_ok.2 ⟨rfl, rfl⟩

/-! ### Numbering -/

/-- The step created a program. -/
def Label.creation : Label → Bool
  | .ok _ (.createProgram _ _ _ _) _ => true
  | _ => false

/-- The step created program `p`. -/
def Label.creates (p : UInt64) : Label → Bool
  | .ok _ (.createProgram _ _ _ _) (.programId q) => p = q
  | _ => false

/-- How many programs were created. -/
def creations (h : History H) : ℕ := h.countP fun e => e.label.creation

theorem creations_snoc (h : History H) (e : Entry (Env H) Label) :
    creations (h ++ [e]) = creations h + if e.label.creation then 1 else 0 := by
  simp [creations, List.countP_append, List.countP_singleton]

theorem Step.counter (hstep : Step env l env') (hinit : Initialised gateway token env) :
    env'.counter.toNat = env.counter.toNat + (if l.creation then 1 else 0) ∧
      ∀ p, env'.persistent.program p ≠ none ↔
        env.persistent.program p ≠ none ∨
          (l.creation = true ∧ p.toNat = env.counter.toNat + 1) := by
  rcases hstep.cases with ⟨auths, call, value, rfl, heff⟩ | ⟨⟨auths, call, why, rfl⟩, rfl⟩ |
    ⟨rfl, tokens, -, rfl⟩
  · cases heff with
    | initialise hnew => exact absurd hnew hinit.admin
    | @createProgram maintainer repo reward cap q hauth hreward hrepo hid =>
      have hq : q.toNat = env.counter.toNat + 1 := toNat_of_addU64 hid
      refine ⟨?_, fun p => ?_⟩
      · simpa [Env.counter, Label.creation] using hq
      · rw [Storage.program_insert_program, ← hq, UInt64.toNat_inj]
        split_ifs with hp
        · simp [hp, Label.creation]
        · simp [hp]
    | registerContributor => exact ⟨rfl, fun p => by simp [Label.creation]⟩
    | withdrawNothing => exact ⟨rfl, fun p => by simp [Label.creation]⟩
    | _ =>
      -- The record of a program that is there is written anew.
      refine ⟨rfl, fun p => ?_⟩
      simp only [Storage.program_insert_processedPr, Storage.program_insert_program,
        Label.creation]
      split_ifs with hp
      · subst hp
        simp [*]
      · simp
  · exact ⟨rfl, fun p => by simp [Label.creation]⟩
  · exact ⟨rfl, fun p => by simp [Label.creation]⟩

/-- The counter is the number of programs, and these are numbered from one on. -/
structure Numbered (h : History H) (env : Env H) : Prop where
  counter : env.counter.toNat = creations h
  stored : ∀ p, env.persistent.program p ≠ none ↔ 0 < p.toNat ∧ p.toNat ≤ creations h

theorem Numbered.step (hnum : Numbered h env) (hinit : Initialised gateway token env)
    (hstep : Step env l env') : Numbered (h ++ [⟨env, l, env'⟩]) env' := by
  obtain ⟨hcounter, hstored⟩ := hstep.counter hinit
  rw [hnum.counter] at hcounter hstored
  refine ⟨?_, fun p => ?_⟩
  · rw [creations_snoc, hcounter]
  · rw [creations_snoc, hstored p, hnum.stored p]
    cases hl : l.creation with
    | true =>
      simp only [if_true, true_and]
      omega
    | false => simp

theorem numbered_of_run {tokens : Address → H.token.State} {auths₀ : Finset Address}
    {admin : Address} {value₀ : Value} {env₀ : Env H}
    (hinit : Step (deploy tokens) (.ok auths₀ (.initialise admin gateway token) value₀) env₀)
    (hrun : Run Step env₀ h env) : Numbered h env := by
  obtain ⟨hset, hempty⟩ := initialised_of_step hinit
  have hboth : Initialised gateway token env ∧ Numbered h env := by
    refine hrun.invariant (fun h env => Initialised gateway token env ∧ Numbered h env)
      ⟨hset, ?_, ?_⟩ (fun _ _ _ _ _ hboth hstep => ⟨hboth.1.step hstep, hboth.2.step hboth.1 hstep⟩)
    · cases hinit.effect with
      | initialise => simp [Env.counter, Storage.bootstrap, creations, Storage.programCounter]
    · intro p
      rw [hempty]
      simp [creations]
      omega
  exact hboth.2

/-- A creation returns the next number. -/
theorem Numbered.created (hnum : Numbered h env) (hstep : Step env l env') {q : UInt64}
    (hl : l.creates q = true) : q.toNat = creations h + 1 := by
  rcases hstep.cases with ⟨auths, call, value, rfl, heff⟩ | ⟨⟨auths, call, why, rfl⟩, rfl⟩ |
    ⟨rfl, tokens, -, rfl⟩
  · cases heff with
    | @createProgram maintainer repo reward cap p hauth hreward hrepo hid =>
      obtain rfl : q = p := by simpa [Label.creates] using hl
      rw [toNat_of_addU64 hid, ← hnum.counter]
      rfl
    | _ => cases hl
  · cases hl
  · cases hl

/-! ### Reading the history -/

theorem Step.admin_kept (hstep : Step env l env') {admin : Address}
    (hadmin : env.instanceStorage.admin = some admin) :
    env'.instanceStorage.admin = some admin := by
  rcases hstep.cases with ⟨auths, call, value, rfl, heff⟩ | ⟨-, rfl⟩ | ⟨-, tokens, -, rfl⟩
  · cases heff with
    | initialise hnew =>
      rw [hnew] at hadmin
      cases hadmin
    | createProgram => simpa using hadmin
    | _ => exact hadmin
  · exact hadmin
  · exact hadmin

theorem Label.any_marks (l : Label) (p n : UInt64) :
    (l.operation p).any (Operation.marks n) = l.merges p n := by
  cases l with
  | ok auths call value =>
    cases call with
    | initialise => simp [Label.operation, Label.merges, Call.operation?]
    | createProgram =>
      cases value with
      | programId q =>
        simp only [Label.operation, Label.merges]
        split_ifs <;> rfl
      | unit => simp [Label.operation, Label.merges, Call.operation?]
      | amount => simp [Label.operation, Label.merges, Call.operation?]
    | recordMerge gateway q user m points =>
      simp only [Label.operation, Label.merges, Call.program?, Call.operation?, Option.some.injEq]
      by_cases hq : q = p
      · simp [hq, Operation.marks, @eq_comm _ n]
      · simp [hq]
    | _ =>
      simp only [Label.operation, Label.merges, Call.operation?]
      split_ifs <;> rfl
  | failed => rfl
  | outside => rfl

/-- A pull request of a program was paid when a merge of it succeeded. -/
theorem any_operationsOn (h : History H) (p n : UInt64) :
    (operationsOn p h).any (Operation.marks n) = h.any fun e => e.label.merges p n := by
  unfold operationsOn
  induction h with
  | nil => rfl
  | cons e h ih =>
    rw [List.any_cons, ← ih, ← Label.any_marks]
    cases hop : e.label.operation p with
    | none => simp [hop]
    | some op => simp [hop]

/-- **The read-only entry points tell the history.** In every run that begins with `initialise`,
whoever asks and in every state: `admin` names the admin of `initialise`; a pull request is
processed exactly when a merge of it succeeded; the programs are those numbered up to the number of
creations, each of which returned the next number; and a program has the maintainer who created it,
the reward last set, the status of the last pause or resume, and what came in less what went out. -/
theorem reads_tell_history {tokens : Address → H.token.State} {auths₀ : Finset Address}
    {admin : Address} {value₀ : Value} {env₀ : Env H}
    (hinit : Step (deploy tokens) (.ok auths₀ (.initialise admin gateway token) value₀) env₀)
    (hrun : Run Step env₀ h env) (auths : Finset Address) :
    Escrow.admin.exec auths env = .ok (admin, env) ∧
      (∀ p n, (isProcessed p n).exec auths env =
        .ok (h.any fun e => e.label.merges p n, env)) ∧
      (∀ p, (∃ x, (getProgram p).exec auths env = .ok (x, env)) ↔
        0 < p.toNat ∧ p.toNat ≤ creations h) ∧
      (∀ before e after q, h = before ++ e :: after → e.label.creates q = true →
        q.toNat = creations before + 1) ∧
      ∀ p x, (getProgram p).exec auths env = .ok (x, env) →
        (getEscrowBalance p).exec auths env =
          .ok (sumIn (Label.funded p) h - sumIn (Label.merged p) h - sumIn (Label.withdrawn p) h,
            env) ∧
        some x.maintainer = lastIn (Label.creator p) h ∧
        some x.rewardPerPoint = lastIn (Label.ratio p) h ∧
        x.status = (lastIn (Label.toggle p) h).getD .active := by
  have hrecorded := (regular_of_run hinit hrun).recorded
  refine ⟨?_, fun p n => ?_, fun p => ?_, fun before e after q hh hq => ?_, fun p x hx => ?_⟩
  · refine readAdmin_ok.2 ⟨?_, rfl⟩
    refine hrun.invariant_state (fun env => env.instanceStorage.admin = some admin) ?_
      (fun _ _ _ hadmin hstep => hstep.admin_kept hadmin)
    cases hinit.effect with
    | initialise => simp
  · have hprocessed := processed_of_replay (account_replayed hinit hrun p) n
    rw [any_operationsOn, Storage.account_processed] at hprocessed
    rw [isProcessed_exec, hprocessed]
  · rw [← (numbered_of_run hinit hrun).stored p, getProgram_exec]
    cases env.persistent.program p with
    | none => simp
    | some x => simp
  · subst hh
    obtain ⟨hbefore, hstep, -⟩ := hrun.around
    exact (numbered_of_run hinit hbefore).created hstep hq
  · obtain ⟨hprogram, -⟩ := readProgram_ok.1 hx
    refine ⟨?_, ?_, ?_, hrecorded.status p x hprogram⟩
    · rw [getEscrowBalance_exec auths env hprogram, hrecorded.escrow p]
    · rw [← hrecorded.creator p, hprogram]
      rfl
    · rw [← hrecorded.ratio p, hprogram]
      rfl

theorem reads_tell_history_setup :
    let r₀ := perform (deploy Setup.tokens) {Setup.admin}
      (.initialise Setup.admin Setup.gateway Setup.token)
    let r := performAll r₀.2 Setup.calls.tail
    Escrow.admin.exec ∅ r.2 = .ok (Setup.admin, r.2) ∧
      ∀ p n, (isProcessed p n).exec ∅ r.2 = .ok (r.1.any fun e => e.label.merges p n, r.2) :=
  have htold := reads_tell_history (step_of_perform {Setup.admin}
    (.initialise Setup.admin Setup.gateway Setup.token) .unit (by decide +kernel))
    (run_performAll _ Setup.calls.tail) ∅
  ⟨htold.1, htold.2.1⟩

/-! ### What stays true -/

/-- What was read of a program stays true of it. -/
theorem account_extends_of_run {tokens : Address → H.token.State} {auths₀ : Finset Address}
    {admin : Address} {value₀ : Value} {env₀ : Env H} {h' : History H}
    (hinit : Step (deploy tokens) (.ok auths₀ (.initialise admin gateway token) value₀) env₀)
    (hrun : Run Step env₀ h env) (hrun' : Run Step env h' env') (p : UInt64) :
    (env.persistent.account p).Extends (env'.persistent.account p) := by
  have hreg := regular_of_run hinit hrun
  have hdrives : ∀ e ∈ h', Drives Account.next (fun env : Env H => env.persistent.account p)
      (fun e => e.label.operation p) e := by
    intro e he
    obtain ⟨before, -, -, hbefore, hstep⟩ := hrun'.split he
    have hlater := hbefore.invariant (fun h' env => Regular gateway token (h ++ h') env)
      (by rwa [List.append_nil])
      (fun h' s l s' _ hreg hs => by
        rw [← List.append_assoc]
        exact hreg.step hs)
    exact hstep.drives hlater.allocated p
  exact Account.extends_of_replay (hrun'.replayed hdrives)

/-- **What was once read stays true.** From any state of a run that begins with `initialise` to any
later one: the admin is the same; a processed pull request stays processed and a registered wallet
registered; a program is still there, with its maintainer, its repo and its cap, and its milestone
counter never falls. -/
theorem reads_last {tokens : Address → H.token.State} {auths₀ : Finset Address} {admin : Address}
    {value₀ : Value} {env₀ : Env H} {h' : History H}
    (hinit : Step (deploy tokens) (.ok auths₀ (.initialise admin gateway token) value₀) env₀)
    (hrun : Run Step env₀ h env) (hrun' : Run Step env h' env') (auths : Finset Address) :
    (∀ a, Escrow.admin.exec auths env = .ok (a, env) →
        Escrow.admin.exec auths env' = .ok (a, env')) ∧
      (∀ p n, (isProcessed p n).exec auths env = .ok (true, env) →
        (isProcessed p n).exec auths env' = .ok (true, env')) ∧
      (∀ p user c, (readContributor p user).exec auths env = .ok (c, env) →
        (readContributor p user).exec auths env' = .ok (c, env')) ∧
      ∀ p x, (getProgram p).exec auths env = .ok (x, env) →
        ∃ y, (getProgram p).exec auths env' = .ok (y, env') ∧ y.maintainer = x.maintainer ∧
          y.githubRepo = x.githubRepo ∧ y.milestoneCap = x.milestoneCap ∧
          x.milestoneSpent ≤ y.milestoneSpent := by
  have hextends := account_extends_of_run hinit hrun hrun'
  refine ⟨fun a ha => ?_, fun p n hn => ?_, fun p user c hc => ?_, fun p x hx => ?_⟩
  · refine readAdmin_ok.2 ⟨?_, rfl⟩
    exact hrun'.invariant_state (fun env => env.instanceStorage.admin = some a)
      (readAdmin_ok.1 ha).1 (fun _ _ _ hadmin hstep => hstep.admin_kept hadmin)
  · exact isPrProcessed_ok.2 ⟨(hextends p).processed n (isPrProcessed_ok.1 hn).1, rfl⟩
  · exact readContributor_ok.2 ⟨(hextends p).contributor user c (readContributor_ok.1 hc).1, rfl⟩
  · obtain ⟨hprogram, -⟩ := readProgram_ok.1 hx
    have hreward := (regular_of_run hinit hrun).rewards p x hprogram
    obtain ⟨y, hy, -, hmaintainer, hrepo, hcap, hspent⟩ :=
      (hextends p).program x hprogram hreward
    exact ⟨y, readProgram_ok.2 ⟨hy, rfl⟩, hmaintainer, hrepo, hcap, hspent⟩

/-- The merge of the contract's tests, and a pause after it. -/
theorem reads_last_setup :
    let r₀ := perform (deploy Setup.tokens) {Setup.admin}
      (.initialise Setup.admin Setup.gateway Setup.token)
    let r := performAll r₀.2 Setup.calls.tail
    let r' := performAll r.2 [({Setup.maintainer}, .pause 1 Setup.maintainer)]
    (isProcessed 1 42).exec ∅ r'.2 = .ok (true, r'.2) :=
  (reads_last (step_of_perform {Setup.admin}
    (.initialise Setup.admin Setup.gateway Setup.token) .unit (by decide +kernel))
    (run_performAll _ Setup.calls.tail)
    (run_performAll _ [({Setup.maintainer}, .pause 1 Setup.maintainer)]) ∅).2.1 1 42
    (isPrProcessed_ok.2 ⟨by decide +kernel, rfl⟩)

end WaveFlow.Escrow
