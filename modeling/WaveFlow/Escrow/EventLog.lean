import WaveFlow.Escrow.ProgramHistory

/-!
# Rebuilding the programs from the event log

An indexer folds the published events into a table of programs. `Announced` says of a step that it
changes nothing it does not publish: `set_ratio` and `withdraw_remaining` publish no event, so the
one must set the price that stands and the other find the escrow empty. The table agrees with the
storage in every state of a run if and only if every step is announced (`events_rebuild_programs`).
-/

namespace WaveFlow.Escrow

open Transition

variable {H : Host} {env env' : Env H} {l : Label} {p : UInt64} {h : History H}

/-! ### The indexer -/

/-- What the events tell of a program. -/
structure Indexed where
  maintainer : Address
  rewardPerPoint : ℤ
  escrowBalance : ℤ
  status : ProgramStatus
  deriving DecidableEq

def Program.indexed (x : Program) : Indexed where
  maintainer := x.maintainer
  rewardPerPoint := x.rewardPerPoint
  escrowBalance := x.escrowBalance
  status := x.status

/-- An indexer's table of programs. -/
abbrev Index := UInt64 → Option Indexed

/-- Change the entry of one program, if there is one. -/
def Index.modify (index : Index) (p : UInt64) (f : Indexed → Indexed) : Index :=
  Function.update index p ((index p).map f)

/-- Take one event into the table. -/
def Index.apply (index : Index) : Event → Index
  | .programCreated p maintainer _ rewardPerPoint =>
    Function.update index p (some ⟨maintainer, rewardPerPoint, 0, .active⟩)
  | .funded p amount _ =>
    index.modify p fun x => { x with escrowBalance := x.escrowBalance + amount }
  | .contributorRegistered _ _ _ => index
  | .mergeRecorded p _ _ _ payoutAmount =>
    index.modify p fun x => { x with escrowBalance := x.escrowBalance - payoutAmount }
  | .programPaused p => index.modify p fun x => { x with status := .paused }
  | .programResumed p => index.modify p fun x => { x with status := .active }

/-- The table after a log of events. -/
def Index.ofEvents (events : List Event) : Index := events.foldl Index.apply fun _ => none

@[simp] theorem Index.ofEvents_snoc (events : List Event) (ev : Event) :
    Index.ofEvents (events ++ [ev]) = (Index.ofEvents events).apply ev := by
  simp [Index.ofEvents]

/-- The table agrees with the stored programs. -/
def Index.Agrees (index : Index) (s : Storage) : Prop :=
  ∀ p, index p = (s.program p).map Program.indexed

/-- A record written back and its entry changed alike still agree. -/
theorem Index.Agrees.modify {index : Index} {s : Storage} (h : index.Agrees s) {q : UInt64}
    {x y : Program} (hx : s.program q = some x) {f : Indexed → Indexed}
    (hf : f x.indexed = y.indexed) : (index.modify q f).Agrees (s.insert (.program q) y) := by
  intro p
  rw [Storage.program_insert_program, Index.modify, Function.update_apply, h q, hx]
  split_ifs with hp
  · simp [hf]
  · exact h p

/-! ### One step -/

/-- The step changes nothing that it does not publish. -/
def Announced (env : Env H) : Label → Prop
  | .ok _ (.setRatio p _ reward) _ =>
    (env.persistent.program p).map Program.rewardPerPoint = some reward
  | .ok _ (.withdrawRemaining p _) _ => escrowAt env.persistent p ≤ 0
  | _ => True

instance (env : Env H) (l : Label) : Decidable (Announced env l) := by
  unfold Announced
  split <;> infer_instance

/-- The log rebuilds the programs, and each deposit in it tells the balance that it leads to. -/
structure Rebuilt (env : Env H) : Prop where
  programs : (Index.ofEvents env.events).Agrees env.persistent
  balances : ∀ before after p amount newBalance,
    env.events = before ++ .funded p amount newBalance :: after →
    (Index.ofEvents (before ++ [.funded p amount newBalance]) p).map Indexed.escrowBalance =
      some newBalance

/-- An event that is no deposit tells no balance. -/
theorem Rebuilt.publish (hrebuilt : Rebuilt env) (ev : Event)
    (hprograms : (Index.ofEvents (env.events ++ [ev])).Agrees env'.persistent)
    (hevents : env'.events = env.events ++ [ev])
    (hbalance : ∀ p amount newBalance, ev = .funded p amount newBalance →
      (env'.persistent.program p).map Program.escrowBalance = some newBalance) :
    Rebuilt env' where
  programs := by rwa [hevents]
  balances before after p amount newBalance hsplit := by
    rw [hevents] at hsplit
    rcases List.eq_nil_or_concat after with rfl | ⟨rest, last, rfl⟩
    · -- the deposit is the new event
      obtain ⟨rfl, hev⟩ := List.append_inj' hsplit rfl
      obtain rfl := (List.cons.inj hev).1
      rw [hprograms p, Option.map_map]
      exact hbalance p amount newBalance rfl
    · have hsplit' : env.events ++ [ev] =
          (before ++ .funded p amount newBalance :: rest) ++ [last] := by simpa using hsplit
      exact hrebuilt.balances before rest p amount newBalance (List.append_inj' hsplit' rfl).1

/-- A step that publishes nothing and leaves every entry as it was. -/
theorem Rebuilt.quiet (hrebuilt : Rebuilt env) (hevents : env'.events = env.events)
    (hprograms : ∀ p, (env'.persistent.program p).map Program.indexed =
      (env.persistent.program p).map Program.indexed) : Rebuilt env' where
  programs p := by rw [hevents, hprograms p, hrebuilt.programs p]
  balances := by rw [hevents]; exact hrebuilt.balances

/-- Writing back a record with the same entry leaves every entry as it was. -/
theorem indexed_insert {s : Storage} {q : UInt64} {x y : Program} (hx : s.program q = some x)
    (hy : y.indexed = x.indexed) (p : UInt64) :
    (Storage.program (s.insert (.program q) y) p).map Program.indexed =
      (s.program p).map Program.indexed := by
  rw [Storage.program_insert_program]
  split_ifs with hp
  · rw [hp, hx]
    exact congrArg some hy
  · rfl

theorem Rebuilt.step (hrebuilt : Rebuilt env) (hannounced : Announced env l)
    (hstep : Step env l env') : Rebuilt env' := by
  rcases hstep.cases with ⟨auths, call, value, rfl, heff⟩ | ⟨-, rfl⟩ | ⟨-, tokens, -, rfl⟩
  · cases heff with
    | initialise => exact hrebuilt.quiet rfl fun p => rfl
    | @createProgram maintainer repo reward cap q =>
      refine hrebuilt.publish (.programCreated q maintainer repo reward) (fun p => ?_) rfl
        (by simp)
      rw [Index.ofEvents_snoc, Index.apply, Function.update_apply, Storage.program_insert_program]
      split_ifs with hp
      · rfl
      · exact hrebuilt.programs p
    | fund hauth hmin hx =>
      refine hrebuilt.publish _ ?_ rfl ?_
      · rw [Index.ofEvents_snoc]
        exact hrebuilt.programs.modify hx rfl
      · intro p amount newBalance hev
        cases hev
        simp
    | registerContributor =>
      refine hrebuilt.publish _ (fun p => ?_) rfl (by simp)
      rw [Index.ofEvents_snoc, Storage.program_insert_contributor]
      exact hrebuilt.programs p
    | recordMerge hauth hgateway hpoints hpr hx =>
      refine hrebuilt.publish _ (fun p => ?_) rfl (by simp)
      rw [Index.ofEvents_snoc, Storage.program_insert_processedPr]
      exact hrebuilt.programs.modify hx rfl p
    | pause hauth hx =>
      refine hrebuilt.publish _ ?_ rfl (by simp)
      rw [Index.ofEvents_snoc]
      exact hrebuilt.programs.modify hx rfl
    | resume hauth hx =>
      refine hrebuilt.publish _ ?_ rfl (by simp)
      rw [Index.ofEvents_snoc]
      exact hrebuilt.programs.modify hx rfl
    -- the last two publish nothing, so they may not change the entry
    | @setRatio q _ reward x hauth hreward hx =>
      have hsame : x.rewardPerPoint = reward := by simpa [Announced, hx] using hannounced
      refine hrebuilt.quiet rfl (indexed_insert hx ?_)
      rw [← hsame]
    | withdrawNothing => exact hrebuilt
    | @withdrawRemaining q _ x _ _ hauth hx hmaintainer hpaused hpos =>
      have hempty : x.escrowBalance ≤ 0 := by
        simpa only [Announced, escrowAt_of_program hx] using hannounced
      omega
  · exact hrebuilt
  · exact hrebuilt.quiet rfl fun p => rfl

/-- A step that is not announced leaves the log behind the storage. -/
theorem announced_of_rebuilt (hrebuilt : Rebuilt env) (hrebuilt' : Rebuilt env')
    (hstep : Step env l env') : Announced env l := by
  -- with no new event, the entries before and after the step are the same
  have same : env'.events = env.events → ∀ p, (env'.persistent.program p).map Program.indexed =
      (env.persistent.program p).map Program.indexed := fun hevents p => by
    rw [← hrebuilt.programs p, ← hrebuilt'.programs p, hevents]
  rcases hstep.cases with ⟨auths, call, value, rfl, heff⟩ | ⟨⟨auths, call, why, rfl⟩, -⟩ | ⟨rfl, -⟩
  · cases heff with
    | @setRatio q _ reward x hauth hreward hx =>
      have hq := same rfl q
      rw [Storage.program_insert_self, hx] at hq
      have hreward : reward = x.rewardPerPoint :=
        congrArg Indexed.rewardPerPoint (Option.some.inj hq)
      simp [Announced, hx, hreward]
    | withdrawNothing hauth hx hmaintainer hpaused hempty =>
      simpa only [Announced, escrowAt_of_program hx] using hempty
    | @withdrawRemaining q _ x _ _ hauth hx =>
      have hq := same rfl q
      rw [Storage.program_insert_self, hx] at hq
      have hempty : 0 = x.escrowBalance :=
        congrArg Indexed.escrowBalance (Option.some.inj hq)
      simp [Announced, escrowAt_of_program hx, ← hempty]
    | _ => trivial
  · trivial
  · trivial

/-! ### Every run -/

/-- **The event log rebuilds the programs**, in every state of a run that begins with a successful
`initialise`, if and only if every step of it is announced. -/
theorem events_rebuild_programs {tokens : Address → H.token.State} {auths₀ : Finset Address}
    {admin gateway token : Address} {value₀ : Value} {env₀ : Env H}
    (hinit : Step (deploy tokens) (.ok auths₀ (.initialise admin gateway token) value₀) env₀)
    (hrun : Run Step env₀ h env) :
    (Rebuilt env ∧ ∀ e ∈ h, Rebuilt e.pre) ↔ ∀ e ∈ h, Announced e.pre e.label := by
  have hstart : Rebuilt env₀ := by
    cases hinit.effect with
    | initialise => exact ⟨fun p => rfl, fun _ _ _ _ _ hsplit => by simp [deploy] at hsplit⟩
  refine hrun.invariant (fun h env => (Rebuilt env ∧ ∀ e ∈ h, Rebuilt e.pre) ↔
    ∀ e ∈ h, Announced e.pre e.label) (by simp [hstart]) fun h s l s' _ ih hstep => ?_
  simp only [List.forall_mem_append, List.forall_mem_singleton]
  constructor
  · rintro ⟨hs', hpre, hs⟩
    exact ⟨ih.1 ⟨hs, hpre⟩, announced_of_rebuilt hs hs' hstep⟩
  · rintro ⟨hannounced, hlast⟩
    obtain ⟨hs, hpre⟩ := ih.2 hannounced
    exact ⟨hs.step hlast hstep, hpre, hs⟩

/-- The calls of a program that is funded, paused and emptied. -/
def Setup.emptied : List (Finset Address × Call) :=
  [ ({maintainer}, .createProgram maintainer "StellarRoute/WaveFlow" 100 none),
    ({maintainer}, .fund 1 maintainer 5000),
    ({maintainer}, .pause 1 maintainer),
    ({maintainer}, .withdrawRemaining 1 maintainer) ]

theorem events_rebuild_programs_setup :
    let r₀ := perform (deploy Setup.tokens) {Setup.admin}
      (.initialise Setup.admin Setup.gateway Setup.token)
    let r := performAll r₀.2 (Setup.calls.drop 1)
    Rebuilt r.2 ∧ ∀ e ∈ r.1, Rebuilt e.pre :=
  (events_rebuild_programs (step_of_perform {Setup.admin}
    (.initialise Setup.admin Setup.gateway Setup.token) .unit (by decide +kernel))
    (run_performAll _ (Setup.calls.drop 1))).2 (by decide +kernel)

/-- After a withdrawal the log still tells the balance that was withdrawn. -/
theorem withdrawal_not_in_log :
    let r₀ := perform (deploy Setup.tokens) {Setup.admin}
      (.initialise Setup.admin Setup.gateway Setup.token)
    let r := performAll r₀.2 Setup.emptied
    r₀.1 = .ok {Setup.admin} (.initialise Setup.admin Setup.gateway Setup.token) .unit ∧
      Run Step r₀.2 r.1 r.2 ∧ escrowAt r.2.persistent 1 = 0 ∧
      (Index.ofEvents r.2.events 1).map Indexed.escrowBalance = some 5000 ∧
      ¬ (Index.ofEvents r.2.events).Agrees r.2.persistent := by
  refine ⟨by decide +kernel, run_performAll _ _, by decide +kernel, by decide +kernel, fun h => ?_⟩
  exact absurd (h 1) (by decide +kernel)

end WaveFlow.Escrow
