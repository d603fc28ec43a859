import WaveFlow.Escrow.ProgramIds
import WaveFlow.Escrow.Solvency

/-!
# A program as its history

What a step does to one field of the program stored under an id is a function of the step's label
alone. So each field is recovered from the history of the run by folding the labels: the maintainer
is who created the program, the reward is the last one set, the status is that of the last pause or
resume, and the escrow is what was funded less what was paid out (`Recorded`). This needs that a
program is created only once, hence runs that begin with a successful `initialise`.
-/

namespace WaveFlow.Escrow

open Transition

variable {H : Host} {env env' : Env H} {l : Label} {p : UInt64}

/-! ### Reading labels -/

/-- The reward per point of `p` after a step, from the one before. -/
def Label.ratio (p : UInt64) (old : Option ℤ) : Label → Option ℤ
  | .ok _ (.createProgram _ _ reward _) (.programId q) => if p = q then some reward else old
  | .ok _ (.setRatio q _ reward) _ => if p = q then some reward else old
  | _ => old

/-- Who created `p`. -/
def Label.creator (p : UInt64) (old : Option Address) : Label → Option Address
  | .ok _ (.createProgram maintainer _ _ _) (.programId q) => if p = q then some maintainer else old
  | _ => old

/-- The status set by the last pause or resume of `p`. -/
def Label.toggle (p : UInt64) (old : Option ProgramStatus) : Label → Option ProgramStatus
  | .ok _ (.pause q _) _ => if p = q then some .paused else old
  | .ok _ (.resume q _) _ => if p = q then some .active else old
  | _ => old

/-- What a step deposited for `p`. -/
def Label.funded (p : UInt64) : Label → ℤ
  | .ok _ (.fund q _ amount) _ => if p = q then amount else 0
  | _ => 0

/-- What a `record_merge` on `p` returned. -/
def Label.merged (p : UInt64) : Label → ℤ
  | .ok _ (.recordMerge _ q _ _ _) (.amount n) => if p = q then n else 0
  | _ => 0

/-- What a `withdraw_remaining` on `p` returned. -/
def Label.withdrawn (p : UInt64) : Label → ℤ
  | .ok _ (.withdrawRemaining q _) (.amount n) => if p = q then n else 0
  | _ => 0

/-- Fold a reading of labels over a history. -/
def lastIn {α : Type} (f : Option α → Label → Option α) (h : History H) : Option α :=
  h.foldl (fun old e => f old e.label) none

/-- Add up a reading of labels over a history. -/
def sumIn (f : Label → ℤ) (h : History H) : ℤ := (h.map fun e => f e.label).sum

@[simp] theorem lastIn_nil {α : Type} (f : Option α → Label → Option α) :
    lastIn f ([] : History H) = none := rfl

@[simp] theorem lastIn_snoc {α : Type} (f : Option α → Label → Option α) (h : History H)
    (e : Entry (Env H) Label) : lastIn f (h ++ [e]) = f (lastIn f h) e.label := by simp [lastIn]

@[simp] theorem sumIn_nil (f : Label → ℤ) : sumIn f ([] : History H) = 0 := rfl

@[simp] theorem sumIn_snoc (f : Label → ℤ) (h : History H) (e : Entry (Env H) Label) :
    sumIn f (h ++ [e]) = sumIn f h + f e.label := by simp [sumIn]

/-! ### One step -/

theorem Step.ratio (hstep : Step env l env') (p : UInt64) :
    (env'.persistent.program p).map Program.rewardPerPoint =
      l.ratio p ((env.persistent.program p).map Program.rewardPerPoint) := by
  rcases hstep.cases with ⟨auths, call, value, rfl, heff⟩ | ⟨⟨auths, call, why, rfl⟩, rfl⟩ |
    ⟨rfl, tokens, -, rfl⟩
  · cases heff <;> simp [Label.ratio, Storage.program_insert_program] <;> split_ifs <;> simp [*]
  · rfl
  · rfl

theorem Step.creator (hstep : Step env l env') (p : UInt64) :
    (env'.persistent.program p).map Program.maintainer =
      l.creator p ((env.persistent.program p).map Program.maintainer) := by
  rcases hstep.cases with ⟨auths, call, value, rfl, heff⟩ | ⟨⟨auths, call, why, rfl⟩, rfl⟩ |
    ⟨rfl, tokens, -, rfl⟩
  · cases heff <;> simp [Label.creator, Storage.program_insert_program] <;> split_ifs <;> simp [*]
  · rfl
  · rfl

/-- A step that creates `p` finds nothing stored under `p`. -/
theorem Allocated.fresh_of_step (hall : Allocated env) {auths : Finset Address} {call : Call}
    (hstep : Step env (.ok auths call (.programId p)) env') : env.persistent.program p = none := by
  cases hstep.effect with
  | createProgram hauth hreward hrepo hid => exact (not_touched_iff.1 (hall.fresh hid)).1

theorem Step.escrow (hstep : Step env l env') (hall : Allocated env) (p : UInt64) :
    escrowAt env'.persistent p =
      escrowAt env.persistent p + l.funded p - l.merged p - l.withdrawn p := by
  rcases hstep.cases with ⟨auths, call, value, rfl, heff⟩ | ⟨⟨auths, call, why, rfl⟩, rfl⟩ |
    ⟨rfl, tokens, -, rfl⟩
  · cases heff with
    | @createProgram _ _ _ _ q =>
      have hfresh := hall.fresh_of_step hstep
      simp [escrowAt, Label.funded, Label.merged, Label.withdrawn, Storage.program_insert_program]
      split_ifs with hq
      · subst hq; simp [hfresh]
      · rfl
    | _ =>
      simp [escrowAt, Label.funded, Label.merged, Label.withdrawn, Storage.program_insert_program]
      try (split_ifs <;> simp [*])
  · simp [Label.funded, Label.merged, Label.withdrawn]
  · simp [Label.funded, Label.merged, Label.withdrawn]

theorem Step.status (hstep : Step env l env') (hall : Allocated env) {old : Option ProgramStatus}
    (hsome : ∀ x, env.persistent.program p = some x → x.status = old.getD .active)
    (hnone : env.persistent.program p = none → old = none) :
    (∀ x, env'.persistent.program p = some x → x.status = (l.toggle p old).getD .active) ∧
    (env'.persistent.program p = none → l.toggle p old = none) := by
  rcases hstep.cases with ⟨auths, call, value, rfl, heff⟩ | ⟨⟨auths, call, why, rfl⟩, rfl⟩ |
    ⟨rfl, tokens, -, rfl⟩
  · cases heff with
    | @createProgram _ _ _ _ q =>
      have hfresh := hall.fresh_of_step hstep
      simp [Label.toggle, Storage.program_insert_program]
      split_ifs with hq
      · subst hq; simp [hnone hfresh]
      · exact ⟨hsome, hnone⟩
    | _ =>
      simp [Label.toggle, Storage.program_insert_program]
      grind
  · exact ⟨hsome, hnone⟩
  · exact ⟨hsome, hnone⟩

/-! ### Runs that begin with `initialise` -/

/-- The contract was initialised with this gateway and this token. -/
structure Initialised (gateway token : Address) (env : Env H) : Prop where
  admin : env.instanceStorage.admin ≠ none
  gateway : env.instanceStorage.gateway = some gateway
  token : env.instanceStorage.token = some token

variable {gateway token : Address}

/-- Roles and token are set once and for all. -/
theorem Initialised.step (hinit : Initialised gateway token env) (hstep : Step env l env') :
    Initialised gateway token env' := by
  obtain ⟨hadmin, hgateway, htoken⟩ := hinit
  rcases hstep.cases with ⟨auths, call, value, rfl, heff⟩ | ⟨-, rfl⟩ | ⟨-, tokens, -, rfl⟩
  · cases heff with
    | initialise hnew => exact absurd hnew hadmin
    | createProgram => exact ⟨by simpa using hadmin, by simpa using hgateway, by simpa using htoken⟩
    | _ => exact ⟨hadmin, hgateway, htoken⟩
  · exact ⟨hadmin, hgateway, htoken⟩
  · exact ⟨hadmin, hgateway, htoken⟩

theorem Initialised.initialisedFirst (hinit : Initialised gateway token env)
    (hstep : Step env l env') : InitialisedFirst env l := by
  unfold InitialisedFirst
  split
  · cases hstep.effect with
    | initialise hnew => exact absurd hnew hinit.admin
  · trivial

/-- What the history of a run that began with `initialise` says about every program. -/
structure Recorded (h : History H) (env : Env H) : Prop where
  ratio : ∀ p, (env.persistent.program p).map Program.rewardPerPoint = lastIn (Label.ratio p) h
  creator : ∀ p, (env.persistent.program p).map Program.maintainer = lastIn (Label.creator p) h
  escrow : ∀ p, escrowAt env.persistent p =
    sumIn (Label.funded p) h - sumIn (Label.merged p) h - sumIn (Label.withdrawn p) h
  status : ∀ p x, env.persistent.program p = some x →
    x.status = (lastIn (Label.toggle p) h).getD .active
  untoggled : ∀ p, env.persistent.program p = none → lastIn (Label.toggle p) h = none

theorem Recorded.step {h : History H} (hrec : Recorded h env) (hall : Allocated env)
    (hstep : Step env l env') : Recorded (h ++ [⟨env, l, env'⟩]) env' where
  ratio p := by rw [hstep.ratio p, hrec.ratio p, lastIn_snoc]
  creator p := by rw [hstep.creator p, hrec.creator p, lastIn_snoc]
  escrow p := by
    rw [hstep.escrow hall p, hrec.escrow p, sumIn_snoc, sumIn_snoc, sumIn_snoc]
    dsimp only
    omega
  status p := by
    rw [lastIn_snoc]
    exact (hstep.status hall (hrec.status p) (hrec.untoggled p)).1
  untoggled p := by
    rw [lastIn_snoc]
    exact (hstep.status hall (hrec.status p) (hrec.untoggled p)).2

/-- The state right after a successful first `initialise`. -/
theorem initialised_of_step {tokens : Address → H.token.State} {auths : Finset Address}
    {admin : Address} {value : Value}
    (hinit : Step (deploy tokens) (.ok auths (.initialise admin gateway token) value) env) :
    Initialised gateway token env ∧ env.persistent = ∅ := by
  cases hinit.effect with
  | initialise => exact ⟨⟨by simp, by simp, by simp⟩, rfl⟩

/-- Everything known of a run that begins with a successful `initialise`. -/
structure Regular (gateway token : Address) (h : History H) (env : Env H) : Prop where
  initialised : Initialised gateway token env
  allocated : Allocated env
  rewards : PositiveRewards env.persistent
  recorded : Recorded h env

theorem Regular.step {h : History H} (hreg : Regular gateway token h env)
    (hstep : Step env l env') : Regular gateway token (h ++ [⟨env, l, env'⟩]) env' where
  initialised := hreg.initialised.step hstep
  allocated := hreg.allocated.step (hreg.initialised.initialisedFirst hstep) hstep
  rewards := hreg.rewards.step hstep
  recorded := hreg.recorded.step hreg.allocated hstep

theorem regular_of_run {tokens : Address → H.token.State} {auths : Finset Address}
    {admin : Address} {value : Value} {env₀ : Env H} {h : History H}
    (hinit : Step (deploy tokens) (.ok auths (.initialise admin gateway token) value) env₀)
    (hrun : Run Step env₀ h env) : Regular gateway token h env := by
  obtain ⟨hset, hempty⟩ := initialised_of_step hinit
  refine hrun.invariant (Regular gateway token) ⟨hset, ?_, ?_, ?_⟩
    (fun _ _ _ _ _ hreg hstep => hreg.step hstep)
  · intro p hp
    simp [hempty, Touched] at hp
  · intro p x hx
    simp [hempty] at hx
  · constructor <;> simp [hempty, escrowAt]

end WaveFlow.Escrow
