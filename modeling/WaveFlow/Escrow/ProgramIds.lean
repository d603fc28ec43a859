import WaveFlow.Escrow.Run

/-!
# Allocation of program ids

`next_program_id` takes one more than the program counter, and zero when the counter is absent.
`Allocated` relates the counter to the three key families that carry a program id: whatever is
stored under an id was stored under one that the counter has passed. Every entry point keeps it but
`initialise`, which sets the counter back to zero: when programs were created before it, the ids
they took are taken again (`program_id_reused`). As long as `initialise` finds no counter, ids are
fresh (`created_id_fresh`).
-/

namespace WaveFlow.Escrow

open Transition

variable {H : Host}

/-- Something is stored under the program id `p`. -/
def Touched (s : Storage) (p : UInt64) : Prop :=
  s.program p ≠ none ∨ (∃ u, s.contributor p u ≠ none) ∨ ∃ n, s.processedPr p n ≠ none

theorem not_touched_iff {s : Storage} {p : UInt64} :
    ¬ Touched s p ↔
      s.program p = none ∧ (∀ u, s.contributor p u = none) ∧ ∀ n, s.processedPr p n = none := by
  simp [Touched]

theorem Touched.of_program {s : Storage} {p : UInt64} {x : Program} (hx : s.program p = some x) :
    Touched s p := Or.inl (by simp [hx])

theorem Touched.insert_program {s : Storage} {p q : UInt64} {x : Program}
    (h : Touched (s.insert (.program p) x) q) : Touched s q ∨ q = p := by
  rcases h with h | ⟨u, h⟩ | ⟨n, h⟩
  · rw [Storage.program_insert_program] at h
    split_ifs at h with hq
    · exact Or.inr hq
    · exact Or.inl (Or.inl h)
  · exact Or.inl (Or.inr (Or.inl ⟨u, by simpa using h⟩))
  · exact Or.inl (Or.inr (Or.inr ⟨n, by simpa using h⟩))

theorem Touched.insert_contributor {s : Storage} {p q : UInt64} {u : Symbol} {c : Contributor}
    (h : Touched (s.insert (.contributor p u) c) q) : Touched s q ∨ q = p := by
  rcases h with h | ⟨v, h⟩ | ⟨n, h⟩
  · exact Or.inl (Or.inl (by simpa using h))
  · rw [Storage.contributor_insert_contributor] at h
    split_ifs at h with hq
    · exact Or.inr hq.1
    · exact Or.inl (Or.inr (Or.inl ⟨v, h⟩))
  · exact Or.inl (Or.inr (Or.inr ⟨n, by simpa using h⟩))

theorem Touched.insert_processedPr {s : Storage} {p q n : UInt64} {b : Bool}
    (h : Touched (s.insert (.processedPr p n) b) q) : Touched s q ∨ q = p := by
  rcases h with h | ⟨u, h⟩ | ⟨m, h⟩
  · exact Or.inl (Or.inl (by simpa using h))
  · exact Or.inl (Or.inr (Or.inl ⟨u, by simpa using h⟩))
  · rw [Storage.processedPr_insert_processedPr] at h
    split_ifs at h with hq
    · exact Or.inr hq.1
    · exact Or.inl (Or.inr (Or.inr ⟨m, h⟩))

/-- Only `createProgram` stores anything under an id under which nothing was stored. -/
theorem Effect.touched {env env' : Env H} {auths : Finset Address} {call : Call} {value : Value}
    (h : Effect auths env call value env') {q : UInt64} (hq : Touched env'.persistent q) :
    Touched env.persistent q ∨ value = .programId q := by
  -- a write under the id of a stored program touches nothing new
  have known : ∀ {p : UInt64} {x : Program}, env.persistent.program p = some x →
      Touched env.persistent q ∨ q = p → Touched env.persistent q ∨ value = .programId q := by
    rintro p x hx (h | rfl)
    · exact Or.inl h
    · exact Or.inl (.of_program hx)
  cases h with
  | initialise => exact Or.inl hq
  | createProgram => exact hq.insert_program.imp_right fun h => by rw [h]
  | fund hauth hmin hx => exact known hx hq.insert_program
  | registerContributor hauth hx => exact known hx hq.insert_contributor
  | recordMerge hauth hgateway hpoints hpr hx =>
    rcases hq.insert_processedPr with h | h
    · exact known hx h.insert_program
    · exact known hx (Or.inr h)
  | pause hauth hx => exact known hx hq.insert_program
  | resume hauth hx => exact known hx hq.insert_program
  | setRatio hauth hreward hx => exact known hx hq.insert_program
  | withdrawNothing => exact Or.inl hq
  | withdrawRemaining hauth hx => exact known hx hq.insert_program

/-- The counter as `next_program_id` reads it. -/
def Env.counter (env : Env H) : UInt64 := env.instanceStorage.programCounter.getD 0

/-- Ids in use are positive and not above the counter. -/
def Allocated (env : Env H) : Prop :=
  ∀ p, Touched env.persistent p → 0 < p.toNat ∧ p.toNat ≤ env.counter.toNat

theorem allocated_deploy (tokens : Address → H.token.State) : Allocated (deploy tokens) := by
  intro p hp
  simp [deploy, Touched] at hp

theorem toNat_of_addU64 {c p : UInt64} (h : addU64 c 1 = some p) : p.toNat = c.toNat + 1 := by
  obtain ⟨hlt, rfl⟩ := addU64_eq_some.1 h
  rw [UInt64.toNat_add, Nat.mod_eq_of_lt hlt]
  rfl

/-- Nothing is stored under the id the counter gives out next. -/
theorem Allocated.fresh {env : Env H} (hall : Allocated env) {p : UInt64}
    (hid : addU64 env.counter 1 = some p) : ¬ Touched env.persistent p := by
  intro hp
  have hle := (hall p hp).2
  have hp := toNat_of_addU64 hid
  omega

/-- A call that does not reset a counter in use keeps `Allocated`. -/
theorem Allocated.effect {env env' : Env H} {auths : Finset Address} {call : Call} {value : Value}
    (hall : Allocated env) (h : Effect auths env call value env')
    (hfirst : ∀ admin gateway token, call = .initialise admin gateway token →
      env.instanceStorage.programCounter = none) : Allocated env' := by
  have keep : env'.counter = env.counter → (∀ q, value ≠ .programId q) → Allocated env' := by
    intro hc hv q hq
    rw [hc]
    exact hall q ((h.touched hq).resolve_right (hv q))
  cases h with
  | initialise hnew hauth =>
    intro q hq
    have hq := hall q hq
    simp only [Env.counter, hfirst _ _ _ rfl] at hq
    simp at hq
    omega
  | @createProgram maintainer repo reward cap p hauth hreward hrepo hid =>
    intro q hq
    have hp := toNat_of_addU64 hid
    rw [show Env.counter _ = p by simp [Env.counter]]
    rcases hq.insert_program with h | rfl
    · have := hall q h
      simp only [Env.counter] at this
      omega
    · omega
  | fund => exact keep rfl (by simp)
  | registerContributor => exact keep rfl (by simp)
  | recordMerge => exact keep rfl (by simp)
  | pause => exact keep rfl (by simp)
  | resume => exact keep rfl (by simp)
  | setRatio => exact keep rfl (by simp)
  | withdrawNothing => exact keep rfl (by simp)
  | withdrawRemaining => exact keep rfl (by simp)

/-- A successful `initialise` finds no program counter: no program was created before it. -/
def InitialisedFirst (env : Env H) : Label → Prop
  | .ok _ (.initialise _ _ _) _ => env.instanceStorage.programCounter = none
  | _ => True

instance (env : Env H) (l : Label) : Decidable (InitialisedFirst env l) := by
  unfold InitialisedFirst
  split <;> infer_instance

theorem Allocated.step {env env' : Env H} {l : Label} (hall : Allocated env)
    (hfirst : InitialisedFirst env l) (hstep : Step env l env') : Allocated env' := by
  rcases hstep.cases with ⟨auths, call, value, rfl, heff⟩ | ⟨-, rfl⟩ | ⟨-, tokens, -, rfl⟩
  · apply hall.effect heff
    intro admin gateway token hc
    subst hc
    exact hfirst
  · exact hall
  · exact hall

/-- In a run in which `initialise` comes before any program, ids in use are below the counter. -/
theorem allocated_of_run {tokens : Address → H.token.State} {h : History H} {env : Env H}
    (hrun : Run Step (deploy tokens) h env) (hfirst : ∀ e ∈ h, InitialisedFirst e.pre e.label) :
    Allocated env :=
  (hrun.restrict (C := InitialisedFirst) hfirst).invariant_state Allocated
    (allocated_deploy tokens) (fun _ _ _ hall hstep => hall.step hstep.2 hstep.1)

/-- **Program ids are not reused** in a run in which `initialise` comes before any program: nothing
is stored under the id of a new program. -/
theorem created_id_fresh {tokens : Address → H.token.State} {h : History H} {env env' : Env H}
    {auths : Finset Address} {maintainer : Address} {repo : Symbol} {reward : ℤ} {cap : Option ℤ}
    {p : UInt64}
    (hrun : Run Step (deploy tokens) h env) (hfirst : ∀ e ∈ h, InitialisedFirst e.pre e.label)
    (hstep : Step env (.ok auths (.createProgram maintainer repo reward cap) (.programId p)) env') :
    env.persistent.program p = none ∧ (∀ u, env.persistent.contributor p u = none) ∧
      ∀ n, env.persistent.processedPr p n = none := by
  rw [← not_touched_iff]
  cases hstep.effect with
  | createProgram hauth hreward hrepo hid => exact (allocated_of_run hrun hfirst).fresh hid

theorem created_id_fresh_setup :
    let r := performAll (deploy Setup.tokens) Setup.calls
    r.2.persistent.program 2 = none ∧ (∀ u, r.2.persistent.contributor 2 u = none) ∧
      ∀ n, r.2.persistent.processedPr 2 n = none :=
  created_id_fresh (run_performAll _ _) (by decide +kernel)
    (step_of_perform {Setup.maintainer} (.createProgram Setup.maintainer "org/repo" 10 none)
      (.programId 2) (by decide +kernel))

/-- A creation before `initialise` takes id 1, and the first creation after it takes id 1 again,
over the program stored there. -/
theorem program_id_reused :
    let create : Call := .createProgram Setup.maintainer "org/repo" 10 none
    let init : Call := .initialise Setup.admin Setup.gateway Setup.token
    let r := performAll (deploy Setup.tokens) [({Setup.maintainer}, create), ({Setup.admin}, init)]
    Run Step (deploy Setup.tokens) r.1 r.2 ∧
      (perform r.2 {Setup.maintainer} create).1 = .ok {Setup.maintainer} create (.programId 1) ∧
      r.2.persistent.program 1 ≠ none :=
  ⟨run_performAll _ _, by decide +kernel⟩

end WaveFlow.Escrow
