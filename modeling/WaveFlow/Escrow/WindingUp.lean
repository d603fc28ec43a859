import WaveFlow.Escrow.AccountRefinement

/-!
# Winding up

No escrow is ever locked. In every reachable state the maintainer of a program gets all of its
escrow back with two calls of their own, `pause` and `withdraw_remaining` (`Sound.close`). As a
program that is closed leaves the others as they were, any programs can be closed one after the
other, and each maintainer receives exactly what was in escrow (`winding_up`).
-/

namespace WaveFlow.Escrow

open Contract Transition

variable {H : Host} {env env' : Env H} {h : History H} {p : UInt64} {x : Program}
  {gateway token : Address} {ps : List (UInt64 × Address)}

/-- The calls by which a maintainer closes a program. -/
def closing (p : UInt64) (maintainer : Address) : List (Finset Address × Call) :=
  [({maintainer}, .pause p maintainer), ({maintainer}, .withdrawRemaining p maintainer)]

/-- Both calls succeed, and the second returns `amount`. -/
def closed (p : UInt64) (maintainer : Address) (amount : ℤ) : List Label :=
  [.ok {maintainer} (.pause p maintainer) .unit,
    .ok {maintainer} (.withdrawRemaining p maintainer) (.amount amount)]

/-! ### One program -/

/-- The program was closed: it is paused and empty, its maintainer has the escrow, and nothing else
has changed. -/
structure Closes (token : Address) (p : UInt64) (x : Program) (env env' : Env H) : Prop where
  instanceStorage : env'.instanceStorage = env.instanceStorage
  program : ∀ q, env'.persistent.program q =
    if q = p then some { x with status := .paused, escrowBalance := 0 }
    else env.persistent.program q
  balances : env'.balances token = moved (env.balances token) H.self x.maintainer x.escrowBalance

/-- A call that has its effect, and the calls after it. -/
theorem performAll_of_effect {auths : Finset Address} {call : Call} {value : Value}
    (heff : Effect auths env call value env') (calls : List (Finset Address × Call)) :
    performAll env ((auths, call) :: calls) =
      (⟨env, .ok auths call value, env'⟩ :: (performAll env' calls).1,
        (performAll env' calls).2) := by
  have hperform : perform env auths call = (.ok auths call value, env') := by
    unfold perform
    rw [invoke_of_effect heff]
  rw [performAll, hperform]

theorem performAll_append (env : Env H) (calls calls' : List (Finset Address × Call)) :
    performAll env (calls ++ calls') =
      ((performAll env calls).1 ++ (performAll (performAll env calls).2 calls').1,
        (performAll (performAll env calls).2 calls').2) := by
  induction calls generalizing env with
  | nil => rfl
  | cons c calls ih => simp only [List.cons_append, performAll, ih]

/-- Paying nothing moves nothing. -/
theorem moved_zero (balance : Address → ℤ) (src dst : Address) :
    moved balance src dst 0 = balance := by
  funext a
  simp [moved]

/-- The second call, in the state after the pause. -/
theorem Sound.withdraw_effect (hsound : Sound env) (haccepting : H.token.Accepting)
    (htoken : env.instanceStorage.token = some token)
    (hsupply : SupplyBounded (env.balances token)) (hx : env.persistent.program p = some x)
    (hpaused : x.status = .paused) :
    ∃ env', Effect {x.maintainer} env (.withdrawRemaining p x.maintainer)
        (.amount x.escrowBalance) env' ∧ Closes token p x env env' := by
  have hnonneg := hsound.solvent.nonneg p x hx
  have hself : x.maintainer ∈ ({x.maintainer} : Finset Address) := Finset.mem_singleton_self _
  by_cases hempty : x.escrowBalance = 0
  · rw [hempty]
    refine ⟨env, .withdrawNothing hself hx rfl hpaused hempty.le, rfl, fun q => ?_, ?_⟩
    · split_ifs with hq
      · have hsame : { x with status := .paused, escrowBalance := 0 } = x := by
          rw [← hpaused, ← hempty]
        rw [hq, hx, hsame]
      · rfl
    · rw [hempty, moved_zero]
  · obtain ⟨st, hst⟩ := transfer_of_covered x.maintainer haccepting hsupply hnonneg
      (hsound.solvent.escrow_le_pool hx htoken)
    refine ⟨_, .withdrawRemaining hself hx rfl hpaused (by omega) htoken hst, rfl, fun q => ?_, ?_⟩
    · rw [Storage.program_insert_program, ← hpaused]
    · have hleads := leads_pay [⟨.program p, { x with escrowBalance := 0 }⟩] env.events hst
      funext a
      exact (congrFun (congrFun hleads.balances token) a).trans (if_pos rfl)

/-- **A maintainer can close a program** in every reachable state. -/
theorem Sound.close (hsound : Sound env) (haccepting : H.token.Accepting)
    (htoken : env.instanceStorage.token = some token)
    (hsupply : SupplyBounded (env.balances token)) (hx : env.persistent.program p = some x)
    (hself : x.maintainer ≠ H.self) :
    (performAll env (closing p x.maintainer)).1.map Entry.label =
        closed p x.maintainer x.escrowBalance ∧
      Closes token p x env (performAll env (closing p x.maintainer)).2 ∧
      Sound (performAll env (closing p x.maintainer)).2 := by
  have hauth : x.maintainer ∈ ({x.maintainer} : Finset Address) := Finset.mem_singleton_self _
  have houtside : H.self ∉ ({x.maintainer} : Finset Address) := by
    simpa using hself.symm
  have hpause := Effect.pause hauth hx rfl
  have hpaused := hsound.effect houtside hpause
  obtain ⟨env', hwithdraw, hcloses⟩ := hpaused.withdraw_effect haccepting htoken hsupply
    (Storage.program_insert_self _ _ _) rfl
  rw [closing, performAll_of_effect hpause, performAll_of_effect hwithdraw]
  refine ⟨rfl, ⟨hcloses.instanceStorage, fun q => ?_, hcloses.balances⟩,
    hpaused.effect houtside hwithdraw⟩
  refine (hcloses.program q).trans ?_
  rw [Storage.program_insert_program]
  split_ifs <;> rfl

/-- A closed program leaves the others as they were. -/
theorem Closes.program_other (hcloses : Closes token p x env env') {q : UInt64} (hq : q ≠ p) :
    env'.persistent.program q = env.persistent.program q := by
  rw [hcloses.program q, if_neg hq]

theorem Closes.escrowAt_self (hcloses : Closes token p x env env') :
    escrowAt env'.persistent p = 0 := by
  rw [escrowAt, hcloses.program p, if_pos rfl]
  rfl

theorem Closes.supplyBounded (hcloses : Closes token p x env env')
    (hsupply : SupplyBounded (env.balances token)) : SupplyBounded (env'.balances token) := by
  have hnonneg : ∀ a, 0 ≤ env'.balances token a := fun a => H.token.balance_nonneg _ _
  rw [hcloses.balances] at hnonneg ⊢
  exact hsupply.moved hnonneg

/-! ### All programs -/

/-- The escrows of the programs in a list that `a` maintains. -/
def escrowOwed (s : Storage) (a : Address) : List (UInt64 × Address) → ℤ
  | [] => 0
  | (p, maintainer) :: ps => (if a = maintainer then escrowAt s p else 0) + escrowOwed s a ps

theorem escrowOwed_congr {s t : Storage} {a : Address}
    (h : ∀ q ∈ ps, t.program q.1 = s.program q.1) : escrowOwed t a ps = escrowOwed s a ps := by
  induction ps with
  | nil => rfl
  | cons q ps ih =>
    have hq := h q List.mem_cons_self
    simp only [escrowOwed, escrowAt, hq, ih fun q hq => h q (List.mem_cons_of_mem _ hq)]

/-- The programs in a list were closed: each is empty, the others are as they were, and the
maintainers have what was in escrow. -/
structure WoundUp (token : Address) (ps : List (UInt64 × Address)) (env env' : Env H) : Prop where
  emptied : ∀ q ∈ ps, escrowAt env'.persistent q.1 = 0
  others : ∀ p, p ∉ ps.map Prod.fst → env'.persistent.program p = env.persistent.program p
  received : ∀ a, a ≠ H.self →
    env'.balances token a = env.balances token a + escrowOwed env.persistent a ps

/-- The contract's address maintains no program. -/
def Maintained (env : Env H) : Prop :=
  ∀ p x, env.persistent.program p = some x → x.maintainer ≠ H.self

theorem Maintained.step {l : Label} (hmaintained : Maintained env) (hself : H.self ∉ l.auths)
    (hstep : Step env l env') : Maintained env' := by
  intro p y hy
  rcases hstep.cases with ⟨auths, call, value, rfl, heff⟩ | ⟨⟨auths, call, why, rfl⟩, rfl⟩ |
    ⟨rfl, tokens, -, rfl⟩
  · have hkept : ∀ {q : UInt64} {x z : Program}, env.persistent.program q = some x →
        z.maintainer = x.maintainer →
        (if p = q then some z else env.persistent.program p) = some y → y.maintainer ≠ H.self := by
      intro q x z hx hz hy
      split_ifs at hy with hp
      · cases hy
        rw [hz]
        exact hmaintained q x hx
      · exact hmaintained p y hy
    cases heff with
    | initialise => exact hmaintained p y hy
    | createProgram hauth =>
      rw [Storage.program_insert_program] at hy
      split_ifs at hy with hp
      · cases hy
        exact fun h => hself (h ▸ hauth)
      · exact hmaintained p y hy
    | registerContributor => exact hmaintained p y (by simpa using hy)
    | recordMerge hauth hgateway hpoints hpr hx =>
      rw [Storage.program_insert_processedPr, Storage.program_insert_program] at hy
      exact hkept hx (by rfl) hy
    | withdrawNothing => exact hmaintained p y hy
    | fund hauth hmin hx | pause hauth hx | resume hauth hx | setRatio hauth hreward hx
    | withdrawRemaining hauth hx =>
      rw [Storage.program_insert_program] at hy
      exact hkept hx (by rfl) hy
  · exact hmaintained p y hy
  · exact hmaintained p y hy

theorem maintained_of_run {tokens : Address → H.token.State} (hrun : Run Step (deploy tokens) h env)
    (hself : ∀ e ∈ h, H.self ∉ e.label.auths) : Maintained env :=
  (hrun.restrict (C := fun _ l => H.self ∉ l.auths) hself).invariant_state Maintained
    (fun p x hx => by simp [deploy] at hx)
    (fun _ _ _ hmaintained hstep => hmaintained.step hstep.2 hstep.1)

/-- One program is closed, and then the others. -/
theorem WoundUp.cons {env₁ : Env H} (hcloses : Closes token p x env env₁)
    (hx : env.persistent.program p = some x) (hp : p ∉ ps.map Prod.fst)
    (hrest : WoundUp token ps env₁ env') : WoundUp token ((p, x.maintainer) :: ps) env env' where
  emptied q hq := by
    rcases List.mem_cons.1 hq with rfl | hq
    · rw [escrowAt, hrest.others p hp]
      exact hcloses.escrowAt_self
    · exact hrest.emptied q hq
  others q hq := by
    rw [List.map_cons, List.mem_cons, not_or] at hq
    rw [hrest.others q hq.2, hcloses.program_other hq.1]
  received a ha := by
    have hkept : ∀ q ∈ ps, env₁.persistent.program q.1 = env.persistent.program q.1 := by
      intro q hq
      apply hcloses.program_other
      rintro rfl
      exact hp (List.mem_map_of_mem hq)
    rw [hrest.received a ha, escrowOwed_congr hkept, hcloses.balances, escrowOwed,
      escrowAt_of_program hx, moved, if_neg ha]
    omega

/-- **Programs are closed one after the other**, in any order. -/
theorem Sound.windUp (hsound : Sound env) (haccepting : H.token.Accepting)
    (htoken : env.instanceStorage.token = some token)
    (hsupply : SupplyBounded (env.balances token)) (hself : ∀ q ∈ ps, q.2 ≠ H.self)
    (hps : ∀ q ∈ ps, (env.persistent.program q.1).map Program.maintainer = some q.2)
    (hdistinct : (ps.map Prod.fst).Nodup) :
    (performAll env (ps.flatMap fun q => closing q.1 q.2)).1.map Entry.label =
        (ps.flatMap fun q => closed q.1 q.2 (escrowAt env.persistent q.1)) ∧
      WoundUp token ps env (performAll env (ps.flatMap fun q => closing q.1 q.2)).2 := by
  induction ps generalizing env with
  | nil => exact ⟨rfl, fun q hq => by simp at hq, fun _ _ => rfl, fun a _ => (add_zero _).symm⟩
  | cons q ps ih =>
    obtain ⟨p, maintainer⟩ := q
    obtain ⟨x, hx, rfl⟩ := Option.map_eq_some_iff.1 (hps _ List.mem_cons_self)
    obtain ⟨hp, hdistinct⟩ := List.nodup_cons.1 hdistinct
    obtain ⟨hlabels, hcloses, hsound₁⟩ := hsound.close haccepting htoken hsupply hx
      (hself _ List.mem_cons_self)
    have hkept : ∀ q ∈ ps,
        (performAll env (closing p x.maintainer)).2.persistent.program q.1 =
          env.persistent.program q.1 := by
      intro q hq
      apply hcloses.program_other
      rintro rfl
      exact hp (List.mem_map.2 ⟨q, hq, rfl⟩)
    obtain ⟨hlabels', hrest⟩ := ih hsound₁
      ((congrArg Storage.token hcloses.instanceStorage).trans htoken)
      (hcloses.supplyBounded hsupply) (fun q hq => hself q (List.mem_cons_of_mem _ hq))
      (fun q hq => by
        rw [hkept q hq]
        exact hps q (List.mem_cons_of_mem _ hq)) hdistinct
    rw [List.flatMap_cons, performAll_append]
    refine ⟨?_, .cons hcloses hx hp hrest⟩
    rw [List.map_append, hlabels, hlabels', List.flatMap_cons, escrowAt_of_program hx]
    congr 1
    apply List.flatMap_congr
    intro q hq
    rw [escrowAt, hkept q hq]
    rfl

/-- **No escrow is ever locked.** From every state of a run that begins with `initialise`, the
maintainers of any programs get their escrow back by pausing and withdrawing, in any order: all
these calls succeed, each program is left empty and every other one as it was, and everybody but the
contract receives exactly the escrows of the programs they maintain. When all programs are closed,
nothing is left in escrow. -/
theorem winding_up {tokens : Address → H.token.State} {auths₀ : Finset Address} {admin : Address}
    {value₀ : Value} {env₀ : Env H}
    (hinit : Step (deploy tokens) (.ok auths₀ (.initialise admin gateway token) value₀) env₀)
    (hrun : Run Step env₀ h env) (hself₀ : H.self ∉ auths₀)
    (hself : ∀ e ∈ h, H.self ∉ e.label.auths) (haccepting : H.token.Accepting)
    (hsupply : SupplyBounded (env.balances token))
    (hps : ∀ q ∈ ps, (env.persistent.program q.1).map Program.maintainer = some q.2)
    (hdistinct : (ps.map Prod.fst).Nodup) :
    let r := performAll env (ps.flatMap fun q => closing q.1 q.2)
    r.1.map Entry.label =
        (ps.flatMap fun q => closed q.1 q.2 (escrowAt env.persistent q.1)) ∧
      WoundUp token ps env r.2 ∧
      ((∀ p x, env.persistent.program p = some x → p ∈ ps.map Prod.fst) →
        escrowTotal r.2.persistent = 0) := by
  intro r
  have hall := hrun.cons hinit
  have hselfall : ∀ e ∈ (⟨deploy tokens, .ok auths₀ (.initialise admin gateway token) value₀,
      env₀⟩ : Entry (Env H) Label) :: h, H.self ∉ e.label.auths := by
    intro e he
    rcases List.mem_cons.1 he with rfl | he
    · exact hself₀
    · exact hself e he
  have hmaintained := maintained_of_run hall hselfall
  obtain ⟨hlabels, hwound⟩ := (sound_of_run hall hselfall).windUp haccepting
    (regular_of_run hinit hrun).initialised.token hsupply (fun q hq => by
      obtain ⟨x, hx, hmaintainer⟩ := Option.map_eq_some_iff.1 (hps q hq)
      exact hmaintainer ▸ hmaintained q.1 x hx) hps hdistinct
  refine ⟨hlabels, hwound, fun hcomplete => escrowTotal_eq_zero fun p x hx => ?_⟩
  by_cases hp : p ∈ ps.map Prod.fst
  · obtain ⟨q, hq, rfl⟩ := List.mem_map.1 hp
    rw [← hwound.emptied q hq, escrowAt_of_program hx]
  · exact absurd (hcomplete p x ((hwound.others p hp).symm.trans hx)) hp

/-- `initialise` moves no tokens. -/
theorem supplyBounded_of_initialise {tokens : Address → H.token.State} {auths₀ : Finset Address}
    {admin t : Address} {value₀ : Value} {env₀ : Env H}
    (hinit : Step (deploy tokens) (.ok auths₀ (.initialise admin gateway token) value₀) env₀)
    (hsupply : SupplyBounded ((deploy tokens : Env H).balances t)) :
    SupplyBounded (env₀.balances t) := by
  cases hinit.effect with
  | initialise => exact hsupply

/-- The program of the contract's tests, after its merge. -/
theorem winding_up_setup :
    let r₀ := perform (deploy Setup.tokens) {Setup.admin}
      (.initialise Setup.admin Setup.gateway Setup.token)
    let env := (performAll r₀.2 Setup.calls.tail).2
    let r := performAll env ([(1, Setup.maintainer)].flatMap fun q => closing q.1 q.2)
    r.1.map Entry.label = ([(1, Setup.maintainer)].flatMap fun q =>
        closed q.1 q.2 (escrowAt env.persistent q.1)) ∧
      WoundUp Setup.token [(1, Setup.maintainer)] env r.2 := by
  intro r₀ env r
  have hinit : Step (deploy Setup.tokens) (.ok {Setup.admin}
      (.initialise Setup.admin Setup.gateway Setup.token) .unit) r₀.2 :=
    step_of_perform _ _ _ (by decide +kernel)
  have hrewards : PositiveRewards r₀.2.persistent := by
    intro p x hx
    rw [(initialised_of_step hinit).2] at hx
    cases hx
  have hwound := winding_up hinit (run_performAll _ Setup.calls.tail) (by decide)
    (by decide +kernel) plainToken_accepting (supplyBounded_performAll _ hrewards
      (supplyBounded_of_initialise hinit (Setup.supplyBounded _)))
    (by decide +kernel : ∀ q ∈ [(1, Setup.maintainer)],
      (env.persistent.program q.1).map Program.maintainer = some q.2) (by decide)
  exact ⟨hwound.1, hwound.2.1⟩

end WaveFlow.Escrow
