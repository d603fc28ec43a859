import WaveFlow.Escrow.ProgramHistory

/-!
# What a step does to one program

`Change p l r r'` says what a step with label `l` makes of the record `r` stored under `p`. A step
about another program, or about none, leaves the record as it is (`Change.other`); every other case
is one entry point called on `p`. `Step.change` derives it from the effect of the step, so an
invariant of the record of one program is a case analysis of `Change`.
-/

namespace WaveFlow.Escrow

variable {H : Host} {env env' : Env H} {l : Label} {p : UInt64}

/-- The program a call is about; a creation is about the program it returns. -/
def Call.program? : Call → Option UInt64
  | .fund p _ _ | .registerContributor p _ _ _ | .recordMerge _ p _ _ _ | .pause p _ | .resume p _
  | .setRatio p _ _ | .withdrawRemaining p _ => some p
  | .initialise _ _ _ | .createProgram _ _ _ _ => none

/-- The program a successful step is about. -/
def Label.program? : Label → Option UInt64
  | .ok _ (.createProgram _ _ _ _) (.programId p) => some p
  | .ok _ call _ => call.program?
  | .failed _ _ _ | .outside => none

/-- What a step makes of the record stored under `p`. -/
inductive Change (p : UInt64) : Label → Option Program → Option Program → Prop
  | other {l : Label} {r : Option Program} (hother : l.program? ≠ some p) : Change p l r r
  | created {auths : Finset Address} {maintainer : Address} {repo : Symbol} {reward : ℤ}
      {cap : Option ℤ} {r : Option Program} :
      Change p (.ok auths (.createProgram maintainer repo reward cap) (.programId p)) r
        (some { maintainer, githubRepo := repo, rewardPerPoint := reward, escrowBalance := 0,
                milestoneCap := cap, milestoneSpent := 0, status := .active })
  | funded {auths : Finset Address} {src : Address} {amount : ℤ} {x : Program} :
      Change p (.ok auths (.fund p src amount) .unit) (some x)
        (some { x with escrowBalance := x.escrowBalance + amount })
  | registered {auths : Finset Address} {caller : Address} {user : Symbol} {a : Address}
      {x : Program} :
      Change p (.ok auths (.registerContributor p caller user a) .unit) (some x) (some x)
  | merged {auths : Finset Address} {gateway : Address} {user : Symbol} {pr : UInt64}
      {points : UInt32} {x : Program} {spent : ℤ}
      (hspent : MilestoneSpent x (points.toNat * x.rewardPerPoint) spent) :
      Change p (.ok auths (.recordMerge gateway p user pr points)
          (.amount (points.toNat * x.rewardPerPoint)))
        (some x)
        (some { x with
                milestoneSpent := spent
                escrowBalance := x.escrowBalance - points.toNat * x.rewardPerPoint })
  | paused {auths : Finset Address} {maintainer : Address} {x : Program} :
      Change p (.ok auths (.pause p maintainer) .unit) (some x) (some { x with status := .paused })
  | resumed {auths : Finset Address} {maintainer : Address} {x : Program} :
      Change p (.ok auths (.resume p maintainer) .unit) (some x) (some { x with status := .active })
  | priced {auths : Finset Address} {maintainer : Address} {reward : ℤ} {x : Program} :
      Change p (.ok auths (.setRatio p maintainer reward) .unit) (some x)
        (some { x with rewardPerPoint := reward })
  | withdrawnNothing {auths : Finset Address} {maintainer : Address} {x : Program}
      (hempty : x.escrowBalance ≤ 0) :
      Change p (.ok auths (.withdrawRemaining p maintainer) (.amount 0)) (some x) (some x)
  | withdrawn {auths : Finset Address} {maintainer : Address} {x : Program}
      (hpos : 0 < x.escrowBalance) :
      Change p (.ok auths (.withdrawRemaining p maintainer) (.amount x.escrowBalance)) (some x)
        (some { x with escrowBalance := 0 })

/-- Writing a record changes the program it is written under, and no other. -/
theorem Change.of_write {q : UInt64} {x y : Program} {s : Storage} (hl : l.program? = some q)
    (hx : s.program q = some x) (hchange : Change q l (some x) (some y)) :
    Change p l (s.program p) (Storage.program (s.insert (.program q) y) p) := by
  rw [Storage.program_insert_program]
  by_cases hp : p = q
  · subst hp
    rwa [if_pos rfl, hx]
  · rw [if_neg hp]
    refine .other fun h => hp ?_
    exact Option.some.inj (h.symm.trans hl)

/-- **What a step does to one program.** -/
theorem Step.change (hstep : Step env l env') (p : UInt64) :
    Change p l (env.persistent.program p) (env'.persistent.program p) := by
  rcases hstep.cases with ⟨auths, call, value, rfl, heff⟩ | ⟨⟨auths, call, why, rfl⟩, rfl⟩ |
    ⟨rfl, tokens, -, rfl⟩
  · cases heff with
    | initialise => exact .other (by simp [Label.program?, Call.program?])
    | @createProgram _ _ _ _ q =>
      rw [Storage.program_insert_program]
      by_cases hp : p = q
      · subst hp
        rw [if_pos rfl]
        exact .created
      · rw [if_neg hp]
        exact .other (by simpa [Label.program?] using Ne.symm hp)
    | fund hauth hmin hx => exact .of_write rfl hx .funded
    | @registerContributor q _ _ _ x hauth hx =>
      rw [Storage.program_insert_contributor]
      by_cases hp : p = q
      · subst hp
        rw [hx]
        exact .registered
      · exact .other (by simpa [Label.program?, Call.program?] using Ne.symm hp)
    | recordMerge hauth hgateway hpoints hpr hx hactive huser hrange hescrow hspent =>
      rw [Storage.program_insert_processedPr]
      exact .of_write rfl hx (.merged hspent)
    | pause hauth hx => exact .of_write rfl hx .paused
    | resume hauth hx => exact .of_write rfl hx .resumed
    | setRatio hauth hreward hx => exact .of_write rfl hx .priced
    | @withdrawNothing q _ x hauth hx hmaintainer hpaused hempty =>
      by_cases hp : p = q
      · subst hp
        rw [hx]
        exact .withdrawnNothing hempty
      · exact .other (by simpa [Label.program?, Call.program?] using Ne.symm hp)
    | withdrawRemaining hauth hx hmaintainer hpaused hpos =>
      exact .of_write rfl hx (.withdrawn hpos)
  · exact .other (by simp [Label.program?])
  · exact .other (by simp [Label.program?])

/-! ### Readings of a step about another program -/

theorem Label.merged_of_other (h : l.program? ≠ some p) : l.merged p = 0 := by
  unfold Label.merged
  split
  · rename_i q _ _ n
    apply if_neg
    rintro rfl
    exact h rfl
  · rfl

end WaveFlow.Escrow
