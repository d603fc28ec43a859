import WaveFlow.Escrow.Run

/-!
# Processed pull requests

The flag `ProcessedPr(p, n)` is set by a successful `record_merge` for that program and number and
by nothing else, and nothing clears it. So it counts the successful merges of the pull request: none
or one.
-/

namespace WaveFlow.Escrow

open Transition

variable {H : Host}

/-- The step was a successful `record_merge` for pull request `n` of program `p`. -/
def Label.merges (p n : UInt64) : Label → Bool
  | .ok _ (.recordMerge _ q _ m _) _ => q = p && m = n
  | _ => false

/-- How many `record_merge` calls for pull request `n` of program `p` have succeeded. -/
def mergeCount (p n : UInt64) (h : History H) : ℕ := h.countP fun e => e.label.merges p n

theorem mergeCount_snoc (p n : UInt64) (h : History H) (e : Entry (Env H) Label) :
    mergeCount p n (h ++ [e]) = mergeCount p n h + if e.label.merges p n then 1 else 0 := by
  simp [mergeCount, List.countP_append, List.countP_singleton]

/-- A step sets the flag of the pull request it merged and keeps every other flag. -/
theorem Step.processedPr {env env' : Env H} {l : Label} (hstep : Step env l env') (p n : UInt64) :
    env'.persistent.processedPr p n =
      if l.merges p n then some true else env.persistent.processedPr p n := by
  rcases hstep.cases with ⟨auths, call, value, rfl, heff⟩ | ⟨⟨auths, call, why, rfl⟩, rfl⟩ |
    ⟨rfl, tokens, -, rfl⟩
  · cases heff with
    | @recordMerge gateway q user m =>
      simp only [Label.merges, Storage.processedPr_insert_processedPr,
        Storage.processedPr_insert_program, Bool.and_eq_true, decide_eq_true_eq,
        @eq_comm _ q, @eq_comm _ m]
    | _ => simp [Label.merges]
  · simp [Label.merges]
  · simp [Label.merges]

/-- A pull request that a step merges was not flagged before. -/
theorem Step.not_processed_of_merges {env env' : Env H} {l : Label} (hstep : Step env l env')
    {p n : UInt64} (hl : l.merges p n) : env.persistent.processedPr p n ≠ some true := by
  rcases hstep.cases with ⟨auths, call, value, rfl, heff⟩ | ⟨⟨auths, call, why, rfl⟩, rfl⟩ |
    ⟨rfl, tokens, -, rfl⟩
  · cases heff with
    | recordMerge hauth hgateway hpoints hpr =>
      obtain ⟨rfl, rfl⟩ : _ = p ∧ _ = n := by simpa [Label.merges] using hl
      intro h
      simp [h] at hpr
    | _ => simp [Label.merges] at hl
  · simp [Label.merges] at hl
  · simp [Label.merges] at hl

/-- The flag counts the successful merges. -/
theorem mergeCount_eq {tokens : Address → H.token.State} {h : History H} {env : Env H}
    (hrun : Run Step (deploy tokens) h env) (p n : UInt64) :
    mergeCount p n h = if env.persistent.processedPr p n = some true then 1 else 0 := by
  refine hrun.invariant (fun h env =>
    mergeCount p n h = if env.persistent.processedPr p n = some true then 1 else 0) ?_ ?_
  · simp [mergeCount, deploy]
  · intro h s l s' _ ih hstep
    rw [mergeCount_snoc, ih, hstep.processedPr p n]
    by_cases hl : l.merges p n
    · simp [hl, hstep.not_processed_of_merges hl]
    · simp [hl]

/-- **At most one payout per pull request**: at most one `record_merge` for it succeeds, and its
flag is set exactly when one has. -/
theorem one_merge_per_pr {tokens : Address → H.token.State} {h : History H} {env : Env H}
    (hrun : Run Step (deploy tokens) h env) (p n : UInt64) :
    mergeCount p n h ≤ 1 ∧
      (env.persistent.processedPr p n = some true ↔ mergeCount p n h = 1) := by
  rw [mergeCount_eq hrun p n]
  split_ifs with hflag <;> simp [hflag]

theorem one_merge_per_pr_setup :
    let r := performAll (deploy Setup.tokens) Setup.calls
    mergeCount 1 42 r.1 ≤ 1 ∧
      (r.2.persistent.processedPr 1 42 = some true ↔ mergeCount 1 42 r.1 = 1) :=
  one_merge_per_pr (run_performAll _ _) 1 42

end WaveFlow.Escrow
