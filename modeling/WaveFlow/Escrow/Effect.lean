import WaveFlow.Escrow.Contract

/-!
# What a successful call does

`Effect auths env call value env'` says once, for every entry point, under which guards a call
succeeds, what it returns and what it changes. `effect_of_invoke` derives it from the code, and
`invoke_of_effect` the other way round; every invariant of the later files is a case analysis of
`Effect` and never unfolds the code again.
-/

namespace WaveFlow.Escrow

open Contract

variable {H : Host}

/-- What `spendMilestone` returns. -/
def MilestoneSpent (program : Program) (payout spent : ℤ) : Prop :=
  match program.milestoneCap with
  | none => spent = program.milestoneSpent
  | some cap => InI128 (program.milestoneSpent + payout) ∧
      spent = program.milestoneSpent + payout ∧ spent ≤ cap

theorem spendMilestone_ok {program : Program} {payout spent : ℤ} {auths : Finset Address}
    {env env' : Env H} :
    (spendMilestone program payout : Contract H ℤ).exec auths env = .ok (spent, env') ↔
      MilestoneSpent program payout spent ∧ env = env' := by
  unfold spendMilestone MilestoneSpent
  cases program.milestoneCap with
  | none => simp [@eq_comm _ spent]
  | some cap => simp [checkedAdd]; grind

/-- The successful calls: guards, returned value, and the environment they leave. -/
inductive Effect (auths : Finset Address) (env : Env H) : Call → Value → Env H → Prop
  | initialise {admin gateway token : Address}
      (hnew : env.instanceStorage.admin = none) (hauth : admin ∈ auths) :
      Effect auths env (.initialise admin gateway token) .unit
        { env with instanceStorage := env.instanceStorage.bootstrap admin gateway token }
  | createProgram {maintainer : Address} {repo : Symbol} {reward : ℤ} {cap : Option ℤ} {p : UInt64}
      (hauth : maintainer ∈ auths) (hreward : 0 < reward) (hrepo : validateRepo repo = .ok ())
      (hid : addU64 (env.instanceStorage.programCounter.getD 0) 1 = some p) :
      Effect auths env (.createProgram maintainer repo reward cap) (.programId p)
        { env with
          instanceStorage := env.instanceStorage.insert .programCounter p
          persistent := env.persistent.insert (.program p)
            { maintainer, githubRepo := repo, rewardPerPoint := reward, escrowBalance := 0,
              milestoneCap := cap, milestoneSpent := 0, status := .active }
          events := env.events ++ [.programCreated p maintainer repo reward] }
  | fund {p : UInt64} {src : Address} {amount : ℤ} {x : Program} {token : Address}
      {st : H.token.State}
      (hauth : src ∈ auths) (hmin : minDeposit ≤ amount) (hx : env.persistent.program p = some x)
      (hsrc : x.maintainer = src) (htoken : env.instanceStorage.token = some token)
      (hpay : H.token.transfer (env.tokens token) src H.self amount = some st)
      (hrange : InI128 (x.escrowBalance + amount)) :
      Effect auths env (.fund p src amount) .unit
        { env.withTransfer token src H.self amount st with
          persistent := env.persistent.insert (.program p)
            { x with escrowBalance := x.escrowBalance + amount }
          events := env.events ++ [.funded p amount (x.escrowBalance + amount)] }
  | registerContributor {p : UInt64} {caller : Address} {user : Symbol} {a : Address} {x : Program}
      (hauth : caller ∈ auths) (hx : env.persistent.program p = some x)
      (hcaller : x.maintainer = caller) (hnew : env.persistent.contributor p user = none) :
      Effect auths env (.registerContributor p caller user a) .unit
        { env with
          persistent := env.persistent.insert (.contributor p user) ⟨a⟩
          events := env.events ++ [.contributorRegistered p user a] }
  | recordMerge {gateway : Address} {p : UInt64} {user : Symbol} {pr : UInt64} {points : UInt32}
      {x : Program} {a token : Address} {spent : ℤ} {st : H.token.State}
      (hauth : gateway ∈ auths) (hgateway : env.instanceStorage.gateway = some gateway)
      (hpoints : points ≠ 0) (hpr : (env.persistent.processedPr p pr).getD false = false)
      (hx : env.persistent.program p = some x) (hactive : x.status = .active)
      (huser : env.persistent.contributor p user = some ⟨a⟩)
      (hrange : InI128 (points.toNat * x.rewardPerPoint))
      (hescrow : points.toNat * x.rewardPerPoint ≤ x.escrowBalance)
      (hspent : MilestoneSpent x (points.toNat * x.rewardPerPoint) spent)
      (htoken : env.instanceStorage.token = some token)
      (hpay : H.token.transfer (env.tokens token) H.self a (points.toNat * x.rewardPerPoint) =
        some st)
      (hrange' : InI128 (x.escrowBalance - points.toNat * x.rewardPerPoint)) :
      Effect auths env (.recordMerge gateway p user pr points)
        (.amount (points.toNat * x.rewardPerPoint))
        { env.withTransfer token H.self a (points.toNat * x.rewardPerPoint) st with
          persistent := (env.persistent.insert (.program p)
            { x with
              milestoneSpent := spent
              escrowBalance := x.escrowBalance - points.toNat * x.rewardPerPoint }).insert
            (.processedPr p pr) true
          events := env.events ++
            [.mergeRecorded p user pr points (points.toNat * x.rewardPerPoint)] }
  | pause {p : UInt64} {maintainer : Address} {x : Program}
      (hauth : maintainer ∈ auths) (hx : env.persistent.program p = some x)
      (hmaintainer : x.maintainer = maintainer) :
      Effect auths env (.pause p maintainer) .unit
        { env with
          persistent := env.persistent.insert (.program p) { x with status := .paused }
          events := env.events ++ [.programPaused p] }
  | resume {p : UInt64} {maintainer : Address} {x : Program}
      (hauth : maintainer ∈ auths) (hx : env.persistent.program p = some x)
      (hmaintainer : x.maintainer = maintainer) :
      Effect auths env (.resume p maintainer) .unit
        { env with
          persistent := env.persistent.insert (.program p) { x with status := .active }
          events := env.events ++ [.programResumed p] }
  | setRatio {p : UInt64} {maintainer : Address} {reward : ℤ} {x : Program}
      (hauth : maintainer ∈ auths) (hreward : 0 < reward)
      (hx : env.persistent.program p = some x) (hmaintainer : x.maintainer = maintainer) :
      Effect auths env (.setRatio p maintainer reward) .unit
        { env with
          persistent := env.persistent.insert (.program p) { x with rewardPerPoint := reward } }
  | withdrawNothing {p : UInt64} {maintainer : Address} {x : Program}
      (hauth : maintainer ∈ auths) (hx : env.persistent.program p = some x)
      (hmaintainer : x.maintainer = maintainer) (hpaused : x.status = .paused)
      (hempty : x.escrowBalance ≤ 0) :
      Effect auths env (.withdrawRemaining p maintainer) (.amount 0) env
  | withdrawRemaining {p : UInt64} {maintainer : Address} {x : Program} {token : Address}
      {st : H.token.State}
      (hauth : maintainer ∈ auths) (hx : env.persistent.program p = some x)
      (hmaintainer : x.maintainer = maintainer) (hpaused : x.status = .paused)
      (hpos : 0 < x.escrowBalance) (htoken : env.instanceStorage.token = some token)
      (hpay : H.token.transfer (env.tokens token) H.self maintainer x.escrowBalance = some st) :
      Effect auths env (.withdrawRemaining p maintainer) (.amount x.escrowBalance)
        { env.withTransfer token H.self maintainer x.escrowBalance st with
          persistent := env.persistent.insert (.program p) { x with escrowBalance := 0 } }

section Inversion

variable {auths : Finset Address} {env env' : Env H}

theorem initialise_effect {admin gateway token : Address} {u : Unit}
    (h : (initialise admin gateway token).exec auths env = .ok (u, env')) :
    Effect auths env (.initialise admin gateway token) .unit env' := by
  simp [initialise, instanceGet] at h
  obtain ⟨hnew, hauth, rfl⟩ := h
  exact .initialise hnew hauth

theorem createProgram_effect {maintainer : Address} {repo : Symbol} {reward : ℤ}
    {cap : Option ℤ} {p : UInt64}
    (h : (createProgram maintainer repo reward cap).exec auths env = .ok (p, env')) :
    Effect auths env (.createProgram maintainer repo reward cap) (.programId p) env' := by
  simp [createProgram, writeProgram] at h
  obtain ⟨hauth, hreward, ⟨_, hrepo⟩, hid, rfl⟩ := h
  exact .createProgram hauth hreward hrepo hid

theorem fund_effect {p : UInt64} {src : Address} {amount : ℤ} {u : Unit}
    (h : (fund p src amount).exec auths env = .ok (u, env')) :
    Effect auths env (.fund p src amount) .unit env' := by
  simp [fund, writeProgram, checkedAdd] at h
  obtain ⟨hauth, hmin, x, hx, hsrc, token, htoken, st, hpay, hrange, rfl⟩ := h
  exact .fund hauth hmin hx hsrc htoken hpay hrange

theorem registerContributor_effect {p : UInt64} {caller : Address} {user : Symbol} {a : Address}
    {u : Unit} (h : (registerContributor p caller user a).exec auths env = .ok (u, env')) :
    Effect auths env (.registerContributor p caller user a) .unit env' := by
  simp [registerContributor, writeContributor, persistentGet] at h
  obtain ⟨hauth, x, hx, hcaller, hnew, rfl⟩ := h
  exact .registerContributor hauth hx hcaller hnew

theorem recordMerge_effect {gateway : Address} {p : UInt64} {user : Symbol} {pr : UInt64}
    {points : UInt32} {payout : ℤ}
    (h : (recordMerge gateway p user pr points).exec auths env = .ok (payout, env')) :
    Effect auths env (.recordMerge gateway p user pr points) (.amount payout) env' := by
  simp [recordMerge, writeProgram, markPrProcessed, spendMilestone_ok, checkedMul, checkedSub] at h
  obtain ⟨hauth, hgateway, hpoints, hpr, x, hx, ⟨_, hactive⟩, ⟨a⟩, huser, hrange, hescrow, spent,
    hspent, token, htoken, st, hpay, hrange', rfl, rfl⟩ := h
  exact .recordMerge hauth hgateway hpoints hpr hx (requireActive_ok.1 hactive) huser hrange hescrow
    hspent htoken hpay hrange'

theorem setStatus_ok {status : ProgramStatus} {event : Event} {p : UInt64} {maintainer : Address}
    {u : Unit} :
    (setStatus status event p maintainer).exec auths env = .ok (u, env') ↔
      maintainer ∈ auths ∧ ∃ x, env.persistent.program p = some x ∧ x.maintainer = maintainer ∧
        { env with
          persistent := env.persistent.insert (.program p) { x with status }
          events := env.events ++ [event] } = env' := by
  simp [setStatus, writeProgram]

theorem pause_effect {p : UInt64} {maintainer : Address} {u : Unit}
    (h : (pause p maintainer).exec auths env = .ok (u, env')) :
    Effect auths env (.pause p maintainer) .unit env' := by
  obtain ⟨hauth, x, hx, hmaintainer, rfl⟩ := setStatus_ok.1 h
  exact .pause hauth hx hmaintainer

theorem resume_effect {p : UInt64} {maintainer : Address} {u : Unit}
    (h : (resume p maintainer).exec auths env = .ok (u, env')) :
    Effect auths env (.resume p maintainer) .unit env' := by
  obtain ⟨hauth, x, hx, hmaintainer, rfl⟩ := setStatus_ok.1 h
  exact .resume hauth hx hmaintainer

theorem setRatio_effect {p : UInt64} {maintainer : Address} {reward : ℤ} {u : Unit}
    (h : (setRatio p maintainer reward).exec auths env = .ok (u, env')) :
    Effect auths env (.setRatio p maintainer reward) .unit env' := by
  simp [setRatio, writeProgram] at h
  obtain ⟨hauth, hreward, x, hx, hmaintainer, rfl⟩ := h
  exact .setRatio hauth hreward hx hmaintainer

theorem withdrawRemaining_effect {p : UInt64} {maintainer : Address} {amount : ℤ}
    (h : (withdrawRemaining p maintainer).exec auths env = .ok (amount, env')) :
    Effect auths env (.withdrawRemaining p maintainer) (.amount amount) env' := by
  simp [withdrawRemaining, writeProgram] at h
  obtain ⟨hauth, x, hx, hmaintainer, hpaused, h⟩ := h
  split_ifs at h with hempty
  · simp at h
    obtain ⟨rfl, rfl⟩ := h
    exact .withdrawNothing hauth hx hmaintainer hpaused hempty
  · simp at h
    obtain ⟨token, htoken, st, hpay, rfl, rfl⟩ := h
    exact .withdrawRemaining hauth hx hmaintainer hpaused (by omega) htoken hpay

/-- **The code and `Effect` agree**: a call that succeeds has the effect stated for it. -/
theorem effect_of_invoke {call : Call} {value : Value}
    (h : (invoke call).exec auths env = .ok (value, env')) :
    Effect auths env call value env' := by
  cases call <;> simp only [invoke, bind_ok, pure_ok] at h <;>
    obtain ⟨r, _, h, rfl, rfl⟩ := h
  · exact initialise_effect h
  · exact createProgram_effect h
  · exact fund_effect h
  · exact registerContributor_effect h
  · exact recordMerge_effect h
  · exact pause_effect h
  · exact resume_effect h
  · exact setRatio_effect h
  · exact withdrawRemaining_effect h

/-- **The code does all that `Effect` allows**: where the guards of an effect hold, the call
succeeds. -/
theorem invoke_of_effect {call : Call} {value : Value} (h : Effect auths env call value env') :
    (invoke call).exec auths env = .ok (value, env') := by
  cases h with
  | initialise hnew hauth =>
    simp [invoke, initialise, instanceGet, hauth]
    exact ⟨hnew, rfl⟩
  | createProgram hauth hreward hrepo hid =>
    simp [invoke, createProgram, writeProgram, hauth, hreward, hrepo, hid]
  | fund hauth hmin hx hsrc htoken hpay hrange =>
    simp [invoke, fund, writeProgram, checkedAdd, hauth, hx, hsrc, htoken, hpay, hrange]
    exact ⟨hmin, rfl, rfl⟩
  | registerContributor hauth hx hcaller hnew =>
    simp [invoke, registerContributor, writeContributor, persistentGet, hauth, hx, hcaller]
    exact hnew
  | recordMerge hauth hgateway hpoints hpr hx hactive huser hrange hescrow hspent htoken hpay
      hrange' =>
    simp [invoke, recordMerge, writeProgram, markPrProcessed, spendMilestone_ok, checkedMul,
      checkedSub, hauth, hgateway, hpoints, hpr, hx, huser, hrange, htoken]
    exact ⟨⟨_, requireActive_ok.2 hactive⟩, hescrow, _, hspent, _, hpay, hrange', rfl, rfl, rfl,
      rfl, rfl⟩
  | pause hauth hx hmaintainer =>
    simp [invoke, pause, setStatus_ok, hauth, hx, hmaintainer]
  | resume hauth hx hmaintainer =>
    simp [invoke, resume, setStatus_ok, hauth, hx, hmaintainer]
  | setRatio hauth hreward hx hmaintainer =>
    simp [invoke, setRatio, writeProgram, hauth, hreward, hx, hmaintainer]
  | withdrawNothing hauth hx hmaintainer hpaused hempty =>
    simp [invoke, withdrawRemaining, hauth, hx, hmaintainer, hpaused, hempty]
  | withdrawRemaining hauth hx hmaintainer hpaused hpos htoken hpay =>
    simp [invoke, withdrawRemaining, writeProgram, hauth, hx, hmaintainer, hpaused, hpos.not_ge,
      htoken, hpay]
    rfl

end Inversion

end WaveFlow.Escrow
