import WaveFlow.Api.Records
import WaveFlow.Library.Component

/-!
# The registry

What the services keep programs for, said without a database: a program is one object, with the
record that the API shows of it, and here are the operations on it. There are no other programs, no
rows and no handlers. An operation carries its answer, and `ProgramRecord.next` is defined where the
answer is the one that the object gives; so a history of the object is a list of operations that can
be replayed. Before it is created there is no record.

`tells_of_replay`: what the history tells about the record.
-/

namespace WaveFlow

open Transition

/-! ### Records -/

namespace ProgramRecord

/-- A program right after its creation. -/
def Fresh (r : ProgramRecord) : Prop :=
  0 < r.rewardPerPoint ∧ r.escrowBalance = 0 ∧ r.milestoneSpent = 0 ∧ r.status = .active

instance (r : ProgramRecord) : Decidable r.Fresh := inferInstanceAs (Decidable (_ ∧ _ ∧ _ ∧ _))

/-- The number is a value of `BIGINT`. -/
def FitsBigint (n : ℤ) : Prop := -2 ^ 63 ≤ n ∧ n < 2 ^ 63

instance (n : ℤ) : Decidable (FitsBigint n) := inferInstanceAs (Decidable (_ ∧ _))

/-- The balances after a payout are values of their columns. -/
def Books (r : ProgramRecord) (amount : ℤ) : Prop :=
  FitsBigint (r.milestoneSpent + amount) ∧ FitsBigint (r.escrowBalance - amount)

instance (r : ProgramRecord) (amount : ℤ) : Decidable (r.Books amount) :=
  inferInstanceAs (Decidable (_ ∧ _))

/-- Book a payout. -/
def book (r : ProgramRecord) (amount : ℤ) : ProgramRecord :=
  { r with
    milestoneSpent := r.milestoneSpent + amount
    escrowBalance := max (r.escrowBalance - amount) 0 }

/-- The id on chain, if the program is the active one of this repo. -/
def resolve (r : ProgramRecord) (githubRepo : String) : Option UInt64 :=
  if r.githubRepo = githubRepo ∧ r.status = .active then some r.onChainProgramId else none

/-- What never changes in a record. -/
structure SameProgram (r r' : ProgramRecord) : Prop where
  id : r'.id = r.id
  onChainProgramId : r'.onChainProgramId = r.onChainProgramId
  githubRepo : r'.githubRepo = r.githubRepo
  maintainerAddress : r'.maintainerAddress = r.maintainerAddress
  milestoneCap : r'.milestoneCap = r.milestoneCap
  createdAt : r'.createdAt = r.createdAt

theorem SameProgram.refl (r : ProgramRecord) : r.SameProgram r := ⟨rfl, rfl, rfl, rfl, rfl, rfl⟩

theorem SameProgram.trans {a b c : ProgramRecord} (hab : a.SameProgram b) (hbc : b.SameProgram c) :
    a.SameProgram c where
  id := hbc.id.trans hab.id
  onChainProgramId := hbc.onChainProgramId.trans hab.onChainProgramId
  githubRepo := hbc.githubRepo.trans hab.githubRepo
  maintainerAddress := hbc.maintainerAddress.trans hab.maintainerAddress
  milestoneCap := hbc.milestoneCap.trans hab.milestoneCap
  createdAt := hbc.createdAt.trans hab.createdAt

end ProgramRecord

/-! ### Operations -/

/-- An operation on a program, with its answer. -/
inductive RegistryOp
  | create (record : ProgramRecord)
  | resolve (githubRepo : String) (found : Option UInt64)
  | readStatus (found : Option ProgramStatus)
  | readReward (found : Option ℤ)
  | readId (found : Bool)
  | setStatus (src dst : ProgramStatus) (changed : Bool)
  | setReward (rewardPerPoint : ℤ) (changed : Bool)
  | book (amount : ℤ) (changed : Bool)
  /-- The balances would leave their columns. -/
  | refuse (amount : ℤ)
  deriving DecidableEq

/-- The record after an operation, where its answer is right. -/
def ProgramRecord.next (r : Option ProgramRecord) : RegistryOp → Option (Option ProgramRecord)
  | .create record => if r = none ∧ record.Fresh then some (some record) else none
  | .resolve githubRepo found => if found = r.bind (·.resolve githubRepo) then some r else none
  | .readStatus found => if found = r.map ProgramRecord.status then some r else none
  | .readReward found => if found = r.map ProgramRecord.rewardPerPoint then some r else none
  | .readId found => if found = r.isSome then some r else none
  | .setStatus src dst changed =>
      if changed = r.any fun p => p.status = src then
        some (if changed then r.map fun p => { p with status := dst } else r)
      else none
  | .setReward rewardPerPoint changed =>
      if changed = r.isSome then some (r.map fun p => { p with rewardPerPoint }) else none
  | .book amount changed =>
      if changed = r.isSome ∧ r.all fun p => p.Books amount then some (r.map (·.book amount))
      else none
  | .refuse amount => if r.any fun p => ¬ p.Books amount then some r else none

namespace RegistryOp

/-- The move from one status to another that the operation makes. -/
def move? : RegistryOp → Option (ProgramStatus × ProgramStatus)
  | .setStatus src dst true => some (src, dst)
  | _ => none

/-- The status that the operation sets. -/
def status? (op : RegistryOp) : Option ProgramStatus := op.move?.map Prod.snd

/-- The reward that the operation sets. -/
def reward? : RegistryOp → Option ℤ
  | .setReward rewardPerPoint true => some rewardPerPoint
  | _ => none

/-- The amount that the operation books. -/
def booked : RegistryOp → ℤ
  | .book amount true => amount
  | _ => 0

end RegistryOp

/-- All that was booked. -/
def bookedBy : List RegistryOp → ℤ
  | [] => 0
  | op :: ops => op.booked + bookedBy ops

/-- Every move starts where the one before it ended. -/
def Connected : ProgramStatus → List (ProgramStatus × ProgramStatus) → Prop
  | _, [] => True
  | status, move :: moves => move.1 = status ∧ Connected move.2 moves

/-! ### What the history tells -/

/-- What one operation makes of a record. -/
structure RegistryOp.Does (op : RegistryOp) (r r' : ProgramRecord) : Prop where
  program : r.SameProgram r'
  starts : ∀ move, op.move? = some move → move.1 = r.status
  status : r'.status = op.status?.getD r.status
  reward : r'.rewardPerPoint = op.reward?.getD r.rewardPerPoint
  spent : r'.milestoneSpent = r.milestoneSpent + op.booked
  escrow : r'.escrowBalance = r.escrowBalance ∨
    r'.escrowBalance = max (r.escrowBalance - op.booked) 0

/-- An operation that leaves the record alone. -/
theorem RegistryOp.does_nothing {op : RegistryOp} (r : ProgramRecord) (hmove : op.move? = none)
    (hreward : op.reward? = none) (hbooked : op.booked = 0) : op.Does r r where
  program := .refl r
  starts move h := by
    rw [hmove] at h
    cases h
  status := by rw [RegistryOp.status?, hmove, Option.map_none, Option.getD_none]
  reward := by rw [hreward, Option.getD_none]
  spent := by rw [hbooked, add_zero]
  escrow := .inl rfl

theorem ProgramRecord.does_of_next {r : ProgramRecord} {op : RegistryOp}
    {last : Option ProgramRecord} (h : ProgramRecord.next (some r) op = some last) :
    ∃ r', last = some r' ∧ op.Does r r' := by
  cases op with
  | create record => simp [ProgramRecord.next] at h
  | resolve | readStatus | readReward | readId | refuse =>
    simp only [ProgramRecord.next, Option.ite_none_right_eq_some, Option.some.injEq] at h
    obtain ⟨-, rfl⟩ := h
    exact ⟨r, rfl, RegistryOp.does_nothing r rfl rfl rfl⟩
  | setStatus src dst changed =>
    simp only [ProgramRecord.next, Option.ite_none_right_eq_some, Option.some.injEq,
      Option.any_some] at h
    obtain ⟨hchanged, rfl⟩ := h
    cases changed with
    | false => exact ⟨r, rfl, RegistryOp.does_nothing r rfl rfl rfl⟩
    | true =>
      refine ⟨_, rfl, .mk rfl rfl rfl rfl rfl rfl, ?_, rfl, rfl, (add_zero _).symm, .inl rfl⟩
      rintro move ⟨⟩
      exact (of_decide_eq_true hchanged.symm).symm
  | setReward reward changed =>
    simp only [ProgramRecord.next, Option.ite_none_right_eq_some, Option.some.injEq,
      Option.isSome_some] at h
    obtain ⟨rfl, rfl⟩ := h
    refine ⟨_, rfl, .mk rfl rfl rfl rfl rfl rfl, ?_, rfl, rfl, (add_zero _).symm, .inl rfl⟩
    rintro move ⟨⟩
  | book amount changed =>
    simp only [ProgramRecord.next, Option.ite_none_right_eq_some, Option.some.injEq,
      Option.isSome_some] at h
    obtain ⟨⟨rfl, -⟩, rfl⟩ := h
    refine ⟨_, rfl, .mk rfl rfl rfl rfl rfl rfl, ?_, rfl, rfl, rfl, .inr rfl⟩
    rintro move ⟨⟩

theorem ProgramRecord.fresh_of_next {r : ProgramRecord} {op : RegistryOp}
    (h : ProgramRecord.next none op = some (some r)) : r.Fresh := by
  cases op with
  | create record =>
    simp only [ProgramRecord.next, true_and, Option.ite_none_right_eq_some, Option.some.injEq] at h
    exact h.2 ▸ h.1
  | _ => simp [ProgramRecord.next] at h

/-- The record `r` is what the operations made of `r₀`. -/
structure Tells (r₀ : ProgramRecord) (ops : List RegistryOp) (r : ProgramRecord) : Prop where
  program : r₀.SameProgram r
  moves : Connected r₀.status (ops.filterMap RegistryOp.move?)
  status : r.status = (ops.filterMap RegistryOp.status?).getLastD r₀.status
  reward : r.rewardPerPoint = (ops.filterMap RegistryOp.reward?).getLastD r₀.rewardPerPoint
  spent : r.milestoneSpent = r₀.milestoneSpent + bookedBy ops

theorem getLastD_filterMap_cons {α β : Type*} (f : α → Option β) (a : α) (as : List α) (b : β) :
    ((a :: as).filterMap f).getLastD b = (as.filterMap f).getLastD ((f a).getD b) := by
  rw [List.filterMap_cons]
  cases f a with
  | none => rfl
  | some b' => exact List.getLastD_cons

theorem Tells.cons {r₀ r₁ r : ProgramRecord} {op : RegistryOp} {ops : List RegistryOp}
    (hop : op.Does r₀ r₁) (h : Tells r₁ ops r) : Tells r₀ (op :: ops) r where
  program := hop.program.trans h.program
  moves := by
    have hmoves := h.moves
    rw [hop.status, RegistryOp.status?] at hmoves
    rw [List.filterMap_cons]
    cases hmove : op.move? with
    | none =>
      rw [hmove] at hmoves
      exact hmoves
    | some move =>
      rw [hmove] at hmoves
      exact ⟨hop.starts move hmove, hmoves⟩
  status := by rw [getLastD_filterMap_cons, ← hop.status, h.status]
  reward := by rw [getLastD_filterMap_cons, ← hop.reward, h.reward]
  spent := by rw [bookedBy, h.spent, hop.spent, add_assoc]

/-- **The record tells its history**, and the history the record. -/
theorem tells_of_replay {r₀ : ProgramRecord} {ops : List RegistryOp} {last : Option ProgramRecord}
    (h : replay ProgramRecord.next (some r₀) ops = some last) :
    ∃ r, last = some r ∧ Tells r₀ ops r := by
  induction ops generalizing r₀ with
  | nil =>
    cases h
    exact ⟨r₀, rfl, .refl r₀, trivial, rfl, rfl, (add_zero _).symm⟩
  | cons op ops ih =>
    obtain ⟨next, hop, hops⟩ := Option.bind_eq_some_iff.1 h
    obtain ⟨r₁, rfl, hdoes⟩ := ProgramRecord.does_of_next hop
    obtain ⟨r, hlast, htells⟩ := ih hops
    exact ⟨r, hlast, htells.cons hdoes⟩

/-- Before its creation a program shows nothing, and nothing is done to it. -/
theorem created_of_replay {ops : List RegistryOp} {last : Option ProgramRecord}
    (h : replay ProgramRecord.next none ops = some last) :
    last = none ∨ ∃ before record after r, ops = before ++ .create record :: after ∧
      record.Fresh ∧ last = some r ∧ Tells record after r := by
  induction ops with
  | nil =>
    cases h
    exact .inl rfl
  | cons op ops ih =>
    obtain ⟨next, hop, hops⟩ := Option.bind_eq_some_iff.1 h
    by_cases hcreate : ∃ record, op = .create record
    · obtain ⟨record, rfl⟩ := hcreate
      simp only [ProgramRecord.next, true_and, Option.ite_none_right_eq_some,
        Option.some.injEq] at hop
      obtain ⟨hfresh, rfl⟩ := hop
      obtain ⟨r, hlast, htells⟩ := tells_of_replay hops
      exact .inr ⟨[], record, ops, r, rfl, hfresh, hlast, htells⟩
    · have hnone : next = none := by
        cases op with
        | create record => exact absurd ⟨record, rfl⟩ hcreate
        | _ => simp_all [ProgramRecord.next]
      subst hnone
      refine (ih hops).imp_right ?_
      rintro ⟨before, record, after, r, rfl, hrest⟩
      exact ⟨op :: before, record, after, r, rfl, hrest⟩

end WaveFlow
