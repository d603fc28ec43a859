import WaveFlow.Library.Prog
import WaveFlow.Postgres.Statements

/-!
# What the services act on

A handler of the gateway or of the API is a program over three operations: a statement of the
database, a call of `submit_attestation`, and a step of a metrics counter. `World` is what they read
and change. Each operation is atomic; between two of them other handlers can run.
-/

namespace WaveFlow

open Interaction Postgres

/-- The counters of the gateway. -/
inductive Counter
  | webhook
  | webhookRejected
  | webhookIgnored
  | webhookFailed
  | payoutSuccess
  | contributorNotFound
  deriving DecidableEq

structure World where
  db : Db
  attestations : List AttestationRequest
  counters : Counter → ℕ

/-- Step a counter. -/
def World.bump (w : World) (c : Counter) : World :=
  { w with counters := Function.update w.counters c (w.counters c + 1) }

inductive Op
  | sql (s : Stmt)
  | attest (r : AttestationRequest)
  | count (c : Counter)

/-- The answer to an operation. -/
abbrev Op.Ans : Op → Type
  | .sql s => Except DbError s.Result
  | .attest _ | .count _ => Unit

/-- Run one operation; a statement that fails changes nothing. -/
def Op.exec (source : UuidSource) : (op : Op) → World → op.Ans × World
  | .sql s, w =>
      match s.exec source w.db with
      | .ok (r, db) => (.ok r, { w with db })
      | .error e => (.error e, w)
  | .attest r, w => ((), { w with attestations := w.attestations ++ [r] })
  | .count c, w => ((), w.bump c)

theorem Op.exec_sql_ok {source : UuidSource} {w : World} {s : Stmt} {r : s.Result} {db : Db}
    (h : s.exec source w.db = .ok (r, db)) :
    (Op.sql s).exec source w = (.ok r, { w with db }) := by
  simp only [Op.exec, h]

theorem Op.exec_sql_error {source : UuidSource} {w : World} {s : Stmt} {e : DbError}
    (h : s.exec source w.db = .error e) : (Op.sql s).exec source w = (.error e, w) := by
  simp only [Op.exec, h]

/-- An `async fn` that returns a plain value. -/
abbrev Action := Prog Op Op.Ans

/-- An `async fn` that returns a `WaveFlowResult`. -/
abbrev Fallible := ExceptT WaveFlowError Action

/-! ### Answers -/

structure Response where
  status : ℕ
  body : Json

/-- An error as a response, `map_error` of the gateway and `ApiError` of the API. -/
def mapError (err : WaveFlowError) : Response :=
  ⟨err.httpStatusCode, .obj [("error", .str err.toText)]⟩

/-- The answer of `RequestBodyLimitLayer` to a body that is too long, a plain text. -/
def payloadTooLarge : Response := ⟨413, .str "length limit exceeded"⟩

/-! ### Common to the services -/

/-- `i64::try_from(n).unwrap_or(i64::MAX)` -/
def saturate (n : UInt64) : Int64 := (i64TryFrom n.toNat).getD Int64.maxValue

theorem toInt_saturate {n : UInt64} (hn : n.toNat < 2 ^ 63) : (saturate n).toInt = n.toNat := by
  cases h : i64TryFrom n.toNat with
  | none =>
    rw [i64TryFrom_eq_none] at h
    omega
  | some k =>
    rw [saturate, h, Option.getD_some]
    exact i64TryFrom_eq_some.1 h

theorem saturate_eq {n : UInt64} {k : Int64} (h : k.toInt = n.toNat) : saturate n = k := by
  rw [saturate, ← h, i64TryFrom_toInt]
  rfl

/-- A number that fits comes back from its column, another one does not. -/
theorem toUInt64_saturate {n : UInt64} : (saturate n).toUInt64 = n ↔ n.toNat < 2 ^ 63 := by
  constructor
  · intro h
    by_contra hn
    have hnone : i64TryFrom n.toNat = none := i64TryFrom_eq_none.2 (by omega)
    have hmax : (saturate n).toUInt64.toNat = 2 ^ 63 - 1 := by
      rw [saturate, hnone]
      rfl
    rw [h] at hmax
    omega
  · intro hn
    have hcast : n.toInt64.toInt = n.toNat := BitVec.toInt_eq_toNat_of_lt (by
      have hnat : n.toInt64.toBitVec.toNat = n.toNat := rfl
      omega)
    rw [saturate_eq hcast]
    rfl

theorem toUInt64_injective : Function.Injective Int64.toUInt64 := by
  rintro ⟨a⟩ ⟨b⟩ rfl
  rfl

/-- `counter!(c).increment(1)` -/
def count (c : Counter) : Action Unit := Prog.perform (Op.count c)

/-- `WaveFlowError::Database(e.to_string())` -/
def databaseError (e : DbError) : WaveFlowError := .database e.toText

/-- A violated constraint is a conflict, any other failure a database error. -/
def conflictOr (text : String) (e : DbError) : WaveFlowError :=
  if e.constraint?.isSome then .conflict text else databaseError e

/-- Run a statement and turn its failure into an error. -/
def query (s : Stmt) (onError : DbError → WaveFlowError) : Fallible s.Result := do
  match ← (Prog.perform (Op.sql s) : Action (Except DbError s.Result)) with
  | .ok r => pure r
  | .error e => throw (onError e)

/-- A statement in a protocol. -/
theorem follows_query {M : Type*} {P : Protocol Op Op.Ans M} {m : M} {s : Stmt}
    {onError : DbError → WaveFlowError} {Q : M → Except WaveFlowError s.Result → Prop}
    (hallowed : P.allows m (.sql s)) (hok : ∀ r, Q (P.next m (.sql s) (.ok r)) (.ok r))
    (herror : ∀ e, Q (P.next m (.sql s) (.error e)) (.error (onError e))) :
    Follows P m (query s onError).run Q := by
  refine ⟨hallowed, fun ans => ?_⟩
  cases ans with
  | ok r => exact hok r
  | error e => exact herror e

theorem uses_query {allowed : Op → Prop} {s : Stmt} {onError : DbError → WaveFlowError}
    (h : allowed (.sql s)) : Uses allowed (query s onError).run :=
  follows_query h (fun _ => trivial) fun _ => trivial

/-! ### Running alone -/

variable (source : UuidSource) (w : World) {w' : World} {α β : Type}

/-- Run a program alone. -/
abbrev runAlone (p : Action α) : α × World := p.run (Op.exec source) w

/-- Run a program that can fail alone. -/
abbrev tryAlone (p : Fallible α) : Except WaveFlowError α × World := runAlone source w p.run

variable {source w}

theorem tryAlone_bind_ok {p : Fallible α} {f : α → Fallible β} {a : α}
    (h : tryAlone source w p = (.ok a, w')) :
    tryAlone source w (p >>= f) = tryAlone source w' (f a) := by
  show Prog.run _ (ExceptT.run (p >>= f)) w = _
  rw [run_except_bind, show Prog.run _ p.run w = _ from h]

theorem tryAlone_bind_error {p : Fallible α} {f : α → Fallible β} {e : WaveFlowError}
    (h : tryAlone source w p = (.error e, w')) :
    tryAlone source w (p >>= f) = (.error e, w') := by
  show Prog.run _ (ExceptT.run (p >>= f)) w = _
  rw [run_except_bind, show Prog.run _ p.run w = _ from h]

/-- `match p.await { .. }`: the rest looks at the result, error or not. -/
theorem tryAlone_bind_result {p : Fallible α} {f : Except WaveFlowError α → Fallible β}
    {r : Except WaveFlowError α} (h : tryAlone source w p = (r, w')) :
    tryAlone source w (ExceptT.lift p.run >>= f) = tryAlone source w' (f r) := by
  apply tryAlone_bind_ok
  show Prog.run _ (p.run >>= fun a => .ret (Except.ok a)) w = _
  rw [Prog.run_bind, show Prog.run _ p.run w = _ from h]
  rfl

theorem tryAlone_query_ok {s : Stmt} {onError : DbError → WaveFlowError} {r : s.Result} {db : Db}
    (h : s.exec source w.db = .ok (r, db)) :
    tryAlone source w (query s onError) = (.ok r, { w with db }) := by
  show Prog.run _ (Prog.call (Op.sql s) _) w = _
  rw [Prog.run_call, Op.exec_sql_ok h]
  rfl

theorem tryAlone_query_error {s : Stmt} {onError : DbError → WaveFlowError} {e : DbError}
    (h : s.exec source w.db = .error e) :
    tryAlone source w (query s onError) = (.error (onError e), w) := by
  show Prog.run _ (Prog.call (Op.sql s) _) w = _
  rw [Prog.run_call, Op.exec_sql_error h]
  rfl

/-- A program that succeeds has succeeded in its first part. -/
theorem tryAlone_bind_eq_ok {p : Fallible α} {f : α → Fallible β} {b : β}
    (h : tryAlone source w (p >>= f) = (.ok b, w')) :
    ∃ a w₁, tryAlone source w p = (.ok a, w₁) ∧ tryAlone source w₁ (f a) = (.ok b, w') := by
  cases hp : tryAlone source w p with
  | mk r w₁ =>
    cases r with
    | error e =>
      rw [tryAlone_bind_error hp] at h
      cases h
    | ok a =>
      rw [tryAlone_bind_ok hp] at h
      exact ⟨a, w₁, rfl, h⟩

theorem tryAlone_query_eq_ok {s : Stmt} {onError : DbError → WaveFlowError} {r : s.Result}
    (h : tryAlone source w (query s onError) = (.ok r, w')) :
    ∃ db, s.exec source w.db = .ok (r, db) ∧ w' = { w with db } := by
  cases hexec : s.exec source w.db with
  | error e =>
    rw [tryAlone_query_error hexec] at h
    cases h
  | ok q =>
    obtain ⟨r', db⟩ := q
    rw [tryAlone_query_ok hexec] at h
    cases h
    exact ⟨db, rfl, rfl⟩

theorem tryAlone_query_world (s : Stmt) (onError : DbError → WaveFlowError) :
    (tryAlone source w (query s onError)).2 = ((Op.sql s).exec source w).2 := by
  cases h : s.exec source w.db with
  | ok r => rw [tryAlone_query_ok h, Op.exec_sql_ok h]
  | error e => rw [tryAlone_query_error h, Op.exec_sql_error h]

end WaveFlow
