import WaveFlow.Gateway.Lasting
import WaveFlow.Library.Observer

/-!
# The public routes

The handlers of `routes/mod.rs`. They only read, so a request runs beside the services: between two
of its statements these take any steps. The rows of a list come in the order of their timestamps,
and those of one time in any order.

`list_contributors` reads twice, and what it answers is still the answer of one moment
(`public_answers_atomic`), as no program is ever removed. What one answer shows, all later ones
uphold (`public_answers_last`), and at any moment the routes agree with each other
(`public_routes_agree`).
-/

namespace WaveFlow

open Interaction Postgres Relational Transition

/-! ### Records -/

structure ContributorRecord where
  programId : Uuid
  githubUsername : String
  stellarAddress : String
  registeredAt : Timestamp
  deriving DecidableEq

def Postgres.ContributorRow.intoRecord (row : ContributorRow) : ContributorRecord where
  programId := row.programId
  githubUsername := row.githubUsername.val
  stellarAddress := row.stellarAddress.val
  registeredAt := row.registeredAt

/-! ### Statements -/

/-- `ORDER BY .. DESC` -/
def NewestFirst {α : Type} (time : α → Timestamp) (rows : List α) : Prop :=
  rows.Pairwise fun a b => (time b).micros ≤ (time a).micros

/-- `ORDER BY .. ASC` -/
def OldestFirst {α : Type} (time : α → Timestamp) (rows : List α) : Prop :=
  rows.Pairwise fun a b => (time a).micros ≤ (time b).micros

section Order

variable {α β : Type} {time : α → Timestamp} {time' : β → Timestamp} {rows : List α} {f : α → β}

instance : Decidable (NewestFirst time rows) := inferInstanceAs (Decidable (List.Pairwise _ _))

instance : Decidable (OldestFirst time rows) := inferInstanceAs (Decidable (List.Pairwise _ _))

theorem NewestFirst.map (h : NewestFirst time rows) (hf : ∀ a, time' (f a) = time a) :
    NewestFirst time' (rows.map f) := by
  rw [NewestFirst, List.pairwise_map]
  simp only [hf]
  exact h

theorem OldestFirst.map (h : OldestFirst time rows) (hf : ∀ a, time' (f a) = time a) :
    OldestFirst time' (rows.map f) := by
  rw [OldestFirst, List.pairwise_map]
  simp only [hf]
  exact h

end Order

/-- The statements of the public routes. -/
inductive Read
  /-- `SELECT .. FROM programs ORDER BY created_at DESC` -/
  | selectPrograms
  /-- `SELECT .. FROM programs WHERE id = $1` -/
  | selectProgram (id : Uuid)
  /-- `SELECT .. FROM payouts WHERE program_id = $1 ORDER BY created_at DESC` -/
  | selectPayouts (id : Uuid)
  /-- `SELECT id FROM programs WHERE id = $1` -/
  | selectProgramId (id : Uuid)
  /-- `SELECT .. FROM contributors WHERE program_id = $1 ORDER BY registered_at ASC` -/
  | selectContributors (id : Uuid)

abbrev Read.Result : Read → Type
  | .selectPrograms => List ProgramRow
  | .selectProgram _ => Option ProgramRow
  | .selectPayouts _ => List PayoutRow
  | .selectProgramId _ => Option Uuid
  | .selectContributors _ => List ContributorRow

abbrev Read.Ans (q : Read) : Type := Except DbError q.Result

/-- The rows that a statement can return. -/
def Read.Returns : (q : Read) → Db → q.Result → Prop
  | .selectPrograms, db, rows =>
      rows.Perm db.programs.rows ∧ NewestFirst ProgramRow.createdAt rows
  | .selectProgram id, db, row => row = db.program? id
  | .selectPayouts id, db, rows =>
      rows.Perm (db.payouts.rows.filter fun r => r.programId = id) ∧
        NewestFirst PayoutRow.createdAt rows
  | .selectProgramId id, db, found => found = (db.program? id).map ProgramRow.id
  | .selectContributors id, db, rows =>
      rows.Perm (db.contributors.rows.filter fun r => r.programId = id) ∧
        OldestFirst ContributorRow.registeredAt rows

/-- How a statement can be answered. -/
def Read.Answers {ι : Type} (q : Read) (s : Service ι) : q.Ans → Prop
  | .ok rows => q.Returns s.world.db rows
  | .error e => ∃ text, e = .unavailable text

/-! ### Handlers -/

abbrev Reading := Prog Read Read.Ans

/-- Run a statement; a failure is a database error. -/
def fetch (q : Read) : ExceptT WaveFlowError Reading q.Result := do
  match ← (Prog.perform q : Reading q.Ans) with
  | .ok rows => pure rows
  | .error e => throw (databaseError e)

def listPrograms : ExceptT WaveFlowError Reading (List ProgramRecord) := do
  return (← fetch .selectPrograms).map ProgramRow.intoRecord

def getProgram (id : Uuid) : ExceptT WaveFlowError Reading ProgramRecord := do
  match ← fetch (.selectProgram id) with
  | some row => return row.intoRecord
  | none => throw (.notFound ("program " ++ id.text ++ " not found"))

def listPayouts (id : Uuid) : ExceptT WaveFlowError Reading (List PayoutRecord) := do
  return (← fetch (.selectPayouts id)).map PayoutRow.intoRecord

def listContributors (id : Uuid) : ExceptT WaveFlowError Reading (List ContributorRecord) := do
  if (← fetch (.selectProgramId id)).isNone then
    throw (.notFound ("program " ++ id.text ++ " not found"))
  else return (← fetch (.selectContributors id)).map ContributorRow.intoRecord

/-- A request to one of the public routes. -/
inductive PublicCall
  | listPrograms
  | getProgram (id : Uuid)
  | listPayouts (id : Uuid)
  | listContributors (id : Uuid)

namespace PublicCall

abbrev Answer : PublicCall → Type
  | .listPrograms => List ProgramRecord
  | .getProgram _ => ProgramRecord
  | .listPayouts _ => List PayoutRecord
  | .listContributors _ => List ContributorRecord

def handler : (call : PublicCall) → Reading (Except WaveFlowError call.Answer)
  | .listPrograms => WaveFlow.listPrograms.run
  | .getProgram id => (WaveFlow.getProgram id).run
  | .listPayouts id => (WaveFlow.listPayouts id).run
  | .listContributors id => (WaveFlow.listContributors id).run

end PublicCall

variable {ι : Type} [DecidableEq ι] {C : Crates} {config : AppConfig} {calls : ι → Call}
  {w : World} {s s' t t' m : Service ι} {h h' : List (Entry (Service ι) (Event ι Op Op.Ans))}
  {id : Uuid}

/-- The request is answered by `r`, beside a run from `s` to `t`. -/
abbrev Answered (C : Crates) (config : AppConfig) (calls : ι → Call) (s : Service ι)
    (call : PublicCall) (r : Except WaveFlowError call.Answer) (t : Service ι) : Prop :=
  Observes (Service.FaultyStep C config calls) Read.Answers s call.handler r t

/-- The request is answered by `r` when it reads everything in state `m`. -/
abbrev AnsweredAt (m : Service ι) (call : PublicCall) (r : Except WaveFlowError call.Answer) :
    Prop :=
  AtMoment Read.Answers m call.handler r

/-! ### One moment -/

/-- A program that was found is found again. -/
theorem lasts_found {found : Uuid} :
    Lasts (Service.FaultyStep C config calls) Read.Answers (.selectProgramId id)
      (.ok (some found)) := by
  intro s t h hrun hfound
  refine hrun.invariant_state
    (fun s : Service ι => some found = (s.world.db.program? id).map ProgramRow.id) hfound ?_
  intro s e s' hfound hs
  obtain ⟨p, hp, rfl⟩ := Option.map_eq_some_iff.1 hfound.symm
  obtain ⟨p', hp'⟩ := hs.answered.grows.program? hp
  obtain ⟨-, rfl⟩ := s.world.db.program?_eq_some.1 hp
  rw [hp', Option.map_some, (s'.world.db.program?_eq_some.1 hp').2]

theorem settled_handler (call : PublicCall) :
    Settled (Service.FaultyStep C config calls) Read.Answers call.handler := by
  cases call with
  | listPrograms | listPayouts =>
    refine settled_of_ends fun ans => ?_
    cases ans <;> exact ⟨_, rfl⟩
  | getProgram id =>
    refine settled_of_ends fun ans => ?_
    rcases ans with e | _ | row <;> exact ⟨_, rfl⟩
  | listContributors id =>
    intro ans
    rcases ans with e | _ | found
    · exact .inl ⟨_, rfl⟩
    · exact .inl ⟨_, rfl⟩
    · refine .inr ⟨lasts_found, settled_of_ends fun ans => ?_⟩
      cases ans <;> exact ⟨_, rfl⟩

/-- **A public answer is the answer of one moment**: whatever the services do while a request is
handled, it is answered as if everything had been read at once, between its begin and its end. -/
theorem public_answers_atomic {call : PublicCall} {r : Except WaveFlowError call.Answer}
    (hanswered : Answered C config calls s call r t) :
    ∃ m h h', Run (Service.FaultyStep C config calls) s h m ∧
      Run (Service.FaultyStep C config calls) m h' t ∧ AnsweredAt m call r :=
  hanswered.atMoment (settled_handler call)

/-! ### What is answered -/

omit [DecidableEq ι]

theorem atMoment_fetch {α : Type} {q : Read} {f : q.Result → ExceptT WaveFlowError Reading α}
    {r : Except WaveFlowError α} :
    AtMoment Read.Answers m (ExceptT.run (fetch q >>= f)) r ↔
      (∃ rows, q.Returns m.world.db rows ∧ AtMoment Read.Answers m (f rows).run r) ∨
        ∃ text, r = .error (.database text) := by
  constructor
  · rintro ⟨ans, hans, hrest⟩
    cases ans with
    | ok rows => exact .inl ⟨rows, hans, hrest⟩
    | error e =>
      obtain ⟨text, rfl⟩ := hans
      exact .inr ⟨text, hrest.symm⟩
  · rintro (⟨rows, hrows, hrest⟩ | ⟨text, rfl⟩)
    · exact ⟨.ok rows, hrows, hrest⟩
    · exact ⟨.error (.unavailable text), ⟨text, rfl⟩, rfl⟩

theorem answeredAt_listPrograms {r : Except WaveFlowError (List ProgramRecord)} :
    AnsweredAt m .listPrograms r ↔
      (∃ rows : List ProgramRow,
          (rows.Perm m.world.db.programs.rows ∧ NewestFirst ProgramRow.createdAt rows) ∧
            r = .ok (rows.map ProgramRow.intoRecord)) ∨
        ∃ text, r = .error (.database text) :=
  atMoment_fetch.trans (or_congr_left (exists_congr fun _ => and_congr_right fun _ => eq_comm))

theorem answeredAt_getProgram {r : Except WaveFlowError ProgramRecord} :
    AnsweredAt m (.getProgram id) r ↔
      r = (m.world.db.shown id).elim
          (.error (.notFound ("program " ++ id.text ++ " not found"))) .ok ∨
        ∃ text, r = .error (.database text) := by
  refine atMoment_fetch.trans (or_congr_left ?_)
  simp only [Read.Returns, exists_eq_left, Db.shown]
  cases m.world.db.program? id with
  | none => exact eq_comm
  | some p => exact eq_comm

theorem answeredAt_listPayouts {r : Except WaveFlowError (List PayoutRecord)} :
    AnsweredAt m (.listPayouts id) r ↔
      (∃ rows : List PayoutRow,
          (rows.Perm (m.world.db.payouts.rows.filter fun r => r.programId = id) ∧
              NewestFirst PayoutRow.createdAt rows) ∧
            r = .ok (rows.map PayoutRow.intoRecord)) ∨
        ∃ text, r = .error (.database text) :=
  atMoment_fetch.trans (or_congr_left (exists_congr fun _ => and_congr_right fun _ => eq_comm))

theorem answeredAt_listContributors {r : Except WaveFlowError (List ContributorRecord)} :
    AnsweredAt m (.listContributors id) r ↔
      (m.world.db.shown id = none ∧
          r = .error (.notFound ("program " ++ id.text ++ " not found"))) ∨
        (m.world.db.shown id ≠ none ∧
          ∃ rows : List ContributorRow,
            (rows.Perm (m.world.db.contributors.rows.filter fun r => r.programId = id) ∧
                OldestFirst ContributorRow.registeredAt rows) ∧
              r = .ok (rows.map ContributorRow.intoRecord)) ∨
          ∃ text, r = .error (.database text) := by
  refine atMoment_fetch.trans ?_
  simp only [Read.Returns, exists_eq_left, Db.shown]
  cases m.world.db.program? id with
  | none =>
    simp only [Option.map_none, Option.isNone_none, if_true, ne_eq, not_true_eq_false, false_and,
      false_or, true_and]
    exact or_congr_left eq_comm
  | some p =>
    simp only [Option.map_some, Option.isNone_some, reduceCtorEq, false_and, false_or, ne_eq,
      not_false_eq_true, true_and, Bool.false_eq_true, if_false]
    refine (or_congr_left atMoment_fetch).trans ?_
    rw [or_assoc, or_self]
    exact or_congr_left (exists_congr fun _ => and_congr_right fun _ => eq_comm)

theorem shown_eq_some {db : Db} {r : ProgramRecord} :
    db.shown id = some r ↔ ∃ p ∈ db.programs, p.id = id ∧ p.intoRecord = r := by
  simp only [Db.shown, Option.map_eq_some_iff, db.program?_eq_some, and_assoc]

/-- The rows of a list, in whatever order. -/
theorem mem_map_of_perm {α β : Type} {rows all : List α} {f : α → β} (hperm : rows.Perm all)
    {b : β} : b ∈ rows.map f ↔ ∃ a ∈ all, f a = b := by
  simp only [List.mem_map, hperm.mem_iff]

/-- What an answer shows, a later one upholds: lists grow, a program stays the same one with a
milestone that only rises, and nothing that was there is said to be missing. -/
def PublicCall.Upholds : (call : PublicCall) → call.Answer → Except WaveFlowError call.Answer → Prop
  | .listPrograms, rs, .ok rs' => ∀ r ∈ rs, ∃ r' ∈ rs', r.Later r'
  | .getProgram _, r, .ok r' => r.Later r'
  | .listPayouts _, rs, .ok rs' => ∀ r ∈ rs, r ∈ rs'
  | .listContributors _, rs, .ok rs' => ∀ r ∈ rs, r ∈ rs'
  | _, _, .error e => e.httpStatusCode = 500

theorem upholds_listPrograms {m' : Service ι} (hkeeps : m.world.db.Keeps m'.world.db)
    {rs : List ProgramRecord} {r : Except WaveFlowError (List ProgramRecord)}
    (ha : AnsweredAt m .listPrograms (.ok rs)) (hr : AnsweredAt m' .listPrograms r) :
    PublicCall.listPrograms.Upholds rs r := by
  rcases answeredAt_listPrograms.1 ha with ⟨rows, ⟨hperm, -⟩, hrs⟩ | ⟨text, ⟨⟩⟩
  obtain rfl := Except.ok.inj hrs
  rcases answeredAt_listPrograms.1 hr with ⟨rows', ⟨hperm', -⟩, rfl⟩ | ⟨text, rfl⟩
  · intro r hr
    obtain ⟨p, hp, hpr⟩ := (mem_map_of_perm hperm).1 hr
    obtain ⟨r', hr', hlater⟩ := hkeeps.programs p.id r (shown_eq_some.2 ⟨p, hp, rfl, hpr⟩)
    obtain ⟨p', hp', -, hpr'⟩ := shown_eq_some.1 hr'
    exact ⟨r', (mem_map_of_perm hperm').2 ⟨p', hp', hpr'⟩, hlater⟩
  · rfl

theorem upholds_getProgram {m' : Service ι} (hkeeps : m.world.db.Keeps m'.world.db)
    {a : ProgramRecord} {r : Except WaveFlowError ProgramRecord}
    (ha : AnsweredAt m (.getProgram id) (.ok a)) (hr : AnsweredAt m' (.getProgram id) r) :
    (PublicCall.getProgram id).Upholds a r := by
  rcases answeredAt_getProgram.1 ha with hshown | ⟨text, ⟨⟩⟩
  cases hr₀ : m.world.db.shown id with
  | none =>
    rw [hr₀] at hshown
    cases hshown
  | some r₀ =>
    rw [hr₀] at hshown
    obtain rfl := Except.ok.inj hshown
    obtain ⟨r', hr', hlater⟩ := hkeeps.programs id a hr₀
    rcases answeredAt_getProgram.1 hr with hshown' | ⟨text, rfl⟩
    · rw [hr'] at hshown'
      rw [hshown']
      exact hlater
    · rfl

theorem upholds_listPayouts {m' : Service ι} (hkeeps : m.world.db.Keeps m'.world.db)
    {rs : List PayoutRecord} {r : Except WaveFlowError (List PayoutRecord)}
    (ha : AnsweredAt m (.listPayouts id) (.ok rs)) (hr : AnsweredAt m' (.listPayouts id) r) :
    (PublicCall.listPayouts id).Upholds rs r := by
  rcases answeredAt_listPayouts.1 ha with ⟨rows, ⟨hperm, -⟩, hrs⟩ | ⟨text, ⟨⟩⟩
  obtain rfl := Except.ok.inj hrs
  rcases answeredAt_listPayouts.1 hr with ⟨rows', ⟨hperm', -⟩, rfl⟩ | ⟨text, rfl⟩
  · intro r hr
    obtain ⟨row, hrow, hr⟩ := (mem_map_of_perm hperm).1 hr
    obtain ⟨hmem, hprogram⟩ := List.mem_filter.1 hrow
    exact (mem_map_of_perm hperm').2
      ⟨row, List.mem_filter.2 ⟨hkeeps.payouts row hmem, hprogram⟩, hr⟩
  · rfl

theorem upholds_listContributors {m' : Service ι} (hkeeps : m.world.db.Keeps m'.world.db)
    {rs : List ContributorRecord} {r : Except WaveFlowError (List ContributorRecord)}
    (ha : AnsweredAt m (.listContributors id) (.ok rs))
    (hr : AnsweredAt m' (.listContributors id) r) :
    (PublicCall.listContributors id).Upholds rs r := by
  rcases answeredAt_listContributors.1 ha with ⟨-, ⟨⟩⟩ | ⟨hshown, rows, ⟨hperm, -⟩, hrs⟩ | ⟨text, ⟨⟩⟩
  obtain rfl := Except.ok.inj hrs
  obtain ⟨r₀, hr₀⟩ := Option.ne_none_iff_exists'.1 hshown
  obtain ⟨r', hr', -⟩ := hkeeps.programs id r₀ hr₀
  rcases answeredAt_listContributors.1 hr with ⟨hnone, -⟩ | ⟨-, rows', ⟨hperm', -⟩, rfl⟩ | ⟨text, rfl⟩
  · rw [hr'] at hnone
    cases hnone
  · intro r hr
    obtain ⟨row, hrow, hr⟩ := (mem_map_of_perm hperm).1 hr
    obtain ⟨hmem, hprogram⟩ := List.mem_filter.1 hrow
    exact (mem_map_of_perm hperm').2
      ⟨row, List.mem_filter.2 ⟨hkeeps.contributors row hmem, hprogram⟩, hr⟩
  · rfl

/-- What is kept in the database is upheld. -/
theorem upholds_of_keeps {m' : Service ι} (hkeeps : m.world.db.Keeps m'.world.db)
    {call : PublicCall} {a : call.Answer} {r : Except WaveFlowError call.Answer}
    (ha : AnsweredAt m call (.ok a)) (hr : AnsweredAt m' call r) : call.Upholds a r := by
  cases call with
  | listPrograms => exact upholds_listPrograms hkeeps ha hr
  | getProgram id => exact upholds_getProgram hkeeps ha hr
  | listPayouts id => exact upholds_listPayouts hkeeps ha hr
  | listContributors id => exact upholds_listContributors hkeeps ha hr

namespace Setup

/-- The services before and after the run. -/
def unmanaged : Service (Fin 4) := Service.start crates Setup.config managed world

def managedAll : Service (Fin 4) := managedRun.2

theorem run_managedAll :
    Run (Service.FaultyStep crates Setup.config managed) unmanaged managedRun.1 managedAll :=
  faulty_of_run run_managed

/-- The program is looked up before the run, and its contributors are read after it. -/
theorem answered_listContributors :
    Answered crates Setup.config managed unmanaged (.listContributors program.1)
      (.ok ((managedAll.world.db.contributors.rows.filter fun r => r.programId = program.1).map
        ContributorRow.intoRecord)) managedAll := by
  have hfound : (Read.selectProgramId program.1).Answers unmanaged (.ok (some program.1)) := by
    show some program.1 = (unmanaged.world.db.program? program.1).map ProgramRow.id
    decide +kernel
  have hrows : (Read.selectContributors program.1).Answers managedAll
      (.ok (managedAll.world.db.contributors.rows.filter fun r => r.programId = program.1)) :=
    ⟨.refl _, by decide +kernel⟩
  exact .look .nil hfound (.look run_managedAll hrows (.ret _ .nil))

end Setup

theorem public_answers_atomic_setup :
    ∃ m h h', Run (Service.FaultyStep Setup.crates Setup.config Setup.managed) Setup.unmanaged h m ∧
      Run (Service.FaultyStep Setup.crates Setup.config Setup.managed) m h' Setup.managedAll ∧
      AnsweredAt m (.listContributors Setup.program.1)
        (.ok ((Setup.managedAll.world.db.contributors.rows.filter fun r =>
          r.programId = Setup.program.1).map ContributorRow.intoRecord)) :=
  public_answers_atomic Setup.answered_listContributors

/-- **What the API has shown stays true.** A request answered 200 and, at any later time, another of
the same kind: between and beside them the services do what they like. -/
theorem public_answers_last [DecidableEq ι]
    (hrun : Run (Service.FaultyStep C config calls) (Service.start C config calls w) h s)
    {call : PublicCall} {a : call.Answer} {r : Except WaveFlowError call.Answer}
    (ha : Answered C config calls s call (.ok a) t)
    (hbetween : Run (Service.FaultyStep C config calls) t h' s')
    (hr : Answered C config calls s' call r t') : call.Upholds a r := by
  obtain ⟨m, h₁, h₂, hrun₁, hrun₂, ha⟩ := ha.atMoment (settled_handler call)
  obtain ⟨m', h₃, h₄, hrun₃, hrun₄, hr⟩ := hr.atMoment (settled_handler call)
  exact upholds_of_keeps (keeps_of_run (hrun.append hrun₁)
    ((hrun₂.append hbetween).append hrun₃)) ha hr

theorem public_answers_last_setup :
    PublicCall.listPayouts Setup.program.1 |>.Upholds []
      (.ok ((Setup.managedAll.world.db.payouts.rows.filter fun r =>
        r.programId = Setup.program.1).map PayoutRow.intoRecord)) := by
  have hnone : [] = (Setup.unmanaged.world.db.payouts.rows.filter fun r =>
      r.programId = Setup.program.1).map PayoutRow.intoRecord := by decide +kernel
  refine public_answers_last .nil
    (AtMoment.observes (answeredAt_listPayouts.2
      (.inl ⟨_, ⟨.refl _, by decide +kernel⟩, congrArg _ hnone⟩)))
    Setup.run_managedAll
    (AtMoment.observes (answeredAt_listPayouts.2 (.inl ⟨_, ⟨.refl _, by decide +kernel⟩, rfl⟩)))

/-! ### The routes together -/

theorem shown_eq_none_iff {db : Db} : db.shown id = none ↔ ∀ p ∈ db.programs, p.id ≠ id := by
  rw [shown_eq_none, Db.program?, Table.find?_eq_none]
  simp

/-- The program is not in the list. -/
def Unlisted (ps : List ProgramRecord) (id : Uuid) : Prop := ∀ r ∈ ps, r.id ≠ id

theorem unlisted_iff {db : Db} {rows : List ProgramRow} (hperm : rows.Perm db.programs.rows) :
    Unlisted (rows.map ProgramRow.intoRecord) id ↔ db.shown id = none := by
  rw [shown_eq_none_iff]
  simp only [Unlisted, mem_map_of_perm hperm]
  constructor
  · intro h p hp
    exact h _ ⟨p, hp, rfl⟩
  · rintro h _ ⟨p, hp, rfl⟩
    exact h p hp

/-- What is shown of a unique column has no value twice. -/
theorem nodup_of_unique {Row κ κ' : Type} [DecidableEq κ] {indexes : List (Index Row)}
    {t : Table indexes} {rows : List Row} {name : String} {key : Row → κ} {shown : Row → κ'}
    (hix : Index.on name key ∈ indexes) (hperm : rows.Perm t.rows)
    (hshown : ∀ a b, shown a = shown b → key a = key b) : (rows.map shown).Nodup := by
  have hnodup := t.nodup_on hix
  rw [List.Nodup, List.pairwise_map] at hnodup
  rw [(hperm.map shown).nodup_iff, List.Nodup, List.pairwise_map]
  exact hnodup.imp fun hdiff hsame => hdiff (hshown _ _ hsame)

/-- Rows of one program that differ in the pair of program and key differ in the key. -/
theorem nodup_of_program {Row κ κ' : Type} {rows filtered : List Row} {program : Row → Uuid}
    {key : Row → κ} {shown : Row → κ'} (hnodup : (rows.map fun r => (program r, key r)).Nodup)
    (hperm : filtered.Perm (rows.filter fun r => program r = id))
    (hshown : ∀ a b, shown a = shown b → key a = key b) : (filtered.map shown).Nodup := by
  rw [(hperm.map shown).nodup_iff, List.Nodup, List.pairwise_map]
  rw [List.Nodup, List.pairwise_map] at hnodup
  refine (hnodup.filter _).imp_of_mem fun {a b} ha hb hdiff hsame => hdiff ?_
  have hprogram : ∀ r ∈ rows.filter fun r => program r = id, program r = id := fun r hr =>
    of_decide_eq_true (List.mem_filter.1 hr).2
  rw [hprogram a ha, hprogram b hb, hshown a b hsame]

/-- What the list of programs shows is all there is: no program twice, whether by its id, its id on
chain or its repo. -/
structure Distinct (ps : List ProgramRecord) : Prop where
  id : (ps.map ProgramRecord.id).Nodup
  onChain : (ps.map ProgramRecord.onChainProgramId).Nodup
  repo : (ps.map ProgramRecord.githubRepo).Nodup

theorem distinct_of_perm {db : Db} {rows : List ProgramRow} (hperm : rows.Perm db.programs.rows) :
    Distinct (rows.map ProgramRow.intoRecord) := by
  have hid : ProgramRow.idIndex ∈ ProgramRow.indexes := by simp [ProgramRow.indexes]
  have honChain : ProgramRow.onChainIndex ∈ ProgramRow.indexes := by simp [ProgramRow.indexes]
  have hrepo : ProgramRow.repoIndex ∈ ProgramRow.indexes := by simp [ProgramRow.indexes]
  refine ⟨?_, ?_, ?_⟩
  · rw [List.map_map]
    exact nodup_of_unique hid hperm fun _ _ hsame => hsame
  · rw [List.map_map]
    exact nodup_of_unique honChain hperm fun _ _ hsame => toUInt64_injective hsame
  · rw [List.map_map]
    exact nodup_of_unique hrepo hperm fun _ _ hsame => Text.eq_of_val hsame

theorem getProgram_ok_iff {rows : List ProgramRow} (hperm : rows.Perm m.world.db.programs.rows)
    (r : ProgramRecord) :
    AnsweredAt m (.getProgram id) (.ok r) ↔ r ∈ rows.map ProgramRow.intoRecord ∧ r.id = id := by
  have hshown : AnsweredAt m (.getProgram id) (.ok r) ↔ m.world.db.shown id = some r := by
    rw [answeredAt_getProgram]
    cases m.world.db.shown id <;> simp [eq_comm]
  rw [hshown, shown_eq_some, mem_map_of_perm hperm]
  constructor
  · rintro ⟨p, hp, hid, rfl⟩
    exact ⟨⟨p, hp, rfl⟩, hid⟩
  · rintro ⟨⟨p, hp, rfl⟩, hid⟩
    exact ⟨p, hp, hid, rfl⟩

theorem getProgram_notFound_iff {rows : List ProgramRow}
    (hperm : rows.Perm m.world.db.programs.rows) :
    (∃ text, AnsweredAt m (.getProgram id) (.error (.notFound text))) ↔
      Unlisted (rows.map ProgramRow.intoRecord) id := by
  rw [unlisted_iff hperm, exists_congr fun _ => answeredAt_getProgram]
  cases m.world.db.shown id <;> simp

theorem listContributors_notFound_iff {rows : List ProgramRow}
    (hperm : rows.Perm m.world.db.programs.rows) :
    (∃ text, AnsweredAt m (.listContributors id) (.error (.notFound text))) ↔
      Unlisted (rows.map ProgramRow.intoRecord) id := by
  rw [unlisted_iff hperm, exists_congr fun _ => answeredAt_listContributors]
  cases m.world.db.shown id <;> simp

theorem listPayouts_ok {rs : List PayoutRecord} (h : AnsweredAt m (.listPayouts id) (.ok rs)) :
    (∀ r ∈ rs, r.programId = id) ∧ (rs.map PayoutRecord.prNumber).Nodup ∧
      NewestFirst PayoutRecord.createdAt rs ∧ (m.world.db.shown id = none → rs = []) := by
  rcases answeredAt_listPayouts.1 h with ⟨rows, ⟨hperm, hsorted⟩, hrs⟩ | ⟨text, ⟨⟩⟩
  obtain rfl := Except.ok.inj hrs
  refine ⟨fun r hr => ?_, ?_, hsorted.map fun _ => rfl, fun hnone => ?_⟩
  · obtain ⟨row, hrow, rfl⟩ := (mem_map_of_perm hperm).1 hr
    exact of_decide_eq_true (List.mem_filter.1 hrow).2
  · rw [List.map_map]
    have hpr : PayoutRow.prIndex ∈ PayoutRow.indexes := by simp [PayoutRow.indexes]
    exact nodup_of_program (m.world.db.payouts.nodup_on hpr) hperm
      fun _ _ hsame => toUInt64_injective hsame
  · -- A payout has a program.
    rw [shown_eq_none_iff] at hnone
    have hempty : m.world.db.payouts.rows.filter (fun r => r.programId = id) = [] := by
      refine List.filter_eq_nil_iff.2 fun row hrow hid => ?_
      obtain ⟨p, hp, hpid⟩ := m.world.db.payouts_fkey row hrow
      exact hnone p hp (hpid.trans (of_decide_eq_true hid))
    rw [hempty] at hperm
    rw [hperm.eq_nil, List.map_nil]

theorem listContributors_ok {rs : List ContributorRecord}
    (h : AnsweredAt m (.listContributors id) (.ok rs)) :
    (∀ r ∈ rs, r.programId = id) ∧ (rs.map ContributorRecord.githubUsername).Nodup ∧
      OldestFirst ContributorRecord.registeredAt rs := by
  rcases answeredAt_listContributors.1 h with ⟨-, ⟨⟩⟩ | ⟨-, rows, ⟨hperm, hsorted⟩, hrs⟩ |
    ⟨text, ⟨⟩⟩
  obtain rfl := Except.ok.inj hrs
  refine ⟨fun r hr => ?_, ?_, hsorted.map fun _ => rfl⟩
  · obtain ⟨row, hrow, rfl⟩ := (mem_map_of_perm hperm).1 hr
    exact of_decide_eq_true (List.mem_filter.1 hrow).2
  · rw [List.map_map]
    have huser : ContributorRow.index ∈ ContributorRow.indexes := by simp [ContributorRow.indexes]
    exact nodup_of_program (m.world.db.contributors.nodup_on huser) hperm
      fun _ _ hsame => Text.eq_of_val hsame

/-- **The routes agree.** At any moment, in every database that the migrations allow: the list shows
no program twice; one program is shown exactly as the list shows it, and is said to be missing
exactly when it is not in the list, by the route for its contributors as well; the payouts and the
contributors listed are those of the program, with no pull request and no user twice; and for a
missing program the list of payouts is empty. Programs and payouts are listed newest first, and
contributors oldest first. -/
theorem public_routes_agree {ps : List ProgramRecord}
    (hps : AnsweredAt m .listPrograms (.ok ps)) :
    Distinct ps ∧ NewestFirst ProgramRecord.createdAt ps ∧ ∀ id,
      (∀ r, AnsweredAt m (.getProgram id) (.ok r) ↔ r ∈ ps ∧ r.id = id) ∧
      ((∃ text, AnsweredAt m (.getProgram id) (.error (.notFound text))) ↔ Unlisted ps id) ∧
      ((∃ text, AnsweredAt m (.listContributors id) (.error (.notFound text))) ↔
        Unlisted ps id) ∧
      (∀ rs, AnsweredAt m (.listPayouts id) (.ok rs) → (∀ r ∈ rs, r.programId = id) ∧
        (rs.map PayoutRecord.prNumber).Nodup ∧ NewestFirst PayoutRecord.createdAt rs ∧
        (Unlisted ps id → rs = [])) ∧
      (∀ rs, AnsweredAt m (.listContributors id) (.ok rs) → (∀ r ∈ rs, r.programId = id) ∧
        (rs.map ContributorRecord.githubUsername).Nodup ∧
        OldestFirst ContributorRecord.registeredAt rs) := by
  rcases answeredAt_listPrograms.1 hps with ⟨rows, ⟨hperm, hsorted⟩, hrows⟩ | ⟨text, ⟨⟩⟩
  obtain rfl := Except.ok.inj hrows
  refine ⟨distinct_of_perm hperm, hsorted.map fun _ => rfl, fun id => ⟨getProgram_ok_iff hperm,
    getProgram_notFound_iff hperm, listContributors_notFound_iff hperm, fun rs hrs => ?_,
    fun rs => listContributors_ok⟩⟩
  obtain ⟨hprogram, hnodup, hnewest, hempty⟩ := listPayouts_ok hrs
  exact ⟨hprogram, hnodup, hnewest,
    fun hunlisted => hempty ((unlisted_iff hperm).1 hunlisted)⟩

theorem public_routes_agree_setup :
    Distinct (Setup.managedAll.world.db.programs.rows.map ProgramRow.intoRecord) :=
  (public_routes_agree (answeredAt_listPrograms.2
    (.inl ⟨_, ⟨.refl _, by decide +kernel⟩, rfl⟩))).1

end WaveFlow
