import WaveFlow.Gateway.Authentic
import WaveFlow.Postgres.Programs

/-!
# Does a pause hold back the handlers?

A handler reads the status of the program once it has resolved it, and submits the attestation some
operations later. From the one to the other it is cleared: it attests whatever becomes of the
status, unless the lookup of a payout, which is the first of these operations, finds one. So a pause
holds back every handler, except for those that are cleared when it commits.
-/

namespace WaveFlow

open Interaction Postgres Transition

variable {ι : Type} [DecidableEq ι] {C : Crates} {config : AppConfig} {calls : ι → Call}
  {t t' : Target} {w : World} {id : Uuid} {s s' : Service ι} {e : Event ι Op Op.Ans}
  {h : List (Entry (Service ι) (Event ι Op Op.Ans))}

/-- The program is there, with this status. -/
def Postgres.Db.HasStatus (db : Db) (id : Uuid) (status : ProgramStatus) : Prop :=
  ∃ p, db.program? id = some p ∧ p.status = status

instance (db : Db) (id : Uuid) (status : ProgramStatus) : Decidable (db.HasStatus id status) :=
  decidable_of_iff ((db.program? id).any (·.status = status)) (by
    simp [Db.HasStatus, Option.any_eq_true])

/-- The update of `pause_program` committed: the program is paused. -/
def Pauses (e : Entry (Service ι) (Event ι Op Op.Ans)) (id : Uuid) : Prop :=
  e.label.op = .sql (.updateStatus id .active .paused) ∧ e.post.world.db.HasStatus id .paused

/-- The update of `resume_program` committed: the program is active. -/
def Resumes (e : Entry (Service ι) (Event ι Op Op.Ans)) (id : Uuid) : Prop :=
  e.label.op = .sql (.updateStatus id .paused .active) ∧ e.post.world.db.HasStatus id .active

/-- An attestation is submitted for the program. -/
def AttestsFor (e : Entry (Service ι) (Event ι Op Op.Ans)) (id : Uuid) : Prop :=
  ∃ r p, e.label.op = .attest r ∧ e.pre.world.db.program? id = some p ∧
    r.programId = p.onChainProgramId.toUInt64

/-- No attestation for a program between a pause and the next time it is resumed. -/
def Fenced (h : List (Entry (Service ι) (Event ι Op Op.Ans))) : Prop :=
  ∀ before pause between attestation after id,
    h = before ++ pause :: (between ++ attestation :: after) → Pauses pause id →
    AttestsFor attestation id → ∃ resume ∈ between, Resumes resume id

/-- The handler of a merge has read that the program is active, has not attested yet, and is not
about to find a payout. -/
def Phase.cleared? (merge : MergeAttestation) (db : Db) : Phase → Option Target
  | .opened t => if (db.payout? t.program (saturate merge.prNumber)).isSome then none else some t
  | .unpaid t | .registered t _ => some t
  | _ => none

/-- The step does not pause a program for which a handler is cleared. -/
def PausesUncleared (C : Crates) (calls : ι → Call) (s : Service ι) (e : Event ι Op Op.Ans) :
    Prop :=
  ∀ id, e.op = .sql (.updateStatus id .active .paused) → s.world.db.HasStatus id .active →
    ∀ i req merge t, calls i = .webhook req → req.merge? C = some merge →
      (s.phase i).cleared? merge s.world.db = some t → t.program ≠ id

/-! ### The status of a program -/

/-- A program keeps its status, unless a pause or a resumption is carried out. -/
theorem hasStatus_of_step {status : ProgramStatus} (hs : Service.FaultyStep C config calls s e s')
    (hstatus : s.world.db.HasStatus id status) :
    s'.world.db.HasStatus id status ∨
      ∃ status', status' ≠ status ∧ e.op = .sql (.updateStatus id status status') ∧
        s'.world.db.HasStatus id status' := by
  have hexec : e.op.Faulty C.uuids s.world e.ans s'.world := hs.answered
  obtain ⟨p, hp, rfl⟩ := hstatus
  rcases hexec.effect with hdb | ⟨q, r, hop, hok⟩
  · exact .inl ⟨p, by rw [hdb, hp], rfl⟩
  · obtain ⟨p', hp', hsame | rfl⟩ := Stmt.status_eq hok hp
    · exact .inl ⟨p', hp', hsame⟩
    · by_cases hne : p'.status = p.status
      · exact .inl ⟨p', hp', hne⟩
      · exact .inr ⟨_, hne, hop, p', hp', rfl⟩

/-- A paused program stays paused until it is resumed. -/
theorem paused_of_step (hs : Service.FaultyStep C config calls s e s')
    (hpaused : s.world.db.HasStatus id .paused) (hno : ¬ Resumes ⟨s, e, s'⟩ id) :
    s'.world.db.HasStatus id .paused := by
  rcases hasStatus_of_step hs hpaused with hkept | ⟨status, hne, hop, hstatus⟩
  · exact hkept
  · cases status with
    | paused => exact absurd rfl hne
    | active => exact absurd ⟨hop, hstatus⟩ hno

/-! ### Cleared handlers -/

variable {req : Request} {merge : MergeAttestation} {m : Phase}

theorem cleared?_opened {db : Db} (h : (Phase.opened t').cleared? merge db = some t) :
    t' = t ∧ ¬ Paid db t (saturate merge.prNumber) := by
  simp only [Phase.cleared?, Option.ite_none_left_eq_some, Option.some.injEq] at h
  obtain ⟨hnone, rfl⟩ := h
  exact ⟨rfl, fun hpaid => hnone (Option.isSome_iff_ne_none.2 (db.payout?_ne_none.2 hpaid))⟩

theorem cleared?_opened_of_unpaid {db : Db} (h : ¬ Paid db t (saturate merge.prNumber)) :
    (Phase.opened t).cleared? merge db = some t := by
  have hnone : db.payout? t.program (saturate merge.prNumber) = none := by
    by_contra hsome
    exact h (db.payout?_ne_none.1 hsome)
  simp [Phase.cleared?, hnone]

/-- As payouts stay, a handler that is cleared was so before. -/
theorem cleared?_of_grows {db db' : Db} (hgrows : db.Grows db')
    (h : m.cleared? merge db' = some t) : m.cleared? merge db = some t := by
  cases m with
  | opened t' =>
    obtain ⟨rfl, hunpaid⟩ := cleared?_opened h
    exact cleared?_opened_of_unpaid fun hpaid => hunpaid (hpaid.mono hgrows)
  | _ => exact h

/-- The program of a cleared handler stays active, if nobody pauses it. -/
theorem active_of_step {i : ι} (hs : Service.FaultyStep C config calls s e s')
    (huncleared : PausesUncleared C calls s e) (hcall : calls i = .webhook req)
    (hmerge : req.merge? C = some merge) (hi : (s.phase i).cleared? merge s.world.db = some t)
    (hactive : s.world.db.HasStatus t.program .active) :
    s'.world.db.HasStatus t.program .active := by
  rcases hasStatus_of_step hs hactive with hkept | ⟨status, hne, hop, -⟩
  · exact hkept
  · cases status with
    | active => exact absurd rfl hne
    | paused => exact absurd rfl (huncleared _ hop hactive i req merge t hcall hmerge hi)

/-- A handler becomes cleared by reading the status of an active program. -/
theorem active_of_cleared {op : Op} {ans : op.Ans} {w w' : World}
    (hmerge : req.merge? C = some merge) (hallowed : Allows C config req m op)
    (hexec : op.Faulty C.uuids w ans w')
    (hcleared : (m.next op ans).cleared? merge w'.db = some t) :
    m.cleared? merge w.db = some t ∨ w'.db.HasStatus t.program .active := by
  cases hallowed with
  | count c =>
    rw [Phase.next_count] at hcleared
    exact .inl (cleared?_of_grows hexec.grows hcleared)
  | audit hclaimed =>
    rw [Phase.next_audit hclaimed] at hcleared
    exact .inl (cleared?_of_grows hexec.grows hcleared)
  | status t' =>
    rcases ans with err | _ | _ | _
    · cases hcleared
    · cases hcleared
    · obtain ⟨rfl, -⟩ := cleared?_opened hcleared
      obtain ⟨db, hok, rfl⟩ := hexec.sql_ok
      simp only [Stmt.exec, Except.ok.injEq, Prod.mk.injEq, Option.map_eq_some_iff] at hok
      obtain ⟨⟨p, hp, hactive⟩, rfl⟩ := hok
      exact .inr ⟨p, hp, hactive⟩
    · cases hcleared
  | payout hmerge' t' =>
    -- The lookup found no payout: the handler was cleared before it.
    rcases ans with err | _ | r <;> cases hcleared
    obtain rfl := Option.some.inj (hmerge.symm.trans hmerge')
    obtain ⟨db, hok, -⟩ := hexec.sql_ok
    exact .inl (cleared?_opened_of_unpaid (not_paid_of_select hok))
  | contributor =>
    rcases ans with err | _ | r <;> cases hcleared
    exact .inl rfl
  | lookUp | program | reward => rcases ans with err | _ | r <;> cases hcleared
  | claim | spend => cases ans <;> cases hcleared
  | reject | payoutAgain | attest => cases hcleared
  | record =>
    rcases ans with err | r
    · cases err <;> cases hcleared
    · cases hcleared

/-- **The program of a cleared handler is active**, if no program was paused for which a handler was
cleared. -/
theorem active_of_run
    (hrun : Run (Service.FaultyStep C config calls) (Service.start C config calls w) h s)
    (huncleared : ∀ e ∈ h, PausesUncleared C calls e.pre e.label) {i : ι}
    (hcall : calls i = .webhook req) (hmerge : req.merge? C = some merge)
    (hi : (s.phase i).cleared? merge s.world.db = some t) :
    s.world.db.HasStatus t.program .active := by
  refine webhook_of_run (K := fun i req m h w => calls i = .webhook req →
    (∀ e ∈ h, PausesUncleared C calls e.pre e.label) → ∀ merge t, req.merge? C = some merge →
      m.cleared? merge w.db = some t → w.db.HasStatus t.program .active) hrun ?_ ?_ ?_ hcall hcall
    huncleared merge t hmerge hi
  · intro i req _ _ merge t _ hcleared
    unfold startPhase at hcleared
    split_ifs at hcleared <;> cases hcleared
  · intro h s e s' req _ hs hcall hallowed hactive _ hall merge t hmerge hcleared
    rcases active_of_cleared hmerge hallowed hs.answered hcleared with hbefore | hnow
    · exact active_of_step hs (hall ⟨s, e, s'⟩ List.mem_concat_self) hcall hmerge hbefore
        (hactive hcall (fun e' he' => hall e' (List.mem_append_left _ he')) merge t hmerge hbefore)
    · exact hnow
  · intro i req h s e s' hs hactive hcall hall merge t hmerge hcleared
    have hbefore := cleared?_of_grows hs.answered.grows hcleared
    exact active_of_step hs (hall ⟨s, e, s'⟩ List.mem_concat_self) hcall hmerge hbefore
      (hactive hcall (fun e' he' => hall e' (List.mem_append_left _ he')) merge t hmerge hbefore)

/-- **A pause holds back the handlers**: in every run in which no program is paused for which a
handler is cleared, no attestation for a program falls between a pause and the next time it is
resumed. -/
theorem pause_fences
    (hrun : Run (Service.FaultyStep C config calls) (Service.start C config calls w) h s)
    (huncleared : ∀ e ∈ h, PausesUncleared C calls e.pre e.label) : Fenced h := by
  rintro before pause between attestation after id rfl ⟨-, hpaused⟩ ⟨r, p, hop, hp, hid⟩
  by_contra hno
  have hassoc : before ++ pause :: (between ++ attestation :: after) =
      (before ++ pause :: between) ++ attestation :: after := by simp
  rw [hassoc] at hrun huncleared
  obtain ⟨hr, hs, -⟩ := hrun.around
  -- The program is still paused at the attestation.
  have hstill : attestation.pre.world.db.HasStatus id .paused := by
    refine hr.since (fun s => s.world.db.HasStatus id .paused) hpaused fun e he hs hpaused => ?_
    exact paused_of_step hs hpaused fun hresumes => hno ⟨e, he, hresumes⟩
  -- The handler that attests is cleared, and its program is this one.
  obtain ⟨req, merge, t, address, hcall, hmerge, hphase, rfl⟩ :=
    registered_of_attest (allowed_of_run hr hs) hop
  have hactive := active_of_run hr (fun e he => huncleared e (List.mem_append_left _ he)) hcall
    hmerge (t := t) (by rw [hphase]; rfl)
  have hknows := knows_of_run hr hcall hmerge
  rw [hphase] at hknows
  obtain ⟨⟨q, hq, hqid, honChain, -⟩, -⟩ := hknows
  obtain ⟨hmem, rfl⟩ := attestation.pre.world.db.program?_eq_some.1 hp
  have hsame : p.onChainProgramId = q.onChainProgramId := by
    rw [honChain]
    exact (toUInt64_injective hid).symm
  obtain rfl := attestation.pre.world.db.program_eq_of_onChain hmem hq hsame
  rw [← hqid] at hactive
  obtain ⟨_, hfound, hstatus⟩ := hactive
  obtain ⟨_, hfound', hstatus'⟩ := hstill
  obtain rfl := Option.some.inj (hfound.symm.trans hfound')
  cases hstatus.symm.trans hstatus'

/-! ### Two runs -/

namespace Setup

/-- Two deliveries of the merge, a pause, and the resumption after it. -/
def pausing : Fin 4 → Call
  | 0 => delivery
  | 1 => .admin (.pauseProgram program.1)
  | 2 => .admin (.resumeProgram program.1)
  | 3 => .webhook (deliver signature (some "83e4273f"))

def paused? (op : Op) : Option Uuid :=
  match op with
  | .sql (.updateStatus id .active .paused) => some id
  | _ => none

theorem paused?_eq_some {op : Op} {id : Uuid} :
    paused? op = some id ↔ op = .sql (.updateStatus id .active .paused) := by
  unfold paused?
  split <;> simp_all

end Setup

/-- The program is paused while a replay of a paid merge is about to find the payout, and resumed. -/
theorem pause_fences_setup :
    Fenced (Service.play Setup.crates Setup.config Setup.pausing Setup.world
      (List.replicate 16 0 ++ List.replicate 5 3 ++ [1] ++ List.replicate 4 3 ++ [2])).1 := by
  have hcheck : ∀ e ∈ (Service.play Setup.crates Setup.config Setup.pausing Setup.world
      (List.replicate 16 0 ++ List.replicate 5 3 ++ [1] ++ List.replicate 4 3 ++ [2])).1,
      (Setup.paused? e.label.op).isSome →
        ∀ i, ((e.pre.phase i).cleared? Setup.merged e.pre.world.db).isNone := by
    decide +kernel
  apply pause_fences (faulty_of_run (Service.run_play _ _ Setup.pausing _ _))
  intro e he id hop _ i req merge t hcall hmerge hcleared
  obtain ⟨d, rfl⟩ : ∃ d, req = Setup.deliver Setup.signature d := by
    match i, hcall with
    | 0, hcall => exact ⟨_, (Call.webhook.inj hcall).symm⟩
    | 1, hcall => cases hcall
    | 2, hcall => cases hcall
    | 3, hcall => exact ⟨_, (Call.webhook.inj hcall).symm⟩
  obtain rfl := Option.some.inj ((Setup.merge?_deliver _ _).symm.trans hmerge)
  have hnone := hcheck e he (by rw [Setup.paused?_eq_some.2 hop]; rfl) i
  rw [hcleared] at hnone
  cases hnone

/-- The program is paused between the last lookup of a handler and its attestation. -/
theorem attested_while_paused :
    let play := Service.play Setup.crates Setup.config Setup.pausing Setup.world
      (List.replicate 7 0 ++ [1, 0])
    Run (Service.Step Setup.crates Setup.config Setup.pausing)
        (Service.start Setup.crates Setup.config Setup.pausing Setup.world) play.1 play.2 ∧
      ¬ Fenced play.1 := by
  have hcheck : ∀ h, h = (Service.play Setup.crates Setup.config Setup.pausing Setup.world
      (List.replicate 7 0 ++ [1, 0])).1 → h.length = 9 ∧
      (∀ e ∈ h[7]?, Setup.paused? e.label.op = some Setup.program.1 ∧
        e.post.world.db.HasStatus Setup.program.1 .paused) ∧
      ∀ e ∈ h[8]?, e.label.op.attested? = some ⟨1, "alice", 42, 1⟩ ∧
        (e.pre.world.db.program? Setup.program.1).any (·.onChainProgramId.toUInt64 = 1) := by
    intro h hplay
    rw [hplay]
    decide +kernel
  intro play
  obtain ⟨hlength, hpause, hattest⟩ := hcheck play.1 rfl
  refine ⟨Service.run_play _ _ Setup.pausing _ _, fun hfenced => ?_⟩
  have h7 : 7 < play.1.length := by omega
  have h8 : 8 < play.1.length := by omega
  obtain ⟨hop, hpaused⟩ := hpause play.1[7] (List.getElem?_eq_getElem h7)
  obtain ⟨hattested, hid⟩ := hattest play.1[8] (List.getElem?_eq_getElem h8)
  obtain ⟨p, hp, honChain⟩ := Option.any_eq_true _ _ |>.1 hid
  have hsplit : play.1 = play.1.take 7 ++ play.1[7] :: ([] ++ play.1[8] :: []) := by
    have hnil : play.1.drop 9 = [] := List.drop_eq_nil_of_le hlength.le
    rw [List.nil_append, ← hnil, List.getElem_cons_drop, List.getElem_cons_drop,
      List.take_append_drop]
  obtain ⟨e, he, -⟩ := hfenced _ _ _ _ _ Setup.program.1 hsplit
    ⟨Setup.paused?_eq_some.1 hop, hpaused⟩
    ⟨_, p, Op.attested?_eq_some.1 hattested, hp, (of_decide_eq_true honChain).symm⟩
  cases he

end WaveFlow
