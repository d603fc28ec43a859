import WaveFlow.Gateway.Redelivery

/-!
# What an attestation rests on

A handler that submits an attestation has checked the signature of the request, found a merge in its
body, read the active program of the repo, and found no payout and a registration. `traced_of_run`
keeps the last two lookups in the history: the phase of a handler tells which of them it has made,
and in which database.
-/

namespace WaveFlow

open Interaction Postgres Transition

variable {ι : Type} [DecidableEq ι] {C : Crates} {config : AppConfig} {calls : ι → Call}
  {req : Request} {merge : MergeAttestation} {m : Phase} {t : Target} {w : World}
  {s s₀ : Service ι} {h h' : List (Entry (Service ι) (Event ι Op Op.Ans))} {i : ι}

/-- The signature header is the HMAC of the body under the secret, in hex. -/
structure Request.Authentic (C : Crates) (config : AppConfig) (req : Request) : Prop where
  tag : req.signature.startsWith "sha256="
  digest : hexDecode (req.signature.toList.drop 7) =
    some (C.hmacSha256 config.githubWebhookSecret.toUTF8.data.toList req.body).toList

/-- The body is the event of a pull request that was merged into the default branch. -/
structure Request.Merges (C : Crates) (req : Request) (event : GitHubPullRequestEvent) : Prop where
  eventType : req.eventType = "pull_request"
  body : ∃ payload, C.fromSlice req.body = .ok payload ∧
    GitHubPullRequestEvent.fromValue payload = some event
  action : event.action = "closed"
  merged : event.pullRequest.merged = true
  base : event.pullRequest.base.refName = event.repository.defaultBranch

/-- Thread `i` performed an operation on a database with property `P`. -/
def Performed (h : List (Entry (Service ι) (Event ι Op Op.Ans))) (i : ι) (op : Op)
    (P : Db → Prop) : Prop :=
  ∃ e ∈ h, e.label.thread = i ∧ e.label.op = op ∧ P e.pre.world.db

/-- What an attestation that thread `i` submits after the history `h` rests on. -/
structure Rests (C : Crates) (config : AppConfig) (calls : ι → Call)
    (h : List (Entry (Service ι) (Event ι Op Op.Ans))) (i : ι) (db : Db) (r : AttestationRequest)
    (req : Request) (event : GitHubPullRequestEvent) (p : ProgramRow) : Prop where
  call : calls i = .webhook req
  authentic : req.Authentic C config
  merges : req.Merges C event
  number : r.prNumber = event.number
  author : r.githubUsername = event.pullRequest.user.login
  programId : r.programId = p.onChainProgramId.toUInt64
  repo : p.githubRepo.val = event.repository.fullName
  active : p.status = .active
  resolved : Performed h i (.sql (.selectActiveProgram event.repository.fullName)) fun db =>
    p ∈ db.programs
  registered : ∃ row ∈ db.contributors, row.programId = p.id ∧
    row.githubUsername.val = event.pullRequest.user.login
  unpaid : Performed h i (.sql (.selectPayoutId p.id (saturate event.number))) fun db =>
    ∀ row ∈ db.payouts, ¬ (row.programId = p.id ∧ row.prNumber.toInt = event.number.toNat)

/-! ### The request -/

theorem Request.Signed.authentic (h : req.Signed C config) : req.Authentic C config := by
  unfold Request.Signed verifyGithubSignature at h
  split_ifs at h with htag
  · split at h
    · cases h
    · rename_i provided hdecode
      split_ifs at h with hdigest
      exact ⟨by simpa using htag, by rw [hdecode, hdigest]⟩

/-- What the merge of a body says is what its event says. -/
theorem Request.merges_of_merge? (h : req.merge? C = some merge) :
    ∃ event, req.Merges C event ∧ merge.githubRepo = event.repository.fullName ∧
      merge.githubUsername = event.pullRequest.user.login ∧ merge.prNumber = event.number := by
  obtain ⟨payload, event, hbody, htype, hevent, hparse⟩ := Request.merge?_eq_some.1 h
  unfold parseMergeEvent at hparse
  split_ifs at hparse with haction hmerged hbase
  cases hparse
  exact ⟨event, ⟨htype, ⟨payload, hbody, hevent⟩, not_not.1 haction, by simpa using hmerged,
    not_not.1 hbase⟩, rfl, rfl, rfl⟩

/-- The request was turned away: by the body limit, or for its signature. -/
def Phase.TurnedAway (m : Phase) : Prop := m = .outside ∨ m = .rejected

@[simp] theorem Phase.turnedAway_iff {m : Phase} : m.TurnedAway ↔ m = .outside ∨ m = .rejected :=
  Iff.rfl

theorem Phase.TurnedAway.not_claimed {m : Phase} (hm : m.TurnedAway) : ¬ m.Claimed := by
  rcases hm with rfl | rfl <;> exact id

theorem Phase.TurnedAway.next {m : Phase} (hm : m.TurnedAway) (op : Op) (ans : op.Ans) :
    m.next op ans = m := by
  rcases hm with rfl | rfl <;> cases op with
  | attest r => rfl
  | count c => rfl
  | sql q => cases q <;> rfl

/-- A request that is not turned away is within the limit and signed. -/
theorem signed_of_run
    (hrun : Run (Service.FaultyStep C config calls) (Service.start C config calls w) h s)
    (hi : calls i = .webhook req) (hphase : ¬ (s.phase i).TurnedAway) :
    req.BodyFits ∧ req.Signed C config := by
  refine webhook_of_run (K := fun _ req m _ _ => ¬ m.TurnedAway →
    req.BodyFits ∧ req.Signed C config) hrun ?_ ?_ ?_ hi hphase
  · intro i req hm
    unfold startPhase at hm
    split_ifs at hm with hfits hsigned
    · exact ⟨hfits, hsigned⟩
    · exact ⟨hfits, hsigned⟩
    · exact absurd (.inr rfl) hm
    · exact absurd (.inl rfl) hm
  · intro h s e s' req _ _ _ _ hsigned hm
    refine hsigned fun hturned => hm ?_
    rw [hturned.next e.op e.ans]
    exact hturned
  · intro i req h s e s' _ hsigned
    exact hsigned

/-! ### The lookups -/

/-- `t` is the active program of the repo. -/
def ActiveFor (repo : String) (t : Target) (db : Db) : Prop :=
  ∃ p ∈ db.programs, p.id = t.program ∧ p.onChainProgramId = t.onChain ∧ p.githubRepo.val = repo ∧
    p.status = .active

/-- Thread `i` read that `t` is the active program of the repo. -/
def ReadActive (h : List (Entry (Service ι) (Event ι Op Op.Ans))) (i : ι) (repo : String)
    (t : Target) : Prop :=
  Performed h i (.sql (.selectActiveProgram repo)) (ActiveFor repo t)

/-- Thread `i` read that the pull request has no payout. -/
def ReadUnpaid (h : List (Entry (Service ι) (Event ι Op Op.Ans))) (i : ι) (t : Target)
    (number : UInt64) : Prop :=
  Performed h i (.sql (.selectPayoutId t.program (saturate number))) fun db =>
    ¬ Paid db t (saturate number)

/-- The lookups that the phase of a handler tells of. -/
def Traced (h : List (Entry (Service ι) (Event ι Op Op.Ans))) (i : ι) (merge : MergeAttestation) :
    Phase → Prop
  | .resolved t | .opened t => ReadActive h i merge.githubRepo t
  | .unpaid t | .registered t _ =>
      ReadActive h i merge.githubRepo t ∧ ReadUnpaid h i t merge.prNumber
  | _ => True

omit [DecidableEq ι] in
theorem Performed.append {op : Op} {P : Db → Prop} (hp : Performed h i op P) :
    Performed (h ++ h') i op P := by
  obtain ⟨e, he, hrest⟩ := hp
  exact ⟨e, List.mem_append_left _ he, hrest⟩

omit [DecidableEq ι] in
theorem Performed.now {op : Op} {ans : op.Ans} {s' : Service ι} {P : Db → Prop}
    (hP : P s.world.db) : Performed (h ++ [⟨s, ⟨i, op, ans⟩, s'⟩]) i op P :=
  ⟨⟨s, ⟨i, op, ans⟩, s'⟩, List.mem_concat_self, rfl, rfl, hP⟩

omit [DecidableEq ι] in
theorem ReadActive.append {repo : String} (hread : ReadActive h i repo t) :
    ReadActive (h ++ h') i repo t := Performed.append hread

omit [DecidableEq ι] in
theorem Traced.append (htraced : Traced h i merge m) : Traced (h ++ h') i merge m := by
  cases m with
  | resolved | opened => exact ReadActive.append htraced
  | unpaid | registered => exact ⟨htraced.1.append, htraced.2.append⟩
  | _ => trivial

/-- **A handler's own step leaves a trace** of the lookup that its next phase tells of. -/
theorem traced_next {e : Event ι Op Op.Ans} {s' : Service ι}
    (hs : Service.FaultyStep C config calls s e s') (hmerge : req.merge? C = some merge)
    (hallowed : Allows C config req m e.op) (htraced : Traced h e.thread merge m) :
    Traced (h ++ [⟨s, e, s'⟩]) e.thread merge (m.next e.op e.ans) := by
  obtain ⟨i, op, ans⟩ := e
  have hexec : op.Faulty C.uuids s.world ans s'.world := hs.answered
  have hsame : ∀ {other}, req.merge? C = some other → other = merge := by
    intro other hother
    exact Option.some.inj (hother.symm.trans hmerge)
  cases hallowed with
  | count c =>
    rw [Phase.next_count]
    exact htraced.append
  | audit hm =>
    rw [Phase.next_audit hm]
    exact htraced.append
  | program hother =>
    obtain rfl := hsame hother
    rcases ans with e | _ | ⟨id, onChain⟩
    · exact trivial
    · exact trivial
    · obtain ⟨db, hok, -⟩ := hexec.sql_ok
      have hactive : ActiveFor _ ⟨id, onChain⟩ s.world.db := active_of_select hok
      exact Performed.now hactive
  | status t =>
    rcases ans with e | _ | _ | _
    · exact trivial
    · exact trivial
    · exact ReadActive.append htraced
    · exact trivial
  | payout hother t =>
    obtain rfl := hsame hother
    rcases ans with e | _ | id
    · exact trivial
    · obtain ⟨db, hok, -⟩ := hexec.sql_ok
      exact ⟨ReadActive.append htraced,
        Performed.now (P := fun db => ¬ Paid db t _) (not_paid_of_select hok)⟩
    · exact trivial
  | contributor hother t =>
    rcases ans with e | _ | address
    · exact trivial
    · exact trivial
    · exact ⟨htraced.1.append, htraced.2.append⟩
  | reject | payoutAgain | attest => exact trivial
  | lookUp => rcases ans with e | _ | r <;> exact trivial
  | claim => cases ans <;> exact trivial
  | reward => rcases ans with e | _ | r <;> exact trivial
  | record =>
    rcases ans with e | r
    · cases e <;> exact trivial
    · exact trivial
  | spend => cases ans <;> exact trivial

theorem traced_of_run
    (hrun : Run (Service.FaultyStep C config calls) (Service.start C config calls w) h s)
    (hi : calls i = .webhook req) (hmerge : req.merge? C = some merge) :
    Traced h i merge (s.phase i) := by
  refine webhook_of_run (K := fun i req m h _ => ∀ merge, req.merge? C = some merge →
    Traced h i merge m) hrun ?_ ?_ ?_ hi merge hmerge
  · intro i req merge _
    unfold startPhase
    split_ifs <;> exact trivial
  · intro h s e s' req _ hs _ hallowed htraced merge hmerge
    exact traced_next hs hmerge hallowed (htraced merge hmerge)
  · intro i req h s e s' _ htraced merge hmerge
    exact (htraced merge hmerge).append

/-! ### Attestations -/

/-- The attestation that an operation submits. -/
def Op.attested? : Op → Option AttestationRequest
  | .attest r => some r
  | _ => none

theorem Op.attested?_eq_some {op : Op} {r : AttestationRequest} :
    op.attested? = some r ↔ op = .attest r := by
  cases op <;> simp [Op.attested?]

omit [DecidableEq ι] in
/-- Only the handler of a merge attests, when its author is registered. -/
theorem registered_of_attest {e : Event ι Op Op.Ans} {r : AttestationRequest}
    (hallowed : (protocols C config calls e.thread).allows (s.phase e.thread) e.op)
    (hop : e.op = .attest r) :
    ∃ req merge t address, calls e.thread = .webhook req ∧ req.merge? C = some merge ∧
      s.phase e.thread = .registered t address ∧
      r = buildAttestation t.onChain.toUInt64 merge := by
  rw [hop] at hallowed
  obtain ⟨req, hcall, hallows⟩ := webhook_of_allows (by rintro ⟨⟩) hallowed
  generalize hm : s.phase e.thread = m at hallows
  cases hallows with
  | attest hmerge t address => exact ⟨req, _, t, address, hcall, hmerge, rfl, rfl⟩

/-- **No attestation without an authentic merge**: what any attestation of any run rests on, at the
time when it was submitted. -/
theorem attestation_authentic
    (hrun : Run (Service.FaultyStep C config calls) (Service.start C config calls w) h s)
    {e : Entry (Service ι) (Event ι Op Op.Ans)} (he : e ∈ h) {r : AttestationRequest}
    (hop : e.label.op = .attest r) :
    ∃ before rest req event p, h = before ++ e :: rest ∧
      Rests C config calls before e.label.thread e.pre.world.db r req event p := by
  obtain ⟨before, rest, hsplit, hrun₁, hstep⟩ := hrun.split he
  have hallowed := allowed_of_run hrun₁ hstep
  obtain ⟨req, merge, t, address, hcall, hmerge, hphase, rfl⟩ := registered_of_attest hallowed hop
  obtain ⟨event, hmerges, hrepo, hauthor, hnumber⟩ := Request.merges_of_merge? hmerge
  have hknows := knows_of_run hrun₁ hcall hmerge
  have htraced := traced_of_run hrun₁ hcall hmerge
  obtain ⟨-, hsigned⟩ := signed_of_run hrun₁ hcall (by rw [hphase]; simp)
  -- The phase before an attestation tells of all the lookups.
  rw [hphase] at hknows htraced
  obtain ⟨⟨first, hfirst, hthread, hread, p, hp, hid, honChain, hprepo, hactive⟩, hunpaid⟩ := htraced
  obtain ⟨-, row, hrow, hprogram, husername, -⟩ := hknows
  refine ⟨before, rest, req, event, p, hsplit, ?_⟩
  exact
    { call := hcall
      authentic := hsigned.authentic
      merges := hmerges
      number := hnumber
      author := hauthor
      programId := by rw [honChain]; rfl
      repo := hprepo.trans hrepo
      active := hactive
      resolved := ⟨first, hfirst, hthread, by rw [hread, hrepo], hp⟩
      registered := ⟨row, hrow, hprogram.trans hid.symm, husername.trans hauthor⟩
      unpaid := by
        obtain ⟨look, hlook, hthread, hread, hnone⟩ := hunpaid
        refine ⟨look, hlook, hthread, by rw [hread, hid, hnumber], ?_⟩
        rintro row hrow ⟨hprogram, hnat⟩
        rw [← hnumber] at hnat
        exact hnone ⟨row, hrow, hprogram.trans hid, (saturate_eq hnat).symm⟩ }

/-- The attestation of a delivery in a run with a second one. -/
theorem attestation_authentic_setup :
    let calls : Fin 2 → Call := fun _ => Setup.delivery
    let play := Service.play Setup.crates Setup.config calls Setup.world
      (List.replicate 16 0 ++ List.replicate 4 1)
    ∃ e ∈ play.1, e.label.op = .attest ⟨1, "alice", 42, 1⟩ ∧
      ∃ before rest req event p, play.1 = before ++ e :: rest ∧
        Rests Setup.crates Setup.config calls before e.label.thread e.pre.world.db
          ⟨1, "alice", 42, 1⟩ req event p := by
  intro calls play
  have hsome : ∃ e ∈ play.1, e.label.op.attested? = some ⟨1, "alice", 42, 1⟩ := by
    decide +kernel
  obtain ⟨e, he, hattested⟩ := hsome
  have hop := Op.attested?_eq_some.1 hattested
  exact ⟨e, he, hop, attestation_authentic (faulty_of_run (Service.run_play _ _ calls _ _)) he hop⟩

end WaveFlow
