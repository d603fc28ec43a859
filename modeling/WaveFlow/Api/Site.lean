import WaveFlow.Api.AdminKeys
import WaveFlow.Api.Provenance

/-!
# The services behind their doors

The whole site: webhooks come to the gateway, and HTTP requests to the admin routes, which
`main.rs` puts behind `require_admin_key` and a body limit. `axum` is a parameter, `Extractors`: how
a path segment and a body become the arguments of a handler, and what a request gets that no route
takes.

Every run of the site is a run of the services in which the requests that were turned away take no
part (`simulated_of_run`), so what is known of the services holds of the site. Who may write what
follows (`only_authorised_write`), and that requests without a key or a signature change nothing but
the list of rejected requests (`outsiders_change_nothing`).
-/

namespace WaveFlow

open Interaction Postgres Transition

structure HttpRequest extends Request where
  method : String
  path : String

/-- The parts of the path. -/
def HttpRequest.segments (req : HttpRequest) : List String :=
  (req.path.toList.splitOn '/').map String.ofList

/-! ### Routes -/

/-- The routes of `admin_router`, with the segment that stands for `:id`. -/
inductive AdminRoute
  | createProgram
  | pauseProgram (id : String)
  | resumeProgram (id : String)
  | updateRatio (id : String)
  | registerContributor
  deriving DecidableEq

/-- The route of `/api/v1/admin/programs/:id/..` -/
def programRoute (id : String) : String → Option AdminRoute
  | "pause" => some (.pauseProgram id)
  | "resume" => some (.resumeProgram id)
  | "ratio" => some (.updateRatio id)
  | _ => none

def adminRoute (req : HttpRequest) : Option AdminRoute :=
  if req.method ≠ "POST" then none
  else match req.segments with
    | ["", "api", "v1", "admin", "programs"] => some .createProgram
    | ["", "api", "v1", "admin", "contributors"] => some .registerContributor
    | ["", "api", "v1", "admin", "programs", id, change] =>
        if id = "" then none else programRoute id change
    | _ => none

example : adminRoute ⟨⟨[], []⟩, "POST", "/api/v1/admin/programs/42/pause"⟩ =
    some (.pauseProgram "42") := by decide +kernel

example : adminRoute ⟨⟨[], []⟩, "GET", "/api/v1/admin/programs"⟩ = none := by decide +kernel

/-- What `axum` does. -/
structure Extractors where
  /-- The answer to a request that no route takes. -/
  unrouted : HttpRequest → Response
  /-- `Path<Uuid>` -/
  pathId : String → Except Response Uuid
  /-- `Json<..>` -/
  createProgramRequest : Request → Except Response CreateProgramRequest
  updateRatioRequest : Request → Except Response UpdateRatioRequest
  registerContributorRequest : Request → Except Response RegisterContributorRequest

variable (X : Extractors) (C : Crates) (config : AppConfig) (apiConfig : ApiConfig)

/-- The call that a request is, or the answer to one that is malformed. -/
def AdminRoute.call (req : Request) : AdminRoute → Except Response AdminCall
  | .createProgram => (X.createProgramRequest req).map .createProgram
  | .pauseProgram id => (X.pathId id).map .pauseProgram
  | .resumeProgram id => (X.pathId id).map .resumeProgram
  | .updateRatio id => do
      let id ← X.pathId id
      return .updateRatio id (← X.updateRatioRequest req)
  | .registerContributor => (X.registerContributorRequest req).map .registerContributor

/-- `admin_router` with the layer that checks the key. -/
def adminRouter (req : HttpRequest) : Action Response :=
  match adminRoute req with
  | none => return X.unrouted req
  | some route =>
    requireAdminKey apiConfig req.toRequest fun inner =>
      match route.call X inner with
      | .ok call => call.handler
      | .error response => return response

/-- The length that the request declares. The HTTP server lets only digits through. -/
def HttpRequest.contentLength (req : HttpRequest) : Option ℕ :=
  (req.header "content-length").bind String.toNat?

/-- The limit of the layer in `main.rs` of the API, 1 MiB. -/
def apiBodyLimit : ℕ := 1024 * 1024

/-- The layer looks at the declared length only: where there is none, a long body is an error of the
extractor that reads it. -/
def HttpRequest.LengthFits (req : HttpRequest) : Prop := ∀ n ∈ req.contentLength, n ≤ apiBodyLimit

instance (req : HttpRequest) : Decidable req.LengthFits :=
  inferInstanceAs (Decidable (∀ n ∈ req.contentLength, n ≤ apiBodyLimit))

/-- `admin_router` with the layers of `main.rs`. -/
def apiRoute (req : HttpRequest) : Action Response :=
  if req.LengthFits then adminRouter X apiConfig req else return payloadTooLarge

/-! ### The site -/

/-- A request to the site. -/
inductive Exchange
  | webhook (req : Request)
  | admin (req : HttpRequest)

instance (req : Request) : Decidable (HasKey apiConfig req) := decidable_of_iff _ authorized_iff

namespace Exchange

def handler : Exchange → Action Response
  | .webhook req => webhookRoute C config req
  | .admin req => apiRoute X apiConfig req

/-- The request that gets to a handler of the services. -/
def call? : Exchange → Option Call
  | .webhook req => some (.webhook req)
  | .admin req =>
      if req.LengthFits ∧ HasKey apiConfig req.toRequest then
        (adminRoute req).bind fun route => (route.call X req.toRequest).toOption.map .admin
      else none

/-- What is watched: the services, and nothing of a request that was turned away. -/
def protocol (x : Exchange) : Protocol Op Op.Ans Phase :=
  (x.call? X apiConfig).elim (only fun _ => False) (·.protocol C config)

def begins (x : Exchange) : Phase := (x.call? X apiConfig).elim .outside (·.begins C config)

/-- An admin request is turned away, or it has a key and is a call. -/
theorem apiRoute_cases (req : HttpRequest) :
    ((admin req).call? X apiConfig = none ∧
        ∃ response, apiRoute X apiConfig req = .ret response) ∨
      ∃ call, HasKey apiConfig req.toRequest ∧ (admin req).call? X apiConfig = some (.admin call) ∧
        apiRoute X apiConfig req = call.handler := by
  have hcall? : (admin req).call? X apiConfig =
    if req.LengthFits ∧ HasKey apiConfig req.toRequest then
      (adminRoute req).bind fun route => (route.call X req.toRequest).toOption.map .admin
    else none := rfl
  rw [hcall?, apiRoute]
  by_cases hlength : req.LengthFits
  swap
  · rw [if_neg hlength, if_neg fun h => hlength h.1]
    exact .inl ⟨rfl, _, rfl⟩
  rw [if_pos hlength, adminRouter]
  cases adminRoute req with
  | none => exact .inl ⟨by rw [Option.bind_none, ite_self], _, rfl⟩
  | some route =>
    by_cases hkey : HasKey apiConfig req.toRequest
    · simp only [if_pos (And.intro hlength hkey), Option.bind_some, passesOn_of_hasKey hkey _]
      cases route.call X req.toRequest with
      | ok call => exact .inr ⟨call, hkey, rfl, rfl⟩
      | error response => exact .inl ⟨rfl, response, rfl⟩
    · obtain ⟨response, -, hrefused⟩ := refused_of_not_hasKey hkey
      rw [if_neg fun h => hkey h.2]
      exact .inl ⟨rfl, response, hrefused _⟩

variable {X C config apiConfig}

theorem handler_of_call {x : Exchange} {call : Call} (hcall : x.call? X apiConfig = some call) :
    x.handler X C config apiConfig = call.handler C config := by
  cases x with
  | webhook req =>
    cases hcall
    rfl
  | admin req =>
    rcases apiRoute_cases X apiConfig req with ⟨hnone, -⟩ | ⟨a, -, hsome, hhandler⟩
    · rw [hcall] at hnone
      cases hnone
    · rw [hcall] at hsome
      cases hsome
      exact hhandler

theorem handler_of_turned_away {x : Exchange} (hcall : x.call? X apiConfig = none) :
    ∃ response, x.handler X C config apiConfig = .ret response := by
  cases x with
  | webhook req => cases hcall
  | admin req =>
    rcases apiRoute_cases X apiConfig req with ⟨-, hret⟩ | ⟨a, -, hsome, -⟩
    · exact hret
    · rw [hcall] at hsome
      cases hsome

end Exchange

/-! ### Runs of the site -/

section Site

variable {ι : Type} [DecidableEq ι] (exchanges : ι → Exchange)

/-- All requests are there, and none is handled yet. -/
def Site.start (w : World) : Service ι where
  world := w
  prog i := (exchanges i).handler X C config apiConfig
  phase i := (exchanges i).begins X C config apiConfig

/-- Runs of the site; the database can fail. -/
abbrev Site.FaultyStep : Service ι → Event ι Op Op.Ans → Service ι → Prop :=
  Pool.Step (Op.Faulty C.uuids) fun i => (exchanges i).protocol X C config apiConfig

/-- The calls of the services; what stands for a request that was turned away takes no step. -/
def Site.calls (i : ι) : Call :=
  ((exchanges i).call? X apiConfig).getD (.admin (.pauseProgram ⟨""⟩))

/-- A state of the services that is the same for the requests that got in. -/
structure Site.Simulates (s s' : Service ι) : Prop where
  world : s'.world = s.world
  inside : ∀ i call, (exchanges i).call? X apiConfig = some call →
    s'.prog i = s.prog i ∧ s'.phase i = s.phase i
  outside : ∀ i, (exchanges i).call? X apiConfig = none → ∃ response, s.prog i = .ret response

variable {X C config apiConfig exchanges} {w : World} {s s' t : Service ι}
  {e : Event ι Op Op.Ans} {h : List (Entry (Service ι) (Event ι Op Op.Ans))}

omit [DecidableEq ι] in
theorem Site.simulates_start (w : World) :
    Site.Simulates X apiConfig exchanges (Site.start X C config apiConfig exchanges w)
      (Service.start C config (Site.calls X apiConfig exchanges) w) where
  world := rfl
  inside i call hcall := by
    constructor
    · show (Site.calls X apiConfig exchanges i).handler C config = _
      rw [Site.calls, hcall, Option.getD_some]
      exact (Exchange.handler_of_call hcall).symm
    · show (Site.calls X apiConfig exchanges i).begins C config =
        (exchanges i).begins X C config apiConfig
      rw [Site.calls, Exchange.begins, hcall, Option.getD_some, Option.elim_some]
  outside i hcall := Exchange.handler_of_turned_away hcall

/-- Only requests that got in take steps. -/
theorem Site.Simulates.got_in (hsim : Site.Simulates X apiConfig exchanges s t)
    (hs : Site.FaultyStep X C config apiConfig exchanges s e s') :
    ∃ call, (exchanges e.thread).call? X apiConfig = some call := by
  cases hs with
  | perform i ans hprog =>
    cases hcall : (exchanges i).call? X apiConfig with
    | some call => exact ⟨call, rfl⟩
    | none =>
      obtain ⟨response, hret⟩ := hsim.outside i hcall
      rw [hret] at hprog
      cases hprog

omit [DecidableEq ι] in
theorem Site.calls_of_call {i : ι} {call : Call}
    (hcall : (exchanges i).call? X apiConfig = some call) :
    Site.calls X apiConfig exchanges i = call := by
  rw [Site.calls, hcall, Option.getD_some]

theorem Site.Simulates.step (hsim : Site.Simulates X apiConfig exchanges s t)
    (hs : Site.FaultyStep X C config apiConfig exchanges s e s') :
    ∃ t', Service.FaultyStep C config (Site.calls X apiConfig exchanges) t e t' ∧
      Site.Simulates X apiConfig exchanges s' t' := by
  obtain ⟨call, hcall⟩ := hsim.got_in hs
  cases hs with
  | perform i ans hprog hexec =>
    obtain ⟨hprog', hphase⟩ := hsim.inside i call hcall
    have hwatch : protocols C config (Site.calls X apiConfig exchanges) i =
        (exchanges i).protocol X C config apiConfig := by
      rw [protocols, Site.calls_of_call hcall, Exchange.protocol, hcall, Option.elim_some]
    rw [← hsim.world] at hexec
    refine ⟨_, .perform i ans (hprog'.trans hprog) hexec, rfl, fun j call' hj => ?_,
      fun j hj => ?_⟩
    · obtain ⟨hprogj, hphasej⟩ := hsim.inside j call' hj
      by_cases hij : j = i
      · subst hij
        simp only [Pool.resume, Function.update_self, hwatch, hphase, and_self]
      · simp only [Pool.resume, Function.update_of_ne hij]
        exact ⟨hprogj, hphasej⟩
    · have hij : j ≠ i := by
        rintro rfl
        rw [hcall] at hj
        cases hj
      simp only [Pool.resume, Function.update_of_ne hij]
      exact hsim.outside j hj

/-- The same step of two systems. -/
structure SameStep (e e' : Entry (Service ι) (Event ι Op Op.Ans)) : Prop where
  label : e'.label = e.label
  pre : e'.pre.world = e.pre.world
  post : e'.post.world = e.post.world

theorem simulated_of_run
    (hrun : Run (Site.FaultyStep X C config apiConfig exchanges)
      (Site.start X C config apiConfig exchanges w) h s) :
    ∃ h' s', Run (Service.FaultyStep C config (Site.calls X apiConfig exchanges))
        (Service.start C config (Site.calls X apiConfig exchanges) w) h' s' ∧
      List.Forall₂ SameStep h h' ∧ Site.Simulates X apiConfig exchanges s s' := by
  induction hrun with
  | nil => exact ⟨[], _, .nil, .nil, Site.simulates_start w⟩
  | @snoc h s s₁ e hr hs ih =>
    obtain ⟨h', t, hrun', hsame, hsim⟩ := ih
    obtain ⟨t₁, hs', hsim'⟩ := hsim.step hs
    exact ⟨_, t₁, .snoc hrun' hs',
      List.rel_append hsame (.cons ⟨rfl, hsim.world, hsim'.world⟩ .nil), hsim'⟩

/-- A step of a run of the site is one of a call that got in, and writes what the call may. -/
theorem writes_of_site
    (hrun : Run (Site.FaultyStep X C config apiConfig exchanges)
      (Site.start X C config apiConfig exchanges w) h s)
    (hs : Site.FaultyStep X C config apiConfig exchanges s e s') :
    ∃ call, (exchanges e.thread).call? X apiConfig = some call ∧
      call.Writes C config s.world s'.world := by
  obtain ⟨h', t, hrun', -, hsim⟩ := simulated_of_run hrun
  obtain ⟨t', hs', hsim'⟩ := hsim.step hs
  obtain ⟨call, hcall⟩ := hsim.got_in hs
  have hwrites := writes_of_run hrun' hs'
  rw [Site.calls_of_call hcall, hsim.world, hsim'.world] at hwrites
  exact ⟨call, hcall, hwrites⟩

end Site

/-! ### Who writes what -/

/-- What a step of an exchange changes. -/
inductive Exchange.Writes (w w' : World) : Exchange → Prop
  | nothing {x : Exchange} (hdb : w'.db = w.db) (hattestations : w'.attestations = w.attestations) :
      Writes w w' x
  | administers {req : HttpRequest} {route : AdminRoute} (hkey : HasKey apiConfig req.toRequest)
      (hroute : adminRoute req = some route) (hpayouts : w'.db.payouts = w.db.payouts)
      (hevents : w'.db.webhookEvents = w.db.webhookEvents)
      (hbooked : ∀ id, NothingBooked (w.db.shown id) (w'.db.shown id))
      (hattestations : w'.attestations = w.attestations) : Writes w w' (.admin req)
  | rejects {req : Request} (hunsigned : ¬ req.Signed C config) {row : WebhookEventRow}
      (hadds : w.db.AddsEvent w'.db row) (hstatus : row.status = .rejected)
      (hattestations : w'.attestations = w.attestations) : Writes w w' (.webhook req)
  | merges {req : Request} (hsigned : req.Signed C config)
      (hcontributors : w'.db.contributors = w.db.contributors) (hterms : SameTerms w.db w'.db) :
      Writes w w' (.webhook req)

/-- The request has neither a key nor a signature. -/
def Exchange.Outside : Exchange → Prop
  | .webhook req => ¬ req.Signed C config
  | .admin req => ¬ HasKey apiConfig req.toRequest

section Writers

variable {ι : Type} [DecidableEq ι] {exchanges : ι → Exchange} {X C config apiConfig}
  {w w' : World} {s s' : Service ι} {e : Event ι Op Op.Ans}
  {h h' : List (Entry (Service ι) (Event ι Op Op.Ans))} {x : Exchange} {call : Call}

theorem Exchange.admin_of_call {req : HttpRequest}
    (hcall : (Exchange.admin req).call? X apiConfig = some call) :
    (∃ a, call = .admin a) ∧ HasKey apiConfig req.toRequest ∧
      ∃ route, adminRoute req = some route := by
  rw [call?] at hcall
  split at hcall
  next hgot =>
    obtain ⟨route, hroute, hadmin⟩ := Option.bind_eq_some_iff.1 hcall
    obtain ⟨a, -, rfl⟩ := Option.map_eq_some_iff.1 hadmin
    exact ⟨⟨a, rfl⟩, hgot.2, route, hroute⟩
  next => cases hcall

theorem Exchange.writes_of_call (hcall : x.call? X apiConfig = some call)
    (hwrites : call.Writes C config w w') : x.Writes C config apiConfig w w' := by
  cases x with
  | admin req =>
    obtain ⟨⟨a, rfl⟩, hkey, route, hroute⟩ := admin_of_call hcall
    cases hwrites with
    | nothing hdb hattestations => exact .nothing hdb hattestations
    | administers _ hpayouts hevents hbooked hattestations =>
      exact .administers hkey hroute hpayouts hevents hbooked hattestations
    | rejects hreq | merges hreq => cases hreq
  | webhook req =>
    cases hcall
    cases hwrites with
    | nothing hdb hattestations => exact .nothing hdb hattestations
    | administers ha => cases ha
    | rejects hreq hunsigned hadds hstatus hattestations =>
      cases hreq
      exact .rejects hunsigned hadds hstatus hattestations
    | merges hreq hsigned hcontributors hterms =>
      cases hreq
      exact .merges hsigned hcontributors hterms

/-- **Who writes what**: in every run of the site, the terms of programs and registrations change
only by admin requests with a key that a route takes, payouts, bookings and attestations come about
only by signed webhooks, and an unsigned one adds at most an audit row that says `rejected`. -/
theorem only_authorised_write
    (hrun : Run (Site.FaultyStep X C config apiConfig exchanges)
      (Site.start X C config apiConfig exchanges w) h s) :
    ∀ e ∈ h, (exchanges e.label.thread).Writes C config apiConfig e.pre.world e.post.world := by
  intro e he
  obtain ⟨_, _, -, hbefore, hs⟩ := hrun.split he
  obtain ⟨call, hcall, hwrites⟩ := writes_of_site hbefore hs
  exact Exchange.writes_of_call hcall hwrites

/-- The rows are those of before, and rows that say `rejected`. -/
def OnlyRejected (db db' : Db) : Prop :=
  ∀ row ∈ db'.webhookEvents, row ∈ db.webhookEvents ∨ row.status = .rejected

theorem Exchange.Writes.of_outside (hwrites : x.Writes C config apiConfig w w')
    (hout : x.Outside C config apiConfig) :
    SameButAudit w' w ∧ OnlyRejected w.db w'.db := by
  cases hwrites with
  | nothing hdb hattestations =>
    rw [hdb]
    refine ⟨⟨?_, ?_, ?_, hattestations, ?_⟩, fun row => .inl⟩ <;> rw [hdb]
  | administers hkey => exact absurd hkey hout
  | merges hsigned => exact absurd hsigned hout
  | rejects _ hadds hstatus hattestations =>
    refine ⟨⟨hadds.programs, hadds.contributors, hadds.payouts, hattestations, hadds.server⟩,
      fun r hr => ?_⟩
    rcases hadds.mem_webhookEvents.1 hr with hr | rfl
    · exact .inl hr
    · exact .inr hstatus

/-- **Outsiders change nothing**: while only requests without a key or a good signature take steps,
no program, registration, payout or attestation changes, and the audit rows that are added say
`rejected`; whatever happened before. -/
theorem outsiders_change_nothing
    (hrun : Run (Site.FaultyStep X C config apiConfig exchanges)
      (Site.start X C config apiConfig exchanges w) h s)
    (hrun' : Run (Site.FaultyStep X C config apiConfig exchanges) s h' s')
    (houtside : ∀ e ∈ h', (exchanges e.label.thread).Outside C config apiConfig) :
    SameButAudit s'.world s.world ∧ OnlyRejected s.world.db s'.world.db := by
  induction hrun' with
  | nil => exact ⟨.refl _, fun _ => .inl⟩
  | @snoc h' t t' l hr hs ih =>
    obtain ⟨hsame, honly⟩ := ih fun e he => houtside e (List.mem_append_left _ he)
    obtain ⟨call, hcall, hwrites⟩ := writes_of_site (hrun.append hr) hs
    obtain ⟨hsame', honly'⟩ := (Exchange.writes_of_call hcall hwrites).of_outside
      (houtside ⟨t, l, t'⟩ List.mem_concat_self)
    refine ⟨hsame'.trans hsame, fun row hrow => ?_⟩
    rcases honly' row hrow with hrow | hrejected
    · exact honly row hrow
    · exact .inr hrejected

end Writers

namespace Setup

/-- No request here has a body that is parsed. -/
def extractors : Extractors where
  unrouted _ := ⟨404, .null⟩
  pathId id := .ok ⟨id⟩
  createProgramRequest _ := .error ⟨400, .null⟩
  updateRatioRequest _ := .error ⟨400, .null⟩
  registerContributorRequest _ := .error ⟨400, .null⟩

/-- The request to pause the program. -/
def pause (key : String) : HttpRequest where
  headers := [("x-api-key", key.toUTF8.data.toList)]
  body := []
  method := "POST"
  path := "/api/v1/admin/programs/" ++ program.1.text ++ "/pause"

/-- A merge, a pause and two requests from outside. -/
def visitors : Fin 4 → Exchange
  | 0 => .webhook (deliver signature none)
  | 1 => .admin (pause "key-a")
  | 2 => .admin (pause "key-b")
  | 3 => .webhook (deliver "sha256=00" (some "72d3162e"))

def siteStart : Service (Fin 4) :=
  Site.start extractors crates Setup.config keyConfig visitors world

def siteRun (is : List (Fin 4)) (s : Service (Fin 4)) :
    List (Entry (Service (Fin 4)) (Event (Fin 4) Op Op.Ans)) × Service (Fin 4) :=
  Pool.play (fun i => (visitors i).protocol extractors crates Setup.config keyConfig)
    (Op.exec crates.uuids) s is

theorem run_siteRun (is : List (Fin 4)) (s : Service (Fin 4)) :
    Run (Site.FaultyStep extractors crates Setup.config keyConfig visitors) s (siteRun is s).1
      (siteRun is s).2 :=
  (Pool.run_play _ _ (fun _ _ => rfl) is s).mono fun _ _ _ hs => hs.mono fun _ _ _ _ => .done

/-- The merge has been counted, and the program is paused. -/
def siteBusy := siteRun ((List.finRange 4).take 2) siteStart

/-- The others come. -/
def siteVisited :=
  siteRun ((List.range 3).flatMap fun _ => (List.finRange 4).drop 2) siteBusy.2

theorem run_siteBusy :
    Run (Site.FaultyStep extractors crates Setup.config keyConfig visitors) siteStart siteBusy.1
      siteBusy.2 :=
  run_siteRun _ siteStart

theorem outside_siteVisited :
    ∀ e ∈ siteVisited.1, (visitors e.label.thread).Outside crates Setup.config keyConfig := by
  have hthird : siteVisited.1.all (fun e => e.label.thread = 3) = true := by decide +kernel
  have hunsigned : ¬ (deliver "sha256=00" (some "72d3162e")).Signed crates Setup.config := by
    decide +kernel
  intro e he
  rw [of_decide_eq_true (List.all_eq_true.1 hthird e he)]
  exact hunsigned

end Setup

theorem only_authorised_write_setup :
    ∃ e ∈ Setup.siteBusy.1, e.label.thread = 1 ∧ (Setup.visitors 1).Writes Setup.crates
      Setup.config Setup.keyConfig e.pre.world e.post.world := by
  have hpauses : (Setup.siteBusy.1.any fun e => e.label.thread = 1) = true := by decide +kernel
  obtain ⟨e, he, hthread⟩ := List.any_eq_true.1 hpauses
  have hone : e.label.thread = 1 := of_decide_eq_true hthread
  have hwrites := only_authorised_write Setup.run_siteBusy e he
  rw [hone] at hwrites
  exact ⟨e, he, hone, hwrites⟩

theorem outsiders_change_nothing_setup :
    SameButAudit Setup.siteVisited.2.world Setup.siteBusy.2.world ∧
      OnlyRejected Setup.siteBusy.2.world.db Setup.siteVisited.2.world.db :=
  outsiders_change_nothing Setup.run_siteBusy (Setup.run_siteRun _ _) Setup.outside_siteVisited

example : Setup.siteBusy.1.map (fun e => e.label.thread) = [0, 1] := by decide +kernel

example : Setup.siteVisited.2.world.db.webhookEvents.rows.length = 1 := by decide +kernel

end WaveFlow
