import RouteCascade.Proofs.Cascade.Candidates
import RouteCascade.Proofs.Cascade.Standby
import RouteCascade.Proofs.Settings.Runnable

/-!
# The conduct of a run

A run may end before its request is sent, for its settings, for a header, or for a tunnel that there is
not, and then it has done nothing yet. Once the tunnel that is asked for is up, there is but one way to the
end, and it leads past taking that tunnel down. What is told at the end depends on the outcome alone: the
body of an answer and nothing else is the output, and every outcome has its exit code.
-/
namespace RouteCascade.Cli

open Text Net Log Cascade Tunnel

variable {ω : Type}

def Step.isBroughtUp : Step → Bool
  | .broughtUp _ _ => true
  | _ => false

/-- Each part of a job was made: the headers are well formed, the session and the address of the local
proxy are there, and so is the registry. -/
structure Prepared (a : Arguments) (s : Settings) (job : Job) : Prop where
  parameters : a.parameters = .ok job.order.parameters
  session : s.session = .ok job.order.session
  localProxy : s.localProxyAddress = .ok job.registry.localProxy
  registry : Registry.ofSettings s.tunnels job.registry.localProxy s.connectTimeout = .ok job.registry

/-- The settings were read, this is no test, and the job was made. -/
structure Ready (env : Environment ω) (a : Arguments) (s : Settings) (f : Filter) (job : Job) : Prop where
  loads : Loads env a s f
  sends : a.testOnly = false
  job : prepare a s = .ok job

def Job.fleet (job : Job) (start : ω) : Fleet ω := { registry := job.registry, outside := start }

def Job.errand (job : Job) (w : Outside ω) (f : Fleet ω) : Errand ω :=
  ⟨w, job.order, f.current.map (·.plan)⟩

/-- A run gets to its request: that request, the fleet that it is sent over, and the steps before it. -/
inductive Reaches (env : Environment ω) (a : Arguments) : Errand ω → Fleet ω → List Step → Prop
  | alone {s : Settings} {f : Filter} {job : Job} : Ready env a s f job → a.tunnel = none →
      Reaches env a (job.errand (env.outside job.client) (job.fleet env.start)) (job.fleet env.start) []
  | through {s : Settings} {f : Filter} {job : Job} {name : String} {t : Relay}
      {result : Except Failure Unit} {own : List Line} {fleet : Fleet ω} : Ready env a s f job →
      a.tunnel = some name → job.registry.create name = .ok t →
      (job.fleet env.start).bringUp (env.outside job.client) job.order.session t = (result, own, fleet) →
      Reaches env a (job.errand (env.outside job.client) fleet) fleet [.broughtUp t.plan result]

def Ends (env : Environment ω) (a : Arguments) (x : Ending Answer) : Prop :=
  ∃ q f before, Reaches env a q f before ∧ q.act.result f = x

def Tests (env : Environment ω) (a : Arguments) : Prop := a.testOnly = true ∧ ∃ s f, Loads env a s f

/-- One run does what another does, after one step more. -/
structure Summary.Follows (x y : Summary ω) (step : Step) : Prop where
  exit : x.exit = y.exit
  output : x.output = y.output
  after : x.after = y.after
  steps : x.steps = step :: y.steps
  /-- Nothing but the lines on that step is printed besides. -/
  printed : ∃ before own later, x.printed = before ++ own ++ later ∧ y.printed = before ++ later

/-- The run without a tunnel, in what is left outside when one could not be connected. -/
def withoutTunnel (env : Environment ω) (a : Arguments) (job : Job) (p : Plan) : Summary ω :=
  execute { env with start := (env.outside job.client).probed job.order.session p env.start }
    { a with tunnel := none }

/-- How a run goes about its request, and what it tells of it. -/
structure Conducts (env : Environment ω) (a : Arguments) (x : Summary ω) : Prop where
  /-- No request breaks down or goes on for ever. -/
  returns : ∀ q f before, Reaches env a q f before → ∃ answer, q.act.result f = .returned answer
  answered : ∀ body, Ends env a (done (.success body)) → x.exit.code = 0 ∧ x.output = body
  tested : Tests env a → x.exit.code = 0 ∧ x.output = []
  cancelled : Ends env a (done .cancelled) → x.exit.code = 130 ∧ x.output = []
  failed : (∀ body, ¬ Ends env a (done (.success body))) → ¬ Tests env a →
    ¬ Ends env a (done .cancelled) → x.exit.code = 1 ∧ x.output = []
  once : x.steps.countP Step.isBroughtUp ≤ 1
  prepared : ∀ p r, .broughtUp p r ∈ x.steps → ∃ s f job, Ready env a s f job ∧ Prepared a s job ∧
    ∃ name t, a.tunnel = some name ∧ job.registry.create name = .ok t ∧ p = t.plan
  /-- A tunnel that is up is taken down after the request, whatever came of it, and before that is told. -/
  takesDown : ∀ p, .broughtUp p (.ok ()) ∈ x.steps → ∃ q f, Reaches env a q f [.broughtUp p (.ok ())] ∧
    (∃ t t', f.current = some t ∧ x.tunnel = some t' ∧ t.plan = p ∧ Fleet.TakesDown t t') ∧
    x.steps = .broughtUp p (.ok ()) ::
      ((q.act.events f).map .event ++ [.takenDown p, .told x.exit x.output])
  broughtUp : ∀ p, .takenDown p ∈ x.steps → .broughtUp p (.ok ()) ∈ x.steps
  /-- In the end the tunnel is down, and nothing of it serves. -/
  leaves : ∀ p r, .broughtUp p r ∈ x.steps →
    ∃ t, x.tunnel = some t ∧ t.plan = p ∧ t.state.slot = none ∧ t.state.live = []
  /-- In between, the request leaves the tunnel as it is. -/
  untouched : ∀ q f before, Reaches env a q f before → (q.act.final f).current = f.current
  /-- After the request nobody outside is asked for anything. -/
  after : ∀ q f before, Reaches env a q f before → x.after = (q.act.final f).outside
  /-- Without a request nothing is done at all. -/
  idle : (∀ q f before, ¬ Reaches env a q f before) →
    x.steps = [] ∧ x.tunnel = none ∧ x.after = env.start
  /-- A tunnel that could not be connected makes no difference. -/
  unavailable : ∀ p e, .broughtUp p (.error e) ∈ x.steps → ∃ s f job, Ready env a s f job ∧
    x.Follows (withoutTunnel env a job p) (.broughtUp p (.error e))

section Prepare
variable {ε δ α β : Type} {a : Arguments} {s : Settings} {job : Job}

theorem bind_eq_ok {x : Except ε α} {g : α → Except ε β} {y : β} (h : (x >>= g) = .ok y) :
    ∃ v, x = .ok v ∧ g v = .ok y := by
  cases x with
  | error e => cases h
  | ok v => exact ⟨v, rfl, h⟩

theorem mapError_eq_ok {x : Except ε α} {g : ε → δ} {v : α} (h : x.mapError g = .ok v) : x = .ok v := by
  cases x with
  | error e => cases h
  | ok v => cases h; rfl

theorem prepared_of_prepare (h : prepare a s = .ok job) : Prepared a s job := by
  unfold prepare at h
  obtain ⟨parameters, hp, h⟩ := bind_eq_ok h
  obtain ⟨session, hs, h⟩ := bind_eq_ok h
  obtain ⟨address, ha, h⟩ := bind_eq_ok h
  obtain ⟨registry, hr, h⟩ := bind_eq_ok h
  cases h
  have hregistry := mapError_eq_ok hr
  obtain rfl := (Registry.ofSettings_eq_ok hregistry).1
  exact ⟨mapError_eq_ok hp, mapError_eq_ok hs, mapError_eq_ok ha, hregistry⟩

theorem state_of_create {r : Registry} {name : String} {t : Relay} (h : r.create name = .ok t) :
    t.state = { } := by
  obtain ⟨before, after, hall, -⟩ := Registry.create_eq_ok_iff.mp h
  have hmem : t ∈ r.all := hall ▸ List.mem_append_right _ List.mem_cons_self
  obtain ⟨p, -, rfl⟩ := List.mem_map.mp hmem
  rfl

end Prepare

/-- What comes of a run that gets to its request. -/
structure Sent (q : Errand ω) (f : Fleet ω) (before : List Step) (x : Summary ω) : Prop where
  exit : x.exit = (conclude (q.act.result f)).1
  output : x.output = (conclude (q.act.result f)).2.1
  steps : x.steps = before ++ (q.act.events f).map .event ++
    ((q.act.final f).takeDown.1.map .takenDown).toList ++ [.told x.exit x.output]
  tunnel : x.tunnel = (q.act.final f).takeDown.2.2.current
  after : x.after = (q.act.final f).outside

theorem Sent.shown {q : Errand ω} {f : Fleet ω} {before : List Step} {x : Summary ω}
    (h : Sent q f before x) (shown : Filter) : Sent q f before (x.shown shown) :=
  ⟨h.exit, h.output, h.steps, h.tunnel, h.after⟩

section Steps
variable {q : Errand ω} {f : Fleet ω} {before : List Step} {x : Summary ω} {p : Plan}

theorem Sent.broughtUp_mem_iff (h : Sent q f before x) {r : Except Failure Unit} :
    .broughtUp p r ∈ x.steps ↔ .broughtUp p r ∈ before := by
  rw [h.steps]
  cases (q.act.final f).takeDown.1 <;> simp

theorem Sent.takenDown_mem_iff (h : Sent q f before x) (hb : .takenDown p ∉ before) :
    .takenDown p ∈ x.steps ↔ (q.act.final f).takeDown.1 = some p := by
  rw [h.steps]
  cases (q.act.final f).takeDown.1 <;> simp [hb, eq_comm]

theorem Sent.countP_isBroughtUp (h : Sent q f before x) :
    x.steps.countP Step.isBroughtUp = before.countP Step.isBroughtUp := by
  rw [h.steps]
  cases (q.act.final f).takeDown.1 <;> simp [Step.isBroughtUp, List.countP_eq_zero]

end Steps

section Perform
variable (w : Outside ω) (job : Job) (lines : List Line) (steps : List Step) (f : Fleet ω)

theorem sent_perform : Sent (job.errand w f) f steps (perform w job lines steps f) :=
  ⟨rfl, rfl, rfl, rfl, Fleet.outside_takeDown _⟩

/-- What was printed and done before a request comes first. -/
theorem perform_append : perform w job lines steps f =
    { perform w job [] [] f with
      printed := lines.map .line ++ (perform w job [] [] f).printed
      steps := steps ++ (perform w job [] [] f).steps } := by
  simp [perform]

/-- With a tunnel that is down there is nothing to take down. -/
theorem perform_of_idle {f : Fleet ω} (h : f.Idle) : perform w job lines steps f =
    let act := (job.errand w f).act
    let (exit, output, last) := conclude (act.result f)
    let told := report (Fleet.collaborators w) job.order (act.final f).notes (act.events f) (act.result f)
    { exit, output,
      printed := (lines ++ told ++ last).map .line,
      steps := steps ++ (act.events f).map .event ++ [.told exit output],
      tunnel := f.current,
      after := (act.final f).outside } := by
  have hcurrent := (job.errand w f).current_final f
  have hdown := Fleet.takeDown_of_idle (h.of_current hcurrent)
  simp only [Act.final, Errand.act, Job.errand] at hcurrent hdown
  simp [perform, hdown, hcurrent, Act.result, Act.events, Act.final, Errand.act, Job.errand]

/-- A tunnel that is down makes no difference to what is performed. -/
theorem perform_alone {f : Fleet ω} (h : f.Idle) :
    perform w job lines steps f.alone = { perform w job lines steps f with tunnel := none } := by
  obtain ⟨hevents, hresult, hfinal⟩ := (job.errand w f).act_alone h
  have hsame : (job.errand w f).alone = job.errand w f.alone := rfl
  rw [hsame] at hevents hresult hfinal
  rw [perform_of_idle w job lines steps h, perform_of_idle w job lines steps f.idle_alone]
  dsimp only
  rw [hevents, hresult, hfinal]
  rfl

theorem follows_perform (own : List Line) (step : Step) {f : Fleet ω} (h : f.Idle) (shown : Filter) :
    ((perform w job (lines ++ own) [step] f).shown shown).Follows
      ((perform w job lines [] f.alone).shown shown) step := by
  rw [perform_alone w job lines [] h, perform_append w job (lines ++ own), perform_append w job lines]
  refine ⟨rfl, rfl, rfl, rfl, (lines.map .line).filter (isShown shown),
    (own.map .line).filter (isShown shown), (perform w job [] [] f).printed.filter (isShown shown), ?_, ?_⟩
  · simp [Summary.shown]
  · simp [Summary.shown]

end Perform

section Execute
variable {env : Environment ω} {a : Arguments} {s : Settings} {f : Filter} {job : Job}

def Job.lines (job : Job) (a : Arguments) : List Line :=
  openingLines a ++ [⟨.info, s!"Loaded {job.registry.plans.length} transports"⟩]

theorem execute_of_alone (h : Ready env a s f job) (ht : a.tunnel = none) : execute env a =
    (perform (env.outside job.client) job (job.lines a) [] (job.fleet env.start)).shown f := by
  rw [execute_of_prepared h.loads h.sends h.job, ht]
  rfl

theorem execute_of_unknown (h : Ready env a s f job) {name : String} (ht : a.tunnel = some name)
    {e : Failure} (he : job.registry.create name = .error e) : execute env a = Summary.shown f
      { exit := .failure, printed := (job.lines a).map .line ++ [refused e.message],
        after := env.start } := by
  rw [execute_of_prepared h.loads h.sends h.job, ht]
  unfold carryOut
  simp only [he]
  rfl

theorem execute_of_through (h : Ready env a s f job) {name : String} (ht : a.tunnel = some name)
    {t : Relay} (hc : job.registry.create name = .ok t) {result : Except Failure Unit}
    {own : List Line} {fleet : Fleet ω}
    (hb : (job.fleet env.start).bringUp (env.outside job.client) job.order.session t =
      (result, own, fleet)) : execute env a =
    (perform (env.outside job.client) job (job.lines a ++ own ++ [broughtUpLine name result])
      [.broughtUp t.plan result] fleet).shown f := by
  unfold Job.fleet at hb
  rw [execute_of_prepared h.loads h.sends h.job, ht]
  unfold carryOut
  simp only [hc, hb]
  rfl

theorem Reaches.sent {q : Errand ω} {fleet : Fleet ω} {before : List Step}
    (h : Reaches env a q fleet before) : Sent q fleet before (execute env a) := by
  cases h with
  | alone hr ht =>
      rw [execute_of_alone hr ht]
      exact (sent_perform _ _ _ _ _).shown _
  | through hr ht hc hb =>
      rw [execute_of_through hr ht hc hb]
      exact (sent_perform _ _ _ _ _).shown _

/-- A run that does not get to its request does nothing, and only a test is passed. -/
theorem execute_of_not_reaches (h : ¬ ∃ q fleet before, Reaches env a q fleet before) :
    ((execute env a).exit = .success ∧ Tests env a ∨
      (execute env a).exit = .failure ∧ ¬ Tests env a) ∧
      (execute env a).output = [] ∧ (execute env a).steps = [] ∧ (execute env a).tunnel = none ∧
      (execute env a).after = env.start := by
  by_cases hl : ∃ s f, Loads env a s f
  · obtain ⟨s, f, hl⟩ := hl
    cases ht : a.testOnly with
    | true =>
        rw [execute_of_test hl ht]
        exact ⟨.inl ⟨rfl, ht, s, f, hl⟩, rfl, rfl, rfl, rfl⟩
    | false =>
        have hno : ¬ Tests env a := fun hx => Bool.noConfusion (ht.symm.trans hx.1)
        cases hj : prepare a s with
        | error e =>
            rw [execute_of_refused hl ht hj]
            exact ⟨.inr ⟨rfl, hno⟩, rfl, rfl, rfl, rfl⟩
        | ok job =>
            have hr : Ready env a s f job := ⟨hl, ht, hj⟩
            cases hn : a.tunnel with
            | none => exact absurd ⟨_, _, _, .alone hr hn⟩ h
            | some name =>
                cases hc : job.registry.create name with
                | error e =>
                    rw [execute_of_unknown hr hn hc]
                    exact ⟨.inr ⟨rfl, hno⟩, rfl, rfl, rfl, rfl⟩
                | ok t => exact absurd ⟨_, _, _, .through hr hn hc rfl⟩ h
  · have hno : ¬ Tests env a := fun hx => hl hx.2
    unfold execute
    cases hload : Settings.load (env.file a.settingsFile) with
    | error e =>
        dsimp only
        cases Filter.parse (levelText a (.error e)) <;> exact ⟨.inr ⟨rfl, hno⟩, rfl, rfl, rfl, rfl⟩
    | ok s =>
        dsimp only
        cases hlevel : Filter.parse (levelText a (.ok s)) with
        | error e => exact ⟨.inr ⟨rfl, hno⟩, rfl, rfl, rfl, rfl⟩
        | ok f => exact absurd ⟨s, f, hload, hlevel⟩ hl

theorem not_tests_of_reaches {q : Errand ω} {fleet : Fleet ω} {before : List Step}
    (h : Reaches env a q fleet before) : ¬ Tests env a := by
  rintro ⟨ht, -⟩
  cases h with
  | alone hr | through hr => exact Bool.noConfusion (ht.symm.trans hr.sends)

theorem countP_isBroughtUp_of_reaches {q : Errand ω} {fleet : Fleet ω} {before : List Step}
    (h : Reaches env a q fleet before) : before.countP Step.isBroughtUp ≤ 1 := by
  cases h with
  | alone => exact Nat.zero_le 1
  | through => exact Nat.le_refl 1

theorem not_takenDown_of_reaches {q : Errand ω} {fleet : Fleet ω} {before : List Step}
    (h : Reaches env a q fleet before) (p : Plan) : .takenDown p ∉ before := by
  cases h <;> simp

/-- A run that does anything gets to its request. -/
theorem reaches_of_step {e : Step} (h : e ∈ (execute env a).steps) :
    ∃ q fleet before, Reaches env a q fleet before := by
  apply Classical.byContradiction
  intro hno
  rw [(execute_of_not_reaches hno).2.2.1] at h
  cases h

/-- What was made before a tunnel was brought up, and what that came to. -/
theorem through_of_broughtUp {p : Plan} {r : Except Failure Unit}
    (h : .broughtUp p r ∈ (execute env a).steps) :
    ∃ s f job name t own fleet, Ready env a s f job ∧ a.tunnel = some name ∧
      job.registry.create name = .ok t ∧ p = t.plan ∧
      (job.fleet env.start).bringUp (env.outside job.client) job.order.session t = (r, own, fleet) := by
  obtain ⟨q, fleet, before, hreach⟩ := reaches_of_step h
  have hmem := hreach.sent.broughtUp_mem_iff.mp h
  cases hreach with
  | alone => cases hmem
  | @through s f job name t result own fleet hr ht hc hb =>
      obtain ⟨rfl, rfl⟩ : p = t.plan ∧ r = result := by simpa using hmem
      exact ⟨s, f, job, name, t, own, fleet, hr, ht, hc, rfl, hb⟩

theorem takesDown_of_broughtUp {p : Plan} (h : .broughtUp p (.ok ()) ∈ (execute env a).steps) :
    ∃ q fleet, Reaches env a q fleet [.broughtUp p (.ok ())] ∧
      (∃ t t', fleet.current = some t ∧ (execute env a).tunnel = some t' ∧ t.plan = p ∧
        Fleet.TakesDown t t') ∧
      (execute env a).steps = .broughtUp p (.ok ()) :: ((q.act.events fleet).map .event ++
        [.takenDown p, .told (execute env a).exit (execute env a).output]) := by
  obtain ⟨s, f, job, name, t, own, fleet, hr, ht, hc, rfl, hb⟩ := through_of_broughtUp h
  have hreach := Reaches.through hr ht hc hb
  obtain ⟨hdown, u, u', hu, hu', hplan, htakes⟩ :=
    (Fleet.bringsUp_bringUp hb).takesDown (state_of_create hc) (Errand.current_final _ fleet)
  refine ⟨_, fleet, hreach, ⟨u, u', hu, hreach.sent.tunnel.trans hu', hplan, htakes⟩, ?_⟩
  rw [hreach.sent.steps, hdown]
  simp

theorem broughtUp_of_takenDown {p : Plan} (h : .takenDown p ∈ (execute env a).steps) :
    .broughtUp p (.ok ()) ∈ (execute env a).steps := by
  obtain ⟨q, fleet, before, hreach⟩ := reaches_of_step h
  have hsent := hreach.sent
  have hdown := (hsent.takenDown_mem_iff (not_takenDown_of_reaches hreach p)).mp h
  have hup : ¬ fleet.Idle := fun hidle => by
    rw [Fleet.takeDown_of_idle (hidle.of_current (q.current_final fleet))] at hdown
    cases hdown
  rw [hsent.broughtUp_mem_iff]
  cases hreach with
  | @alone s f job => exact absurd (Fleet.idle_alone (job.fleet env.start)) hup
  | @through s f job name t result own fleet hr ht hc hb =>
      have hbrings := Fleet.bringsUp_bringUp hb
      cases result with
      | error e => exact absurd (hbrings.down e rfl (state_of_create hc)).1 hup
      | ok =>
          obtain ⟨hplan, -⟩ := hbrings.takesDown (state_of_create hc) (Errand.current_final _ fleet)
          obtain rfl : t.plan = p := Option.some.inj (hplan.symm.trans hdown)
          exact List.mem_singleton_self _

/-- Whatever a run came to, it leaves no tunnel up. -/
theorem left_of_broughtUp {p : Plan} {r : Except Failure Unit}
    (h : .broughtUp p r ∈ (execute env a).steps) :
    ∃ t, (execute env a).tunnel = some t ∧ t.plan = p ∧ t.state.slot = none ∧ t.state.live = [] := by
  cases r with
  | ok =>
      obtain ⟨q, fleet, -, ⟨t, t', -, ht', rfl, htakes⟩, -⟩ := takesDown_of_broughtUp h
      exact ⟨t', ht', htakes.plan, htakes.left⟩
  | error e =>
      obtain ⟨s, f, job, name, t, own, fleet, hr, ht, hc, rfl, hb⟩ := through_of_broughtUp h
      have hbrings := Fleet.bringsUp_bringUp hb
      obtain ⟨u, hu, hplan⟩ := Option.map_eq_some_iff.mp hbrings.plan
      have hidle := (hbrings.down e rfl (state_of_create hc)).1
      have hcurrent := Errand.current_final (job.errand (env.outside job.client) fleet) fleet
      have htunnel := (Reaches.through hr ht hc hb).sent.tunnel
      rw [Fleet.takeDown_of_idle (hidle.of_current hcurrent), hcurrent, hu] at htunnel
      exact ⟨u, htunnel, hplan, hidle u hu⟩

/-- What is read and made for a run does not depend on what is outside, nor on the tunnel. -/
theorem Ready.withoutTunnel (h : Ready env a s f job) (u : ω) :
    Ready { env with start := u } { a with tunnel := none } s f job :=
  ⟨⟨h.loads.settings, h.loads.level⟩, h.sends, h.job⟩

theorem follows_of_unavailable {p : Plan} {e : Failure}
    (h : .broughtUp p (.error e) ∈ (execute env a).steps) : ∃ s f job, Ready env a s f job ∧
      (execute env a).Follows (withoutTunnel env a job p) (.broughtUp p (.error e)) := by
  obtain ⟨s, f, job, name, t, own, fleet, hr, ht, hc, rfl, hb⟩ := through_of_broughtUp h
  obtain ⟨hidle, halone⟩ := (Fleet.bringsUp_bringUp hb).down e rfl (state_of_create hc)
  refine ⟨s, f, job, hr, ?_⟩
  unfold withoutTunnel
  -- What the attempt has left is the fleet that the other run starts with, but for the tunnel that is down.
  have hfleet : job.fleet ((env.outside job.client).probed job.order.session t.plan env.start) =
      fleet.alone := halone.symm
  rw [execute_of_through hr ht hc hb, execute_of_alone (hr.withoutTunnel _) rfl, hfleet, List.append_assoc]
  exact follows_perform _ _ _ _ _ hidle _

theorem told_of_ends {x : Ending Answer} (h : Ends env a x) :
    (execute env a).exit = (conclude x).1 ∧ (execute env a).output = (conclude x).2.1 := by
  obtain ⟨q, fleet, before, hreach, rfl⟩ := h
  exact ⟨hreach.sent.exit, hreach.sent.output⟩

/-- Unless its request is answered or cancelled or nothing was to be sent, a run fails. -/
theorem told_of_failed (hanswered : ∀ body, ¬ Ends env a (done (.success body))) (htest : ¬ Tests env a)
    (hcancelled : ¬ Ends env a (done .cancelled)) :
    (execute env a).exit = .failure ∧ (execute env a).output = [] := by
  by_cases hreach : ∃ q fleet before, Reaches env a q fleet before
  · obtain ⟨q, fleet, before, hreach⟩ := hreach
    have hends : Ends env a (q.act.result fleet) := ⟨q, fleet, before, hreach, rfl⟩
    obtain ⟨hexit, houtput⟩ := told_of_ends hends
    rw [hexit, houtput]
    -- Refusals and failures are told alike; a run that broke down would be too, though none does.
    generalize q.act.result fleet = x at hends
    rcases x with ⟨_ | body | reason | _⟩ | _ | _
    · exact ⟨rfl, rfl⟩
    · exact absurd hends (hanswered body)
    · exact ⟨rfl, rfl⟩
    · exact absurd hends hcancelled
    · exact ⟨rfl, rfl⟩
    · exact ⟨rfl, rfl⟩
  · obtain ⟨hexit, houtput, -⟩ := execute_of_not_reaches hreach
    rcases hexit with ⟨-, ht⟩ | ⟨hexit, -⟩
    · exact absurd ht htest
    · exact ⟨hexit, houtput⟩

theorem told_of_tests (h : Tests env a) :
    (execute env a).exit = .success ∧ (execute env a).output = [] := by
  obtain ⟨hexit, houtput, -⟩ := execute_of_not_reaches fun ⟨q, fleet, before, hr⟩ => not_tests_of_reaches hr h
  rcases hexit with ⟨hexit, -⟩ | ⟨-, hno⟩
  · exact ⟨hexit, houtput⟩
  · exact absurd h hno

theorem countP_isBroughtUp_execute (env : Environment ω) (a : Arguments) :
    (execute env a).steps.countP Step.isBroughtUp ≤ 1 := by
  by_cases hreach : ∃ q fleet before, Reaches env a q fleet before
  · obtain ⟨q, fleet, before, hreach⟩ := hreach
    rw [hreach.sent.countP_isBroughtUp]
    exact countP_isBroughtUp_of_reaches hreach
  · rw [(execute_of_not_reaches hreach).2.2.1]
    exact Nat.zero_le 1

end Execute

/-- Whatever the arguments, the settings and the answers from outside: the outcome alone settles what is
told, and a tunnel that a run has brought up is taken down in the end. -/
theorem conducts_run {args : List String} {a : Arguments} (h : Arguments.parse args = .run a)
    (env : Environment ω) : Conducts env a (run env args) := by
  have hrun : run env args = execute env a := by rw [run, h]
  rw [hrun]
  refine {
    returns := fun q f before hreach => (q.exec f).returns (Fleet.isSettled_of_replays (q.replays f))
    answered := fun body hends => ?_
    tested := fun htest => ?_
    cancelled := fun hends => ?_
    failed := fun hanswered htest hcancelled => ?_
    once := countP_isBroughtUp_execute env a
    prepared := fun p r hstep => ?_
    takesDown := fun p hstep => takesDown_of_broughtUp hstep
    broughtUp := fun p hstep => broughtUp_of_takenDown hstep
    leaves := fun p r hstep => left_of_broughtUp hstep
    untouched := fun q f before hreach => q.current_final f
    after := fun q f before hreach => hreach.sent.after
    idle := fun hno => (execute_of_not_reaches fun ⟨q, f, before, hr⟩ => hno q f before hr).2.2
    unavailable := fun p e hstep => follows_of_unavailable hstep }
  · obtain ⟨hexit, houtput⟩ := told_of_ends hends
    rw [hexit, houtput]
    exact ⟨rfl, rfl⟩
  · obtain ⟨hexit, houtput⟩ := told_of_tests htest
    rw [hexit, houtput]
    exact ⟨rfl, rfl⟩
  · obtain ⟨hexit, houtput⟩ := told_of_ends hends
    rw [hexit, houtput]
    exact ⟨rfl, rfl⟩
  · obtain ⟨hexit, houtput⟩ := told_of_failed hanswered htest hcancelled
    rw [hexit, houtput]
    exact ⟨rfl, rfl⟩
  · obtain ⟨s, f, job, name, t, own, fleet, hr, ht, hc, hp, -⟩ := through_of_broughtUp hstep
    exact ⟨s, f, job, hr, prepared_of_prepare hr.job, name, t, ht, hc, hp⟩

def tunnelText : String :=
  "server: \x7baddress: h, web-port: 1, web-server-certificate: AQ==, capabilities: [http]\x7d\n" ++
    "transports: [\x7bname: t, type: http, server: p, port: 1\x7d]"

/-- Where these are the settings, every gateway is found, and every attempt is answered. -/
def Environment.sample : Environment Unit where
  file := fun _ => .ok (bytesOf tunnelText)
  outside := fun _ =>
    ⟨fun _ => (false, ()), fun _ _ => (.ok (), ()), fun _ _ _ => (.ok [79, 75], [], ()), none⟩
  start := ()

theorem conducts_overTunnel :
    let args := ["--tunnel", "t", "--path", "/status"]
    let x := run Environment.sample args
    Arguments.parse args = .run { path := some "/status", tunnel := some "t" } ∧
      Conducts Environment.sample { path := some "/status", tunnel := some "t" } x ∧
      x.steps.any (· matches .takenDown _) = true ∧ x.tunnel.map (·.state) = some { fresh := 1 } ∧
      x.exit = .success ∧ x.output = [79, 75] := by
  intro args x
  have hargs : Arguments.parse args = .run { path := some "/status", tunnel := some "t" } := by
    decide +kernel
  exact ⟨hargs, conducts_run hargs Environment.sample, by decide +kernel⟩

end RouteCascade.Cli
