import RouteCascade.Proofs.Cascade.Agreement

/-!
# The choice of a branch

What a run does is settled at its start: parameters without a chance are refused, a tunnel that is up is
used and nothing else is tried, and without one it depends on the order whether the run may look for a
path of its own. Nothing that goes wrong on the way comes back as a refusal, and a tunnel that is down is
as good as none.
-/
namespace RouteCascade.Cascade

open Text Net

variable {σ σ' τ α : Type}

def RelativePath (p : RequestParameters) : Prop :=
  p.path.toList = [] ∨ ∃ ch, p.path.toList.head? = some ch ∧ ch ≠ '/'

theorem fault?_eq_none_iff_not_relativePath {p : RequestParameters} :
    p.fault? = none ↔ ¬ RelativePath p := by
  rw [RequestParameters.fault?_eq_none_iff, RelativePath]
  cases p.path.toList <;> simp

/-- What the reply to its one attempt makes of a run over the tunnel that is up. -/
def Reply.sole : Reply Bytes → Ending Answer
  | .ok b => done (.success b)
  | .error e => done (.failed (.request e))
  | .panic t => .panicked t
  | .hang => .abandoned

def Reply.leaving : Reply Bytes → List (Event τ)
  | .hang => [.abandon]
  | _ => []

section Parts
variable {c : Collaborators σ τ} {o : Order} {es : List (Event τ)}

/-- The ending of a run is no refusal of its parameters. -/
def Ending.Accepts (x : Ending Answer) : Prop := ∀ e, x ≠ .returned (.error e)

theorem accepts_done (x : Outcome) : (done x).Accepts := nofun

theorem DirectExec.accepts {fs : List FailedPath} {ps : List Port} {x : Ending Answer}
    (h : DirectExec o fs ps es (.ended x)) : x.Accepts := by
  generalize hy : DirectEnd.ended x = y at h
  induction h with
  | failed => cases hy
  | next _ ih => exact ih hy
  | _ =>
      cases hy
      exact nofun

theorem TunnelsExec.accepts {fs : List FailedPath} {is : List (Instance τ)} {x : Ending Answer}
    (h : TunnelsExec c o fs is es x) : x.Accepts := by
  induction h with
  | exhausted fs => exact accepts_done _
  | next _ _ ih => exact ih
  | @last _ _ _ _ _ x y _ hx =>
      rcases x with ⟨e | b⟩ | t | _ <;> cases hx
      · exact accepts_done b
      · exact nofun
      · exact nofun

theorem CurrentExec.sole {a : Attempt τ} {x : Ending Answer} (h : CurrentExec a es x) :
    ∃ r : Reply Bytes, es = .attempt a r :: r.leaving ∧ x = r.sole := by
  cases h with
  | succeeded b => exact ⟨.ok b, rfl, rfl⟩
  | failed e => exact ⟨.error e, rfl, rfl⟩
  | panicked t => exact ⟨.panic t, rfl, rfl⟩
  | abandoned => exact ⟨.hang, rfl, rfl⟩

theorem CurrentExec.accepts {a : Attempt τ} {x : Ending Answer} (h : CurrentExec a es x) :
    x.Accepts := by
  cases h <;> exact nofun

/-- Only the parameters are ever refused. -/
theorem RunExec.fault_of_refused {current : Option τ} {s : σ} {x : Ending Answer}
    (h : RunExec c o current s es x) {e : ParameterFault} (hx : x = .returned (.error e)) :
    o.parameters.fault? = some e ∧ es = [.poll false] := by
  cases h with
  | invalid he =>
      cases hx
      exact ⟨he, rfl⟩
  | current _ _ hc => exact absurd hx (hc.accepts e)
  | direct _ hd => exact absurd hx (hd.accepts e)
  | tunnels _ _ _ _ ht => exact absurd hx (ht.accepts e)
  | stopped | disallowed | noEligible => cases hx

theorem upAtStart_of_connected {t : τ} {s : σ} (h : c.isConnected t (c.poll s).2 = true) :
    upAtStart c (some t) s = some t := by
  simp [upAtStart, Option.filter, h]

theorem upAtStart_eq_none {current : Option τ} {s : σ}
    (h : ∀ t, current = some t → c.isConnected t (c.poll s).2 = false) : upAtStart c current s = none := by
  cases current with
  | none => rfl
  | some t => simp [upAtStart, Option.filter, h t rfl]

end Parts

theorem Act.bind_congr {β : Type} {x y : Act σ τ α} {f g : α → Act σ τ β} {s : σ} (hx : x s = y s)
    (h : f (y s).1 (y s).2.2 = g (y s).1 (y s).2.2) : (x >>= f) s = (y >>= g) s := by
  simp only [Act.bind_apply, hx, h]

section Runs
variable {c : Collaborators σ τ} {o : Order} {current : Option τ} {s : σ}

theorem run_of_stop (hp : (c.poll s).1 = true) :
    (run c o current).result s = done .cancelled := by
  simp [run, Collaborators.askStop, hp]

theorem run_of_fault (hp : (c.poll s).1 = false) {e : ParameterFault} (he : o.parameters.fault? = some e) :
    (run c o current).result s = .returned (.error e) := by
  simp [run, Collaborators.askStop, hp, he]

theorem run_of_up (hp : (c.poll s).1 = false) (hv : o.parameters.fault? = none) {t : τ}
    (hu : upAtStart c current s = some t) :
    (run c o current).events s = .poll false :: (tryCurrent c o t).events (c.poll s).2 ∧
      (run c o current).result s = (tryCurrent c o t).result (c.poll s).2 := by
  obtain ⟨he, hr, hs⟩ := connected?_spec c current (c.poll s).2
  have hfound : (connected? c current).result (c.poll s).2 = some t := hr.trans hu
  simp [run, Collaborators.askStop, hp, hv, he, hfound, hs]

theorem run_of_disallowed (hp : (c.poll s).1 = false) (hv : o.parameters.fault? = none)
    (hu : upAtStart c current s = none) (ha : o.allowTemporary = false) :
    (run c o current).events s = [.poll false] ∧
      (run c o current).result s = done (.failed .temporaryDisallowed) := by
  obtain ⟨he, hr, -⟩ := connected?_spec c current (c.poll s).2
  have hfound : (connected? c current).result (c.poll s).2 = none := hr.trans hu
  simp [run, Collaborators.askStop, hp, hv, he, hfound, ha]

/-- A tunnel that is down is not looked at any further. -/
theorem run_of_down {t : τ} (hd : c.isConnected t (c.poll s).2 = false) :
    run c o (some t) s = run c o none s := by
  have hnone : connected? c (some t) (c.poll s).2 = connected? c none (c.poll s).2 := by
    simp [connected?, Collaborators.seeConnected, hd]
  refine Act.bind_congr rfl ?_
  change (if (c.poll s).1 then _ else _ : Act σ τ (Ending Answer)) (c.poll s).2 =
    (if (c.poll s).1 then _ else _ : Act σ τ (Ending Answer)) (c.poll s).2
  by_cases hp : (c.poll s).1 = true
  · rw [if_pos hp, if_pos hp]
  rw [if_neg hp, if_neg hp]
  cases o.parameters.fault? with
  | some e => rfl
  | none => exact Act.bind_congr hnone rfl

/-- A run over the tunnel that is up is the same with any catalog, whether or not its tunnels may be
connected. -/
theorem run_congr_of_up (hp : (c.poll s).1 = false) (hv : o.parameters.fault? = none) {t : τ}
    (hu : upAtStart c current s = some t) {c' : Collaborators σ' τ} {R : σ → σ' → Prop} {s' : σ'}
    (hc : AlikeOutside c c' id R) (hs : R s s') (allow : Bool) :
    (run c' { o with allowTemporary := allow } current).events s' = (run c o current).events s ∧
      (run c' { o with allowTemporary := allow } current).result s' = (run c o current).result s := by
  obtain ⟨hpoll, hs₁⟩ := hc.poll s s' hs
  have hu' : upAtStart c' current s' = some t := by
    rw [← hu, upAtStart, upAtStart]
    congr 1
    funext t
    exact hc.isConnected _ _ hs₁ t
  have hcurrent := agrees_tryCurrent compares_same hc o t
  obtain ⟨he, hr⟩ := run_of_up hp hv hu
  obtain ⟨he', hr'⟩ := run_of_up (o := { o with allowTemporary := allow }) (hpoll.trans hp) hv hu'
  rw [he, he', hr, hr']
  constructor
  · exact congrArg (.poll false :: ·) (hcurrent.events _ _ hs₁).symm
  · exact (hcurrent.result _ _ hs₁).symm

theorem refused_iff : (∃ e, (run c o current).result s = .returned (.error e)) ↔
    (c.poll s).1 = false ∧ RelativePath o.parameters := by
  constructor
  · rintro ⟨e, he⟩
    have hfault := ((run_exec c o current s).fault_of_refused he).1
    constructor
    · cases hp : (c.poll s).1 with
      | true => exact absurd (run_of_stop hp ▸ he) (accepts_done _ e)
      | false => rfl
    · apply Classical.byContradiction
      intro hpath
      rw [fault?_eq_none_iff_not_relativePath.mpr hpath] at hfault
      cases hfault
  · rintro ⟨hp, hpath⟩
    have hfault : o.parameters.fault? ≠ none := fun h => fault?_eq_none_iff_not_relativePath.mp h hpath
    obtain ⟨e, he⟩ := Option.ne_none_iff_exists'.mp hfault
    exact ⟨e, run_of_fault hp he⟩

end Runs

/-- What settles, at its start, what a run does. -/
structure SettledAtStart (c : Collaborators σ τ) (o : Order) (current : Option τ) (s : σ)
    (log : List (Event τ)) (ending : Ending Answer) : Prop where
  /-- The run is refused just for its path, unless it was to stop before that. -/
  refused : (∃ e, ending = .returned (.error e)) ↔ (c.poll s).1 = false ∧ RelativePath o.parameters
  misuse : ∀ e, ending = .returned (.error e) → e.failure.kind = .misuse ∧ log = [.poll false]
  /-- A tunnel that is up is used for one attempt, and nothing else happens. -/
  up : (c.poll s).1 = false → ¬ RelativePath o.parameters → ∀ t, current = some t →
    c.isConnected t (c.poll s).2 = true → ∃ r : Reply Bytes, ending = r.sole ∧
      log = .poll false :: .attempt ⟨o.session, o.session.port, o.parameters,
        c.routesThroughLocalProxy t, .current t⟩ r :: r.leaving
  /-- That does not depend on the catalog, nor on whether its tunnels may be connected. -/
  alone : (c.poll s).1 = false → ¬ RelativePath o.parameters → ∀ t, current = some t →
    c.isConnected t (c.poll s).2 = true → ∀ {σ' : Type} (c' : Collaborators σ' τ) (R : σ → σ' → Prop)
      (s' : σ') (allow : Bool), AlikeOutside c c' id R → R s s' →
        (run c' { o with allowTemporary := allow } current).events s' = log ∧
          (run c' { o with allowTemporary := allow } current).result s' = ending
  down : ∀ t, current = some t → c.isConnected t (c.poll s).2 = false →
    (run c o none).events s = log ∧ (run c o none).result s = ending
  disallowed : (c.poll s).1 = false → ¬ RelativePath o.parameters →
    (∀ t, current = some t → c.isConnected t (c.poll s).2 = false) → o.allowTemporary = false →
      ending = done (.failed .temporaryDisallowed) ∧ log = [.poll false]

/-- What a run does is settled by the first answer of the stop signal, the path that is asked for, the
tunnel that may be up, and whether other tunnels may be connected. -/
theorem settledAtStart_run (c : Collaborators σ τ) (o : Order) (current : Option τ) (s : σ) :
    SettledAtStart c o current s ((run c o current).events s) ((run c o current).result s) := by
  have hvalid : ¬ RelativePath o.parameters → o.parameters.fault? = none :=
    fault?_eq_none_iff_not_relativePath.mpr
  refine {
    refused := refused_iff
    misuse := fun e he => ⟨rfl, ((run_exec c o current s).fault_of_refused he).2⟩
    up := ?_
    alone := ?_
    down := ?_
    disallowed := ?_ }
  · rintro hp hpath t rfl hconnected
    obtain ⟨hevents, hresult⟩ := run_of_up (o := o) hp (hvalid hpath) (upAtStart_of_connected hconnected)
    obtain ⟨r, hr, hx⟩ := (tryCurrent_exec c o t (c.poll s).2).sole
    rw [hevents, hresult, hr, hx]
    exact ⟨r, rfl, rfl⟩
  · rintro hp hpath t rfl hconnected σ' c' R s' allow hc hs
    exact run_congr_of_up hp (hvalid hpath) (upAtStart_of_connected hconnected) hc hs allow
  · rintro t rfl hd
    rw [Act.events, Act.result, Act.events, Act.result, run_of_down hd]
    exact ⟨rfl, rfl⟩
  · intro hp hpath hd ha
    exact (run_of_disallowed hp (hvalid hpath) (upAtStart_eq_none hd) ha).symm

end RouteCascade.Cascade
