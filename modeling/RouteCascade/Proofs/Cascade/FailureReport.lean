import RouteCascade.Proofs.Cascade.AttemptOrder

/-!
# Failure reports

A run that fails reports every path it tried, once and in order, with what the path failed of. What a
path failed of is read off the log: a direct attempt has one failure, and a tunnel may refuse when it is
asked again, may not be connected, or may carry an attempt that fails.
-/
namespace RouteCascade.Cascade

open Text Net

variable {σ τ : Type}

/-- What a path leads over: a port of the server, or a tunnel of the catalog. -/
inductive Way (τ : Type) where
  | port (p : Port)
  | tunnel (i : Instance τ)
  deriving DecidableEq

def Collaborators.pathBy (c : Collaborators σ τ) : Way τ → Path
  | .port p => .direct p
  | .tunnel i => c.pathOver i

/-- The ways of a run that tries all of them: the configured port, the standard port if that is another
one, and some tunnels. -/
def Order.allWays (o : Order) (is : List (Instance τ)) : List (Way τ) :=
  .port o.session.port :: ((if o.session.port = 443 then [] else [.port 443]) ++ is.map .tunnel)

/-- The failure that an event tells of, and the way that failed. -/
def Event.fault? (c : Collaborators σ τ) : Event τ → Option (Way τ × Failure)
  | .attempt a (.error e) =>
    match a.carrier with
    | .direct => some (.port a.port, e)
    | .temporary i => some (.tunnel i, e)
    | .current _ => none
  | .connect i (.error e) => some (.tunnel i, e)
  | .handshake i true => some (.tunnel i, Connection.handshakeFailure (c.name i.tunnel))
  | _ => none

def entry (c : Collaborators σ τ) (w : Way τ × Failure) : FailedPath := ⟨c.pathBy w.1, w.2⟩

/-- What events tell about why a way failed. -/
inductive FailsOf (c : Collaborators σ τ) (o : Order) (es : List (Event τ)) : Way τ → Failure → Prop
  | unanswered {p : Port} {e : Failure} : .attempt (o.directAttempt p) (.error e) ∈ es →
      FailsOf c o es (.port p) e
  | refused {i : Instance τ} : .handshake i true ∈ es →
      FailsOf c o es (.tunnel i) (Connection.handshakeFailure (c.name i.tunnel))
  | unreachable {i : Instance τ} {e : Failure} : .handshake i false ∈ es → .connect i (.error e) ∈ es →
      FailsOf c o es (.tunnel i) e
  | fruitless {i : Instance τ} {e : Failure} : .handshake i false ∈ es → .connect i (.ok ()) ∈ es →
      .attempt (o.attemptOver c i) (.error e) ∈ es → FailsOf c o es (.tunnel i) e

theorem FailsOf.mono {c : Collaborators σ τ} {o : Order} {es es' : List (Event τ)} (hs : es ⊆ es')
    {w : Way τ} {e : Failure} (h : FailsOf c o es w e) : FailsOf c o es' w e := by
  cases h with
  | unanswered ha => exact .unanswered (hs ha)
  | refused hh => exact .refused (hs hh)
  | unreachable hh hc => exact .unreachable (hs hh) (hs hc)
  | fruitless hh hc ha => exact .fruitless (hs hh) (hs hc) (hs ha)

/-- A report on some ways, all of which failed while events happened. -/
structure Reports (c : Collaborators σ τ) (o : Order) (es : List (Event τ)) (ws : List (Way τ))
    (fs : List FailedPath) : Prop where
  /-- Each way has one entry, in the order of the ways, which says what the way failed of. -/
  entries : List.Forall₂ (fun w f => f.path = c.pathBy w ∧ FailsOf c o es w f.failure) ws fs
  /-- Each failure that happened has one entry, in the order in which they happened. -/
  told : fs = (es.filterMap (Event.fault? c)).map (entry c)
  /-- Only attempts that failed were made. -/
  failed : ∀ a r, .attempt a r ∈ es → ∃ e, r = .error e

section Reports
variable {c : Collaborators σ τ} {o : Order} {es es' : List (Event τ)} {ws ws' : List (Way τ)}
  {fs fs' : List FailedPath}

theorem reports_nil : Reports c o [] [] [] where
  entries := .nil
  told := rfl
  failed := by simp

theorem Reports.append (h : Reports c o es ws fs) (h' : Reports c o es' ws' fs') :
    Reports c o (es ++ es') (ws ++ ws') (fs ++ fs') where
  entries := by
    refine List.rel_append ?_ ?_
    · exact h.entries.imp fun _ _ hf => ⟨hf.1, hf.2.mono (List.subset_append_left _ _)⟩
    · exact h'.entries.imp fun _ _ hf => ⟨hf.1, hf.2.mono (List.subset_append_right _ _)⟩
  told := by rw [List.filterMap_append, List.map_append, ← h.told, ← h'.told]
  failed := fun a r ha => (List.mem_append.mp ha).elim (h.failed a r) (h'.failed a r)

/-- A question to the stop signal is not reported. -/
theorem Reports.poll (h : Reports c o es ws fs) (b : Bool) : Reports c o (.poll b :: es) ws fs where
  entries := h.entries.imp fun _ _ hf => ⟨hf.1, hf.2.mono (List.subset_cons_self _ _)⟩
  told := h.told
  failed := by simpa using h.failed

theorem reports_port (c : Collaborators σ τ) (o : Order) (p : Port) (e : Failure) :
    Reports c o [.poll false, .attempt (o.directAttempt p) (.error e)] [.port p] [⟨.direct p, e⟩] where
  entries := .cons ⟨rfl, .unanswered (by simp)⟩ .nil
  told := rfl
  failed := by simp

/-- If all ports fail, their failures are added to those from before. -/
theorem DirectExec.reports {ps : List Port} {gs : List FailedPath}
    (h : DirectExec o fs ps es (.failed gs)) (c : Collaborators σ τ) :
    ∃ new, gs = fs ++ new ∧ Reports c o es (ps.map .port) new := by
  generalize hx : DirectEnd.failed gs = x at h
  induction h with
  | failed fs =>
      cases hx
      exact ⟨[], (List.append_nil _).symm, reports_nil⟩
  | @next fs p ps e es x _ ih =>
      obtain ⟨new, rfl, hr⟩ := ih hx
      exact ⟨⟨.direct p, e⟩ :: new, by simp, (reports_port c o p e).append hr⟩
  | _ => cases hx

/-- A turn that fails is reported with what the tunnel failed of. -/
theorem TurnExec.reports {i : Instance τ} {e : Failure} {late : List (Event τ)}
    (h : TurnExec c o i es (.returned (.error e)) late) :
    Reports c o es [.tunnel i] [⟨c.pathOver i, e⟩] := by
  generalize hx : Ending.returned (Except.error e) = x at h
  cases h with
  | refused =>
      cases hx
      exact ⟨.cons ⟨rfl, .refused (by simp)⟩ .nil, rfl, by simp⟩
  | unreachable e =>
      cases hx
      exact ⟨.cons ⟨rfl, .unreachable (by simp) (by simp)⟩ .nil, rfl, by simp⟩
  | @used r _ _ _ hr =>
      cases hr <;> cases r <;> cases hx
      exact ⟨.cons ⟨rfl, .fruitless (by simp) (by simp) (by simp)⟩ .nil, rfl, by simp⟩
  | unused hr => cases hr <;> cases hx
  | _ => cases hx

/-- If all tunnels fail, their failures are added to those from before. -/
theorem TunnelsExec.reports {is : List (Instance τ)} {x : Ending Answer} (h : TunnelsExec c o fs is es x)
    {gs : List FailedPath} (hx : x = done (.failed (.exhausted gs))) :
    ∃ new, gs = fs ++ new ∧ Reports c o es (is.map .tunnel) new := by
  induction h with
  | exhausted fs =>
      cases hx
      exact ⟨[], (List.append_nil _).symm, reports_nil⟩
  | @next fs i rest e es es' x ht _ ih =>
      obtain ⟨new, rfl, hr⟩ := ih hx
      exact ⟨⟨c.pathOver i, e⟩ :: new, by simp, ht.reports.append hr⟩
  | last _ _ ht hy =>
      subst hx
      exact absurd hy (ht.closing?_ne_failed _)

end Reports

/-- What the reason of a failure tells about the log of the run. A report is on the direct paths and the
candidates; it leaves out the tunnels that were not chosen. -/
inductive FullReport (c : Collaborators σ τ) (o : Order) (current : Option τ) (s : σ)
    (log : List (Event τ)) : Reason → Prop
  | disallowed : upAtStart c current s = none → o.allowTemporary = false → log = [.poll false] →
      FullReport c o current s log .temporaryDisallowed
  | request {t : τ} {e : Failure} : upAtStart c current s = some t →
      log = [.poll false, .attempt (o.currentAttempt c t) (.error e)] →
      FullReport c o current s log (.request e)
  | noEligible {u : List (Event τ)} {asked : List (Instance τ × Bool)} {fs : List FailedPath} :
      upAtStart c current s = none → log = u ++ .enumerate :: asked.flatMap screening →
      asked.map (·.1) = handedOutIn c o.session log s → candidates asked = [] →
      Reports c o u (o.allWays []) fs → FullReport c o current s log (.noEligible fs)
  | exhausted {u w : List (Event τ)} {asked : List (Instance τ × Bool)} {fs : List FailedPath} :
      upAtStart c current s = none → log = u ++ .enumerate :: (asked.flatMap screening ++ w) →
      asked.map (·.1) = handedOutIn c o.session log s → candidates asked ≠ [] →
      Reports c o (u ++ w) (o.allWays (candidates asked)) fs → FullReport c o current s log (.exhausted fs)

section Runs
variable {c : Collaborators σ τ} {o : Order} {current : Option τ} {s : σ} {log : List (Event τ)}
  {x : Ending Answer}

theorem allWays_eq (o : Order) (is : List (Instance τ)) :
    o.allWays is = o.session.directPorts.map .port ++ is.map .tunnel := by
  by_cases hp : o.session.port = 443 <;>
    simp [Order.allWays, Session.directPorts, Session.standardPort, hp]

theorem RunExec.fullReport (h : RunExec c o current s log x) {r : Reason} (hx : x = done (.failed r)) :
    FullReport c o current s log r := by
  cases h with
  | stopped | invalid _ => cases hx
  | disallowed _ ha hn =>
      cases hx
      exact .disallowed hn ha rfl
  | current _ hu hc =>
      cases hc <;> cases hx
      exact .request hu rfl
  | direct _ hd => exact absurd hx (hd.ne_failed r)
  | @noEligible ds ss fs hs hd hk =>
      cases hx
      obtain ⟨asked, hasked, rfl, hc⟩ := hk.asked
      obtain ⟨fs, rfl, hr⟩ := hd.reports c
      refine .noEligible (u := .poll false :: ds) hs.alone rfl ?_ hc.symm ?_
      · rw [hasked, hd.handedOutIn]
      · simpa [allWays_eq] using hr.poll false
  | @tunnels ds ss ts fs kept _ hs hd hk hne ht =>
      obtain ⟨asked, hasked, rfl, rfl⟩ := hk.asked
      obtain ⟨gs, rfl⟩ := ht.exhausted_of_failed hx
      obtain ⟨fs, rfl, hr⟩ := hd.reports c
      obtain ⟨new, rfl, hn⟩ := ht.reports hx
      refine .exhausted (u := .poll false :: ds) hs.alone rfl ?_ hne ?_
      · rw [hasked, hd.handedOutIn]
      · simpa [allWays_eq] using (hr.poll false).append hn

end Runs

/-- A run that fails reports the paths that it tried, each with what it failed of. If a tunnel was up, the
reason is the failure of its attempt, and no path is reported. -/
theorem fullReport_run (c : Collaborators σ τ) (o : Order) (current : Option τ) (s : σ) {r : Reason}
    (hr : (run c o current).result s = done (.failed r)) :
    FullReport c o current s ((run c o current).events s) r ∧
      (upAtStart c current s ≠ none → (∃ e, r = .request e) ∧ r.failures = []) := by
  have h := (run_exec c o current s).fullReport hr
  refine ⟨h, fun hu => ?_⟩
  cases h with
  | request _ _ => exact ⟨⟨_, rfl⟩, rfl⟩
  | disallowed hn | noEligible hn | exhausted hn => exact absurd hn hu

theorem fullReport_shyTunnel :
    let c := Script.collaborators true
    let s := Script.sample
      [Script.noRoute, .error ⟨.timeout, "late"⟩, .error ⟨.tls, "wrong certificate"⟩, Script.noRoute]
    let r : Reason := .exhausted [
      ⟨.direct 8080, ⟨.connection, "no route"⟩⟩, ⟨.direct 443, ⟨.timeout, "late"⟩⟩,
      ⟨.temporary "shy" .http, ⟨.handshakeRequired, "shy cannot connect without a handshake"⟩⟩,
      ⟨.temporary "first" .http, ⟨.tls, "wrong certificate"⟩⟩,
      ⟨.temporary "second" .socks5, ⟨.connection, "no route"⟩⟩]
    (run c Order.sample none).result s = done (.failed r) ∧
      FullReport c Order.sample none s ((run c Order.sample none).events s) r :=
  ⟨by decide +kernel, (fullReport_run _ _ _ _ (by decide +kernel)).1⟩

end RouteCascade.Cascade
