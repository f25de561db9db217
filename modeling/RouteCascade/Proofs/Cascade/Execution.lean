import RouteCascade.Cascade.Run

/-!
# Executions

Closed derivations of what the actions of a run do. Each rule gives the events of one way through an
action, whatever the collaborators answer, together with how it ends; no rule looks at a state, but for
the first question of a run, the tunnel that may be up and the tunnels that the catalog hands out.

The derivation of a tunnel's turn keeps two lists apart: what happens before the tunnels that are not
reached are given up, and what happens in the background after that.
-/
namespace RouteCascade.Cascade

open Text Net

variable {σ τ α : Type}

/-- The call came back, with a value or with a failure. -/
def Reply.isAnswer : Reply α → Bool
  | .ok _ | .error _ => true
  | .panic _ | .hang => false

def Event.after (c : Collaborators σ τ) (session : Session) : Event τ → σ → σ
  | .poll _, s => (c.poll s).2
  | .attempt a _, s => (c.attempt a s).2
  | .enumerate, s => (c.enumerate s).2
  | .handshake i _, s => (c.requiresHandshake i session s).2
  | .connect i _, s => (c.connect i session s).2
  | .disconnect i _, s => (c.disconnect i s).2
  | .dispose i, s => c.dispose i s
  | .abandon, s => s

def replay (c : Collaborators σ τ) (session : Session) (es : List (Event τ)) (s : σ) : σ :=
  es.foldl (fun s e => e.after c session s) s

@[simp] theorem replay_nil (c : Collaborators σ τ) (session : Session) (s : σ) :
    replay c session [] s = s := rfl

@[simp] theorem replay_cons (c : Collaborators σ τ) (session : Session) (e : Event τ)
    (es : List (Event τ)) (s : σ) :
    replay c session (e :: es) s = replay c session es (e.after c session s) := rfl

namespace Connection

inductive AcquireExec (c : Collaborators σ τ) (i : Instance τ) :
    List (Event τ) → StepEnd σ τ (Except Failure Unit) → Prop
  | refused : AcquireExec c i [.handshake i true, .dispose i]
      (.returned (.error (handshakeFailure (c.name i.tunnel))))
  | unreachable (e : Failure) :
      AcquireExec c i [.handshake i false, .connect i (.error e), .dispose i] (.returned (.error e))
  | connected : AcquireExec c i [.handshake i false, .connect i (.ok ())] (.returned (.ok ()))
  | panicked (t : String) :
      AcquireExec c i [.handshake i false, .connect i (.panic t), .dispose i] (.panicked t)
  | abandoned :
      AcquireExec c i [.handshake i false, .connect i .hang, .abandon, .dispose i] (.abandoned nothing)

theorem acquire_exec (c : Collaborators σ τ) (session : Session) (i : Instance τ) (s : σ) :
    AcquireExec c i ((acquire c session i).events s) ((acquire c session i).result s) := by
  cases hh : (c.requiresHandshake i session s).1 with
  | true =>
      simp only [acquire, Collaborators.askHandshake, Act.events_bind, Act.result_bind, Act.events_call,
        Act.result_call, hh]
      exact .refused
  | false =>
      simp only [acquire, Collaborators.askHandshake, Collaborators.bringUp, Act.events_bind,
        Act.result_bind, Act.events_call, Act.result_call, Act.final_call, hh, Bool.false_eq_true,
        if_false]
      cases (c.connect i session (c.requiresHandshake i session s).2).1 with
      | ok a => exact .connected
      | error e => exact .unreachable e
      | panic t => exact .panicked t
      | hang => exact .abandoned

/-- Disconnecting a tunnel and giving it up. -/
inductive ReleaseExec (i : Instance τ) : List (Event τ) → StepEnd σ τ Unit → Prop
  | returned {r : Reply Unit} : r.isAnswer = true →
      ReleaseExec i [.disconnect i r, .dispose i] (.returned ())
  | panicked (t : String) : ReleaseExec i [.disconnect i (.panic t), .dispose i] (.panicked t)
  | abandoned : ReleaseExec i [.disconnect i .hang, .abandon, .dispose i] (.abandoned nothing)

theorem release_exec (c : Collaborators σ τ) (i : Instance τ) (s : σ) :
    ReleaseExec i ((release c i).events s) ((release c i).result s) := by
  simp only [release, Collaborators.takeDown, Act.events_bind, Act.result_bind, Act.events_call,
    Act.result_call, Act.final_call]
  cases (c.disconnect i s).1 with
  | ok a => exact .returned rfl
  | error e => exact .returned rfl
  | panic t => exact .panicked t
  | hang => exact .abandoned

/-- Letting go of a tunnel: what is done at once, and what is left for later. -/
inductive DropExec (c : Collaborators σ τ) (i : Instance τ) : List (Event τ) → Act σ τ Unit → Prop
  | background : c.background = true → DropExec c i [] (releaseInBackground c i)
  | alone : c.background = false → DropExec c i [.dispose i] nothing

theorem drop_exec (c : Collaborators σ τ) (i : Instance τ) (s : σ) :
    DropExec c i ((drop c i).events s) ((drop c i).result s) := by
  unfold drop
  split
  · exact .background ‹_›
  · exact .alone (Bool.not_eq_true _ ▸ ‹_›)

/-- The step that a reply to an attempt ends, before the tunnel is released. -/
def stepOf : Reply α → StepEnd σ τ (Except Failure α)
  | .ok a => .returned (.ok a)
  | .error e => .returned (.error e)
  | .panic t => .panicked t
  | .hang => .abandoned nothing

/-- The end of a step after a release, which has the last word unless it returns. -/
def releasedBy (x : StepEnd σ τ α) : StepEnd σ τ Unit → StepEnd σ τ α
  | .returned () => x
  | .panicked t => .panicked t
  | .abandoned later => .abandoned later

@[simp] theorem events_releaseAfter (c : Collaborators σ τ) (i : Instance τ) (x : StepEnd σ τ α) (s : σ) :
    (releaseAfter c i x).events s = (release c i).events s := by
  simp only [releaseAfter, Act.events_bind]
  cases (release c i).result s <;> simp

@[simp] theorem result_releaseAfter (c : Collaborators σ τ) (i : Instance τ) (x : StepEnd σ τ α) (s : σ) :
    (releaseAfter c i x).result s = releasedBy x ((release c i).result s) := by
  simp only [releaseAfter, Act.result_bind]
  cases (release c i).result s <;> rfl

/-- Making an attempt over a connected tunnel, which is released unless the attempt never ends. -/
inductive RunExec (c : Collaborators σ τ) (i : Instance τ) (a : Attempt τ) :
    List (Event τ) → StepEnd σ τ (Except Failure Bytes) → Prop
  | settled {r : Reply Bytes} {es : List (Event τ)} {x : StepEnd σ τ Unit} : r ≠ .hang →
      ReleaseExec i es x → RunExec c i a (.attempt a r :: es) (releasedBy (stepOf r) x)
  | abandoned {es : List (Event τ)} {later : Act σ τ Unit} : DropExec c i es later →
      RunExec c i a (.attempt a .hang :: .abandon :: es) (.abandoned later)

theorem run_exec (c : Collaborators σ τ) (i : Instance τ) (a : Attempt τ) (s : σ) :
    RunExec c i a ((run c i (c.send a)).events s) ((run c i (c.send a)).result s) := by
  simp only [run, Collaborators.send, Act.events_bind, Act.result_bind, Act.events_call, Act.result_call,
    Act.final_call]
  generalize (c.attempt a s).2 = s₁
  cases hr : (c.attempt a s).1 with
  | hang =>
      simp only [Act.events_bind, Act.result_bind, Act.events_abandon, Act.final_abandon, Act.events_pure,
        Act.result_pure, List.append_nil, List.cons_append, List.nil_append]
      exact .abandoned (drop_exec c i s₁)
  | _ =>
      simp only [events_releaseAfter, result_releaseAfter]
      exact .settled nofun (release_exec c i s₁)

end Connection

/-- Asking every tunnel whether it needs a handshake, and giving up those that do. -/
inductive SelectExec : List (Instance τ) → List (Event τ) → List (Instance τ) → Prop
  | nil : SelectExec [] [] []
  | refused {i : Instance τ} {is kept : List (Instance τ)} {es : List (Event τ)} :
      SelectExec is es kept → SelectExec (i :: is) (.handshake i true :: .dispose i :: es) kept
  | kept {i : Instance τ} {is kept : List (Instance τ)} {es : List (Event τ)} :
      SelectExec is es kept → SelectExec (i :: is) (.handshake i false :: es) (i :: kept)

theorem keepEligible_exec (c : Collaborators σ τ) (session : Session) (is : List (Instance τ)) (s : σ) :
    SelectExec is ((keepEligible c session is).events s) ((keepEligible c session is).result s) := by
  induction is generalizing s with
  | nil => exact .nil
  | cons i is ih =>
      cases hh : (c.requiresHandshake i session s).1 with
      | true =>
          simp only [keepEligible, Collaborators.askHandshake, Collaborators.discard, Act.events_bind,
            Act.result_bind, Act.events_call, Act.result_call, Act.final_call, hh, if_true,
            List.cons_append, List.nil_append]
          exact .refused (ih _)
      | false =>
          simp only [keepEligible, Collaborators.askHandshake, Act.events_bind, Act.result_bind,
            Act.events_call, Act.result_call, Act.final_call, Act.events_pure, Act.result_pure, hh,
            Bool.false_eq_true, if_false, List.cons_append, List.nil_append, List.append_nil]
          exact .kept (ih _)

inductive DirectExec (o : Order) :
    List FailedPath → List Port → List (Event τ) → DirectEnd → Prop
  | failed (fs : List FailedPath) : DirectExec o fs [] [] (.failed fs)
  | stopped (fs : List FailedPath) (p : Port) (ps : List Port) :
      DirectExec o fs (p :: ps) [.poll true] (.ended (done .cancelled))
  | succeeded (fs : List FailedPath) (p : Port) (ps : List Port) (b : Bytes) :
      DirectExec o fs (p :: ps) [.poll false, .attempt (o.directAttempt p) (.ok b)]
        (.ended (done (.success b)))
  | panicked (fs : List FailedPath) (p : Port) (ps : List Port) (t : String) :
      DirectExec o fs (p :: ps) [.poll false, .attempt (o.directAttempt p) (.panic t)]
        (.ended (.panicked t))
  | abandoned (fs : List FailedPath) (p : Port) (ps : List Port) :
      DirectExec o fs (p :: ps) [.poll false, .attempt (o.directAttempt p) .hang, .abandon]
        (.ended .abandoned)
  | next {fs : List FailedPath} {p : Port} {ps : List Port} {e : Failure} {es : List (Event τ)}
      {x : DirectEnd} : DirectExec o (fs ++ [⟨.direct p, e⟩]) ps es x →
      DirectExec o fs (p :: ps) (.poll false :: .attempt (o.directAttempt p) (.error e) :: es) x

theorem tryDirect_exec (c : Collaborators σ τ) (o : Order) (fs : List FailedPath) (ps : List Port) (s : σ) :
    DirectExec o fs ps ((tryDirect c o fs ps).events s) ((tryDirect c o fs ps).result s) := by
  induction ps generalizing fs s with
  | nil => exact .failed fs
  | cons p ps ih =>
      cases hp : (c.poll s).1 with
      | true =>
          simp only [tryDirect, Collaborators.askStop, Act.events_bind, Act.result_bind, Act.events_call,
            Act.result_call, hp, if_true]
          exact .stopped fs p ps
      | false =>
          simp only [tryDirect, Collaborators.askStop, Collaborators.send, Act.events_bind,
            Act.result_bind, Act.events_call, Act.result_call, Act.final_call, hp, Bool.false_eq_true,
            if_false, List.cons_append, List.nil_append]
          cases (c.attempt (o.directAttempt p) (c.poll s).2).1 with
          | ok b => exact .succeeded fs p ps b
          | error e => exact .next (ih _ _)
          | panic t => exact .panicked fs p ps t
          | hang => exact .abandoned fs p ps

/-- Trying ports directly leads to the state that the events lead to. -/
theorem final_tryDirect (c : Collaborators σ τ) (o : Order) (fs : List FailedPath) (ps : List Port) (s : σ) :
    (tryDirect c o fs ps).final s = replay c o.session ((tryDirect c o fs ps).events s) s := by
  induction ps generalizing fs s with
  | nil => rfl
  | cons p ps ih =>
      cases hp : (c.poll s).1 with
      | true =>
          simp only [tryDirect, Collaborators.askStop, Act.events_bind, Act.final_bind, Act.events_call,
            Act.result_call, Act.final_call, hp, if_true]
          rfl
      | false =>
          simp only [tryDirect, Collaborators.askStop, Collaborators.send, Act.events_bind, Act.final_bind,
            Act.events_call, Act.result_call, Act.final_call, hp, Bool.false_eq_true,
            if_false, List.cons_append, List.nil_append]
          cases (c.attempt (o.directAttempt p) (c.poll s).2).1 with
          | error e => exact ih _ _
          | _ => rfl

def Collaborators.pathOver (c : Collaborators σ τ) (i : Instance τ) : Path :=
  .temporary (c.name i.tunnel) (c.kind i.tunnel)

def Order.attemptOver (o : Order) (c : Collaborators σ τ) (i : Instance τ) : Attempt τ :=
  o.carriedAttempt (c.routesThroughLocalProxy i.tunnel) (.temporary i)

/-- How a step ends, whatever it leaves to be done. -/
def StepEnd.ending : StepEnd σ τ α → Ending α
  | .returned a => .returned a
  | .panicked t => .panicked t
  | .abandoned _ => .abandoned

/-- The events of what a step leaves to be done. -/
def StepEnd.late : StepEnd σ τ α → σ → List (Event τ)
  | .abandoned later, s => later.events s
  | _, _ => []

def StepEnd.map {β : Type} (f : α → β) : StepEnd σ τ α → StepEnd σ τ β
  | .returned a => .returned (f a)
  | .panicked t => .panicked t
  | .abandoned later => .abandoned later

@[simp] theorem events_settle (f : Act σ τ Unit) (x : StepEnd σ τ α) (s : σ) :
    (x.settle f).events s = f.events s ++ x.late (f.final s) := by
  cases x <;> simp [StepEnd.settle, StepEnd.late]

@[simp] theorem result_settle (f : Act σ τ Unit) (x : StepEnd σ τ α) (s : σ) :
    (x.settle f).result s = x.ending := by
  cases x <;> rfl

/-- The turn of a tunnel, taken by itself: a failure lets the next tunnel have its turn. -/
def takeTurn (c : Collaborators σ τ) (o : Order) (i : Instance τ) :
    Act σ τ (StepEnd σ τ (Except Failure Outcome)) := do
  if ← c.askStop then
    c.discard i
    pure (.returned (.ok .cancelled))
  else
    match ← Connection.acquire c o.session i with
    | .returned (.error e) => pure (.returned (.error e))
    | .panicked t => pure (.panicked t)
    | .abandoned later => pure (.abandoned later)
    | .returned (.ok ()) =>
      if ← c.askStop then
        pure (Connection.releasedBy (.returned (.ok .cancelled)) (← Connection.release c i))
      else
        pure ((← Connection.run c i (c.send (o.attemptOver c i))).map (Except.map .success))

def afterTurn (c : Collaborators σ τ) (o : Order) (fs : List FailedPath) (i : Instance τ)
    (rest : List (Instance τ)) : StepEnd σ τ (Except Failure Outcome) → Act σ τ (Ending Answer)
  | .returned (.error e) => tryTunnels c o (fs ++ [⟨c.pathOver i, e⟩]) rest
  | .returned (.ok x) => StepEnd.settle (c.discardAll rest) (.returned (.ok x))
  | .panicked t => StepEnd.settle (c.discardAll rest) (.panicked t)
  | .abandoned later => StepEnd.settle (c.discardAll rest) (.abandoned later)

theorem tryTunnels_cons (c : Collaborators σ τ) (o : Order) (fs : List FailedPath) (i : Instance τ)
    (rest : List (Instance τ)) :
    tryTunnels c o fs (i :: rest) = takeTurn c o i >>= afterTurn c o fs i rest := by
  funext s
  simp only [tryTunnels, takeTurn, Act.bind_apply]
  cases (c.askStop s).1 with
  | true => simp [Collaborators.discardAll, afterTurn, StepEnd.settle, done]
  | false =>
      simp only [Bool.false_eq_true, if_false, Act.bind_apply]
      rcases (Connection.acquire c o.session i (c.askStop s).2.2).1 with ⟨_ | _⟩ | _ | _
      · simp [afterTurn, Collaborators.pathOver]
      · simp only [Act.bind_apply]
        generalize (Connection.acquire c o.session i (c.askStop s).2.2).2.2 = s₁
        cases (c.askStop s₁).1 with
        | true =>
            simp only [if_true, Act.bind_apply]
            cases (Connection.release c i (c.askStop s₁).2.2).1 <;>
              simp [afterTurn, Connection.releasedBy]
        | false =>
            simp only [Bool.false_eq_true, if_false, Act.bind_apply, Order.attemptOver]
            rcases (Connection.run c i (c.send (o.carriedAttempt (c.routesThroughLocalProxy i.tunnel)
              (.temporary i))) (c.askStop s₁).2.2).1 with ⟨_ | _⟩ | _ | _ <;>
              simp [afterTurn, StepEnd.map, Except.map, Collaborators.pathOver]
      · simp [afterTurn]
      · simp [afterTurn]

/-- What a reply to an attempt makes of a turn. -/
def Reply.verdict : Reply Bytes → Ending (Except Failure Outcome)
  | .ok b => .returned (.ok (.success b))
  | .error e => .returned (.error e)
  | .panic t => .panicked t
  | .hang => .abandoned

/-- An ending after a release, which has the last word unless it returns. -/
def Ending.releasedBy (x : Ending α) : StepEnd σ τ Unit → Ending α
  | .returned () => x
  | .panicked t => .panicked t
  | .abandoned _ => .abandoned

theorem ending_releasedBy (x : StepEnd σ τ α) (y : StepEnd σ τ Unit) :
    (Connection.releasedBy x y).ending = x.ending.releasedBy y := by
  cases y <;> rfl

theorem ending_map_releasedBy (r : Reply Bytes) (y : StepEnd σ τ Unit) :
    ((Connection.releasedBy (Connection.stepOf r) y).map (Except.map Outcome.success)).ending =
      r.verdict.releasedBy y := by
  cases y <;> cases r <;> rfl

/-- A release leaves nothing to the background. -/
theorem Connection.ReleaseExec.late {i : Instance τ} {es : List (Event τ)} {y : StepEnd σ τ Unit}
    (h : ReleaseExec i es y) (s : σ) : y.late s = [] := by
  cases h <;> rfl

theorem late_releasedBy {x : StepEnd σ τ α} {y : StepEnd σ τ Unit} {s : σ} (hx : x.late s = [])
    (hy : y.late s = []) : (Connection.releasedBy x y).late s = [] := by
  cases y with
  | abandoned later => exact hy
  | returned => exact hx
  | panicked t => rfl

theorem late_stepOf (r : Reply α) (s : σ) : (Connection.stepOf r : StepEnd σ τ _).late s = [] := by
  cases r <;> rfl

theorem late_map {β : Type} (f : α → β) (x : StepEnd σ τ α) (s : σ) : (x.map f).late s = x.late s := by
  cases x <;> rfl

/-- What is done at once and in the background with a tunnel whose attempt never ends. -/
inductive LeaveExec (c : Collaborators σ τ) (i : Instance τ) :
    List (Event τ) → List (Event τ) → Prop
  | released {r : Reply Unit} : c.background = true → r ≠ .hang →
      LeaveExec c i [] [.disconnect i r, .dispose i]
  | hung : c.background = true → LeaveExec c i [] [.disconnect i .hang]
  | alone : c.background = false → LeaveExec c i [.dispose i] []

theorem leave_exec (c : Collaborators σ τ) (i : Instance τ) {es : List (Event τ)} {later : Act σ τ Unit}
    (h : Connection.DropExec c i es later) (s : σ) : LeaveExec c i es (later.events s) := by
  cases h with
  | alone h => exact .alone h
  | background h =>
      simp only [Connection.releaseInBackground, Collaborators.takeDown, Act.events_bind, Act.events_call,
        Act.result_call]
      cases (c.disconnect i s).1 with
      | hang => exact .hung h
      | _ => exact .released h nofun

/-- The turn of a tunnel: its events, what comes of it, and what is done in the background after the run. -/
inductive TurnExec (c : Collaborators σ τ) (o : Order) (i : Instance τ) :
    List (Event τ) → Ending (Except Failure Outcome) → List (Event τ) → Prop
  | stopped : TurnExec c o i [.poll true, .dispose i] (.returned (.ok .cancelled)) []
  | refused : TurnExec c o i [.poll false, .handshake i true, .dispose i]
      (.returned (.error (Connection.handshakeFailure (c.name i.tunnel)))) []
  | unreachable (e : Failure) :
      TurnExec c o i [.poll false, .handshake i false, .connect i (.error e), .dispose i]
        (.returned (.error e)) []
  | connectPanicked (t : String) :
      TurnExec c o i [.poll false, .handshake i false, .connect i (.panic t), .dispose i]
        (.panicked t) []
  | connectAbandoned :
      TurnExec c o i [.poll false, .handshake i false, .connect i .hang, .abandon, .dispose i]
        .abandoned []
  | unused {es : List (Event τ)} {x : StepEnd σ τ Unit} : Connection.ReleaseExec i es x →
      TurnExec c o i (.poll false :: .handshake i false :: .connect i (.ok ()) :: .poll true :: es)
        (Ending.releasedBy (.returned (.ok .cancelled)) x) []
  | used {r : Reply Bytes} {es : List (Event τ)} {x : StepEnd σ τ Unit} : r ≠ .hang →
      Connection.ReleaseExec i es x →
      TurnExec c o i (.poll false :: .handshake i false :: .connect i (.ok ()) :: .poll false ::
        .attempt (o.attemptOver c i) r :: es) (r.verdict.releasedBy x) []
  | left {es late : List (Event τ)} : LeaveExec c i es late →
      TurnExec c o i (.poll false :: .handshake i false :: .connect i (.ok ()) :: .poll false ::
        .attempt (o.attemptOver c i) .hang :: .abandon :: es) .abandoned late

theorem takeTurn_exec (c : Collaborators σ τ) (o : Order) (i : Instance τ) (s s' : σ) :
    TurnExec c o i ((takeTurn c o i).events s) ((takeTurn c o i).result s).ending
      (((takeTurn c o i).result s).late s') := by
  cases hp : (c.poll s).1 with
  | true =>
      simp only [takeTurn, Collaborators.askStop, Collaborators.discard, Act.events_bind, Act.result_bind,
        Act.events_call, Act.result_call, hp, if_true]
      exact .stopped
  | false =>
      simp only [takeTurn, Collaborators.askStop, Act.events_bind, Act.result_bind, Act.events_call,
        Act.result_call, Act.final_call, hp, Bool.false_eq_true, if_false]
      have ha := Connection.acquire_exec c o.session i (c.poll s).2
      generalize (Connection.acquire c o.session i).final (c.poll s).2 = s₁
      generalize (Connection.acquire c o.session i).events (c.poll s).2 = es at ha ⊢
      generalize (Connection.acquire c o.session i).result (c.poll s).2 = x at ha ⊢
      cases ha with
      | refused => exact .refused
      | unreachable e => exact .unreachable e
      | panicked t => exact .connectPanicked t
      | abandoned => exact .connectAbandoned
      | connected =>
          cases hq : (c.poll s₁).1 with
          | true =>
              have hr := Connection.release_exec c i (c.poll s₁).2
              simp only [Act.events_bind, Act.result_bind, Act.events_call, Act.result_call, Act.final_call,
                Act.events_pure, Act.result_pure, hq, if_true, List.append_nil]
              rw [ending_releasedBy, late_releasedBy rfl (hr.late s')]
              exact .unused hr
          | false =>
              have hr := Connection.run_exec c i (o.attemptOver c i) (c.poll s₁).2
              simp only [Act.events_bind, Act.result_bind, Act.events_call, Act.result_call, Act.final_call,
                Act.events_pure, Act.result_pure, hq, Bool.false_eq_true, if_false, List.append_nil]
              generalize (Connection.run c i (c.send (o.attemptOver c i))).events (c.poll s₁).2 = es at hr ⊢
              generalize (Connection.run c i (c.send (o.attemptOver c i))).result (c.poll s₁).2 = x at hr ⊢
              cases hr with
              | settled hne hr =>
                  rw [ending_map_releasedBy, late_map, late_releasedBy (late_stepOf _ s') (hr.late s')]
                  exact .used hne hr
              | abandoned hd => exact .left (leave_exec c i hd s')

/-- The end of the run that a turn brings about, unless the next tunnel has its turn. -/
def Ending.closing? : Ending (Except Failure Outcome) → Option (Ending Answer)
  | .returned (.ok x) => some (done x)
  | .returned (.error _) => none
  | .panicked t => some (.panicked t)
  | .abandoned => some .abandoned

/-- The turns of several tunnels. Once the run is over, those that are left are given up. -/
inductive TunnelsExec (c : Collaborators σ τ) (o : Order) :
    List FailedPath → List (Instance τ) → List (Event τ) → Ending Answer → Prop
  | exhausted (fs : List FailedPath) : TunnelsExec c o fs [] [] (done (.failed (.exhausted fs)))
  | next {fs : List FailedPath} {i : Instance τ} {rest : List (Instance τ)} {e : Failure}
      {es es' : List (Event τ)} {x : Ending Answer} :
      TurnExec c o i es (.returned (.error e)) [] →
      TunnelsExec c o (fs ++ [⟨c.pathOver i, e⟩]) rest es' x →
      TunnelsExec c o fs (i :: rest) (es ++ es') x
  | last (fs : List FailedPath) {i : Instance τ} (rest : List (Instance τ)) {es late : List (Event τ)}
      {x : Ending (Except Failure Outcome)} {y : Ending Answer} :
      TurnExec c o i es x late → x.closing? = some y →
      TunnelsExec c o fs (i :: rest) (es ++ (rest.map .dispose ++ late)) y

theorem tryTunnels_exec (c : Collaborators σ τ) (o : Order) (fs : List FailedPath)
    (is : List (Instance τ)) (s : σ) :
    TunnelsExec c o fs is ((tryTunnels c o fs is).events s) ((tryTunnels c o fs is).result s) := by
  induction is generalizing fs s with
  | nil => exact .exhausted fs
  | cons i rest ih =>
      rw [tryTunnels_cons, Act.events_bind, Act.result_bind]
      have ht := takeTurn_exec c o i s
      generalize (takeTurn c o i).final s = s₁
      generalize (takeTurn c o i).events s = es at ht ⊢
      generalize (takeTurn c o i).result s = x at ht ⊢
      -- Only a failure lets the next tunnel have its turn; what is left to do waits for the rest to go.
      rcases x with ⟨e | b⟩ | t | later
      · exact .next (ht s₁) (ih _ _)
      · simp only [afterTurn, events_settle, result_settle, Collaborators.events_discardAll]
        exact .last fs rest (ht s₁) rfl
      · simp only [afterTurn, events_settle, result_settle, Collaborators.events_discardAll]
        exact .last fs rest (ht s₁) rfl
      · simp only [afterTurn, events_settle, result_settle, Collaborators.events_discardAll]
        exact .last fs rest (ht _) rfl

inductive CurrentExec (a : Attempt τ) : List (Event τ) → Ending Answer → Prop
  | succeeded (b : Bytes) : CurrentExec a [.attempt a (.ok b)] (done (.success b))
  | failed (e : Failure) : CurrentExec a [.attempt a (.error e)] (done (.failed (.request e)))
  | panicked (t : String) : CurrentExec a [.attempt a (.panic t)] (.panicked t)
  | abandoned : CurrentExec a [.attempt a .hang, .abandon] .abandoned

def Order.currentAttempt (o : Order) (c : Collaborators σ τ) (t : τ) : Attempt τ :=
  o.carriedAttempt (c.routesThroughLocalProxy t) (.current t)

theorem tryCurrent_exec (c : Collaborators σ τ) (o : Order) (t : τ) (s : σ) :
    CurrentExec (o.currentAttempt c t) ((tryCurrent c o t).events s) ((tryCurrent c o t).result s) := by
  simp only [tryCurrent, Collaborators.send, Act.events_bind, Act.result_bind, Act.events_call,
    Act.result_call]
  change CurrentExec (o.currentAttempt c t) ([.attempt (o.currentAttempt c t) _] ++ _) _
  generalize (c.attempt _ s).1 = r
  cases r with
  | ok b => exact .succeeded b
  | error e => exact .failed e
  | panic t => exact .panicked t
  | hang => exact .abandoned

def upAtStart (c : Collaborators σ τ) (current : Option τ) (s : σ) : Option τ :=
  current.filter fun t => c.isConnected t (c.poll s).2

/-- The run looks for a path of its own. -/
structure Searches (c : Collaborators σ τ) (o : Order) (current : Option τ) (s : σ) : Prop where
  valid : o.parameters.fault? = none
  allowed : o.allowTemporary = true
  alone : upAtStart c current s = none

inductive RunExec (c : Collaborators σ τ) (o : Order) (current : Option τ) (s : σ) :
    List (Event τ) → Ending Answer → Prop
  | stopped : RunExec c o current s [.poll true] (done .cancelled)
  | invalid {e : ParameterFault} : o.parameters.fault? = some e →
      RunExec c o current s [.poll false] (.returned (.error e))
  | current {t : τ} {es : List (Event τ)} {x : Ending Answer} : o.parameters.fault? = none →
      upAtStart c current s = some t → CurrentExec (o.currentAttempt c t) es x →
      RunExec c o current s (.poll false :: es) x
  | disallowed : o.parameters.fault? = none → o.allowTemporary = false →
      upAtStart c current s = none →
      RunExec c o current s [.poll false] (done (.failed .temporaryDisallowed))
  | direct {es : List (Event τ)} {x : Ending Answer} : Searches c o current s →
      DirectExec o [] o.session.directPorts es (.ended x) →
      RunExec c o current s (.poll false :: es) x
  | noEligible {es ss : List (Event τ)} {fs : List FailedPath} : Searches c o current s →
      DirectExec o [] o.session.directPorts es (.failed fs) →
      SelectExec (c.handedOut (replay c o.session (.poll false :: es) s)) ss [] →
      RunExec c o current s (.poll false :: (es ++ .enumerate :: ss)) (done (.failed (.noEligible fs)))
  | tunnels {es ss ts : List (Event τ)} {fs : List FailedPath} {kept : List (Instance τ)}
      {x : Ending Answer} : Searches c o current s →
      DirectExec o [] o.session.directPorts es (.failed fs) →
      SelectExec (c.handedOut (replay c o.session (.poll false :: es) s)) ss kept → kept ≠ [] →
      TunnelsExec c o fs kept ts x →
      RunExec c o current s (.poll false :: (es ++ .enumerate :: (ss ++ ts))) x

theorem tryAll_exec (c : Collaborators σ τ) (o : Order) (current : Option τ) (s : σ)
    (h : Searches c o current s) :
    RunExec c o current s (.poll false :: (tryAll c o).events (c.poll s).2)
      ((tryAll c o).result (c.poll s).2) := by
  have hd := tryDirect_exec c o [] o.session.directPorts (c.poll s).2
  have hs := final_tryDirect c o [] o.session.directPorts (c.poll s).2
  simp only [tryAll, Act.events_bind, Act.result_bind]
  generalize (tryDirect c o [] o.session.directPorts).final (c.poll s).2 = s₁ at hs ⊢
  generalize (tryDirect c o [] o.session.directPorts).events (c.poll s).2 = es at hd hs ⊢
  generalize (tryDirect c o [] o.session.directPorts).result (c.poll s).2 = x at hd ⊢
  subst hs
  cases x with
  | ended x => simpa using RunExec.direct h hd
  | failed fs =>
      have hk := keepEligible_exec c o.session (c.handedOut (replay c o.session es (c.poll s).2))
        (c.enumerate (replay c o.session es (c.poll s).2)).2
      simp only [select, Act.events_bind, Act.result_bind, Act.final_bind, Collaborators.events_askCatalog,
        Collaborators.result_askCatalog, Collaborators.final_askCatalog, List.cons_append, List.nil_append]
      generalize (keepEligible c o.session _).final _ = s₂
      generalize (keepEligible c o.session _).events _ = ss at hk ⊢
      generalize (keepEligible c o.session _).result _ = kept at hk ⊢
      cases kept with
      | nil => simpa using RunExec.noEligible h hd hk
      | cons i rest => exact .tunnels h hd hk nofun (tryTunnels_exec c o fs (i :: rest) s₂)

theorem connected?_spec (c : Collaborators σ τ) (current : Option τ) (s : σ) :
    (connected? c current).events s = [] ∧
      (connected? c current).result s = (current.filter fun t => c.isConnected t s) ∧
      (connected? c current).final s = s := by
  cases current with
  | none => exact ⟨rfl, rfl, rfl⟩
  | some t => cases h : c.isConnected t s <;> simp [connected?, Option.filter, h]

theorem run_exec (c : Collaborators σ τ) (o : Order) (current : Option τ) (s : σ) :
    RunExec c o current s ((run c o current).events s) ((run c o current).result s) := by
  cases hp : (c.poll s).1 with
  | true =>
      simp only [run, Collaborators.askStop, Act.events_bind, Act.result_bind, Act.events_call,
        Act.result_call, hp, if_true]
      exact .stopped
  | false =>
      simp only [run, Collaborators.askStop, Act.events_bind, Act.result_bind, Act.events_call,
        Act.result_call, Act.final_call, hp, Bool.false_eq_true, if_false]
      cases hf : o.parameters.fault? with
      | some e => exact .invalid hf
      | none =>
          obtain ⟨he, hr, hs⟩ := connected?_spec c current (c.poll s).2
          simp only [Act.events_bind, Act.result_bind, he, hr, hs, List.nil_append]
          cases hu : current.filter fun t => c.isConnected t (c.poll s).2 with
          | some t => exact .current hf hu (tryCurrent_exec c o t _)
          | none =>
              cases ha : o.allowTemporary with
              | false => exact .disallowed hf ha hu
              | true => exact tryAll_exec c o current s ⟨hf, ha, hu⟩

end RouteCascade.Cascade
