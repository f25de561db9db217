import RouteCascade.Cascade.Slots
import RouteCascade.Proofs.Cascade.Log

/-!
# The life of a connection

Steps over any number of connections side by side. What happens to the tunnel of one slot is one of a
few short stories, whatever is done with the other slots in between: it is connected at most once, and
told to disconnect once, when its slot is emptied.
-/
namespace RouteCascade.Cascade

open Text Net

variable {σ τ α : Type}

/-- How a call ends for whoever waits for it. -/
def Reply.ending : Reply α → Ending (Except Failure α)
  | .ok a => .returned (.ok a)
  | .error e => .returned (.error e)
  | .panic t => .panicked t
  | .hang => .abandoned

/-- An ending after a disconnection, which has the last word unless it came back. -/
def Ending.overruledBy (x : Ending α) : Reply Unit → Ending α
  | .ok _ | .error _ => x
  | .panic t => .panicked t
  | .hang => .abandoned

/-- A tunnel is disconnected while somebody waits for it, and given up then. -/
def releasing (i : Instance τ) : Reply Unit → List (Event τ)
  | .hang => [.disconnect i .hang, .abandon, .dispose i]
  | d => [.disconnect i d, .dispose i]

/-- A tunnel is let go: it is disconnected in the background, if there is one. -/
def lettingGo (c : Collaborators σ τ) (i : Instance τ) (d : Reply Unit) : List (Event τ) :=
  if c.background then
    match d with
    | .hang => [.disconnect i .hang]
    | d => [.disconnect i d, .dispose i]
  else [.dispose i]

def Event.handles (n : Nat) : Event τ → Bool
  | .handshake i _ | .connect i _ | .disconnect i _ | .dispose i => i.number == n
  | _ => false

/-- The attempt of a step does nothing to tunnels itself. -/
def SlotStep.IsPlain : SlotStep σ τ → Prop
  | .run _ attempt => ∀ s, ∀ e ∈ attempt.events s, ∀ n, e.handles n = false
  | _ => True

def SlotStep.empties? : SlotStep σ τ → Option Nat
  | .run n _ | .release n | .drop n => some n
  | .acquire .. => none

/-- How a tunnel is given up that was not connected. -/
inductive Rejection (i : Instance τ) : List (Event τ) → Prop
  | refused : Rejection i [.handshake i true, .dispose i]
  | failed {r : Reply Unit} : r ≠ .ok () →
      Rejection i [.handshake i false, .connect i r, .dispose i]

/-- How the connection of a tunnel ends. -/
inductive Closing (c : Collaborators σ τ) (i : Instance τ) : List (Event τ) → Prop
  | released (d : Reply Unit) : Closing c i [.disconnect i d, .dispose i]
  | hung : c.background = true → Closing c i [.disconnect i .hang]
  | alone : c.background = false → Closing c i [.dispose i]

/-- What can have happened to the tunnel of a slot, given what is in the slot. -/
inductive Story (c : Collaborators σ τ) (n : Nat) :
    Option (Option (Instance τ)) → List (Event τ) → Prop
  | unused : Story c n none []
  | rejected (t : τ) {es : List (Event τ)} : Rejection ⟨n, t⟩ es → Story c n (some none) es
  | held (t : τ) : Story c n (some (some ⟨n, t⟩)) [.handshake ⟨n, t⟩ false, .connect ⟨n, t⟩ (.ok ())]
  | closed (t : τ) {es : List (Event τ)} : Closing c ⟨n, t⟩ es →
      Story c n (some none) (.handshake ⟨n, t⟩ false :: .connect ⟨n, t⟩ (.ok ()) :: es)

namespace Connection
variable (c : Collaborators σ τ) (i : Instance τ) (s : σ)

theorem events_release : (release c i).events s = releasing i (c.disconnect i s).1 := by
  simp only [release, Collaborators.takeDown, Collaborators.discard, Act.events_bind, Act.result_call,
    Act.events_call, Act.final_call]
  cases (c.disconnect i s).1 <;> rfl

/-- A release ends as the disconnection does. -/
theorem releasedBy_release (x : Ending α) :
    x.releasedBy ((release c i).result s) = x.overruledBy (c.disconnect i s).1 := by
  simp only [release, Collaborators.takeDown, Act.result_bind, Act.result_call]
  cases (c.disconnect i s).1 <;> rfl

theorem late_release (s' : σ) : ((release c i).result s).late s' = [] :=
  (release_exec c i s).late s'

/-- Letting go of a tunnel, with what is left for later. -/
theorem events_drop : (drop c i).events s ++ ((drop c i).result s).events ((drop c i).final s) =
    lettingGo c i (c.disconnect i s).1 := by
  cases hb : c.background with
  | false => simp [drop, lettingGo, hb, Collaborators.discard, nothing]
  | true =>
      simp only [drop, lettingGo, hb, if_true, Act.events_pure, Act.result_pure, Act.final_pure,
        List.nil_append, releaseInBackground, Collaborators.takeDown, Collaborators.discard,
        Act.events_bind, Act.events_call, Act.result_call]
      cases (c.disconnect i s).1 <;> rfl

theorem ending_stepOf (r : Reply α) : (stepOf r : StepEnd σ τ _).ending = r.ending := by
  cases r <;> rfl

/-- Whatever an attempt came to, its tunnel is released after it. -/
theorem run_of_ne_hang (attempt : Act σ τ (Reply α)) (hr : attempt.result s ≠ .hang) :
    (run c i attempt).events s =
        attempt.events s ++ releasing i (c.disconnect i (attempt.final s)).1 ∧
      (run c i attempt).result s =
        releasedBy (stepOf (attempt.result s)) ((release c i).result (attempt.final s)) := by
  simp only [run, Act.events_bind, Act.result_bind]
  cases hx : attempt.result s with
  | hang => exact absurd hx hr
  | _ => simp [events_release, stepOf]

end Connection

namespace Slots

section Step
variable (c : Collaborators σ τ) {slots : Slots τ} {n : Nat} {i : Instance τ} (s : σ)

theorem step_release (h : slots[n]?.join = some i) :
    (step c slots (.release n)).events s = releasing i (c.disconnect i s).1 ∧
      (step c slots (.release n)).result s =
        (.released ((Ending.returned ()).overruledBy (c.disconnect i s).1), emptied slots n) := by
  have hx := Connection.releasedBy_release c i s (.returned ())
  have he : ((Connection.release c i).result s).ending =
      (Ending.returned ()).releasedBy ((Connection.release c i).result s) := by
    cases (Connection.release c i).result s <;> rfl
  simp [step, h, settled, Connection.events_release, Connection.late_release, he, hx]

theorem step_drop (h : slots[n]?.join = some i) :
    (step c slots (.drop n)).events s = lettingGo c i (c.disconnect i s).1 ∧
      (step c slots (.drop n)).result s = (.dropped, emptied slots n) := by
  simp [step, h, ← Connection.events_drop c i s]

theorem step_run (h : slots[n]?.join = some i) (attempt : Act σ τ (Reply Bytes))
    (hr : attempt.result s ≠ .hang) :
    (step c slots (.run n attempt)).events s =
        attempt.events s ++ releasing i (c.disconnect i (attempt.final s)).1 ∧
      (step c slots (.run n attempt)).result s =
        (.ran ((attempt.result s).ending.overruledBy (c.disconnect i (attempt.final s)).1),
          emptied slots n) := by
  obtain ⟨hev, hres⟩ := Connection.run_of_ne_hang c i s attempt hr
  have hl := fun s' => late_releasedBy (late_stepOf (attempt.result s) s')
    (Connection.late_release c i (attempt.final s) s')
  simp [step, h, settled, hev, hres, hl, ending_releasedBy, Connection.releasedBy_release,
    Connection.ending_stepOf]

theorem step_run_of_hang (h : slots[n]?.join = some i) (attempt : Act σ τ (Reply Bytes))
    (hr : attempt.result s = .hang) :
    (step c slots (.run n attempt)).events s =
        attempt.events s ++ .abandon :: lettingGo c i (c.disconnect i (attempt.final s)).1 ∧
      (step c slots (.run n attempt)).result s = (.ran .abandoned, emptied slots n) := by
  simp [step, h, Connection.run, settled, hr, StepEnd.late, StepEnd.ending, ← Connection.events_drop c i]

theorem step_of_empty (h : slots[n]?.join = none) {st : SlotStep σ τ} (hn : st.empties? = some n) :
    step c slots st s = ((.empty, slots), [], s) := by
  cases st with
  | acquire => cases hn
  | _ =>
      cases hn
      simp [step, h]

variable (slots) in
/-- A tunnel that is connected for a slot of its own, or is given up without that. -/
theorem step_acquire (session : Session) (t : τ) :
    (step c slots (.acquire session t)).result s =
          (.acquired (.returned (.ok t)), slots ++ [some ⟨slots.length, t⟩]) ∧
        (step c slots (.acquire session t)).events s =
          [.handshake ⟨slots.length, t⟩ false, .connect ⟨slots.length, t⟩ (.ok ())] ∨
      ∃ x, x ≠ .returned (.ok t) ∧
        (step c slots (.acquire session t)).result s = (.acquired x, slots ++ [none]) ∧
        Rejection ⟨slots.length, t⟩
          (((step c slots (.acquire session t)).events s).filter (Event.handles slots.length)) := by
  have ha := Connection.acquire_exec c session ⟨slots.length, t⟩ s
  simp only [step, Act.events_bind, Act.result_bind, settled]
  generalize (Connection.acquire c session ⟨slots.length, t⟩).events s = es at ha ⊢
  generalize (Connection.acquire c session ⟨slots.length, t⟩).result s = x at ha ⊢
  cases ha with
  | connected => exact .inl ⟨rfl, rfl⟩
  | refused =>
      refine .inr ⟨.returned (.error (Connection.handshakeFailure (c.name t))), by simp, rfl, ?_⟩
      simpa [StepEnd.settle, Event.handles] using Rejection.refused
  | unreachable e =>
      have hs : Rejection (⟨slots.length, t⟩ : Instance τ) _ := .failed (r := .error e) (by simp)
      exact .inr ⟨.returned (.error e), by simp, rfl, by simpa [StepEnd.settle, Event.handles] using hs⟩
  | panicked m =>
      have hs : Rejection (⟨slots.length, t⟩ : Instance τ) _ := .failed (r := .panic m) (by simp)
      exact .inr ⟨.panicked m, by simp, rfl, by simpa [StepEnd.settle, Event.handles] using hs⟩
  | abandoned =>
      have hs : Rejection (⟨slots.length, t⟩ : Instance τ) _ := .failed (r := .hang) (by simp)
      exact .inr ⟨.abandoned, by simp, rfl,
        by simpa [StepEnd.settle, Event.handles, Connection.nothing] using hs⟩

variable (slots) in
/-- Connecting a tunnel for a slot does nothing to those of the other slots. -/
theorem filter_acquire (session : Session) (t : τ) {m : Nat} (hm : m ≠ slots.length) :
    ((step c slots (.acquire session t)).events s).filter (Event.handles m) = [] := by
  have ha := Connection.acquire_exec c session ⟨slots.length, t⟩ s
  simp only [step, Act.events_bind, settled]
  generalize (Connection.acquire c session ⟨slots.length, t⟩).events s = es at ha ⊢
  generalize (Connection.acquire c session ⟨slots.length, t⟩).result s = x at ha ⊢
  cases ha <;> simp [StepEnd.settle, Event.handles, Connection.nothing, hm.symm]

end Step

/-- What is in the slots goes with what a log tells of their tunnels. -/
def Fits (c : Collaborators σ τ) (slots : Slots τ) (log : List (Event τ)) : Prop :=
  ∀ n, Story c n slots[n]? (log.filter (Event.handles n))

section Fits
variable {c : Collaborators σ τ} {slots : Slots τ} {log es cl : List (Event τ)} {n : Nat} {i : Instance τ}

/-- What is in a slot bears its number. -/
theorem Fits.number (h : Fits c slots log) (hn : slots[n]? = some (some i)) : i.number = n := by
  have hs := h n
  rw [hn] at hs
  generalize log.filter (Event.handles n) = before at hs
  cases hs
  rfl

theorem Fits.append (h : Fits c slots log) {x : Option (Instance τ)}
    (hx : Story c slots.length (some x) (es.filter (Event.handles slots.length)))
    (hm : ∀ m, m ≠ slots.length → es.filter (Event.handles m) = []) :
    Fits c (slots ++ [x]) (log ++ es) := by
  intro m
  have hs := h m
  rw [List.filter_append]
  by_cases hml : m = slots.length
  · subst hml
    rw [List.getElem?_eq_none (Nat.le_refl _)] at hs
    generalize log.filter (Event.handles slots.length) = before at hs ⊢
    cases hs
    simpa using hx
  · rw [hm m hml, List.append_nil]
    rcases Nat.lt_or_gt_of_ne hml with hlt | hgt
    · rwa [List.getElem?_append_left hlt]
    · rw [List.getElem?_eq_none (by omega)] at hs
      rwa [List.getElem?_eq_none (by simp; omega)]

theorem Fits.emptied (h : Fits c slots log) (hn : slots[n]? = some (some i)) (hc : Closing c i cl)
    (hes : ∀ m, es.filter (Event.handles m) = if i.number = m then cl else []) :
    Fits c (emptied slots n) (log ++ es) := by
  intro m
  have hs := h m
  have hi := h.number hn
  rw [List.filter_append, hes m, Slots.emptied]
  by_cases hmn : n = m
  · subst hmn
    rw [hn] at hs
    generalize log.filter (Event.handles n) = before at hs ⊢
    cases hs with
    | held t =>
        have hlt : n < slots.length := (List.getElem?_eq_some_iff.mp hn).1
        rw [List.getElem?_set_self hlt, if_pos hi]
        exact .closed t hc
  · rw [List.getElem?_set_ne hmn, if_neg (by omega), List.append_nil]
    exact hs

theorem filter_releasing (i : Instance τ) (d : Reply Unit) (m : Nat) :
    (releasing i d).filter (Event.handles m) =
      if i.number = m then [.disconnect i d, .dispose i] else [] := by
  by_cases hm : i.number = m <;> cases d <;> simp [releasing, Event.handles, hm]

theorem filter_lettingGo (c : Collaborators σ τ) (i : Instance τ) (d : Reply Unit) (m : Nat) :
    (lettingGo c i d).filter (Event.handles m) = if i.number = m then lettingGo c i d else [] := by
  by_cases hm : i.number = m <;> cases hb : c.background <;> cases d <;>
    simp [lettingGo, Event.handles, hm, hb]

theorem closing_lettingGo (c : Collaborators σ τ) (i : Instance τ) (d : Reply Unit) :
    Closing c i (lettingGo c i d) := by
  cases hb : c.background with
  | false => simpa [lettingGo, hb] using Closing.alone hb
  | true =>
      cases d with
      | hang => simpa [lettingGo, hb] using Closing.hung hb
      | _ => simpa [lettingGo, hb] using Closing.released _

/-- An empty slot cannot be emptied again. -/
theorem Fits.of_empty (h : Fits c slots log) {st : SlotStep σ τ} (s : σ) (hj : slots[n]?.join = none)
    (hn : st.empties? = some n) :
    Fits c ((Slots.step c slots st).result s).2 (log ++ (Slots.step c slots st).events s) := by
  have hs := step_of_empty c s hj hn
  rw [Act.result, Act.events, hs]
  simpa using h

/-- A step keeps the stories of all slots. -/
theorem Fits.step (h : Fits c slots log) {st : SlotStep σ τ} (hp : st.IsPlain) (s : σ) :
    Fits c ((Slots.step c slots st).result s).2 (log ++ (Slots.step c slots st).events s) := by
  cases st with
  | acquire session t =>
      have hm := fun m => filter_acquire c slots s session t (m := m)
      rcases step_acquire c slots s session t with ⟨hr, he⟩ | ⟨x, -, hr, he⟩
      · rw [hr]
        refine h.append ?_ hm
        rw [he]
        simpa [Event.handles] using Story.held t
      · rw [hr]
        exact h.append (.rejected t he) hm
  | run n attempt =>
      cases hj : slots[n]?.join with
      | none => exact h.of_empty s hj rfl
      | some i =>
          have hn : slots[n]? = some (some i) := Option.join_eq_some_iff.mp hj
          -- The attempt itself is no part of the story.
          have hf : ∀ m, (attempt.events s).filter (Event.handles m) = [] := fun m =>
            List.filter_eq_nil_iff.mpr fun e he => by simp [hp s e he m]
          by_cases hr : attempt.result s = .hang
          · obtain ⟨he, hx⟩ := step_run_of_hang c s hj attempt hr
            rw [he, hx]
            refine h.emptied hn (closing_lettingGo c i (c.disconnect i (attempt.final s)).1) fun m => ?_
            rw [List.filter_append, hf m]
            exact filter_lettingGo c i _ m
          · obtain ⟨he, hx⟩ := step_run c s hj attempt hr
            rw [he, hx]
            refine h.emptied hn (.released (c.disconnect i (attempt.final s)).1) fun m => ?_
            rw [List.filter_append, hf m]
            exact filter_releasing i _ m
  | release n =>
      cases hj : slots[n]?.join with
      | none => exact h.of_empty s hj rfl
      | some i =>
          obtain ⟨he, hx⟩ := step_release c s hj
          rw [he, hx]
          exact h.emptied (Option.join_eq_some_iff.mp hj) (.released _) (filter_releasing i _)
  | drop n =>
      cases hj : slots[n]?.join with
      | none => exact h.of_empty s hj rfl
      | some i =>
          obtain ⟨he, hx⟩ := step_drop c s hj
          rw [he, hx]
          exact h.emptied (Option.join_eq_some_iff.mp hj) (closing_lettingGo c i _) (filter_lettingGo c i _)

theorem Fits.steps (h : Fits c slots log) {sts : List (SlotStep σ τ)} (hp : ∀ st ∈ sts, st.IsPlain) (s : σ) :
    Fits c ((Slots.steps c slots sts).result s).2 (log ++ (Slots.steps c slots sts).events s) := by
  induction sts generalizing slots log s with
  | nil => simpa [Slots.steps] using h
  | cons st sts ih =>
      obtain ⟨hst, hsts⟩ := List.forall_mem_cons.mp hp
      simpa [Slots.steps] using ih (h.step hst s) hsts ((Slots.step c slots st).final s)

end Fits

end Slots

/-- The step lets go of a connection that was not released. -/
def SlotStep.LetsGo (slots : Slots τ) (s : σ) : SlotStep σ τ → Prop
  | .drop n => slots[n]?.join ≠ none
  | .run n attempt => slots[n]?.join ≠ none ∧ attempt.result s = .hang
  | _ => False

/-- Whether there is a background matters only to a step that lets go of a connection. -/
theorem Slots.step_background (c : Collaborators σ τ) (b : Bool) (slots : Slots τ) (s : σ) {st : SlotStep σ τ}
    (h : ¬ st.LetsGo slots s) : step { c with background := b } slots st s = step c slots st s := by
  cases st with
  | acquire session t => rfl
  | release n => rfl
  | drop n =>
      have hn : slots[n]?.join = none := by simpa [SlotStep.LetsGo] using h
      simp [step, hn]
  | run n attempt =>
      cases hn : slots[n]?.join with
      | none => simp [step, hn]
      | some i =>
          have hr : attempt.result s ≠ .hang := by simpa [SlotStep.LetsGo, hn] using h
          have hrun : Connection.run { c with background := b } i attempt s =
              Connection.run c i attempt s := by
            simp only [Connection.run, Act.bind_apply]
            cases hx : (attempt s).1 with
            | hang => exact absurd hx hr
            | _ => rfl
          simp only [step, hn, Act.bind_apply, hrun]

/-- What one step comes to, whatever is in the slots. -/
structure StepLaws (c : Collaborators σ τ) (slots : Slots τ) (s : σ) : Prop where
  acquires : ∀ session t,
    (Slots.step c slots (.acquire session t)).result s =
          (.acquired (.returned (.ok t)), slots ++ [some ⟨slots.length, t⟩]) ∧
        (Slots.step c slots (.acquire session t)).events s =
          [.handshake ⟨slots.length, t⟩ false, .connect ⟨slots.length, t⟩ (.ok ())] ∨
      ∃ x, x ≠ .returned (.ok t) ∧
        (Slots.step c slots (.acquire session t)).result s = (.acquired x, slots ++ [none]) ∧
        Rejection ⟨slots.length, t⟩
          (((Slots.step c slots (.acquire session t)).events s).filter (Event.handles slots.length))
  /-- The attempt is over when the tunnel is disconnected, and its end is kept if that comes back. -/
  runs : ∀ n i attempt, slots[n]?.join = some i → attempt.result s ≠ .hang →
    (Slots.step c slots (.run n attempt)).events s =
        attempt.events s ++ releasing i (c.disconnect i (attempt.final s)).1 ∧
      (Slots.step c slots (.run n attempt)).result s =
        (.ran ((attempt.result s).ending.overruledBy (c.disconnect i (attempt.final s)).1),
          slots.emptied n)
  leaves : ∀ n i attempt, slots[n]?.join = some i → attempt.result s = .hang →
    (Slots.step c slots (.run n attempt)).events s =
        attempt.events s ++ .abandon :: lettingGo c i (c.disconnect i (attempt.final s)).1 ∧
      (Slots.step c slots (.run n attempt)).result s = (.ran .abandoned, slots.emptied n)
  releases : ∀ n i, slots[n]?.join = some i →
    (Slots.step c slots (.release n)).events s = releasing i (c.disconnect i s).1 ∧
      (Slots.step c slots (.release n)).result s =
        (.released ((Ending.returned ()).overruledBy (c.disconnect i s).1), slots.emptied n)
  drops : ∀ n i, slots[n]?.join = some i →
    (Slots.step c slots (.drop n)).events s = lettingGo c i (c.disconnect i s).1 ∧
      (Slots.step c slots (.drop n)).result s = (.dropped, slots.emptied n)
  empty : ∀ n (st : SlotStep σ τ), slots[n]?.join = none → st.empties? = some n →
    Slots.step c slots st s = ((.empty, slots), [], s)
  background : ∀ b (st : SlotStep σ τ), ¬ st.LetsGo slots s →
    Slots.step { c with background := b } slots st s = Slots.step c slots st s

theorem stepLaws (c : Collaborators σ τ) (slots : Slots τ) (s : σ) : StepLaws c slots s where
  acquires := Slots.step_acquire c slots s
  runs := fun _ _ attempt h hr => Slots.step_run c s h attempt hr
  leaves := fun _ _ attempt h hr => Slots.step_run_of_hang c s h attempt hr
  releases := fun _ _ h => Slots.step_release c s h
  drops := fun _ _ h => Slots.step_drop c s h
  empty := fun _ _ h hn => Slots.step_of_empty c s h hn
  background := fun b _ h => Slots.step_background c b slots s h

section Counts
variable {c : Collaborators σ τ} {slots : Slots τ} {log : List (Event τ)}

/-- What is counted of the tunnel of a slot is counted in its story. -/
theorem countP_story {p : Event τ → Bool} {n : Nat} (hp : ∀ e, p e = true → e.handles n = true)
    (log : List (Event τ)) : (log.filter (Event.handles n)).countP p = log.countP p := by
  rw [List.countP_filter]
  refine List.countP_congr fun e _ => ?_
  simp only [Bool.and_eq_true, and_iff_left_iff_imp]
  exact hp e

theorem handles_of_connects {n : Nat} (e : Event τ) (h : e.connects n = true) : e.handles n = true := by
  cases e <;> first | exact h | cases h

theorem handles_of_disconnects {n : Nat} (e : Event τ) (h : e.disconnects n = true) :
    e.handles n = true := by
  cases e <;> first | exact h | cases h

theorem handles_of_opens {n : Nat} (e : Event τ) (h : e.opens n = true) : e.handles n = true := by
  cases e with
  | connect i r => cases r <;> first | exact h | cases h
  | _ => cases h

theorem Rejection.counts {i : Instance τ} {es : List (Event τ)} (h : Rejection i es) :
    es.countP (Event.connects i.number) ≤ 1 ∧ es.countP (Event.opens i.number) = 0 ∧
      es.countP (Event.disconnects i.number) = 0 := by
  cases h with
  | refused => simp [Event.connects, Event.opens, Event.disconnects]
  | @failed r hr => cases r <;> simp_all [Event.connects, Event.opens, Event.disconnects]

theorem Closing.counts {i : Instance τ} {es : List (Event τ)} (h : Closing c i es) :
    es.countP (Event.connects i.number) = 0 ∧ es.countP (Event.opens i.number) = 0 ∧
      es.countP (Event.disconnects i.number) ≤ 1 ∧
      (c.background = true → es.countP (Event.disconnects i.number) = 1) := by
  cases h <;> simp_all [Event.connects, Event.opens, Event.disconnects]

/-- In a story the tunnel is connected once at most, and disconnected only if that worked. -/
theorem Story.counts {n : Nat} {slot : Option (Option (Instance τ))} {es : List (Event τ)}
    (h : Story c n slot es) :
    es.countP (Event.connects n) ≤ 1 ∧
      es.countP (Event.disconnects n) ≤ es.countP (Event.opens n) ∧ es.countP (Event.opens n) ≤ 1 ∧
      (∀ i, slot = some (some i) →
        es.countP (Event.opens n) = 1 ∧ es.countP (Event.disconnects n) = 0) ∧
      (c.background = true → slot = some none →
        es.countP (Event.disconnects n) = es.countP (Event.opens n)) := by
  cases h with
  | unused => simp
  | rejected t hr =>
      obtain ⟨hc, ho, hd⟩ := hr.counts
      dsimp only at ho hd
      exact ⟨hc, by omega, by omega, nofun, fun _ _ => by omega⟩
  | held t => simp [Event.connects, Event.opens, Event.disconnects]
  | closed t hcl =>
      obtain ⟨hc, ho, hd, hb⟩ := hcl.counts
      simp only [List.countP_cons, Event.connects, Event.opens, Event.disconnects, beq_self_eq_true,
        Bool.false_eq_true, if_true, if_false] at hc ho hd hb ⊢
      refine ⟨by omega, by omega, by omega, nofun, fun h _ => ?_⟩
      have := hb h
      omega

end Counts

/-- What a log tells about the connections of all slots. -/
structure Lifecycle (c : Collaborators σ τ) (slots : Slots τ) (log : List (Event τ)) : Prop where
  fits : slots.Fits c log
  once : ∀ n, log.countP (Event.connects n) ≤ 1
  /-- A tunnel that could not be connected is never disconnected, and no tunnel is so twice. -/
  owed : ∀ n, log.countP (Event.disconnects n) ≤ log.countP (Event.opens n) ∧
    log.countP (Event.opens n) ≤ 1
  /-- As long as its slot holds it, a tunnel is not disconnected. -/
  waits : ∀ n i, slots[n]? = some (some i) →
    log.countP (Event.opens n) = 1 ∧ log.countP (Event.disconnects n) = 0
  told : c.background = true → ∀ n, slots[n]? = some none →
    log.countP (Event.disconnects n) = log.countP (Event.opens n)

theorem Slots.Fits.lifecycle {c : Collaborators σ τ} {slots : Slots τ} {log : List (Event τ)}
    (h : slots.Fits c log) : Lifecycle c slots log := by
  have hs : ∀ n, _ := fun n => (h n).counts
  simp only [countP_story handles_of_connects, countP_story handles_of_opens,
    countP_story handles_of_disconnects] at hs
  exact {
    fits := h
    once := fun n => (hs n).1
    owed := fun n => ⟨(hs n).2.1, (hs n).2.2.1⟩
    waits := fun n => (hs n).2.2.2.1
    told := fun hb n => (hs n).2.2.2.2 hb }

theorem lifecycle_steps (c : Collaborators σ τ) (sts : List (SlotStep σ τ)) (s : σ)
    (hp : ∀ st ∈ sts, st.IsPlain) :
    Lifecycle c ((Slots.steps c [] sts).result s).2 ((Slots.steps c [] sts).events s) ∧
      ∀ slots s, StepLaws c slots s := by
  have hnil : Slots.Fits c [] ([] : List (Event τ)) := fun n => .unused
  have hfits := hnil.steps hp s
  exact ⟨hfits.lifecycle, stepLaws c⟩

/-- Two connections side by side, of which one is used and the other one let go. -/
def SlotStep.sample : List (SlotStep Script ScriptedTunnel) :=
  [.acquire Order.sample.session { name := "first", kind := .http },
    .acquire Order.sample.session { name := "second", kind := .socks5, disconnect := ⟨.hang, false⟩ },
    .run 0 (Script.playAttempt (Order.sample.directAttempt 443) ⟨.panic "broken", false⟩),
    .drop 1, .release 0]

theorem lifecycle_sample :
    (∀ st ∈ SlotStep.sample, st.IsPlain) ∧
      Lifecycle (Script.collaborators true)
        ((Slots.steps (Script.collaborators true) [] SlotStep.sample).result { }).2
        ((Slots.steps (Script.collaborators true) [] SlotStep.sample).events { }) ∧
      ∀ slots s, StepLaws (Script.collaborators true) slots s := by
  have hp : ∀ st ∈ SlotStep.sample, st.IsPlain := by
    simp [SlotStep.sample, SlotStep.IsPlain, Script.playAttempt, Event.handles]
  exact ⟨hp, lifecycle_steps (Script.collaborators true) SlotStep.sample { } hp⟩

end RouteCascade.Cascade
