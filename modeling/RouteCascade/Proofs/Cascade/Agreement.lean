import RouteCascade.Proofs.Cascade.Execution

/-!
# Runs side by side

Two runs, each with collaborators of its own. Their states belong together as some relation says, the
tunnels of one catalog may have other numbers in the other, and a disconnection may work on one side
and fail on the other. As long as the collaborators answer alike in states that belong together, the two
runs do the same: every part of a run ends in the same way on both sides, and its two logs compare.

How logs compare is left open here. It has to hold of single events and of logs put together.
-/
namespace RouteCascade.Cascade

open Text Net

variable {σ σ' τ α β γ δ : Type}

def Instance.renumber (f : Nat → Nat) (i : Instance τ) : Instance τ := { i with number := f i.number }

def Carrier.renumber (f : Nat → Nat) : Carrier τ → Carrier τ
  | .direct => .direct
  | .current t => .current t
  | .temporary i => .temporary (i.renumber f)

def Attempt.renumber (f : Nat → Nat) (a : Attempt τ) : Attempt τ :=
  { a with carrier := a.carrier.renumber f }

/-- An event of which only the number of its tunnel is another one. -/
def Event.renumber (f : Nat → Nat) : Event τ → Event τ
  | .attempt a r => .attempt (a.renumber f) r
  | .handshake i b => .handshake (i.renumber f) b
  | .connect i r => .connect (i.renumber f) r
  | .disconnect i r => .disconnect (i.renumber f) r
  | .dispose i => .dispose (i.renumber f)
  | .poll b => .poll b
  | .enumerate => .enumerate
  | .abandon => .abandon

section Renumber
variable (f : Nat → Nat)

@[simp] theorem tunnel_renumber (i : Instance τ) : (i.renumber f).tunnel = i.tunnel := rfl

@[simp] theorem Instance.renumber_id (i : Instance τ) : i.renumber id = i := rfl

@[simp] theorem Attempt.renumber_id (a : Attempt τ) : a.renumber id = a := by
  obtain ⟨_, _, _, _, carrier⟩ := a
  cases carrier <;> rfl

@[simp] theorem Event.renumber_id (e : Event τ) : e.renumber id = e := by
  cases e <;> simp [Event.renumber]

end Renumber

/-- Both calls came back, or they ended in the same way. -/
def Reply.EndsAs (r r' : Reply α) : Prop := r = r' ∨ r.isAnswer = true ∧ r'.isAnswer = true

/-- Whatever their catalogs, two sets of collaborators have signals and clients that answer alike in
states that belong together, and are in such states afterwards. A tunnel that carries an attempt has the
number in the second that `f` gives. -/
structure AlikeOutside (c : Collaborators σ τ) (c' : Collaborators σ' τ) (f : Nat → Nat)
    (R : σ → σ' → Prop) : Prop where
  routes : c'.routesThroughLocalProxy = c.routesThroughLocalProxy
  isConnected : ∀ s s', R s s' → ∀ t, c'.isConnected t s' = c.isConnected t s
  poll : ∀ s s', R s s' → (c'.poll s').1 = (c.poll s).1 ∧ R (c.poll s).2 (c'.poll s').2
  attempt : ∀ s s', R s s' → ∀ a, (c'.attempt (a.renumber f) s').1 = (c.attempt a s).1 ∧
    R (c.attempt a s).2 (c'.attempt (a.renumber f) s').2

/-- The tunnels of two catalogs answer alike as well. The replies of their disconnections are as `D`
says; nothing is said of what the catalogs hand out. -/
structure Alike (c : Collaborators σ τ) (c' : Collaborators σ' τ) (session : Session) (f : Nat → Nat)
    (D : Reply Unit → Reply Unit → Prop) (R : σ → σ' → Prop) : Prop extends AlikeOutside c c' f R where
  name : c'.name = c.name
  kind : c'.kind = c.kind
  background : c'.background = c.background
  requiresHandshake : ∀ s s', R s s' → ∀ i,
    (c'.requiresHandshake (i.renumber f) session s').1 = (c.requiresHandshake i session s).1 ∧
      R (c.requiresHandshake i session s).2 (c'.requiresHandshake (i.renumber f) session s').2
  connect : ∀ s s', R s s' → ∀ i,
    (c'.connect (i.renumber f) session s').1 = (c.connect i session s).1 ∧
      R (c.connect i session s).2 (c'.connect (i.renumber f) session s').2
  disconnect : ∀ s s', R s s' → ∀ i, D (c.disconnect i s).1 (c'.disconnect (i.renumber f) s').1 ∧
    R (c.disconnect i s).2 (c'.disconnect (i.renumber f) s').2
  dispose : ∀ s s', R s s' → ∀ i, R (c.dispose i s) (c'.dispose (i.renumber f) s')

/-- A way to compare two logs. The catalog may be asked in different ways. -/
structure Compares (f : Nat → Nat) (D : Reply Unit → Reply Unit → Prop)
    (L : List (Event τ) → List (Event τ) → Prop) : Prop where
  nil : L [] []
  append : ∀ {xs xs' ys ys' : List (Event τ)}, L xs xs' → L ys ys' → L (xs ++ ys) (xs' ++ ys')
  event : ∀ e : Event τ, e ≠ .enumerate → L [e] [e.renumber f]
  disconnect : ∀ (i : Instance τ) {r r' : Reply Unit}, D r r' →
    L [.disconnect i r] [.disconnect (i.renumber f) r']
  /-- What a disconnection comes to differs at most in whether it worked. -/
  endsAs : ∀ {r r' : Reply Unit}, D r r' → r.EndsAs r'

/-- Logs are the same. -/
theorem compares_same : Compares (τ := τ) id Eq Eq where
  nil := rfl
  append := by rintro _ _ _ _ rfl rfl; rfl
  event e _ := by rw [Event.renumber_id]
  disconnect := by rintro i r _ rfl; rw [Instance.renumber_id]
  endsAs := .inl

/-- Two actions, started in states that belong together: their logs compare, their results are related,
and their last states belong together. -/
structure Act.Agrees (R : σ → σ' → Prop) (L : List (Event τ) → List (Event τ) → Prop)
    (P : α → β → Prop) (x : Act σ τ α) (y : Act σ' τ β) : Prop where
  events : ∀ s s', R s s' → L (x.events s) (y.events s')
  result : ∀ s s', R s s' → P (x.result s) (y.result s')
  final : ∀ s s', R s s' → R (x.final s) (y.final s')

/-- Two steps end in the same way, and what they leave to be done agrees. -/
inductive StepEnd.Agrees (R : σ → σ' → Prop) (L : List (Event τ) → List (Event τ) → Prop) :
    StepEnd σ τ α → StepEnd σ' τ α → Prop
  | returned (a : α) : Agrees R L (.returned a) (.returned a)
  | panicked (t : String) : Agrees R L (.panicked t) (.panicked t)
  | abandoned {later : Act σ τ Unit} {later' : Act σ' τ Unit} : later.Agrees R L Eq later' →
      Agrees R L (.abandoned later) (.abandoned later')

section Actions
variable {c : Collaborators σ τ} {c' : Collaborators σ' τ} {session : Session} {f : Nat → Nat}
  {D : Reply Unit → Reply Unit → Prop} {R : σ → σ' → Prop}
  {L : List (Event τ) → List (Event τ) → Prop} {P : α → β → Prop} {Q : γ → δ → Prop}
  (hL : Compares f D L)

include hL

theorem agrees_pure {a : α} {b : β} (hab : P a b) :
    (pure a : Act σ τ α).Agrees R L P (pure b : Act σ' τ β) where
  events _ _ _ := hL.nil
  result _ _ _ := hab
  final _ _ h := h

/-- One action after another, if the second ones agree on whatever results the first ones may have. -/
theorem Act.Agrees.bind {x : Act σ τ α} {y : Act σ' τ β} {g : α → Act σ τ γ} {k : β → Act σ' τ δ}
    (hx : x.Agrees R L P y) (hg : ∀ a b, P a b → (g a).Agrees R L Q (k b)) :
    (x >>= g).Agrees R L Q (y >>= k) := by
  constructor
  · intro s s' h
    have hrest := hg _ _ (hx.result s s' h)
    exact hL.append (hx.events s s' h) (hrest.events _ _ (hx.final s s' h))
  · intro s s' h
    have hrest := hg _ _ (hx.result s s' h)
    exact hrest.result _ _ (hx.final s s' h)
  · intro s s' h
    have hrest := hg _ _ (hx.result s s' h)
    exact hrest.final _ _ (hx.final s s' h)

omit hL in
/-- Two calls with related answers, whose events compare then. -/
theorem agrees_call {g : σ → α × σ} {k : σ' → β × σ'} {e : α → Event τ} {d : β → Event τ}
    (hev : ∀ a b, P a b → L [e a] [d b])
    (h : ∀ s s', R s s' → P (g s).1 (k s').1 ∧ R (g s).2 (k s').2) :
    (Act.call g e).Agrees R L P (Act.call k d) where
  events s s' hs := hev _ _ (h s s' hs).1
  result s s' hs := (h s s' hs).1
  final s s' hs := (h s s' hs).2

theorem agrees_abandon : (Act.abandon : Act σ τ Unit).Agrees R L Eq (Act.abandon : Act σ' τ Unit) where
  events _ _ _ := hL.event .abandon nofun
  result _ _ _ := rfl
  final _ _ h := h

theorem agrees_settle {clean : Act σ τ Unit} {clean' : Act σ' τ Unit} {x : StepEnd σ τ α}
    {y : StepEnd σ' τ α} (hclean : clean.Agrees R L Eq clean') (hx : x.Agrees R L y) :
    (x.settle clean).Agrees R L Eq (y.settle clean') := by
  cases hx with
  | returned a => exact hclean.bind hL fun _ _ _ => agrees_pure hL rfl
  | panicked t => exact hclean.bind hL fun _ _ _ => agrees_pure hL rfl
  | abandoned hlater =>
      exact hclean.bind hL fun _ _ _ => hlater.bind hL fun _ _ _ => agrees_pure hL rfl

theorem agrees_nothing :
    (Connection.nothing : Act σ τ Unit).Agrees R L Eq (Connection.nothing : Act σ' τ Unit) :=
  agrees_pure hL rfl

section Outside
variable (ho : AlikeOutside c c' f R)
include ho

theorem agrees_askStop : c.askStop.Agrees R L Eq c'.askStop := by
  apply agrees_call
  · rintro b _ rfl
    exact hL.event (.poll b) nofun
  · intro s s' h
    exact (ho.poll s s' h).imp_left Eq.symm

theorem agrees_send (a : Attempt τ) : (c.send a).Agrees R L Eq (c'.send (a.renumber f)) := by
  apply agrees_call
  · rintro r _ rfl
    exact hL.event (.attempt a r) nofun
  · intro s s' h
    exact (ho.attempt s s' h a).imp_left Eq.symm

theorem agrees_seeConnected (t : τ) : (c.seeConnected t).Agrees R L Eq (c'.seeConnected t) where
  events _ _ _ := hL.nil
  result s s' h := (ho.isConnected s s' h t).symm
  final _ _ h := h

theorem agrees_connected? (current : Option τ) :
    (connected? c current).Agrees R L Eq (connected? c' current) := by
  cases current with
  | none => exact agrees_pure hL rfl
  | some t =>
      apply (agrees_seeConnected hL ho t).bind hL
      rintro up _ rfl
      cases up <;> exact agrees_pure hL rfl

theorem agrees_tryCurrent (o : Order) (t : τ) :
    (tryCurrent c o t).Agrees R L Eq (tryCurrent c' o t) := by
  unfold tryCurrent
  rw [ho.routes]
  apply (agrees_send hL ho (o.currentAttempt c t)).bind hL
  rintro reply _ rfl
  cases reply with
  | hang => exact (agrees_abandon hL).bind hL fun _ _ _ => agrees_pure hL rfl
  | _ => exact agrees_pure hL rfl

theorem agrees_tryDirect (o : Order) (fs : List FailedPath) (ps : List Port) :
    (tryDirect c o fs ps).Agrees R L Eq (tryDirect c' o fs ps) := by
  induction ps generalizing fs with
  | nil => exact agrees_pure hL rfl
  | cons p ps ih =>
      apply (agrees_askStop hL ho).bind hL
      rintro stop _ rfl
      cases stop with
      | true => exact agrees_pure hL rfl
      | false =>
          apply (agrees_send hL ho (o.directAttempt p)).bind hL
          rintro reply _ rfl
          cases reply with
          | error e => exact ih _
          | hang => exact (agrees_abandon hL).bind hL fun _ _ _ => agrees_pure hL rfl
          | _ => exact agrees_pure hL rfl

end Outside

variable (hc : Alike c c' session f D R)
include hc

theorem agrees_askHandshake (i : Instance τ) :
    (c.askHandshake session i).Agrees R L Eq (c'.askHandshake session (i.renumber f)) := by
  apply agrees_call
  · rintro b _ rfl
    exact hL.event (.handshake i b) nofun
  · intro s s' h
    exact (hc.requiresHandshake s s' h i).imp_left Eq.symm

theorem agrees_bringUp (i : Instance τ) :
    (c.bringUp session i).Agrees R L Eq (c'.bringUp session (i.renumber f)) := by
  apply agrees_call
  · rintro r _ rfl
    exact hL.event (.connect i r) nofun
  · intro s s' h
    exact (hc.connect s s' h i).imp_left Eq.symm

theorem agrees_takeDown (i : Instance τ) :
    (c.takeDown i).Agrees R L Reply.EndsAs (c'.takeDown (i.renumber f)) where
  events s s' h := hL.disconnect i (hc.disconnect s s' h i).1
  result s s' h := hL.endsAs (hc.disconnect s s' h i).1
  final s s' h := (hc.disconnect s s' h i).2

theorem agrees_discard (i : Instance τ) : (c.discard i).Agrees R L Eq (c'.discard (i.renumber f)) := by
  apply agrees_call
  · intro _ _ _
    exact hL.event (.dispose i) nofun
  · intro s s' h
    exact ⟨rfl, hc.dispose s s' h i⟩

theorem agrees_discardAll (is : List (Instance τ)) :
    (c.discardAll is).Agrees R L Eq (c'.discardAll (is.map (·.renumber f))) := by
  induction is with
  | nil => exact agrees_pure hL rfl
  | cons i is ih => exact (agrees_discard hL hc i).bind hL fun _ _ _ => ih

namespace Connection

theorem agrees_acquire (i : Instance τ) :
    (acquire c session i).Agrees R L (StepEnd.Agrees R L) (acquire c' session (i.renumber f)) := by
  apply (agrees_askHandshake hL hc i).bind hL
  rintro needed _ rfl
  have hdiscard := agrees_discard hL hc i
  cases needed with
  | true =>
      apply hdiscard.bind hL
      intro _ _ _
      rw [tunnel_renumber, hc.name]
      exact agrees_pure hL (.returned _)
  | false =>
      apply (agrees_bringUp hL hc i).bind hL
      rintro reply _ rfl
      cases reply with
      | ok a => exact agrees_pure hL (.returned _)
      | error e => exact hdiscard.bind hL fun _ _ _ => agrees_pure hL (.returned _)
      | panic t => exact hdiscard.bind hL fun _ _ _ => agrees_pure hL (.panicked t)
      | hang =>
          apply (agrees_abandon hL).bind hL
          intro _ _ _
          exact hdiscard.bind hL fun _ _ _ => agrees_pure hL (.abandoned (agrees_nothing hL))

/-- Whether a disconnection worked does not matter to a release. -/
theorem agrees_release (i : Instance τ) :
    (release c i).Agrees R L (StepEnd.Agrees R L) (release c' (i.renumber f)) := by
  apply (agrees_takeDown hL hc i).bind hL
  have hdiscard := agrees_discard hL hc i
  have hreturned : (do c.discard i; pure (.returned ()) : Act σ τ (StepEnd σ τ Unit)).Agrees R L
      (StepEnd.Agrees R L) (do c'.discard (i.renumber f); pure (.returned ())) :=
    hdiscard.bind hL fun _ _ _ => agrees_pure hL (.returned ())
  intro r r' hr
  rcases hr with rfl | ⟨hr, hr'⟩
  · cases r with
    | ok a => exact hreturned
    | error e => exact hreturned
    | panic t => exact hdiscard.bind hL fun _ _ _ => agrees_pure hL (.panicked t)
    | hang =>
        apply (agrees_abandon hL).bind hL
        intro _ _ _
        exact hdiscard.bind hL fun _ _ _ => agrees_pure hL (.abandoned (agrees_nothing hL))
  · cases r <;> cases hr <;> cases r' <;> cases hr' <;> exact hreturned

theorem agrees_releaseInBackground (i : Instance τ) :
    (releaseInBackground c i).Agrees R L Eq (releaseInBackground c' (i.renumber f)) := by
  apply (agrees_takeDown hL hc i).bind hL
  have hdiscard := agrees_discard hL hc i
  intro r r' hr
  rcases hr with rfl | ⟨hr, hr'⟩
  · cases r with
    | hang => exact agrees_pure hL rfl
    | _ => exact hdiscard
  · cases r <;> cases hr <;> cases r' <;> cases hr' <;> exact hdiscard

theorem agrees_drop (i : Instance τ) :
    (drop c i).Agrees R L (Act.Agrees R L Eq) (drop c' (i.renumber f)) := by
  unfold drop
  rw [hc.background]
  split
  · exact agrees_pure hL (agrees_releaseInBackground hL hc i)
  · exact (agrees_discard hL hc i).bind hL fun _ _ _ => agrees_pure hL (agrees_nothing hL)

theorem agrees_releaseAfter (i : Instance τ) {x : StepEnd σ τ α} {y : StepEnd σ' τ α}
    (hx : x.Agrees R L y) :
    (releaseAfter c i x).Agrees R L (StepEnd.Agrees R L) (releaseAfter c' (i.renumber f) y) := by
  apply (agrees_release hL hc i).bind hL
  intro ended _ hended
  cases hended with
  | returned a => exact agrees_pure hL hx
  | panicked t => exact agrees_pure hL (.panicked t)
  | abandoned hlater => exact agrees_pure hL (.abandoned hlater)

theorem agrees_run (i : Instance τ) {attempt : Act σ τ (Reply α)} {attempt' : Act σ' τ (Reply α)}
    (ha : attempt.Agrees R L Eq attempt') :
    (run c i attempt).Agrees R L (StepEnd.Agrees R L) (run c' (i.renumber f) attempt') := by
  apply ha.bind hL
  rintro reply _ rfl
  cases reply with
  | ok a => exact agrees_releaseAfter hL hc i (.returned _)
  | error e => exact agrees_releaseAfter hL hc i (.returned _)
  | panic t => exact agrees_releaseAfter hL hc i (.panicked t)
  | hang =>
      apply (agrees_abandon hL).bind hL
      intro _ _ _
      exact (agrees_drop hL hc i).bind hL fun _ _ hlater => agrees_pure hL (.abandoned hlater)

end Connection

/-- Tunnels that are chosen on one side are those that are chosen on the other. -/
theorem agrees_keepEligible (is : List (Instance τ)) :
    (keepEligible c session is).Agrees R L (fun kept kept' => kept' = kept.map (·.renumber f))
      (keepEligible c' session (is.map (·.renumber f))) := by
  induction is with
  | nil => exact agrees_pure hL rfl
  | cons i is ih =>
      apply (agrees_askHandshake hL hc i).bind hL
      rintro needed _ rfl
      cases needed with
      | true => exact (agrees_discard hL hc i).bind hL fun _ _ _ => ih
      | false =>
          apply ih.bind hL
          rintro kept _ rfl
          exact agrees_pure hL rfl

/-- The choices agree if the catalogs hand out the same tunnels. -/
theorem agrees_select_of_askCatalog
    (hasked : c.askCatalog.Agrees R L (fun is is' => is' = is.map (·.renumber f)) c'.askCatalog) :
    (select c session).Agrees R L (fun kept kept' => kept' = kept.map (·.renumber f))
      (select c' session) := by
  apply hasked.bind hL
  rintro is _ rfl
  exact agrees_keepEligible hL hc is

end Actions

section Runs
variable {c : Collaborators σ τ} {c' : Collaborators σ' τ} {o : Order} {f : Nat → Nat}
  {D : Reply Unit → Reply Unit → Prop} {R : σ → σ' → Prop}
  {L : List (Event τ) → List (Event τ) → Prop}
  (hL : Compares f D L) (hc : Alike c c' o.session f D R)

include hL hc

theorem agrees_tryTunnels (fs : List FailedPath) (is : List (Instance τ)) :
    (tryTunnels c o fs is).Agrees R L Eq (tryTunnels c' o fs (is.map (·.renumber f))) := by
  induction is generalizing fs with
  | nil => exact agrees_pure hL rfl
  | cons i rest ih =>
      have hrest := agrees_discardAll hL hc rest
      apply (agrees_askStop hL hc.toAlikeOutside).bind hL
      rintro stop _ rfl
      cases stop with
      | true =>
          exact (agrees_discardAll hL hc (i :: rest)).bind hL fun _ _ _ => agrees_pure hL rfl
      | false =>
          apply (Connection.agrees_acquire hL hc i).bind hL
          intro acquired _ hacquired
          -- the paths that are reported have no numbers in them
          rw [tunnel_renumber, hc.name, hc.kind, hc.routes]
          cases hacquired with
          | panicked t => exact agrees_settle hL hrest (.panicked t)
          | abandoned hlater => exact agrees_settle hL hrest (.abandoned hlater)
          | returned acquired =>
              cases acquired with
              | error e => exact ih _
              | ok a =>
                  apply (agrees_askStop hL hc.toAlikeOutside).bind hL
                  rintro stop _ rfl
                  cases stop with
                  | true =>
                      apply (Connection.agrees_release hL hc i).bind hL
                      intro ended _ hended
                      apply agrees_settle hL hrest
                      cases hended with
                      | returned a => exact .returned _
                      | panicked t => exact .panicked t
                      | abandoned hlater => exact .abandoned hlater
                  | false =>
                      apply (Connection.agrees_run hL hc i (agrees_send hL hc.toAlikeOutside _)).bind hL
                      intro ended _ hended
                      cases hended with
                      | panicked t => exact agrees_settle hL hrest (.panicked t)
                      | abandoned hlater => exact agrees_settle hL hrest (.abandoned hlater)
                      | returned ended =>
                          cases ended with
                          | error e => exact ih _
                          | ok b => exact agrees_settle hL hrest (.returned _)

/-- The runs agree if the choices among the tunnels do. -/
theorem agrees_run
    (hselect : (select c o.session).Agrees R L (fun is is' => is' = is.map (·.renumber f))
      (select c' o.session)) (current : Option τ) :
    (run c o current).Agrees R L Eq (run c' o current) := by
  apply (agrees_askStop hL hc.toAlikeOutside).bind hL
  rintro stop _ rfl
  cases stop with
  | true => exact agrees_pure hL rfl
  | false =>
      simp only [Bool.false_eq_true, if_false]
      split
      · exact agrees_pure hL rfl
      apply (agrees_connected? hL hc.toAlikeOutside current).bind hL
      rintro up _ rfl
      cases up with
      | some t => exact agrees_tryCurrent hL hc.toAlikeOutside o t
      | none =>
          simp only
          split
          · apply (agrees_tryDirect hL hc.toAlikeOutside o [] o.session.directPorts).bind hL
            rintro ended _ rfl
            cases ended with
            | ended x => exact agrees_pure hL rfl
            | failed fs =>
                apply hselect.bind hL
                rintro is _ rfl
                cases is with
                | nil => exact agrees_pure hL rfl
                | cons i rest => exact agrees_tryTunnels hL hc fs (i :: rest)
          · exact agrees_pure hL rfl

end Runs

end RouteCascade.Cascade
