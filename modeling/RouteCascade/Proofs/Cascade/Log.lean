import RouteCascade.Cascade.Script
import RouteCascade.Proofs.Cascade.Execution

/-!
# Logs

What is said about the log of a run: which events it has, and what stands before and after each of
them. A statement about every place of a log is proved part by part, since what is said here of a place
stays true when more comes before it.
-/
namespace RouteCascade.Cascade

open Text Net

section Places
variable {ε : Type} {P : List ε → ε → List ε → Prop}

/-- A statement about every place of a list: what stands before it, what is there, and what comes after. -/
def Everywhere (P : List ε → ε → List ε → Prop) (xs : List ε) : Prop :=
  ∀ u e v, xs = u ++ e :: v → P u e v

/-- The statement stays true of a place when more comes before it. -/
def Stable (P : List ε → ε → List ε → Prop) : Prop :=
  ∀ w u e v, P u e v → P (w ++ u) e v

@[simp] theorem everywhere_nil (P : List ε → ε → List ε → Prop) : Everywhere P [] := by
  intro u e v h
  cases u <;> cases h

@[simp] theorem everywhere_cons (P : List ε → ε → List ε → Prop) (x : ε) (xs : List ε) :
    Everywhere P (x :: xs) ↔ P [] x xs ∧ Everywhere (fun u => P (x :: u)) xs := by
  constructor
  · intro h
    exact ⟨h [] x xs rfl, fun u e v hu => h (x :: u) e v (congrArg (x :: ·) hu)⟩
  · rintro ⟨hx, h⟩ u e v hu
    cases u with
    | nil =>
        obtain ⟨rfl, rfl⟩ := List.cons.inj hu
        exact hx
    | cons y u =>
        obtain ⟨rfl, hv⟩ := List.cons.inj hu
        exact h u e v hv

/-- Of two places of a list, one comes before the other, unless they are the same. -/
theorem places_eq {u v u' v' : List ε} {e e' : ε} (h : u ++ e :: v = u' ++ e' :: v') :
    (u = u' ∧ e = e' ∧ v = v') ∨ (∃ t, u' = u ++ e :: t ∧ v = t ++ e' :: v') ∨
      ∃ t, u = u' ++ e' :: t ∧ v' = t ++ e :: v := by
  rcases List.append_eq_append_iff.mp h with ⟨w, rfl, hw⟩ | ⟨w, rfl, hw⟩
  · cases w with
    | nil =>
        obtain ⟨rfl, rfl⟩ := List.cons.inj hw
        exact .inl ⟨(List.append_nil _).symm, rfl, rfl⟩
    | cons x w =>
        obtain ⟨rfl, rfl⟩ := List.cons.inj hw
        exact .inr (.inl ⟨w, rfl, rfl⟩)
  · cases w with
    | nil =>
        obtain ⟨rfl, rfl⟩ := List.cons.inj hw
        exact .inl ⟨List.append_nil _, rfl, rfl⟩
    | cons x w =>
        obtain ⟨rfl, rfl⟩ := List.cons.inj hw
        exact .inr (.inr ⟨w, rfl, rfl⟩)

/-- What holds in two parts of a list holds in the whole of it, if the first part knows the second. -/
theorem Everywhere.append (hs : Stable P) {xs ys : List ε}
    (hx : Everywhere (fun u e v => P u e (v ++ ys)) xs) (hy : Everywhere P ys) :
    Everywhere P (xs ++ ys) := by
  intro u e v h
  rcases List.append_eq_append_iff.mp h with ⟨w, rfl, hw⟩ | ⟨w, rfl, hw⟩
  · exact hs xs w e v (hy w e v hw)
  · cases w with
    | nil =>
        simp only [List.nil_append] at hw
        simpa using hs u [] e v (hy [] e v hw.symm)
    | cons x w =>
        obtain ⟨rfl, rfl⟩ := List.cons.inj hw
        exact hx u e w rfl

/-- What holds at every place of one element holds of the whole list, element by element. -/
theorem everywhere_of_forall {xs : List ε} (h : ∀ u, ∀ e ∈ xs, ∀ v, P u e v) : Everywhere P xs :=
  fun u e v hu => h u e (hu ▸ List.mem_append_right u List.mem_cons_self) v

end Places

variable {σ τ : Type}

namespace Event

/-- The tunnel of the catalog that an event is about. -/
def tunnel? : Event τ → Option (Instance τ)
  | .handshake i _ | .connect i _ | .disconnect i _ | .dispose i => some i
  | .attempt a _ =>
    match a.carrier with
    | .temporary i => some i
    | _ => none
  | _ => none

def connects (n : Nat) : Event τ → Bool
  | .connect i _ => i.number == n
  | _ => false

/-- Connecting the tunnel with this number works. -/
def opens (n : Nat) : Event τ → Bool
  | .connect i (.ok _) => i.number == n
  | _ => false

def disconnects (n : Nat) : Event τ → Bool
  | .disconnect i _ => i.number == n
  | _ => false

def attempt? : Event τ → Option (Attempt τ)
  | .attempt a _ => some a
  | _ => none

/-- An attempt, or the connecting of a tunnel. -/
def reachesOut : Event τ → Bool
  | .attempt .. | .connect .. => true
  | _ => false

/-- An attempt, or the connecting or disconnecting of a tunnel. -/
def isCall : Event τ → Bool
  | .attempt .. | .connect .. | .disconnect .. => true
  | _ => false

/-- No call broke down or never ended. -/
def isSettled : Event τ → Bool
  | .attempt _ r => r.isAnswer
  | .connect _ r | .disconnect _ r => r.isAnswer
  | _ => true

end Event

/-- The tunnels that the catalog hands out while events happen. -/
def handedOutIn (c : Collaborators σ τ) (session : Session) : List (Event τ) → σ → List (Instance τ)
  | [], _ => []
  | .enumerate :: _, s => c.handedOut s
  | e :: es, s => handedOutIn c session es (e.after c session s)

section Parts
variable {o : Order} {c : Collaborators σ τ} {fs : List FailedPath} {es : List (Event τ)}

/-- Trying ports directly is about no tunnel. -/
theorem DirectExec.tunnel?_eq_none {ps : List Port} {x : DirectEnd} (h : DirectExec o fs ps es x) :
    ∀ e ∈ es, e.tunnel? = none := by
  induction h with
  | next _ ih => simpa [Event.tunnel?, Order.directAttempt] using ih
  | _ => simp [Event.tunnel?, Order.directAttempt]

theorem DirectExec.enumerate_not_mem {ps : List Port} {x : DirectEnd} (h : DirectExec o fs ps es x) :
    .enumerate ∉ es := by
  induction h with
  | next _ ih => simpa using ih
  | _ => simp

theorem CurrentExec.tunnel?_eq_none {t : τ} {x : Ending Answer}
    (h : CurrentExec (o.currentAttempt c t) es x) : ∀ e ∈ es, e.tunnel? = none := by
  cases h <;> simp [Event.tunnel?, Order.currentAttempt, Order.carriedAttempt]

theorem CurrentExec.enumerate_not_mem {a : Attempt τ} {x : Ending Answer} (h : CurrentExec a es x) :
    .enumerate ∉ es := by
  cases h <;> simp

/-- Choosing among tunnels asks them, and gives some of them up. -/
theorem SelectExec.mem {is kept : List (Instance τ)} (h : SelectExec is es kept) {e : Event τ}
    (he : e ∈ es) : ∃ i ∈ is, (∃ b, e = .handshake i b) ∨ e = .dispose i := by
  induction h with
  | nil => cases he
  | @refused i is kept es _ ih =>
      rcases List.mem_cons.mp he with rfl | he
      · exact ⟨i, List.mem_cons_self, .inl ⟨_, rfl⟩⟩
      · rcases List.mem_cons.mp he with rfl | he
        · exact ⟨i, List.mem_cons_self, .inr rfl⟩
        · obtain ⟨j, hj, h⟩ := ih he
          exact ⟨j, List.mem_cons_of_mem _ hj, h⟩
  | @kept i is kept es _ ih =>
      rcases List.mem_cons.mp he with rfl | he
      · exact ⟨i, List.mem_cons_self, .inl ⟨_, rfl⟩⟩
      · obtain ⟨j, hj, h⟩ := ih he
        exact ⟨j, List.mem_cons_of_mem _ hj, h⟩

theorem SelectExec.sublist {is kept : List (Instance τ)} (h : SelectExec is es kept) :
    kept.Sublist is := by
  induction h with
  | nil => exact .slnil
  | refused _ ih => exact .cons _ ih
  | kept _ ih => exact .cons_cons _ ih

theorem SelectExec.enumerate_not_mem {is kept : List (Instance τ)} (h : SelectExec is es kept) :
    .enumerate ∉ es := by
  intro he
  obtain ⟨i, -, ⟨b, hb⟩ | hb⟩ := h.mem he <;> cases hb

/-- A release is about no other tunnel. -/
theorem Connection.ReleaseExec.tunnel? {i : Instance τ} {x : StepEnd σ τ Unit}
    (h : ReleaseExec i es x) : ∀ e ∈ es, e.tunnel? = none ∨ e.tunnel? = some i := by
  cases h <;> simp [Event.tunnel?]

/-- The turn of a tunnel is about no other one. -/
theorem TurnExec.tunnel? {i : Instance τ} {x : Ending (Except Failure Outcome)} {late : List (Event τ)}
    (h : TurnExec c o i es x late) : ∀ e ∈ es ++ late, e.tunnel? = none ∨ e.tunnel? = some i := by
  cases h with
  | unused hr => simpa [Event.tunnel?] using hr.tunnel?
  | used _ hr => simpa [Event.tunnel?, Order.attemptOver, Order.carriedAttempt] using hr.tunnel?
  | left hl => cases hl <;> simp [Event.tunnel?, Order.attemptOver, Order.carriedAttempt]
  | _ => simp [Event.tunnel?]

theorem TurnExec.enumerate_not_mem {i : Instance τ} {x : Ending (Except Failure Outcome)}
    {late : List (Event τ)} (h : TurnExec c o i es x late) : .enumerate ∉ es := by
  cases h with
  | unused hr => cases hr <;> simp
  | used _ hr => cases hr <;> simp
  | left hl => cases hl <;> simp
  | _ => simp

/-- Once a turn ends the run, tunnels are disconnected and given up, and nothing else is done. -/
theorem TurnExec.mem_rest {i : Instance τ} {x : Ending (Except Failure Outcome)} {late : List (Event τ)}
    (h : TurnExec c o i es x late) (rest : List (Instance τ)) :
    ∀ e ∈ rest.map .dispose ++ late, (∃ j r, e = .disconnect j r) ∨ ∃ j, e = .dispose j := by
  intro e he
  rcases List.mem_append.mp he with he | he
  · obtain ⟨j, -, rfl⟩ := List.mem_map.mp he
    exact .inr ⟨j, rfl⟩
  · cases h with
    | left hl =>
        cases hl with
        | @released r _ _ =>
            rcases List.mem_cons.mp he with rfl | he
            · exact .inl ⟨i, r, rfl⟩
            · exact .inr ⟨i, List.mem_singleton.mp he⟩
        | hung => exact .inl ⟨i, .hang, List.mem_singleton.mp he⟩
        | alone => cases he
    | _ => cases he

/-- The turns of tunnels are about these. -/
theorem TunnelsExec.mem_of_tunnel? {is : List (Instance τ)} {x : Ending Answer}
    (h : TunnelsExec c o fs is es x) {i : Instance τ} : ∀ e ∈ es, e.tunnel? = some i → i ∈ is := by
  induction h with
  | exhausted => simp
  | @next fs j rest e es es' x ht _ ih =>
      intro e he hi
      rcases List.mem_append.mp he with he | he
      · have := ht.tunnel? e (List.mem_append_left _ he)
        simp_all
      · exact List.mem_cons_of_mem _ (ih e he hi)
  | @last fs j rest es late x y ht _ =>
      intro e he hi
      have := ht.tunnel? e
      simp only [List.mem_append, List.mem_map] at he this
      rcases he with he | ⟨k, hk, rfl⟩ | he
      · simp_all
      · cases hi
        exact List.mem_cons_of_mem _ hk
      · simp_all

theorem TunnelsExec.enumerate_not_mem {is : List (Instance τ)} {x : Ending Answer}
    (h : TunnelsExec c o fs is es x) : .enumerate ∉ es := by
  induction h with
  | exhausted => simp
  | next ht _ ih =>
      intro he
      exact (List.mem_append.mp he).elim ht.enumerate_not_mem ih
  | last fs rest ht _ =>
      intro he
      rcases List.mem_append.mp he with he | he
      · exact ht.enumerate_not_mem he
      · obtain ⟨j, r, hj⟩ | ⟨j, hj⟩ := ht.mem_rest rest _ he <;> cases hj

end Parts

/-- A log with one question to the catalog can be split at it in one way only. -/
theorem enumerate_split {u v u' v' : List (Event τ)} (hu : .enumerate ∉ u) (hv : .enumerate ∉ v)
    (h : u ++ .enumerate :: v = u' ++ .enumerate :: v') : u' = u ∧ v' = v := by
  rcases places_eq h with ⟨hu', -, hv'⟩ | ⟨t, -, rfl⟩ | ⟨t, rfl, -⟩
  · exact ⟨hu'.symm, hv'.symm⟩
  · exact absurd (List.mem_append_right t List.mem_cons_self) hv
  · exact absurd (List.mem_append_right u' List.mem_cons_self) hu

theorem handedOutIn_append (c : Collaborators σ τ) (session : Session) {u : List (Event τ)}
    (hu : .enumerate ∉ u) (v : List (Event τ)) (s : σ) :
    handedOutIn c session (u ++ .enumerate :: v) s = c.handedOut (replay c session u s) := by
  induction u generalizing s with
  | nil => rfl
  | cons e u ih =>
      have he : e ≠ .enumerate := fun h => hu (h ▸ List.mem_cons_self)
      have hu' : .enumerate ∉ u := fun h => hu (List.mem_cons_of_mem _ h)
      cases e with
      | enumerate => exact absurd rfl he
      | _ => exact ih hu' _

/-- After the direct paths, the tunnels that are handed out are those of the catalog then. -/
theorem DirectExec.handedOutIn {o : Order} {fs : List FailedPath} {ps : List Port} {es : List (Event τ)}
    {x : DirectEnd} (h : DirectExec o fs ps es x) (c : Collaborators σ τ) (v : List (Event τ)) (s : σ) :
    handedOutIn c o.session (.poll false :: (es ++ .enumerate :: v)) s =
      c.handedOut (replay c o.session (.poll false :: es) s) :=
  handedOutIn_append c o.session (u := .poll false :: es) (by simpa using h.enumerate_not_mem) v s

/-- A run that does not ask the catalog is about no tunnel of it. One that does has tried the direct
paths before, and chooses among what the catalog hands out; only what was chosen has a turn then. -/
theorem RunExec.chooses {c : Collaborators σ τ} {o : Order} {current : Option τ} {s : σ}
    {log : List (Event τ)} {x : Ending Answer} (h : RunExec c o current s log x) :
    (.enumerate ∉ log ∧ ∀ e ∈ log, e.tunnel? = none) ∨
      ∃ es ss kept ts fs, log = .poll false :: (es ++ .enumerate :: (ss ++ ts)) ∧
        Searches c o current s ∧ DirectExec o [] o.session.directPorts es (.failed fs) ∧
        SelectExec (handedOutIn c o.session log s) ss kept ∧ .enumerate ∉ ss ++ ts ∧
        (kept = [] ∧ ts = [] ∧ x = done (.failed (.noEligible fs)) ∨
          kept ≠ [] ∧ TunnelsExec c o fs kept ts x) := by
  cases h with
  | stopped | invalid _ | disallowed _ _ _ => exact .inl (by simp [Event.tunnel?])
  | current _ _ hc =>
      exact .inl (by simpa [Event.tunnel?] using ⟨hc.enumerate_not_mem, hc.tunnel?_eq_none⟩)
  | direct _ hd =>
      exact .inl (by simpa [Event.tunnel?] using ⟨hd.enumerate_not_mem, hd.tunnel?_eq_none⟩)
  | @noEligible es ss fs hs hd hk =>
      refine .inr ⟨es, ss, [], [], fs, by simp, hs, hd, ?_, ?_, .inl ⟨rfl, rfl, rfl⟩⟩
      · rwa [hd.handedOutIn]
      · simpa using hk.enumerate_not_mem
  | @tunnels es ss ts fs kept x hs hd hk hne ht =>
      refine .inr ⟨es, ss, kept, ts, fs, rfl, hs, hd, ?_, ?_, .inr ⟨hne, ht⟩⟩
      · rwa [hd.handedOutIn]
      · simp [hk.enumerate_not_mem, ht.enumerate_not_mem]

/-- A run is only about tunnels that the catalog hands out to it. -/
theorem RunExec.mem_handedOutIn {c : Collaborators σ τ} {o : Order} {current : Option τ} {s : σ}
    {log : List (Event τ)} {x : Ending Answer} (h : RunExec c o current s log x) {e : Event τ}
    (he : e ∈ log) {i : Instance τ} (hi : e.tunnel? = some i) : i ∈ handedOutIn c o.session log s := by
  rcases h.chooses with ⟨-, hn⟩ | ⟨es, ss, kept, ts, fs, hl, -, hd, hk, -, ht⟩
  · exact nomatch (hn e he).symm.trans hi
  · generalize handedOutIn c o.session log s = is at hk ⊢
    subst hl
    simp only [List.mem_cons, List.mem_append] at he
    rcases he with rfl | he | rfl | he | he
    · cases hi
    · exact nomatch (hd.tunnel?_eq_none e he).symm.trans hi
    · cases hi
    · obtain ⟨j, hj, ⟨b, rfl⟩ | rfl⟩ := hk.mem he <;> cases hi <;> exact hj
    · rcases ht with ⟨-, rfl, -⟩ | ⟨-, ht⟩
      · cases he
      · exact hk.sublist.subset (ht.mem_of_tunnel? e he hi)

/-- Before anything is done with a tunnel of the catalog, the catalog was asked. -/
theorem RunExec.enumerate_mem_of_tunnel? {c : Collaborators σ τ} {o : Order} {current : Option τ} {s : σ}
    {log : List (Event τ)} {x : Ending Answer} (h : RunExec c o current s log x) {u v : List (Event τ)}
    {e : Event τ} (hu : log = u ++ e :: v) {i : Instance τ} (hi : e.tunnel? = some i) :
    .enumerate ∈ u := by
  rcases h.chooses with ⟨-, hn⟩ | ⟨es, ss, kept, ts, fs, hl, -, hd, -⟩
  · exact nomatch (hn e (hu ▸ List.mem_append_right u List.mem_cons_self)).symm.trans hi
  · have hsplit : u ++ e :: v = (.poll false :: es) ++ .enumerate :: (ss ++ ts) := hu.symm.trans hl
    rcases places_eq hsplit with ⟨-, rfl, -⟩ | ⟨t, ht, -⟩ | ⟨t, rfl, -⟩
    · cases hi
    · -- The event would be one of the direct paths, and these are about no tunnel.
      have hdirect : e ∈ .poll false :: es := by
        rw [ht]
        exact List.mem_append_right u List.mem_cons_self
      rcases List.mem_cons.mp hdirect with rfl | he
      · cases hi
      · exact nomatch (hd.tunnel?_eq_none e he).symm.trans hi
    · exact List.mem_append_right _ List.mem_cons_self

/-- The catalog numbers the tunnels that it hands out. -/
theorem map_number_handedOut (c : Collaborators σ τ) (s : σ) :
    (c.handedOut s).map (·.number) = List.range' 0 (c.enumerate s).1.length := by
  simp only [Collaborators.handedOut, List.map_map, Function.comp_def]
  exact List.zipIdx_map_snd 0 _

theorem nodup_handedOut (c : Collaborators σ τ) (s : σ) :
    ((c.handedOut s).map (·.number)).Nodup := by
  rw [map_number_handedOut]
  exact List.nodup_range'

theorem nodup_handedOutIn (c : Collaborators σ τ) (session : Session) (es : List (Event τ)) (s : σ) :
    ((handedOutIn c session es s).map (·.number)).Nodup := by
  induction es generalizing s with
  | nil => simp [handedOutIn]
  | cons e es ih =>
      cases e with
      | enumerate => exact nodup_handedOut c s
      | _ => exact ih _

def Order.sample : Order where
  session := { address := "203.0.113.10", port := 8080, identity := .certificate [] }
  parameters := { path := "/status" }

def Script.noRoute : Reply Bytes := .error ⟨.connection, "no route"⟩

/-- A catalog of three tunnels, of which one changes its mind about handshakes. -/
def Script.sample (attempts : List (Reply Bytes)) : Script where
  catalog := [
    { name := "shy", kind := .http, handshakes := [false, true] },
    { name := "first", kind := .http, routes := false },
    { name := "second", kind := .socks5 }]
  attempts := attempts.map (⟨·, false⟩)

end RouteCascade.Cascade
