import RouteCascade.Proofs.Cascade.Agreement
import RouteCascade.Proofs.Cascade.Handshakes

/-!
# Tunnels that are never eligible

A catalog may hold tunnels that always need a handshake. One more of them, at any place, makes no
difference to a run but that it is asked once and given up, right after the tunnels in front of it were
asked; nor is it even asked by a run that does not get to the catalog. The tunnels behind it only have
other numbers.
-/
namespace RouteCascade.Cascade

open Text Net

variable {σ σ' τ : Type}

/-- The number of a tunnel once another one was put at place `n`. -/
def makeRoom (n k : Nat) : Nat := if k < n then k else k + 1

/-- The second catalog has one more tunnel, at place `n`. Whenever it is asked, it says that it needs a
handshake, and neither asking it nor giving it up makes a difference to the others. -/
structure AddsIneligible (c : Collaborators σ τ) (c' : Collaborators σ' τ) (session : Session) (n : Nat)
    (t : τ) (R : σ → σ' → Prop) : Prop extends Alike c c' session (makeRoom n) Eq R where
  enumerate : ∀ s s', R s s' → ∃ front back, (c.enumerate s).1 = front ++ back ∧ front.length = n ∧
    (c'.enumerate s').1 = front ++ t :: back ∧ R (c.enumerate s).2 (c'.enumerate s').2
  needs : ∀ s s', R s s' → (c'.requiresHandshake ⟨n, t⟩ session s').1 = true ∧
    R s (c'.requiresHandshake ⟨n, t⟩ session s').2
  leaves : ∀ s s', R s s' → R s (c'.dispose ⟨n, t⟩ s')

/-- The events of a log with those of one more tunnel, which is asked and given up after the `n` tunnels
in front of it were asked. -/
inductive Interposed (n : Nat) (t : τ) : List (Event τ) → List (Event τ) → Prop
  | nil : Interposed n t [] []
  | event {e : Event τ} {xs ys : List (Event τ)} : e ≠ .enumerate → Interposed n t xs ys →
      Interposed n t (e :: xs) (e.renumber (makeRoom n) :: ys)
  | choice {asked : List (Instance τ × Bool)} {xs ys : List (Event τ)} :
      asked.map (·.1.number) = List.range n → Interposed n t xs ys →
      Interposed n t (.enumerate :: (asked.flatMap screening ++ xs))
        (.enumerate :: (asked.flatMap screening ++ .handshake ⟨n, t⟩ true :: .dispose ⟨n, t⟩ :: ys))

section Logs
variable {n : Nat} {t : τ} {xs xs' ys ys' : List (Event τ)}

theorem makeRoom_injective (n : Nat) : Function.Injective (makeRoom n) := by
  intro k m h
  unfold makeRoom at h
  split at h <;> split at h <;> omega

theorem makeRoom_ne (n k : Nat) : makeRoom n k ≠ n := by
  unfold makeRoom
  split <;> omega

/-- Events about no tunnel, or about one in front, keep their numbers. -/
theorem renumber_of_lt {e : Event τ} (h : ∀ i, e.tunnel? = some i → i.number < n) :
    e.renumber (makeRoom n) = e := by
  have hi : ∀ i : Instance τ, i.number < n → i.renumber (makeRoom n) = i := fun i hi => by
    simp [Instance.renumber, makeRoom, hi]
  cases e with
  | attempt a r =>
      obtain ⟨_, _, _, _, carrier⟩ := a
      cases carrier with
      | temporary i => simp [Event.renumber, Attempt.renumber, Carrier.renumber, hi i (h i rfl)]
      | _ => rfl
  | handshake i b => simp [Event.renumber, hi i (h i rfl)]
  | connect i r => simp [Event.renumber, hi i (h i rfl)]
  | disconnect i r => simp [Event.renumber, hi i (h i rfl)]
  | dispose i => simp [Event.renumber, hi i (h i rfl)]
  | _ => rfl

theorem map_renumber_of_lt (h : ∀ e ∈ xs, ∀ i, e.tunnel? = some i → i.number < n) :
    xs.map (Event.renumber (makeRoom n)) = xs := by
  rw [List.map_congr_left fun e he => renumber_of_lt (h e he), List.map_id']

theorem map_renumber_of_tunnel?_eq_none (h : ∀ e ∈ xs, e.tunnel? = none) :
    xs.map (Event.renumber (makeRoom n)) = xs :=
  map_renumber_of_lt fun e he _ hi => nomatch (h e he).symm.trans hi

theorem Interposed.append (h : Interposed n t xs ys) (h' : Interposed n t xs' ys') :
    Interposed n t (xs ++ xs') (ys ++ ys') := by
  induction h with
  | nil => exact h'
  | event he _ ih => exact .event he ih
  | choice hasked _ ih =>
      have hc := Interposed.choice (t := t) hasked ih
      simpa only [List.append_assoc, List.cons_append] using hc

/-- Without a question to the catalog nothing is added. -/
theorem Interposed.eq_map (h : Interposed n t xs ys) (he : .enumerate ∉ xs) :
    ys = xs.map (Event.renumber (makeRoom n)) := by
  induction h with
  | nil => rfl
  | event _ _ ih => rw [List.map_cons, ← ih fun hx => he (List.mem_cons_of_mem _ hx)]
  | choice _ _ _ => exact absurd List.mem_cons_self he

/-- With one question to the catalog it is known where the tunnel is asked. -/
theorem Interposed.at_choice (h : Interposed n t xs ys) {u v : List (Event τ)}
    (hx : xs = u ++ .enumerate :: v) (hu : .enumerate ∉ u) (hv : .enumerate ∉ v) :
    ∃ (asked : List (Instance τ × Bool)) (w : List (Event τ)),
      asked.map (·.1.number) = List.range n ∧ v = asked.flatMap screening ++ w ∧
      ys = u.map (Event.renumber (makeRoom n)) ++ .enumerate :: (asked.flatMap screening ++
        .handshake ⟨n, t⟩ true :: .dispose ⟨n, t⟩ :: w.map (Event.renumber (makeRoom n))) := by
  induction h generalizing u with
  | nil => cases u <;> cases hx
  | @event e xs ys he _ ih =>
      cases u with
      | nil => exact absurd (List.cons.inj hx).1 he
      | cons d u =>
          obtain ⟨rfl, hxs⟩ := List.cons.inj hx
          obtain ⟨asked, w, hasked, hw, rfl⟩ := ih hxs fun h => hu (List.mem_cons_of_mem _ h)
          exact ⟨asked, w, hasked, hw, rfl⟩
  | @choice asked xs ys hasked h _ =>
      cases u with
      | cons d u =>
          obtain ⟨rfl, -⟩ := List.cons.inj hx
          exact absurd List.mem_cons_self hu
      | nil =>
          obtain ⟨-, rfl⟩ := List.cons.inj hx
          have hxs : .enumerate ∉ xs := fun h => hv (List.mem_append_right _ h)
          rw [h.eq_map hxs]
          exact ⟨asked, xs, hasked, rfl, rfl⟩

theorem compares_interposed (n : Nat) (t : τ) : Compares (makeRoom n) Eq (Interposed n t) where
  nil := .nil
  append := .append
  event _ he := .event he .nil
  disconnect := by rintro i r _ rfl; exact .event nofun .nil
  endsAs := .inl

end Logs

section Choice
variable {c : Collaborators σ τ} {session : Session}

theorem keepEligible_append (xs ys : List (Instance τ)) :
    keepEligible c session (xs ++ ys) = (do
      let front ← keepEligible c session xs
      let back ← keepEligible c session ys
      pure (front ++ back)) := by
  induction xs with
  | nil =>
      funext s
      simp [keepEligible]
  | cons x xs ih =>
      funext s
      simp only [keepEligible, List.cons_append, ih, Act.bind_apply]
      cases (c.askHandshake session x s).1 <;> simp [List.append_assoc]

def numbered (ts : List τ) (n : Nat) : List (Instance τ) := (ts.zipIdx n).map fun (t, n) => ⟨n, t⟩

theorem handedOut_eq (s : σ) : c.handedOut s = numbered (c.enumerate s).1 0 := rfl

theorem numbered_append (ts us : List τ) (n : Nat) :
    numbered (ts ++ us) n = numbered ts n ++ numbered us (n + ts.length) := by
  simp [numbered, List.zipIdx_append]

theorem map_number_numbered (ts : List τ) (n : Nat) :
    (numbered ts n).map (·.number) = List.range' n ts.length := by
  simp only [numbered, List.map_map, Function.comp_def]
  exact List.zipIdx_map_snd n ts

/-- Tunnels in front keep their numbers. -/
theorem map_renumber_front {n : Nat} (ts : List τ) (h : ts.length = n) :
    (numbered ts 0).map (·.renumber (makeRoom n)) = numbered ts 0 := by
  have hfix : ∀ i ∈ numbered ts 0, i.renumber (makeRoom n) = i := by
    intro i hi
    have hmem := List.mem_map_of_mem (f := (·.number)) hi
    rw [map_number_numbered, List.mem_range'_1] at hmem
    have hlt : i.number < n := by omega
    simp [Instance.renumber, makeRoom, hlt]
  rw [List.map_congr_left hfix, List.map_id']

/-- Tunnels behind move on by one. -/
theorem map_renumber_back (n : Nat) (ts : List τ) :
    (numbered ts n).map (·.renumber (makeRoom n)) = numbered ts (n + 1) := by
  have hmove : ∀ p ∈ ts.zipIdx n, (⟨p.2, p.1⟩ : Instance τ).renumber (makeRoom n) = ⟨p.2 + 1, p.1⟩ := by
    intro p hp
    have hle : n ≤ p.2 := List.le_snd_of_mem_zipIdx hp
    simp [Instance.renumber, makeRoom, Nat.not_lt.mpr hle]
  rw [numbered, numbered, List.zipIdx_succ, List.map_map, List.map_map]
  exact List.map_congr_left hmove

end Choice

section Runs
variable {c : Collaborators σ τ} {c' : Collaborators σ' τ} {n : Nat} {t : τ} {R : σ → σ' → Prop}

/-- A tunnel that is never eligible is asked and given up, and the others are chosen from as before. -/
theorem AddsIneligible.agrees_skip {session : Session} (h : AddsIneligible c c' session n t R)
    (is : List (Instance τ)) {s : σ} {s' : σ'} (hs : R s s') :
    ∃ ys, (keepEligible c' session (⟨n, t⟩ :: is.map (·.renumber (makeRoom n)))).events s' =
        .handshake ⟨n, t⟩ true :: .dispose ⟨n, t⟩ :: ys ∧
      Interposed n t ((keepEligible c session is).events s) ys ∧
      (keepEligible c' session (⟨n, t⟩ :: is.map (·.renumber (makeRoom n)))).result s' =
        ((keepEligible c session is).result s).map (·.renumber (makeRoom n)) ∧
      R ((keepEligible c session is).final s)
        ((keepEligible c' session (⟨n, t⟩ :: is.map (·.renumber (makeRoom n)))).final s') := by
  obtain ⟨hneeds, hs₁⟩ := h.needs s s' hs
  have hs₂ := h.leaves _ _ hs₁
  have hkeep := agrees_keepEligible (compares_interposed n t) h.toAlike is
  simp only [keepEligible, Collaborators.askHandshake, Collaborators.discard, Act.events_bind,
    Act.result_bind, Act.final_bind, Act.events_call, Act.result_call, Act.final_call, hneeds, if_true]
  exact ⟨_, rfl, hkeep.events _ _ hs₂, hkeep.result _ _ hs₂, hkeep.final _ _ hs₂⟩

theorem AddsIneligible.agrees_select {session : Session} (h : AddsIneligible c c' session n t R) :
    (select c session).Agrees R (Interposed n t) (fun is is' => is' = is.map (·.renumber (makeRoom n)))
      (select c' session) := by
  -- All three parts follow the choice among the tunnels in front, the new one, and those behind it.
  have hchoice : ∀ s s', R s s' →
      Interposed n t ((select c session).events s) ((select c' session).events s') ∧
        (select c' session).result s' =
          ((select c session).result s).map (·.renumber (makeRoom n)) ∧
        R ((select c session).final s) ((select c' session).final s') := by
    intro s s' hs
    obtain ⟨front, back, hts, hlen, hts', hs₁⟩ := h.enumerate s s' hs
    have hout : c.handedOut s = numbered front 0 ++ numbered back n := by
      rw [handedOut_eq, hts, numbered_append, Nat.zero_add, hlen]
    have hout' : c'.handedOut s' =
        numbered front 0 ++ ⟨n, t⟩ :: (numbered back n).map (·.renumber (makeRoom n)) := by
      rw [handedOut_eq, hts', numbered_append, Nat.zero_add, hlen, map_renumber_back]
      rfl
    have hfront := agrees_keepEligible (compares_interposed n t) h.toAlike (numbered front 0)
    rw [map_renumber_front front hlen] at hfront
    have hlog := hfront.events _ _ hs₁
    have hkept := hfront.result _ _ hs₁
    have hs₂ := hfront.final _ _ hs₁
    obtain ⟨ys, hevents, hback, hresult, hs₃⟩ := h.agrees_skip (numbered back n) hs₂
    have hexec := keepEligible_exec c session (numbered front 0) (c.enumerate s).2
    obtain ⟨asked, hasked, hscreened, -⟩ := hexec.asked
    have hnumbers : asked.map (·.1.number) = List.range n := by
      have hmap := map_number_numbered front 0
      rw [← hasked, List.map_map, hlen, ← List.range_eq_range'] at hmap
      exact hmap
    have hsame : (keepEligible c' session (numbered front 0)).events (c'.enumerate s').2 =
        asked.flatMap screening := by
      rw [hlog.eq_map hexec.enumerate_not_mem, hscreened]
      apply map_renumber_of_lt
      intro e he i hi
      obtain ⟨j, hj, ⟨b, rfl⟩ | rfl⟩ := hexec.mem (hscreened ▸ he)
      all_goals
        cases hi
        have hmem := List.mem_map_of_mem (f := (·.number)) hj
        rw [map_number_numbered, List.mem_range'_1] at hmem
        omega
    simp only [select, Act.events_bind, Act.result_bind, Act.final_bind, Collaborators.events_askCatalog,
      Collaborators.result_askCatalog, Collaborators.final_askCatalog, hout, hout', keepEligible_append,
      Act.events_pure, Act.result_pure, Act.final_pure, List.append_nil, List.cons_append,
      List.nil_append]
    rw [hevents, hsame, hscreened, hresult, hkept, List.map_append]
    exact ⟨.choice hnumbers hback, rfl, hs₃⟩
  constructor
  · intro s s' hs
    exact (hchoice s s' hs).1
  · intro s s' hs
    exact (hchoice s s' hs).2.1
  · intro s s' hs
    exact (hchoice s s' hs).2.2

end Runs

/-- What the logs and the endings of two runs tell, of which the second has one more tunnel, at place `n`. -/
structure SetsAside (n : Nat) (t : τ) (log log' : List (Event τ)) (ending ending' : Ending Answer) :
    Prop where
  ending : ending' = ending
  /-- Without a question to the catalog there is no difference at all. -/
  idle : .enumerate ∉ log → log' = log
  /-- The tunnel is asked and given up after the `n` tunnels in front of it were asked. -/
  chosen : ∀ u v, log = u ++ .enumerate :: v → ∃ (asked : List (Instance τ × Bool)) (w : List (Event τ)),
    asked.map (·.1.number) = List.range n ∧ v = asked.flatMap screening ++ w ∧
    log' = u ++ .enumerate :: (asked.flatMap screening ++ .handshake ⟨n, t⟩ true :: .dispose ⟨n, t⟩ ::
      w.map (Event.renumber (makeRoom n)))

/-- One more tunnel that always needs a handshake changes neither what a run returns nor what it does, but
for one question to that tunnel. -/
theorem setsAside_run {c : Collaborators σ τ} {c' : Collaborators σ' τ} {o : Order} {n : Nat} {t : τ}
    {R : σ → σ' → Prop} (h : AddsIneligible c c' o.session n t R) (current : Option τ) {s : σ} {s' : σ'}
    (hs : R s s') :
    SetsAside n t ((run c o current).events s) ((run c' o current).events s')
      ((run c o current).result s) ((run c' o current).result s') := by
  have hrun := agrees_run (compares_interposed n t) h.toAlike h.agrees_select current
  have hexec := run_exec c o current s
  have hlogs := hrun.events s s' hs
  have hending := hrun.result s s' hs
  generalize (run c o current).events s = log at hexec hlogs ⊢
  generalize (run c' o current).events s' = log' at hlogs ⊢
  generalize (run c o current).result s = ending at hexec hending ⊢
  refine ⟨hending.symm, ?_, ?_⟩
  · intro he
    rcases hexec.chooses with ⟨-, hnone⟩ | ⟨ds, ss, kept, ts, fs, rfl, -⟩
    · rw [hlogs.eq_map he, map_renumber_of_tunnel?_eq_none hnone]
    · exact absurd (by simp) he
  · intro u v huv
    rcases hexec.chooses with ⟨he, -⟩ | ⟨ds, ss, kept, ts, fs, hl, -, hd, -, hv, -⟩
    · exact absurd (by simp [huv]) he
    · have hu : .enumerate ∉ .poll false :: ds := by simp [hd.enumerate_not_mem]
      obtain ⟨rfl, rfl⟩ := enumerate_split hu hv (hl.symm.trans huv)
      obtain ⟨asked, w, hasked, hw, rfl⟩ := hlogs.at_choice huv hu hv
      have hfree : ∀ e ∈ .poll false :: ds, e.tunnel? = none :=
        List.forall_mem_cons.mpr ⟨rfl, hd.tunnel?_eq_none⟩
      rw [map_renumber_of_tunnel?_eq_none hfree]
      exact ⟨asked, w, hasked, hw, rfl⟩

structure Script.Adds (n : Nat) (t : ScriptedTunnel) (s s' : Script) : Prop where
  catalog : ∃ front back, s.catalog = front ++ back ∧ front.length = n ∧ s'.catalog = front ++ t :: back
  attempts : s'.attempts = s.attempts
  stopped : s'.stopped = s.stopped
  stopAtPoll : s'.stopAtPoll = s.stopAtPoll
  polls : s'.polls = s.polls
  asked : ∀ k, s'.asked.count (makeRoom n k) = s.asked.count k

section Scripts
variable {n : Nat} {t : ScriptedTunnel} {s s' : Script}

theorem Script.Adds.play {α : Type} (h : s.Adds n t s') (cue : Cue α) :
    (s.play cue).2.Adds n t (s'.play cue).2 where
  catalog := h.catalog
  attempts := h.attempts
  stopped := by simp only [Script.play, h.stopped]
  stopAtPoll := h.stopAtPoll
  polls := h.polls
  asked := h.asked

theorem Script.Adds.handshakeAnswer (h : s.Adds n t s') (i : Instance ScriptedTunnel) :
    s'.handshakeAnswer (i.renumber (makeRoom n)) = s.handshakeAnswer i := by
  simp only [Script.handshakeAnswer, Instance.renumber, h.asked]

/-- A script never runs out of answers on handshakes, since the last one is given again and again. -/
theorem Script.handshakeAnswer_eq_true (s : Script) {i : Instance ScriptedTunnel}
    (hne : i.tunnel.handshakes ≠ []) (hall : ∀ b ∈ i.tunnel.handshakes, b = true) :
    s.handshakeAnswer i = true := by
  have hpos : 0 < i.tunnel.handshakes.length := List.length_pos_iff.mpr hne
  have hlt : min (s.asked.count i.number) (i.tunnel.handshakes.length - 1) <
      i.tunnel.handshakes.length := by omega
  rw [Script.handshakeAnswer, List.getElem?_eq_getElem hlt, Option.getD_some]
  exact hall _ (List.getElem_mem hlt)

theorem addsIneligible_script (background : Bool) (session : Session) (n : Nat)
    (hne : t.handshakes ≠ []) (hall : ∀ b ∈ t.handshakes, b = true) :
    AddsIneligible (Script.collaborators background) (Script.collaborators background) session n t
      (Script.Adds n t) where
  name := rfl
  kind := rfl
  routes := rfl
  background := rfl
  isConnected _ _ _ _ := rfl
  poll s s' h := by
    simp only [Script.collaborators, h.polls, h.stopped, h.stopAtPoll, true_and]
    exact { h with polls := rfl, stopped := rfl, stopAtPoll := rfl }
  attempt s s' h a := by
    have hnext : Script.Adds n t { s with attempts := s.attempts.drop 1 }
        { s' with attempts := s.attempts.drop 1 } := { h with attempts := rfl }
    simp only [Script.collaborators, h.attempts]
    exact ⟨rfl, hnext.play _⟩
  requiresHandshake s s' h i := by
    refine ⟨h.handshakeAnswer i, { h with asked := fun k => ?_ }⟩
    simp only [Script.collaborators, Instance.renumber, List.count_cons, h.asked, beq_iff_eq,
      (makeRoom_injective n).eq_iff]
  connect s s' h i := ⟨rfl, h.play _⟩
  disconnect s s' h i := ⟨rfl, h.play _⟩
  dispose s s' h i := h
  enumerate s s' h := by
    obtain ⟨front, back, hfront, hlen, hback⟩ := h.catalog
    exact ⟨front, back, hfront, hlen, hback, { h with asked := fun _ => rfl }⟩
  needs s s' h := by
    refine ⟨s'.handshakeAnswer_eq_true hne hall, { h with asked := fun k => ?_ }⟩
    simp only [Script.collaborators, List.count_cons, h.asked, beq_iff_eq, (makeRoom_ne n k).symm, if_false,
      Nat.add_zero]
  leaves s s' h := h

end Scripts

theorem setsAside_veiled :
    let c := Script.collaborators true
    let t : ScriptedTunnel := { name := "veiled", kind := .http, handshakes := [true] }
    let s := Script.sample [Script.noRoute, Script.noRoute, Script.noRoute, .ok [79, 75]]
    let s' := { s with catalog := s.catalog.insertIdx 1 t }
    AddsIneligible c c Order.sample.session 1 t (Script.Adds 1 t) ∧ s.Adds 1 t s' ∧
      (run c Order.sample none).result s = done (.success [79, 75]) ∧
      SetsAside 1 t ((run c Order.sample none).events s) ((run c Order.sample none).events s')
        ((run c Order.sample none).result s) ((run c Order.sample none).result s') := by
  intro c t s s'
  have hc := addsIneligible_script (t := t) true Order.sample.session 1 (by decide) (by decide)
  have hs : s.Adds 1 t s' := ⟨⟨[_], [_, _], rfl, rfl, rfl⟩, rfl, rfl, rfl, rfl, fun _ => rfl⟩
  exact ⟨hc, hs, by decide +kernel, setsAside_run hc none hs⟩

end RouteCascade.Cascade
