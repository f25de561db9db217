import RouteCascade.Proofs.Cascade.Log
import Mathlib.Data.List.Nodup

/-!
# Handshakes

A tunnel is asked twice whether it needs a handshake: when the tunnels of the catalog are chosen from,
and again in its own turn, since the answer may have changed. It is connected only if it said no both
times.
-/
namespace RouteCascade.Cascade

open Text Net

variable {σ τ : Type}

namespace Event

def asks? : Event τ → Option (Instance τ)
  | .handshake i _ => some i
  | _ => none

def refuses? : Event τ → Option (Instance τ)
  | .handshake i true => some i
  | _ => none

def answer? (n : Nat) : Event τ → Option Bool
  | .handshake i b => if i.number = n then some b else none
  | _ => none

end Event

def answers (n : Nat) (es : List (Event τ)) : List Bool := es.filterMap (Event.answer? n)

/-- What it takes to ask a tunnel, given its answer, when tunnels are chosen. -/
def screening : Instance τ × Bool → List (Event τ)
  | (i, true) => [.handshake i true, .dispose i]
  | (i, false) => [.handshake i false]

/-- The tunnels that said that they need no handshake. -/
def candidates (asked : List (Instance τ × Bool)) : List (Instance τ) :=
  (asked.filter fun p => !p.2).map (·.1)

/-- The run failed after its last tunnel. -/
def Exhausts (x : Ending Answer) : Prop := ∃ fs, x = done (.failed (.exhausted fs))

/-- In the turns of tunnels, a fresh answer decides whether a tunnel is connected. The stop signal is asked
just before; a tunnel that refuses is given up, and the next one has its turn if there is one. -/
def AskedAgain (x : Ending Answer) (u : List (Event τ)) : Event τ → List (Event τ) → Prop
  | .poll false, v => (∃ u' i, u = u' ++ [.connect i (.ok ())]) ∨ ∃ i b v', v = .handshake i b :: v'
  | .handshake i true, v => (∃ u', u = u' ++ [.poll false]) ∧
      ∃ v', v = .dispose i :: v' ∧ (v' = [] ∧ Exhausts x ∨ ∃ b v'', v' = .poll b :: v'')
  | .handshake i false, v => (∃ u', u = u' ++ [.poll false]) ∧ ∃ r v', v = .connect i r :: v'
  | .connect i _, _ => ∃ u', u = u' ++ [.poll false, .handshake i false]
  | _, _ => True

theorem stable_askedAgain (x : Ending Answer) : Stable (AskedAgain (τ := τ) x) := by
  intro w u e v h
  match e, h with
  | .poll false, .inl ⟨u', i, hu⟩ => exact .inl ⟨w ++ u', i, by simp [hu]⟩
  | .poll false, .inr hv => exact .inr hv
  | .handshake _ true, ⟨⟨u', hu⟩, hv⟩ => exact ⟨⟨w ++ u', by simp [hu]⟩, hv⟩
  | .handshake _ false, ⟨⟨u', hu⟩, hv⟩ => exact ⟨⟨w ++ u', by simp [hu]⟩, hv⟩
  | .connect _ _, ⟨u', hu⟩ => exact ⟨w ++ u', by simp [hu]⟩
  | .poll true, _ | .attempt .., _ | .enumerate, _ | .disconnect .., _ | .dispose _, _ | .abandon, _ =>
      trivial

@[simp] theorem answers_append (n : Nat) (xs ys : List (Event τ)) :
    answers n (xs ++ ys) = answers n xs ++ answers n ys :=
  List.filterMap_append

def Silent (n : Nat) (es : List (Event τ)) : Prop :=
  ∀ e ∈ es, ∀ i, e.tunnel? = some i → i.number ≠ n

theorem Silent.answers {n : Nat} {es : List (Event τ)} (h : Silent n es) : answers n es = [] := by
  refine List.filterMap_eq_nil_iff.mpr fun e he => ?_
  cases e with
  | handshake i b => exact if_neg (h _ he i rfl)
  | _ => rfl

theorem silent_of_forall {es : List (Event τ)} (h : ∀ e ∈ es, e.tunnel? = none) (n : Nat) : Silent n es :=
  fun e he _ hi => nomatch (h e he).symm.trans hi

section Parts
variable {c : Collaborators σ τ} {o : Order} {fs : List FailedPath} {es : List (Event τ)}

/-- Choosing asks every tunnel once, in their order, and keeps those that say that they need no
handshake. -/
theorem SelectExec.asked {is kept : List (Instance τ)} (h : SelectExec is es kept) :
    ∃ asked : List (Instance τ × Bool), asked.map (·.1) = is ∧ es = asked.flatMap screening ∧
      kept = candidates asked := by
  induction h with
  | nil => exact ⟨[], rfl, rfl, rfl⟩
  | @refused i is kept es _ ih =>
      obtain ⟨asked, rfl, rfl, rfl⟩ := ih
      exact ⟨(i, true) :: asked, rfl, rfl, rfl⟩
  | @kept i is kept es _ ih =>
      obtain ⟨asked, rfl, rfl, rfl⟩ := ih
      exact ⟨(i, false) :: asked, rfl, rfl, rfl⟩

theorem TurnExec.starts {i : Instance τ} {x : Ending (Except Failure Outcome)} {late : List (Event τ)}
    (h : TurnExec c o i es x late) : ∃ b v, es = .poll b :: v := by
  cases h <;> exact ⟨_, _, rfl⟩

theorem TunnelsExec.starts {is : List (Instance τ)} {x : Ending Answer} (h : TunnelsExec c o fs is es x) :
    es = [] ∧ is = [] ∧ Exhausts x ∨ ∃ b v, es = .poll b :: v := by
  cases h with
  | exhausted => exact .inl ⟨rfl, rfl, fs, rfl⟩
  | next ht _ =>
      obtain ⟨b, v, rfl⟩ := ht.starts
      exact .inr ⟨b, _, rfl⟩
  | last _ _ ht _ =>
      obtain ⟨b, v, rfl⟩ := ht.starts
      exact .inr ⟨b, _, rfl⟩

/-- A turn keeps to the order of questions, provided that after a refusal another turn comes or the run
is over. -/
theorem TurnExec.askedAgain {i : Instance τ} {x : Ending (Except Failure Outcome)} {late : List (Event τ)}
    (h : TurnExec c o i es x late) {ys : List (Event τ)} {y : Ending Answer}
    (hys : ∀ e, x = .returned (.error e) → ys = [] ∧ Exhausts y ∨ ∃ b v, ys = .poll b :: v) :
    Everywhere (fun u e v => AskedAgain y u e (v ++ ys)) es := by
  -- The second question to the stop signal comes right after the tunnel was connected.
  have hc : ∃ (u' : List (Event τ)) (j : Instance τ),
      [.poll false, .handshake i false, .connect i (.ok ())] = u' ++ [.connect j (.ok ())] :=
    ⟨[.poll false, .handshake i false], i, rfl⟩
  cases h with
  | refused => simpa [AskedAgain] using hys
  | unused hr => cases hr <;> simp [AskedAgain]
  | used _ hr => cases hr <;> simpa [AskedAgain] using hc
  | left hl => cases hl <;> simpa [AskedAgain] using hc
  | _ => simp [AskedAgain]

theorem TunnelsExec.askedAgain {is : List (Instance τ)} {x : Ending Answer}
    (h : TunnelsExec c o fs is es x) : Everywhere (AskedAgain x) es := by
  induction h with
  | exhausted => exact everywhere_nil _
  | next ht hn ih =>
      refine .append (stable_askedAgain _) (ht.askedAgain fun _ _ => ?_) ih
      exact hn.starts.imp_left fun h => ⟨h.1, h.2.2⟩
  | @last fs i rest es late x y ht hx =>
      have hne : ∀ e, x ≠ .returned (.error e) := by
        rintro e rfl
        cases hx
      refine .append (stable_askedAgain y) (ht.askedAgain fun e he => absurd he (hne e)) ?_
      refine everywhere_of_forall fun u e he v => ?_
      obtain ⟨j, r, rfl⟩ | ⟨j, rfl⟩ := ht.mem_rest rest e he <;> trivial

/-- In its turn a tunnel is asked again at most once. -/
theorem TurnExec.asks {i : Instance τ} {x : Ending (Except Failure Outcome)} {late : List (Event τ)}
    (h : TurnExec c o i es x late) : late.filterMap Event.asks? = [] ∧
      (es.filterMap Event.asks? = [i] ∨ es.filterMap Event.asks? = [] ∧ x = .returned (.ok .cancelled)) := by
  cases h with
  | stopped => exact ⟨rfl, .inr ⟨rfl, rfl⟩⟩
  | unused hr => cases hr <;> exact ⟨rfl, .inl rfl⟩
  | used _ hr => cases hr <;> exact ⟨rfl, .inl rfl⟩
  | left hl => cases hl <;> exact ⟨rfl, .inl rfl⟩
  | _ => exact ⟨rfl, .inl rfl⟩

/-- The report of a run that failed is not made in a turn. -/
theorem TurnExec.closing?_ne_failed {i : Instance τ} {x : Ending (Except Failure Outcome)}
    {late : List (Event τ)} (h : TurnExec c o i es x late) (r : Reason) :
    x.closing? ≠ some (done (.failed r)) := by
  cases h with
  | unused hr => cases hr <;> simp [Ending.releasedBy, Ending.closing?, done]
  | @used a _ _ _ hr =>
      cases hr with
      | returned => cases a <;> simp [Ending.releasedBy, Reply.verdict, Ending.closing?, done]
      | _ => simp [Ending.releasedBy, Ending.closing?, done]
  | _ => simp [Ending.closing?, done]

/-- The tunnels that are asked again are the first ones, in their order. -/
theorem TunnelsExec.asks {is : List (Instance τ)} {x : Ending Answer} (h : TunnelsExec c o fs is es x) :
    es.filterMap Event.asks? <+: is ∧
      ∀ gs, x = done (.failed (.exhausted gs)) → es.filterMap Event.asks? = is := by
  induction h with
  | exhausted => simp
  | @next fs i rest e es es' x ht _ ih =>
      have hi : es.filterMap Event.asks? = [i] := by simpa using ht.asks.2
      obtain ⟨hp, hx⟩ := ih
      rw [List.filterMap_append, hi]
      refine ⟨(List.prefix_cons_inj i).mpr hp, fun gs hgs => ?_⟩
      rw [hx gs hgs]
      rfl
  | @last fs i rest es late x y ht hx =>
      obtain ⟨hl, hi⟩ := ht.asks
      have hd : (rest.map Event.dispose).filterMap Event.asks? = [] := by simp [Event.asks?]
      rw [List.filterMap_append, List.filterMap_append, hl, hd, List.append_nil, List.append_nil]
      constructor
      · rcases hi with hi | ⟨hi, -⟩ <;> simp [hi]
      · rintro gs rfl
        exact absurd hx (ht.closing?_ne_failed _)

def refusal (c : Collaborators σ τ) (i : Instance τ) : FailedPath :=
  ⟨c.pathOver i, Connection.handshakeFailure (c.name i.tunnel)⟩

/-- A turn that fails reports a refusal if it was one. -/
theorem TurnExec.refuses {i : Instance τ} {e : Failure} {late : List (Event τ)}
    (h : TurnExec c o i es (.returned (.error e)) late) :
    ((es.filterMap Event.refuses?).map (refusal c)).Sublist [⟨c.pathOver i, e⟩] := by
  generalize hx : Ending.returned (Except.error e) = x at h
  cases h with
  | refused =>
      cases hx
      exact .refl _
  | unreachable => exact List.nil_sublist _
  | used _ hr => cases hr <;> exact List.nil_sublist _
  | unused hr => cases hr <;> exact List.nil_sublist _
  | _ => cases hx

/-- Every refusal is reported, in its order, by a run that fails after its last tunnel. -/
theorem TunnelsExec.refuses {is : List (Instance τ)} {x : Ending Answer} (h : TunnelsExec c o fs is es x) :
    ∀ gs, x = done (.failed (.exhausted gs)) →
      (fs ++ (es.filterMap Event.refuses?).map (refusal c)).Sublist gs := by
  induction h with
  | exhausted fs =>
      rintro gs hgs
      cases hgs
      simp
  | @next fs i rest e es es' x ht _ ih =>
      intro gs hgs
      refine List.Sublist.trans ?_ (ih gs hgs)
      rw [List.filterMap_append, List.map_append, ← List.append_assoc]
      exact .append (.append (.refl fs) ht.refuses) (.refl _)
  | last fs rest ht hx =>
      rintro gs rfl
      exact absurd hx (ht.closing?_ne_failed _)

/-- A tunnel is connected in its turn after it said no. -/
theorem TurnExec.answers_of_connect {i j : Instance τ} {r : Reply Unit}
    {x : Ending (Except Failure Outcome)} {late : List (Event τ)} (h : TurnExec c o i es x late)
    (hj : .connect j r ∈ es) : answers i.number es = [false] := by
  cases h with
  | stopped | refused => simp at hj
  | unused hr => cases hr <;> simp [answers, List.filterMap_cons, Event.answer?]
  | used _ hr => cases hr <;> simp [answers, List.filterMap_cons, Event.answer?]
  | left hl => cases hl <;> simp [answers, List.filterMap_cons, Event.answer?]
  | _ => simp [answers, List.filterMap_cons, Event.answer?]

/-- Among tunnels with numbers of their own, nothing happens to the others in the turn of one. -/
theorem TurnExec.silent {i : Instance τ} {x : Ending (Except Failure Outcome)} {late : List (Event τ)}
    (h : TurnExec c o i es x late) {n : Nat} (hn : i.number ≠ n) : Silent n es := by
  intro e he j hj
  rcases h.tunnel? e (List.mem_append_left _ he) with ht | ht
  · cases ht.symm.trans hj
  · cases ht.symm.trans hj
    exact hn

theorem TunnelsExec.silent {is : List (Instance τ)} {x : Ending Answer} (h : TunnelsExec c o fs is es x)
    {n : Nat} (hn : n ∉ is.map (·.number)) : Silent n es := by
  rintro e he j hj rfl
  exact hn (List.mem_map_of_mem (h.mem_of_tunnel? e he hj))

theorem TunnelsExec.answers_of_connect {is : List (Instance τ)} {x : Ending Answer}
    (h : TunnelsExec c o fs is es x) (hn : (is.map (·.number)).Nodup) {j : Instance τ} {r : Reply Unit}
    (hj : .connect j r ∈ es) : answers j.number es = [false] := by
  induction h with
  | exhausted => cases hj
  | @next fs i rest e es es' x ht hr ih =>
      obtain ⟨hi, hn⟩ := List.nodup_cons.mp hn
      rw [answers_append]
      rcases List.mem_append.mp hj with hj | hj
      · have hji := ht.tunnel? _ (List.mem_append_left _ hj)
        obtain rfl : j = i := by simpa [Event.tunnel?] using hji
        rw [ht.answers_of_connect hj, (hr.silent hi).answers]
        rfl
      · have hm := List.mem_map_of_mem (f := (·.number)) (hr.mem_of_tunnel? _ hj rfl)
        have hne : i.number ≠ j.number := fun hij => hi (by simpa [hij] using hm)
        rw [(ht.silent hne).answers, ih hn hj]
        rfl
  | @last fs i rest es late x y ht _ =>
      have hr : answers j.number (rest.map .dispose ++ late) = [] := by
        refine List.filterMap_eq_nil_iff.mpr fun e he => ?_
        obtain ⟨k, r, rfl⟩ | ⟨k, rfl⟩ := ht.mem_rest rest e he <;> rfl
      have hj : .connect j r ∈ es := by
        refine (List.mem_append.mp hj).resolve_right fun he => ?_
        obtain ⟨k, r, hk⟩ | ⟨k, hk⟩ := ht.mem_rest rest _ he <;> cases hk
      have hji := ht.tunnel? _ (List.mem_append_left _ hj)
      obtain rfl : j = i := by simpa [Event.tunnel?] using hji
      rw [answers_append, ht.answers_of_connect hj, hr]
      rfl

theorem answers_screening_cons (n : Nat) (p : Instance τ × Bool) (asked : List (Instance τ × Bool)) :
    answers n ((p :: asked).flatMap screening) =
      (if p.1.number = n then [p.2] else []) ++ answers n (asked.flatMap screening) := by
  obtain ⟨i, b⟩ := p
  rw [List.flatMap_cons, answers_append]
  by_cases hi : i.number = n <;> cases b <;>
    simp [screening, answers, List.filterMap_cons, Event.answer?, hi]

theorem answers_screening_of_not_mem {n : Nat} {asked : List (Instance τ × Bool)}
    (hn : n ∉ asked.map (·.1.number)) : answers n (asked.flatMap screening) = [] := by
  induction asked with
  | nil => rfl
  | cons p asked ih =>
      simp only [List.map_cons, List.mem_cons, not_or] at hn
      obtain ⟨hp, hn⟩ := hn
      rw [answers_screening_cons, if_neg (Ne.symm hp), ih hn]
      rfl

/-- Of tunnels with numbers of their own, each gives one answer when they are chosen from. -/
theorem answers_screening {asked : List (Instance τ × Bool)} (hn : (asked.map (·.1.number)).Nodup)
    {i : Instance τ} {b : Bool} (hi : (i, b) ∈ asked) : answers i.number (asked.flatMap screening) = [b] := by
  induction asked with
  | nil => cases hi
  | cons p asked ih =>
      obtain ⟨hp, hn⟩ := List.nodup_cons.mp hn
      rw [answers_screening_cons]
      rcases List.mem_cons.mp hi with rfl | hi
      · rw [if_pos rfl, answers_screening_of_not_mem hp]
        rfl
      · have hm : i.number ∈ asked.map (·.1.number) := List.mem_map_of_mem hi
        rw [if_neg (fun hpi => hp (by simpa [hpi] using hm)), ih hn hi]
        rfl

theorem mem_candidates {asked : List (Instance τ × Bool)} {i : Instance τ} :
    i ∈ candidates asked ↔ (i, false) ∈ asked := by
  simp [candidates]

end Parts

/-- What a log tells about the turns of the candidates. -/
structure TakesTurns (c : Collaborators σ τ) (is : List (Instance τ)) (log : List (Event τ))
    (ending : Ending Answer) : Prop where
  about : ∀ e ∈ log, ∀ i, e.tunnel? = some i → i ∈ is
  starts : log = [] ∧ is = [] ∨ ∃ b v, log = .poll b :: v
  /-- The candidates that are asked again are asked once, in their order. -/
  inOrder : log.filterMap Event.asks? <+: is
  again : Everywhere (AskedAgain ending) log
  /-- A run that fails after its last candidate has asked all of them again, and reports the refusals. -/
  reported : ∀ fs, ending = done (.failed (.exhausted fs)) → log.filterMap Event.asks? = is ∧
    ((log.filterMap Event.refuses?).map (refusal c)).Sublist fs

/-- What a log tells about the handshakes that tunnels may need. -/
structure AsksTwice (c : Collaborators σ τ) (session : Session) (s : σ) (log : List (Event τ))
    (ending : Ending Answer) : Prop where
  /-- Without the catalog there are no tunnels. -/
  idle : .enumerate ∉ log → ∀ e ∈ log, e.tunnel? = none
  /-- Every tunnel that is handed out is asked once, in the order of the catalog, before all else; those
  that say yes are given up, and the others have their turns. -/
  chosen : ∀ u v, log = u ++ .enumerate :: v → (∀ e ∈ u, e.tunnel? = none) ∧
    ∃ asked w, asked.map (·.1) = handedOutIn c session log s ∧ v = asked.flatMap screening ++ w ∧
      TakesTurns c (candidates asked) w ending ∧
      (∀ i, (i, true) ∈ asked → ∀ e ∈ w, e.tunnel? ≠ some i) ∧
      (candidates asked = [] ↔ ∃ fs, ending = done (.failed (.noEligible fs)))
  /-- A tunnel is connected only if it said twice that it needs no handshake. -/
  connected : ∀ i r, .connect i r ∈ log → answers i.number log = [false, false]

section Parts
variable {c : Collaborators σ τ} {o : Order} {fs : List FailedPath} {es : List (Event τ)}

theorem TunnelsExec.exhausted_of_failed {is : List (Instance τ)} {x : Ending Answer}
    (h : TunnelsExec c o fs is es x) {r : Reason} (hx : x = done (.failed r)) : ∃ gs, r = .exhausted gs := by
  induction h with
  | exhausted fs =>
      cases hx
      exact ⟨fs, rfl⟩
  | next _ _ ih => exact ih hx
  | last _ _ ht hy =>
      subst hx
      exact absurd hy (ht.closing?_ne_failed r)

theorem TunnelsExec.takesTurns {is : List (Instance τ)} {x : Ending Answer}
    (h : TunnelsExec c o fs is es x) : TakesTurns c is es x where
  about := fun e he _ hi => h.mem_of_tunnel? e he hi
  starts := h.starts.imp_left fun hs => ⟨hs.1, hs.2.1⟩
  inOrder := h.asks.1
  again := h.askedAgain
  reported := fun gs hgs =>
    ⟨h.asks.2 gs hgs, (List.sublist_append_right fs _).trans (h.refuses gs hgs)⟩

/-- Before the catalog is asked no tunnel answers. -/
theorem DirectExec.answers_after {ps : List Port} {x : DirectEnd} (h : DirectExec o fs ps es x) (n : Nat)
    (v : List (Event τ)) : answers n (.poll false :: (es ++ .enumerate :: v)) = answers n v := by
  have hs : Silent n es := silent_of_forall h.tunnel?_eq_none n
  change answers n (es ++ .enumerate :: v) = answers n v
  rw [answers_append, hs.answers]
  rfl

/-- Without candidates nobody has a turn. -/
theorem takesTurns_nil (c : Collaborators σ τ) (fs : List FailedPath) :
    TakesTurns c [] [] (done (.failed (.noEligible fs))) where
  about := by simp
  starts := .inl ⟨rfl, rfl⟩
  inOrder := List.nil_prefix
  again := everywhere_nil _
  reported := nofun

theorem RunExec.answers_of_connect {current : Option τ} {s : σ} {log : List (Event τ)} {x : Ending Answer}
    (h : RunExec c o current s log x) {i : Instance τ} {r : Reply Unit} (hi : .connect i r ∈ log) :
    answers i.number log = [false, false] := by
  have hn := nodup_handedOutIn c o.session log s
  rcases h.chooses with ⟨-, ht⟩ | ⟨ds, ss, kept, ts, fs, hl, -, hd, hk, -, ht⟩
  · exact nomatch (ht _ hi).symm
  · have hts : .connect i r ∈ ts := by
      simp only [hl, List.mem_cons, List.mem_append] at hi
      rcases hi with hi | hi | hi | hi | hi
      · cases hi
      · exact nomatch (hd.tunnel?_eq_none _ hi).symm
      · cases hi
      · obtain ⟨j, -, ⟨b, hj⟩ | hj⟩ := hk.mem hi <;> cases hj
      · exact hi
    have hkept : (kept.map (·.number)).Nodup := (hk.sublist.map _).nodup hn
    obtain ⟨asked, hasked, rfl, rfl⟩ := hk.asked
    rw [← hasked, List.map_map] at hn
    rcases ht with ⟨-, rfl, -⟩ | ⟨-, ht⟩
    · cases hts
    · -- The two questions belong to the choice among the tunnels and to the turn of this one.
      have hmem : (i, false) ∈ asked := mem_candidates.mp (ht.mem_of_tunnel? _ hts rfl)
      rw [hl, hd.answers_after, answers_append, answers_screening hn hmem, ht.answers_of_connect hkept hts]
      rfl

end Parts

theorem asksTwice_run (c : Collaborators σ τ) (o : Order) (current : Option τ) (s : σ) :
    AsksTwice c o.session s ((run c o current).events s) ((run c o current).result s) := by
  have h := run_exec c o current s
  generalize (run c o current).events s = log at h ⊢
  generalize (run c o current).result s = ending at h ⊢
  have hn := nodup_handedOutIn c o.session log s
  rcases h.chooses with ⟨he, ht⟩ | ⟨es, ss, kept, ts, fs, hl, -, hd, hk, hv, ht⟩
  · exact ⟨fun _ => ht, fun u v hu => absurd (by simp [hu]) he, fun _ _ => h.answers_of_connect⟩
  · refine ⟨fun he => absurd (by simp [hl]) he, fun u v huv => ?_, fun _ _ => h.answers_of_connect⟩
    have hfree : ∀ e ∈ .poll false :: es, e.tunnel? = none :=
      List.forall_mem_cons.mpr ⟨rfl, hd.tunnel?_eq_none⟩
    have hu : .enumerate ∉ .poll false :: es := by simp [hd.enumerate_not_mem]
    obtain ⟨rfl, rfl⟩ := enumerate_split hu hv (hl.symm.trans huv)
    obtain ⟨asked, hasked, rfl, rfl⟩ := hk.asked
    rw [← hasked, List.map_map] at hn
    have hturns : TakesTurns c (candidates asked) ts ending ∧
        (candidates asked = [] ↔ ∃ gs, ending = done (.failed (.noEligible gs))) := by
      rcases ht with ⟨hc, rfl, rfl⟩ | ⟨hc, ht⟩
      · rw [hc]
        exact ⟨takesTurns_nil c fs, fun _ => ⟨fs, rfl⟩, fun _ => rfl⟩
      · refine ⟨ht.takesTurns, fun hc' => absurd hc' hc, ?_⟩
        rintro ⟨gs, hgs⟩
        obtain ⟨gs', hr⟩ := ht.exhausted_of_failed hgs
        cases hr
    refine ⟨hfree, asked, ts, hasked, rfl, hturns.1, fun i hi e he hei => ?_, hturns.2⟩
    have hi' : (i, false) ∈ asked := mem_candidates.mp (hturns.1.about e he i hei)
    exact nomatch List.inj_on_of_nodup_map hn hi hi' rfl

end RouteCascade.Cascade
