import RouteCascade.Proofs.Cascade.Handshakes
import RouteCascade.Proofs.Cascade.Teardown

/-!
# Ownership

Every tunnel that the catalog hands out is given up exactly once: at the choice among the tunnels, in
its own turn, or at the end of the run if it never had one. The one exception is a tunnel that is still
being disconnected in the background when nothing else happens any more.
-/
namespace RouteCascade.Cascade

open Text Net

variable {σ τ : Type}

def Event.disposes (n : Nat) : Event τ → Bool
  | .dispose i => i.number == n
  | _ => false

/-- The log ends while a tunnel is being disconnected in the background. -/
def LeftHanging (log : List (Event τ)) (i : Instance τ) : Prop :=
  ∃ u v, log = u ++ .abandon :: (v ++ [.disconnect i .hang])

/-- A tunnel is given up next, or as soon as whoever waited for the run has left. -/
def GivenUpNext (i : Instance τ) (v : List (Event τ)) : Prop :=
  ∃ v', v = .dispose i :: v' ∨ v = .abandon :: .dispose i :: v'

/-- What follows when a tunnel was connected: the stop signal is asked once, and before it is asked about
another tunnel this one is disconnected and given up. -/
inductive Closes (c : Collaborators σ τ) (i : Instance τ) : List (Event τ) → Prop
  | released {b : Bool} {m v : List (Event τ)} {r : Reply Unit} : (∀ b, .poll b ∉ m) → GivenUpNext i v →
      Closes c i (.poll b :: (m ++ .disconnect i r :: v))
  | hung {b : Bool} {m : List (Event τ)} : c.background = true → .abandon ∈ m → (∀ b, .poll b ∉ m) →
      Closes c i (.poll b :: (m ++ [.disconnect i .hang]))
  | alone {b : Bool} {m v : List (Event τ)} : c.background = false → (∀ b, .poll b ∉ m) →
      Closes c i (.poll b :: (m ++ .abandon :: .dispose i :: v))

/-- What becomes of a tunnel after it refused, could not be connected, or was connected. -/
def ComesBack (c : Collaborators σ τ) : Event τ → List (Event τ) → Prop
  | .handshake i true, v => ∃ v', v = .dispose i :: v'
  | .connect i (.ok ()), v => Closes c i v
  | .connect i _, v => GivenUpNext i v
  | _, _ => True

/-- The last event is not a disconnection that never ends. -/
def EndsWell (log : List (Event τ)) : Prop :=
  ∀ i, log.getLast? ≠ some (.disconnect i .hang)

/-- Of the tunnels with certain numbers, each is given up once, but for one that may be left hanging. -/
def Accounts (c : Collaborators σ τ) (numbers : List Nat) (log : List (Event τ)) : Prop :=
  EndsWell log ∧ (∀ n, log.countP (Event.disposes n) = numbers.count n) ∨
    ∃ i, LeftHanging log i ∧ c.background = true ∧
      ∀ n, log.countP (Event.disposes n) + (if i.number = n then 1 else 0) = numbers.count n

/-- What is left to the background is about the tunnel of an attempt that was pending when whoever waited
for the run left. -/
def LeftBehind (c : Collaborators σ τ) (log late : List (Event τ)) : Prop :=
  c.background = true ∧ ∃ u a i, log = u ++ [.attempt a .hang, .abandon] ∧ a.carrier = .temporary i ∧
    ∀ e ∈ late, e.tunnel? = some i

/-- The first candidates have their turns, and those that wait are given up in their order once the last
turn is over. -/
def GivesUpLast (c : Collaborators σ τ) (is : List (Instance τ)) (log : List (Event τ))
    (ending : Ending Answer) : Prop :=
  ∃ turned waiting w late, is = turned ++ waiting ∧ log = w ++ (waiting.map .dispose ++ late) ∧
    w.filterMap Event.asks? = turned ∧ (∀ e ∈ w ++ late, ∀ i, e.tunnel? = some i → i ∈ turned) ∧
    (late ≠ [] → ending = .abandoned ∧ LeftBehind c w late)

theorem LeftBehind.prepend {c : Collaborators σ τ} {log late : List (Event τ)}
    (h : LeftBehind c log late) (w : List (Event τ)) : LeftBehind c (w ++ log) late := by
  obtain ⟨hb, u, a, i, rfl, ha, hl⟩ := h
  exact ⟨hb, w ++ u, a, i, (List.append_assoc ..).symm, ha, hl⟩

theorem LeftHanging.getLast? {log : List (Event τ)} {i : Instance τ} (h : LeftHanging log i) :
    log.getLast? = some (.disconnect i .hang) := by
  obtain ⟨u, v, rfl⟩ := h
  rw [← List.cons_append, ← List.append_assoc, List.getLast?_concat]

theorem EndsWell.append {w log : List (Event τ)} (hw : EndsWell w) (h : EndsWell log) :
    EndsWell (w ++ log) := by
  intro i hi
  rw [List.getLast?_append] at hi
  cases hl : log.getLast? with
  | none => exact hw i (by simpa [hl] using hi)
  | some e => exact h i (by simpa [hl] using hi)

theorem endsWell_of_forall {log : List (Event τ)} (h : ∀ e ∈ log, e.isStill = true) : EndsWell log :=
  fun _ hi => nomatch h _ (List.mem_of_getLast? hi)

theorem LeftHanging.prepend {log : List (Event τ)} {i : Instance τ} (h : LeftHanging log i)
    (w : List (Event τ)) : LeftHanging (w ++ log) i := by
  obtain ⟨u, v, rfl⟩ := h
  exact ⟨w ++ u, v, (List.append_assoc ..).symm⟩

/-- Numbers that are accounted for before a log are added to those that it accounts for. -/
theorem Accounts.prepend {c : Collaborators σ τ} {ns ms : List Nat} {log w : List (Event τ)}
    (h : Accounts c ns log) (he : EndsWell w)
    (hw : ∀ n, w.countP (Event.disposes n) + ns.count n = ms.count n) : Accounts c ms (w ++ log) := by
  rcases h with ⟨hl, h⟩ | ⟨i, hi, hb, h⟩
  · refine .inl ⟨he.append hl, fun n => ?_⟩
    rw [List.countP_append, h n, hw n]
  · refine .inr ⟨i, hi.prepend w, hb, fun n => ?_⟩
    have hn := h n
    have hm := hw n
    rw [List.countP_append]
    omega

theorem comesBack_of_tunnel?_eq_none (c : Collaborators σ τ) {e : Event τ} (h : e.tunnel? = none)
    (v : List (Event τ)) : ComesBack c e v := by
  cases e with
  | handshake i b => cases h
  | connect i r => cases h
  | _ => trivial

section Parts
variable {c : Collaborators σ τ} {o : Order} {fs : List FailedPath} {es : List (Event τ)} {i : Instance τ}

theorem countP_disposes_map (is : List (Instance τ)) (n : Nat) :
    (is.map Event.dispose).countP (Event.disposes n) = (is.map (·.number)).count n := by
  induction is with
  | nil => rfl
  | cons i is ih => simp [List.countP_cons, List.count_cons, Event.disposes, ih]

theorem countP_disposes_of_tunnel?_eq_none (h : ∀ e ∈ es, e.tunnel? = none) (n : Nat) :
    es.countP (Event.disposes n) = 0 := by
  refine List.countP_eq_zero.mpr fun e he => ?_
  have ht := h e he
  cases e with
  | dispose i => cases ht
  | _ => simp [Event.disposes]

/-- Choosing gives up just those tunnels that are not kept. -/
theorem SelectExec.countP_disposes {is kept : List (Instance τ)} (h : SelectExec is es kept) (n : Nat) :
    es.countP (Event.disposes n) + (kept.map (·.number)).count n = (is.map (·.number)).count n := by
  induction h with
  | nil => rfl
  | refused _ ih =>
      simp only [List.countP_cons, List.map_cons, List.count_cons, Event.disposes, beq_iff_eq,
        Bool.false_eq_true, if_false, ← ih]
      omega
  | kept _ ih =>
      simp only [List.countP_cons, List.map_cons, List.count_cons, Event.disposes, beq_iff_eq,
        Bool.false_eq_true, if_false, ← ih]
      omega

theorem SelectExec.comesBack {is kept : List (Instance τ)} (h : SelectExec is es kept)
    (c : Collaborators σ τ) (ys : List (Event τ)) :
    Everywhere (fun _ e v => ComesBack c e (v ++ ys)) es := by
  induction h with
  | nil => exact everywhere_nil _
  | refused _ ih => simpa [ComesBack] using ih
  | kept _ ih => simpa [ComesBack] using ih

theorem Connection.ReleaseExec.countP_disposes {x : StepEnd σ τ Unit} (h : ReleaseExec i es x) (n : Nat) :
    es.countP (Event.disposes n) = if i.number = n then 1 else 0 := by
  cases h <;> simp [List.countP_cons, Event.disposes]

theorem endsWell_dispose (is : List (Instance τ)) : EndsWell (is.map Event.dispose) :=
  endsWell_of_forall (by simp [Event.isStill])

theorem Connection.ReleaseExec.endsWell {x : StepEnd σ τ Unit} (h : ReleaseExec i es x)
    (w : List (Event τ)) : EndsWell (w ++ es) := by
  intro j
  cases h <;> simp

/-- A tunnel is given up in its turn or, if the attempt over it never ended, in the background, unless it
cannot even be disconnected there. -/
theorem TurnExec.accounts {x : Ending (Except Failure Outcome)} {late : List (Event τ)}
    (h : TurnExec c o i es x late) :
    EndsWell es ∧ EndsWell late ∧
        (∀ n, es.countP (Event.disposes n) + late.countP (Event.disposes n) = if i.number = n then 1 else 0) ∨
      (∃ m, es = m ++ [.abandon]) ∧ late = [.disconnect i .hang] ∧ c.background = true ∧
        ∀ n, es.countP (Event.disposes n) = 0 := by
  have hnil : EndsWell ([] : List (Event τ)) := nofun
  cases h with
  | @unused es x hr =>
      have he := hr.endsWell [.poll false, .handshake i false, .connect i (.ok ()), .poll true]
      exact .inl ⟨he, hnil, fun n => by simp [Event.disposes, hr.countP_disposes]⟩
  | @used r es x _ hr =>
      have he := hr.endsWell [.poll false, .handshake i false, .connect i (.ok ()), .poll false,
        .attempt (o.attemptOver c i) r]
      exact .inl ⟨he, hnil, fun n => by simp [Event.disposes, hr.countP_disposes]⟩
  | left hl =>
      cases hl with
      | hung hb => exact .inr ⟨⟨[_, _, _, _, _], rfl⟩, rfl, hb, fun n => by simp [Event.disposes]⟩
      | _ =>
          refine .inl ⟨fun j => ?_, fun j => ?_, fun n => ?_⟩ <;> simp [List.countP_cons, Event.disposes]
  | _ => refine .inl ⟨fun j => ?_, hnil, fun n => ?_⟩ <;> simp [List.countP_cons, Event.disposes]

theorem TunnelsExec.accounts {is : List (Instance τ)} {x : Ending Answer}
    (h : TunnelsExec c o fs is es x) : Accounts c (is.map (·.number)) es := by
  induction h with
  | exhausted => exact .inl ⟨nofun, fun n => rfl⟩
  | @next fs i rest e es es' x ht _ ih =>
      rcases ht.accounts with ⟨he, -, ha⟩ | ⟨-, hl, -⟩
      · -- A turn that fails gives its tunnel up, so that only the later ones are still owed.
        refine ih.prepend he fun n => ?_
        have hn := ha n
        simp only [List.countP_nil, Nat.add_zero] at hn
        simp only [List.map_cons, List.count_cons, hn, beq_iff_eq, Nat.add_comm]
      · cases hl
  | @last fs i rest es late x y ht _ =>
      rcases ht.accounts with ⟨he, hl, ha⟩ | ⟨⟨m, hm⟩, rfl, hb, ha⟩
      · refine .inl ⟨he.append ((endsWell_dispose rest).append hl), fun n => ?_⟩
        have hn := ha n
        simp only [List.countP_append, countP_disposes_map, List.map_cons, List.count_cons, beq_iff_eq]
        omega
      · refine .inr ⟨i, ⟨m, rest.map .dispose, by simp [hm]⟩, hb, fun n => ?_⟩
        have hd : ([.disconnect i .hang] : List (Event τ)).countP (Event.disposes n) = 0 := rfl
        rw [List.countP_append, List.countP_append, countP_disposes_map, ha n, hd]
        simp only [List.map_cons, List.count_cons, beq_iff_eq, Nat.zero_add, Nat.add_zero]

/-- A release, whatever came before it since the stop signal was asked, closes a connection. -/
theorem Connection.ReleaseExec.closes {x : StepEnd σ τ Unit} (h : ReleaseExec i es x)
    (c : Collaborators σ τ) (b : Bool) {m : List (Event τ)} (hm : ∀ b, .poll b ∉ m) (ys : List (Event τ)) :
    Closes c i (.poll b :: (m ++ (es ++ ys))) := by
  cases h with
  | returned _ => exact .released hm ⟨ys, .inl rfl⟩
  | panicked t => exact .released hm ⟨ys, .inl rfl⟩
  | abandoned => exact .released hm ⟨ys, .inr rfl⟩

theorem Connection.ReleaseExec.comesBack {x : StepEnd σ τ Unit} (h : ReleaseExec i es x)
    (c : Collaborators σ τ) (ys : List (Event τ)) :
    Everywhere (fun _ e v => ComesBack c e (v ++ ys)) es := by
  cases h <;> simp [ComesBack]

/-- A tunnel whose attempt never ends is closed in the background, after those that wait. -/
theorem LeaveExec.closes {late : List (Event τ)} (h : LeaveExec c i es late) (a : Attempt τ)
    (rest : List (Instance τ)) :
    Closes c i (.poll false :: .attempt a .hang :: .abandon :: (es ++ (rest.map .dispose ++ late))) := by
  have hm : ∀ b, .poll b ∉ .attempt a .hang :: .abandon :: rest.map Event.dispose := by simp
  have hab : .abandon ∈ .attempt a .hang :: .abandon :: rest.map Event.dispose := by simp
  cases h with
  | @released r hb _ => exact .released hm ⟨[], .inl rfl⟩
  | hung hb => exact .hung hb hab hm
  | alone hb =>
      have ha : ∀ b, .poll b ∉ [(.attempt a .hang : Event τ)] := by simp
      exact .alone hb ha

/-- In its turn a tunnel comes back before the stop signal is asked about another one. What comes after an
abandoned turn is the end of those that wait, and what is done in the background. -/
theorem TurnExec.comesBack {x : Ending (Except Failure Outcome)} {late : List (Event τ)}
    (h : TurnExec c o i es x late) {ys : List (Event τ)}
    (hys : x = .abandoned → ∃ rest : List (Instance τ), ys = rest.map .dispose ++ late) :
    Everywhere (fun _ e v => ComesBack c e (v ++ ys)) es := by
  cases h with
  | stopped => simp [ComesBack]
  | refused => simp [ComesBack]
  | unreachable e => simp [ComesBack, GivenUpNext]
  | connectPanicked t => simp [ComesBack, GivenUpNext]
  | connectAbandoned => simp [ComesBack, GivenUpNext]
  | unused hr =>
      have hc := hr.closes c true (m := []) (by simp) ys
      simpa [ComesBack] using ⟨hc, hr.comesBack c ys⟩
  | @used r es x hne hr =>
      have hc := hr.closes c false (m := [.attempt (o.attemptOver c i) r]) (by simp) ys
      simpa [ComesBack] using ⟨hc, hr.comesBack c ys⟩
  | left hl =>
      obtain ⟨rest, rfl⟩ := hys rfl
      have hc := hl.closes (o.attemptOver c i) rest
      cases hl <;> simpa [ComesBack] using hc

theorem TunnelsExec.comesBack {is : List (Instance τ)} {x : Ending Answer}
    (h : TunnelsExec c o fs is es x) : Everywhere (fun _ e v => ComesBack c e v) es := by
  have hs : Stable (fun (_ : List (Event τ)) e v => ComesBack c e v) := fun _ _ _ _ h => h
  induction h with
  | exhausted => exact everywhere_nil _
  | next ht _ ih => exact .append hs (ht.comesBack nofun) ih
  | @last fs i rest es late x y ht _ =>
      refine .append hs (ht.comesBack fun _ => ⟨rest, rfl⟩) ?_
      refine everywhere_of_forall fun u e he v => ?_
      obtain ⟨j, r, rfl⟩ | ⟨j, rfl⟩ := ht.mem_rest rest e he <;> trivial

/-- A tunnel that is not asked again is given up without more ado. -/
theorem TurnExec.stopped_or_asks {x : Ending (Except Failure Outcome)} {late : List (Event τ)}
    (h : TurnExec c o i es x late) :
    es = [.poll true, .dispose i] ∧ late = [] ∨ es.filterMap Event.asks? = [i] := by
  cases h with
  | stopped => exact .inl ⟨rfl, rfl⟩
  | unused hr => cases hr <;> exact .inr rfl
  | used _ hr => cases hr <;> exact .inr rfl
  | left hl => cases hl <;> exact .inr rfl
  | _ => exact .inr rfl

theorem TurnExec.leftBehind {x : Ending (Except Failure Outcome)} {late : List (Event τ)}
    (h : TurnExec c o i es x late) (hl : late ≠ []) : x = .abandoned ∧ LeftBehind c es late := by
  cases h with
  | left hl' =>
      cases hl' with
      | alone => exact absurd rfl hl
      | released hb _ =>
          exact ⟨rfl, hb, [_, _, _, _], o.attemptOver c i, i, rfl, rfl, by simp [Event.tunnel?]⟩
      | hung hb => exact ⟨rfl, hb, [_, _, _, _], o.attemptOver c i, i, rfl, rfl, by simp [Event.tunnel?]⟩
  | _ => exact absurd rfl hl

theorem TunnelsExec.givesUpLast {is : List (Instance τ)} {x : Ending Answer}
    (h : TunnelsExec c o fs is es x) : GivesUpLast c is es x := by
  induction h with
  | exhausted => exact ⟨[], [], [], [], rfl, rfl, rfl, by simp, by simp⟩
  | @next fs i rest e es es' x ht _ ih =>
      obtain ⟨turned, waiting, w, late, rfl, rfl, hw, hm, hl⟩ := ih
      have hi : es.filterMap Event.asks? = [i] := by simpa using ht.asks.2
      refine ⟨i :: turned, waiting, es ++ w, late, rfl, by simp, by simp [hi, hw], ?_,
        fun hne => (hl hne).imp_right (·.prepend es)⟩
      intro e he j hj
      simp only [List.mem_append, or_assoc] at he
      rcases he with he | he
      · have ht' := ht.tunnel? e (List.mem_append_left _ he)
        have hi : e.tunnel? = some i := ht'.resolve_left (by simp [hj])
        exact Option.some.inj (hj.symm.trans hi) ▸ List.mem_cons_self
      · exact List.mem_cons_of_mem _ (hm e (List.mem_append.mpr he) j hj)
  | @last fs i rest es late x y ht hx =>
      have hl : late ≠ [] → y = .abandoned ∧ LeftBehind c es late := fun hne =>
        (ht.leftBehind hne).imp_left (Ending.closing?_eq_abandoned hx).mp
      rcases ht.stopped_or_asks with ⟨rfl, rfl⟩ | ha
      · exact ⟨[], i :: rest, [.poll true], [], rfl, rfl, rfl, by simp [Event.tunnel?], by simp⟩
      · refine ⟨[i], rest, es, late, rfl, rfl, ha, fun e he j hj => ?_, hl⟩
        have hi : e.tunnel? = some i := (ht.tunnel? e he).resolve_left (by simp [hj])
        exact List.mem_singleton.mpr (Option.some.inj (hj.symm.trans hi))

theorem handedOutIn_of_not_mem (c : Collaborators σ τ) (session : Session) {u : List (Event τ)}
    (hu : .enumerate ∉ u) (s : σ) : handedOutIn c session u s = [] := by
  induction u generalizing s with
  | nil => rfl
  | cons e u ih =>
      obtain ⟨he, hu'⟩ := List.ne_and_not_mem_of_not_mem_cons hu
      cases e with
      | enumerate => exact absurd rfl he
      | _ => exact ih hu' _

/-- The turns of those that were chosen, of which there may be none. -/
def Turns (c : Collaborators σ τ) (o : Order) (is : List (Instance τ)) (es : List (Event τ))
    (x : Ending Answer) : Prop :=
  is = [] ∧ es = [] ∨ ∃ fs, TunnelsExec c o fs is es x

/-- A run does nothing with tunnels but to choose among those that it is handed out, and to give the chosen
ones their turns. -/
theorem RunExec.turns {current : Option τ} {s : σ} {x : Ending Answer} (h : RunExec c o current s es x) :
    (handedOutIn c o.session es s = [] ∧ .enumerate ∉ es ∧ ∀ e ∈ es, e.tunnel? = none) ∨
      ∃ u ss kept ts, es = u ++ .enumerate :: (ss ++ ts) ∧ (∀ e ∈ u ++ [.enumerate], e.tunnel? = none) ∧
        .enumerate ∉ u ∧ .enumerate ∉ ss ++ ts ∧
        SelectExec (handedOutIn c o.session es s) ss kept ∧ Turns c o kept ts x := by
  rcases h.chooses with ⟨he, hn⟩ | ⟨ds, ss, kept, ts, fs, hl, -, hd, hk, hv, ht⟩
  · exact .inl ⟨handedOutIn_of_not_mem c o.session he s, he, hn⟩
  · refine .inr ⟨.poll false :: ds, ss, kept, ts, hl, ?_, by simp [hd.enumerate_not_mem], hv, hk, ?_⟩
    · simp only [List.cons_append, List.forall_mem_cons, List.forall_mem_append]
      exact ⟨rfl, hd.tunnel?_eq_none, by simp [Event.tunnel?]⟩
    · rcases ht with ⟨rfl, rfl, -⟩ | ⟨-, ht⟩
      · exact .inl ⟨rfl, rfl⟩
      · exact .inr ⟨fs, ht⟩

theorem RunExec.accounts {current : Option τ} {s : σ} {x : Ending Answer}
    (h : RunExec c o current s es x) :
    Accounts c ((handedOutIn c o.session es s).map (·.number)) es := by
  rcases h.turns with ⟨hh, -, hn⟩ | ⟨u, ss, kept, ts, hl, hu, -, -, hk, ht⟩
  · rw [hh]
    have he := endsWell_of_forall fun e he => isStill_of_tunnel?_eq_none (hn e he)
    exact .inl ⟨he, countP_disposes_of_tunnel?_eq_none hn⟩
  · have hts : Accounts c (kept.map (·.number)) ts := by
      rcases ht with ⟨rfl, rfl⟩ | ⟨fs, ht⟩
      · exact .inl ⟨nofun, fun n => rfl⟩
      · exact ht.accounts
    have hu' := countP_disposes_of_tunnel?_eq_none hu
    have heu := endsWell_of_forall fun e he => isStill_of_tunnel?_eq_none (hu e he)
    have hes : es = u ++ [.enumerate] ++ (ss ++ ts) := by simp [hl]
    have hss := hts.prepend (endsWell_of_forall hk.isStill) hk.countP_disposes
    have hall := hss.prepend heu fun n => by rw [hu' n, Nat.zero_add]
    rwa [← hes] at hall

theorem RunExec.comesBack {current : Option τ} {s : σ} {x : Ending Answer}
    (h : RunExec c o current s es x) : Everywhere (fun _ e v => ComesBack c e v) es := by
  have hs : Stable (fun (_ : List (Event τ)) e v => ComesBack c e v) := fun _ _ _ _ h => h
  rcases h.turns with ⟨-, -, hn⟩ | ⟨u, ss, kept, ts, hl, hu, -, -, hk, ht⟩
  · exact everywhere_of_forall fun _ e he v => comesBack_of_tunnel?_eq_none c (hn e he) v
  · have hts : Everywhere (fun _ e v => ComesBack c e v) ts := by
      rcases ht with ⟨-, rfl⟩ | ⟨fs, ht⟩
      · exact everywhere_nil _
      · exact ht.comesBack
    have hes : es = u ++ [.enumerate] ++ (ss ++ ts) := by simp [hl]
    rw [hes]
    refine .append hs (everywhere_of_forall fun _ e he v => ?_) (.append hs (hk.comesBack c ts) hts)
    exact comesBack_of_tunnel?_eq_none c (hu e he) _

end Parts

/-- What a log tells about the tunnels that the catalog hands out when none of them is lost. -/
structure Conserves (c : Collaborators σ τ) (session : Session) (s : σ) (log : List (Event τ))
    (ending : Ending Answer) : Prop where
  own : ∀ i, .dispose i ∈ log → i ∈ handedOutIn c session log s
  distinct : ((handedOutIn c session log s).map (·.number)).Nodup
  once : ∀ i ∈ handedOutIn c session log s,
    log.countP (Event.disposes i.number) = 1 ∨ LeftHanging log i
  /-- Only in the background can a tunnel be left hanging. -/
  hanging : ∀ i, LeftHanging log i → .dispose i ∉ log ∧ c.background = true ∧ ending = .abandoned
  back : Everywhere (fun _ e v => ComesBack c e v) log
  /-- A tunnel that is still up is given up only if whoever waited for the run has just left, and there is
  no background. -/
  due : Everywhere (fun u e _ => ∀ i, e = .dispose i → IsUp u i →
    c.background = false ∧ ∃ u', u = u' ++ [.abandon]) log
  waiting : ∀ u v, log = u ++ .enumerate :: v → ∃ asked w,
    asked.map (·.1) = handedOutIn c session log s ∧ v = asked.flatMap screening ++ w ∧
    GivesUpLast c (candidates asked) w ending

theorem RunExec.not_disposed {c : Collaborators σ τ} {o : Order} {current : Option τ} {s : σ}
    {log : List (Event τ)} {x : Ending Answer} (h : RunExec c o current s log x) {i : Instance τ}
    (hi : LeftHanging log i) : .dispose i ∉ log ∧ c.background = true ∧ x = .abandoned := by
  have hx : x = .abandoned := by
    obtain ⟨u, v, hu⟩ := hi
    exact h.abandon_mem.mp (by simp [hu])
  have hn := List.nodup_iff_count_le_one.mp (nodup_handedOutIn c o.session log s) i.number
  rcases h.accounts with ⟨he, -⟩ | ⟨j, hj, hb, ha⟩
  · exact absurd hi.getLast? (he i)
  · obtain rfl : i = j := by simpa using hi.getLast?.symm.trans hj.getLast?
    have hc := ha i.number
    rw [if_pos rfl] at hc
    have hz : log.countP (Event.disposes i.number) = 0 := by omega
    refine ⟨fun hd => ?_, hb, hx⟩
    exact absurd (List.countP_eq_zero.mp hz _ hd) (by simp [Event.disposes])

/-- No tunnel is given up twice. -/
theorem RunExec.countP_disposes_le {c : Collaborators σ τ} {o : Order} {current : Option τ} {s : σ}
    {log : List (Event τ)} {x : Ending Answer} (h : RunExec c o current s log x) (n : Nat) :
    log.countP (Event.disposes n) ≤ 1 := by
  have hn := List.nodup_iff_count_le_one.mp (nodup_handedOutIn c o.session log s) n
  rcases h.accounts with ⟨-, ha⟩ | ⟨j, -, -, ha⟩ <;> have hc := ha n <;> omega

/-- Of a tunnel that is given up once, no second place of that kind is in the log. -/
theorem RunExec.disposed_once {c : Collaborators σ τ} {o : Order} {current : Option τ} {s : σ}
    {log : List (Event τ)} {x : Ending Answer} (h : RunExec c o current s log x) {i : Instance τ}
    {u v : List (Event τ)} (hu : log = u ++ .dispose i :: v) : .dispose i ∉ u ∧ .dispose i ∉ v := by
  have hle := h.countP_disposes_le i.number
  have hd : Event.disposes i.number (.dispose i) = true := by simp [Event.disposes]
  rw [hu, List.countP_append, List.countP_cons_of_pos hd] at hle
  have hpos : ∀ w : List (Event τ), .dispose i ∈ w → 0 < w.countP (Event.disposes i.number) :=
    fun w hw => List.countP_pos_iff.mpr ⟨_, hw, hd⟩
  refine ⟨fun hm => ?_, fun hm => ?_⟩ <;> have := hpos _ hm <;> omega

/-- A tunnel that is still up is given up only where there is no background. -/
theorem RunExec.givenUpWhileUp {c : Collaborators σ τ} {o : Order} {current : Option τ} {s : σ}
    {log : List (Event τ)} {x : Ending Answer} (h : RunExec c o current s log x) {i : Instance τ}
    {u v : List (Event τ)} (hu : log = u ++ .dispose i :: v) (hup : IsUp u i) :
    c.background = false ∧ ∃ u', u = u' ++ [.abandon] := by
  obtain ⟨hc, hd⟩ := hup
  obtain ⟨u₁, u₂, rfl⟩ := List.append_of_mem hc
  obtain ⟨hnu, hnv⟩ := h.disposed_once hu
  have hl : log = u₁ ++ .connect i (.ok ()) :: (u₂ ++ .dispose i :: v) := by simp [hu]
  have hcl : Closes c i (u₂ ++ .dispose i :: v) := h.comesBack u₁ (.connect i (.ok ())) _ hl
  generalize hw : u₂ ++ .dispose i :: v = w at hcl hl
  cases hcl with
  | @released b m v' r _ hv' =>
      -- The disconnection comes after the tunnel was given up, and is followed by that once more.
      rw [← List.cons_append] at hw
      rcases places_eq hw with ⟨-, he, -⟩ | ⟨t, -, rfl⟩ | ⟨t, rfl, -⟩
      · cases he
      · obtain ⟨v'', rfl | rfl⟩ := hv' <;> simp at hnv
      · exact absurd (by simp) (hd r)
  | @hung b m _ hab _ =>
      obtain ⟨m₁, m₂, rfl⟩ := List.append_of_mem hab
      have hlh : LeftHanging log i := ⟨u₁ ++ .connect i (.ok ()) :: .poll b :: m₁, m₂, by simp [hl]⟩
      exact absurd (hu ▸ by simp) (h.not_disposed hlh).1
  | @alone b m v' hb _ =>
      have hw' : u₂ ++ .dispose i :: v = (.poll b :: m ++ [.abandon]) ++ .dispose i :: v' := by simp [hw]
      rcases places_eq hw' with ⟨rfl, -, -⟩ | ⟨t, -, rfl⟩ | ⟨t, rfl, -⟩
      · exact ⟨hb, u₁ ++ .connect i (.ok ()) :: .poll b :: m, by simp⟩
      · simp at hnv
      · simp at hnu

theorem conserves_run (c : Collaborators σ τ) (o : Order) (current : Option τ) (s : σ) :
    Conserves c o.session s ((run c o current).events s) ((run c o current).result s) := by
  have h := run_exec c o current s
  generalize (run c o current).events s = log at h ⊢
  generalize (run c o current).result s = ending at h ⊢
  have hn := nodup_handedOutIn c o.session log s
  refine {
    own := fun i hi => h.mem_handedOutIn hi rfl
    distinct := hn
    once := fun i hi => ?_
    hanging := fun i hi => h.not_disposed hi
    back := h.comesBack
    due := ?_
    waiting := fun u v huv => ?_ }
  · have hc : ((handedOutIn c o.session log s).map (·.number)).count i.number = 1 :=
      List.count_eq_one_of_mem hn (List.mem_map_of_mem hi)
    rcases h.accounts with ⟨-, ha⟩ | ⟨j, hj, -, ha⟩
    · exact .inl ((ha i.number).trans hc)
    · by_cases hij : j.number = i.number
      · have hjl : .disconnect j .hang ∈ log := List.mem_of_getLast? hj.getLast?
        have hjh : j ∈ handedOutIn c o.session log s := h.mem_handedOutIn hjl rfl
        exact .inr (List.inj_on_of_nodup_map hn hjh hi hij ▸ hj)
      · have hi' := ha i.number
        rw [if_neg hij, hc] at hi'
        exact .inl hi'
  · rintro u e v hu i rfl hup
    exact h.givenUpWhileUp hu hup
  · rcases h.turns with ⟨-, he, -⟩ | ⟨u', ss, kept, ts, hl, -, hu', hv', hk, ht⟩
    · exact absurd (by simp [huv]) he
    · obtain ⟨rfl, rfl⟩ := enumerate_split hu' hv' (hl.symm.trans huv)
      obtain ⟨asked, hasked, rfl, rfl⟩ := hk.asked
      refine ⟨asked, ts, hasked, rfl, ?_⟩
      rcases ht with ⟨hc, rfl⟩ | ⟨fs, ht⟩
      · rw [hc]
        exact ⟨[], [], [], [], rfl, rfl, rfl, by simp, by simp⟩
      · exact ht.givesUpLast

end RouteCascade.Cascade
