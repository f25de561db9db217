import RouteCascade.Proofs.Cascade.Log

/-!
# Cancellation

A run that is asked to stop does so. Whatever reaches out to the server waits for a fresh answer of the
stop signal, and once the signal was seen up, the run only tears down what it holds.
-/
namespace RouteCascade.Cascade

open Text Net

variable {σ τ : Type}

/-- Since the last call the stop signal was asked, and was not up. -/
def Cleared (u : List (Event τ)) : Prop :=
  ∃ p m, u = p ++ .poll false :: m ∧ ∀ e ∈ m, e.isCall = false

/-- What reaches out has been cleared. -/
def AskedFirst (u : List (Event τ)) (e : Event τ) (_ : List (Event τ)) : Prop :=
  e.reachesOut = true → Cleared u

/-- Once the signal was seen up, a tunnel that was just connected is disconnected, and the tunnels that
are left are given up. -/
def TearsDown (u v : List (Event τ)) : Prop :=
  ∃ is : List (Instance τ), v = is.map .dispose ∨
    ∃ u' i r, u = u' ++ [.connect i (.ok ())] ∧
      v = .disconnect i r :: (if r = .hang then [.abandon] else []) ++ is.map .dispose

/-- After the signal was seen up, nothing but teardown follows. -/
def QuietAfter (u : List (Event τ)) (e : Event τ) (v : List (Event τ)) : Prop :=
  e = .poll true → TearsDown u v

theorem Cleared.prepend {u : List (Event τ)} (h : Cleared u) (w : List (Event τ)) : Cleared (w ++ u) := by
  obtain ⟨p, m, rfl, hm⟩ := h
  exact ⟨w ++ p, m, (List.append_assoc ..).symm, hm⟩

theorem TearsDown.prepend {u v : List (Event τ)} (h : TearsDown u v) (w : List (Event τ)) :
    TearsDown (w ++ u) v := by
  obtain ⟨is, hv | ⟨u', i, r, rfl, hv⟩⟩ := h
  · exact ⟨is, .inl hv⟩
  · exact ⟨is, .inr ⟨w ++ u', i, r, (List.append_assoc ..).symm, hv⟩⟩

theorem stable_askedFirst : Stable (AskedFirst (τ := τ)) :=
  fun w _ _ _ h he => (h he).prepend w

theorem stable_quietAfter : Stable (QuietAfter (τ := τ)) :=
  fun w _ _ _ h he => (h he).prepend w

/-- Whether the way is clear does not depend on what comes after. -/
theorem askedFirst_append {xs ys : List (Event τ)} (hx : Everywhere AskedFirst xs)
    (hy : Everywhere AskedFirst ys) : Everywhere AskedFirst (xs ++ ys) :=
  Everywhere.append stable_askedFirst (fun u e v hu => hx u e v hu) hy

theorem askedFirst_of_forall {es : List (Event τ)} (h : ∀ e ∈ es, e.reachesOut = false) :
    Everywhere AskedFirst es :=
  everywhere_of_forall fun _ e he _ hr => nomatch (h e he).symm.trans hr

/-- Before the signal is seen up, nothing is said. -/
theorem quietAfter_append {xs ys : List (Event τ)} (hx : .poll true ∉ xs) (hy : Everywhere QuietAfter ys) :
    Everywhere QuietAfter (xs ++ ys) :=
  .append stable_quietAfter (everywhere_of_forall fun _ _ he _ ht => absurd (ht ▸ he) hx) hy

theorem quietAfter_of_not_mem {xs : List (Event τ)} (h : .poll true ∉ xs) : Everywhere QuietAfter xs :=
  everywhere_of_forall fun _ _ he _ ht => absurd (ht ▸ he) h

theorem TearsDown.poll_not_mem {u v : List (Event τ)} (h : TearsDown u v) (b : Bool) : .poll b ∉ v := by
  obtain ⟨is, rfl | ⟨u', i, r, -, rfl⟩⟩ := h
  · simp
  · split <;> simp

theorem quietAfter_poll {u v : List (Event τ)} (hu : .poll true ∉ u) (h : TearsDown u v) :
    Everywhere QuietAfter (u ++ .poll true :: v) := by
  rintro u' e v' he rfl
  rcases places_eq he with ⟨rfl, -, rfl⟩ | ⟨t, -, rfl⟩ | ⟨t, rfl, -⟩
  · exact h
  · exact absurd (List.mem_append_right t List.mem_cons_self) (h.poll_not_mem true)
  · exact absurd (List.mem_append_right u' List.mem_cons_self) hu

theorem askedFirst_attempt (a : Attempt τ) (r : Reply Bytes) {es : List (Event τ)}
    (h : Everywhere AskedFirst es) : Everywhere AskedFirst (.poll false :: .attempt a r :: es) := by
  have ha : Cleared [(.poll false : Event τ)] := ⟨[], [], rfl, by simp⟩
  have hp : Everywhere AskedFirst [.poll false, .attempt a r] := by
    simpa [AskedFirst, Event.reachesOut] using ha
  exact askedFirst_append hp h

theorem askedFirst_connect (i : Instance τ) (r : Reply Unit) {es : List (Event τ)}
    (h : Everywhere AskedFirst es) :
    Everywhere AskedFirst (.poll false :: .handshake i false :: .connect i r :: es) := by
  have hc : Cleared [.poll false, .handshake i false] :=
    ⟨[], [.handshake i false], rfl, by simp [Event.isCall]⟩
  have hp : Everywhere AskedFirst [.poll false, .handshake i false, .connect i r] := by
    simpa [AskedFirst, Event.reachesOut] using hc
  exact askedFirst_append hp h

section Parts
variable {c : Collaborators σ τ} {o : Order} {es : List (Event τ)} {fs : List FailedPath}

theorem Connection.ReleaseExec.reachesOut {i : Instance τ} {x : StepEnd σ τ Unit}
    (h : ReleaseExec i es x) : ∀ e ∈ es, e.reachesOut = false := by
  cases h <;> simp [Event.reachesOut]

theorem LeaveExec.reachesOut {i : Instance τ} {late : List (Event τ)} (h : LeaveExec c i es late) :
    ∀ e ∈ es, e.reachesOut = false := by
  cases h <;> simp [Event.reachesOut]

theorem SelectExec.reachesOut {is kept : List (Instance τ)} (h : SelectExec is es kept) :
    ∀ e ∈ es, e.reachesOut = false := by
  intro e he
  obtain ⟨i, -, ⟨b, rfl⟩ | rfl⟩ := h.mem he <;> rfl

theorem DirectExec.askedFirst {ps : List Port} {x : DirectEnd} (h : DirectExec o fs ps es x) :
    Everywhere AskedFirst es := by
  induction h with
  | failed => exact everywhere_nil _
  | stopped => exact askedFirst_of_forall (by simp [Event.reachesOut])
  | next _ ih => exact askedFirst_attempt _ _ ih
  | abandoned => exact askedFirst_attempt _ _ (askedFirst_of_forall (by simp [Event.reachesOut]))
  | _ => exact askedFirst_attempt _ _ (everywhere_nil _)

theorem TurnExec.askedFirst {i : Instance τ} {x : Ending (Except Failure Outcome)} {late : List (Event τ)}
    (h : TurnExec c o i es x late) : Everywhere AskedFirst es := by
  cases h with
  | stopped | refused => exact askedFirst_of_forall (by simp [Event.reachesOut])
  | @unused es x hr =>
      have hp : ∀ e ∈ (.poll true :: es : List (Event τ)), e.reachesOut = false :=
        List.forall_mem_cons.mpr ⟨rfl, hr.reachesOut⟩
      exact askedFirst_connect i _ (askedFirst_of_forall hp)
  | @used r es x _ hr =>
      have hu := askedFirst_attempt (o.attemptOver c i) r (askedFirst_of_forall hr.reachesOut)
      exact askedFirst_connect i _ hu
  | @left es late hl =>
      have hr : ∀ e ∈ (.abandon :: es : List (Event τ)), e.reachesOut = false :=
        List.forall_mem_cons.mpr ⟨rfl, hl.reachesOut⟩
      have hu := askedFirst_attempt (o.attemptOver c i) .hang (askedFirst_of_forall hr)
      exact askedFirst_connect i _ hu
  | _ => exact askedFirst_connect i _ (askedFirst_of_forall (by simp [Event.reachesOut]))

theorem TunnelsExec.askedFirst {is : List (Instance τ)} {x : Ending Answer}
    (h : TunnelsExec c o fs is es x) : Everywhere AskedFirst es := by
  induction h with
  | exhausted => exact everywhere_nil _
  | next ht _ ih => exact askedFirst_append ht.askedFirst ih
  | last fs rest ht _ =>
      refine askedFirst_append ht.askedFirst (askedFirst_of_forall fun e he => ?_)
      obtain ⟨j, r, rfl⟩ | ⟨j, rfl⟩ := ht.mem_rest rest e he <;> rfl

theorem askedFirst_poll {b : Bool} {es : List (Event τ)} (h : Everywhere AskedFirst es) :
    Everywhere AskedFirst (.poll b :: es) := by
  have hp : Everywhere AskedFirst [(.poll b : Event τ)] :=
    askedFirst_of_forall (by simp [Event.reachesOut])
  exact askedFirst_append hp h

/-- Every run asks before it reaches out. -/
theorem RunExec.askedFirst {current : Option τ} {s : σ} {x : Ending Answer}
    (h : RunExec c o current s es x) : Everywhere AskedFirst es := by
  cases h with
  | stopped | invalid _ | disallowed _ _ _ => exact askedFirst_poll (everywhere_nil _)
  | current _ _ hc =>
      cases hc with
      | abandoned => exact askedFirst_attempt _ _ (askedFirst_of_forall (by simp [Event.reachesOut]))
      | _ => exact askedFirst_attempt _ _ (everywhere_nil _)
  | direct _ hd => exact askedFirst_poll hd.askedFirst
  | @noEligible es ss fs _ hd hk =>
      have he : ∀ e ∈ (.enumerate :: ss : List (Event τ)), e.reachesOut = false :=
        List.forall_mem_cons.mpr ⟨rfl, hk.reachesOut⟩
      exact askedFirst_poll (askedFirst_append hd.askedFirst (askedFirst_of_forall he))
  | @tunnels es ss ts fs kept x _ hd hk _ ht =>
      have he : ∀ e ∈ (.enumerate :: ss : List (Event τ)), e.reachesOut = false :=
        List.forall_mem_cons.mpr ⟨rfl, hk.reachesOut⟩
      have ht : Everywhere AskedFirst (.enumerate :: ss ++ ts) :=
        askedFirst_append (askedFirst_of_forall he) ht.askedFirst
      exact askedFirst_poll (askedFirst_append hd.askedFirst ht)

theorem Connection.ReleaseExec.poll_not_mem {i : Instance τ} {x : StepEnd σ τ Unit}
    (h : ReleaseExec i es x) (b : Bool) : .poll b ∉ es := by
  cases h <;> simp

theorem SelectExec.poll_not_mem {is kept : List (Instance τ)} (h : SelectExec is es kept) (b : Bool) :
    .poll b ∉ es := by
  intro he
  obtain ⟨i, -, ⟨_, hp⟩ | hp⟩ := h.mem he <;> cases hp

theorem DirectExec.poll_mem {ps : List Port} {x : DirectEnd} (h : DirectExec o fs ps es x) :
    .poll true ∈ es ↔ x = .ended (done .cancelled) := by
  induction h with
  | next _ ih => simpa using ih
  | _ => simp [done]

theorem DirectExec.quietAfter {ps : List Port} {x : DirectEnd} (h : DirectExec o fs ps es x) :
    Everywhere QuietAfter es := by
  have hq : TearsDown (τ := τ) [] [] := ⟨[], .inl rfl⟩
  induction h with
  | stopped => simpa [QuietAfter] using hq
  | @next fs p ps e es x _ ih =>
      have hp : .poll true ∉ [(.poll false : Event τ), .attempt (o.directAttempt p) (.error e)] := by simp
      exact quietAfter_append hp ih
  | _ => exact quietAfter_of_not_mem (by simp)

theorem Connection.ReleaseExec.tearsDown {i : Instance τ} {x : StepEnd σ τ Unit}
    (h : ReleaseExec i es x) (u : List (Event τ)) (rest : List (Instance τ)) :
    TearsDown (u ++ [.connect i (.ok ())]) (es ++ rest.map .dispose) := by
  cases h with
  | @returned r hr =>
      have hne : r ≠ .hang := by rintro rfl; cases hr
      exact ⟨i :: rest, .inr ⟨u, i, r, rfl, by simp [hne]⟩⟩
  | panicked t => exact ⟨i :: rest, .inr ⟨u, i, .panic t, rfl, by simp⟩⟩
  | abandoned => exact ⟨i :: rest, .inr ⟨u, i, .hang, rfl, by simp⟩⟩

/-- The signal is up in a turn that ends the run for that reason, or would do so if the tunnel could be
released. -/
theorem TurnExec.poll_mem {i : Instance τ} {x : Ending (Except Failure Outcome)} {late : List (Event τ)}
    (h : TurnExec c o i es x late) : .poll true ∉ late ∧ (x = .returned (.ok .cancelled) → .poll true ∈ es) ∧
      ((∀ e ∈ es, e.isSettled = true) → .poll true ∈ es → x = .returned (.ok .cancelled)) := by
  cases h with
  | stopped => simp
  | unused hr => cases hr <;> simp [Ending.releasedBy, Event.isSettled, Reply.isAnswer]
  | @used r es x hne hr =>
      have hn := hr.poll_not_mem true
      refine ⟨List.not_mem_nil, ?_, ?_⟩
      · cases r <;> cases x <;> simp [Ending.releasedBy, Reply.verdict]
      · simp [hn]
  | left hl => cases hl <;> simp
  | _ => simp

theorem TurnExec.poll_not_mem {i : Instance τ} {e : Failure} {late : List (Event τ)}
    (h : TurnExec c o i es (.returned (.error e)) late) : .poll true ∉ es := by
  generalize hx : Ending.returned (Except.error e) = x at h
  cases h with
  | stopped => cases hx
  | unused hr => cases hr <;> cases hx
  | used _ hr => simp [hr.poll_not_mem true]
  | left hl => cases hx
  | _ => simp

/-- After the signal is seen up in a turn, the run is torn down with the tunnels that are left. -/
theorem TurnExec.quietAfter {i : Instance τ} {x : Ending (Except Failure Outcome)} {late : List (Event τ)}
    (h : TurnExec c o i es x late) (rest : List (Instance τ)) :
    Everywhere QuietAfter (es ++ (rest.map .dispose ++ late)) := by
  cases h with
  | stopped =>
      have hq : TearsDown [] ((i :: rest).map .dispose) := ⟨i :: rest, .inl rfl⟩
      simpa using quietAfter_poll List.not_mem_nil hq
  | @unused es x hr =>
      have hq := hr.tearsDown [.poll false, .handshake i false] rest
      simpa using quietAfter_poll (by simp) hq
  | used _ hr => exact quietAfter_of_not_mem (by simp [hr.poll_not_mem true])
  | left hl => cases hl <;> exact quietAfter_of_not_mem (by simp)
  | _ => exact quietAfter_of_not_mem (by simp)

theorem TunnelsExec.quietAfter {is : List (Instance τ)} {x : Ending Answer}
    (h : TunnelsExec c o fs is es x) : Everywhere QuietAfter es := by
  induction h with
  | exhausted => exact everywhere_nil _
  | next ht _ ih => exact quietAfter_append ht.poll_not_mem ih
  | last fs rest ht _ => exact ht.quietAfter rest

/-- Unless a call breaks down or never ends, the turns end because of the signal when it was seen up. -/
theorem TunnelsExec.poll_mem {is : List (Instance τ)} {x : Ending Answer}
    (h : TunnelsExec c o fs is es x) : (x = done .cancelled → .poll true ∈ es) ∧
      ((∀ e ∈ es, e.isSettled = true) → .poll true ∈ es → x = done .cancelled) := by
  induction h with
  | exhausted => simp [done]
  | next ht _ ih =>
      have hn := ht.poll_not_mem
      simp only [List.mem_append, hn, false_or]
      exact ⟨ih.1, fun hs => ih.2 fun e he => hs e (.inr he)⟩
  | @last fs i rest es late x y ht hx =>
      obtain ⟨hl, hto, hof⟩ := ht.poll_mem
      have hd : .poll true ∉ rest.map Event.dispose := by simp
      simp only [List.mem_append, hl, hd, or_false]
      constructor
      · rintro rfl
        refine hto ?_
        rcases x with ⟨e | b⟩ | t | _ <;> cases hx
        rfl
      · intro hs hp
        obtain rfl := hof (fun e he => hs e (.inl he)) hp
        cases hx
        rfl

theorem CurrentExec.poll_not_mem {a : Attempt τ} {x : Ending Answer} (h : CurrentExec a es x) (b : Bool) :
    .poll b ∉ es := by
  cases h <;> simp

theorem CurrentExec.ne_cancelled {a : Attempt τ} {x : Ending Answer} (h : CurrentExec a es x) :
    x ≠ done .cancelled := by
  cases h <;> simp [done]

theorem RunExec.quietAfter {current : Option τ} {s : σ} {x : Ending Answer}
    (h : RunExec c o current s es x) : Everywhere QuietAfter es := by
  cases h with
  | stopped => exact quietAfter_poll (u := []) nofun ⟨[], .inl rfl⟩
  | invalid _ | disallowed _ _ _ => exact quietAfter_of_not_mem (by simp)
  | current _ _ hc => exact quietAfter_of_not_mem (by simp [hc.poll_not_mem true])
  | direct _ hd =>
      have hp : .poll true ∉ [(.poll false : Event τ)] := by simp
      exact quietAfter_append hp hd.quietAfter
  | @noEligible es ss fs _ hd hk =>
      have hn : .poll true ∉ es := mt hd.poll_mem.mp (by simp)
      exact quietAfter_of_not_mem (by simp [hn, hk.poll_not_mem true])
  | @tunnels es ss ts fs kept x _ hd hk _ ht =>
      have hn : .poll true ∉ es := mt hd.poll_mem.mp (by simp)
      have hp : .poll true ∉ .poll false :: (es ++ .enumerate :: ss) := by
        simp [hn, hk.poll_not_mem true]
      simpa using quietAfter_append hp ht.quietAfter

theorem RunExec.poll_mem {current : Option τ} {s : σ} {x : Ending Answer}
    (h : RunExec c o current s es x) : (x = done .cancelled → .poll true ∈ es) ∧
      ((∀ e ∈ es, e.isSettled = true) → .poll true ∈ es → x = done .cancelled) := by
  cases h with
  | stopped => simp
  | invalid _ | disallowed _ _ _ => simp [done]
  | current _ _ hc => simp [hc.ne_cancelled, hc.poll_not_mem true]
  | direct _ hd =>
      simp only [List.mem_cons, Event.poll.injEq, Bool.true_eq_false, false_or, hd.poll_mem]
      exact ⟨fun hx => hx ▸ rfl, fun _ hx => DirectEnd.ended.inj hx⟩
  | @noEligible es ss fs _ hd hk =>
      have hn : .poll true ∉ es := mt hd.poll_mem.mp (by simp)
      simp [done, hn, hk.poll_not_mem true]
  | @tunnels es ss ts fs kept x _ hd hk _ ht =>
      have hn : .poll true ∉ es := mt hd.poll_mem.mp (by simp)
      obtain ⟨hto, hof⟩ := ht.poll_mem
      refine ⟨fun hx => by simp [hto hx], fun hs hp => hof (fun e he => hs e (by simp [he])) ?_⟩
      simpa [hn, hk.poll_not_mem true] using hp

end Parts

/-- What a log tells about the stop signal when it is heeded. -/
structure HeedsStop (c : Collaborators σ τ) (s : σ) (log : List (Event τ)) (ending : Ending Answer) :
    Prop where
  asked : Everywhere AskedFirst log
  quiet : Everywhere QuietAfter log
  /-- If no call breaks down or never ends, the run is given up just when the signal was seen up. -/
  cancelled : (∀ e ∈ log, e.isSettled = true) → (ending = done .cancelled ↔ .poll true ∈ log)
  /-- A signal that is up from some call on lets nothing else reach out. -/
  stays : Everywhere (fun _ e v => e.isCall = true → .poll false ∉ v → ∀ x ∈ v, x.reachesOut = false) log
  /-- A signal that is up from the start lets nothing happen at all. -/
  early : (c.poll s).1 = true → log = [.poll true] ∧ ending = done .cancelled

theorem heedsStop_run (c : Collaborators σ τ) (o : Order) (current : Option τ) (s : σ) :
    HeedsStop c s ((run c o current).events s) ((run c o current).result s) := by
  have h := run_exec c o current s
  have hearly : (c.poll s).1 = true →
      (run c o current).events s = [.poll true] ∧ (run c o current).result s = done .cancelled := by
    intro hp
    simp [run, Collaborators.askStop, hp]
  generalize (run c o current).events s = log at h hearly ⊢
  generalize (run c o current).result s = ending at h hearly ⊢
  refine ⟨h.askedFirst, h.quietAfter, fun hs => ⟨h.poll_mem.1, h.poll_mem.2 hs⟩, ?_, hearly⟩
  · intro u e v hu he hv x hx
    refine Bool.eq_false_iff.mpr fun hr => ?_
    obtain ⟨v', w, rfl⟩ := List.append_of_mem hx
    obtain ⟨p, m, hp, hm⟩ := h.askedFirst (u ++ e :: v') x w (by simp [hu]) hr
    -- The answer that clears the way is not older than the call.
    rcases places_eq hp with ⟨-, rfl, -⟩ | ⟨t, -, rfl⟩ | ⟨t, -, rfl⟩
    · cases he
    · exact hv (by simp)
    · have hm' := hm e (by simp)
      exact absurd (he.symm.trans hm') (by simp)

end RouteCascade.Cascade
