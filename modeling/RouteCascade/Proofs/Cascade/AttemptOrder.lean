import RouteCascade.Proofs.Cascade.Handshakes

/-!
# The order of attempts

A run that looks for a path of its own tries the direct ports and then the tunnels of the catalog that
could be connected, in their order, and stops at the first path that works.
-/
namespace RouteCascade.Cascade

open Text Net

variable {σ τ : Type}

/-- The attempts of a run that tries every path: directly on the configured port, directly on the
standard port if that is another one, and over some tunnels. -/
def Order.allAttempts (o : Order) (c : Collaborators σ τ) (is : List (Instance τ)) : List (Attempt τ) :=
  o.directAttempt o.session.port ::
    ((if o.session.port = 443 then [] else [o.directAttempt 443]) ++ is.map (o.attemptOver c))

/-- A tunnel said twice that it needs no handshake and could be connected. -/
def serves (log : List (Event τ)) (i : Instance τ) : Bool :=
  answers i.number log == [false, false] && log.any (Event.opens i.number)

/-- A tunnel said in its turn that it needs no handshake and could be connected. -/
def servesInTurn (es : List (Event τ)) (i : Instance τ) : Bool :=
  answers i.number es == [false] && es.any (Event.opens i.number)

def Event.succeeds : Event τ → Bool
  | .attempt _ (.ok _) => true
  | _ => false

/-- What is left to do after an attempt that worked. -/
def Attempt.IsLast (a : Attempt τ) (v : List (Event τ)) : Prop :=
  match a.carrier with
  | .temporary i => ∃ (r : Reply Unit) (is : List (Instance τ)), v = .disconnect i r :: is.map .dispose
  | _ => v = []

/-- An attempt that works is the last one, and its body is what the run returns. -/
def Succeeds (x : Ending Answer) (_ : List (Event τ)) (e : Event τ) (v : List (Event τ)) : Prop :=
  ∀ a b, e = .attempt a (.ok b) → x = done (.success b) ∧ a.IsLast v

theorem stable_succeeds (x : Ending Answer) : Stable (Succeeds (τ := τ) x) :=
  fun _ _ _ _ h => h

theorem succeeds_of_forall {xs : List (Event τ)} (h : ∀ e ∈ xs, e.succeeds = false) (x : Ending Answer) :
    Everywhere (Succeeds x) xs := by
  refine everywhere_of_forall fun u e he v a b hab => ?_
  cases hab
  cases h _ he

theorem succeeds_append {xs ys : List (Event τ)} {x : Ending Answer} (hx : ∀ e ∈ xs, e.succeeds = false)
    (hy : Everywhere (Succeeds x) ys) : Everywhere (Succeeds x) (xs ++ ys) := by
  refine .append (stable_succeeds x) (everywhere_of_forall fun u e he v a b hab => ?_) hy
  cases hab
  cases hx _ he

theorem succeeds_attempt {a : Attempt τ} {v : List (Event τ)} (hv : a.IsLast v)
    (hs : ∀ e ∈ v, e.succeeds = false) (b : Bytes) :
    Everywhere (Succeeds (done (.success b))) (.attempt a (.ok b) :: v) := by
  rw [everywhere_cons]
  constructor
  · intro a' b' hab
    cases hab
    exact ⟨rfl, hv⟩
  · exact succeeds_of_forall hs _

theorem Silent.opens {n : Nat} {es : List (Event τ)} (h : Silent n es) :
    es.any (Event.opens n) = false := by
  refine List.any_eq_false.mpr fun e he => ?_
  cases e with
  | connect i r =>
      have hi := h _ he i rfl
      cases r <;> simp [Event.opens, hi]
  | _ => simp [Event.opens]

theorem servesInTurn_append_left {es es' : List (Event τ)} {i : Instance τ}
    (ha : answers i.number es = []) (ho : es.any (Event.opens i.number) = false) :
    servesInTurn (es ++ es') i = servesInTurn es' i := by
  rw [servesInTurn, servesInTurn, answers_append, List.any_append, ha, ho]
  rfl

theorem servesInTurn_append_right {es es' : List (Event τ)} {i : Instance τ}
    (ha : answers i.number es' = []) (ho : es'.any (Event.opens i.number) = false) :
    servesInTurn (es ++ es') i = servesInTurn es i := by
  rw [servesInTurn, servesInTurn, answers_append, List.any_append, ha, ho, List.append_nil, Bool.or_false]

section Parts
variable {c : Collaborators σ τ} {o : Order} {fs : List FailedPath} {es : List (Event τ)}

/-- The attempts on ports are made in the order of the ports, and on all of them if all fail. -/
theorem DirectExec.attempts {ps : List Port} {x : DirectEnd} (h : DirectExec o fs ps es x) :
    es.filterMap Event.attempt? <+: ps.map o.directAttempt ∧
      ∀ gs, x = .failed gs → es.filterMap Event.attempt? = ps.map o.directAttempt := by
  induction h with
  | failed => simp
  | next _ ih =>
      obtain ⟨hp, hx⟩ := ih
      constructor
      · exact (List.prefix_cons_inj _).mpr hp
      · intro gs hgs
        exact congrArg _ (hx gs hgs)
  | _ => simp [List.filterMap_cons, Event.attempt?]

theorem TurnExec.attempts {i : Instance τ} {x : Ending (Except Failure Outcome)} {late : List (Event τ)}
    (h : TurnExec c o i es x late) :
    es.filterMap Event.attempt? <+: (if servesInTurn es i then [o.attemptOver c i] else []) ∧
      ∀ e, x = .returned (.error e) →
        es.filterMap Event.attempt? = if servesInTurn es i then [o.attemptOver c i] else [] := by
  cases h with
  | unused hr => cases hr <;> simp [List.filterMap_cons, Event.attempt?, Ending.releasedBy]
  | used _ hr =>
      cases hr <;> simp [List.filterMap_cons, Event.attempt?, servesInTurn, answers, Event.answer?, Event.opens]
  | left hl =>
      cases hl <;> simp [List.filterMap_cons, Event.attempt?, servesInTurn, answers, Event.answer?, Event.opens]
  | _ => simp [List.filterMap_cons, Event.attempt?, servesInTurn, answers, Event.answer?, Event.opens]

/-- Over tunnels with numbers of their own, attempts are made in their order over those that could be
connected, and over all of these if the run fails after the last one. -/
theorem TunnelsExec.attempts {is : List (Instance τ)} {x : Ending Answer} (h : TunnelsExec c o fs is es x)
    (hn : (is.map (·.number)).Nodup) :
    es.filterMap Event.attempt? <+: (is.filter (servesInTurn es)).map (o.attemptOver c) ∧
      ∀ gs, x = done (.failed (.exhausted gs)) →
        es.filterMap Event.attempt? = (is.filter (servesInTurn es)).map (o.attemptOver c) := by
  induction h with
  | exhausted => simp
  | @next fs i rest e es es' x ht hr ih =>
      obtain ⟨hi, hn⟩ := List.nodup_cons.mp hn
      obtain ⟨hp, hx⟩ := ih hn
      -- What happens in this turn does not count for the rest, nor the other way round.
      have hrest : rest.filter (servesInTurn (es ++ es')) = rest.filter (servesInTurn es') := by
        refine List.filter_congr fun j hj => ?_
        have hne : i.number ≠ j.number := fun hij => hi (by simpa [hij] using List.mem_map_of_mem hj)
        exact servesInTurn_append_left (ht.silent hne).answers (ht.silent hne).opens
      have hes := ht.attempts.2 e rfl
      have hsplit : ((i :: rest).filter (servesInTurn (es ++ es'))).map (o.attemptOver c) =
          es.filterMap Event.attempt? ++ (rest.filter (servesInTurn es')).map (o.attemptOver c) := by
        rw [List.filter_cons, servesInTurn_append_right (hr.silent hi).answers (hr.silent hi).opens, hrest,
          hes]
        split <;> rfl
      rw [List.filterMap_append, hsplit]
      exact ⟨(List.prefix_append_right_inj _).mpr hp, fun gs hgs => by rw [hx gs hgs]⟩
  | @last fs i rest es late x y ht hx =>
      have hr := ht.mem_rest rest
      generalize rest.map .dispose ++ late = tail at hr ⊢
      have hattempts : tail.filterMap Event.attempt? = [] := by
        refine List.filterMap_eq_nil_iff.mpr fun e he => ?_
        obtain ⟨j, r, rfl⟩ | ⟨j, rfl⟩ := hr e he <;> rfl
      have hanswers : answers i.number tail = [] := by
        refine List.filterMap_eq_nil_iff.mpr fun e he => ?_
        obtain ⟨j, r, rfl⟩ | ⟨j, rfl⟩ := hr e he <;> rfl
      have hopens : tail.any (Event.opens i.number) = false := by
        refine List.any_eq_false.mpr fun e he => ?_
        obtain ⟨j, r, rfl⟩ | ⟨j, rfl⟩ := hr e he <;> simp [Event.opens]
      rw [List.filterMap_append, hattempts, List.append_nil, List.filter_cons,
        servesInTurn_append_right hanswers hopens]
      refine ⟨ht.attempts.1.trans ?_, ?_⟩
      · split
        · exact (List.prefix_cons_inj _).mpr List.nil_prefix
        · exact List.nil_prefix
      · rintro gs rfl
        exact absurd hx (ht.closing?_ne_failed _)

/-- If the direct paths fail, so did every attempt on them. -/
theorem DirectExec.failed_of_mem {ps : List Port} {gs : List FailedPath}
    (h : DirectExec o fs ps es (.failed gs)) {a : Attempt τ} {r : Reply Bytes} (ha : .attempt a r ∈ es) :
    ∃ f, r = .error f := by
  generalize hx : DirectEnd.failed gs = x at h
  induction h with
  | failed => cases ha
  | @next fs p ps f es x _ ih =>
      simp only [List.mem_cons] at ha
      rcases ha with ha | ha | ha
      · cases ha
      · cases ha
        exact ⟨f, rfl⟩
      · exact ih ha hx
  | _ => cases hx

theorem DirectExec.succeeds {ps : List Port} {x : Ending Answer} (h : DirectExec o fs ps es (.ended x)) :
    Everywhere (Succeeds x) es ∧ ∀ b, x = done (.success b) → ∃ a, .attempt a (.ok b) ∈ es := by
  generalize hy : DirectEnd.ended x = y at h
  induction h with
  | failed => cases hy
  | stopped =>
      cases hy
      exact ⟨succeeds_of_forall (by simp [Event.succeeds]) _, nofun⟩
  | succeeded fs p ps b =>
      cases hy
      have hp : ∀ e ∈ [(.poll false : Event τ)], e.succeeds = false := by simp [Event.succeeds]
      have ha : (o.directAttempt (τ := τ) p).IsLast [] := rfl
      refine ⟨succeeds_append hp (succeeds_attempt ha (by simp) b), fun b' hb' => ?_⟩
      cases hb'
      exact ⟨o.directAttempt p, by simp⟩
  | panicked =>
      cases hy
      exact ⟨succeeds_of_forall (by simp [Event.succeeds]) _, nofun⟩
  | abandoned =>
      cases hy
      exact ⟨succeeds_of_forall (by simp [Event.succeeds]) _, nofun⟩
  | @next fs p ps f es x _ ih =>
      obtain ⟨hs, hb⟩ := ih hy
      have hp : ∀ e ∈ [(.poll false : Event τ), .attempt (o.directAttempt p) (.error f)],
          e.succeeds = false := by
        simp [Event.succeeds]
      refine ⟨succeeds_append hp hs, fun b hx => ?_⟩
      obtain ⟨a, ha⟩ := hb b hx
      exact ⟨a, by simp [ha]⟩

theorem TurnExec.succeeds_eq_false {i : Instance τ} {e : Failure} {late : List (Event τ)}
    (h : TurnExec c o i es (.returned (.error e)) late) : ∀ e ∈ es, e.succeeds = false := by
  generalize hx : Ending.returned (Except.error e) = x at h
  cases h with
  | unused hr => cases hr <;> cases hx
  | @used r _ _ _ hr =>
      cases hr <;> cases r <;> cases hx
      simp [Event.succeeds]
  | refused => simp [Event.succeeds]
  | unreachable => simp [Event.succeeds]
  | _ => cases hx

/-- An attempt that works ends the turn, and unless its tunnel cannot be released, the run. -/
theorem TurnExec.succeeds {i : Instance τ} {x : Ending (Except Failure Outcome)} {late : List (Event τ)}
    (h : TurnExec c o i es x late) {y : Ending Answer} (hx : x.closing? = some y)
    (hs : ∀ e ∈ es, e.isSettled = true) (rest : List (Instance τ)) :
    Everywhere (Succeeds y) (es ++ (rest.map .dispose ++ late)) := by
  have hnone : (∀ e ∈ es, e.succeeds = false) →
      Everywhere (Succeeds y) (es ++ (rest.map .dispose ++ late)) := by
    intro hes
    refine succeeds_append hes (succeeds_of_forall (fun e he => ?_) y)
    obtain ⟨j, r, rfl⟩ | ⟨j, rfl⟩ := h.mem_rest rest e he <;> rfl
  cases h with
  | unused hr => cases hr <;> exact hnone (by simp [Event.succeeds])
  | @used r es x _ hr =>
      cases r with
      | ok b =>
          cases hr with
          | @returned r' _ =>
              cases hx
              have hp : ∀ e ∈ [(.poll false : Event τ), .handshake i false, .connect i (.ok ()), .poll false],
                  e.succeeds = false := by
                simp [Event.succeeds]
              have ha : (o.attemptOver c i).IsLast (.disconnect i r' :: (i :: rest).map .dispose) :=
                ⟨r', i :: rest, rfl⟩
              have hv : ∀ e ∈ (.disconnect i r' :: (i :: rest).map .dispose : List (Event τ)),
                  e.succeeds = false := by
                simp [Event.succeeds]
              simpa using succeeds_append hp (succeeds_attempt ha hv b)
          | panicked t => simp [Event.isSettled, Reply.isAnswer] at hs
          | abandoned => simp [Event.isSettled, Reply.isAnswer] at hs
      | _ => cases hr <;> exact hnone (by simp [Event.succeeds])
  | left hl => cases hl <;> exact hnone (by simp [Event.succeeds])
  | _ => exact hnone (by simp [Event.succeeds])

theorem TurnExec.success {i : Instance τ} {b : Bytes} {late : List (Event τ)}
    (h : TurnExec c o i es (.returned (.ok (.success b))) late) :
    .attempt (o.attemptOver c i) (.ok b) ∈ es := by
  generalize hx : Ending.returned (Except.ok (Outcome.success b)) = x at h
  cases h with
  | unused hr => cases hr <;> cases hx
  | @used r _ _ _ hr =>
      cases hr <;> cases r <;> cases hx
      simp
  | _ => cases hx

theorem TunnelsExec.succeeds {is : List (Instance τ)} {x : Ending Answer} (h : TunnelsExec c o fs is es x)
    (hs : ∀ e ∈ es, e.isSettled = true) : Everywhere (Succeeds x) es := by
  induction h with
  | exhausted => exact everywhere_nil _
  | next ht _ ih =>
      rw [List.forall_mem_append] at hs
      exact succeeds_append ht.succeeds_eq_false (ih hs.2)
  | last fs rest ht hx =>
      rw [List.forall_mem_append] at hs
      exact ht.succeeds hx hs.1 rest

theorem TunnelsExec.success {is : List (Instance τ)} {x : Ending Answer} (h : TunnelsExec c o fs is es x)
    {b : Bytes} (hx : x = done (.success b)) : ∃ a, .attempt a (.ok b) ∈ es := by
  induction h with
  | exhausted => cases hx
  | next _ _ ih =>
      obtain ⟨a, ha⟩ := ih hx
      exact ⟨a, List.mem_append_right _ ha⟩
  | @last fs i rest es late x y ht hy =>
      subst hx
      obtain rfl : x = .returned (.ok (.success b)) := by
        rcases x with ⟨e | b'⟩ | t | _ <;> cases hy
        rfl
      exact ⟨o.attemptOver c i, List.mem_append_left _ ht.success⟩

end Parts

/-- What a log tells about the attempts of a run that looks for a path of its own. -/
structure FirstSuccess (c : Collaborators σ τ) (o : Order) (s : σ) (log : List (Event τ))
    (ending : Ending Answer) : Prop where
  order : log.filterMap Event.attempt? <+:
    o.allAttempts c ((handedOutIn c o.session log s).filter (serves log))
  /-- A run that fails has tried every path. -/
  complete : ∀ r, ending = done (.failed r) → log.filterMap Event.attempt? =
    o.allAttempts c ((handedOutIn c o.session log s).filter (serves log))
  same : ∀ a r, .attempt a r ∈ log → a.session = o.session ∧ a.parameters = o.parameters
  /-- The catalog is asked once at most, after every direct attempt was made and failed. -/
  catalog : Everywhere (fun u e _ => e = .enumerate → .enumerate ∉ u ∧
    u.filterMap Event.attempt? = o.allAttempts c [] ∧ ∀ a r, .attempt a r ∈ u → ∃ f, r = .error f) log
  /-- Unless a call breaks down or never ends, an attempt that works is the last one. -/
  last : (∀ e ∈ log, e.isSettled = true) → Everywhere (Succeeds ending) log
  success : ∀ b, ending = done (.success b) → ∃ a, .attempt a (.ok b) ∈ log

section Runs
variable {c : Collaborators σ τ} {o : Order} {current : Option τ} {s : σ} {log : List (Event τ)}
  {x : Ending Answer}

theorem allAttempts_eq (c : Collaborators σ τ) (o : Order) (is : List (Instance τ)) :
    o.allAttempts c is = o.session.directPorts.map o.directAttempt ++ is.map (o.attemptOver c) := by
  by_cases hp : o.session.port = 443 <;>
    simp [Order.allAttempts, Session.directPorts, Session.standardPort, hp]

theorem DirectExec.opens_after {fs : List FailedPath} {ds : List (Event τ)} {ps : List Port} {y : DirectEnd}
    (h : DirectExec o fs ps ds y) (n : Nat) (v : List (Event τ)) :
    (.poll false :: (ds ++ .enumerate :: v)).any (Event.opens n) = v.any (Event.opens n) := by
  have hs : Silent n ds := silent_of_forall h.tunnel?_eq_none n
  change (ds ++ .enumerate :: v).any (Event.opens n) = v.any (Event.opens n)
  rw [List.any_append, hs.opens]
  rfl

theorem SelectExec.opens {is kept : List (Instance τ)} {ss : List (Event τ)} (h : SelectExec is ss kept)
    (n : Nat) : ss.any (Event.opens n) = false := by
  refine List.any_eq_false.mpr fun e he => ?_
  obtain ⟨j, -, ⟨b, rfl⟩ | rfl⟩ := h.mem he <;> simp [Event.opens]

theorem SelectExec.attempts {is kept : List (Instance τ)} {ss : List (Event τ)} (h : SelectExec is ss kept) :
    ss.filterMap Event.attempt? = [] := by
  refine List.filterMap_eq_nil_iff.mpr fun e he => ?_
  obtain ⟨j, -, ⟨b, rfl⟩ | rfl⟩ := h.mem he <;> rfl

/-- The tunnels that serve are the candidates that serve in their turn. -/
theorem filter_serves {asked : List (Instance τ × Bool)} (hn : (asked.map (·.1.number)).Nodup)
    {ts : List (Event τ)}
    (ha : ∀ n, answers n log = answers n (asked.flatMap screening) ++ answers n ts)
    (ho : ∀ n, log.any (Event.opens n) = ts.any (Event.opens n)) :
    (asked.map (·.1)).filter (serves log) = (candidates asked).filter (servesInTurn ts) := by
  rw [candidates, List.filter_map, List.filter_map, List.filter_filter]
  refine congrArg _ (List.filter_congr fun p hp => ?_)
  obtain ⟨i, b⟩ := p
  simp only [Function.comp, serves, servesInTurn, ha, ho, answers_screening hn hp]
  cases b
  · simp
  · simp

theorem same_of_mem_allAttempts {is : List (Instance τ)} {a : Attempt τ} (ha : a ∈ o.allAttempts c is) :
    a.session = o.session ∧ a.parameters = o.parameters := by
  rw [allAttempts_eq, List.mem_append, List.mem_map, List.mem_map] at ha
  obtain ⟨p, -, rfl⟩ | ⟨i, -, rfl⟩ := ha <;> exact ⟨rfl, rfl⟩

theorem mem_attempts {es : List (Event τ)} {a : Attempt τ} {r : Reply Bytes} (h : .attempt a r ∈ es) :
    a ∈ es.filterMap Event.attempt? :=
  List.mem_filterMap.mpr ⟨.attempt a r, h, rfl⟩

/-- A run that does not come to ask the catalog is stopped, or ended by a direct path. -/
theorem RunExec.direct_of_searches (h : RunExec c o current s log x) (hs : Searches c o current s)
    (hn : .enumerate ∉ log) : log = [.poll true] ∧ x = done .cancelled ∨
      ∃ ds, log = .poll false :: ds ∧ DirectExec o [] o.session.directPorts ds (.ended x) := by
  cases h with
  | stopped => exact .inl ⟨rfl, rfl⟩
  | invalid he => exact nomatch hs.valid.symm.trans he
  | current _ hu _ => exact nomatch hs.alone.symm.trans hu
  | disallowed _ ha _ => exact nomatch hs.allowed.symm.trans ha
  | direct _ hd => exact .inr ⟨_, rfl, hd⟩
  | noEligible | tunnels => simp at hn

theorem DirectExec.ne_failed {fs : List FailedPath} {ps : List Port} {ds : List (Event τ)}
    (h : DirectExec o fs ps ds (.ended x)) (r : Reason) : x ≠ done (.failed r) := by
  generalize hy : DirectEnd.ended x = y at h
  induction h with
  | failed => cases hy
  | next _ ih => exact ih hy
  | _ =>
      cases hy
      simp [done]

theorem firstSuccess_of_stopped (hn : .enumerate ∉ log)
    (h : log = [.poll true] ∧ x = done .cancelled ∨
      ∃ ds, log = .poll false :: ds ∧ DirectExec o [] o.session.directPorts ds (.ended x)) :
    FirstSuccess c o s log x := by
  have ho : log.filterMap Event.attempt? <+:
      o.allAttempts c ((handedOutIn c o.session log s).filter (serves log)) := by
    rw [allAttempts_eq]
    refine List.IsPrefix.trans ?_ (List.prefix_append _ _)
    rcases h with ⟨rfl, -⟩ | ⟨ds, rfl, hd⟩
    · exact List.nil_prefix
    · exact hd.attempts.1
  refine {
    order := ho
    complete := fun r hr => ?_
    same := fun a r ha => same_of_mem_allAttempts (ho.subset (mem_attempts ha))
    catalog := fun u e v hu he => absurd (by simp [hu, he]) hn
    last := fun _ => ?_
    success := fun b hb => ?_ }
  · rcases h with ⟨-, rfl⟩ | ⟨ds, -, hd⟩
    · cases hr
    · exact absurd hr (hd.ne_failed r)
  · rcases h with ⟨rfl, -⟩ | ⟨ds, rfl, hd⟩
    · exact succeeds_of_forall (by simp [Event.succeeds]) x
    · have hp : ∀ e ∈ [(.poll false : Event τ)], e.succeeds = false := by simp [Event.succeeds]
      exact succeeds_append hp hd.succeeds.1
  · rcases h with ⟨-, rfl⟩ | ⟨ds, rfl, hd⟩
    · cases hb
    · obtain ⟨a, ha⟩ := hd.succeeds.2 b hb
      exact ⟨a, List.mem_cons_of_mem _ ha⟩

theorem firstSuccess_of_chosen {ds ss ts : List (Event τ)} {kept : List (Instance τ)} {fs : List FailedPath}
    (hl : log = .poll false :: (ds ++ .enumerate :: (ss ++ ts)))
    (hd : DirectExec o [] o.session.directPorts ds (.failed fs))
    (hk : SelectExec (handedOutIn c o.session log s) ss kept) (hv : .enumerate ∉ ss ++ ts)
    (ht : kept = [] ∧ ts = [] ∧ x = done (.failed (.noEligible fs)) ∨
      kept ≠ [] ∧ TunnelsExec c o fs kept ts x) : FirstSuccess c o s log x := by
  have hn := nodup_handedOutIn c o.session log s
  have hkept : (kept.map (·.number)).Nodup := (hk.sublist.map _).nodup hn
  have hserves : (handedOutIn c o.session log s).filter (serves log) = kept.filter (servesInTurn ts) := by
    have hopens := hk.opens
    obtain ⟨asked, hasked, rfl, rfl⟩ := hk.asked
    rw [← hasked, List.map_map] at hn
    rw [← hasked]
    refine filter_serves hn (fun n => ?_) fun n => ?_
    · rw [hl, hd.answers_after, answers_append]
    · rw [hl, hd.opens_after, List.any_append, hopens, Bool.false_or]
  have hdirect := hd.attempts.2 fs rfl
  have hattempts : log.filterMap Event.attempt? =
      o.session.directPorts.map o.directAttempt ++ ts.filterMap Event.attempt? := by
    subst hl
    change (ds ++ ([(.enumerate : Event τ)] ++ (ss ++ ts))).filterMap Event.attempt? = _
    rw [List.filterMap_append, List.filterMap_append, List.filterMap_append, hdirect, hk.attempts]
    rfl
  have hturns : ts.filterMap Event.attempt? <+: (kept.filter (servesInTurn ts)).map (o.attemptOver c) ∧
      ∀ r, x = done (.failed r) →
        ts.filterMap Event.attempt? = (kept.filter (servesInTurn ts)).map (o.attemptOver c) := by
    rcases ht with ⟨rfl, rfl, rfl⟩ | ⟨-, ht⟩
    · simp
    · obtain ⟨hp, hx⟩ := ht.attempts hkept
      refine ⟨hp, fun r hr => ?_⟩
      obtain ⟨gs, rfl⟩ := ht.exhausted_of_failed hr
      exact hx gs hr
  have ho : log.filterMap Event.attempt? <+:
      o.allAttempts c ((handedOutIn c o.session log s).filter (serves log)) := by
    rw [allAttempts_eq, hserves, hattempts]
    exact (List.prefix_append_right_inj _).mpr hturns.1
  refine {
    order := ho
    complete := fun r hr => ?_
    same := fun a r ha => same_of_mem_allAttempts (ho.subset (mem_attempts ha))
    catalog := fun u e v hu he => ?_
    last := fun hs => ?_
    success := fun b hb => ?_ }
  · rw [allAttempts_eq, hserves, hattempts, hturns.2 r hr]
  · have hbefore : .enumerate ∉ .poll false :: ds := by simp [hd.enumerate_not_mem]
    subst he
    obtain ⟨rfl, rfl⟩ := enumerate_split hbefore hv (hl.symm.trans hu)
    refine ⟨hbefore, ?_, fun a r ha => ?_⟩
    · rw [allAttempts_eq, List.map_nil, List.append_nil]
      exact hdirect
    · have ha' : .attempt a r ∈ ds := by simpa using ha
      exact hd.failed_of_mem ha'
  · have hp : ∀ e ∈ .poll false :: (ds ++ .enumerate :: ss), e.succeeds = false := by
      rw [List.forall_mem_cons, List.forall_mem_append, List.forall_mem_cons]
      refine ⟨rfl, fun e he => ?_, rfl, fun e he => ?_⟩
      · cases e with
        | attempt a r =>
            obtain ⟨f, rfl⟩ := hd.failed_of_mem he
            rfl
        | _ => rfl
      · obtain ⟨j, -, ⟨b, rfl⟩ | rfl⟩ := hk.mem he <;> rfl
    rcases ht with ⟨-, rfl, rfl⟩ | ⟨-, ht⟩
    · subst hl
      exact succeeds_of_forall (by simpa using hp) _
    · have hts : Everywhere (Succeeds x) ts := ht.succeeds fun e he => hs e (by simp [hl, he])
      rw [hl]
      simpa using succeeds_append hp hts
  · rcases ht with ⟨-, -, rfl⟩ | ⟨-, ht⟩
    · cases hb
    · obtain ⟨a, ha⟩ := ht.success hb
      exact ⟨a, by simp [hl, ha]⟩

end Runs

/-- With a valid request, no tunnel that is up and leave to connect others, a run makes its attempts in
order until one works. -/
theorem firstSuccess_run (c : Collaborators σ τ) (o : Order) (current : Option τ) (s : σ)
    (hs : Searches c o current s) :
    FirstSuccess c o s ((run c o current).events s) ((run c o current).result s) := by
  have h := run_exec c o current s
  rcases h.chooses with ⟨hn, -⟩ | ⟨ds, ss, kept, ts, fs, hl, -, hd, hk, hv, ht⟩
  · exact firstSuccess_of_stopped hn (h.direct_of_searches hs hn)
  · exact firstSuccess_of_chosen hl hd hk hv ht

theorem firstSuccess_secondTunnel :
    let c := Script.collaborators true
    let s := Script.sample [Script.noRoute, Script.noRoute, Script.noRoute, .ok [79, 75]]
    (run c Order.sample none).result s = done (.success [79, 75]) ∧
      FirstSuccess c Order.sample s ((run c Order.sample none).events s) ((run c Order.sample none).result s) :=
  ⟨by decide +kernel, firstSuccess_run _ _ _ _ ⟨by decide +kernel, rfl, rfl⟩⟩

end RouteCascade.Cascade
