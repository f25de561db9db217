import RouteCascade.Proofs.Cascade.Log
import Mathlib.Data.List.Nodup

/-!
# Teardown

A tunnel of the catalog that was connected is disconnected, once, whatever becomes of the attempt over
it, of the run, and of the disconnecting itself. The proof follows which tunnel is up: every event
leads from one such state to another, connecting needs that none is up, and a run leads from none to
none.
-/
namespace RouteCascade.Cascade

open Text Net

variable {σ τ : Type}

/-- What an event makes of the tunnel that is up. -/
def Event.Moves : Event τ → Option (Instance τ) → Option (Instance τ) → Prop
  | .connect i (.ok _), h, h' => h = none ∧ h' = some i
  | .connect _ _, h, h' => h = none ∧ h' = none
  | .disconnect i _, h, h' => h = some i ∧ h' = none
  | _, h, h' => h' = h

/-- Events lead from one tunnel that is up, or from none, to another. -/
def Leads : List (Event τ) → Option (Instance τ) → Option (Instance τ) → Prop
  | [], h, h' => h' = h
  | e :: es, h, h' => ∃ m, e.Moves h m ∧ Leads es m h'

theorem leads_append {xs ys : List (Event τ)} {h h' : Option (Instance τ)} :
    Leads (xs ++ ys) h h' ↔ ∃ m, Leads xs h m ∧ Leads ys m h' := by
  induction xs generalizing h with
  | nil => simp [Leads]
  | cons e xs ih =>
      simp only [List.cons_append, Leads, ih]
      constructor
      · rintro ⟨m, hm, k, hk, hy⟩
        exact ⟨k, ⟨m, hm, hk⟩, hy⟩
      · rintro ⟨k, ⟨m, hm, hk⟩, hy⟩
        exact ⟨m, hm, k, hk, hy⟩

def Event.isStill : Event τ → Bool
  | .connect .. | .disconnect .. => false
  | _ => true

theorem isStill_of_tunnel?_eq_none {e : Event τ} (h : e.tunnel? = none) : e.isStill = true := by
  cases e <;> first | rfl | cases h

theorem leads_of_isStill {es : List (Event τ)} (hs : ∀ e ∈ es, e.isStill = true)
    {h h' : Option (Instance τ)} : Leads es h h' ↔ h' = h := by
  induction es generalizing h with
  | nil => rfl
  | cons e es ih =>
      have he : ∀ m, e.Moves h m ↔ m = h := by
        intro m
        have := hs e List.mem_cons_self
        cases e <;> first | rfl | cases this
      simp only [Leads, he, exists_eq_left]
      exact ih fun x hx => hs x (List.mem_cons_of_mem _ hx)

/-- The state in which a connected tunnel is the one that is up, as long as it was not disconnected. -/
theorem Leads.eq_of_up {es : List (Event τ)} {h m : Option (Instance τ)} (hl : Leads es h m)
    {i : Instance τ} (hi : h = some i ∨ .connect i (.ok ()) ∈ es) (hd : ∀ r, .disconnect i r ∉ es) :
    m = some i := by
  induction es generalizing h with
  | nil =>
      obtain rfl : m = h := hl
      exact hi.resolve_right List.not_mem_nil
  | cons e es ih =>
      obtain ⟨k, hk, hl⟩ := hl
      have hd' : ∀ r, .disconnect i r ∉ es := fun r hr => hd r (List.mem_cons_of_mem _ hr)
      refine ih hl ?_ hd'
      rcases hi with rfl | hi
      · -- The tunnel was up before, and the event is not its end.
        left
        cases e with
        | connect j r => cases r <;> cases hk.1
        | disconnect j r =>
            obtain ⟨hj, -⟩ := hk
            cases hj
            exact absurd List.mem_cons_self (hd r)
        | _ => exact hk
      · rcases List.mem_cons.mp hi with rfl | hi
        · exact .inl hk.2
        · exact .inr hi

/-- A tunnel that is up was up before or was connected since. -/
theorem Leads.connected {es : List (Event τ)} {h : Option (Instance τ)} {i : Instance τ}
    (hl : Leads es h (some i)) : h = some i ∨ .connect i (.ok ()) ∈ es := by
  induction es generalizing h with
  | nil => exact .inl (Eq.symm hl)
  | cons e es ih =>
      obtain ⟨k, hk, hl⟩ := hl
      rcases ih hl with rfl | hi
      · cases e with
        | connect j r =>
            cases r with
            | ok a =>
                obtain ⟨-, hj⟩ := hk
                cases hj
                exact .inr List.mem_cons_self
            | _ => cases hk.2
        | disconnect j r => cases hk.2
        | _ => exact .inl (Eq.symm hk)
      · exact .inr (List.mem_cons_of_mem _ hi)

/-- How often the tunnel with a number is up: once or not at all. -/
def upCount (n : Nat) : Option (Instance τ) → Nat
  | some i => if i.number = n then 1 else 0
  | none => 0

/-- Every connection that worked is ended by a disconnection, but for that of the tunnel still up. -/
theorem Leads.balanced {es : List (Event τ)} {h h' : Option (Instance τ)} (hl : Leads es h h') (n : Nat) :
    upCount n h + es.countP (Event.opens n) = es.countP (Event.disconnects n) + upCount n h' := by
  induction es generalizing h with
  | nil =>
      obtain rfl : h' = h := hl
      simp
  | cons e es ih =>
      obtain ⟨m, hm, hl⟩ := hl
      have := ih hl
      simp only [List.countP_cons]
      cases e with
      | connect i r =>
          cases r <;> obtain ⟨rfl, rfl⟩ := hm <;> simp [upCount, Event.opens, Event.disconnects] at * <;> omega
      | disconnect i r =>
          obtain ⟨rfl, rfl⟩ := hm
          simp [upCount, Event.opens, Event.disconnects] at *
          omega
      | _ =>
          obtain rfl : m = h := hm
          simp [Event.opens, Event.disconnects]
          omega

section Parts
variable {c : Collaborators σ τ} {o : Order} {es : List (Event τ)} {i : Instance τ}

theorem Connection.ReleaseExec.leads {x : StepEnd σ τ Unit} (h : ReleaseExec i es x) :
    Leads es (some i) none := by
  cases h <;> simp [Leads, Event.Moves]

/-- In its turn a tunnel is disconnected if it is connected, at once or in the background. -/
theorem TurnExec.leads {x : Ending (Except Failure Outcome)} {late : List (Event τ)}
    (h : TurnExec c o i es x late) (hbg : x = .abandoned → c.background = true) :
    ∃ m, Leads es none m ∧ Leads late m none := by
  cases h with
  | unused hr => exact ⟨none, by simpa [Leads, Event.Moves] using hr.leads, rfl⟩
  | used _ hr => exact ⟨none, by simpa [Leads, Event.Moves] using hr.leads, rfl⟩
  | left hl =>
      refine ⟨some i, ?_, ?_⟩
      · cases hl with
        | alone hb => exact absurd ((hbg rfl).symm.trans hb) nofun
        | _ => simp [Leads, Event.Moves]
      · cases hl with
        | alone hb => exact absurd ((hbg rfl).symm.trans hb) nofun
        | _ => simp [Leads, Event.Moves]
  | _ => exact ⟨none, by simp [Leads, Event.Moves], rfl⟩

theorem Ending.closing?_eq_abandoned {x : Ending (Except Failure Outcome)} {y : Ending Answer}
    (h : x.closing? = some y) : x = .abandoned ↔ y = .abandoned := by
  rcases x with ⟨e | b⟩ | t | _ <;> cases h <;> simp [done]

theorem leads_dispose {is : List (Instance τ)} {h h' : Option (Instance τ)} :
    Leads (is.map .dispose) h h' ↔ h' = h :=
  leads_of_isStill (by simp [Event.isStill])

theorem TunnelsExec.leads {fs : List FailedPath} {is : List (Instance τ)} {x : Ending Answer}
    (h : TunnelsExec c o fs is es x) (hbg : x = .abandoned → c.background = true) :
    Leads es none none := by
  induction h with
  | exhausted => rfl
  | next ht _ ih =>
      -- A turn that fails leaves nothing to the background, so that no tunnel is up in the next one.
      obtain ⟨m, hm, rfl⟩ := ht.leads nofun
      exact leads_append.mpr ⟨none, hm, ih hbg⟩
  | last fs rest ht hx =>
      obtain ⟨m, hm, hl⟩ := ht.leads fun h => hbg ((Ending.closing?_eq_abandoned hx).mp h)
      exact leads_append.mpr ⟨m, hm, leads_append.mpr ⟨m, leads_dispose.mpr rfl, hl⟩⟩

theorem countP_connects_of_isStill {es : List (Event τ)} (hs : ∀ e ∈ es, e.isStill = true) (n : Nat) :
    es.countP (Event.connects n) = 0 := by
  refine List.countP_eq_zero.mpr fun e he => ?_
  have hse := hs e he
  cases e with
  | connect j r => cases hse
  | _ => simp [Event.connects]

theorem Connection.ReleaseExec.countP_connects {x : StepEnd σ τ Unit} (h : ReleaseExec i es x) (n : Nat) :
    es.countP (Event.connects n) = 0 := by
  cases h <;> simp [Event.connects]

/-- In its turn a tunnel is connected once at most, and no other one is. -/
theorem TurnExec.countP_connects {x : Ending (Except Failure Outcome)} {late : List (Event τ)}
    (h : TurnExec c o i es x late) (n : Nat) :
    es.countP (Event.connects n) + late.countP (Event.connects n) ≤ if i.number = n then 1 else 0 := by
  cases h with
  | unused hr => simp [List.countP_cons, Event.connects, hr.countP_connects]
  | used _ hr => simp [List.countP_cons, Event.connects, hr.countP_connects]
  | left hl => cases hl <;> simp [List.countP_cons, Event.connects]
  | _ => simp [List.countP_cons, Event.connects]

theorem TunnelsExec.countP_connects {fs : List FailedPath} {is : List (Instance τ)} {x : Ending Answer}
    (h : TunnelsExec c o fs is es x) (n : Nat) :
    es.countP (Event.connects n) ≤ (is.map (·.number)).count n := by
  induction h with
  | exhausted => simp
  | @next fs i rest e es es' x ht _ ih =>
      have := ht.countP_connects n
      simp only [List.countP_append, List.map_cons, List.count_cons, beq_iff_eq]
      omega
  | @last fs i rest es late x y ht _ =>
      have := ht.countP_connects n
      have hd : (rest.map Event.dispose).countP (Event.connects n) = 0 :=
        countP_connects_of_isStill (by simp [Event.isStill]) n
      simp only [List.countP_append, List.map_cons, List.count_cons, beq_iff_eq]
      omega

theorem DirectExec.isStill {fs : List FailedPath} {ps : List Port} {x : DirectEnd}
    (h : DirectExec o fs ps es x) : ∀ e ∈ es, e.isStill = true :=
  fun e he => isStill_of_tunnel?_eq_none (h.tunnel?_eq_none e he)

theorem SelectExec.isStill {is kept : List (Instance τ)} (h : SelectExec is es kept) :
    ∀ e ∈ es, e.isStill = true := by
  intro e he
  obtain ⟨j, -, ⟨b, rfl⟩ | rfl⟩ := h.mem he <;> rfl

theorem SelectExec.abandon_not_mem {is kept : List (Instance τ)} (h : SelectExec is es kept) :
    .abandon ∉ es := by
  intro he
  obtain ⟨j, -, ⟨b, hb⟩ | hb⟩ := h.mem he <;> cases hb

theorem DirectExec.abandon_mem {fs : List FailedPath} {ps : List Port} {x : DirectEnd}
    (h : DirectExec o fs ps es x) : .abandon ∈ es ↔ x = .ended .abandoned := by
  induction h with
  | next _ ih => simpa using ih
  | _ => simp [done]

theorem CurrentExec.abandon_mem {a : Attempt τ} {x : Ending Answer} (h : CurrentExec a es x) :
    .abandon ∈ es ↔ x = .abandoned := by
  cases h <;> simp [done]

/-- A run consists of events that connect and disconnect nothing and, at most, of the turns of tunnels
that the catalog handed out. -/
theorem RunExec.split {current : Option τ} {s : σ} {x : Ending Answer} (h : RunExec c o current s es x) :
    (∀ e ∈ es, e.isStill = true) ∨
      ∃ before turns fs kept, es = before ++ turns ∧ (∀ e ∈ before, e.isStill = true) ∧
        .abandon ∉ before ∧ (kept.map (·.number)).Nodup ∧ TunnelsExec c o fs kept turns x := by
  rcases h.chooses with ⟨-, hn⟩ | ⟨ds, ss, kept, ts, fs, rfl, -, hd, hk, -, ht⟩
  · exact .inl fun e he => isStill_of_tunnel?_eq_none (hn e he)
  · have hs : ∀ e ∈ .poll false :: (ds ++ .enumerate :: ss), e.isStill = true := by
      simp only [List.forall_mem_cons, List.forall_mem_append]
      exact ⟨rfl, hd.isStill, rfl, hk.isStill⟩
    rcases ht with ⟨-, rfl, -⟩ | ⟨-, ht⟩
    · exact .inl (by simpa using hs)
    · refine .inr ⟨.poll false :: (ds ++ .enumerate :: ss), ts, fs, kept, by simp, hs, ?_, ?_, ht⟩
      · have hd' : .abandon ∉ ds := mt hd.abandon_mem.mp (by simp)
        simp [hd', hk.abandon_not_mem]
      · exact (hk.sublist.map _).nodup (nodup_handedOutIn c _ _ _)

theorem RunExec.leads {current : Option τ} {s : σ} {x : Ending Answer} (h : RunExec c o current s es x)
    (hbg : x = .abandoned → c.background = true) : Leads es none none := by
  rcases h.split with hs | ⟨before, turns, fs, kept, rfl, hs, -, -, ht⟩
  · exact (leads_of_isStill hs).mpr rfl
  · exact leads_append.mpr ⟨none, (leads_of_isStill hs).mpr rfl, ht.leads hbg⟩

theorem RunExec.countP_connects {current : Option τ} {s : σ} {x : Ending Answer}
    (h : RunExec c o current s es x) (n : Nat) : es.countP (Event.connects n) ≤ 1 := by
  rcases h.split with hs | ⟨before, turns, fs, kept, rfl, hs, -, hn, ht⟩
  · rw [countP_connects_of_isStill hs n]
    exact Nat.zero_le 1
  · rw [List.countP_append, countP_connects_of_isStill hs n, Nat.zero_add]
    exact Nat.le_trans (ht.countP_connects n) (List.nodup_iff_count_le_one.mp hn n)

/-- The ending of a turn tells whether whoever waited for the run has left. -/
theorem TurnExec.abandon_mem {x : Ending (Except Failure Outcome)} {late : List (Event τ)}
    (h : TurnExec c o i es x late) : (.abandon ∈ es ↔ x = .abandoned) ∧ .abandon ∉ late := by
  cases h with
  | unused hr => cases hr <;> simp [Ending.releasedBy]
  | @used r _ _ hne hr =>
      cases hr with
      | returned => cases r <;> simp_all [Ending.releasedBy, Reply.verdict]
      | _ => simp [Ending.releasedBy]
  | left hl => cases hl <;> simp
  | _ => simp

theorem TunnelsExec.abandon_mem {fs : List FailedPath} {is : List (Instance τ)} {x : Ending Answer}
    (h : TunnelsExec c o fs is es x) : .abandon ∈ es ↔ x = .abandoned := by
  induction h with
  | exhausted => simp [done]
  | next ht _ ih =>
      have hn := mt ht.abandon_mem.1.mp (by simp)
      simp [hn, ih]
  | last fs rest ht hx =>
      obtain ⟨he, hl⟩ := ht.abandon_mem
      simp [he, hl, Ending.closing?_eq_abandoned hx]

theorem RunExec.abandon_mem {current : Option τ} {s : σ} {x : Ending Answer}
    (h : RunExec c o current s es x) : .abandon ∈ es ↔ x = .abandoned := by
  cases h with
  | stopped | disallowed _ _ _ => simp [done]
  | invalid _ => simp
  | current _ _ hc => simpa using hc.abandon_mem
  | direct _ hd => simpa using hd.abandon_mem
  | noEligible _ hd hk =>
      have hn := mt hd.abandon_mem.mp (by simp)
      simp [hn, hk.abandon_not_mem, done]
  | tunnels _ hd hk _ ht =>
      have hn := mt hd.abandon_mem.mp (by simp)
      simp [hn, hk.abandon_not_mem, ht.abandon_mem]

/-- A run that was given up disconnects a tunnel after that only if it waited for an attempt over it. -/
def LateTeardown (u : List (Event τ)) (e : Event τ) (v : List (Event τ)) : Prop :=
  e = .abandon → ∀ i r, .disconnect i r ∈ v →
    ∃ u' a, u = u' ++ [.attempt a .hang] ∧ a.carrier = .temporary i

theorem stable_lateTeardown : Stable (LateTeardown (τ := τ)) := by
  intro w u e v h he i r hr
  obtain ⟨u', a, rfl, ha⟩ := h he i r hr
  exact ⟨w ++ u', a, (List.append_assoc ..).symm, ha⟩

theorem lateTeardown_of_abandon_not_mem {xs : List (Event τ)} (h : .abandon ∉ xs) (ys : List (Event τ)) :
    Everywhere (fun u e v => LateTeardown u e (v ++ ys)) xs :=
  everywhere_of_forall fun _ _ he _ ha => absurd (ha ▸ he) h

theorem TurnExec.lateTeardown {x : Ending (Except Failure Outcome)} {late : List (Event τ)}
    (h : TurnExec c o i es x late) (rest : List (Instance τ)) :
    Everywhere (fun u e v => LateTeardown u e (v ++ (rest.map .dispose ++ late))) es := by
  cases h with
  | unused hr => cases hr <;> simp [LateTeardown]
  | used _ hr => cases hr <;> simp [LateTeardown]
  | left hl =>
      cases hl with
      | alone => simp [LateTeardown]
      | _ =>
          -- The one disconnection that is late: the attempt over the tunnel was pending.
          simp only [everywhere_cons, everywhere_nil, and_true, LateTeardown]
          refine ⟨by simp, by simp, by simp, by simp, by simp, fun _ j r hr => ?_⟩
          obtain rfl : j = i := by simp at hr; exact hr.1
          exact ⟨[_, _, _, _], _, rfl, rfl⟩
  | _ => simp [LateTeardown]

theorem TunnelsExec.lateTeardown {fs : List FailedPath} {is : List (Instance τ)} {x : Ending Answer}
    (h : TunnelsExec c o fs is es x) : Everywhere LateTeardown es := by
  induction h with
  | exhausted => exact everywhere_nil _
  | next ht _ ih =>
      have hn := mt ht.abandon_mem.1.mp (by simp)
      exact .append stable_lateTeardown (lateTeardown_of_abandon_not_mem hn _) ih
  | @last fs i rest es late x y ht _ =>
      have hn : .abandon ∉ rest.map .dispose ++ late := by simpa using ht.abandon_mem.2
      refine .append stable_lateTeardown (ht.lateTeardown rest) ?_
      simpa using lateTeardown_of_abandon_not_mem hn []

theorem RunExec.lateTeardown {current : Option τ} {s : σ} {x : Ending Answer}
    (h : RunExec c o current s es x) : Everywhere LateTeardown es := by
  rcases h.split with hs | ⟨before, turns, fs, kept, rfl, -, hn, -, ht⟩
  · intro u e v hu _ i r hr
    cases hs (.disconnect i r) (hu ▸ List.mem_append_right u (List.mem_cons_of_mem e hr))
  · exact .append stable_lateTeardown (lateTeardown_of_abandon_not_mem hn turns) ht.lateTeardown

end Parts

/-- A tunnel was connected and has not been told to disconnect. -/
def IsUp (u : List (Event τ)) (i : Instance τ) : Prop :=
  .connect i (.ok ()) ∈ u ∧ ∀ r, .disconnect i r ∉ u

/-- What a log tells about the tunnels of the catalog when they are torn down properly. -/
structure TornDown (c : Collaborators σ τ) (session : Session) (s : σ) (log : List (Event τ))
    (ending : Ending Answer) : Prop where
  /-- Only tunnels that the catalog handed out are connected or disconnected. -/
  own : ∀ e ∈ log, ∀ i, e.tunnel? = some i → i ∈ handedOutIn c session log s
  distinct : ((handedOutIn c session log s).map (·.number)).Nodup
  once : ∀ n, log.countP (Event.connects n) ≤ 1
  balanced : ∀ n, log.countP (Event.disconnects n) = log.countP (Event.opens n)
  after : Everywhere (fun u e _ => ∀ i r, e = .disconnect i r → IsUp u i) log
  /-- When a tunnel is connected, every tunnel before it has been told to disconnect. -/
  alone : Everywhere (fun u e _ => ∀ i r, e = .connect i r → ∀ j, ¬ IsUp u j) log
  single : ∀ u, u <+: log → ∀ i j, IsUp u i → IsUp u j → i = j
  /-- In the end no tunnel is up. -/
  down : ∀ i, ¬ IsUp log i
  /-- What comes after this event is done in the background. -/
  abandoned : .abandon ∈ log ↔ ending = .abandoned
  inTime : Everywhere LateTeardown log

theorem Leads.up_of_disconnect {es : List (Event τ)} {h h' : Option (Instance τ)} (hl : Leads es h h')
    {u v : List (Event τ)} {i : Instance τ} {r : Reply Unit} (hu : es = u ++ .disconnect i r :: v) :
    Leads u h (some i) := by
  subst hu
  obtain ⟨m, hm, k, hk, -⟩ := leads_append.mp hl
  exact hk.1 ▸ hm

theorem Leads.down_of_connect {es : List (Event τ)} {h h' : Option (Instance τ)} (hl : Leads es h h')
    {u v : List (Event τ)} {i : Instance τ} {r : Reply Unit} (hu : es = u ++ .connect i r :: v) :
    Leads u h none := by
  subst hu
  obtain ⟨m, hm, k, hk, -⟩ := leads_append.mp hl
  cases r <;> exact hk.1 ▸ hm

theorem opens_le_connects (es : List (Event τ)) (n : Nat) :
    es.countP (Event.opens n) ≤ es.countP (Event.connects n) := by
  refine List.countP_mono_left fun e _ he => ?_
  cases e with
  | connect i r =>
      cases r with
      | ok a => exact he
      | _ => cases he
  | _ => cases he

/-- A tunnel that is up, and was connected only once, has not been disconnected yet. -/
theorem Leads.isUp {es : List (Event τ)} {i : Instance τ} (hl : Leads es none (some i))
    (h : es.countP (Event.connects i.number) ≤ 1) : IsUp es i := by
  refine ⟨hl.connected.resolve_left nofun, fun r hr => ?_⟩
  have hb := hl.balanced i.number
  have ho := opens_le_connects es i.number
  have hd : 0 < es.countP (Event.disconnects i.number) :=
    List.countP_pos_iff.mpr ⟨_, hr, by simp [Event.disconnects]⟩
  simp only [upCount, if_true] at hb
  omega

theorem Leads.not_isUp {es : List (Event τ)} (hl : Leads es none none) (i : Instance τ) : ¬ IsUp es i :=
  fun hi => nomatch hl.eq_of_up (.inr hi.1) hi.2

theorem tornDown_run (c : Collaborators σ τ) (o : Order) (current : Option τ) (s : σ)
    (hbg : (run c o current).result s = .abandoned → c.background = true) :
    TornDown c o.session s ((run c o current).events s) ((run c o current).result s) := by
  have h := run_exec c o current s
  generalize (run c o current).events s = log at h ⊢
  generalize (run c o current).result s = ending at h hbg ⊢
  have hl := h.leads hbg
  refine {
    own := fun e he i hi => h.mem_handedOutIn he hi
    distinct := nodup_handedOutIn c o.session log s
    once := h.countP_connects
    balanced := fun n => ?_
    after := ?_
    alone := ?_
    single := ?_
    down := hl.not_isUp
    abandoned := h.abandon_mem
    inTime := h.lateTeardown }
  · have hb := hl.balanced n
    simp only [upCount, Nat.zero_add, Nat.add_zero] at hb
    exact hb.symm
  · rintro u e v hu i r rfl
    refine (hl.up_of_disconnect hu).isUp (Nat.le_trans ?_ (h.countP_connects i.number))
    exact List.Sublist.countP_le (hu ▸ List.sublist_append_left u _)
  · rintro u e v hu i r rfl j hj
    exact (hl.down_of_connect hu).not_isUp j hj
  · rintro u ⟨v, rfl⟩ i j hi hj
    obtain ⟨m, hm, -⟩ := leads_append.mp hl
    have hmi := hm.eq_of_up (.inr hi.1) hi.2
    have hmj := hm.eq_of_up (.inr hj.1) hj.2
    exact Option.some.inj (hmi.symm.trans hmj)

theorem tornDown_hangingAttempt :
    let c := Script.collaborators true
    let s := Script.sample [Script.noRoute, Script.noRoute, .hang]
    (run c Order.sample none).result s = .abandoned ∧
      TornDown c Order.sample.session s ((run c Order.sample none).events s)
        ((run c Order.sample none).result s) :=
  ⟨by decide +kernel, tornDown_run _ _ _ _ fun _ => rfl⟩

end RouteCascade.Cascade
