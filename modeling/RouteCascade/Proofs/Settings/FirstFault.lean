import RouteCascade.Proofs.Settings.Runnable
import Mathlib.Data.List.Basic

/-!
# The first fault of settings

What settings have to meet is a list of requirements, each with what is said if it is not met: those on the
server, on the local proxy and the timeouts, on the tunnels one by one, and then that each name differs from
those in front of it. A check goes through such a list in order. It passes if all of them are met, and
otherwise it blames the first that is not.
-/
namespace RouteCascade

open Text Net

/-- Something that has to hold, and what may be said if it does not. -/
structure Requirement (ε : Type) where
  met : Prop
  blame : ε → Prop

namespace Requirement

section Order
variable {ε α : Type} {rs ts : List (Requirement ε)} {e : ε}

def plain (met : Prop) (fault : ε) : Requirement ε := ⟨met, (· = fault)⟩

/-- The fault is that of the first requirement that is not met. -/
def FirstUnmet (rs : List (Requirement ε)) (e : ε) : Prop :=
  ∃ before r after, rs = before ++ r :: after ∧ (∀ b ∈ before, b.met) ∧ ¬ r.met ∧ r.blame e

/-- What a check finds is what is wrong with its requirements. -/
structure Decides (fault? : Option ε) (rs : List (Requirement ε)) : Prop where
  accepted : fault? = none ↔ ∀ r ∈ rs, r.met
  blamed : ∀ e, fault? = some e ↔ FirstUnmet rs e

theorem not_firstUnmet_of_met (h : ∀ r ∈ rs, r.met) : ¬ FirstUnmet rs e := by
  rintro ⟨before, r, after, rfl, -, hr, -⟩
  exact hr (h r (List.mem_append_right _ List.mem_cons_self))

theorem firstUnmet_append :
    FirstUnmet (rs ++ ts) e ↔ FirstUnmet rs e ∨ (∀ r ∈ rs, r.met) ∧ FirstUnmet ts e := by
  constructor
  · rintro ⟨before, r, after, hsplit, hbefore, hr, he⟩
    rcases List.append_eq_append_iff.mp hsplit with ⟨m, rfl, hm⟩ | ⟨m, rfl, hm⟩
    · rw [List.forall_mem_append] at hbefore
      exact .inr ⟨hbefore.1, m, r, after, hm, hbefore.2, hr, he⟩
    · cases m with
      | nil => exact .inr ⟨by simpa using hbefore, [], r, after, by simpa using hm.symm, nofun, hr, he⟩
      | cons x m =>
          obtain ⟨rfl, -⟩ := List.cons.inj hm
          exact .inl ⟨before, r, m, rfl, hbefore, hr, he⟩
  · rintro (⟨before, r, after, rfl, hbefore, hr, he⟩ | ⟨hmet, before, r, after, rfl, hbefore, hr, he⟩)
    · exact ⟨before, r, after ++ ts, by simp, hbefore, hr, he⟩
    · refine ⟨rs ++ before, r, after, by simp, ?_, hr, he⟩
      exact List.forall_mem_append.mpr ⟨hmet, hbefore⟩

theorem firstUnmet_singleton {r : Requirement ε} : FirstUnmet [r] e ↔ ¬ r.met ∧ r.blame e := by
  constructor
  · rintro ⟨before, s, after, hsplit, -, hs, he⟩
    cases before with
    | nil =>
        obtain ⟨rfl, -⟩ := List.cons.inj hsplit
        exact ⟨hs, he⟩
    | cons b before => cases before <;> cases hsplit
  · rintro ⟨hr, he⟩
    exact ⟨[], r, [], rfl, nofun, hr, he⟩

/-- In a list that is put together from others, it is the first of those that are not all met. -/
theorem firstUnmet_flatMap {requirements : α → List (Requirement ε)} {as : List α} :
    FirstUnmet (as.flatMap requirements) e ↔
      ∃ before a after, as = before ++ a :: after ∧ (∀ b ∈ before, ∀ r ∈ requirements b, r.met) ∧
        FirstUnmet (requirements a) e := by
  constructor
  · intro h
    induction as with
    | nil => exact absurd h (not_firstUnmet_of_met nofun)
    | cons a as ih =>
        rw [List.flatMap_cons, firstUnmet_append] at h
        rcases h with ha | ⟨hmet, h⟩
        · exact ⟨[], a, as, rfl, nofun, ha⟩
        · obtain ⟨before, b, after, rfl, hbefore, hb⟩ := ih h
          exact ⟨a :: before, b, after, rfl, List.forall_mem_cons.mpr ⟨hmet, hbefore⟩, hb⟩
  · rintro ⟨before, a, after, rfl, hbefore, ha⟩
    rw [List.flatMap_append, List.flatMap_cons, firstUnmet_append, firstUnmet_append]
    exact .inr ⟨List.forall_mem_flatMap.mpr hbefore, .inl ha⟩

theorem decides_nil : Decides (none : Option ε) [] :=
  ⟨iff_of_true rfl nofun, fun _ => iff_of_false nofun (not_firstUnmet_of_met nofun)⟩

theorem Decides.append {a b : Option ε} (ha : Decides a rs) (hb : Decides b ts) :
    Decides (a.or b) (rs ++ ts) := by
  refine ⟨?_, fun e => ?_⟩
  · rw [Option.or_eq_none_iff, ha.accepted, hb.accepted, List.forall_mem_append]
  · rw [Option.or_eq_some_iff, firstUnmet_append, ha.blamed, ha.accepted, hb.blamed]

/-- One more check in front, as a condition for its fault. -/
theorem Decides.ite {p q : Prop} [Decidable p] {a : Option ε} (ha : Decides a rs) (h : q ↔ ¬ p) (e : ε) :
    Decides (if p then some e else a) (plain q e :: rs) := by
  have hfirst : Decides (if p then some e else none) [plain q e] := by
    refine ⟨?_, fun f => ?_⟩
    · rw [List.forall_mem_singleton]
      by_cases hp : p <;> simp [plain, h, hp]
    · rw [firstUnmet_singleton]
      by_cases hp : p <;> simp [plain, h, hp, eq_comm]
  have hor : (if p then some e else a) = (if p then some e else none).or a := by
    by_cases hp : p <;> simp [hp]
  rw [hor]
  exact hfirst.append ha

theorem decides_findSome? {fault? : α → Option ε} {requirements : α → List (Requirement ε)}
    (h : ∀ a, Decides (fault? a) (requirements a)) (as : List α) :
    Decides (as.findSome? fault?) (as.flatMap requirements) := by
  induction as with
  | nil => exact decides_nil
  | cons a as ih =>
      have hor : (a :: as).findSome? fault? = (fault? a).or (as.findSome? fault?) := by
        rw [List.findSome?_cons]
        cases fault? a <;> rfl
      rw [hor, List.flatMap_cons]
      exact (h a).append ih

end Order

end Requirement

open Requirement

def ServerSettings.requirements (s : ServerSettings) : List (Requirement SettingsFault) :=
  [plain (s.address ≠ "") .emptyServerAddress, plain (s.webPort ≠ 0) .zeroWebPort,
    ⟨∃ i, Identity.parse s.certificate = .ok i,
      fun e => ∃ f, Identity.parse s.certificate = .error f ∧ e = .identity f⟩]

def TunnelSettings.requirements (t : TunnelSettings) : List (Requirement SettingsFault) :=
  [plain (t.name ≠ "") .emptyTunnelName, plain (t.server ≠ "") .emptyTunnelServer,
    plain (t.port ≠ 0) .zeroTunnelPort]

def distinctNames (names : List String) : List (Requirement SettingsFault) :=
  names.zipIdx.map fun (n, i) => plain (n ∉ names.take i) (.repeatedName n)

/-- What settings have to meet, in the order in which it is looked at. -/
def Settings.requirements (s : Settings) : List (Requirement SettingsFault) :=
  s.server.requirements ++
    [plain (∃ address, s.localProxyAddress = .ok address) (.localProxy s.localProxy),
      plain (s.connectTimeout ≠ 0) .zeroConnectTimeout, plain (s.requestTimeout ≠ 0) .zeroRequestTimeout] ++
    s.tunnels.flatMap TunnelSettings.requirements ++ distinctNames (s.tunnels.map (·.name))

theorem ServerSettings.decides_fault? (s : ServerSettings) : Decides s.fault? s.requirements := by
  unfold fault? requirements
  refine .ite (.ite ⟨?_, fun e => ?_⟩ Iff.rfl _) (by simp) _
  · rw [List.forall_mem_singleton]
    cases Identity.parse s.certificate <;> simp
  · rw [firstUnmet_singleton]
    cases Identity.parse s.certificate <;> simp [eq_comm]

theorem TunnelSettings.decides_fault? (t : TunnelSettings) : Decides t.fault? t.requirements := by
  unfold fault? requirements
  exact .ite (.ite (.ite decides_nil Iff.rfl _) (by simp) _) (by simp) _

theorem decides_firstRepeated? {seen front : List String} (h : ∀ n, n ∈ seen ↔ n ∈ front) (names : List String) :
    Decides (firstRepeated? seen names |>.map SettingsFault.repeatedName)
      (names.zipIdx.map fun (n, i) => plain (n ∉ front ++ names.take i) (.repeatedName n)) := by
  -- By induction on the names that are left: what was seen is what stands in front of them.
  induction names generalizing seen front with
  | nil => exact decides_nil
  | cons n names ih =>
      have hnext : ∀ m, m ∈ n :: seen ↔ m ∈ front ++ [n] := by
        intro m
        rw [List.mem_cons, List.mem_append, List.mem_singleton, h, or_comm]
      have hrest := ih hnext
      have hshift : (n :: names).zipIdx.map
          (fun (m, i) => plain (m ∉ front ++ (n :: names).take i) (SettingsFault.repeatedName m)) =
          plain (n ∉ front) (.repeatedName n) :: names.zipIdx.map
            fun (m, i) => plain (m ∉ front ++ [n] ++ names.take i) (.repeatedName m) := by
        rw [List.zipIdx_cons', List.map_cons, List.map_map]
        simp [Function.comp_def]
      have hor : (firstRepeated? seen (n :: names)).map SettingsFault.repeatedName =
          if n ∈ seen then some (.repeatedName n)
          else (firstRepeated? (n :: seen) names).map SettingsFault.repeatedName := by
        rw [firstRepeated?]
        split <;> rfl
      rw [hshift, hor]
      exact hrest.ite (by rw [h]) _

theorem Settings.fault?_eq (s : Settings) :
    s.fault? = s.server.fault?.or
      (if SocketAddress.parse? s.localProxy = none then some (.localProxy s.localProxy)
      else if s.connectTimeout = 0 then some .zeroConnectTimeout
      else if s.requestTimeout = 0 then some .zeroRequestTimeout
      else (s.tunnels.findSome? TunnelSettings.fault?).or
        ((firstRepeated? [] (s.tunnels.map (·.name))).map .repeatedName)) := by
  unfold fault? localProxyAddress
  cases s.server.fault? with
  | some e => rfl
  | none =>
      cases SocketAddress.parse? s.localProxy with
      | none => rfl
      | some address =>
          dsimp only [Option.none_or]
          rw [if_neg (Option.some_ne_none address)]
          cases s.tunnels.findSome? TunnelSettings.fault? <;> rfl

theorem Settings.localProxy_iff {s : Settings} :
    (∃ address, s.localProxyAddress = .ok address) ↔ ¬ SocketAddress.parse? s.localProxy = none := by
  unfold localProxyAddress
  cases SocketAddress.parse? s.localProxy <;> simp

theorem Settings.decides_fault? (s : Settings) : Decides s.fault? s.requirements := by
  have hnames : Decides ((firstRepeated? [] (s.tunnels.map (·.name))).map SettingsFault.repeatedName)
      (distinctNames (s.tunnels.map (·.name))) :=
    @decides_firstRepeated? [] [] (fun _ => Iff.rfl) _
  have htunnels := (decides_findSome? TunnelSettings.decides_fault? s.tunnels).append hnames
  rw [fault?_eq, requirements, List.append_assoc, List.append_assoc]
  exact s.server.decides_fault?.append (.ite (.ite (.ite htunnels Iff.rfl _) Iff.rfl _) localProxy_iff _)

/-- Settings are accepted or blamed for the first thing that is wrong with them. -/
structure Settings.BlamesFirst (s : Settings) : Prop where
  accepted : s.fault? = none ↔ s.Valid
  required : s.Valid ↔ ∀ r ∈ s.requirements, r.met
  blamed : ∀ e, s.fault? = some e ↔ FirstUnmet s.requirements e

theorem Settings.blamesFirst_check (s : Settings) : s.BlamesFirst :=
  ⟨fault?_eq_none_iff, fault?_eq_none_iff.symm.trans s.decides_fault?.accepted, s.decides_fault?.blamed⟩

end RouteCascade
