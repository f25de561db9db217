import RouteCascade.Proofs.Cascade.Handover
import RouteCascade.Proofs.Settings.FirstFault

/-!
# From settings to candidates

A registry is made of a list of settings if each of them makes a tunnel, and otherwise it is refused for the
first one that does not. All tunnels of a registry are handed out new, one for each entry and in the order of
the entries, and a tunnel that is asked for by name is the first of them that has this name. Of all of them
a session leaves those whose capability it lists.
-/
namespace RouteCascade

open Text Net Tunnel

section Faults
variable {α β ε δ : Type}

def faultOf : Except ε α → Option ε
  | .ok _ => none
  | .error e => some e

theorem faultOf_eq_some_iff {x : Except ε α} {e : ε} : faultOf x = some e ↔ x = .error e := by
  cases x <;> simp [faultOf]

theorem faultOf_eq_none_iff {x : Except ε α} : faultOf x = none ↔ ∃ a, x = .ok a := by
  cases x <;> simp [faultOf]

theorem faultOf_mapM (f : α → Except ε β) (as : List α) :
    faultOf (as.mapM f) = as.findSome? fun a => faultOf (f a) := by
  induction as with
  | nil => rfl
  | cons a as ih =>
      rw [List.mapM_cons, List.findSome?_cons]
      cases f a with
      | error e => rfl
      | ok b =>
          change faultOf (as.mapM f >>= _) = as.findSome? _
          rw [← ih]
          cases as.mapM f <;> rfl

theorem forall₂_of_mapM {f : α → Except ε β} {as : List α} {bs : List β} (h : as.mapM f = .ok bs) :
    List.Forall₂ (fun a b => f a = .ok b) as bs := by
  have hnone := faultOf_eq_none_iff.mpr ⟨bs, h⟩
  rw [faultOf_mapM, List.findSome?_eq_none_iff] at hnone
  obtain ⟨bs', hbs', hall⟩ := mapM_eq_ok fun a ha => faultOf_eq_none_iff.mp (hnone a ha)
  obtain rfl := Except.ok.inj (h.symm.trans hbs')
  exact hall

namespace Requirement

/-- The same requirement, with its faults under another heading. -/
def relabel (g : ε → δ) (r : Requirement ε) : Requirement δ := ⟨r.met, fun e => ∃ f, r.blame f ∧ e = g f⟩

theorem firstUnmet_relabel {g : ε → δ} {rs : List (Requirement ε)} {e : δ} :
    FirstUnmet (rs.map (relabel g)) e ↔ ∃ f, FirstUnmet rs f ∧ e = g f := by
  constructor
  · rintro ⟨before, r, after, hsplit, hbefore, hr, he⟩
    obtain ⟨front, back, rfl, rfl, hback⟩ := List.map_eq_append_iff.mp hsplit
    obtain ⟨r, back, rfl, rfl, rfl⟩ := List.map_eq_cons_iff.mp hback
    obtain ⟨f, hf, rfl⟩ := he
    exact ⟨f, ⟨front, r, back, rfl, (List.forall_mem_map (f := relabel g)).mp hbefore, hr, hf⟩, rfl⟩
  · rintro ⟨f, ⟨before, r, after, rfl, hbefore, hr, hf⟩, rfl⟩
    refine ⟨before.map (relabel g), relabel g r, after.map (relabel g), by simp, ?_, hr, f, hf, rfl⟩
    exact List.forall_mem_map.mpr hbefore

theorem Decides.relabel {g : ε → δ} {a : Option ε} {rs : List (Requirement ε)} (h : Decides a rs) :
    Decides (a.map g) (rs.map (Requirement.relabel g)) := by
  refine ⟨?_, fun e => ?_⟩
  · rw [Option.map_eq_none_iff, h.accepted, List.forall_mem_map]
    rfl
  · simp only [Option.map_eq_some_iff, firstUnmet_relabel, h.blamed, eq_comm]

end Requirement

end Faults

namespace Tunnel

/-! ## Making a registry -/

def Kind.names : Kind → List String
  | http => ["http", "https-connect"]
  | socks5 => ["socks5", "socks"]

/-- A text is a name of a kind, in whatever case. -/
def Kind.IsNamed (kind : Kind) (s : String) : Prop :=
  ∃ name ∈ kind.names, s.toList.map smallLetter = name.toList

theorem Kind.parse?_eq_some_iff {kind : Kind} {s : String} : parse? s = some kind ↔ kind.IsNamed s := by
  have hnamed : kind.IsNamed s ↔ String.ofList (s.toList.map smallLetter) ∈ kind.names := by
    constructor
    · rintro ⟨name, hname, h⟩
      rw [h, String.ofList_toList]
      exact hname
    · intro h
      exact ⟨_, h, String.toList_ofList.symm⟩
  rw [hnamed]
  unfold parse?
  dsimp only
  generalize String.ofList (s.toList.map smallLetter) = name
  split
  · rename_i hhttp
    cases kind with
    | http => simpa [names] using hhttp
    | socks5 => rcases hhttp with rfl | rfl <;> simp [names]
  split
  · rename_i hsocks
    cases kind with
    | http => rcases hsocks with rfl | rfl <;> simp [names]
    | socks5 => simpa [names] using hsocks
  · rename_i hhttp hsocks
    cases kind with
    | http => simpa [names] using hhttp
    | socks5 => simpa [names] using hsocks

theorem known_iff {t : TunnelSettings} : Known t ↔ ∃ kind : Kind, kind.IsNamed t.kind := by
  simp only [Known, Kind.parse?_eq_some_iff]

open Requirement

/-- What settings have to meet to make a tunnel. -/
def Plan.requirements (t : TunnelSettings) : List (Requirement PlanFault) :=
  t.requirements.map (relabel .invalid) ++ [plain (∃ kind : Kind, kind.IsNamed t.kind) (.unknownKind t.kind)]

theorem Plan.decides_ofSettings (t : TunnelSettings) :
    Decides (faultOf (Plan.ofSettings t)) (Plan.requirements t) := by
  have hkind : Decides (if Kind.parse? t.kind = none then some (PlanFault.unknownKind t.kind) else none)
      [plain (∃ kind : Kind, kind.IsNamed t.kind) (.unknownKind t.kind)] := by
    apply decides_nil.ite
    rw [← known_iff, Known]
    exact Option.ne_none_iff_exists'.symm
  have hor : faultOf (Plan.ofSettings t) = (t.fault?.map PlanFault.invalid).or
      (if Kind.parse? t.kind = none then some (PlanFault.unknownKind t.kind) else none) := by
    unfold Plan.ofSettings
    cases t.fault? <;> cases Kind.parse? t.kind <;> rfl
  rw [hor]
  exact t.decides_fault?.relabel.append hkind

section Registries
variable {ts : List TunnelSettings} {address : SocketAddress} {timeout : UInt64} {r : Registry}

theorem Registry.decides_ofSettings (ts : List TunnelSettings) (address : SocketAddress) (timeout : UInt64) :
    Decides (faultOf (ofSettings ts address timeout)) (ts.flatMap Plan.requirements) := by
  have hfault : faultOf (ofSettings ts address timeout) = faultOf (ts.mapM Plan.ofSettings) := by
    unfold ofSettings
    cases ts.mapM Plan.ofSettings <;> rfl
  rw [hfault, faultOf_mapM]
  exact decides_findSome? Plan.decides_ofSettings ts

theorem Plan.requirements_met_iff {t : TunnelSettings} :
    (∀ r ∈ Plan.requirements t, r.met) ↔ t.Valid ∧ Known t := by
  rw [requirements, List.forall_mem_append, List.forall_mem_map, List.forall_mem_singleton, known_iff]
  exact and_congr (t.decides_fault?.accepted.symm.trans TunnelSettings.fault?_eq_none_iff) Iff.rfl

/-- A tunnel is as its settings say, and down. -/
structure Relay.Follows (relay : Relay) (t : TunnelSettings) : Prop where
  name : relay.plan.name = t.name
  kind : relay.plan.gateway.kind.IsNamed t.kind
  server : relay.plan.gateway.server = t.server
  port : relay.plan.gateway.port = t.port
  username : relay.plan.gateway.username = t.text? "username"
  password : relay.plan.gateway.password = t.text? "password"
  down : relay.state = { }

theorem Plan.ofSettings_eq_ok {t : TunnelSettings} {p : Plan} (h : Plan.ofSettings t = .ok p) :
    Relay.Follows { plan := p } t := by
  unfold Plan.ofSettings at h
  split at h
  · cases h
  · cases h
  · rename_i kind _ hkind
    cases h
    exact ⟨rfl, Kind.parse?_eq_some_iff.mp hkind, rfl, rfl, rfl, rfl, rfl⟩

theorem Registry.ofSettings_eq_ok (h : Registry.ofSettings ts address timeout = .ok r) :
    r.localProxy = address ∧ r.connectTimeout = timeout ∧
      List.Forall₂ (fun t p => Plan.ofSettings t = .ok p) ts r.plans := by
  unfold Registry.ofSettings at h
  split at h
  · rename_i plans hplans
    cases h
    exact ⟨rfl, rfl, forall₂_of_mapM hplans⟩
  · cases h

/-- The tunnel of a name is the first in order. -/
theorem Registry.create_eq_ok_iff {name : String} {relay : Relay} : r.create name = .ok relay ↔
    ∃ before after, r.all = before ++ relay :: after ∧ relay.plan.name = name ∧
      ∀ b ∈ before, b.plan.name ≠ name := by
  unfold Registry.create Registry.all
  constructor
  · intro h
    split at h
    · rename_i p hp
      cases h
      obtain ⟨hname, before, after, hplans, hbefore⟩ := List.find?_eq_some_iff_append.mp hp
      rw [hplans]
      refine ⟨before.map fun p => { plan := p }, after.map fun p => { plan := p }, by simp, by simpa using hname, ?_⟩
      exact List.forall_mem_map.mpr fun b hb => by simpa using hbefore b hb
    · cases h
  · rintro ⟨before, after, hall, rfl, hbefore⟩
    obtain ⟨front, back, hplans, rfl, hback⟩ := List.map_eq_append_iff.mp hall
    obtain ⟨p, back, rfl, rfl, rfl⟩ := List.map_eq_cons_iff.mp hback
    have hfind : r.plans.find? (fun q => q.name == p.name) = some p := by
      rw [List.find?_eq_some_iff_append]
      refine ⟨by simp, front, back, hplans, fun a ha => ?_⟩
      simpa using hbefore _ (List.mem_map_of_mem ha)
    rw [hfind]

theorem Registry.create_eq_error_iff {name : String} {e : Failure} :
    r.create name = .error e ↔ (∀ relay ∈ r.all, relay.plan.name ≠ name) ∧ e = unknown name := by
  unfold Registry.create Registry.all
  rw [List.forall_mem_map]
  cases hp : r.plans.find? (fun p => p.name == name) with
  | some p =>
      refine iff_of_false nofun fun h => ?_
      exact h.1 p (List.mem_of_find?_eq_some hp) (by simpa using List.find?_some hp)
  | none =>
      dsimp only
      rw [List.find?_eq_none] at hp
      constructor
      · rintro ⟨⟩
        exact ⟨by simpa using hp, rfl⟩
      · rintro ⟨-, rfl⟩
        rfl

end Registries

/-! ## Selecting from a registry -/

def Offered (session : Session) (t : TunnelSettings) : Prop :=
  ∃ kind : Kind, kind.IsNamed t.kind ∧ kind.IsListed session

theorem Kind.isListed_iff {kind : Kind} {session : Session} :
    kind.IsListed session ↔ session.hasCapability kind.capability = true := by
  rw [← needsHandshake_eq_false_iff, needsHandshake, Bool.not_eq_false']

theorem offered_iff {session : Session} {t : TunnelSettings} {kind : Kind} (h : kind.IsNamed t.kind) :
    Offered session t ↔ session.hasCapability kind.capability = true := by
  rw [← Kind.isListed_iff]
  constructor
  · rintro ⟨other, hother, hlisted⟩
    rw [← Kind.parse?_eq_some_iff] at h hother
    obtain rfl := Option.some.inj (hother.symm.trans h)
    exact hlisted
  · intro hlisted
    exact ⟨kind, h, hlisted⟩

instance (session : Session) (t : TunnelSettings) : Decidable (Offered session t) :=
  decidable_of_iff (∃ kind ∈ Kind.parse? t.kind, session.hasCapability kind.capability = true) (by
    simp only [Offered, Option.mem_def, Kind.parse?_eq_some_iff, Kind.isListed_iff])

end Tunnel

namespace Cascade

section Selection
variable {ω : Type} (w : Outside ω) (session : Session)

/-- Giving up a tunnel that is down changes nothing. -/
theorem Fleet.discard_of_down {f : Fleet ω} (h : ∀ t ∈ f.handedOut, t.state.slot = none) (number : Nat) :
    f.discard number = f := by
  unfold discard
  cases ht : f.handedOut[number]? with
  | none => rfl
  | some t =>
      have hdropped : t.state.dropped = t.state := by
        rw [State.dropped, h t (List.mem_of_getElem? ht)]
      obtain ⟨hlt, rfl⟩ := List.getElem?_eq_some_iff.mp ht
      simp only [hdropped]
      rw [List.set_getElem_self]

/-- Tunnels that are down are asked without any change of them, and those that are listed stay. -/
theorem Fleet.keepEligible_eq (is : List (Instance Plan)) {f : Fleet ω}
    (hdown : ∀ t ∈ f.handedOut, t.state.slot = none) :
    (keepEligible (collaborators w) session is).result f =
        is.filter (fun i => session.hasCapability i.tunnel.gateway.kind.capability) ∧
      (keepEligible (collaborators w) session is).final f = f := by
  induction is with
  | nil => exact ⟨rfl, rfl⟩
  | cons i is ih =>
      have hask : (collaborators w).requiresHandshake i session f =
          (!session.hasCapability i.tunnel.gateway.kind.capability, f) := rfl
      have hdispose : (collaborators w).dispose i f = f := discard_of_down hdown i.number
      simp only [keepEligible, Collaborators.askHandshake, Collaborators.discard, Act.result_bind, Act.final_bind,
        Act.result_call, Act.final_call, hask, List.filter_cons]
      cases hlisted : session.hasCapability i.tunnel.gateway.kind.capability with
      | false =>
          simp only [Bool.not_false, if_true, Act.result_bind, Act.final_bind, Act.final_call, hdispose]
          exact ih
      | true =>
          simp only [Bool.not_true, Bool.false_eq_true, if_false, if_true, Act.result_bind, Act.final_bind,
            Act.result_pure, Act.final_pure, ih, and_self]

theorem Fleet.select_eq (f : Fleet ω) :
    (select (collaborators w) session).result f =
        ((collaborators w).handedOut f).filter
          (fun i => session.hasCapability i.tunnel.gateway.kind.capability) ∧
      (select (collaborators w) session).final f = f.handOut := by
  have hnew : ∀ t ∈ f.handOut.handedOut, t.state.slot = none := List.forall_mem_map.mpr fun _ _ => rfl
  have hkeep := keepEligible_eq w session ((collaborators w).handedOut f) hnew
  exact hkeep

end Selection

end Cascade

namespace Tunnel

open Cascade Requirement

theorem forall₂_zipIdx {α β : Type} {R : α → β → Prop} {as : List α} {bs : List β} (h : List.Forall₂ R as bs)
    (n : Nat) : List.Forall₂ (fun x y => y.2 = x.2 ∧ R x.1 y.1) (as.zipIdx n) (bs.zipIdx n) := by
  induction h generalizing n with
  | nil => exact .nil
  | cons hab _ ih => exact .cons ⟨rfl, hab⟩ (ih (n + 1))

/-- What a registry hands out to be used, by the settings that it is made of. -/
structure Registry.Offers (r : Registry) (ts : List TunnelSettings) : Prop where
  all : List.Forall₂ (fun t relay => relay.Follows t) ts r.all
  first : ∀ name relay, r.create name = .ok relay ↔
    ∃ before after, r.all = before ++ relay :: after ∧ relay.plan.name = name ∧ ∀ b ∈ before, b.plan.name ≠ name
  configured : ∀ name, (∃ relay, r.create name = .ok relay) ↔ name ∈ ts.map (·.name)
  missing : ∀ name, name ∉ ts.map (·.name) → r.create name = .error (unknown name)
  /-- By name one gets what one gets with all. -/
  sole : (ts.map (·.name)).Nodup → ∀ name relay,
    r.create name = .ok relay ↔ relay ∈ r.all ∧ relay.plan.name = name
  /-- Whatever was handed out before, all tunnels are new, and those that are listed stay in their order. -/
  selected : ∀ {ω : Type} (w : Outside ω) (session : Session) (f : Fleet ω), f.registry = r →
    ((select (Fleet.collaborators w) session).final f).handedOut = r.all ∧
      List.Forall₂ (fun x i => i.number = x.2 ∧ Relay.Follows { plan := i.tunnel } x.1)
        (ts.zipIdx.filter fun x => decide (Offered session x.1))
        ((select (Fleet.collaborators w) session).result f)

/-- What becomes of a list of settings. -/
structure Registry.Mirrors (ts : List TunnelSettings) (address : SocketAddress) (timeout : UInt64) : Prop where
  made : (∃ r, ofSettings ts address timeout = .ok r) ↔ ∀ t ∈ ts, t.Valid ∧ Known t
  refused : ∀ e, ofSettings ts address timeout = .error e ↔
    ∃ before t after, ts = before ++ t :: after ∧ (∀ b ∈ before, b.Valid ∧ Known b) ∧
      FirstUnmet (Plan.requirements t) e
  offers : ∀ r, ofSettings ts address timeout = .ok r →
    r.localProxy = address ∧ r.connectTimeout = timeout ∧ r.Offers ts

section Offers
variable {ts : List TunnelSettings} {r : Registry}

theorem Registry.forall₂_all (h : List.Forall₂ (fun t p => Plan.ofSettings t = .ok p) ts r.plans) :
    List.Forall₂ (fun t relay => Relay.Follows relay t) ts r.all := by
  rw [Registry.all, List.forall₂_map_right_iff]
  exact h.imp fun _ _ => Plan.ofSettings_eq_ok

theorem Registry.names_all (h : List.Forall₂ (fun t relay => Relay.Follows relay t) ts r.all) :
    r.all.map (·.plan.name) = ts.map (·.name) := by
  rw [← List.forall₂_eq_eq_eq, List.forall₂_map_left_iff, List.forall₂_map_right_iff]
  exact h.flip.imp fun _ _ hfollows => hfollows.name

theorem Registry.exists_create_iff {name : String} :
    (∃ relay, r.create name = .ok relay) ↔ name ∈ r.all.map (·.plan.name) := by
  cases hcreate : r.create name with
  | error e =>
      have hnone := (create_eq_error_iff.mp hcreate).1
      refine iff_of_false nofun fun h => ?_
      obtain ⟨relay, hrelay, hname⟩ := List.mem_map.mp h
      exact hnone relay hrelay hname
  | ok relay =>
      refine iff_of_true ⟨relay, rfl⟩ ?_
      obtain ⟨before, after, hall, rfl, -⟩ := create_eq_ok_iff.mp hcreate
      rw [hall]
      exact List.mem_map_of_mem (List.mem_append_right _ List.mem_cons_self)

theorem Registry.create_of_nodup (h : (r.all.map (·.plan.name)).Nodup) {name : String} {relay : Relay} :
    r.create name = .ok relay ↔ relay ∈ r.all ∧ relay.plan.name = name := by
  rw [create_eq_ok_iff]
  constructor
  · rintro ⟨before, after, hall, hname, -⟩
    rw [hall]
    exact ⟨List.mem_append_right _ List.mem_cons_self, hname⟩
  · rintro ⟨hmem, rfl⟩
    obtain ⟨before, after, hall⟩ := List.append_of_mem hmem
    refine ⟨before, after, hall, rfl, fun b hb hname => ?_⟩
    rw [hall, List.map_append, List.map_cons, List.nodup_append] at h
    exact h.2.2 _ (List.mem_map_of_mem hb) _ List.mem_cons_self hname

theorem Registry.forall₂_select {ω : Type} (w : Outside ω) (session : Session) (f : Fleet ω)
    (h : List.Forall₂ (fun t p => Plan.ofSettings t = .ok p) ts f.registry.plans) :
    List.Forall₂ (fun x i => i.number = x.2 ∧ Relay.Follows { plan := i.tunnel } x.1)
      (ts.zipIdx.filter fun x => decide (Offered session x.1))
      ((select (Fleet.collaborators w) session).result f) := by
  have hout : (Fleet.collaborators w).handedOut f =
      f.registry.plans.zipIdx.map fun (t, n) => ⟨n, t⟩ := rfl
  rw [(Fleet.select_eq w session f).1, hout]
  refine List.rel_filter (fun x i hfollows => ?_) (List.forall₂_map_right_iff.mpr ?_)
  · exact decide_eq_true_iff.trans (offered_iff hfollows.2.kind)
  · exact (forall₂_zipIdx h 0).imp fun _ _ hplan => ⟨hplan.1, Plan.ofSettings_eq_ok hplan.2⟩

theorem Registry.offers_of_forall₂ (h : List.Forall₂ (fun t p => Plan.ofSettings t = .ok p) ts r.plans) :
    r.Offers ts := by
  have hall := forall₂_all h
  have hnames := names_all hall
  refine ⟨hall, fun _ _ => create_eq_ok_iff, fun name => ?_, fun name hname => ?_, fun hnodup _ _ => ?_,
    fun w session f hf => ?_⟩
  · rw [exists_create_iff, hnames]
  · rw [create_eq_error_iff]
    refine ⟨fun relay hrelay heq => hname ?_, rfl⟩
    rw [← hnames, ← heq]
    exact List.mem_map_of_mem hrelay
  · exact create_of_nodup (hnames ▸ hnodup)
  · subst hf
    refine ⟨?_, forall₂_select w session f h⟩
    rw [(Fleet.select_eq w session f).2]
    rfl

end Offers

theorem Registry.mirrors_ofSettings (ts : List TunnelSettings) (address : SocketAddress) (timeout : UInt64) :
    Registry.Mirrors ts address timeout := by
  have hdecides := decides_ofSettings ts address timeout
  refine ⟨?_, fun e => ?_, fun r hr => ?_⟩
  · rw [← faultOf_eq_none_iff, hdecides.accepted, List.forall_mem_flatMap]
    exact forall₂_congr fun t _ => Plan.requirements_met_iff
  · rw [← faultOf_eq_some_iff, hdecides.blamed, firstUnmet_flatMap]
    simp only [Plan.requirements_met_iff]
  · obtain ⟨haddress, htimeout, hplans⟩ := ofSettings_eq_ok hr
    exact ⟨haddress, htimeout, offers_of_forall₂ hplans⟩

end Tunnel

end RouteCascade
