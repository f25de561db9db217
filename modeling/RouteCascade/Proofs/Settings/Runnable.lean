import RouteCascade.Cli.Run
import RouteCascade.Proofs.Text.Utf8
import RouteCascade.Proofs.Tunnel.Talk
import Mathlib.Data.List.Basic

/-!
# Settings that can be run

Settings are checked twice: all of them when they are read, and the tunnels once more when the registry is made.
The first check says nothing of the kinds of the tunnels. So settings that were read can be run if every
tunnel is of a known kind, and otherwise a run ends at the first that is not, although a test passes.
-/
namespace RouteCascade

open Text Net Log Tunnel

structure TunnelSettings.Valid (t : TunnelSettings) : Prop where
  name : t.name ≠ ""
  server : t.server ≠ ""
  port : t.port ≠ 0

/-- The settings of a server that can be reached and recognised. -/
structure ServerSettings.Valid (s : ServerSettings) : Prop where
  address : s.address ≠ ""
  webPort : s.webPort ≠ 0
  identity : ∃ i, Identity.parse s.certificate = .ok i

structure Settings.Valid (s : Settings) : Prop where
  server : s.server.Valid
  localProxy : ∃ address, s.localProxyAddress = .ok address
  connectTimeout : s.connectTimeout ≠ 0
  requestTimeout : s.requestTimeout ≠ 0
  tunnels : ∀ t ∈ s.tunnels, t.Valid
  names : (s.tunnels.map (·.name)).Nodup

section Check

theorem TunnelSettings.fault?_eq_none_iff {t : TunnelSettings} : t.fault? = none ↔ t.Valid := by
  unfold fault?
  constructor
  · intro h
    split at h
    · cases h
    rename_i hname
    split at h
    · cases h
    rename_i hserver
    split at h
    · cases h
    rename_i hport
    exact ⟨by simpa using hname, by simpa using hserver, hport⟩
  · rintro ⟨hname, hserver, hport⟩
    simp [hname, hserver, hport]

theorem ServerSettings.fault?_eq_none_iff {s : ServerSettings} : s.fault? = none ↔ s.Valid := by
  unfold fault?
  constructor
  · intro h
    split at h
    · cases h
    rename_i haddress
    split at h
    · cases h
    rename_i hport
    cases hi : Identity.parse s.certificate with
    | error e =>
        rw [hi] at h
        cases h
    | ok i => exact ⟨by simpa using haddress, hport, i, hi⟩
  · rintro ⟨haddress, hport, i, hi⟩
    simp [haddress, hport, hi]

theorem firstRepeated?_eq_none_iff (seen names : List String) :
    firstRepeated? seen names = none ↔ names.Nodup ∧ ∀ n ∈ names, n ∉ seen := by
  induction names generalizing seen with
  | nil => simp [firstRepeated?]
  | cons n names ih =>
      rw [firstRepeated?]
      by_cases hn : n ∈ seen
      · simp [hn]
      · rw [if_neg hn, ih, List.nodup_cons, List.forall_mem_cons]
        constructor
        · rintro ⟨hnodup, hfresh⟩
          exact ⟨⟨fun hmem => hfresh n hmem List.mem_cons_self, hnodup⟩, hn,
            fun m hm hseen => hfresh m hm (List.mem_cons_of_mem n hseen)⟩
        · rintro ⟨⟨hnot, hnodup⟩, -, hfresh⟩
          refine ⟨hnodup, fun m hm hseen => ?_⟩
          rcases List.mem_cons.mp hseen with rfl | hseen
          · exact hnot hm
          · exact hfresh m hm hseen

theorem Settings.fault?_eq_none_iff {s : Settings} : s.fault? = none ↔ s.Valid := by
  have hnames := firstRepeated?_eq_none_iff [] (s.tunnels.map (·.name))
  simp only [List.not_mem_nil, not_false_eq_true, implies_true, and_true] at hnames
  unfold fault?
  constructor
  · intro h
    cases hserver : s.server.fault? with
    | some e =>
        rw [hserver] at h
        cases h
    | none =>
        cases haddress : s.localProxyAddress with
        | error e =>
            rw [hserver, haddress] at h
            cases h
        | ok address =>
            rw [hserver, haddress] at h
            dsimp only at h
            split at h
            · cases h
            rename_i hconnect
            split at h
            · cases h
            rename_i hrequest
            split at h
            · cases h
            rename_i htunnels
            refine ⟨ServerSettings.fault?_eq_none_iff.mp hserver, ⟨address, haddress⟩, hconnect, hrequest,
              fun t ht => ?_, hnames.mp (Option.map_eq_none_iff.mp h)⟩
            exact TunnelSettings.fault?_eq_none_iff.mp (List.findSome?_eq_none_iff.mp htunnels t ht)
  · rintro ⟨hserver, ⟨address, haddress⟩, hconnect, hrequest, htunnels, hnodup⟩
    rw [ServerSettings.fault?_eq_none_iff.mpr hserver, haddress]
    dsimp only
    rw [if_neg hconnect, if_neg hrequest, List.findSome?_eq_none_iff.mpr fun t ht =>
      TunnelSettings.fault?_eq_none_iff.mpr (htunnels t ht), hnames.mpr hnodup]
    rfl

theorem Settings.parse_eq_ok {text : String} {s : Settings} (h : parse text = .ok s) : s.Valid := by
  unfold parse at h
  cases hd : Yaml.decode decoder text with
  | error e =>
      rw [hd] at h
      cases h
  | ok s' =>
      rw [hd] at h
      dsimp only at h
      cases hf : s'.fault? with
      | some e =>
          rw [hf] at h
          cases h
      | none =>
          rw [hf] at h
          cases h
          exact fault?_eq_none_iff.mp hf

theorem Settings.Valid.session_eq_ok {s : Settings} (h : s.Valid) :
    ∃ i, s.session = .ok ⟨s.server.address, s.server.webPort, i, s.server.capabilities⟩ := by
  obtain ⟨i, hi⟩ := h.server.identity
  refine ⟨i, ?_⟩
  unfold session
  rw [hi]

end Check

section All
variable {α β ε : Type} {f : α → Except ε β}

theorem mapM_eq_ok {as : List α} (h : ∀ a ∈ as, ∃ b, f a = .ok b) :
    ∃ bs, as.mapM f = .ok bs ∧ List.Forall₂ (fun a b => f a = .ok b) as bs := by
  induction as with
  | nil => exact ⟨[], rfl, .nil⟩
  | cons a as ih =>
      obtain ⟨b, hb⟩ := h a List.mem_cons_self
      obtain ⟨bs, hbs, hall⟩ := ih fun a' ha => h a' (List.mem_cons_of_mem a ha)
      refine ⟨b :: bs, ?_, .cons hb hall⟩
      rw [List.mapM_cons, hb, hbs]
      rfl

/-- The first error is the outcome. -/
theorem mapM_eq_error {before : List α} (h : ∀ b ∈ before, ∃ c, f b = .ok c) {a : α} {e : ε}
    (ha : f a = .error e) (after : List α) : (before ++ a :: after).mapM f = .error e := by
  induction before with
  | nil =>
      rw [List.nil_append, List.mapM_cons, ha]
      rfl
  | cons b before ih =>
      obtain ⟨c, hc⟩ := h b List.mem_cons_self
      rw [List.cons_append, List.mapM_cons, hc, ih fun b' hb => h b' (List.mem_cons_of_mem b hb)]
      rfl

end All

namespace Tunnel

def Known (t : TunnelSettings) : Prop := ∃ kind, Kind.parse? t.kind = some kind

section Plans
variable {t : TunnelSettings}

theorem Plan.ofSettings_of_known (h : t.Valid) {kind : Kind} (hk : Kind.parse? t.kind = some kind) :
    Plan.ofSettings t = .ok ⟨t.name, kind, t.server, t.port, t.text? "username", t.text? "password"⟩ := by
  unfold Plan.ofSettings
  rw [TunnelSettings.fault?_eq_none_iff.mpr h, hk]

theorem Plan.ofSettings_of_unknown (h : t.Valid) (hk : ¬ Known t) :
    Plan.ofSettings t = .error (.unknownKind t.kind) := by
  have hnone : Kind.parse? t.kind = none := Option.eq_none_iff_forall_ne_some.mpr fun kind hkind => hk ⟨kind, hkind⟩
  unfold Plan.ofSettings
  rw [TunnelSettings.fault?_eq_none_iff.mpr h, hnone]

variable {s : Settings} (address : SocketAddress) (timeout : UInt64)

theorem Registry.ofSettings_of_known (h : s.Valid) (hk : ∀ t ∈ s.tunnels, Known t) :
    ∃ plans, Registry.ofSettings s.tunnels address timeout = .ok ⟨plans, address, timeout⟩ ∧
      List.Forall₂ (fun t p => Plan.ofSettings t = .ok p) s.tunnels plans := by
  have hplan : ∀ t ∈ s.tunnels, ∃ p, Plan.ofSettings t = .ok p := by
    intro t ht
    obtain ⟨kind, hkind⟩ := hk t ht
    exact ⟨_, Plan.ofSettings_of_known (h.tunnels t ht) hkind⟩
  obtain ⟨plans, hplans, hall⟩ := mapM_eq_ok hplan
  refine ⟨plans, ?_, hall⟩
  unfold Registry.ofSettings
  rw [hplans]

theorem Registry.ofSettings_of_unknown (h : s.Valid) {before after : List TunnelSettings}
    (hs : s.tunnels = before ++ t :: after) (hk : ∀ b ∈ before, Known b) (ht : ¬ Known t) :
    Registry.ofSettings s.tunnels address timeout = .error (.unknownKind t.kind) := by
  have hvalid : ∀ u ∈ before ++ t :: after, u.Valid := hs ▸ h.tunnels
  have hbefore : ∀ b ∈ before, ∃ p, Plan.ofSettings b = .ok p := by
    intro b hb
    obtain ⟨kind, hkind⟩ := hk b hb
    exact ⟨_, Plan.ofSettings_of_known (hvalid b (List.mem_append_left _ hb)) hkind⟩
  have hfirst := mapM_eq_error hbefore (Plan.ofSettings_of_unknown (hvalid t (by simp)) ht) after
  unfold Registry.ofSettings
  rw [hs, hfirst]

end Plans

end Tunnel

namespace Cli

section Runs
variable {ω : Type} {env : Environment ω} {a : Arguments} {s : Settings} {f : Filter}

def openingLines (a : Arguments) : List Line :=
  [⟨.info, title⟩, ⟨.info, s!"Loading configuration from: {a.settingsFile}"⟩]

def passed : Line := ⟨.info, "Configuration test passed"⟩

def Summary.shown (f : Filter) (x : Summary ω) : Summary ω :=
  { x with printed := x.printed.filter (isShown f) }

/-- The settings are read, and the level that is asked for is one. -/
structure Loads (env : Environment ω) (a : Arguments) (s : Settings) (f : Filter) : Prop where
  settings : Settings.load (env.file a.settingsFile) = .ok s
  level : Filter.parse (levelText a (.ok s)) = .ok f

theorem loads_of_parse {text : String} (hfile : env.file a.settingsFile = .ok (bytesOf text))
    (hparse : Settings.parse text = .ok s) (hf : Filter.parse (levelText a (.ok s)) = .ok f) :
    Loads env a s f := by
  refine ⟨?_, hf⟩
  unfold Settings.load
  rw [hfile]
  dsimp only
  rw [ofBytes?_bytesOf]
  exact hparse

theorem execute_of_loads (h : Loads env a s f) :
    execute env a = (proceed env a (openingLines a) s).shown f := by
  unfold execute
  rw [h.settings]
  dsimp only
  rw [h.level]
  rfl

theorem execute_of_test (h : Loads env a s f) (ht : a.testOnly = true) :
    execute env a = Summary.shown f
      { exit := .success, printed := (openingLines a ++ [passed]).map .line, after := env.start } := by
  rw [execute_of_loads h, proceed, if_pos ht]
  rfl

theorem execute_of_prepared (h : Loads env a s f) (ht : a.testOnly = false) {job : Job}
    (hj : prepare a s = .ok job) :
    execute env a =
      (carryOut (env.outside job.client) job a.tunnel (openingLines a) env.start).shown f := by
  rw [execute_of_loads h, proceed, if_neg (by rw [ht]; exact Bool.false_ne_true), hj]

theorem execute_of_refused (h : Loads env a s f) (ht : a.testOnly = false) {e : Refusal}
    (he : prepare a s = .error e) :
    execute env a = Summary.shown f
      { exit := .failure, printed := (openingLines a).map .line ++ [refused e.message],
        after := env.start } := by
  rw [execute_of_loads h, proceed, if_neg (by rw [ht]; exact Bool.false_ne_true), he]

theorem message_unknownKind (name : String) :
    Refusal.message (.plan (.unknownKind name)) = (Kind.unknown name).message := rfl

section Prepare
variable {parameters : RequestParameters} {session : Session} {address : SocketAddress}

theorem prepare_of_registry (hp : a.parameters = .ok parameters) (hs : s.session = .ok session)
    (ha : s.localProxyAddress = .ok address) {registry : Registry}
    (hr : Registry.ofSettings s.tunnels address s.connectTimeout = .ok registry) :
    ∃ job, prepare a s = .ok job ∧ job.registry = registry := by
  unfold prepare
  simp only [hp, hs, ha, hr, mapError_ok, bind, Except.bind]
  exact ⟨_, rfl, rfl⟩

theorem prepare_of_planFault (hp : a.parameters = .ok parameters) (hs : s.session = .ok session)
    (ha : s.localProxyAddress = .ok address) {e : PlanFault}
    (he : Registry.ofSettings s.tunnels address s.connectTimeout = .error e) :
    prepare a s = .error (.plan e) := by
  unfold prepare
  simp only [hp, hs, ha, he, mapError_ok, mapError_error, bind, Except.bind]

end Prepare

end Runs

end Cli

/-- What becomes of valid settings: all that is made from them can be made, unless a tunnel is of an unknown
kind. -/
structure Settings.Runnable (s : Settings) : Prop where
  session : ∃ i, s.session = .ok ⟨s.server.address, s.server.webPort, i, s.server.capabilities⟩
  localProxy : ∃ address, s.localProxyAddress = .ok address
  registry : (∀ t ∈ s.tunnels, Known t) → ∀ address timeout, ∃ plans,
    Registry.ofSettings s.tunnels address timeout = .ok ⟨plans, address, timeout⟩ ∧
      List.Forall₂ (fun t p => Plan.ofSettings t = .ok p) s.tunnels plans
  unknown : ∀ before t after, s.tunnels = before ++ t :: after → (∀ b ∈ before, Known b) → ¬ Known t →
    ∀ address timeout, Registry.ofSettings s.tunnels address timeout = .error (.unknownKind t.kind)
  /-- A test passes, whatever the kinds of the tunnels. -/
  tests : ∀ {ω : Type} (env : Cli.Environment ω) (a : Cli.Arguments) (f : Filter), Cli.Loads env a s f →
    a.testOnly = true → Cli.execute env a = Cli.Summary.shown f
      { exit := .success, printed := (Cli.openingLines a ++ [Cli.passed]).map .line, after := env.start }
  /-- A run gets to its request if all kinds are known. -/
  runs : ∀ {ω : Type} (env : Cli.Environment ω) (a : Cli.Arguments) (f : Filter), Cli.Loads env a s f →
    a.testOnly = false → ∀ parameters, a.parameters = .ok parameters → (∀ t ∈ s.tunnels, Known t) →
    ∃ job, Cli.prepare a s = .ok job ∧
      List.Forall₂ (fun t p => Plan.ofSettings t = .ok p) s.tunnels job.registry.plans ∧
      Cli.execute env a =
        (Cli.carryOut (env.outside job.client) job a.tunnel (Cli.openingLines a) env.start).shown f
  /-- Otherwise it ends at the first kind that is not, and nobody outside is asked for anything. -/
  stops : ∀ {ω : Type} (env : Cli.Environment ω) (a : Cli.Arguments) (f : Filter), Cli.Loads env a s f →
    a.testOnly = false → ∀ parameters, a.parameters = .ok parameters →
    ∀ before t after, s.tunnels = before ++ t :: after → (∀ b ∈ before, Known b) → ¬ Known t →
    Cli.execute env a = Cli.Summary.shown f
      { exit := .failure,
        printed := (Cli.openingLines a).map .line ++ [Cli.refused (Kind.unknown t.kind).message],
        after := env.start }

/-- Settings that were read can be run but for the kinds of their tunnels. -/
theorem runnable_parse {text : String} {s : Settings} (hparse : Settings.parse text = .ok s) : s.Runnable := by
  have h := Settings.parse_eq_ok hparse
  obtain ⟨i, hi⟩ := h.session_eq_ok
  obtain ⟨address, ha⟩ := h.localProxy
  refine {
    session := ⟨i, hi⟩
    localProxy := ⟨address, ha⟩
    registry := fun hk address timeout => Registry.ofSettings_of_known address timeout h hk
    unknown := fun before t after hs hk ht address timeout =>
      Registry.ofSettings_of_unknown address timeout h hs hk ht
    tests := fun env a f hloads ht => Cli.execute_of_test hloads ht
    runs := fun env a f hloads ht parameters hp hk => ?_
    stops := fun env a f hloads ht parameters hp before t after hs hk hu => ?_ }
  · obtain ⟨plans, hplans, hall⟩ := Registry.ofSettings_of_known address s.connectTimeout h hk
    obtain ⟨job, hjob, hregistry⟩ := Cli.prepare_of_registry hp hi ha hplans
    refine ⟨job, hjob, ?_, Cli.execute_of_prepared hloads ht hjob⟩
    rw [hregistry]
    exact hall
  · have hfault := Registry.ofSettings_of_unknown address s.connectTimeout h hs hk hu
    have hrun := Cli.execute_of_refused hloads ht (Cli.prepare_of_planFault hp hi ha hfault)
    rw [Cli.message_unknownKind] at hrun
    exact hrun

def unknownKindText : String :=
  "server: \x7baddress: h, web-port: 1, web-server-certificate: AQ==\x7d\n" ++
    "transports: [\x7bname: t, type: l2tp, server: p, port: 1\x7d]"

theorem parse_unknownKindText :
    ∃ s t, Settings.parse unknownKindText = .ok s ∧ s.tunnels = [t] ∧ t.kind = "l2tp" ∧ ¬ Known t := by
  have hkinds : (Settings.parse unknownKindText).toOption.map (fun s => s.tunnels.map (·.kind)) =
      some ["l2tp"] := by
    decide +kernel
  have hunknown : Kind.parse? "l2tp" = none := by decide +kernel
  cases hs : Settings.parse unknownKindText with
  | error e =>
      rw [hs] at hkinds
      cases hkinds
  | ok s =>
      rw [hs] at hkinds
      obtain ⟨t, ht, hkind⟩ := List.map_eq_singleton_iff.mp (Option.some.inj hkinds)
      refine ⟨s, t, rfl, ht, hkind, ?_⟩
      rintro ⟨kind, hknown⟩
      rw [hkind, hunknown] at hknown
      cases hknown

theorem runnable_unknownKind :
    ∃ s, Settings.parse unknownKindText = .ok s ∧ s.Runnable ∧ ∃ t ∈ s.tunnels, ¬ Known t := by
  obtain ⟨s, t, hs, ht, -, hunknown⟩ := parse_unknownKindText
  exact ⟨s, hs, runnable_parse hs, t, by rw [ht]; exact List.mem_singleton_self t, hunknown⟩

/-- A test is passed with settings of which no registry can be made, and a run ends for that. -/
theorem test_misses_unknownKind :
    let env : Cli.Environment Unit :=
      { file := fun _ => .ok (bytesOf unknownKindText),
        outside := fun _ => ⟨fun _ => (false, ()), fun _ _ => (.ok (), ()), fun _ _ _ => (.ok [], [], ()), none⟩,
        start := () }
    ∃ s address, Settings.parse unknownKindText = .ok s ∧ s.localProxyAddress = .ok address ∧
      Registry.ofSettings s.tunnels address s.connectTimeout = .error (.unknownKind "l2tp") ∧
      (Cli.execute env { testOnly := true, logLevel := some "info" }).exit = .success ∧
      (Cli.execute env { path := some "/status", logLevel := some "info" }).exit = .failure ∧
      .plain "Error: Configuration error: Unknown transport type: l2tp" ∈
        (Cli.execute env { path := some "/status", logLevel := some "info" }).printed := by
  intro env
  obtain ⟨s, t, hs, ht, hkind, hunknown⟩ := parse_unknownKindText
  have h := Settings.parse_eq_ok hs
  obtain ⟨i, hi⟩ := h.session_eq_ok
  obtain ⟨address, ha⟩ := h.localProxy
  have hs' : s.tunnels = [] ++ t :: [] := ht
  have hfault := Registry.ofSettings_of_unknown address s.connectTimeout h hs' nofun hunknown
  rw [hkind] at hfault
  have hlevel : Filter.parse "info" = .ok ⟨3⟩ := by decide +kernel
  have hloads (a : Cli.Arguments) (h : a.logLevel = some "info") : Cli.Loads env a s ⟨3⟩ := by
    refine Cli.loads_of_parse rfl hs ?_
    unfold Cli.levelText
    rw [h]
    exact hlevel
  have htest := Cli.execute_of_test (hloads { testOnly := true, logLevel := some "info" } rfl) rfl
  have hrun := Cli.execute_of_refused (hloads { path := some "/status", logLevel := some "info" } rfl) rfl
    (Cli.prepare_of_planFault rfl hi ha hfault)
  refine ⟨s, address, hs, ha, hfault, ?_, ?_, ?_⟩
  · rw [htest]
    rfl
  · rw [hrun]
    rfl
  · rw [hrun]
    decide +kernel

end RouteCascade
