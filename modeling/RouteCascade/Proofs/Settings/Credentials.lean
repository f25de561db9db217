import RouteCascade.Proofs.Cascade.Candidates
import RouteCascade.Proofs.Tunnel.BasicCredentials
import RouteCascade.Proofs.Tunnel.Negotiation
import RouteCascade.Proofs.Yaml.Reading
import RouteCascade.Settings.Document

/-!
# Credentials that are set

A user name and a password are other keys of a tunnel, so they are kept as values of any kind, and only those
that are texts are used. A plain scalar that looks like a number or a truth value is none, though the name of the
tunnel may be written so. Whether a tunnel is dialed with credentials can be told by the nodes of the
document alone.
-/
namespace RouteCascade

open Net Text Yaml Yaml.Decode Tunnel

/-- Two lists related part by part over a third one between them. -/
theorem forall₂_through {α β γ : Type} {R : α → β → Prop} {S : β → γ → Prop} {T : α → γ → Prop}
    {as : List α} {bs : List β} {cs : List γ} (h : List.Forall₂ R as bs) (h' : List.Forall₂ S bs cs)
    (hT : ∀ a b c, R a b → S b c → T a c) : List.Forall₂ T as cs := by
  induction h generalizing cs with
  | nil =>
      cases h'
      exact .nil
  | cons hab _ ih =>
      cases h' with
      | cons hbc hrest => exact .cons (hT _ _ _ hab hbc) (ih hrest)

/-- The text of a key in a record; a value that is no text does not count. -/
def Yaml.Document.textAt (d : Document) (n : Node) (key : String) : Option String :=
  (d.last? (d.entries n) key).bind d.text?

theorem Yaml.Scalar.eq_of_ofPlain {s t : String} (h : Scalar.ofPlain s = .text t) : t = s := by
  unfold Scalar.ofPlain at h
  split at h
  · cases h
  split at h
  · cases h
  · rename_i i hi
    unfold Scalar.integer? at hi
    subst h
    split at hi <;> cases hi
  split at h
  · exact (Scalar.text.inj h).symm
  split at h
  · cases h
  · exact (Scalar.text.inj h).symm

/-- A scalar without a tag is lost only if it is plain and looks like something else than a text. -/
theorem Yaml.Document.textAt_of_untagged {d : Document} {n : Node} {key s : String} {mark : Mark} {style : Style}
    (h : (d.last? (d.entries n) key).map d.meant = some (.scalar mark none s style)) :
    d.textAt n key = some s ∨ d.textAt n key = none ∧ style = .plain ∧ Scalar.ofPlain s ≠ .text s := by
  obtain ⟨v, hv, hmeant⟩ := Option.map_eq_some_iff.mp h
  rw [textAt, hv, Option.bind_some, text?, hmeant]
  dsimp only [Scalar.resolve]
  by_cases hstyle : style = .plain
  · rw [if_pos hstyle]
    cases hplain : Scalar.ofPlain s with
    | text t =>
        obtain rfl := Scalar.eq_of_ofPlain hplain
        exact .inl rfl
    | _ => exact .inr ⟨rfl, hstyle, nofun⟩
  · rw [if_neg hstyle]
    exact .inl rfl

/-- The keys of a tunnel that are not among the others. -/
def TunnelSettings.ownKeys : List String := ["name", "type", "server", "port"]

/-- The texts of the other keys are those of a node. -/
def TunnelSettings.ReadFrom (d : Document) (n : Node) (t : TunnelSettings) : Prop :=
  ∀ key, key ∉ ownKeys → t.text? key = d.textAt n key

section Reading
variable {d : Document}

theorem lookup_lastOfEach (xs : List (String × Value)) (key : String) :
    (lastOfEach xs).lookup key = xs.reverse.lookup key := by
  induction xs with
  | nil => rfl
  | cons x xs ih =>
      obtain ⟨k, v⟩ := x
      have hnone : xs.reverse.lookup k = none ↔ xs.any (·.1 == k) = false := by
        rw [List.lookup_eq_none_iff, List.any_eq_false]
        simp only [List.mem_reverse, bne_iff_ne, beq_iff_eq, ne_eq]
        exact forall₂_congr fun x _ => not_congr eq_comm
      rw [lastOfEach, List.reverse_cons, List.lookup_append, ← ih, List.lookup_cons, List.lookup_nil]
      by_cases hkey : key = k
      · subst hkey
        rw [beq_self_eq_true]
        cases hany : xs.any (·.1 == key) with
        | true =>
            obtain ⟨w, hw⟩ : ∃ w, xs.reverse.lookup key = some w := by
              rw [← Option.ne_none_iff_exists', ne_eq, hnone, hany]
              exact Bool.noConfusion
            rw [if_pos rfl, ih, hw]
            rfl
        | false =>
            rw [if_neg Bool.noConfusion, ih, hnone.mpr hany, List.lookup_cons, beq_self_eq_true]
            rfl
      · rw [beq_eq_false_iff_ne.mpr hkey]
        split
        · exact (Option.or_none).symm
        · rw [List.lookup_cons, beq_eq_false_iff_ne.mpr hkey]
          exact (Option.or_none).symm

/-- The last texts of the other keys so far are those of the entries so far. -/
def ExtraRead (d : Document) (done : List (Node × Node)) (extra : List (String × Value)) : Prop :=
  ∀ key, key ∉ TunnelSettings.ownKeys →
    (extra.reverse.lookup key).bind Value.string? = (d.last? done key).bind d.text?

section
variable {done : List (Node × Node)} {extra : List (String × Value)} {k v : Node} {key : String}

theorem ExtraRead.own (h : ExtraRead d done extra) (hkey : d.written? k = some key)
    (hown : key ∈ TunnelSettings.ownKeys) : ExtraRead d (done ++ [(k, v)]) extra := by
  intro other hother
  rw [Document.last?_append_of_ne]
  · exact h other hother
  · rw [hkey]
    rintro ⟨rfl⟩
    exact hother hown

theorem ExtraRead.other (h : ExtraRead d done extra) (hkey : d.written? k = some key) {x : Value}
    (hx : x.string? = d.text? v) : ExtraRead d (done ++ [(k, v)]) (extra ++ [(key, x)]) := by
  intro other hother
  rw [List.reverse_append, List.reverse_singleton, List.singleton_append, List.lookup_cons]
  by_cases hsame : other = key
  · subst hsame
    rw [Document.last?_append_of_eq hkey, beq_self_eq_true]
    exact hx
  · rw [beq_eq_false_iff_ne.mpr hsame, Document.last?_append_of_ne]
    · exact h other hother
    · rw [hkey]
      rintro ⟨rfl⟩
      exact hsame rfl

end

theorem gives_tunnel (p : Place) (n : Node) :
    Gives d (TunnelSettings.decoder p n) (TunnelSettings.ReadFrom d n) := by
  unfold TunnelSettings.decoder
  refine gives_record (I := fun done (f : TunnelFields) => ExtraRead d done f.extra) p n (fun _ _ => rfl) ?_ ?_
  · intro whole done f k v key q hf hkey
    split
    case h_5 => exact (gives_value q v).bind fun x hx => gives_pure (hf.other hkey hx)
    all_goals exact gives_then fun _ => gives_pure (hf.own hkey (by decide))
  · intro whole f hf
    refine gives_then fun name => gives_then fun kind => gives_then fun server => gives_then fun port => ?_
    split
    · exact gives_complain _ _ _
    · refine gives_pure fun key hkey => ?_
      rw [TunnelSettings.text?, lookup_lastOfEach]
      exact hf key hkey

def tunnelNodes (d : Document) : List Node :=
  ((d.last? (d.entries d.root) "transports").map d.items).getD []

theorem gives_settings (p : Place) : Gives d (Settings.decoder p d.root) fun s =>
    List.Forall₂ (TunnelSettings.ReadFrom d) (tunnelNodes d) s.tunnels := by
  unfold Settings.decoder
  refine gives_record (I := fun done (f : SettingsFields) =>
    Option.Rel (fun n ts => List.Forall₂ (TunnelSettings.ReadFrom d) (d.items n) ts)
      (d.last? done "transports") f.tunnels) p d.root .none ?_ ?_
  · intro whole done f k v key q hf hkey
    have hskip (hne : key ≠ "transports") :
        d.last? (done ++ [(k, v)]) "transports" = d.last? done "transports" :=
      Document.last?_append_of_ne fun h => hne (Option.some.inj (hkey.symm.trans h))
    split
    case h_7 =>
      refine (gives_once p whole (gives_sequence q v gives_tunnel)).bind ?_
      rintro _ ⟨-, ts, rfl, hts⟩
      refine gives_pure ?_
      rw [Document.last?_append_of_eq hkey]
      exact .some hts
    case h_8 hne => exact gives_then fun _ => gives_pure (hskip hne ▸ hf)
    all_goals exact gives_then fun _ => gives_pure (hskip (by decide) ▸ hf)
  · intro whole f hf
    refine gives_pure ?_
    change List.Forall₂ _ (tunnelNodes d) (f.tunnels.getD [])
    unfold tunnelNodes
    generalize d.last? (d.entries d.root) "transports" = n at hf
    generalize f.tunnels = ts at hf
    cases hf with
    | none => exact .nil
    | some h => exact h

/-- What is read off a text was read off its first document. -/
theorem run_of_decode {α : Type} {dec : Decoder α} {text : String} {a : α} (h : decode dec text = .ok a) :
    ∃ used, ((dec { } (Document.ofText text).root).run (.ofText text)).run 0 = .ok (a, used) := by
  unfold decode at h
  dsimp only at h
  cases hrun : ((dec { } (Document.ofText text).root).run (.ofText text)).run 0 with
  | error e =>
      rw [hrun] at h
      cases h
  | ok r =>
      obtain ⟨a', used⟩ := r
      rw [hrun] at h
      refine ⟨used, ?_⟩
      cases hcut : (Document.ofText text).cut with
      | some c =>
          simp only [hcut] at h
          cases h
      | none =>
          simp only [hcut] at h
          by_cases hmore : (Document.ofText text).continued
          · simp only [hmore, if_true] at h
            cases h
          · simp only [hmore] at h
            cases h
            rfl

theorem readFrom_of_parse {text : String} {s : Settings} (h : Settings.parse text = .ok s) :
    List.Forall₂ (TunnelSettings.ReadFrom (.ofText text)) (tunnelNodes (.ofText text)) s.tunnels := by
  have hdecode : decode Settings.decoder text = .ok s := by
    unfold Settings.parse at h
    split at h
    · cases h
    · rename_i s' hs'
      split at h
      · cases h
      · cases h
        exact hs'
  obtain ⟨used, hrun⟩ := run_of_decode hdecode
  exact gives_settings _ 0 s used hrun

end Reading

/-- A user name and a password are set, both as texts. -/
def Yaml.Document.SetsCredentials (d : Document) (n : Node) : Prop :=
  (d.textAt n "username").isSome ∧ (d.textAt n "password").isSome

namespace Tunnel

/-- What is sent to a gateway of a plan, and which part the credentials of its node have in it. -/
structure Plan.Presents (d : Document) (n : Node) (plan : Plan) : Prop where
  credentials : ∀ c, plan.gateway.credentials = some c ↔
    d.textAt n "username" = some c.username ∧ d.textAt n "password" = some c.password
  /-- A scalar without a tag is a text, or else it is plain and does not look like one. -/
  untagged : ∀ key mark s style,
    (d.last? (d.entries n) key).map d.meant = some (.scalar mark none s style) →
    d.textAt n key = some s ∨ d.textAt n key = none ∧ style = .plain ∧ Scalar.ofPlain s ≠ .text s
  http : plan.gateway.kind = .http → ∀ host port,
    (∀ s : Stream, ∃ s' w, (plan.gateway.dial (.ok s) host port).2 = some s' ∧ s'.sent = s.sent ++ w ∧
      w <+: plan.gateway.connectRequest host port ∧
      (s.Takes (plan.gateway.connectRequest host port).length → w = plan.gateway.connectRequest host port)) ∧
    ((∃ v, ⟨bytesOf "Proxy-Authorization", v⟩ ∈ plan.gateway.connectFields host port) ↔ d.SetsCredentials n)
  socks5 : plan.gateway.kind = .socks5 → ∀ host port (s : Stream), ∃ s' w said methods rest,
    (plan.gateway.dial (.ok s) host port).2 = some s' ∧ s'.sent = s.sent ++ w ∧ w <+: said ∧
      (s.room = none → w = said) ∧ Socks5.takeGreeting said = some (methods, rest) ∧
      (Socks5.withPassword ∈ methods ↔ d.SetsCredentials n)

section Presenting
variable {g : Gateway} {host : String} {port : Port}

theorem Gateway.sent_dial_of_socks5 (hg : g.kind = .socks5) (s : Stream) :
    ∃ s' w said methods rest, (g.dial (.ok s) host port).2 = some s' ∧ s'.sent = s.sent ++ w ∧ w <+: said ∧
      (s.room = none → w = said) ∧ Socks5.takeGreeting said = some (methods, rest) ∧
      (Socks5.withPassword ∈ methods ↔ g.credentials.isSome) := by
  obtain ⟨_, ⟨u, v, -, -, rfl⟩, hwrote⟩ := Socks5.writes_connect g.credentials host port s
  obtain ⟨methods, hread, hoffer⟩ := Socks5.takeGreeting_greeting g.credentials (u ++ v)
  obtain ⟨w, hw, hsent⟩ := hwrote.beginning
  refine ⟨((g.talk host port).runOn s).2, w, _, methods, _, rfl, ?_, hw, fun hroom => ?_, hread, hoffer⟩
  · rw [Socks5.runOn_talk hg]
    exact hsent
  · have hwhole := hwrote.whole (.inl hroom)
    rw [hsent] at hwhole
    exact List.append_cancel_left hwhole

theorem Plan.presents_of_readFrom {d : Document} {n : Node} {t : TunnelSettings} {plan : Plan}
    (ht : t.ReadFrom d n) (hplan : Plan.ofSettings t = .ok plan) : plan.Presents d n := by
  have hfollows := Plan.ofSettings_eq_ok hplan
  have husername : plan.gateway.username = d.textAt n "username" :=
    hfollows.username.trans (ht "username" (by decide))
  have hpassword : plan.gateway.password = d.textAt n "password" :=
    hfollows.password.trans (ht "password" (by decide))
  have hsets : plan.gateway.credentials.isSome ↔ d.SetsCredentials n := by
    rw [plan.gateway.isSome_credentials, husername, hpassword]
    rfl
  refine ⟨fun c => ?_, fun key mark s style h => d.textAt_of_untagged h, fun hg host port => ?_,
    fun hg host port s => ?_⟩
  · rw [Socks5.credentials_eq_some_iff, husername, hpassword]
  · exact ⟨Gateway.sent_dial_of_http hg, Gateway.exists_mem_connectFields_iff.trans hsets⟩
  · rw [← hsets]
    exact Gateway.sent_dial_of_socks5 hg s

end Presenting

/-- Each tunnel of a registry is dialed with credentials if and only if the two are set as texts. -/
theorem Registry.presents_credentials {text : String} {s : Settings} {r : Registry} {address : SocketAddress}
    (hs : Settings.parse text = .ok s)
    (hr : Registry.ofSettings s.tunnels address s.connectTimeout = .ok r) :
    List.Forall₂ (fun n plan => plan.Presents (.ofText text) n) (tunnelNodes (.ofText text)) r.plans := by
  have hread := readFrom_of_parse hs
  have hplans := (Registry.ofSettings_eq_ok hr).2.2
  exact forall₂_through hread hplans fun _ _ _ => Plan.presents_of_readFrom

end Tunnel

section Texts

def plansOf (text : String) : Option (List Plan) := do
  let s ← (Settings.parse text).toOption
  let address ← s.localProxyAddress.toOption
  let r ← (Registry.ofSettings s.tunnels address s.connectTimeout).toOption
  pure r.plans

theorem exists_of_plansOf {text : String} {plans : List Plan} (h : plansOf text = some plans) :
    ∃ s address r, Settings.parse text = .ok s ∧
      Registry.ofSettings s.tunnels address s.connectTimeout = .ok r ∧ r.plans = plans := by
  unfold plansOf at h
  cases hs : Settings.parse text with
  | error e =>
      rw [hs] at h
      cases h
  | ok s =>
      cases ha : s.localProxyAddress with
      | error e =>
          rw [hs] at h
          simp [Except.toOption, ha] at h
      | ok address =>
          cases hr : Registry.ofSettings s.tunnels address s.connectTimeout with
          | error e =>
              rw [hs] at h
              simp [Except.toOption, ha, hr] at h
          | ok r =>
              rw [hs] at h
              simp only [Except.toOption, ha, hr, Option.bind_eq_bind, Option.bind_some] at h
              exact ⟨s, address, r, rfl, hr, Option.some.inj h⟩

def passwordText (first second : String) : String :=
  "server: \x7baddress: h, web-port: 1, web-server-certificate: AQ==\x7d\n" ++
    "transports: [\x7bname: 10, type: http, server: p, port: 1, username: u, password: " ++ first ++
    "\x7d, \x7bname: s, type: socks, server: p, port: 1, username: u, password: " ++ second ++ "\x7d]"

/-- Quoted, a number and a truth value are passwords. -/
theorem presents_quoted :
    ∃ s address r, Settings.parse (passwordText "'12345'" "'true'") = .ok s ∧
      Registry.ofSettings s.tunnels address s.connectTimeout = .ok r ∧
      List.Forall₂ (fun n plan => plan.Presents (.ofText (passwordText "'12345'" "'true'")) n)
        (tunnelNodes (.ofText (passwordText "'12345'" "'true'"))) r.plans ∧
      r.plans.map (·.gateway.credentials) = [some ⟨"u", "12345"⟩, some ⟨"u", "true"⟩] := by
  have hplans : plansOf (passwordText "'12345'" "'true'") =
      some [⟨"10", .http, "p", 1, some "u", some "12345"⟩, ⟨"s", .socks5, "p", 1, some "u", some "true"⟩] := by
    decide +kernel
  obtain ⟨s, address, r, hs, hr, hall⟩ := exists_of_plansOf hplans
  exact ⟨s, address, r, hs, hr, Registry.presents_credentials hs hr, by rw [hall]; rfl⟩

/-- Plain, they are lost, although the name of a tunnel may be a plain number: nothing is said of it, and the
gateways are asked without credentials. -/
theorem drops_plain :
    let d := Document.ofText (passwordText "12345" "true")
    ∃ s address r first second, Settings.parse (passwordText "12345" "true") = .ok s ∧
      Registry.ofSettings s.tunnels address s.connectTimeout = .ok r ∧ r.plans = [first, second] ∧
      (tunnelNodes d).map (fun n => ["username", "password"].filterMap fun key =>
          (d.last? (d.entries n) key).bind d.written?) = [["u", "12345"], ["u", "true"]] ∧
      first.name = "10" ∧
      ((first.gateway.dial (.ok { }) "h" 443).2.map (·.sent)) = some (bytesOf (Connect.request "h" 443 none)) ∧
      ((second.gateway.dial (.ok { }) "h" 443).2.map (·.sent)) = some [5, 1, 0] := by
  intro d
  have hplans : plansOf (passwordText "12345" "true") =
      some [⟨"10", .http, "p", 1, some "u", none⟩, ⟨"s", .socks5, "p", 1, some "u", none⟩] := by
    decide +kernel
  obtain ⟨s, address, r, hs, hr, hall⟩ := exists_of_plansOf hplans
  exact ⟨s, address, r, _, _, hs, hr, hall, by decide +kernel, rfl, by decide +kernel, by decide +kernel⟩

end Texts

end RouteCascade
