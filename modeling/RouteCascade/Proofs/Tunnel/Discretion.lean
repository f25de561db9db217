import RouteCascade.Proofs.Tunnel.Socks5Messages
import RouteCascade.Proofs.Tunnel.Writing

/-!
# A client that keeps its password to itself

A user name and a password are sent to a SOCKS proxy only if it asks for them, and then as one message from
which both are read back. Until it asks, two clients with different passwords cannot be told apart, by the
proxy or by anybody else. A user name or a password that is too long is never sent, not even in part.
-/
namespace RouteCascade.Tunnel

open Text Net

def Gateway.withCredentials (g : Gateway) (c : Credentials) : Gateway :=
  { g with username := some c.username, password := some c.password }

theorem Gateway.credentials_withCredentials (g : Gateway) (c : Credentials) :
    (g.withCredentials c).credentials = some c := rfl

theorem Gateway.isSome_credentials (g : Gateway) :
    g.credentials.isSome ↔ g.username.isSome ∧ g.password.isSome := by
  unfold Gateway.credentials
  cases g.username <;> cases g.password <;> simp

def Credentials.TooLong (c : Credentials) : Prop :=
  255 < (bytesOf c.username).length ∨ 255 < (bytesOf c.password).length

namespace Socks5

open Talk

theorem authenticate_of_tooLong {c : Credentials} (h : c.TooLong) :
    authenticate (some c) = Talk.fail .credentialsTooLong := by
  unfold authenticate
  exact if_pos h

theorem authenticate_of_not_tooLong {c : Credentials} (h : ¬ c.TooLong) :
    authenticate (some c) = (do
      plainly (Talk.write (passwordMessage c))
      let answer ← plainly (Talk.readExactly 2)
      if answer[1]? = some 0 then pure () else Talk.fail .credentialsRefused : Talk Socks5Fault Unit) := by
  unfold authenticate
  exact if_neg h

/-- What is said once a method is agreed on. -/
def ask (host : String) (port : Port) : Talk Socks5Fault Unit :=
  match request host port with
  | .error e => fail e
  | .ok q => do
    (write q).mapFault .requestNotSent
    readReply

theorem connect_eq (credentials : Option Credentials) (host : String) (port : Port) :
    connect credentials host port = (do agree credentials; ask host port : Talk Socks5Fault Unit) := by
  unfold connect ask
  refine congrArg _ (funext fun _ => ?_)
  cases request host port <;> rfl

section Runs
variable {credentials : Option Credentials} {s : Stream}

/-- Unless a password is asked for, it makes no difference. -/
theorem runOn_agree_of_unasked (h : ¬ [5, 2] <+: s.incoming) (c c' : Credentials) :
    (agree (some c)).runOn s = (agree (some c')).runOn s := by
  unfold agree
  refine runOn_bind_congr fun _ s₁ hw => ?_
  refine runOn_bind_congr fun choice s₂ hr => ?_
  have hpre := prefix_of_readExactly hr
  rw [incoming_of_write hw] at hpre
  split
  · rename_i v method
    split
    · rfl
    rename_i hv
    split
    · rfl
    split
    · rename_i hm
      obtain rfl : v = 5 := Decidable.not_not.mp hv
      obtain rfl : method = 2 := hm
      exact absurd hpre h
    · rfl
  · rfl

theorem runOn_agree_of_asked (hs : s.Flows) {rest : Bytes} (hin : s.incoming = [5, 2] ++ rest) :
    (agree credentials).runOn s =
      (authenticate credentials).runOn (s.exchanged rest (greeting credentials)) := by
  have hw := ((accepts_write (greeting credentials)).mapFault Socks5Fault.greetingNotSent).done hs
    (a := ()) ⟨rfl, rfl⟩ (show s.incoming = [] ++ s.incoming from rfl)
  have hr := ((accepts_readExactly 2).mapFault Socks5Fault.choiceNotRead).done
    (hs.exchanged s.incoming (greeting credentials)) ⟨rfl, rfl, rfl⟩
    (show (s.exchanged s.incoming (greeting credentials)).incoming = [5, 2] ++ rest from hin)
  unfold agree
  rw [runOn_bind, hw]
  dsimp only
  rw [runOn_bind, hr]
  simp [Stream.exchanged, version, noAuthentication, withPassword]

theorem runOn_connect_of_asked (hs : s.Flows) {rest : Bytes} (hin : s.incoming = [5, 2] ++ rest)
    (host : String) (port : Port) :
    (connect credentials host port).runOn s =
      (do authenticate credentials; ask host port : Talk Socks5Fault Unit).runOn
        (s.exchanged rest (greeting credentials)) := by
  rw [connect_eq, runOn_bind, runOn_bind, runOn_agree_of_asked hs hin]

theorem listens_skipAddress (t : UInt8) : (skipAddress t).Listens := by
  unfold skipAddress
  have hskip (n : Nat) : (do let _ ← plainly (readExactly n) : Talk Socks5Fault Unit).Listens :=
    ((listens_readExactly n).mapFault _).listen (fun _ => listens_pure ()) rfl
  split
  · exact hskip 6
  split
  · exact hskip 18
  split
  · exact ((listens_readExactly 1).mapFault _).listen (fun l => hskip _) rfl
  · exact listens_fail _

theorem listens_readReply : readReply.Listens := by
  refine ((listens_readExactly 4).mapFault _).listen (fun reply => ?_) rfl
  split
  · split
    · exact listens_fail _
    split
    · exact listens_fail _
    · exact listens_skipAddress _
  · exact listens_fail _

/-- Of a request, there is at most the whole. -/
def AskedFor (host : String) (port : Port) (w : Bytes) : Prop := w = [] ∨ request host port = .ok w

theorem writes_ask (host : String) (port : Port) : (ask host port).Writes (AskedFor host port) := by
  unfold ask
  split
  · exact (listens_fail _).mono fun w hw => .inl hw
  · rename_i q hq
    refine (((writes_write q).mapFault _).bind (fun _ => listens_readReply) rfl).mono ?_
    rintro w ⟨_, _, rfl, rfl, rfl⟩
    exact .inr (by rw [List.append_nil]; exact hq)

theorem writes_authenticate {c : Credentials} (h : ¬ c.TooLong) :
    (authenticate (some c)).Writes (· = passwordMessage c) := by
  rw [authenticate_of_not_tooLong h]
  have hanswer : (do
      let answer ← plainly (readExactly 2)
      if answer[1]? = some 0 then pure () else fail .credentialsRefused : Talk Socks5Fault Unit).Listens := by
    refine ((listens_readExactly 2).mapFault _).listen (fun answer => ?_) rfl
    split
    · exact listens_pure ()
    · exact listens_fail _
  refine (((writes_write (passwordMessage c)).mapFault _).bind (fun _ => hanswer) rfl).mono ?_
  rintro w ⟨_, _, rfl, rfl, rfl⟩
  exact List.append_nil _

/-- Of a user name and a password, there is at most the whole message. -/
def Told (credentials : Option Credentials) (w : Bytes) : Prop :=
  w = [] ∨ ∃ c, credentials = some c ∧ ¬ c.TooLong ∧ w = passwordMessage c

theorem Told.eq_nil {c : Credentials} {w : Bytes} (h : Told (some c) w) (hc : c.TooLong) : w = [] := by
  rcases h with rfl | ⟨_, hsome, hnot, -⟩
  · rfl
  · obtain rfl := Option.some.inj hsome
    exact absurd hc hnot

theorem writes_agree (credentials : Option Credentials) :
    (agree credentials).Writes fun w => ∃ u, Told credentials u ∧ w = greeting credentials ++ u := by
  have hauthenticate : (authenticate credentials).Writes (Told credentials) := by
    cases credentials with
    | none => exact (listens_fail _).mono fun w hw => .inl hw
    | some c =>
        by_cases hlong : c.TooLong
        · rw [authenticate_of_tooLong hlong]
          exact (listens_fail _).mono fun w hw => .inl hw
        · exact (writes_authenticate hlong).mono fun w hw => .inr ⟨c, rfl, hlong, hw⟩
  have hfail (e : Socks5Fault) : (fail e : Talk Socks5Fault Unit).Writes (Told credentials) :=
    (listens_fail e).mono fun w hw => .inl hw
  unfold agree
  refine (((writes_write (greeting credentials)).mapFault _).bind (Q := Told credentials)
    (fun _ => ?_) (.inl rfl)).mono ?_
  · refine ((listens_readExactly 2).mapFault _).listen (fun choice => ?_) (.inl rfl)
    split
    · split
      · exact hfail _
      split
      · exact (listens_pure ()).mono fun w hw => .inl hw
      split
      · exact hauthenticate
      split
      · exact hfail _
      · exact hfail _
    · exact hfail _
  · rintro w ⟨_, u, rfl, hu, rfl⟩
    exact ⟨u, hu, rfl⟩

theorem writes_connect (credentials : Option Credentials) (host : String) (port : Port) :
    (connect credentials host port).Writes fun w => ∃ u v, Told credentials u ∧ AskedFor host port v ∧
      w = greeting credentials ++ (u ++ v) := by
  rw [connect_eq]
  refine ((writes_agree credentials).bind (fun _ => writes_ask host port) (.inl rfl)).mono ?_
  rintro w ⟨_, v, ⟨u, hu, rfl⟩, hv, rfl⟩
  exact ⟨u, v, hu, hv, List.append_assoc _ _ _⟩

end Runs

theorem takeGreeting_greeting (credentials : Option Credentials) (rest : Bytes) :
    ∃ methods, takeGreeting (greeting credentials ++ rest) = some (methods, rest) ∧
      (withPassword ∈ methods ↔ credentials.isSome) := by
  cases credentials with
  | none =>
      refine ⟨[noAuthentication], ?_, by decide⟩
      rw [greeting, List.cons_append, takeGreeting, if_pos rfl]
      exact take_append rest rfl
  | some c =>
      refine ⟨[noAuthentication, withPassword], ?_, by simp⟩
      rw [greeting, List.cons_append, takeGreeting, if_pos rfl]
      exact take_append rest rfl

/-- What a client tells of its user name and its password. -/
structure Discreet (g : Gateway) (host : String) (port : Port) : Prop where
  /-- To be given a password is offered if and only if there is one with a user name. -/
  offered : ∀ s : Stream, s.Flows → ∃ w methods rest,
    ((g.talk host port).runOn s).2.sent = s.sent ++ w ∧ takeGreeting w = some (methods, rest) ∧
      (withPassword ∈ methods ↔ g.username.isSome ∧ g.password.isSome)
  /-- Unless the offer is taken, two clients with passwords do and get the same. -/
  unasked : ∀ (c c' : Credentials) (s : Stream), ¬ [5, 2] <+: s.incoming →
    ((g.withCredentials c).talk host port).runOn s = ((g.withCredentials c').talk host port).runOn s
  /-- An offer that was not made cannot be taken. -/
  missing : ¬ (g.username.isSome ∧ g.password.isSome) → ∀ s : Stream, s.Flows → [5, 2] <+: s.incoming →
    ((g.talk host port).runOn s).1 =
        .error (.fault ⟨.auth, "Credentials required for authentication"⟩) ∧
      ((g.talk host port).runOn s).2.sent = s.sent ++ [5, 1, 0]
  /-- What is too long is not sent, not even if writing fails. -/
  withheld : ∀ c : Credentials, c.TooLong → ∀ s : Stream, ∃ w v,
    (v = [] ∨ request host port = .ok v) ∧ w <+: [5, 2, 0, 2] ++ v ∧
      (((g.withCredentials c).talk host port).runOn s).2.sent = s.sent ++ w
  tooLong : ∀ c : Credentials, c.TooLong → ∀ s : Stream, s.Flows → [5, 2] <+: s.incoming →
    (((g.withCredentials c).talk host port).runOn s).1 =
        .error (.fault ⟨.auth, "Username or password too long"⟩) ∧
      (((g.withCredentials c).talk host port).runOn s).2.sent = s.sent ++ [5, 2, 0, 2]
  /-- All else is sent as one message when the offer is taken, and read back. -/
  given : ∀ c : Credentials, ¬ c.TooLong → ∀ s : Stream, s.Flows → [5, 2] <+: s.incoming →
    ∃ w v, (v = [] ∨ request host port = .ok v) ∧
      (((g.withCredentials c).talk host port).runOn s).2.sent = s.sent ++ [5, 2, 0, 2] ++ w ++ v ∧
      ∀ rest, takePassword (w ++ rest) = some ((bytesOf c.username, bytesOf c.password), rest)

section Talk
variable {g : Gateway} {s : Stream}

theorem runOn_talk (hg : g.kind = .socks5) (host : String) (port : Port) (s : Stream) :
    (g.talk host port).runOn s =
      (((connect g.credentials host port).runOn s).1.mapError (Halt.map Socks5Fault.failure),
        ((connect g.credentials host port).runOn s).2) := by
  unfold Gateway.talk
  rw [hg]
  exact runOn_mapFault _ _ _

/-- To choose the method of a password ends it, if the password cannot be given. -/
theorem runOn_talk_of_asked (hg : g.kind = .socks5) {fault : Socks5Fault}
    (hfault : authenticate g.credentials = fail fault) (hs : s.Flows) (hin : [5, 2] <+: s.incoming)
    (host : String) (port : Port) :
    ((g.talk host port).runOn s).1 = .error (.fault fault.failure) ∧
      ((g.talk host port).runOn s).2.sent = s.sent ++ greeting g.credentials := by
  obtain ⟨rest, hrest⟩ := hin
  rw [runOn_talk hg, runOn_connect_of_asked hs hrest.symm, hfault, runOn_bind, runOn_fail]
  exact ⟨rfl, rfl⟩

end Talk

/-- A client of a SOCKS gateway tells a user name and a password only to a gateway that asks for them. -/
theorem discreet_talk (g : Gateway) (hg : g.kind = .socks5) (host : String) (port : Port) :
    Discreet g host port := by
  have hgc (c : Credentials) : (g.withCredentials c).kind = .socks5 := hg
  refine ⟨?_, ?_, ?_, ?_, ?_, ?_⟩
  · intro s hs
    obtain ⟨_, ⟨u, v, -, -, rfl⟩, hwrote⟩ := writes_connect g.credentials host port s
    obtain ⟨methods, hread, hoffer⟩ := takeGreeting_greeting g.credentials (u ++ v)
    refine ⟨_, methods, _, ?_, hread, hoffer.trans g.isSome_credentials⟩
    rw [runOn_talk hg]
    exact hwrote.whole (.inl hs.takes)
  · intro c c' s h
    rw [runOn_talk (hgc c), runOn_talk (hgc c'), g.credentials_withCredentials c,
      g.credentials_withCredentials c', connect_eq, connect_eq, runOn_bind, runOn_bind,
      runOn_agree_of_unasked h c c']
  · intro h s hs hin
    have hnone : g.credentials = none := by
      rw [← g.isSome_credentials, Option.not_isSome_iff_eq_none] at h
      exact h
    have hfault : authenticate g.credentials = fail .credentialsMissing := by
      rw [hnone]
      rfl
    have hend := runOn_talk_of_asked hg hfault hs hin host port
    rw [hnone] at hend
    exact hend
  · intro c hc s
    obtain ⟨_, ⟨u, v, hu, hv, rfl⟩, hwrote⟩ := writes_connect (some c) host port s
    obtain rfl := hu.eq_nil hc
    obtain ⟨w, hw, hsent⟩ := hwrote.beginning
    refine ⟨w, v, hv, hw, ?_⟩
    rw [runOn_talk (hgc c)]
    exact hsent
  · intro c hc s hs hin
    exact runOn_talk_of_asked (hgc c) (authenticate_of_tooLong hc) hs hin host port
  · intro c hc s hs hin
    obtain ⟨rest, hrest⟩ := hin
    obtain ⟨_, rfl, hwrote⟩ := writes_authenticate hc (s.exchanged rest (greeting (some c)))
    obtain ⟨v, hv, hall⟩ := hwrote.bind (fun _ => writes_ask host port) (.inl rfl)
    rw [← runOn_connect_of_asked hs hrest.symm] at hall
    refine ⟨passwordMessage c, v, hv, ?_, fun rest' => ?_⟩
    · rw [runOn_talk (hgc c), List.append_assoc]
      exact hall.whole (.inl hs.takes)
    · unfold Credentials.TooLong at hc
      have hmax : maxText = 255 := rfl
      exact takePassword_passwordMessage rest' (by omega) (by omega)

/-- If the offer is taken, other passwords are other bytes, and then the outcome may be another. -/
theorem discreet_twoPasswords :
    let g : Gateway := ⟨.socks5, "gateway.example", 1080, none, none⟩
    let declined : Stream := { incoming := [5, 0, 5, 0, 0, 1, 127, 0, 0, 1, 0, 80], mostPerRead := some 3 }
    let taken : Stream := { incoming := [5, 2, 1, 0, 5, 0, 0, 1, 127, 0, 0, 1, 0, 80] }
    let talk (word : String) (s : Stream) := ((g.withCredentials ⟨"user", word⟩).talk "example.com" 443).runOn s
    g.kind = .socks5 ∧ Discreet g "example.com" 443 ∧
      talk "word" declined = talk "sesame" declined ∧ (talk "word" declined).1 = .ok () ∧
      talk "word" taken ≠ talk "sesame" taken :=
  have h := discreet_talk ⟨.socks5, "gateway.example", 1080, none, none⟩ rfl "example.com" 443
  ⟨rfl, h, h.unasked _ _ _ (by decide), by decide +kernel, by decide +kernel⟩

end Socks5

end RouteCascade.Tunnel
