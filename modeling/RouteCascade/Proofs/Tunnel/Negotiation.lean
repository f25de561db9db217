import RouteCascade.Proofs.Tunnel.Acceptance
import RouteCascade.Tunnel.Gateway

/-!
# Negotiations with a SOCKS proxy

What a proxy may say for a tunnel, and what the client says to it: the choice of a method, a user name and
a password where the proxy wants them, and a reply with an address of one of three types. All that the
client accepts is put together from what its parts accept.
-/
namespace RouteCascade.Tunnel

open Text Net

namespace Socks5

/-- An address of a given type, with a port. -/
def BoundAddress (t : UInt8) (b : Bytes) : Prop :=
  t = 1 ∧ b.length = 6 ∨ t = 4 ∧ b.length = 18 ∨
    t = 3 ∧ ∃ (n : UInt8) (rest : Bytes), b = n :: rest ∧ rest.length = n.toNat + 2

/-- The choice of a method that the client of a gateway goes along with, and what it writes because of
that. -/
inductive Agreement (g : Gateway) : Bytes → Bytes → Prop
  | unauthenticated : Agreement g [5, 0] []
  | password {name word : String} (v : UInt8) : g.username = some name → g.password = some word →
      (bytesOf name).length ≤ 255 → (bytesOf word).length ≤ 255 →
      Agreement g [5, 2, v, 0] (passwordMessage ⟨name, word⟩)

inductive Grant : Bytes → Prop
  | mk (r : UInt8) {t : UInt8} {b : Bytes} : BoundAddress t b → Grant (5 :: 0 :: r :: t :: b)

/-- A negotiation that gives a tunnel to a host and port: all that the proxy says, and all that the client
does. -/
inductive Negotiation (g : Gateway) (host : String) (port : Port) : Bytes → Bytes → Prop
  | mk {a w q r : Bytes} : Agreement g a w → request host port = .ok q → Grant r →
      Negotiation g host port (a ++ r) (greeting g.credentials ++ w ++ q)

def bareHost (host : String) : String := String.ofList (stripBrackets host.toList)

/-- The host is an address, in brackets or not, or a name that is not too long. -/
def Nameable (host : String) : Prop :=
  (Ipv4.parse? (bareHost host)).isSome ∨ (Ipv6.parse? (bareHost host)).isSome ∨ (bytesOf host).length ≤ 255

theorem exists_hostOctets_iff (host : String) : (∃ h, hostOctets host = .ok h) ↔ Nameable host := by
  unfold hostOctets Nameable bareHost
  dsimp only
  cases Ipv4.parse? (String.ofList (stripBrackets host.toList)) with
  | some a => simp
  | none =>
      cases Ipv6.parse? (String.ofList (stripBrackets host.toList)) with
      | some a => simp
      | none =>
          by_cases hl : maxText < (bytesOf host).length
          · have hlong : 255 < (bytesOf host).length := hl
            simp [hl, hlong]
          · have hshort : (bytesOf host).length ≤ 255 := Nat.not_lt.mp hl
            simp [hl, hshort]

theorem exists_request_iff (host : String) (port : Port) :
    (∃ q, request host port = .ok q) ↔ Nameable host := by
  refine Iff.trans ?_ (exists_hostOctets_iff host)
  unfold request
  cases hostOctets host <;> simp

open Talk

theorem accepts_plainly {α : Type} {t : Talk String α} {P : α → Bytes → Bytes → Prop} (h : t.Accepts P) :
    (plainly t).Accepts P :=
  h.mapFault _

/-- Reads a number of bytes over. -/
theorem accepts_skip (n : Nat) :
    (do let _ ← plainly (readExactly n) : Talk Socks5Fault Unit).Accepts
      fun _ r w => r.length = n ∧ w = [] := by
  refine ((accepts_plainly (accepts_readExactly n)).bind fun _ => accepts_pure ()).congr fun _ r w => ?_
  constructor
  · rintro ⟨_, _, _, _, _, ⟨rfl, rfl, rfl⟩, ⟨-, rfl, rfl⟩, rfl, rfl⟩
    simp
  · rintro ⟨rfl, rfl⟩
    exact ⟨r, r, [], [], [], ⟨rfl, rfl, rfl⟩, ⟨rfl, rfl, rfl⟩, by simp, rfl⟩

theorem accepts_skipAddress (t : UInt8) :
    (skipAddress t).Accepts fun _ r w => BoundAddress t r ∧ w = [] := by
  unfold skipAddress
  split
  · subst t
    exact (accepts_skip 6).congr fun _ r w => by simp [BoundAddress]
  split
  · subst t
    exact (accepts_skip 18).congr fun _ r w => by simp [BoundAddress]
  split
  · subst t
    refine ((accepts_plainly (accepts_readExactly 1)).bind fun {l} _ _ _ =>
      accepts_skip ((l.headD 0).toNat + 2)).congr fun _ r w => ?_
    constructor
    · rintro ⟨l, _, _, b, _, ⟨rfl, hl, rfl⟩, ⟨hb, rfl⟩, rfl, rfl⟩
      obtain ⟨n, rfl⟩ := List.length_eq_one_iff.mp hl
      exact ⟨.inr (.inr ⟨rfl, n, b, rfl, hb⟩), rfl⟩
    · rintro ⟨⟨ht, -⟩ | ⟨ht, -⟩ | ⟨-, n, b, rfl, hb⟩, rfl⟩
      · cases ht
      · cases ht
      · exact ⟨[n], [n], [], b, [], ⟨rfl, rfl, rfl⟩, ⟨hb, rfl⟩, rfl, rfl⟩
  · rename_i h₁ h₄ h₃
    exact accepts_fail_of _ fun _ r w => by simp [BoundAddress, h₁, h₄, h₃]

theorem accepts_readReply : readReply.Accepts fun _ r w => Grant r ∧ w = [] := by
  refine (((accepts_readExactly 4).mapFault _).bind
    (Q := fun l _ r w => Grant (l ++ r) ∧ w = []) fun {l} _ _ hl => ?_).congr fun _ r w => ?_
  · obtain ⟨v, code, r, t, rfl⟩ := List.length_eq_four.mp hl.2.1
    simp only
    split
    · rename_i hv
      refine accepts_fail_of _ ?_
      rintro _ b w ⟨⟨_, _⟩, -⟩
      exact hv rfl
    split
    · rename_i hc
      refine accepts_fail_of _ ?_
      rintro _ b w ⟨⟨_, _⟩, -⟩
      exact hc rfl
    · rename_i hv hc
      obtain rfl : v = 5 := Decidable.not_not.mp hv
      obtain rfl : code = 0 := Decidable.not_not.mp hc
      refine (accepts_skipAddress t).congr fun _ b w => and_congr_left fun _ => ?_
      exact ⟨.mk r, fun ⟨_, hb⟩ => hb⟩
  · constructor
    · rintro ⟨l, _, _, b, _, ⟨rfl, -, rfl⟩, ⟨hg, rfl⟩, rfl, rfl⟩
      exact ⟨hg, rfl⟩
    · rintro ⟨hg, rfl⟩
      cases hg with
      | @mk r t b hb => exact ⟨[5, 0, r, t], _, [], b, [], ⟨rfl, rfl, rfl⟩, ⟨.mk r hb, rfl⟩, rfl, rfl⟩

/-- The answer to a user name and a password. -/
theorem accepts_answer :
    (do
      let answer ← plainly (readExactly 2)
      if answer[1]? = some 0 then pure () else fail .credentialsRefused : Talk Socks5Fault Unit).Accepts
      fun _ r w => (∃ v, r = [v, 0]) ∧ w = [] := by
  refine ((accepts_plainly (accepts_readExactly 2)).bind
    (Q := fun l _ r w => l[1]? = some 0 ∧ r = [] ∧ w = []) fun {l} _ _ hl => ?_).congr fun _ r w => ?_
  · split
    · rename_i h
      exact (accepts_pure ()).congr fun _ r w => by simp [h]
    · rename_i h
      exact accepts_fail_of _ fun _ r w hr => h hr.1
  · constructor
    · rintro ⟨l, _, _, _, _, ⟨rfl, hl, rfl⟩, ⟨hz, rfl, rfl⟩, rfl, rfl⟩
      obtain ⟨v, z, rfl⟩ := List.length_eq_two.mp hl
      obtain rfl : z = 0 := by simpa using hz
      exact ⟨⟨v, rfl⟩, rfl⟩
    · rintro ⟨⟨v, rfl⟩, rfl⟩
      exact ⟨[v, 0], _, [], [], [], ⟨rfl, rfl, rfl⟩, ⟨rfl, rfl, rfl⟩, rfl, rfl⟩

theorem credentials_eq_some_iff {g : Gateway} {c : Credentials} :
    g.credentials = some c ↔ g.username = some c.username ∧ g.password = some c.password := by
  obtain ⟨name, word⟩ := c
  cases hu : g.username <;> cases hp : g.password <;> simp [Gateway.credentials, hu, hp]

section Parts
variable (g : Gateway)

/-- What is left of an agreement on a password once the method is chosen. -/
theorem accepts_authenticate :
    (authenticate g.credentials).Accepts fun _ r w => Agreement g (5 :: 2 :: r) w := by
  unfold authenticate
  cases hc : g.credentials with
  | none =>
      refine accepts_fail_of _ ?_
      rintro _ r w (_ | ⟨_, hu, hp, -, -⟩)
      exact nomatch hc.symm.trans (credentials_eq_some_iff (c := ⟨_, _⟩) |>.mpr ⟨hu, hp⟩)
  | some c =>
      obtain ⟨name, word⟩ := c
      obtain ⟨hname, hword⟩ := credentials_eq_some_iff.mp hc
      dsimp only at hname hword ⊢
      by_cases hlong : maxText < (bytesOf name).length ∨ maxText < (bytesOf word).length
      · rw [if_pos hlong]
        refine accepts_fail_of _ ?_
        rintro _ r w (_ | ⟨_, hu, hp, hle, hle'⟩)
        obtain rfl := Option.some.inj (hname.symm.trans hu)
        obtain rfl := Option.some.inj (hword.symm.trans hp)
        simp only [maxText] at hlong
        omega
      · rw [if_neg hlong]
        refine ((accepts_plainly (accepts_write (passwordMessage ⟨name, word⟩))).bind fun _ =>
          accepts_answer).congr fun _ r w => ?_
        constructor
        · rintro ⟨_, _, _, _, _, ⟨rfl, rfl⟩, ⟨⟨v, rfl⟩, rfl⟩, rfl, rfl⟩
          simp only [maxText, not_or, Nat.not_lt] at hlong
          rw [List.append_nil]
          exact .password v hname hword hlong.1 hlong.2
        · rintro (_ | ⟨v, hu, hp, -, -⟩)
          obtain rfl := Option.some.inj (hname.symm.trans hu)
          obtain rfl := Option.some.inj (hword.symm.trans hp)
          exact ⟨(), [], _, [v, 0], [], ⟨rfl, rfl⟩, ⟨⟨v, rfl⟩, rfl⟩, rfl, by simp⟩

/-- The client goes along with a method that it knows, whether or not it offered it. -/
theorem accepts_choice (v method : UInt8) :
    (if v ≠ version then fail .choiceVersion
      else if method = noAuthentication then pure ()
      else if method = withPassword then authenticate g.credentials
      else if method = noneAcceptable then fail .noMethod
      else fail (.unknownMethod method) : Talk Socks5Fault Unit).Accepts
      fun _ r w => Agreement g (v :: method :: r) w := by
  split
  · rename_i hv
    refine accepts_fail_of _ ?_
    rintro _ r w (_ | _) <;> exact hv rfl
  rename_i hv
  obtain rfl : v = 5 := Decidable.not_not.mp hv
  split
  · rename_i hm
    obtain rfl : method = 0 := hm
    refine (accepts_pure ()).congr fun _ r w => ⟨?_, ?_⟩
    · rintro ⟨-, rfl, rfl⟩
      exact .unauthenticated
    · rintro (_ | _)
      exact ⟨rfl, rfl, rfl⟩
  rename_i hopen
  split
  · rename_i hm
    obtain rfl : method = 2 := hm
    exact accepts_authenticate g
  rename_i hpassword
  have hnone : ∀ (_ : Unit) r w, ¬ Agreement g (5 :: method :: r) w := by
    rintro _ r w (_ | _)
    · exact hopen rfl
    · exact hpassword rfl
  split
  · exact accepts_fail_of _ hnone
  · exact accepts_fail_of _ hnone

theorem accepts_agree :
    (agree g.credentials).Accepts fun _ r w =>
      ∃ w', Agreement g r w' ∧ w = greeting g.credentials ++ w' := by
  refine (((accepts_write (greeting g.credentials)).mapFault _).bind
    (Q := fun _ _ r w => Agreement g r w) fun _ => ?_).congr fun _ r w => ?_
  · refine (((accepts_readExactly 2).mapFault _).bind
      (Q := fun l _ r w => Agreement g (l ++ r) w) fun {l} _ _ hl => ?_).congr fun _ r w => ?_
    · obtain ⟨v, method, rfl⟩ := List.length_eq_two.mp hl.2.1
      exact accepts_choice g v method
    · constructor
      · rintro ⟨l, _, _, r, w, ⟨rfl, -, rfl⟩, ha, rfl, rfl⟩
        exact ha
      · intro ha
        cases ha with
        | unauthenticated =>
            exact ⟨[5, 0], _, [], [], [], ⟨rfl, rfl, rfl⟩, .unauthenticated, rfl, rfl⟩
        | password v hu hp hle hle' =>
            exact ⟨[5, 2], _, [], [v, 0], _, ⟨rfl, rfl, rfl⟩, .password v hu hp hle hle', rfl, rfl⟩
  · constructor
    · rintro ⟨_, _, _, r, w, ⟨rfl, rfl⟩, ha, rfl, rfl⟩
      exact ⟨w, ha, rfl⟩
    · rintro ⟨w, ha, rfl⟩
      exact ⟨(), [], _, r, w, ⟨rfl, rfl⟩, ha, rfl, rfl⟩

/-- What is left of a negotiation once a method is agreed on. -/
theorem accepts_ask {host : String} {port : Port} {q : Bytes} (hq : request host port = .ok q) :
    (do (write q).mapFault .requestNotSent; readReply : Talk Socks5Fault Unit).Accepts
      fun _ r w => Grant r ∧ w = q := by
  refine (((accepts_write q).mapFault _).bind fun _ => accepts_readReply).congr fun _ r w => ?_
  constructor
  · rintro ⟨_, _, _, r, _, ⟨rfl, rfl⟩, ⟨hg, rfl⟩, rfl, rfl⟩
    exact ⟨hg, List.append_nil _⟩
  · rintro ⟨hg, rfl⟩
    exact ⟨(), [], _, r, [], ⟨rfl, rfl⟩, ⟨hg, rfl⟩, rfl, (List.append_nil _).symm⟩

theorem accepts_connect (host : String) (port : Port) :
    (connect g.credentials host port).Accepts fun _ r w => Negotiation g host port r w := by
  unfold connect
  cases hq : request host port with
  | error e =>
      refine ((accepts_agree g).bind fun _ => accepts_fail e).congr fun _ r w => ?_
      constructor
      · rintro ⟨_, _, _, _, _, _, ⟨⟩, _, _⟩
      · rintro ⟨_, hq', _⟩
        exact nomatch hq.symm.trans hq'
  | ok q =>
      refine ((accepts_agree g).bind fun _ => accepts_ask hq).congr fun _ r w => ?_
      constructor
      · rintro ⟨_, a, _, r, _, ⟨w, ha, rfl⟩, ⟨hg, rfl⟩, rfl, rfl⟩
        exact .mk ha hq hg
      · rintro ⟨ha, hq', hg⟩
        obtain rfl := Except.ok.inj (hq.symm.trans hq')
        exact ⟨(), _, _, _, _, ⟨_, ha, rfl⟩, ⟨hg, rfl⟩, rfl, rfl⟩

end Parts

/-- What comes of a negotiation over a stream, by what the proxy says. -/
structure Negotiates (g : Gateway) (host : String) (port : Port) (s : Stream)
    (x : Except (Halt Failure) Unit × Stream) : Prop where
  established : x.1 = .ok () ↔
    Nameable host ∧ ∃ a w r rest, Agreement g a w ∧ Grant r ∧ s.incoming = a ++ r ++ rest
  /-- The replies are read to their last byte and no further, and only what they call for is written. -/
  exactly : ∀ a w r rest q, Agreement g a w → Grant r → request host port = .ok q →
    s.incoming = a ++ r ++ rest → x = (.ok (), s.exchanged rest (greeting g.credentials ++ w ++ q))
  /-- Replies that break off give no tunnel. -/
  cut : ∀ a w r, Agreement g a w → Grant r → s.incoming <+: a ++ r → s.incoming ≠ a ++ r → x.1 ≠ .ok ()
  /-- Unless nothing more comes, a negotiation without a tunnel ends in a failure. -/
  fails : s.ending ≠ .silent → x.1 ≠ .ok () → ∃ f, x.1 = .error (.fault f)

theorem accepts_talk (g : Gateway) (hg : g.kind = .socks5) (host : String) (port : Port) :
    (g.talk host port).Accepts fun _ r w => Negotiation g host port r w := by
  unfold Gateway.talk
  rw [hg]
  exact (accepts_connect g host port).mapFault _

/-- A client of a SOCKS gateway gets a tunnel by the negotiations that give one, and by no others. -/
theorem negotiates_talk (g : Gateway) (hg : g.kind = .socks5) (host : String) (port : Port) (s : Stream)
    (hs : s.Flows) : Negotiates g host port s ((g.talk host port).runOn s) := by
  have ht := accepts_talk g hg host port
  have hok : ((g.talk host port).runOn s).1 = .ok () →
      ∃ r w, Negotiation g host port r w ∧ r <+: s.incoming := by
    intro h
    obtain ⟨_, r, w, hp, hpre⟩ := (ht.ok_iff hs).mp ⟨(), h⟩
    exact ⟨r, w, hp, hpre⟩
  refine {
    established := ⟨fun h => ?_, ?_⟩
    exactly := fun a w r rest q ha hr hq hin => ht.done hs (.mk ha hq hr) hin
    cut := fun a w r ha hr hpre hne h => ?_
    fails := fun hend hn => ht.fault hs hend fun _ => hn }
  · obtain ⟨_, _, ⟨ha, hq, hr⟩, rest, hin⟩ := hok h
    exact ⟨(exists_request_iff host port).mp ⟨_, hq⟩, _, _, _, rest, ha, hr, hin.symm⟩
  · rintro ⟨hhost, a, w, r, rest, ha, hr, hin⟩
    obtain ⟨q, hq⟩ := (exists_request_iff host port).mpr hhost
    rw [ht.done hs (.mk ha hq hr) hin]
  · obtain ⟨_, _, ⟨-, hq, -⟩, -⟩ := hok h
    exact ht.not_ok_of_cut hs (a := ()) (.mk ha hq hr) hpre hne () h

theorem negotiates_password :
    let g : Gateway := ⟨.socks5, "gateway.example", 1080, some "user", some "word"⟩
    let s : Stream := { incoming := [5, 2, 1, 0, 5, 0, 0, 3, 1, 97, 0, 80, 22, 3], mostPerRead := some 3 }
    Negotiates g "[2001:db8::1]" 443 s ((g.talk "[2001:db8::1]" 443).runOn s) ∧
      ((g.talk "[2001:db8::1]" 443).runOn s).1 = .ok () ∧
      ((g.talk "[2001:db8::1]" 443).runOn s).2.incoming = [22, 3] :=
  ⟨negotiates_talk _ rfl _ _ _ ⟨rfl, by decide⟩, by decide +kernel, by decide +kernel⟩

end Socks5

end RouteCascade.Tunnel
