import RouteCascade.Proofs.Net.AddressText
import RouteCascade.Proofs.Tunnel.Negotiation
import RouteCascade.Tunnel.Socks5.Decode

/-!
# Messages to a SOCKS proxy, read back

What the client sends is read back by the server's side, to the last byte and no further: the user name and
the password, and the host and port of a request. A length of more than one byte would shift all that comes
after it, so texts that long are not sent.
-/
namespace RouteCascade.Tunnel.Socks5

open Text Net

section Take
variable (rest : Bytes)

theorem take_append {n : Nat} {a : Bytes} (h : a.length = n) : take n (a ++ rest) = some (a, rest) := by
  have hle : ¬ (a ++ rest).length < n := by
    rw [List.length_append]
    omega
  rw [take, if_neg hle, List.take_left' h, List.drop_left' h]

/-- The length in front of a text does not wrap if it fits into a byte. -/
theorem toNat_countByte {s : String} (h : (bytesOf s).length ≤ maxText) :
    (UInt8.ofNat (bytesOf s).length).toNat = (bytesOf s).length :=
  UInt8.toNat_ofNat_of_lt' (Nat.lt_succ_of_le h)

theorem takeCounted_counted {s : String} (h : (bytesOf s).length ≤ maxText) :
    takeCounted (counted s ++ rest) = some (bytesOf s, rest) := by
  rw [counted, List.cons_append, takeCounted, toNat_countByte h]
  exact take_append rest rfl

theorem takePassword_passwordMessage {c : Credentials} (hname : (bytesOf c.username).length ≤ maxText)
    (hword : (bytesOf c.password).length ≤ maxText) :
    takePassword (passwordMessage c ++ rest) = some ((bytesOf c.username, bytesOf c.password), rest) := by
  rw [passwordMessage, List.cons_append, List.append_assoc, takePassword, if_neg (by simp),
    takeCounted_counted _ hname]
  simp only [Option.bind_eq_bind, Option.bind_some, takeCounted_counted rest hword]
  rfl

end Take

/-! ## Requests -/

theorem toNat_portOctets (port : Port) :
    (UInt8.ofNat (port.toNat / 256)).toNat * 256 + (UInt8.ofNat (port.toNat % 256)).toNat = port.toNat := by
  have hlt : port.toNat < 65536 := port.toNat_lt
  have hhigh : port.toNat / 256 < 256 := by omega
  have hlow : port.toNat % 256 < 256 := by omega
  rw [UInt8.toNat_ofNat_of_lt' hhigh, UInt8.toNat_ofNat_of_lt' hlow]
  omega

/-- A request for a destination and a port, as a server reads it whatever comes after it. -/
def Reads (q : Bytes) (d : Destination) (port : Port) : Prop :=
  ∀ rest, takeRequest (q ++ rest) = some (⟨1, d, port.toNat⟩, rest)

theorem reads_of_takeDestination {t : UInt8} {b : Bytes} {d : Destination} (port : Port)
    (h : ∀ rest, takeDestination t (b ++ rest) = some (d, rest)) :
    Reads ([version, 1, 0] ++ t :: b ++ portOctets port) d port := by
  intro rest
  have hd := h (portOctets port ++ rest)
  simp only [List.cons_append, List.nil_append, List.append_assoc, takeRequest, ne_eq, not_true_eq_false,
    if_false, hd, Option.bind_eq_bind, Option.bind_some]
  simp only [portOctets, List.cons_append, List.nil_append, toNat_portOctets]
  rfl

/-- The octets of a group make it up again. -/
theorem pair_octets (g : UInt16) :
    Address.pair (UInt8.ofNat (g.toNat / 256)) (UInt8.ofNat (g.toNat % 256)) = g := by
  rw [Address.pair, toNat_portOctets, UInt16.ofNat_toNat]

theorem groupsOf_octets (a : Ipv6) : groupsOf a.octets = a.groups := by
  unfold Ipv6.octets
  generalize a.groups = gs
  induction gs with
  | nil => rfl
  | cons g gs ih =>
      simp only [List.flatMap_cons, List.cons_append, List.nil_append, groupsOf, pair_octets]
      rw [ih]

theorem length_octets (a : Ipv6) : a.octets.length = 16 := by
  have h8 := a.length_eq
  simp [Ipv6.octets, List.length_flatMap, h8]

/-- The text is the one of a version 4 address, or one of those of a version 6 address. -/
def IsAddress (host : String) : Prop := (∃ a : Ipv4, host = a.text) ∨ ∃ a : Ipv6, a.Spelling host.toList

section Host
variable {host : String}

theorem hostOctets_of_text {a : Ipv4} (h : bareHost host = a.text) :
    hostOctets host = .ok (1 :: a.octets) := by
  have h4 := Ipv4.parse?_eq_some_iff.mpr h
  rw [bareHost] at h4
  unfold hostOctets
  dsimp only
  rw [h4]

/-- No text is an address of both versions, for only one of them has colons. -/
theorem hostOctets_of_spelling {a : Ipv6} (h : a.Spelling (bareHost host).toList) :
    hostOctets host = .ok (4 :: a.octets) := by
  have h4 : Ipv4.parse? (bareHost host) = none := by
    refine Option.eq_none_iff_forall_ne_some.mpr fun b hb => ?_
    have hcolon := h.colon_mem
    rw [Ipv4.parse?_eq_some_iff.mp hb] at hcolon
    exact b.colon_not_mem_text hcolon
  have h6 := Ipv6.parse?_eq_some_iff.mpr h
  rw [bareHost] at h4 h6
  unfold hostOctets
  dsimp only
  rw [h4, h6]

theorem hostOctets_of_name (h : ¬ IsAddress (bareHost host)) :
    hostOctets host =
      if maxText < (bytesOf host).length then .error .hostTooLong else .ok (3 :: counted host) := by
  have h4 : Ipv4.parse? (bareHost host) = none :=
    Option.eq_none_iff_forall_ne_some.mpr fun a ha => h (.inl ⟨a, Ipv4.parse?_eq_some_iff.mp ha⟩)
  have h6 : Ipv6.parse? (bareHost host) = none :=
    Option.eq_none_iff_forall_ne_some.mpr fun a ha => h (.inr ⟨a, Ipv6.parse?_eq_some_iff.mp ha⟩)
  rw [bareHost] at h4 h6
  unfold hostOctets
  dsimp only
  rw [h4, h6]

/-- There are no octets only for a name that is too long. -/
theorem hostOctets_eq_error_iff {e : Socks5Fault} : hostOctets host = .error e ↔
    e = .hostTooLong ∧ ¬ IsAddress (bareHost host) ∧ maxText < (bytesOf host).length := by
  by_cases ha : IsAddress (bareHost host)
  · have hok : ∃ o, hostOctets host = .ok o := by
      rcases ha with ⟨a, h⟩ | ⟨a, h⟩
      · exact ⟨_, hostOctets_of_text h⟩
      · exact ⟨_, hostOctets_of_spelling h⟩
    obtain ⟨o, ho⟩ := hok
    simp [ho, ha]
  · rw [hostOctets_of_name ha]
    split
    · rename_i hlong
      simp [ha, hlong, eq_comm]
    · rename_i hshort
      simp [hshort]

theorem request_of_hostOctets {o : Bytes} (h : hostOctets host = .ok o) (port : Port) :
    request host port = .ok ([version, 1, 0] ++ o ++ portOctets port) := by
  unfold request
  rw [h]

theorem opening_request {port : Port} {q : Bytes} (h : request host port = .ok q) : [5, 1, 0] <+: q := by
  unfold request at h
  split at h
  · rename_i o _
    cases h
    exact ⟨o ++ portOctets port, by simp [version]⟩
  · cases h

theorem request_eq_error_iff {e : Socks5Fault} (port : Port) :
    request host port = .error e ↔ hostOctets host = .error e := by
  unfold request
  cases hostOctets host <;> simp

theorem takeDestination_counted (hl : (bytesOf host).length ≤ maxText) (rest : Bytes) :
    takeDestination 3 (counted host ++ rest) = some (.name (bytesOf host), rest) := by
  have hthree : (3 : UInt8) ≠ 1 ∧ (3 : UInt8) ≠ 4 := by decide
  rw [takeDestination, if_neg hthree.1, if_neg hthree.2, if_pos rfl, takeCounted_counted rest hl]
  rfl

end Host

/-- What the request for a host and a port is to a server. -/
structure ReadsBack (host : String) (port : Port) : Prop where
  /-- There is none only for a name that is too long, by its bytes. -/
  refused : (∃ e, request host port = .error e) ↔
    ¬ IsAddress (bareHost host) ∧ 255 < (bytesOf host).length
  fault : ∀ e, request host port = .error e → e.failure = ⟨.connection, "Domain name too long"⟩
  opening : ∀ q, request host port = .ok q → [5, 1, 0] <+: q
  v4 : ∀ a : Ipv4, bareHost host = a.text →
    ∃ q, request host port = .ok q ∧ Reads q (.v4 [a.a, a.b, a.c, a.d]) port
  v6 : ∀ a : Ipv6, a.Spelling (bareHost host).toList →
    ∃ q octets, request host port = .ok q ∧ Reads q (.v6 octets) port ∧ octets.length = 16 ∧
      groupsOf octets = a.groups
  /-- A name is sent as it is, brackets included, after a length that did not wrap. -/
  name : ¬ IsAddress (bareHost host) → (bytesOf host).length ≤ 255 →
    ∃ q n, request host port = .ok q ∧ Reads q (.name (bytesOf host)) port ∧
      q = [5, 1, 0, 3, n] ++ bytesOf host ++ portOctets port ∧ n.toNat = (bytesOf host).length

/-- A request is read back as what was asked for. -/
theorem readsBack_request (host : String) (port : Port) : ReadsBack host port := by
  refine ⟨⟨?_, ?_⟩, ?_, fun q => opening_request, ?_, ?_, ?_⟩
  · rintro ⟨e, he⟩
    exact (hostOctets_eq_error_iff.mp ((request_eq_error_iff port).mp he)).2
  · intro h
    exact ⟨_, (request_eq_error_iff port).mpr (hostOctets_eq_error_iff.mpr ⟨rfl, h⟩)⟩
  · intro e he
    obtain ⟨rfl, -⟩ := hostOctets_eq_error_iff.mp ((request_eq_error_iff port).mp he)
    rfl
  · intro a ha
    refine ⟨_, request_of_hostOctets (hostOctets_of_text ha) port, ?_⟩
    refine reads_of_takeDestination port fun rest => ?_
    rw [takeDestination, if_pos rfl, take_append rest (show a.octets.length = 4 from rfl)]
    rfl
  · intro a ha
    refine ⟨_, a.octets, request_of_hostOctets (hostOctets_of_spelling ha) port, ?_, length_octets a,
      groupsOf_octets a⟩
    refine reads_of_takeDestination port fun rest => ?_
    have hfour : (4 : UInt8) ≠ 1 := by decide
    rw [takeDestination, if_neg hfour, if_pos rfl, take_append rest (length_octets a)]
    rfl
  · intro hn hl
    have hname : hostOctets host = .ok (3 :: counted host) := by
      rw [hostOctets_of_name hn]
      exact if_neg (Nat.not_lt.mpr hl)
    refine ⟨_, UInt8.ofNat (bytesOf host).length, request_of_hostOctets hname port, ?_, ?_, toNat_countByte hl⟩
    · exact reads_of_takeDestination port (takeDestination_counted hl)
    · simp [counted, version]

-- The brackets around an address are not sent, those around a name are.
example : request "[::1]" 80 = .ok ([5, 1, 0, 4] ++ List.replicate 15 0 ++ [1, 0, 80]) ∧
    request "[a]" 80 = .ok [5, 1, 0, 3, 3, 91, 97, 93, 0, 80] := by
  decide +kernel

end RouteCascade.Tunnel.Socks5
