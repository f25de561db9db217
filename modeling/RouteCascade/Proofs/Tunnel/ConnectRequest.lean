import RouteCascade.Proofs.Http.WrittenHead
import RouteCascade.Proofs.Net.HostPort
import RouteCascade.Proofs.Tunnel.Relaying
import RouteCascade.Tunnel.Connect

/-!
# The request for a tunnel

What asks for a tunnel and what serves such requests agree on where the request ends and on the target,
whatever brackets are around the host. All that follows the request belongs to the target, whatever it
looks like.
-/
namespace RouteCascade.Tunnel

open Text Net Http

namespace Connect

/-- A character that a host may have, such as a letter, a digit, a dot, a hyphen, an underscore, a colon or
a bracket: no blank and no control character of ASCII. -/
def isHostChar (c : Char) : Bool := 33 ≤ c.toNat && c.toNat != 127

/-- A character that credentials may have: no control character of ASCII other than a tab. -/
def isCredentialChar (c : Char) : Bool := c.toNat == 9 || (32 ≤ c.toNat && c.toNat != 127)

def requestFields (target : String) (authorization : Option String) : List Field :=
  [⟨bytesOf "Host", bytesOf target⟩, ⟨bytesOf "Proxy-Connection", bytesOf "keep-alive"⟩] ++
    (authorization.map fun a => ⟨bytesOf "Proxy-Authorization", bytesOf a⟩).toList

section Request
variable (host : String) (port : Port) (authorization : Option String)

/-- A request is a head of a few lines. -/
theorem bytesOf_request : bytesOf (request host port authorization) =
    headOf (requestLine (bytesOf "CONNECT") (hostPort host port) ::
      (requestFields (hostPort host port) authorization).map Field.line) := by
  have hmethod : bytesOf "CONNECT " = bytesOf "CONNECT" ++ [32] := by decide +kernel
  have hversion : bytesOf " HTTP/1.1" = 32 :: (versionStart ++ [49]) := by decide +kernel
  have hend : bytesOf lineEnd = [cr, lf] := by decide +kernel
  have hhost : bytesOf "Host: " = bytesOf "Host" ++ [58, 32] := by decide +kernel
  have hconnection : bytesOf "Proxy-Connection: keep-alive" =
      bytesOf "Proxy-Connection" ++ 58 :: 32 :: bytesOf "keep-alive" := by decide +kernel
  have hauthorization : bytesOf "Proxy-Authorization: " = bytesOf "Proxy-Authorization" ++ [58, 32] := by
    decide +kernel
  have hnone : bytesOf "" = [] := by decide +kernel
  generalize htarget : hostPort host port = target
  have htext : request host port authorization =
      "CONNECT " ++ target ++ " HTTP/1.1" ++ lineEnd ++ "Host: " ++ target ++ lineEnd ++
        "Proxy-Connection: keep-alive" ++ lineEnd ++
        (authorization.elim "" fun a => "Proxy-Authorization: " ++ a ++ lineEnd) ++ lineEnd := by
    rw [← htarget]
    cases authorization <;> rfl
  rw [htext]
  cases authorization with
  | none =>
      simp only [bytesOf_append, hmethod, hversion, hend, hhost, hconnection, hnone, requestFields,
        requestLine, headOf, Field.line, List.map_cons, List.map_nil, Option.map_none, Option.elim_none,
        Option.toList_none, List.flatMap_cons, List.flatMap_nil, List.append_assoc, List.cons_append,
        List.nil_append, List.append_nil]
  | some a =>
      simp only [bytesOf_append, hmethod, hversion, hend, hhost, hconnection, hauthorization, requestFields,
        requestLine, headOf, Field.line, List.map_cons, List.map_nil, Option.map_some, Option.elim_some,
        Option.toList_some, List.flatMap_cons, List.flatMap_nil, List.append_assoc, List.cons_append,
        List.nil_append, List.append_nil]

variable {host authorization}

theorem isTargetByte_iff {b : UInt8} : isTargetByte b ↔ 33 ≤ b.toNat ∧ b.toNat ≠ 127 := by
  simp [isTargetByte, UInt8.le_iff_toNat_le, ← UInt8.toNat_inj]

theorem isValueByte_iff {b : UInt8} :
    isValueByte b ↔ b.toNat = 9 ∨ 32 ≤ b.toNat ∧ b.toNat ≠ 127 := by
  simp [isValueByte, UInt8.le_iff_toNat_le, ← UInt8.toNat_inj]

theorem isTargetByte_of_isHostChar {s : String} (h : ∀ c ∈ s.toList, isHostChar c) :
    ∀ b ∈ bytesOf s, isTargetByte b := by
  refine forall_mem_bytesOf (fun b hb => ?_) fun c hc hlt => ?_
  · have hbeyond : 128 ≤ b.toNat := UInt8.le_iff_toNat_le.mp hb
    exact isTargetByte_iff.mpr ⟨by omega, by omega⟩
  · have hchar := h c hc
    simp only [isHostChar, Bool.and_eq_true, decide_eq_true_eq, bne_iff_ne] at hchar
    rw [isTargetByte_iff, UInt8.toNat_ofNat', Nat.mod_eq_of_lt (by omega)]
    exact hchar

theorem isValueByte_of_isCredentialChar {s : String} (h : ∀ c ∈ s.toList, isCredentialChar c) :
    ∀ b ∈ bytesOf s, isValueByte b := by
  refine forall_mem_bytesOf (fun b hb => ?_) fun c hc hlt => ?_
  · have hbeyond : 128 ≤ b.toNat := UInt8.le_iff_toNat_le.mp hb
    exact isValueByte_iff.mpr (.inr ⟨by omega, by omega⟩)
  · have hchar := h c hc
    simp only [isCredentialChar, Bool.or_eq_true, Bool.and_eq_true, decide_eq_true_eq, bne_iff_ne,
      beq_iff_eq] at hchar
    rw [isValueByte_iff, UInt8.toNat_ofNat', Nat.mod_eq_of_lt (by omega)]
    exact hchar

theorem isValueByte_of_isTargetByte {b : UInt8} (h : isTargetByte b) : isValueByte b := by
  have hb := isTargetByte_iff.mp h
  exact isValueByte_iff.mpr (.inr ⟨by omega, hb.2⟩)

/-- A host and a port as one text have no characters but those of the host, brackets, a colon and digits. -/
theorem mem_hostPort {c : Char} (h : c ∈ (hostPort host port).toList) : c ∈ host.toList ∨ isHostChar c := by
  have hdigits : ∀ c ∈ (toString port).toList, isHostChar c := by
    intro c hc
    rw [toList_toString_port] at hc
    have hdigit := isDigit_of_mem_toDigits hc
    simp only [Char.isDigit, Bool.and_eq_true, decide_eq_true_eq, UInt32.le_iff_toNat_le, ge_iff_le] at hdigit
    have hlow : 48 ≤ c.toNat := hdigit.1
    have hhigh : c.toNat ≤ 57 := hdigit.2
    simp only [isHostChar, Bool.and_eq_true, decide_eq_true_eq, bne_iff_ne]
    exact ⟨by omega, by omega⟩
  have hopen : ∀ c ∈ ("[" : String).toList, isHostChar c := List.all_eq_true.mp (by decide)
  have hclose : ∀ c ∈ ("]:" : String).toList, isHostChar c := List.all_eq_true.mp (by decide)
  have hcolon : ∀ c ∈ (":" : String).toList, isHostChar c := List.all_eq_true.mp (by decide)
  rw [hostPort] at h
  split at h
  · change c ∈ ("[" ++ host ++ "]:" ++ toString port).toList at h
    simp only [String.toList_append, List.mem_append] at h
    rcases h with ((h | h) | h) | h
    · exact .inr (hopen c h)
    · exact .inl h
    · exact .inr (hclose c h)
    · exact .inr (hdigits c h)
  · change c ∈ (host ++ ":" ++ toString port).toList at h
    simp only [String.toList_append, List.mem_append] at h
    rcases h with (h | h) | h
    · exact .inl h
    · exact .inr (hcolon c h)
    · exact .inr (hdigits c h)

theorem isHostChar_hostPort (h : ∀ c ∈ host.toList, isHostChar c) :
    ∀ c ∈ (hostPort host port).toList, isHostChar c := by
  intro c hc
  rcases mem_hostPort port hc with hhost | hchar
  · exact h c hhost
  · exact hchar

theorem writable_requestFields {target : String} (ht : ∀ b ∈ bytesOf target, isTargetByte b)
    (ha : ∀ a ∈ authorization, ∀ c ∈ a.toList, isCredentialChar c) :
    ∀ f ∈ requestFields target authorization, f.Writable := by
  have hhost : bytesOf "Host" ≠ [] ∧ ∀ b ∈ bytesOf "Host", isTokenByte b := by decide +kernel
  have hconnection : Field.Writable ⟨bytesOf "Proxy-Connection", bytesOf "keep-alive"⟩ :=
    ⟨by decide +kernel, by decide +kernel, by decide +kernel⟩
  have hauthorization : bytesOf "Proxy-Authorization" ≠ [] ∧
      ∀ b ∈ bytesOf "Proxy-Authorization", isTokenByte b := by decide +kernel
  intro f hf
  simp only [requestFields, List.mem_append, List.mem_cons, List.not_mem_nil, or_false, Option.mem_toList,
    Option.map_eq_some_iff] at hf
  rcases hf with (rfl | rfl) | ⟨a, h, rfl⟩
  · exact ⟨hhost.1, hhost.2, fun b hb => isValueByte_of_isTargetByte (ht b hb)⟩
  · exact hconnection
  · exact ⟨hauthorization.1, hauthorization.2, isValueByte_of_isCredentialChar (ha a h)⟩

theorem length_requestFields_le (target : String) (authorization : Option String) :
    (requestFields target authorization).length ≤ LocalProxy.maxFields := by
  cases authorization <;> exact Nat.le_of_ble_eq_true rfl

/-- The request ends where its head does, and it asks for the host without the brackets around it. -/
theorem asksFor_request (hh : ∀ c ∈ host.toList, isHostChar c) (hne : stripBrackets host.toList ≠ [])
    (ha : ∀ a ∈ authorization, ∀ c ∈ a.toList, isCredentialChar c) :
    FirstEnd (bytesOf (request host port authorization)) (bytesOf (request host port authorization)).length ∧
      ∃ h, RequestHead.parse LocalProxy.maxFields (bytesOf (request host port authorization)) = .done h [] ∧
        h.method = bytesOf "CONNECT" ∧
        parseHostPort h.target = .ok (String.ofList (stripBrackets host.toList), port) := by
  have ht := isTargetByte_of_isHostChar (isHostChar_hostPort port hh)
  have hmethod : ∀ b ∈ bytesOf "CONNECT", isTokenByte b := by decide +kernel
  have hfields := writable_requestFields ht ha
  have htarget : bytesOf (hostPort host port) ≠ [] := by
    intro hnil
    obtain ⟨x, hx, -⟩ := splitLast_hostPort host port
    rw [bytesOf_eq_nil_iff.mp hnil] at hx
    cases hx
  have hparse := parse_headOf (by decide +kernel) hmethod htarget ht hfields
    (length_requestFields_le (hostPort host port) authorization) []
  rw [List.append_nil, ← bytesOf_request] at hparse
  constructor
  · rw [bytesOf_request]
    exact firstEnd_request hmethod ht hfields
  · exact ⟨_, hparse, rfl, parseHostPort_hostPort hne port⟩

end Request

end Connect

namespace LocalProxy

section Relay
variable (along later : Bytes) (closes : Bool) (s : Stream)

theorem sent_relay : (relay later closes s).2.1.sent = (put later s).2.sent := by
  rw [relay]
  rcases put later s with ⟨_ | e, s'⟩
  · dsimp only
    split <;> rfl
  · rfl

/-- What came along with the head goes to the target before what came later. -/
theorem sent_serveOver : (serveOver along later closes s).2.1.sent = (put (along ++ later) s).2.sent := by
  rw [serveOver, put_append]
  rcases put along s with ⟨_ | e, s'⟩
  · exact sent_relay later closes s'
  · rfl

theorem sent_put_of_takes {bs : Bytes} (h : s.Takes bs.length) : (put bs s).2.sent = s.sent ++ bs := by
  rw [put_of_takes h, Stream.wrote_sent]

theorem sent_put (bs : Bytes) : ∃ w, w <+: bs ∧ (put bs s).2.sent = s.sent ++ w := by
  rcases s.takes_or_lt bs.length with h | ⟨r, hr, hlt⟩
  · exact ⟨bs, List.prefix_refl bs, sent_put_of_takes s h⟩
  · exact ⟨bs.take r, List.take_prefix r bs, by rw [put_of_lt hr hlt, Stream.wrote_sent]⟩

end Relay

section Serve
variable (dial : String → Port → Except (Halt Failure) Stream)

/-- A request for a tunnel to a host and port was understood by who serves a client that sent it in pieces,
with more bytes after it. -/
structure Understands (request payload : Bytes) (host : String) (port : Port) (client : Client) :
    Prop where
  /-- The head that is read is the request, and the bytes after it are left. -/
  head : ∃ along later, readHead [] client.pieces = .head request along later ∧
    along ++ later.flatten = payload
  target : ∃ h, RequestHead.parse maxFields request = .done h [] ∧ h.method = bytesOf "CONNECT" ∧
    parseHostPort h.target = .ok (host, port)
  dialed : (serve dial client).dialed = [(host, port)]
  /-- The target gets the bytes after the request, as many of them as it takes. -/
  relayed : ∀ s, dial host port = .ok s → ∃ s', (serve dial client).outgoing = some s' ∧
    (∃ w, w <+: payload ∧ s'.sent = s.sent ++ w) ∧
    (s.Takes payload.length → s'.sent = s.sent ++ payload)

theorem understands_of_head {request payload : Bytes} {host : String} {port : Port} {client : Client}
    (hpieces : client.pieces.flatten = request ++ payload) (hend : FirstEnd request request.length)
    (hfits : request.length ≤ maxHead)
    (htarget : ∃ h, RequestHead.parse maxFields request = .done h [] ∧ h.method = bytesOf "CONNECT" ∧
      parseHostPort h.target = .ok (host, port)) :
    Understands dial request payload host port client := by
  have hfirst : FirstEnd client.pieces.flatten request.length := by
    rw [hpieces]
    exact hend.append payload
  obtain ⟨along, later, hrest, hread⟩ := readHead_of_firstEnd hfirst hfits
  rw [hpieces, List.drop_left] at hrest
  rw [hpieces, List.take_left] at hread
  have hasks : LocalProxy.target request = .ok (host, port) := by
    obtain ⟨h, hparse, hmethod, hhost⟩ := htarget
    exact target_eq_ok_iff.mpr ⟨h, [], hparse, hmethod, hhost⟩
  refine ⟨⟨along, later, hread, hrest⟩, htarget, ?_, fun s hs => ?_⟩
  · simp only [serve, hread, hasks]
    rcases dial host port with (e | _) | s <;> rfl
  · simp only [serve, hread, hasks, hs]
    refine ⟨_, rfl, ?_⟩
    rw [sent_serveOver, hrest]
    exact ⟨sent_put s payload, sent_put_of_takes s⟩

end Serve

/-- Whoever serves a request for a tunnel reads the head that was written, dials the host that was meant
without brackets around it, and relays all that follows. -/
theorem understands_request (dial : String → Port → Except (Halt Failure) Stream) {host : String}
    {authorization : Option String} (port : Port) (payload : Bytes) {client : Client}
    (hh : ∀ c ∈ host.toList, Connect.isHostChar c) (hne : stripBrackets host.toList ≠ [])
    (ha : ∀ a ∈ authorization, ∀ c ∈ a.toList, Connect.isCredentialChar c)
    (hfits : (bytesOf (Connect.request host port authorization)).length ≤ maxHead)
    (hpieces : client.pieces.flatten = bytesOf (Connect.request host port authorization) ++ payload) :
    Understands dial (bytesOf (Connect.request host port authorization)) payload
      (String.ofList (stripBrackets host.toList)) port client := by
  obtain ⟨hend, htarget⟩ := Connect.asksFor_request port hh hne ha
  exact understands_of_head dial hpieces hend hfits htarget

/-- Brackets that do not match, a password, and bytes after the request that look like the end of a head. -/
theorem understands_brackets :
    let request := Connect.request "[2001:db8::1]]" 443 (some "Basic dTpw")
    let payload := [22, 13, 10, 13, 10, 3]
    let client : Client := ⟨[(bytesOf request).take 7, (bytesOf request).drop 7 ++ payload], false⟩
    (serve (fun _ _ => .ok { }) client).dialed = [("2001:db8::1", 443)] ∧
      Understands (fun _ _ => .ok { }) (bytesOf request) payload
        (String.ofList (stripBrackets "[2001:db8::1]]".toList)) 443 client :=
  ⟨by decide +kernel, understands_request _ 443 _ (List.all_eq_true.mp (by decide +kernel))
    (by decide +kernel) (fun _ ha => Option.some.inj ha ▸ List.all_eq_true.mp (by decide +kernel))
    (by decide +kernel) (by decide +kernel)⟩

end LocalProxy

end RouteCascade.Tunnel
