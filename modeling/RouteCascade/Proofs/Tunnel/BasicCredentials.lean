import RouteCascade.Proofs.Text.Base64
import RouteCascade.Proofs.Tunnel.ConnectReply
import RouteCascade.Proofs.Tunnel.ConnectRequest
import RouteCascade.Proofs.Tunnel.Discretion

/-!
# Credentials for an HTTP proxy

A user name and a password go into one line of the request for a tunnel, if both are known. Whoever reads
that line gets them back, unless there is a colon in the user name, and whatever is in them, it is one line:
the request ends where it would end without them.
-/
namespace RouteCascade.Text

/-- Without the separator in front of it, the first place where it stands is found. -/
theorem splitFirst_append {sep : Char} {a : List Char} (ha : sep ∉ a) (b : List Char) :
    splitFirst sep (a ++ sep :: b) = some (a, b) := by
  induction a with
  | nil => rw [List.nil_append, splitFirst, if_pos rfl]
  | cons c a ih =>
      rw [List.mem_cons, not_or] at ha
      rw [List.cons_append, splitFirst, if_neg (Ne.symm ha.1), ih ha.2]

end RouteCascade.Text

namespace RouteCascade.Http

open Text

/-- The lines between the line ends: always at least one. -/
def linesOf : Bytes → List Bytes
  | [] => [[]]
  | [b] => [[b]]
  | b :: c :: rest =>
    if b = cr ∧ c = lf then [] :: linesOf rest else (linesOf (c :: rest)).modifyHead (b :: ·)

theorem linesOf_ne_nil (d : Bytes) : linesOf d ≠ [] := by
  fun_induction linesOf d with
  | case1 | case2 | case3 => exact List.cons_ne_nil _ _
  | case4 b c rest _ ih => exact fun h => ih (List.modifyHead_eq_nil_iff.mp h)

/-- A line end parts what is in front of it from what follows. -/
theorem linesOf_append (xs ys : Bytes) : linesOf (xs ++ cr :: lf :: ys) = linesOf xs ++ linesOf ys := by
  fun_induction linesOf xs with
  | case1 => rfl
  | case2 b =>
      have hb : ¬ (b = cr ∧ cr = lf) := fun h => absurd h.2 (by decide)
      rw [List.singleton_append, linesOf, if_neg hb]
      rfl
  | case3 b c rest h ih =>
      rw [List.cons_append, List.cons_append, linesOf, if_pos h, ih, List.cons_append]
  | case4 b c rest h ih =>
      obtain ⟨line, lines, hlines⟩ := List.exists_cons_of_ne_nil (linesOf_ne_nil (c :: rest))
      rw [List.cons_append, List.cons_append, linesOf, if_neg h, ← List.cons_append, ih, hlines]
      rfl

theorem linesOf_of_not_mem {line : Bytes} (h : cr ∉ line) : linesOf line = [line] := by
  fun_induction linesOf line with
  | case1 | case2 => rfl
  | case3 b c rest hb => exact absurd (hb.1 ▸ List.mem_cons_self) h
  | case4 b c rest _ ih =>
      rw [ih fun hc => h (List.mem_cons_of_mem b hc)]
      rfl

theorem linesOf_headOf (lines : List Bytes) : linesOf (headOf lines) = lines.flatMap linesOf ++ [[], []] := by
  induction lines with
  | nil => rfl
  | cons line lines ih => rw [headOf_cons, linesOf_append, ih, List.flatMap_cons, List.append_assoc]

/-- The lines of a head are those that it was written with. -/
theorem linesOf_headOf_of_not_mem {lines : List Bytes} (h : ∀ line ∈ lines, cr ∉ line) :
    linesOf (headOf lines) = lines ++ [[], []] := by
  rw [linesOf_headOf]
  congr 1
  induction lines with
  | nil => rfl
  | cons line lines ih =>
      rw [List.forall_mem_cons] at h
      rw [List.flatMap_cons, linesOf_of_not_mem h.1, ih h.2, List.singleton_append]

end RouteCascade.Http

namespace RouteCascade.Tunnel

open Text Net Http

/-- The user name and the password in the value of a field, as a proxy reads them: what is in front of the
first colon is the user name. -/
def readBasic (value : Bytes) : Option Credentials := do
  let digits ← (bytesOf "Basic ").isPrefixOf? value
  let bytes ← (Base64.decode digits).toOption
  let text ← ofBytes? bytes
  let (name, word) ← splitFirst ':' text.toList
  pure ⟨String.ofList name, String.ofList word⟩

namespace Gateway
variable (c : Credentials)

theorem bytesOf_basicAuthorization : bytesOf (basicAuthorization c) =
    bytesOf "Basic " ++ Base64.encode (bytesOf (c.username ++ ":" ++ c.password)) := by
  rw [basicAuthorization, bytesOf_append]
  congr 1
  exact bytesOf_asciiText Base64.lt_of_mem_encode

theorem bytesOf_joined :
    bytesOf (c.username ++ ":" ++ c.password) = bytesOf c.username ++ 58 :: bytesOf c.password := by
  have hcolon : bytesOf ":" = [58] := by decide +kernel
  rw [bytesOf_append, bytesOf_append, hcolon, List.append_assoc, List.singleton_append]

/-- Whatever is in the user name and the password, there is no line end in the value. -/
theorem no_lineEnd_basicAuthorization {b : UInt8} (h : b ∈ bytesOf (basicAuthorization c)) :
    b ≠ cr ∧ b ≠ lf := by
  have hscheme : ∀ b ∈ bytesOf "Basic ", b ≠ cr ∧ b ≠ lf := by decide +kernel
  have hsymbol : ∀ v : Fin 64, Base64.symbol v ≠ cr ∧ Base64.symbol v ≠ lf := by decide
  rw [bytesOf_basicAuthorization, List.mem_append] at h
  rcases h with h | h
  · exact hscheme b h
  · rcases Base64.mem_encode h with rfl | ⟨v, hv, rfl⟩
    · decide
    · exact hsymbol ⟨v, hv⟩

/-- They are read back if there is no colon in the user name, and only then. -/
theorem readBasic_basicAuthorization :
    readBasic (bytesOf (basicAuthorization c)) = some c ↔ ':' ∉ c.username.toList := by
  have hscheme (rest : Bytes) : (bytesOf "Basic ").isPrefixOf? (bytesOf "Basic " ++ rest) = some rest :=
    List.isPrefixOf?_eq_some_iff_append_eq.mpr rfl
  have hread : readBasic (bytesOf (basicAuthorization c)) =
      (splitFirst ':' (c.username.toList ++ ':' :: c.password.toList)).map fun x =>
        ⟨String.ofList x.1, String.ofList x.2⟩ := by
    have htext : (c.username ++ ":" ++ c.password).toList =
        c.username.toList ++ ':' :: c.password.toList := by
      rw [String.toList_append, String.toList_append, List.append_assoc]
      rfl
    rw [readBasic, bytesOf_basicAuthorization, hscheme]
    simp only [Option.bind_eq_bind, Option.bind_some, Base64.decode_encode, Except.toOption,
      ofBytes?_bytesOf, htext]
    cases splitFirst ':' (c.username.toList ++ ':' :: c.password.toList) <;> rfl
  rw [hread]
  constructor
  · intro h
    obtain ⟨⟨name, word⟩, hsplit, hc⟩ := Option.map_eq_some_iff.mp h
    have hname : String.ofList name = c.username := congrArg Credentials.username hc
    rw [← hname, String.toList_ofList]
    exact (splitFirst_eq_some hsplit).2
  · intro h
    rw [splitFirst_append h, Option.map_some, String.ofList_toList, String.ofList_toList]

def connectRequest (g : Gateway) (host : String) (port : Port) : Bytes :=
  bytesOf (Connect.request host port (g.credentials.map basicAuthorization))

def connectFields (g : Gateway) (host : String) (port : Port) : List Field :=
  Connect.requestFields (hostPort host port) (g.credentials.map basicAuthorization)

end Gateway

namespace Connect
variable {host : String} {port : Port} {authorization : Option String} {s : Stream}

/-- Of a request, a beginning is sent, and if there is room for it, all of it. -/
theorem sent_connect : ∃ w, w <+: bytesOf (request host port authorization) ∧
    ((connect host port authorization).runOn s).2.sent = s.sent ++ w ∧
    (s.Takes (bytesOf (request host port authorization)).length →
      w = bytesOf (request host port authorization)) := by
  rcases s.delivers_or (bytesOf (request host port authorization)).length with
    hd | ⟨r, hr, hlt⟩ | ⟨ht, e, he⟩
  · exact ⟨_, List.prefix_refl _, sent_connect_of_delivers hd, fun _ => rfl⟩
  · refine ⟨_, List.take_prefix r _, by rw [runOn_connect_of_lt hr hlt, Stream.wrote_sent], fun ht => ?_⟩
    exact absurd (ht r hr) (Nat.not_le.mpr hlt)
  · exact ⟨_, List.prefix_refl _, by rw [runOn_connect_of_takes ht he, Stream.wrote_sent], fun _ => rfl⟩

theorem mem_requestFields {target : String} {v : Bytes} :
    ⟨bytesOf "Proxy-Authorization", v⟩ ∈ requestFields target authorization ↔
      ∃ a, authorization = some a ∧ v = bytesOf a := by
  have hhost : bytesOf "Proxy-Authorization" ≠ bytesOf "Host" := by decide +kernel
  have hconnection : bytesOf "Proxy-Authorization" ≠ bytesOf "Proxy-Connection" := by decide +kernel
  cases authorization <;> simp [requestFields, hhost, hconnection]

theorem not_mem_hostPort (hhost : '\r' ∉ host.toList) : cr ∉ bytesOf (hostPort host port) := by
  have hcr : cr ∈ bytesOf (hostPort host port) ↔ '\r' ∈ (hostPort host port).toList :=
    mem_bytesOf_iff (a := '\r') (by decide)
  rw [hcr]
  intro hc
  rcases mem_hostPort port hc with h | h
  · exact hhost h
  · exact absurd h (by decide)

theorem authorizationLine_ne {v : Bytes} (hv : cr ∉ v) :
    Field.line ⟨bytesOf "Proxy-Authorization", v⟩ ≠ [] ∧
      cr ∉ Field.line ⟨bytesOf "Proxy-Authorization", v⟩ := by
  have hname : bytesOf "Proxy-Authorization" ≠ [] ∧ cr ∉ bytesOf "Proxy-Authorization" := by decide +kernel
  exact Field.line_ne hname.1 hname.2 hv

/-- The lines of the request and of its fields, if there is no carriage return in the host. -/
theorem line_ne_of_mem (hhost : '\r' ∉ host.toList) (ha : ∀ a ∈ authorization, cr ∉ bytesOf a) :
    ∀ line ∈ requestLine (bytesOf "CONNECT") (hostPort host port) ::
      (requestFields (hostPort host port) authorization).map Field.line, line ≠ [] ∧ cr ∉ line := by
  have hmethod : cr ∉ bytesOf "CONNECT" := by decide +kernel
  have hhostName : bytesOf "Host" ≠ [] ∧ cr ∉ bytesOf "Host" := by decide +kernel
  have hconnection : bytesOf "Proxy-Connection" ≠ [] ∧ cr ∉ bytesOf "Proxy-Connection" := by decide +kernel
  have hkeep : cr ∉ bytesOf "keep-alive" := by decide +kernel
  have htarget : cr ∉ bytesOf (hostPort host port) := not_mem_hostPort hhost
  refine List.forall_mem_cons.mpr ⟨requestLine_ne hmethod htarget, fun l hl => ?_⟩
  obtain ⟨f, hf, rfl⟩ := List.mem_map.mp hl
  simp only [requestFields, List.mem_append, List.mem_cons, List.not_mem_nil, or_false, Option.mem_toList,
    Option.map_eq_some_iff] at hf
  rcases hf with (rfl | rfl) | ⟨a, h, rfl⟩
  · exact Field.line_ne hhostName.1 hhostName.2 htarget
  · exact Field.line_ne hconnection.1 hconnection.2 hkeep
  · exact authorizationLine_ne (ha a h)

/-- A value without a carriage return makes one more line. -/
theorem length_linesOf_request_some {a : String} (ha : cr ∉ bytesOf a) :
    (linesOf (bytesOf (request host port (some a)))).length =
      (linesOf (bytesOf (request host port none))).length + 1 := by
  have hline : linesOf (Field.line ⟨bytesOf "Proxy-Authorization", bytesOf a⟩) =
      [Field.line ⟨bytesOf "Proxy-Authorization", bytesOf a⟩] :=
    linesOf_of_not_mem (authorizationLine_ne ha).2
  have hfields (target : String) : requestFields target (some a) =
      requestFields target none ++ [⟨bytesOf "Proxy-Authorization", bytesOf a⟩] := rfl
  rw [bytesOf_request, bytesOf_request, hfields, linesOf_headOf, linesOf_headOf, List.map_append,
    ← List.cons_append, List.flatMap_append, List.map_singleton, List.flatMap_singleton, hline]
  simp only [List.length_append, List.length_cons, List.length_nil]

end Connect

namespace Gateway
open Connect

/-- What a client tells an HTTP gateway of a user name and a password. -/
structure Authenticates (g : Gateway) (host : String) (port : Port) : Prop where
  /-- One request is sent, as much of it as there is room for. -/
  sent : ∀ s : Stream, ∃ s' w, (g.dial (.ok s) host port).2 = some s' ∧ s'.sent = s.sent ++ w ∧
    w <+: g.connectRequest host port ∧
    (s.Takes (g.connectRequest host port).length → w = g.connectRequest host port)
  written : g.connectRequest host port = headOf
    (requestLine (bytesOf "CONNECT") (hostPort host port) :: (g.connectFields host port).map Field.line)
  /-- There is a field for them if and only if both are known. -/
  carried : (∃ v, ⟨bytesOf "Proxy-Authorization", v⟩ ∈ g.connectFields host port) ↔
    g.username.isSome ∧ g.password.isSome
  /-- Its value is read as the two with a colon between them. -/
  decoded : ∀ u w v, g.username = some u → g.password = some w →
    ⟨bytesOf "Proxy-Authorization", v⟩ ∈ g.connectFields host port →
    (∃ digits, v = bytesOf "Basic " ++ digits ∧
      Base64.decode digits = .ok (bytesOf u ++ 58 :: bytesOf w)) ∧
    (readBasic v = some ⟨u, w⟩ ↔ ':' ∉ u.toList)
  /-- Whatever they are, they make one more line, with no line end of any sort in its value. -/
  lines : (linesOf (g.connectRequest host port)).length =
    (linesOf (bytesOf (request host port none))).length +
      if g.username.isSome ∧ g.password.isSome then 1 else 0
  inert : ∀ v, ⟨bytesOf "Proxy-Authorization", v⟩ ∈ g.connectFields host port → cr ∉ v ∧ lf ∉ v
  /-- The lines of a request for a host without line ends are those of its fields, and no head ends before
  its own end. -/
  ends : '\r' ∉ host.toList →
    FirstEnd (g.connectRequest host port) (g.connectRequest host port).length ∧
      linesOf (g.connectRequest host port) =
        requestLine (bytesOf "CONNECT") (hostPort host port) ::
          (g.connectFields host port).map Field.line ++ [[], []]

section
variable {g : Gateway} {host : String} {port : Port}

theorem not_mem_authorization : ∀ a ∈ g.credentials.map basicAuthorization, cr ∉ bytesOf a := by
  intro a ha
  obtain ⟨c, -, rfl⟩ := Option.map_eq_some_iff.mp ha
  exact fun hcr => (no_lineEnd_basicAuthorization c hcr).1 rfl

theorem mem_connectFields {v : Bytes} :
    ⟨bytesOf "Proxy-Authorization", v⟩ ∈ g.connectFields host port ↔
      ∃ c, g.credentials = some c ∧ v = bytesOf (basicAuthorization c) := by
  rw [connectFields, mem_requestFields]
  constructor
  · rintro ⟨a, ha, rfl⟩
    obtain ⟨c, hc, rfl⟩ := Option.map_eq_some_iff.mp ha
    exact ⟨c, hc, rfl⟩
  · rintro ⟨c, hc, rfl⟩
    exact ⟨_, Option.map_eq_some_iff.mpr ⟨c, hc, rfl⟩, rfl⟩

theorem exists_mem_connectFields_iff :
    (∃ v, ⟨bytesOf "Proxy-Authorization", v⟩ ∈ g.connectFields host port) ↔ g.credentials.isSome := by
  rw [Option.isSome_iff_exists]
  simp only [mem_connectFields]
  constructor
  · rintro ⟨v, c, hc, -⟩
    exact ⟨c, hc⟩
  · rintro ⟨c, hc⟩
    exact ⟨_, c, hc, rfl⟩

theorem sent_dial_of_http (hg : g.kind = .http) (s : Stream) :
    ∃ s' w, (g.dial (.ok s) host port).2 = some s' ∧ s'.sent = s.sent ++ w ∧
      w <+: g.connectRequest host port ∧
      (s.Takes (g.connectRequest host port).length → w = g.connectRequest host port) := by
  obtain ⟨w, hw, hsent, hall⟩ := @sent_connect host port (g.credentials.map basicAuthorization) s
  refine ⟨((g.talk host port).runOn s).2, w, rfl, ?_, hw, hall⟩
  rw [talk, hg]
  simp only [Talk.runOn_mapFault]
  exact hsent

end

/-- A client of an HTTP gateway tells a user name and a password as one line that is read back. -/
theorem authenticates_dial (g : Gateway) (hg : g.kind = .http) (host : String) (port : Port) :
    Authenticates g host port := by
  refine ⟨sent_dial_of_http hg, bytesOf_request _ _ _, ?_, ?_, ?_, ?_, fun hhost => ?_⟩
  · rw [exists_mem_connectFields_iff]
    exact g.isSome_credentials
  · intro u w v hu hw hv
    obtain ⟨c, hc, rfl⟩ := mem_connectFields.mp hv
    obtain rfl : c = ⟨u, w⟩ := by
      rw [credentials, hu, hw] at hc
      exact (Option.some.inj hc).symm
    refine ⟨⟨_, bytesOf_basicAuthorization _, ?_⟩, readBasic_basicAuthorization _⟩
    rw [Base64.decode_encode, bytesOf_joined]
  · rw [if_congr g.isSome_credentials.symm rfl rfl, connectRequest]
    cases hc : g.credentials with
    | none => rfl
    | some c => exact length_linesOf_request_some fun hcr => (no_lineEnd_basicAuthorization c hcr).1 rfl
  · intro v hv
    obtain ⟨c, -, rfl⟩ := mem_connectFields.mp hv
    exact ⟨fun h => (no_lineEnd_basicAuthorization c h).1 rfl,
      fun h => (no_lineEnd_basicAuthorization c h).2 rfl⟩
  · have hlines := @line_ne_of_mem _ port _ hhost g.not_mem_authorization
    rw [connectRequest, bytesOf_request]
    exact ⟨firstEnd_headOf _ _ hlines, linesOf_headOf_of_not_mem fun l hl => (hlines l hl).2⟩

/-- A password with the end of a head in it, and a field of its own after that. -/
theorem authenticates_lineEnds :
    let g : Gateway := ⟨.http, "gateway.example", 8080, some "user", some "a:b\r\n\r\nHost: c"⟩
    g.kind = .http ∧ Authenticates g "example.com" 443 ∧
      FirstEnd (g.connectRequest "example.com" 443) (g.connectRequest "example.com" 443).length ∧
      (g.connectFields "example.com" 443).filterMap (fun f => readBasic f.value) =
        [⟨"user", "a:b\r\n\r\nHost: c"⟩] :=
  have h := authenticates_dial
    ⟨.http, "gateway.example", 8080, some "user", some "a:b\r\n\r\nHost: c"⟩ rfl "example.com" 443
  ⟨rfl, h, (h.ends (by decide)).1, by decide +kernel⟩

end Gateway

end RouteCascade.Tunnel
