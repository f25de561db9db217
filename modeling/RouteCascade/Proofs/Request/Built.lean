import RouteCascade.Proofs.Http.GroupedFields
import RouteCascade.Proofs.Http.PathTarget
import RouteCascade.Request.Attempt

/-!
# Built requests

A request says what its parameters say: the method goes by whether there is a body, the target is the path up
to a fragment mark, and behind the fields that every request has come those of the caller, name by name in
their order. What could end a word or a line early makes no request, and nothing is sent for it.

That there is room for a limited number of names is the only other reason for which a well-formed field is
refused.
-/
namespace RouteCascade

open Text Net Http

namespace RequestParameters

section Adding
variable {given : List Field} {m : FieldMap}

/-- A field is added behind those of its name, or it is refused for its texts or for want of room. -/
theorem addField_cases (m : FieldMap) (f : String × String) :
    (MakesField f ∧ addField m f = .ok (m.append (fieldOf f).name (fieldOf f).value)) ∨
      ((¬ MakesField f ∨ FieldMap.maxNames ≤ m.length) ∧ ∃ e, addField m f = .error e) := by
  unfold addField
  cases hname : fieldName? f.1 with
  | none =>
      refine .inr ⟨.inl fun h => ?_, _, rfl⟩
      exact Option.some_ne_none _ ((fieldName?_eq_some_iff.mpr ⟨h.token, h.short, rfl⟩).symm.trans hname)
  | some name =>
      obtain ⟨htoken, hshort, rfl⟩ := fieldName?_eq_some_iff.mp hname
      cases hvalue : fieldValue? f.2 with
      | none =>
          refine .inr ⟨.inl fun h => ?_, _, rfl⟩
          exact Option.some_ne_none _ ((fieldValue?_eq_some_iff.mpr ⟨h.value, rfl⟩).symm.trans hvalue)
      | some value =>
          obtain ⟨hbytes, rfl⟩ := fieldValue?_eq_some_iff.mp hvalue
          dsimp only
          split
          · rename_i hfull
            exact .inr ⟨.inr hfull, _, rfl⟩
          · exact .inl ⟨⟨htoken, hshort, hbytes⟩, rfl⟩

/-- All fields are added in their order, or one of them is refused. -/
theorem foldlM_addField_cases (h : FieldMap.Groups given m) (fs : List (String × String)) :
    (∃ m', fs.foldlM addField m = .ok m' ∧ FieldMap.Groups (given ++ fs.map fieldOf) m' ∧ ∀ f ∈ fs, MakesField f) ∨
      ((∃ f ∈ fs, ¬ MakesField f) ∨ FieldMap.maxNames < m.length + fs.length) ∧
        ∃ e, fs.foldlM addField m = .error e := by
  induction fs generalizing given m with
  | nil => exact .inl ⟨m, rfl, by rwa [List.map_nil, List.append_nil], nofun⟩
  | cons f fs ih =>
      rw [List.foldlM_cons]
      obtain ⟨hfield, hadd⟩ | ⟨hwhy, e, hadd⟩ := addField_cases m f
      · obtain ⟨m', hrun, hgroups, hall⟩ | ⟨hwhy, e, hrun⟩ := ih (h.append (fieldOf f))
        · refine .inl ⟨m', by rw [hadd]; exact hrun, ?_, List.forall_mem_cons.mpr ⟨hfield, hall⟩⟩
          rwa [List.map_cons, ← List.singleton_append, ← List.append_assoc]
        · refine .inr ⟨hwhy.imp ?_ ?_, e, by rw [hadd]; exact hrun⟩
          · rintro ⟨g, hg, hnot⟩
            exact ⟨g, List.mem_cons_of_mem f hg, hnot⟩
          · intro hfull
            have hgrown := FieldMap.length_append_le m (fieldOf f).name (fieldOf f).value
            rw [List.length_cons]
            omega
      · refine .inr ⟨hwhy.imp ?_ ?_, e, by rw [hadd]; rfl⟩
        · exact fun hnot => ⟨f, List.mem_cons_self, hnot⟩
        · intro hfull
          rw [List.length_cons]
          omega

end Adding

end RequestParameters

/-- An attempt failed, and nothing was sent over a secure connection. -/
structure Attempted.Unsent (a : Attempted) : Prop where
  request : a.request = none
  result : ∃ f, a.result = .error f

namespace PinnedClient

section Unsent
variable {tls : Tls.Method} {session : Session} {port : Port} {p : RequestParameters} {e : BuildFault}

theorem unsent_failed (f : AttemptFault) : (failed f).Unsent := ⟨rfl, f, rfl⟩

theorem exchange_of_build (h : p.build session port = .error e) (s : Tls.Server) :
    exchange session port p s = failed (.build e) := by
  rw [exchange, h]

theorem unsent_secure (h : p.build session port = .error e) (unread : Bytes) (peer : Tls.Peer) :
    (secure tls session port p unread peer).Unsent := by
  unfold secure
  split
  · exact unsent_failed _
  · split
    · exact unsent_failed _
    · exact unsent_failed _
    · rw [exchange_of_build h]
      exact unsent_failed _

/-- What cannot be built is not sent, whoever is met, on either way. -/
theorem unsent_attemptBy (h : p.build session port = .error e) (c : PinnedClient) (via : Bool) (m : Meeting) :
    (attemptBy tls c session port p via m).Unsent := by
  unfold attemptBy
  split
  · split
    · exact unsent_failed _
    · rename_i proxy behind hm
      unfold throughProxy
      rcases (Tunnel.connect session.address port none).runOn proxy with ⟨(e | _) | _, s⟩
      · exact ⟨rfl, _, rfl⟩
      · exact ⟨rfl, _, rfl⟩
      · have hsecure : (secure tls session port p s.incoming behind).Unsent := unsent_secure h _ _
        exact ⟨hsecure.request, hsecure.result⟩
  · split
    · exact unsent_failed _
    · exact unsent_secure h [] _

end Unsent

end PinnedClient

namespace RequestParameters

def generated (session : Session) (port : Port) : List Field :=
  [⟨bytesOf "host", bytesOf (hostPort session.address port)⟩,
    ⟨bytesOf "user-agent", bytesOf "tunnel-fallback/0.3.0"⟩, ⟨bytesOf "connection", bytesOf "close"⟩]

/-- Something in the parameters could end a word or a line of the request early, or a field name. -/
inductive Injects (p : RequestParameters) : Prop
  | name {f : String × String} : f ∈ p.headers → ¬ IsToken f.1 → p.Injects
  | value {f : String × String} {c : Char} : f ∈ p.headers → c ∈ f.2.toList →
      c = '\r' ∨ c = '\n' ∨ c = '\x00' → p.Injects
  | path {c : Char} : c ∈ p.path.toList.takeWhile (· != '#') → c = '\r' ∨ c = '\n' ∨ c = ' ' → p.Injects

/-- A request says what its parameters say, and nothing else. -/
structure Reflects (session : Session) (port : Port) (p : RequestParameters) (r : Request) : Prop where
  /-- Any body makes it a `POST`, even an empty one. -/
  post : ∀ b, p.body = some b → r.method = .post ∧ r.body = b
  get : p.body = none → r.method = .get ∧ r.body = []
  target : r.target.text = String.ofList (p.path.toList.takeWhile (· != '#'))
  /-- Of each name, the fields of the caller come behind the one that every request has, in their order. -/
  fields : ∀ name, fieldsNamed name r.fields.toFields =
    fieldsNamed name (generated session port) ++ fieldsNamed name (p.headers.map fieldOf)
  /-- Nothing in it ends a word or a line early. -/
  word : ∀ b ∈ bytesOf r.target.text, 32 < b
  writable : ∀ f ∈ r.fields.toFields, f.Writable

/-- Why there is no request: the target, a field, or more fields than there is room for names. -/
inductive Unbuildable (session : Session) (port : Port) (p : RequestParameters) : Prop
  | target {e : UriFault} : Uri.parse p.path = .error e → Unbuildable session port p
  | field {f : String × String} : f ∈ ownFields session port ++ p.headers → ¬ MakesField f →
      Unbuildable session port p
  | room : FieldMap.maxNames < (ownFields session port ++ p.headers).length → Unbuildable session port p

/-- What parameters come to: a request that says the same, or a failure before anything is sent. -/
structure Faithful (session : Session) (port : Port) (p : RequestParameters) : Prop where
  builds : ∀ r, p.build session port = .ok r → Reflects session port p r
  /-- A failure to build a request is one of the request, it has its reason, and it leaves the connection
  untouched, whichever way that was made. -/
  fails : ∀ e, p.build session port = .error e →
    (AttemptFault.build e).failure.kind = .request ∧ Unbuildable session port p ∧
      (∀ s, PinnedClient.exchange session port p s = PinnedClient.failed (.build e)) ∧
      ∀ tls c via m, (PinnedClient.attemptBy tls c session port p via m).Unsent
  refuses : p.Injects → ∃ e, p.build session port = .error e

section Building
variable {session : Session} {port : Port} {p : RequestParameters} {r : Request} {e : BuildFault}

theorem map_fieldOf_ownFields (session : Session) (port : Port) :
    (ownFields session port).map fieldOf = generated session port := by
  have hhost : (bytesOf "host").map lowerByte = bytesOf "host" := by decide +kernel
  have hagent : (bytesOf "user-agent").map lowerByte = bytesOf "user-agent" := by decide +kernel
  have hconnection : (bytesOf "connection").map lowerByte = bytesOf "connection" := by decide +kernel
  simp only [ownFields, userAgent, generated, fieldOf, List.map_cons, List.map_nil, hhost, hagent, hconnection]

/-- A request has the target and the fields that were read, or one of these is the reason why there is none. -/
theorem build_cases (session : Session) (port : Port) (p : RequestParameters) :
    (∃ target fields, p.build session port = .ok ⟨p.method, target, fields, p.body.getD []⟩ ∧
      Uri.parse p.path = .ok target ∧
      FieldMap.Groups ((ownFields session port ++ p.headers).map fieldOf) fields ∧
      ∀ f ∈ ownFields session port ++ p.headers, MakesField f) ∨
      Unbuildable session port p ∧ ∃ e, p.build session port = .error e := by
  unfold build
  cases htarget : Uri.parse p.path with
  | error e => exact .inr ⟨.target htarget, _, rfl⟩
  | ok target =>
      obtain ⟨fields, hrun, hgroups, hall⟩ | ⟨hwhy, e, hrun⟩ :=
        foldlM_addField_cases FieldMap.groups_nil (ownFields session port ++ p.headers)
      · refine .inl ⟨target, fields, ?_, rfl, hgroups, hall⟩
        simp only [hrun]
      · refine .inr ⟨?_, e, by simp only [hrun]⟩
        obtain ⟨f, hf, hnot⟩ | hfull := hwhy
        · exact .field hf hnot
        · exact .room (by simpa using hfull)

theorem reflects_of_build (hp : p.fault? = none) (h : p.build session port = .ok r) :
    Reflects session port p r := by
  obtain ⟨target, fields, hbuild, hparse, hgroups, hall⟩ | ⟨-, e, he⟩ := build_cases session port p
  · cases hbuild.symm.trans h
    obtain ⟨htext, hword⟩ := Uri.text_of_parse (fault?_eq_none_iff.mp hp) hparse
    exact {
      post := fun b hb => ⟨by simp only [method, hb, Option.isSome_some, if_true], by rw [hb]; rfl⟩
      get := fun hnone => ⟨by rw [method, hnone]; rfl, by rw [hnone]; rfl⟩
      target := htext
      fields := fun name => by
        rw [hgroups.named, List.map_append, fieldsNamed_append, map_fieldOf_ownFields]
      word := hword
      writable := fun f hf => by
        obtain ⟨g, hg, rfl⟩ := List.mem_map.mp (hgroups.mem_iff.mp hf)
        exact (hall g hg).writable }
  · cases he.symm.trans h

theorem unbuildable_of_build (h : p.build session port = .error e) : Unbuildable session port p := by
  obtain ⟨target, fields, hbuild, -⟩ | ⟨hwhy, -⟩ := build_cases session port p
  · cases hbuild.symm.trans h
  · exact hwhy

/-- What could end a word or a line early is in no field and in no target. -/
theorem exists_error_of_injects (hp : p.fault? = none) (h : p.Injects) :
    ∃ e, p.build session port = .error e := by
  obtain ⟨target, fields, hbuild, hparse, -, hall⟩ | ⟨-, herror⟩ := build_cases session port p
  · -- a request that is built has only fields and a target of the right bytes
    exfalso
    have hcaller : ∀ f ∈ p.headers, MakesField f := fun f hf => hall f (List.mem_append_right _ hf)
    cases h with
    | name hf hnot => exact hnot (hcaller _ hf).token
    | @value f c hf hc hbad =>
        have hbyte : c.toNat < 128 → isValueByte (UInt8.ofNat c.toNat) := fun hascii =>
          (hcaller _ hf).value _ ((mem_bytesOf_iff hascii).mpr hc)
        rcases hbad with rfl | rfl | rfl <;> exact absurd (hbyte (by decide)) (by decide)
    | @path c hc hbad =>
        obtain ⟨htext, hword⟩ := Uri.text_of_parse (fault?_eq_none_iff.mp hp) hparse
        have hbyte : c.toNat < 128 → 32 < UInt8.ofNat c.toNat := fun hascii => by
          refine hword _ ((mem_bytesOf_iff hascii).mpr ?_)
          rwa [htext, String.toList_ofList]
        rcases hbad with rfl | rfl | rfl <;> exact absurd (hbyte (by decide)) (by decide)
  · exact herror

end Building

/-- Parameters with an absolute path make a request that is faithful to them, or none of it is sent. -/
theorem faithful_build (session : Session) (port : Port) {p : RequestParameters} (hp : p.fault? = none) :
    Faithful session port p where
  builds _ h := reflects_of_build hp h
  fails _ h := ⟨rfl, unbuildable_of_build h, PinnedClient.exchange_of_build h,
    fun _ c via m => PinnedClient.unsent_attemptBy h c via m⟩
  refuses h := exists_error_of_injects hp h

/-- Parameters that give names again which every request has, and one name twice. -/
def repeatedNames (path : String) : RequestParameters :=
  ⟨path, [("X-Trace", "1"), ("HOST", "other"), ("x-trace", "2"), ("Connection", "keep-alive")], some []⟩

/-- With a fragment in the path, all that is given is sent, and with a blank in the query, nothing is. -/
theorem faithful_repeatedNames :
    let session : Session := ⟨"203.0.113.10", 8443, .certificate [], []⟩
    let p := repeatedNames "/status?full#top"
    let q := repeatedNames "/status?a b"
    (p.fault? = none ∧ Faithful session 8443 p ∧
      (p.build session 8443).toOption.map (fun r => (r.method, r.target.text, r.fields.toFields)) =
        some (.post, "/status?full",
          [⟨bytesOf "host", bytesOf "203.0.113.10:8443"⟩, ⟨bytesOf "host", bytesOf "other"⟩,
            ⟨bytesOf "user-agent", bytesOf "tunnel-fallback/0.3.0"⟩,
            ⟨bytesOf "connection", bytesOf "close"⟩, ⟨bytesOf "connection", bytesOf "keep-alive"⟩,
            ⟨bytesOf "x-trace", bytesOf "1"⟩, ⟨bytesOf "x-trace", bytesOf "2"⟩])) ∧
      q.fault? = none ∧ q.Injects ∧ ∃ e, q.build session 8443 = .error e := by
  intro session p q
  have hp : p.fault? = none := by decide +kernel
  have hq : q.fault? = none := by decide +kernel
  have hblank : ' ' ∈ q.path.toList.takeWhile (· != '#') := by decide +kernel
  have hinjects : q.Injects := .path hblank (.inr (.inr rfl))
  exact ⟨⟨hp, faithful_build session 8443 hp, by decide +kernel⟩, hq, hinjects,
    (faithful_build session 8443 hq).refuses hinjects⟩

end RequestParameters

end RouteCascade
