import RouteCascade.Proofs.Http.WholeHead
import RouteCascade.Proofs.Tunnel.ConnectRequest

/-!
# The gate to a target

A client of the local proxy gets to its target through a chain of checks, each with an exit of its own. Its
bytes alone decide which exit it takes, and the dialing of the target is the only other thing that matters.
What is done for it is told here in the order in which it is done: nothing passes between the client and a
target in either direction until the client was told that its target is reached.
-/
namespace RouteCascade.Tunnel

open Text Net Http

namespace LocalProxy

inductive Answer where
  | established
  | tooLarge
  | notAllowed
  | badGateway (cause : Failure)
  deriving DecidableEq, Repr

namespace Answer

def text : Answer → String
  | established => LocalProxy.established
  | tooLarge => LocalProxy.tooLarge
  | notAllowed => LocalProxy.notAllowed
  | badGateway e => LocalProxy.badGateway e

def status : Answer → Nat
  | established => 200
  | tooLarge => 431
  | notAllowed => 405
  | badGateway _ => 502

def body : Answer → String
  | badGateway e => s!"Connection failed: {e.message}"
  | established | tooLarge | notAllowed => ""

/-- The text of an answer opens with its status, and the body is all that follows its head. -/
structure Spelled (a : Answer) : Prop where
  opens : bytesOf s!"HTTP/1.1 {a.status} " <+: bytesOf a.text
  body : ∃ k, FirstEnd (bytesOf a.text) k ∧ (bytesOf a.text).drop k = bytesOf a.body

theorem spelled_of_head {a : Answer} (head : String) (htext : a.text = head ++ a.body)
    (hopens : bytesOf s!"HTTP/1.1 {a.status} " <+: bytesOf head)
    (hend : endOf? (bytesOf head) = some (bytesOf head).length) : a.Spelled := by
  have hbytes : bytesOf a.text = bytesOf head ++ bytesOf a.body := by rw [htext, bytesOf_append]
  constructor
  · rw [hbytes]
    exact hopens.trans (List.prefix_append _ _)
  · rw [hbytes]
    exact ⟨_, (endOf?_eq_some_iff.mp hend).append _, List.drop_left⟩

theorem spelled (a : Answer) : a.Spelled := by
  cases a with
  | established => exact spelled_of_head LocalProxy.established rfl (by decide +kernel) (by decide +kernel)
  | tooLarge => exact spelled_of_head LocalProxy.tooLarge rfl (by decide +kernel) (by decide +kernel)
  | notAllowed => exact spelled_of_head LocalProxy.notAllowed rfl (by decide +kernel) (by decide +kernel)
  | badGateway e =>
      refine spelled_of_head _ rfl ?_ (by decide +kernel)
      change bytesOf s!"HTTP/1.1 {502} " <+: _
      decide +kernel

end Answer

/-- What is done for a client that others can tell. -/
inductive Effect where
  | dial (host : String) (port : Port)
  | answer (a : Answer)
  /-- Bytes of the client go to the target. -/
  | forward (bytes : Bytes)
  /-- Bytes of the target go to the client. -/
  | deliver (bytes : Bytes)
  deriving DecidableEq, Repr

namespace Effect

def target? : Effect → Option (String × Port)
  | dial host port => some (host, port)
  | answer _ | forward _ | deliver _ => none

def answer? : Effect → Option Answer
  | answer a => some a
  | dial _ _ | forward _ | deliver _ => none

def toClient : Effect → Bytes
  | answer a => bytesOf a.text
  | deliver bs => bs
  | dial _ _ | forward _ => []

def toTarget : Effect → Bytes
  | forward bs => bs
  | dial _ _ | answer _ | deliver _ => []

def Relays : Effect → Prop
  | forward _ | deliver _ => True
  | dial _ _ | answer _ => False

theorem target?_of_relays {x : Effect} (h : x.Relays) : x.target? = none := by
  cases x with
  | forward | deliver => rfl
  | dial | answer => exact h.elim

theorem answer?_of_relays {x : Effect} (h : x.Relays) : x.answer? = none := by
  cases x with
  | forward | deliver => rfl
  | dial | answer => exact h.elim

theorem filterMap_of_relays {β : Type} {f : Effect → Option β} (hf : ∀ {x : Effect}, x.Relays → f x = none)
    {es : List Effect} (h : ∀ x ∈ es, x.Relays) : es.filterMap f = [] := by
  rw [List.filterMap_eq_nil_iff]
  intro x hx
  exact hf (h x hx)

end Effect

def taken (bs : Bytes) (s : Stream) : Bytes := (put bs s).2.sent.drop s.sent.length

/-- What is relayed for a client whose target was reached. The bytes that came along with the head are the
first to go. -/
def relaying (along later : Bytes) (closes : Bool) (s : Stream) : List Effect :=
  match put along s with
  | (some _, _) => [.forward (taken along s)]
  | (none, t) => [.forward (taken along s), .forward (taken later t), .deliver (relay later closes t).1]

def effects (dial : String → Port → Except (Halt Failure) Stream) (client : Client) : List Effect :=
  match readHead [] client.pieces with
  | .tooLarge => [.answer .tooLarge]
  | .noHead => []
  | .head head along later =>
    match target head with
    | .error (.method _) => [.answer .notAllowed]
    | .error _ => []
    | .ok (host, port) =>
      match dial host port with
      | .error .waiting => [.dial host port]
      | .error (.fault e) => [.dial host port, .answer (.badGateway e)]
      | .ok s =>
        .dial host port :: .answer .established :: relaying along later.flatten client.closes s

section Shown
variable (dial : String → Port → Except (Halt Failure) Stream)

/-- What is done for a client is what is seen of it in the end: the targets that were dialed, what the client
got, and what its target got of the stream that was opened. -/
structure Shown (es : List Effect) (served : Served) : Prop where
  dialed : es.filterMap Effect.target? = served.dialed
  received : es.flatMap Effect.toClient = served.received
  sent : ∀ t, served.outgoing = some t → ∃ host port s, served.dialed = [(host, port)] ∧
    dial host port = .ok s ∧ t.sent = s.sent ++ es.flatMap Effect.toTarget
  unopened : served.outgoing = none → ∀ x ∈ es, ¬ x.Relays

theorem sent_put_eq (bs : Bytes) (s : Stream) : (put bs s).2.sent = s.sent ++ taken bs s := by
  obtain ⟨w, -, hw⟩ := sent_put s bs
  rw [taken, hw, List.drop_left]

section Relaying
variable (along later : Bytes) (closes : Bool) (s : Stream)

theorem relays_of_mem_relaying : ∀ x ∈ relaying along later closes s, x.Relays := by
  unfold relaying
  split <;> simp [Effect.Relays]

theorem toClient_relaying :
    (relaying along later closes s).flatMap Effect.toClient = (serveOver along later closes s).1 := by
  unfold relaying serveOver
  rcases put along s with ⟨_ | e, t⟩ <;> simp [Effect.toClient]

theorem toTarget_relaying : (serveOver along later closes s).2.1.sent =
    s.sent ++ (relaying along later closes s).flatMap Effect.toTarget := by
  have hsent := sent_put_eq along s
  unfold relaying serveOver
  generalize put along s = x at hsent
  rcases x with ⟨_ | e, t⟩
  · change t.sent = _ at hsent
    simp only [sent_relay, sent_put_eq, hsent]
    simp [Effect.toTarget]
  · simpa [Effect.toTarget] using hsent

end Relaying

theorem shown_serve (client : Client) : Shown dial (effects dial client) (serve dial client) := by
  unfold serve effects
  cases readHead [] client.pieces with
  | tooLarge => exact ⟨rfl, by simp [Effect.toClient, Answer.text], nofun, by simp [Effect.Relays]⟩
  | noHead => exact ⟨rfl, rfl, nofun, nofun⟩
  | head head along later =>
      dsimp only
      cases target head with
      | error fault =>
          cases fault with
          | method => exact ⟨rfl, by simp [Effect.toClient, Answer.text], nofun, by simp [Effect.Relays]⟩
          | _ => exact ⟨rfl, rfl, nofun, nofun⟩
      | ok t =>
          obtain ⟨host, port⟩ := t
          dsimp only
          cases hd : dial host port with
          | error halt =>
              cases halt with
              | waiting => exact ⟨rfl, rfl, nofun, by simp [Effect.Relays]⟩
              | fault e =>
                  exact ⟨rfl, by simp [Effect.toClient, Answer.text], nofun, by simp [Effect.Relays]⟩
          | ok s =>
              refine ⟨?_, ?_, ?_, nofun⟩
              · change (host, port) :: (relaying along _ _ s).filterMap Effect.target? = [(host, port)]
                rw [Effect.filterMap_of_relays Effect.target?_of_relays (relays_of_mem_relaying _ _ _ s)]
              · simp [Effect.toClient, Answer.text, toClient_relaying]
              · rintro t ht
                obtain rfl := Option.some.inj ht
                refine ⟨host, port, s, rfl, hd, ?_⟩
                rw [toTarget_relaying]
                simp [Effect.toTarget]

end Shown

/-- What the bytes of a client come to. -/
inductive Verdict where
  | early
  | tooLarge
  | rejected
  | otherMethod
  | badTarget
  | asks (host : String) (port : Port)
  deriving DecidableEq, Repr

/-- A head ends first here, and within the limit. -/
def IsHeadOf (head d : Bytes) : Prop := ∃ e, FirstEnd d e ∧ e ≤ maxHead ∧ d.take e = head

/-- The method and the target that are read off a head. -/
inductive ReadAs (head : Bytes) : Bytes → String → Prop
  | request {h : RequestHead} {rest : Bytes} (read : RequestHead.parse maxFields head = .done h rest) :
      ReadAs head h.method h.target
  /-- Empty lines alone are a head with neither. -/
  | blank (read : RequestHead.parse maxFields head = .more) (empty : ∀ b ∈ head, b = cr ∨ b = lf) :
      ReadAs head [] ""

/-- What the bytes of a client come to, told without reading them piece by piece. -/
inductive Judged (d : Bytes) : Verdict → Prop
  | early (none : NoEndWithin maxHead d) (short : d.length < maxHead) : Judged d .early
  | tooLarge (none : NoEndWithin maxHead d) (full : maxHead ≤ d.length) : Judged d .tooLarge
  | rejected {head : Bytes} {e : HeadFault} (first : IsHeadOf head d)
      (bad : RequestHead.parse maxFields head = .bad e) : Judged d .rejected
  | otherMethod {head method : Bytes} {authority : String} (first : IsHeadOf head d)
      (read : ReadAs head method authority) (other : method ≠ bytesOf "CONNECT") : Judged d .otherMethod
  | badTarget {head : Bytes} {authority : String} {e : HostPortFault} (first : IsHeadOf head d)
      (read : ReadAs head (bytesOf "CONNECT") authority) (bad : parseHostPort authority = .error e) :
      Judged d .badTarget
  | asks {head : Bytes} {authority host : String} {port : Port} (first : IsHeadOf head d)
      (read : ReadAs head (bytesOf "CONNECT") authority)
      (target : parseHostPort authority = .ok (host, port)) : Judged d (.asks host port)

def headVerdict (head : Bytes) : Verdict :=
  match target head with
  | .error (.method _) => .otherMethod
  | .error (.target _) => .badTarget
  | .error _ => .rejected
  | .ok (host, port) => .asks host port

def HeadReading.verdict : HeadReading → Verdict
  | .noHead => .early
  | .tooLarge => .tooLarge
  | .head bs _ _ => headVerdict bs

section Verdicts
variable {d head method : Bytes} {authority : String} {v : Verdict} {pieces : List Bytes}

/-- What is checked of a head that is not rejected. -/
def checked (method : Bytes) (authority : String) : Except ServeFault (String × Port) :=
  if method ≠ bytesOf "CONNECT" then .error (.method ((ofBytes? method).getD ""))
  else (parseHostPort authority).mapError .target

theorem target_of_readAs (h : ReadAs head method authority) : target head = checked method authority := by
  cases h with
  | request read => rw [target, read]; rfl
  | blank read => rw [target, read]; rfl

theorem headVerdict_of_other (h : ReadAs head method authority) (ho : method ≠ bytesOf "CONNECT") :
    headVerdict head = .otherMethod := by
  rw [headVerdict, target_of_readAs h, checked, if_pos ho]

theorem headVerdict_of_connect (h : ReadAs head (bytesOf "CONNECT") authority) :
    headVerdict head = match parseHostPort authority with
      | .error _ => .badTarget
      | .ok (host, port) => .asks host port := by
  rw [headVerdict, target_of_readAs h, checked, if_neg (fun hne => hne rfl)]
  cases parseHostPort authority <;> rfl

theorem readHead_of_isHeadOf (h : IsHeadOf head pieces.flatten) :
    (readHead [] pieces).verdict = headVerdict head := by
  obtain ⟨e, hfirst, hfits, rfl⟩ := h
  obtain ⟨along, later, -, hread⟩ := readHead_of_firstEnd hfirst hfits
  rw [hread]
  rfl

theorem Judged.verdict_eq (h : Judged pieces.flatten v) : (readHead [] pieces).verdict = v := by
  cases h with
  | early none short => rw [readHead_of_short none short]; rfl
  | tooLarge none full => rw [readHead_of_full none full]; rfl
  | rejected first bad => rw [readHead_of_isHeadOf first, headVerdict, target, bad]
  | otherMethod first read other => rw [readHead_of_isHeadOf first, headVerdict_of_other read other]
  | badTarget first read bad => rw [readHead_of_isHeadOf first, headVerdict_of_connect read, bad]
  | asks first read target => rw [readHead_of_isHeadOf first, headVerdict_of_connect read, target]

theorem judged_of_readAs (first : IsHeadOf head d) (h : ReadAs head method authority) :
    Judged d (headVerdict head) := by
  by_cases hm : method = bytesOf "CONNECT"
  · subst hm
    rw [headVerdict_of_connect h]
    cases hp : parseHostPort authority with
    | error e => exact .badTarget first h hp
    | ok t => exact .asks first h hp
  · rw [headVerdict_of_other h hm]
    exact .otherMethod first h hm

theorem judged_headVerdict (first : IsHeadOf head d) : Judged d (headVerdict head) := by
  cases hp : RequestHead.parse maxFields head with
  | bad e =>
      have hv : headVerdict head = .rejected := by rw [headVerdict, target, hp]
      rw [hv]
      exact .rejected first hp
  | done h rest => exact judged_of_readAs first (.request hp)
  | more =>
      have hend : headEnd <:+ head := by
        obtain ⟨e, hfirst, -, rfl⟩ := first
        exact hfirst.ends
      exact judged_of_readAs first (.blank hp (blank_of_parse_eq_more hend hp))

theorem judged_verdict (pieces : List Bytes) : Judged pieces.flatten (readHead [] pieces).verdict := by
  have hread : HeadExec pieces.flatten (readHead [] pieces) := readHead_whole
  generalize readHead [] pieces = reading at hread
  cases hread with
  | head first fits => exact judged_headVerdict ⟨_, first, fits, rfl⟩
  | tooLarge none full => exact .tooLarge none full
  | noHead none short => exact .early none short

/-- The checks never leave it open what becomes of some bytes, and never come to two things. -/
theorem judged_iff : Judged pieces.flatten v ↔ (readHead [] pieces).verdict = v :=
  ⟨Judged.verdict_eq, fun h => h ▸ judged_verdict pieces⟩

end Verdicts

section Reactions
variable {dial : String → Port → Except (Halt Failure) Stream} {v : Verdict} {es : List Effect}

inductive Reaction (dial : String → Port → Except (Halt Failure) Stream) : Verdict → List Effect → Prop
  | early : Reaction dial .early []
  | tooLarge : Reaction dial .tooLarge [.answer .tooLarge]
  | rejected : Reaction dial .rejected []
  | otherMethod : Reaction dial .otherMethod [.answer .notAllowed]
  | badTarget : Reaction dial .badTarget []
  | waiting {host : String} {port : Port} (outcome : dial host port = .error .waiting) :
      Reaction dial (.asks host port) [.dial host port]
  | unreached {host : String} {port : Port} {e : Failure} (outcome : dial host port = .error (.fault e)) :
      Reaction dial (.asks host port) [.dial host port, .answer (.badGateway e)]
  | reached {host : String} {port : Port} {s : Stream} {rest : List Effect}
      (outcome : dial host port = .ok s) (relays : ∀ x ∈ rest, x.Relays) :
      Reaction dial (.asks host port) (.dial host port :: .answer .established :: rest)

theorem reaction_effects (dial : String → Port → Except (Halt Failure) Stream) (client : Client) :
    Reaction dial (readHead [] client.pieces).verdict (effects dial client) := by
  unfold effects
  cases readHead [] client.pieces with
  | tooLarge => exact .tooLarge
  | noHead => exact .early
  | head head along later =>
      simp only [HeadReading.verdict, headVerdict]
      cases target head with
      | error fault =>
          cases fault with
          | method => exact .otherMethod
          | target => exact .badTarget
          | _ => exact .rejected
      | ok t =>
          obtain ⟨host, port⟩ := t
          dsimp only
          cases hd : dial host port with
          | error halt =>
              cases halt with
              | waiting => exact .waiting hd
              | fault e => exact .unreached hd
          | ok s => exact .reached hd (relays_of_mem_relaying along _ _ s)

inductive Earned (dial : String → Port → Except (Halt Failure) Stream) (d : Bytes) : Answer → Prop
  | tooLarge (judged : Judged d .tooLarge) : Earned dial d .tooLarge
  | notAllowed (judged : Judged d .otherMethod) : Earned dial d .notAllowed
  | badGateway {host : String} {port : Port} {e : Failure} (judged : Judged d (.asks host port))
      (outcome : dial host port = .error (.fault e)) : Earned dial d (.badGateway e)
  | established {host : String} {port : Port} {s : Stream} (judged : Judged d (.asks host port))
      (outcome : dial host port = .ok s) : Earned dial d .established

/-- What is done for a client that sends the bytes `d`. -/
structure Gated (dial : String → Port → Except (Halt Failure) Stream) (d : Bytes) (es : List Effect) :
    Prop where
  verdict : ∃! v, Judged d v
  /-- A target is dialed if and only if the head of a request asks for it, and then once. -/
  dials : ∀ host port, .dial host port ∈ es ↔ Judged d (.asks host port)
  dialsOnce : (es.filterMap Effect.target?).length ≤ 1
  answers : ∀ a, .answer a ∈ es ↔ Earned dial d a
  answersOnce : (es.filterMap Effect.answer?).length ≤ 1
  spelled : ∀ a, .answer a ∈ es → a.Spelled
  /-- A client that is left without an answer did not get as far as a target, or its target was not reached
  yet. -/
  silent : (∀ a, .answer a ∉ es) ↔ Judged d .early ∨ Judged d .rejected ∨ Judged d .badTarget ∨
    ∃ host port, Judged d (.asks host port) ∧ dial host port = .error .waiting
  /-- Nothing passes in either direction unless the client was told before that its target is reached. -/
  guarded : ∀ before x after, es = before ++ x :: after → x.Relays → .answer .established ∈ before

namespace Reaction

section
variable {host : String} {port : Port}

theorem dials (h : Reaction dial v es) (hmem : .dial host port ∈ es) : v = .asks host port := by
  cases h with
  | waiting | unreached => simpa [eq_comm] using hmem
  | @reached _ _ _ rest _ relays =>
      have hrest : Effect.dial host port ∉ rest := fun hmem => relays _ hmem
      simpa [hrest, eq_comm] using hmem
  | _ => simp at hmem

theorem dial_mem (h : Reaction dial (.asks host port) es) : .dial host port ∈ es := by
  cases h <;> exact List.mem_cons_self

end

theorem targets_length_le (h : Reaction dial v es) : (es.filterMap Effect.target?).length ≤ 1 := by
  cases h with
  | @reached host port _ rest _ relays =>
      change ((host, port) :: rest.filterMap Effect.target?).length ≤ 1
      rw [Effect.filterMap_of_relays Effect.target?_of_relays relays]
      exact Nat.le_refl 1
  | _ => exact Nat.le_of_ble_eq_true rfl

theorem answers_length_le (h : Reaction dial v es) : (es.filterMap Effect.answer?).length ≤ 1 := by
  cases h with
  | @reached _ _ _ rest _ relays =>
      change (.established :: rest.filterMap Effect.answer?).length ≤ 1
      rw [Effect.filterMap_of_relays Effect.answer?_of_relays relays]
      exact Nat.le_refl 1
  | _ => exact Nat.le_of_ble_eq_true rfl

/-- Whatever is relayed has two other effects in front of it, and the second one is the answer. -/
theorem guarded (h : Reaction dial v es) {before after : List Effect} {x : Effect}
    (hes : es = before ++ x :: after) (hx : x.Relays) : .answer .established ∈ before := by
  have hmem : x ∈ es := hes ▸ List.mem_append_right before List.mem_cons_self
  cases h with
  | reached =>
      cases before with
      | nil =>
          cases hes
          exact hx.elim
      | cons y before =>
          cases before with
          | nil =>
              cases hes
              exact hx.elim
          | cons z before =>
              cases hes
              exact List.mem_cons_of_mem _ List.mem_cons_self
  | early | rejected | badTarget => cases hmem
  | tooLarge | otherMethod | waiting =>
      obtain rfl := List.mem_singleton.mp hmem
      exact hx.elim
  | unreached =>
      rcases List.mem_pair.mp hmem with rfl | rfl <;> exact hx.elim

variable {d : Bytes} {a : Answer}

theorem earned (h : Reaction dial v es) (hv : Judged d v) (hmem : .answer a ∈ es) : Earned dial d a := by
  cases h with
  | early | rejected | badTarget => cases hmem
  | tooLarge =>
      obtain rfl : a = .tooLarge := by simpa using hmem
      exact .tooLarge hv
  | otherMethod =>
      obtain rfl : a = .notAllowed := by simpa using hmem
      exact .notAllowed hv
  | waiting => simp at hmem
  | @unreached _ _ e outcome =>
      obtain rfl : a = .badGateway e := by simpa using hmem
      exact .badGateway hv outcome
  | @reached _ _ _ rest outcome relays =>
      have hrest : Effect.answer a ∉ rest := fun hmem => relays _ hmem
      obtain rfl : a = .established := by simpa [hrest] using hmem
      exact .established hv outcome

theorem answer_mem (h : Reaction dial v es) (hv : ∀ w, Judged d w ↔ v = w) (ha : Earned dial d a) :
    .answer a ∈ es := by
  cases ha with
  | tooLarge judged | notAllowed judged =>
      obtain rfl := (hv _).mp judged
      cases h
      exact List.mem_singleton_self _
  | badGateway judged hd =>
      obtain rfl := (hv _).mp judged
      cases h with
      | waiting outcome | reached outcome => cases hd.symm.trans outcome
      | unreached outcome =>
          cases hd.symm.trans outcome
          exact List.mem_cons_of_mem _ (List.mem_singleton_self _)
  | established judged hd =>
      obtain rfl := (hv _).mp judged
      cases h with
      | waiting outcome | unreached outcome => cases hd.symm.trans outcome
      | reached => exact List.mem_cons_of_mem _ List.mem_cons_self

end Reaction

theorem silent_iff {d : Bytes} (hv : ∀ w, Judged d w ↔ v = w) : (∀ a, ¬ Earned dial d a) ↔
    Judged d .early ∨ Judged d .rejected ∨ Judged d .badTarget ∨
      ∃ host port, Judged d (.asks host port) ∧ dial host port = .error .waiting := by
  have hjudged : Judged d v := (hv v).mpr rfl
  constructor
  · intro hsilent
    cases v with
    | early => exact .inl hjudged
    | tooLarge => exact absurd (.tooLarge hjudged) (hsilent _)
    | rejected => exact .inr (.inl hjudged)
    | otherMethod => exact absurd (.notAllowed hjudged) (hsilent _)
    | badTarget => exact .inr (.inr (.inl hjudged))
    | asks host port =>
        cases hd : dial host port with
        | ok s => exact absurd (.established hjudged hd) (hsilent _)
        | error halt =>
            cases halt with
            | waiting => exact .inr (.inr (.inr ⟨host, port, hjudged, hd⟩))
            | fault e => exact absurd (.badGateway hjudged hd) (hsilent _)
  · intro hcases a ha
    simp only [hv] at hcases
    cases ha with
    | tooLarge judged | notAllowed judged =>
        obtain rfl := (hv _).mp judged
        simp at hcases
    | badGateway judged outcome | established judged outcome =>
        obtain rfl := (hv _).mp judged
        rcases hcases with h | h | h | ⟨host, port, h, hwaiting⟩
        · cases h
        · cases h
        · cases h
        · cases h
          cases outcome.symm.trans hwaiting

theorem Reaction.gated {d : Bytes} (h : Reaction dial v es) (hv : ∀ w, Judged d w ↔ v = w) :
    Gated dial d es := by
  have hjudged : Judged d v := (hv v).mpr rfl
  have hanswers : ∀ a, .answer a ∈ es ↔ Earned dial d a := fun _ => ⟨h.earned hjudged, h.answer_mem hv⟩
  refine {
    verdict := ⟨v, hjudged, fun w hw => ((hv w).mp hw).symm⟩
    dials := fun host port => ⟨fun hmem => (hv _).mpr (h.dials hmem), fun hasks => ?_⟩
    dialsOnce := h.targets_length_le
    answers := hanswers
    answersOnce := h.answers_length_le
    spelled := fun a _ => a.spelled
    silent := ?_
    guarded := fun _ _ _ hes hx => h.guarded hes hx }
  · obtain rfl := (hv _).mp hasks
    exact h.dial_mem
  · simp only [hanswers]
    exact silent_iff hv

end Reactions

/-- The gate to a target, for all bytes that a client may send and all that dialing may come to. -/
theorem gated_serve (dial : String → Port → Except (Halt Failure) Stream) (client : Client) :
    Shown dial (effects dial client) (serve dial client) ∧
      Gated dial client.pieces.flatten (effects dial client) :=
  ⟨shown_serve dial client, (reaction_effects dial client).gated fun _ => judged_iff⟩

-- A byte for the target comes along with the head, and the target has something to say as well.
example :
    effects (fun _ _ => .ok { incoming := bytesOf "hi" }) ⟨[bytesOf "CONNECT a:1 HTTP/1.1\r\n\r\nx"], true⟩ =
      [.dial "a" 1, .answer .established, .forward (bytesOf "x"), .forward [], .deliver (bytesOf "hi")] := by
  decide +kernel

end LocalProxy

end RouteCascade.Tunnel
