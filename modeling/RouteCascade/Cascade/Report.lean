import RouteCascade.Cascade.Connection
import RouteCascade.Cascade.Run
import RouteCascade.Log

/-!
# Reports on runs

The lines that tell of a run, made from its events. The calls of a run leave lines of their own, which
come before what is said about their replies. What came of an attempt over a tunnel is said once the
tunnel has been given up.
-/
namespace RouteCascade.Cascade

open Text Net Log

/-- How far a run has been told. -/
structure Telling (τ : Type) where
  order : Order
  /-- The lines of the calls that are still to come. -/
  notes : List (List Line)
  started : Bool := false
  /-- The direct ports that were not tried yet. -/
  ports : List Port
  /-- The catalog is being asked. -/
  selecting : Bool := false
  /-- The tunnels that were selected and not tried yet. -/
  candidates : List (Instance τ) := []
  /-- A tunnel is connected, and no attempt was made over it yet. -/
  connected : Option (Instance τ) := none
  /-- What came of an attempt, to be said when its tunnel is given up. -/
  verdict : List Line := []

namespace Telling

variable {σ τ : Type} (c : Collaborators σ τ) (t : Telling τ)

def path : String := t.order.parameters.path

def failureLine (path : Path) (e : Failure) : Line :=
  ⟨.warn, if e.isConnectionFailure then s!"{path.text} unreachable: {e.message}"
    else s!"{path.text} request failed: {e.message}"⟩

def pathOver (i : Instance τ) : Path := .temporary (c.name i.tunnel) (c.kind i.tunnel)

def selection : List Line × Telling τ :=
  if t.selecting then
    let names := t.candidates.map fun i => c.name i.tunnel
    (if names.isEmpty then [] else [⟨.debug, s!"Temporary transport candidates: {quotedList names}"⟩],
      { t with selecting := false })
  else ([], t)

def stopLine : Line :=
  ⟨.debug,
    match t.connected, t.ports, t.candidates with
    | some i, _, _ => s!"[{c.name i.tunnel}] request {t.path} cancelled after connecting"
    | none, port :: _, _ =>
      if t.started then s!"Request {t.path} cancelled before direct port {port}"
      else s!"Request {t.path} cancelled before start"
    | none, [], i :: _ => s!"Request {t.path} cancelled before temporary transport {c.name i.tunnel}"
    | none, [], [] => s!"Request {t.path} cancelled before start"⟩

/-- The lines of the next call. -/
def nextNotes : List Line := t.notes.headD []

/-- The telling after the next call. -/
def pastCall : Telling τ := { t with notes := t.notes.drop 1 }

/-- What is said before and after an attempt, and what is said later. -/
def attemptLines (a : Attempt τ) (reply : Reply Bytes) : List Line × List Line × List Line :=
  match a.carrier with
  | .direct =>
    ([⟨.debug, s!"Trying {t.path} directly at {a.session.address}:{a.port}"⟩],
      match reply with
      | .ok _ => [⟨.info, s!"Request {t.path} succeeded directly on port {a.port}"⟩]
      | .error e => [failureLine (.direct a.port) e]
      | _ => [],
      [])
  | .current tunnel =>
    ([⟨.debug, s!"[{c.name tunnel}] requesting {t.path} over connected transport (local proxy: " ++
        s!"{a.viaLocalProxy})"⟩],
      match reply with
      | .error e => [⟨.warn, s!"[{c.name tunnel}] request {t.path} failed: {e.message}"⟩]
      | _ => [],
      [])
  | .temporary i =>
    ([], [],
      match reply with
      | .ok _ => [⟨.info, s!"Request {t.path} succeeded over temporary {(pathOver c i).text}"⟩]
      | .error e => [failureLine (pathOver c i) e]
      | _ => [])

def event : Event τ → List Line × Telling τ
  | .poll stop =>
    let (lines, t) := t.selection c
    (lines ++ (if stop then [t.stopLine c] else []), { t with started := true })
  | .attempt a reply =>
    let (before, after, later) := t.attemptLines c a reply
    (before ++ t.nextNotes ++ after,
      { t.pastCall with ports := t.ports.drop 1, connected := none, verdict := later })
  | .enumerate => ([], { t with selecting := true })
  | .handshake i needed =>
    if t.selecting then
      if needed then
        ([⟨.debug, s!"[{c.name i.tunnel}] {(c.kind i.tunnel).text} needs a handshake, not eligible for " ++
          "a temporary connection"⟩], t)
      else ([], { t with candidates := t.candidates ++ [i] })
    else
      let t := { t with candidates := t.candidates.drop 1 }
      if needed then ([failureLine (pathOver c i) (Connection.handshakeFailure (c.name i.tunnel))], t)
      else ([], t)
  | .connect i reply =>
    match reply with
    | .ok () =>
      (t.nextNotes ++ [⟨.debug, s!"[{c.name i.tunnel}] temporary transport connected"⟩],
        { t.pastCall with connected := some i })
    | .error e => (t.nextNotes ++ [failureLine (pathOver c i) e], t.pastCall)
    | _ => (t.nextNotes, t.pastCall)
  | .disconnect i reply =>
    (t.nextNotes ++
      (match reply with
      | .ok () => [⟨.debug, s!"[{c.name i.tunnel}] temporary transport released"⟩]
      | .error e => [⟨.warn, s!"[{c.name i.tunnel}] disconnect failed: {e.message}"⟩]
      | _ => []),
      { t.pastCall with connected := none })
  | .dispose _ => if t.selecting then ([], t) else (t.verdict, { t with verdict := [] })
  | .abandon => ([], { t with verdict := [] })

def events : Telling τ → List (Event τ) → List Line
  | _, [] => []
  | t, e :: es => let (lines, t) := t.event c e; lines ++ events t es

def endingLines (path : String) : Ending Answer → List Line
  | .returned (.ok (.failed (.noEligible _))) => [⟨.warn, "No transport can connect without a handshake"⟩]
  | .returned (.ok (.failed (.exhausted _))) => [⟨.warn, s!"All fallback paths exhausted for {path}"⟩]
  | .returned (.ok (.failed .temporaryDisallowed)) =>
    [⟨.debug, s!"No transport connected for {path}, temporary connections disallowed"⟩]
  | _ => []

end Telling

/-- The lines that tell of a run, with those that its calls left. -/
def report {σ τ : Type} (c : Collaborators σ τ) (o : Order) (notes : List (List Line))
    (es : List (Event τ)) (ending : Ending Answer) : List Line :=
  Telling.events c { order := o, notes, ports := o.session.directPorts } es ++
    Telling.endingLines o.parameters.path ending

end RouteCascade.Cascade
