import RouteCascade.Cause
import RouteCascade.Http.Head
import RouteCascade.Net.HostPort
import RouteCascade.Net.OsError
import RouteCascade.Tunnel.Stream

/-!
# The local proxy

What the local end of a tunnel does with one client: it reads the head of a `CONNECT` request, has the
target dialed, and relays from then on. Anything else is refused. What the client sends after the head
belongs to the target, whether it came along with the head or later.
-/
namespace RouteCascade.Tunnel

open Text Net Http

/-- A client: what it sends, piece by piece, and whether it stops sending then. -/
structure Client where
  pieces : List Bytes
  closes : Bool := true

inductive ServeFault where
  | earlyEnd
  | headTooLarge
  | malformed (fault : HeadFault)
  | method (name : String)
  | target (fault : HostPortFault)
  | dial (failure : Failure)
  | stream (error : String)
  deriving DecidableEq, Repr

def ServeFault.failure : ServeFault → Failure
  | earlyEnd => ⟨.protocol, "Connection closed before request head"⟩
  | headTooLarge => ⟨.protocol, "Request head too large"⟩
  | malformed e => ⟨.protocol, s!"Malformed request: {e.message}"⟩
  | method name => ⟨.protocol, s!"Unsupported method {name}"⟩
  | target e => ⟨.protocol, e.message⟩
  | dial e => e
  | stream e => (Cause.stream e).failure

namespace LocalProxy

def headText (lines : List String) : String := String.join (lines.map (· ++ "\r\n")) ++ "\r\n"

def established : String := headText ["HTTP/1.1 200 Connection Established"]

def tooLarge : String := headText ["HTTP/1.1 431 Request Header Fields Too Large", "Connection: close"]

def notAllowed : String :=
  headText ["HTTP/1.1 405 Method Not Allowed", "Allow: CONNECT", "Connection: close"]

def badGateway (e : Failure) : String :=
  headText ["HTTP/1.1 502 Bad Gateway", "Content-Type: text/plain", "Connection: close"] ++
    s!"Connection failed: {e.message}"

inductive HeadReading where
  /-- A head, and what came along with it; the pieces after that are still to be read. -/
  | head (head along : Bytes) (later : List Bytes)
  | tooLarge
  /-- The client stopped sending, or sends nothing more, before the end of the head. -/
  | noHead

/-- Reads the head of a request, piece by piece, into a buffer of limited size. -/
def readHead (buffer : Bytes) : List Bytes → HeadReading
  | [] => .noHead
  | piece :: later =>
    let room := maxHead - buffer.length
    let filled := buffer ++ piece.take room
    match endOf? filled with
    | some e => .head (filled.take e) (filled.drop e) (piece.drop room :: later)
    | none => if maxHead ≤ filled.length then .tooLarge else readHead filled later

def maxFields : Nat := 32

def target (head : Bytes) : Except ServeFault (String × Port) :=
  let check (method : Bytes) (authority : String) : Except ServeFault (String × Port) :=
    if method ≠ bytesOf "CONNECT" then .error (.method ((ofBytes? method).getD ""))
    else (parseHostPort authority).mapError .target
  match RequestHead.parse maxFields head with
  | .bad e => .error (.malformed e)
  -- a head of blank lines alone has no method
  | .more => check [] ""
  | .done h _ => check h.method h.target

inductive ServeEnd where
  | finished
  | failed (fault : ServeFault)
  /-- It goes on for as long as it is let. -/
  | lasting
  deriving DecidableEq, Repr

structure Served where
  /-- The targets that were dialed. -/
  dialed : List (String × Port) := []
  /-- What the client got. -/
  received : Bytes := []
  /-- The stream to the target. -/
  outgoing : Option Stream := none
  ending : ServeEnd
  deriving DecidableEq, Repr

/-- Writes to a stream: the stream after that, and the error. -/
def put (bs : Bytes) (s : Stream) : Option String × Stream :=
  if bs.isEmpty then (none, s) else
  match (Talk.write bs).runOn s with
  | (.ok (), s) => (none, s)
  | (.error (.fault e), s) => (some e, s)
  | (.error .waiting, s) => (none, s)

/-- Relays what comes later to the target and what comes from the target to the client. -/
def relay (later : Bytes) (closes : Bool) (s : Stream) : Bytes × Stream × ServeEnd :=
  match put later s with
  | (some e, s) => ([], s, .failed (.stream e))
  | (none, s) =>
    match if closes || !later.isEmpty then s.flushError else none with
    | some e => ([], s, .failed (.stream e))
    | none =>
      let ending := match s.ending with
        | .closed => if closes then ServeEnd.finished else .lasting
        | .failed e => .failed (.stream e)
        | .silent => .lasting
      (s.incoming, { s with incoming := [] }, ending)

def serveOver (along later : Bytes) (closes : Bool) (s : Stream) : Bytes × Stream × ServeEnd :=
  match put along s with
  | (some e, s) => ([], s, .failed (.stream e))
  | (none, s) => relay later closes s

def serve (dial : String → Port → Except (Halt Failure) Stream) (client : Client) : Served :=
  match readHead [] client.pieces with
  | .tooLarge => { received := bytesOf tooLarge, ending := .failed .headTooLarge }
  | .noHead => { ending := if client.closes then .failed .earlyEnd else .lasting }
  | .head head along later =>
    match target head with
    | .error (.method name) => { received := bytesOf notAllowed, ending := .failed (.method name) }
    | .error e => { ending := .failed e }
    | .ok (host, port) =>
      match dial host port with
      | .error .waiting => { dialed := [(host, port)], ending := .lasting }
      | .error (.fault e) =>
        { dialed := [(host, port)], received := bytesOf (badGateway e), ending := .failed (.dial e) }
      | .ok s =>
        let (reply, s, ending) := serveOver along later.flatten client.closes s
        { dialed := [(host, port)], received := bytesOf established ++ reply, outgoing := some s,
          ending := ending }

def bindFailure (address : String) (osError : Int) : Failure :=
  ⟨.connection, s!"Failed to bind local proxy on {address}: {OsError.message osError}"⟩

end LocalProxy

end RouteCascade.Tunnel
