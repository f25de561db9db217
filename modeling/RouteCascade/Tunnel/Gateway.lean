import RouteCascade.Net.Reach
import RouteCascade.Text.Base64
import RouteCascade.Tunnel.Connect
import RouteCascade.Tunnel.Kind
import RouteCascade.Tunnel.Socks5

/-!
# Gateways

The server that a tunnel leads through: where it is, which protocol it speaks, and the user name and
password for it. They are used only if both are known.
-/
namespace RouteCascade.Tunnel

open Text Net

/-- A gateway: a server that opens connections for others. -/
structure Gateway where
  kind : Kind
  server : String
  port : Port
  username : Option String := none
  password : Option String := none
  deriving DecidableEq, Repr

namespace Gateway

def address (g : Gateway) : String := hostPort g.server g.port

def credentials (g : Gateway) : Option Credentials :=
  match g.username, g.password with
  | some name, some word => some ⟨name, word⟩
  | _, _ => none

def basicAuthorization (c : Credentials) : String :=
  "Basic " ++ Base64.text (bytesOf s!"{c.username}:{c.password}")

def talk (g : Gateway) (host : String) (port : Port) : Talk Failure Unit :=
  match g.kind with
  | .http => (connect host port (g.credentials.map basicAuthorization)).mapFault ConnectFault.failure
  | .socks5 => (Socks5.connect g.credentials host port).mapFault Socks5Fault.failure

def probe (g : Gateway) (reach : Except ReachFault Stream) : Except Failure Unit :=
  match reach with
  | .ok _ => .ok ()
  | .error e => .error (e.failure g.address)

/-- Opens a tunnel to a host and port: the outcome, and the stream to the server, if there was one. -/
def dial (g : Gateway) (reach : Except ReachFault Stream) (host : String) (port : Port) :
    Except (Halt Failure) Unit × Option Stream :=
  match reach with
  | .error e => (.error (.fault (e.failure g.address)), none)
  | .ok s =>
    let (result, s) := (g.talk host port).runOn s
    (result, some s)

end Gateway

end RouteCascade.Tunnel
