import RouteCascade.Settings.Basic

/-!
# Checking settings

Which settings are valid, and what is said of the first fault: first the server, then the local proxy,
the timeouts and the tunnels one by one, and last the names of the tunnels, which have to differ.
-/
namespace RouteCascade

open Net

inductive SettingsFault where
  | emptyServerAddress
  | zeroWebPort
  | identity (fault : IdentityFault)
  | localProxy (text : String)
  | zeroConnectTimeout
  | zeroRequestTimeout
  | emptyTunnelName
  | emptyTunnelServer
  | zeroTunnelPort
  | repeatedName (name : String)
  deriving DecidableEq, Repr

namespace SettingsFault

def message : SettingsFault → String
  | emptyServerAddress => "Server address cannot be empty"
  | zeroWebPort => "Server web-port cannot be 0"
  | identity e => e.message
  | localProxy s => s!"Invalid local-proxy {s}: invalid socket address syntax"
  | zeroConnectTimeout => "connect-timeout cannot be 0"
  | zeroRequestTimeout => "request-timeout cannot be 0"
  | emptyTunnelName => "Transport name cannot be empty"
  | emptyTunnelServer => "Transport server cannot be empty"
  | zeroTunnelPort => "Transport port cannot be 0"
  | repeatedName n => s!"Duplicate transport name: {n}"

def failure (e : SettingsFault) : Failure := ⟨.config, e.message⟩

end SettingsFault

def ServerSettings.fault? (s : ServerSettings) : Option SettingsFault :=
  if s.address.isEmpty then some .emptyServerAddress
  else if s.webPort = 0 then some .zeroWebPort
  else match Identity.parse s.certificate with
    | .error e => some (.identity e)
    | .ok _ => none

def TunnelSettings.fault? (t : TunnelSettings) : Option SettingsFault :=
  if t.name.isEmpty then some .emptyTunnelName
  else if t.server.isEmpty then some .emptyTunnelServer
  else if t.port = 0 then some .zeroTunnelPort
  else none

/-- The first name that occurs before, where `seen` holds the names in front. -/
def firstRepeated? (seen : List String) : List String → Option String
  | [] => none
  | n :: ns => if n ∈ seen then some n else firstRepeated? (n :: seen) ns

namespace Settings

def localProxyAddress (s : Settings) : Except SettingsFault SocketAddress :=
  match SocketAddress.parse? s.localProxy with
  | some a => .ok a
  | none => .error (.localProxy s.localProxy)

def fault? (s : Settings) : Option SettingsFault :=
  match s.server.fault?, s.localProxyAddress with
  | some e, _ => some e
  | none, .error e => some e
  | none, .ok _ =>
    if s.connectTimeout = 0 then some .zeroConnectTimeout
    else if s.requestTimeout = 0 then some .zeroRequestTimeout
    else match s.tunnels.findSome? TunnelSettings.fault? with
      | some e => some e
      | none => (firstRepeated? [] (s.tunnels.map (·.name))).map .repeatedName

def session (s : Settings) : Except SettingsFault Session :=
  match Identity.parse s.server.certificate with
  | .error e => .error (.identity e)
  | .ok i => .ok ⟨s.server.address, s.server.webPort, i, s.server.capabilities⟩

end Settings

end RouteCascade
