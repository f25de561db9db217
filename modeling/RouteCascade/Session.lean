import RouteCascade.Pin.Identity
import RouteCascade.Net.HostPort
import RouteCascade.Text.Quoted

/-!
# Sessions

The description of the server that requests go to: its address, the port of its web server, the
identity its certificate is pinned to, and the protocols that it can be reached by without a
handshake.
-/
namespace RouteCascade

open Text Net

structure Session where
  address : String
  port : Port
  identity : Identity
  capabilities : List String := []
  deriving DecidableEq

namespace Session

/-- The server lists this capability, whatever the case of its letters. -/
def hasCapability (s : Session) (tag : String) : Bool :=
  s.capabilities.any fun c => equalIgnoringCase c tag

def standardPort : Port := 443

/-- The ports that are tried directly: the configured one, then the standard one if it differs. -/
def directPorts (s : Session) : List Port :=
  if s.port = standardPort then [s.port] else [s.port, standardPort]

def debugText (s : Session) : String :=
  "SessionInfo \x7b " ++ s!"server_address: {quoted s.address}, web_port: {s.port}, " ++
    s!"web_server_identity: {s.identity.text}, capabilities: {quotedList s.capabilities}" ++ " \x7d"

theorem directPorts_ne_nil (s : Session) : s.directPorts ≠ [] := by
  simp only [directPorts]; split <;> simp

/-- The configured port comes first. -/
theorem head?_directPorts (s : Session) : s.directPorts.head? = some s.port := by
  simp only [directPorts]; split <;> simp

/-- No port is tried twice. -/
theorem nodup_directPorts (s : Session) : s.directPorts.Nodup := by
  simp only [directPorts]; split <;> simp_all

end Session

end RouteCascade
