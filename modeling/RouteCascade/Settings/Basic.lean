import RouteCascade.Net.Address
import RouteCascade.Session
import RouteCascade.Yaml.Value

/-!
# Settings

What a user may choose: how the server is reached and recognised, which tunnels may be used and in
what order, and how long to wait. Every choice has a default, but those of the server are not valid.
-/
namespace RouteCascade

open Net

structure ServerSettings where
  address : String := ""
  webPort : Port := 0
  certificate : String := ""
  capabilities : List String := []
  deriving Inhabited

structure TunnelSettings where
  name : String
  kind : String
  server : String
  port : Port
  /-- All other keys, each once. -/
  extra : List (String × Yaml.Value) := []
  deriving Inhabited

/-- What a user may choose. Timeouts are in seconds. -/
structure Settings where
  logLevel : Option String := some "info"
  allowTemporary : Bool := true
  connectTimeout : UInt64 := 10
  requestTimeout : UInt64 := 30
  localProxy : String := "127.0.0.1:8085"
  server : ServerSettings := { }
  tunnels : List TunnelSettings := []
  deriving Inhabited

/-- The text set for another key; a value that is no text counts as not set. -/
def TunnelSettings.text? (t : TunnelSettings) (key : String) : Option String :=
  (t.extra.lookup key).bind Yaml.Value.string?

end RouteCascade
