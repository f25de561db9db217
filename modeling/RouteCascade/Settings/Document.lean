import RouteCascade.Cause
import RouteCascade.Settings.Check
import RouteCascade.Yaml.Decode

/-!
# Settings in a document

How settings are written down: a record with the names of the choices as keys, where keys of other
names do not count. A tunnel keeps its other keys with their values.
-/
namespace RouteCascade

open Net Text Yaml Yaml.Decode

structure ServerFields where
  address : Option String := none
  webPort : Option Nat := none
  certificate : Option String := none
  capabilities : Option (List String) := none

def ServerSettings.decoder : Decoder ServerSettings :=
  record "struct ServerConfig" "field identifier" ({ } : ServerFields)
    (fun owner whole f key p n =>
      match key with
      | "address" => do pure { f with address := ← once owner whole key f.address (string p n) }
      | "web-port" => do pure { f with webPort := ← once owner whole key f.webPort (unsigned 16 p n) }
      | "web-server-certificate" => do
        pure { f with certificate := ← once owner whole key f.certificate (string p n) }
      | "capabilities" => do
        pure { f with capabilities := ← once owner whole key f.capabilities (sequence string p n) }
      | _ => do skip n; pure f)
    (fun owner whole f => do
      pure {
        address := ← required owner whole "address" f.address,
        webPort := UInt16.ofNat (← required owner whole "web-port" f.webPort),
        certificate := ← required owner whole "web-server-certificate" f.certificate,
        capabilities := f.capabilities.getD [] })

/-- The fields of a tunnel that have been read; the others in the order in which they came. -/
structure TunnelFields where
  name : Option String := none
  kind : Option String := none
  server : Option String := none
  port : Option Nat := none
  extra : List (String × Value) := []

/-- The values of keys of which the last one counts. -/
def lastOfEach : List (String × Value) → List (String × Value)
  | [] => []
  | (k, v) :: rest =>
    if rest.any (·.1 == k) then lastOfEach rest else (k, v) :: lastOfEach rest

def TunnelSettings.decoder : Decoder TunnelSettings :=
  record "struct TransportConfig" "field identifier" ({ } : TunnelFields)
    (fun owner whole f key p n =>
      match key with
      | "name" => do pure { f with name := ← once owner whole key f.name (string p n) }
      | "type" => do pure { f with kind := ← once owner whole key f.kind (string p n) }
      | "server" => do pure { f with server := ← once owner whole key f.server (string p n) }
      | "port" => do pure { f with port := ← once owner whole key f.port (unsigned 16 p n) }
      | _ => do pure { f with extra := f.extra ++ [(key, ← value p n)] })
    (fun owner whole f => do
      let name ← required owner whole "name" f.name
      let kind ← required owner whole "type" f.kind
      let server ← required owner whole "server" f.server
      let port ← required owner whole "port" f.port
      match f.extra.findSome? fun x => x.2.repeated? with
      | some key => complain owner whole (.repeatedKey key)
      | none => pure ⟨name, kind, server, UInt16.ofNat port, lastOfEach f.extra⟩)

structure SettingsFields where
  logLevel : Option (Option String) := none
  allowTemporary : Option Bool := none
  connectTimeout : Option Nat := none
  requestTimeout : Option Nat := none
  localProxy : Option String := none
  server : Option ServerSettings := none
  tunnels : Option (List TunnelSettings) := none

def SettingsFields.settings (f : SettingsFields) : Settings :=
  let defaults : Settings := { }
  { logLevel := f.logLevel.getD defaults.logLevel,
    allowTemporary := f.allowTemporary.getD defaults.allowTemporary,
    connectTimeout := (f.connectTimeout.map UInt64.ofNat).getD defaults.connectTimeout,
    requestTimeout := (f.requestTimeout.map UInt64.ofNat).getD defaults.requestTimeout,
    localProxy := f.localProxy.getD defaults.localProxy,
    server := f.server.getD defaults.server,
    tunnels := f.tunnels.getD defaults.tunnels }

def Settings.decoder : Decoder Settings :=
  record "struct Config" "field identifier" ({ } : SettingsFields)
    (fun owner whole f key p n =>
      match key with
      | "log-level" => do
        pure { f with logLevel := ← once owner whole key f.logLevel (optional owner whole string p n) }
      | "allow-temporary" => do
        pure { f with allowTemporary := ← once owner whole key f.allowTemporary (bool p n) }
      | "connect-timeout" => do
        pure { f with connectTimeout := ← once owner whole key f.connectTimeout (unsigned 64 p n) }
      | "request-timeout" => do
        pure { f with requestTimeout := ← once owner whole key f.requestTimeout (unsigned 64 p n) }
      | "local-proxy" => do
        pure { f with localProxy := ← once owner whole key f.localProxy (string p n) }
      | "server" => do
        pure { f with server := ← once owner whole key f.server (ServerSettings.decoder p n) }
      | "transports" => do
        pure { f with tunnels := ← once owner whole key f.tunnels (sequence TunnelSettings.decoder p n) }
      | _ => do skip n; pure f)
    (fun _ _ f => pure f.settings)

inductive LoadFault where
  /-- The system refused to read the file. -/
  | unreadable (osError : Int)
  /-- The file is no text. -/
  | notText
  | document (fault : Yaml.Fault)
  | invalid (fault : SettingsFault)

def LoadFault.failure : LoadFault → Failure
  | unreadable n => (Cause.system n).failure
  | notText => (Cause.stream "stream did not contain valid UTF-8").failure
  | document e => (Cause.document e).failure
  | invalid e => e.failure

namespace Settings

def parse (text : String) : Except LoadFault Settings :=
  match decode decoder text with
  | .error e => .error (.document e)
  | .ok s =>
    match s.fault? with
    | some e => .error (.invalid e)
    | none => .ok s

/-- Reads settings off what the system gave for a file: its content, or the number of an error. -/
def load (file : Except Int Bytes) : Except LoadFault Settings :=
  match file with
  | .error n => .error (.unreadable n)
  | .ok content =>
    match ofBytes? content with
    | none => .error .notText
    | some text => parse text

end Settings

end RouteCascade
