import RouteCascade.Cascade.Fleet
import RouteCascade.Cascade.Report
import RouteCascade.Cli.Arguments
import RouteCascade.Request.Attempt
import RouteCascade.Settings.Document

/-!
# Runs from the command line

One run of the program: the settings are read, the request is prepared, a tunnel is brought up if one
is asked for, the request is sent, the tunnel is taken down again, and then the outcome is told. What is
printed, the exit code and the steps taken are the result.
-/
namespace RouteCascade.Cli

open Text Net Log Cascade Tunnel

structure Environment (ω : Type) where
  /-- The content of a file, or the error of the system. -/
  file : String → Except Int Bytes
  /-- What answers to a client with these limits. -/
  outside : PinnedClient → Outside ω
  start : ω

/-- Something printed beside the result. -/
inductive Printed where
  | line (l : Line)
  | plain (text : String)
  deriving DecidableEq, Repr

inductive Exit where
  | success | failure | misused | cancelled
  deriving DecidableEq, Repr

def Exit.code : Exit → Nat
  | success => 0
  | failure => 1
  | misused => 2
  | cancelled => 130

inductive Step where
  | broughtUp (p : Plan) (result : Except Failure Unit)
  | event (e : Event Plan)
  | takenDown (p : Plan)
  /-- It is told what came of the request. -/
  | told (exit : Exit) (output : Bytes)

structure Summary (ω : Type) where
  exit : Exit
  output : Bytes := []
  printed : List Printed := []
  steps : List Step := []
  /-- The tunnel that was to be brought up, as it is left. -/
  tunnel : Option Relay := none
  /-- What is outside after the run. -/
  after : ω

inductive HeaderFault where
  | noColon (text : String)
  | noName (text : String)
  deriving DecidableEq, Repr

def HeaderFault.message : HeaderFault → String
  | noColon s => s!"header must be \"Name: value\": {s}"
  | noName s => s!"header name cannot be empty: {s}"

/-- Reads a header. The blanks around its name and its value do not count. -/
def parseHeader (text : String) : Except HeaderFault (String × String) :=
  match splitFirst ':' text.toList with
  | none => .error (.noColon text)
  | some (name, value) =>
    match trim name with
    | [] => .error (.noName text)
    | name => .ok (String.ofList name, String.ofList (trim value))

def Arguments.parameters (a : Arguments) : Except HeaderFault RequestParameters :=
  match a.headers.mapM parseHeader with
  | .error e => .error e
  | .ok headers => .ok ⟨a.path.getD "", headers, a.data.map bytesOf⟩

inductive Refusal where
  | header (fault : HeaderFault)
  | settings (fault : SettingsFault)
  | plan (fault : PlanFault)

def Refusal.message : Refusal → String
  | header e => e.message
  | settings e => e.failure.message
  | plan e => e.failure.message

/-- A request and what it may be sent with. -/
structure Job where
  order : Order
  registry : Registry
  client : PinnedClient

def second : Nat := 1000

def prepare (a : Arguments) (s : Settings) : Except Refusal Job := do
  let parameters ← a.parameters.mapError .header
  let session ← s.session.mapError .settings
  let localProxy ← s.localProxyAddress.mapError .settings
  let registry ← (Registry.ofSettings s.tunnels localProxy s.connectTimeout).mapError .plan
  pure {
    order := ⟨session, parameters, s.allowTemporary && !a.noTemporary⟩,
    registry,
    client := ⟨localProxy.text, s.connectTimeout.toNat * second, s.requestTimeout.toNat * second⟩ }

def version : String := "0.3.0"

def versionText : String := s!"tunnel-fallback {version}"

def title : String := s!"Tunnel Fallback v{version}"

def helpText : String :=
  String.join ([
    "Reach a server's web endpoint through whatever path is available",
    "",
    "Usage: tunnel-fallback [OPTIONS]",
    "",
    "Options:",
    "  -c, --config <CONFIG>        Path to configuration file [default: config.yaml]",
    "  -p, --path <PATH>            Request path, e.g. /status",
    "  -H, --header <HEADERS>       Extra request header \"Name: value\" (repeatable)",
    "  -d, --data <DATA>            Request body; sends a POST",
    "      --no-temporary           Do not bring up temporary tunnels",
    "      --tunnel <TUNNEL>        Connect this configured transport first and use it as the current " ++
      "tunnel",
    "      --log-level <LOG_LEVEL>  Log level (overrides config)",
    "  -t, --test                   Test configuration and exit",
    "  -h, --help                   Print help",
    "  -V, --version                Print version"].map (· ++ "\n"))

/-- What is printed for a fault that ends a run at once. -/
def refused (text : String) : Printed := .plain s!"Error: {text}"

/-- What is printed for a level that is none. -/
def badLevel (e : FilterFault) : List Printed :=
  match e with
  | .level => [refused e.message, .plain "", .plain "Caused by:", .plain s!"    {e.message}"]
  | .directive => [refused e.message]

def conclude : Ending Answer → Exit × Bytes × List Line
  | .returned (.ok (.success body)) => (.success, body, [])
  | .returned (.ok (.failed reason)) =>
    (.failure, [], ⟨.error, s!"Request failed: {reason.text}"⟩ ::
      reason.failures.map fun f => ⟨.error, s!"  {f.text}"⟩)
  | .returned (.ok .cancelled) => (.cancelled, [], [⟨.warn, "Request cancelled"⟩])
  | .returned (.error e) => (.failure, [], [⟨.error, s!"Invalid request: {e.failure.message}"⟩])
  | .panicked _ | .abandoned => (.failure, [], [])

def broughtUpLine (name : String) : Except Failure Unit → Line
  | .ok () => ⟨.info, s!"[{name}] connected"⟩
  | .error e => ⟨.warn, s!"[{name}] failed to connect: {e.message}"⟩

variable {ω : Type}

/-- Sends the request of a job over a fleet, takes down the tunnel that is up after that, and only then
tells what came of the request. -/
def perform (w : Outside ω) (job : Job) (lines : List Line) (steps : List Step) (fleet : Fleet ω) :
    Summary ω :=
  let c := Fleet.collaborators w
  let (ending, events, fleet) := Cascade.run c job.order (fleet.current.map (·.plan)) fleet
  let told := Cascade.report c job.order fleet.notes events ending
  let (exit, output, last) := conclude ending
  let (down, downLines, fleet) := fleet.takeDown
  { exit, output,
    printed := (lines ++ told ++ downLines ++ last).map .line,
    steps := steps ++ events.map .event ++ (down.map .takenDown).toList ++ [.told exit output],
    tunnel := fleet.current,
    after := fleet.outside }

/-- Brings up the tunnel that is asked for, and performs a job. -/
def carryOut (w : Outside ω) (job : Job) (tunnel : Option String) (lines : List Line) (start : ω) :
    Summary ω :=
  let fleet : Fleet ω := { registry := job.registry, outside := start }
  let lines := lines ++ [⟨.info, s!"Loaded {job.registry.plans.length} transports"⟩]
  match tunnel with
  | none => perform w job lines [] fleet
  | some name =>
    match job.registry.create name with
    | .error e =>
      { exit := .failure, printed := lines.map .line ++ [refused e.message], after := start }
    | .ok t =>
      let (result, own, fleet) := fleet.bringUp w job.order.session t
      perform w job (lines ++ own ++ [broughtUpLine name result]) [.broughtUp t.plan result] fleet

def proceed (env : Environment ω) (a : Arguments) (lines : List Line) (s : Settings) : Summary ω :=
  if a.testOnly then
    let passed : Line := ⟨.info, "Configuration test passed"⟩
    { exit := .success, printed := (lines ++ [passed]).map .line, after := env.start }
  else
    match prepare a s with
    | .error e =>
      { exit := .failure, printed := lines.map .line ++ [refused e.message], after := env.start }
    | .ok job => carryOut (env.outside job.client) job a.tunnel lines env.start

def isShown (f : Filter) : Printed → Bool
  | .line l => f.shows l
  | .plain _ => true

/-- The level that is asked for, in the arguments or else in the settings. -/
def levelText (a : Arguments) (loaded : Except LoadFault Settings) : String :=
  match a.logLevel, loaded with
  | some level, _ => level
  | none, .ok s => s.logLevel.getD "info"
  | none, .error _ => "info"

def execute (env : Environment ω) (a : Arguments) : Summary ω :=
  let loaded := Settings.load (env.file a.settingsFile)
  match Filter.parse (levelText a loaded) with
  | .error e => { exit := .failure, printed := badLevel e, after := env.start }
  | .ok f =>
    let lines : List Line :=
      [⟨.info, title⟩, ⟨.info, s!"Loading configuration from: {a.settingsFile}"⟩]
    let summary : Summary ω :=
      match loaded with
      | .error e =>
        let line : Line := ⟨.error, s!"Failed to load configuration: {e.failure.message}"⟩
        { exit := .failure, printed := (lines ++ [line]).map .line, after := env.start }
      | .ok s => proceed env a lines s
    { summary with printed := summary.printed.filter (isShown f) }

def run (env : Environment ω) (args : List String) : Summary ω :=
  match Arguments.parse args with
  | .run a => execute env a
  | .help => { exit := .success, output := bytesOf helpText, after := env.start }
  | .version => { exit := .success, output := bytesOf (versionText ++ "\n"), after := env.start }
  | .misused => { exit := .misused, after := env.start }

def Printed.text : Printed → String
  | line l => l.text
  | plain s => s

end RouteCascade.Cli
