import RouteCascade.Text.Ascii

/-!
# Arguments

The arguments of the command line. An option with a value takes the next argument, unless that starts
with a hyphen, or what follows an equals sign. Options of one letter may be put together. All but the
headers may be given once only.
-/
namespace RouteCascade.Cli

open Text

structure Arguments where
  settingsFile : String := "config.yaml"
  path : Option String := none
  headers : List String := []
  data : Option String := none
  noTemporary : Bool := false
  tunnel : Option String := none
  logLevel : Option String := none
  testOnly : Bool := false
  deriving DecidableEq, Repr

inductive ValueOption where
  | settingsFile | path | header | data | tunnel | logLevel
  deriving DecidableEq, Repr

inductive Switch where
  | noTemporary | testOnly | help | version
  deriving DecidableEq, Repr

inductive Named where
  | value (o : ValueOption)
  | switch (s : Switch)
  deriving DecidableEq, Repr

inductive Parsed where
  | run (a : Arguments)
  | help
  | version
  /-- It is not well formed. -/
  | misused
  deriving DecidableEq, Repr

namespace Arguments

def long? : String → Option Named
  | "config" => some (.value .settingsFile)
  | "path" => some (.value .path)
  | "header" => some (.value .header)
  | "data" => some (.value .data)
  | "tunnel" => some (.value .tunnel)
  | "log-level" => some (.value .logLevel)
  | "no-temporary" => some (.switch .noTemporary)
  | "test" => some (.switch .testOnly)
  | "help" => some (.switch .help)
  | "version" => some (.switch .version)
  | _ => none

def short? : Char → Option Named
  | 'c' => some (.value .settingsFile)
  | 'p' => some (.value .path)
  | 'H' => some (.value .header)
  | 'd' => some (.value .data)
  | 't' => some (.switch .testOnly)
  | 'h' => some (.switch .help)
  | 'V' => some (.switch .version)
  | _ => none

/-- The arguments read so far, and the options among them. -/
structure Draft where
  arguments : Arguments := { }
  given : List Named := []

/-- Why reading ends before the last argument. -/
inductive Stop where
  | misused | help | version

/-- Takes down that an option was given, once only unless it may be repeated. -/
def note (d : Draft) (n : Named) : Except Stop Draft :=
  if n ≠ .value .header ∧ n ∈ d.given then .error .misused else .ok { d with given := n :: d.given }

def setValue (o : ValueOption) (v : String) (d : Draft) : Except Stop Draft := do
  let d ← note d (.value o)
  let a := d.arguments
  match o with
  | .settingsFile =>
    if v.isEmpty then .error .misused else .ok { d with arguments := { a with settingsFile := v } }
  | .path => .ok { d with arguments := { a with path := some v } }
  | .header => .ok { d with arguments := { a with headers := a.headers ++ [v] } }
  | .data => .ok { d with arguments := { a with data := some v } }
  | .tunnel => .ok { d with arguments := { a with tunnel := some v } }
  | .logLevel => .ok { d with arguments := { a with logLevel := some v } }

def setSwitch (s : Switch) (d : Draft) : Except Stop Draft := do
  let d ← note d (.switch s)
  let a := d.arguments
  match s with
  | .noTemporary => .ok { d with arguments := { a with noTemporary := true } }
  | .testOnly => .ok { d with arguments := { a with testOnly := true } }
  | .help => .error .help
  | .version => .error .version

/-- Reads an argument with a long name; an option may be left waiting for its value. -/
def readLong (s : List Char) (d : Draft) : Except Stop (Draft × Option ValueOption) :=
  let (name, value) :=
    match splitFirst '=' s with
    | some (n, v) => (n, some (String.ofList v))
    | none => (s, none)
  match long? (String.ofList name), value with
  | some (.value o), some v => do pure (← setValue o v d, none)
  | some (.value o), none => pure (d, some o)
  | some (.switch s), none => do pure (← setSwitch s d, none)
  | some (.switch _), some _ => .error .misused
  | none, _ => .error .misused

/-- Reads options of one letter that are put together. -/
def readShort : List Char → Draft → Except Stop (Draft × Option ValueOption)
  | [], d => pure (d, none)
  | c :: cs, d =>
    match short? c with
    | none => .error .misused
    | some (.switch s) => do readShort cs (← setSwitch s d)
    | some (.value o) =>
      match cs with
      | [] => pure (d, some o)
      | '=' :: v => do pure (← setValue o (String.ofList v) d, none)
      | v => do pure (← setValue o (String.ofList v) d, none)

/-- Reads arguments, with the option that waits for its value. -/
def readAll : List String → Option ValueOption → Draft → Except Stop Draft
  | [], none, d => .ok d
  | [], some _, _ => .error .misused
  | arg :: args, waiting, d =>
    match arg.toList, waiting with
    | ['-', '-'], none => if args.isEmpty then .ok d else .error .misused
    | '-' :: '-' :: s, none => do
      let (d, waiting) ← readLong s d
      readAll args waiting d
    | '-' :: c :: s, none => do
      let (d, waiting) ← readShort (c :: s) d
      readAll args waiting d
    | '-' :: _ :: _, some _ => .error .misused
    | _, some o => do readAll args none (← setValue o arg d)
    | _, none => .error .misused

/-- Reads a command line. A path has to be given unless the settings are only tested. -/
def parse (args : List String) : Parsed :=
  match readAll args none { } with
  | .ok d => if d.arguments.path.isNone && !d.arguments.testOnly then .misused else .run d.arguments
  | .error .misused => .misused
  | .error .help => .help
  | .error .version => .version

end Arguments

end RouteCascade.Cli
