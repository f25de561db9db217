import RouteCascade.Yaml.Node
import RouteCascade.Yaml.Scalar
import RouteCascade.Yaml.Value

/-!
# Complaints

Why a document is not what was asked for, and the wording of that. A complaint about a node names the
way to it and where it stands; at the very start of a text neither is mentioned.
-/
namespace RouteCascade.Yaml

open Text

inductive Step where
  | item (index : Nat)
  | entry (key : String)
  /-- The value of a key that is no scalar. -/
  | unnamed
  deriving DecidableEq, Repr

/-- The way to a node, the last step first. -/
abbrev Way := List Step

def Way.text : Way → String
  | [] => "."
  | .item i :: way => s!"{Way.text way}[{i}]"
  | .entry key :: way => inside way ++ key
  | .unnamed :: way => inside way ++ "?"
where
  /-- A way with a point after it, unless it is empty. -/
  inside (way : Way) : String := match way with
    | [] => ""
    | s :: way => Way.text (s :: way) ++ "."

inductive Found where
  | scalar (s : Scalar)
  | sequence
  | mapping
  deriving DecidableEq, Repr

def Found.text : Found → String
  | scalar .null => "unit value"
  | scalar (.bool b) => "boolean " ++ Value.repeatedText.inTicks (if b then "true" else "false")
  | scalar (.integer i) => "integer " ++ Value.repeatedText.inTicks (toString i)
  | scalar (.wide i) =>
    "integer " ++ Value.repeatedText.inTicks (toString i) ++ (if 0 ≤ i then " as u128" else " as i128")
  | scalar (.float x) => "floating point " ++ Value.repeatedText.inTicks x.plainText
  | scalar (.text s) => s!"string {quoted s}"
  | sequence => "sequence"
  | mapping => "map"

inductive Complaint where
  | wrongType (found : Found) (expected : String)
  | wrongValue (found : Found) (expected : String)
  | missingField (name : String)
  | duplicateField (name : String)
  | repeatedKey (key : Value)
  | localTag

def Complaint.text : Complaint → String
  | wrongType found expected => s!"invalid type: {found.text}, expected {expected}"
  | wrongValue found expected => s!"invalid value: {found.text}, expected {expected}"
  | missingField name => "missing field " ++ Value.repeatedText.inTicks name
  | duplicateField name => "duplicate field " ++ Value.repeatedText.inTicks name
  | repeatedKey key => key.repeatedText
  | localTag => "untagged and internally tagged enums do not support enum input"

inductive Fault where
  | cut (cut : Cut)
  | endOfText
  | tooDeep (mark : Mark)
  | tooManyRepetitions
  | moreDocuments
  | complaint (complaint : Complaint) (mark : Mark) (way : Way)

/-- Where something is, unless it is at the very start. -/
def Mark.place (m : Mark) : String := if m.isOrigin then "" else s!" at {m.text}"

def Fault.message : Fault → String
  | cut (.malformed f) => f.message
  | cut (.unknownAnchor m) => s!"unknown anchor{m.place}"
  | endOfText => "EOF while parsing a value"
  | tooDeep m => s!"recursion limit exceeded{m.place}"
  | tooManyRepetitions => "repetition limit exceeded"
  | moreDocuments => "deserializing from YAML containing more than one document is not supported"
  | complaint c m way => (if way.isEmpty then "" else Way.text way ++ ": ") ++ c.text ++ m.place

end RouteCascade.Yaml
