import RouteCascade.Http.Head

/-!
# Header fields

The fields of a message under construction. Names are kept in small letters. Fields of one name stand
together, in the order in which they were added, at the place of the first of them.
-/
namespace RouteCascade.Http

open Text

abbrev FieldMap := List (Bytes × List Bytes)

namespace FieldMap

def maxNames : Nat := 24576

/-- Adds a value after those of the same name. -/
def append (name value : Bytes) : FieldMap → FieldMap
  | [] => [(name, [value])]
  | (n, vs) :: rest => if n = name then (n, vs ++ [value]) :: rest else (n, vs) :: append name value rest

def valuesOf (name : Bytes) (m : FieldMap) : List Bytes := (m.lookup name).getD []

def has (name : Bytes) (m : FieldMap) : Bool := m.any fun p => p.1 == name

/-- Puts one value in the place of all those of a name, or adds it at the end. -/
def replace (name value : Bytes) : FieldMap → FieldMap
  | [] => [(name, [value])]
  | (n, vs) :: rest => if n = name then (n, [value]) :: rest else (n, vs) :: replace name value rest

def mapLast (name : Bytes) (f : Bytes → Bytes) (m : FieldMap) : FieldMap :=
  m.map fun (n, vs) =>
    if n = name then (n, vs.dropLast ++ (vs.getLast?.map f).toList) else (n, vs)

/-- Takes out a name. The last group moves into the gap. -/
def remove (name : Bytes) (m : FieldMap) : FieldMap :=
  let before := m.takeWhile fun p => p.1 != name
  match m.drop before.length with
  | [] => m
  | [_] => before
  | _ :: after => before ++ after.getLast?.toList ++ after.dropLast

def toFields (m : FieldMap) : List Field := m.flatMap fun (n, vs) => vs.map fun v => ⟨n, v⟩

/-- Groups fields, with their names in small letters. -/
def ofFields (fs : List Field) : FieldMap :=
  fs.foldl (fun m f => m.append (f.name.map lowerByte) f.value) []

def lines (m : FieldMap) : Bytes :=
  m.toFields.flatMap fun f => f.name ++ [58, 32] ++ f.value ++ [cr, lf]

end FieldMap

def maxFieldName : Nat := 65535

/-- A field name in small letters, if the text is one. -/
def fieldName? (s : String) : Option Bytes :=
  let b := bytesOf s
  if b.isEmpty || maxFieldName < b.length || !b.all isTokenByte then none else some (b.map lowerByte)

/-- A field value, if the text is one: it may hold tabs, but no other control character. -/
def fieldValue? (s : String) : Option Bytes :=
  let b := bytesOf s
  if b.all isValueByte then some b else none

/-- The text of a field value without characters beyond ASCII. -/
def visibleText? (v : Bytes) : Option (List Char) :=
  if v.all fun b => b == 9 || (32 ≤ b && b < 127) then some (v.map fun b => Char.ofNat b.toNat)
  else none

/-- A length in a field: decimal digits for a number of sixty-four bits. -/
def lengthOf? (s : List Char) : Option Nat :=
  match decimal? (trim s) with
  | some n => if n < Nat.pow 2 64 then some n else none
  | none => none

/-- The one length that all the values of a length field give, also where a value lists several. -/
def commonLength? (values : List Bytes) : Option Nat :=
  match values.mapM fun v => (visibleText? v).bind fun s => (splitAll ',' s).mapM lengthOf? with
  | some nss =>
    match nss.flatten with
    | [] => none
    | n :: ns => if ns.all (· == n) then some n else none
  | none => none

/-- The last coding that transfer-coding values list is the chunked one. -/
def endsChunked (values : List Bytes) : Bool :=
  match values.getLast?.bind visibleText? with
  | some s => ((splitAll ',' s).getLast?.map fun c => (trim c).map lowerChar) == some "chunked".toList
  | none => false

def contentLength : Bytes := bytesOf "content-length"

def transferEncoding : Bytes := bytesOf "transfer-encoding"

end RouteCascade.Http
