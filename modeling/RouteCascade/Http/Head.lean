import RouteCascade.Text.Ascii

/-!
# Message heads

The head of an HTTP/1 message: its first line and its fields, up to the empty line. `endOf?` finds
the end of a head by its last four bytes alone. `Request.parse` and `Response.parse` read a head
byte by byte; they end in one of three ways: a head with the bytes after it, a head that needs more
bytes, or a fault. A line may end in a bare line feed, so the two notions of an end can differ.
-/
namespace RouteCascade.Http

open Text

def cr : UInt8 := 13

def lf : UInt8 := 10

/-- A line end and an empty line: the last four bytes of a head. -/
def headEnd : Bytes := [cr, lf, cr, lf]

/-- The number of bytes up to and including the first end of a head. -/
def endOf? : Bytes → Option Nat
  | [] => none
  | b :: rest =>
    if headEnd.isPrefixOf (b :: rest) then some 4
    else (endOf? rest).map (· + 1)

def maxHead : Nat := 8192

inductive HeadFault where
  | fieldName | fieldValue | newLine | status | token | tooManyFields | version
  deriving DecidableEq, Repr

def HeadFault.message : HeadFault → String
  | fieldName => "invalid header name"
  | fieldValue => "invalid header value"
  | newLine => "invalid new line"
  | status => "invalid response status"
  | token => "invalid token"
  | tooManyFields => "too many headers"
  | version => "invalid HTTP version"

/-- What reading something off the front of some bytes comes to. -/
inductive Step (α : Type) where
  /-- It was read, and these bytes follow it. -/
  | done (value : α) (rest : Bytes)
  /-- The bytes end before it does. -/
  | more
  /-- No continuation can make it right. -/
  | bad (fault : HeadFault)
  deriving DecidableEq, Repr

def Step.andThen {α β : Type} (s : Step α) (f : α → Bytes → Step β) : Step β :=
  match s with
  | .done a rest => f a rest
  | .more => .more
  | .bad e => .bad e

@[simp] theorem Step.andThen_done {α β : Type} (a : α) (rest : Bytes) (f : α → Bytes → Step β) :
    (Step.done a rest).andThen f = f a rest := rfl

@[simp] theorem Step.andThen_more {α β : Type} (f : α → Bytes → Step β) :
    (Step.more : Step α).andThen f = .more := rfl

@[simp] theorem Step.andThen_bad {α β : Type} (e : HeadFault) (f : α → Bytes → Step β) :
    (Step.bad e : Step α).andThen f = .bad e := rfl

/-- The bytes of methods and field names: letters, digits and fifteen marks. -/
def isTokenByte (b : UInt8) : Bool :=
  (65 ≤ b && b ≤ 90) || (97 ≤ b && b ≤ 122) || (48 ≤ b && b ≤ 57) ||
    [33, 35, 36, 37, 38, 39, 42, 43, 45, 46, 94, 95, 96, 124, 126].contains b

/-- The bytes of a request target: all that are visible, and those beyond ASCII. -/
def isTargetByte (b : UInt8) : Bool := 33 ≤ b && b != 127

/-- The bytes of a field value and of a reason: a tab, or no control character. -/
def isValueByte (b : UInt8) : Bool := b == 9 || (32 ≤ b && b != 127)

def expect (b : UInt8) (fault : HeadFault) : Bytes → Step Unit
  | [] => .more
  | x :: rest => if x = b then .done () rest else .bad fault

/-- Skips the empty lines in front of a message. -/
def skipEmptyLines : Bytes → Step Unit
  | [] => .more
  | [b] => if b = cr ∨ b = lf then .more else .done () [b]
  | b :: c :: rest =>
    if b = cr then (if c = lf then skipEmptyLines rest else .bad .newLine)
    else if b = lf then skipEmptyLines (c :: rest)
    else .done () (b :: c :: rest)

def versionStart : Bytes := [72, 84, 84, 80, 47, 49, 46]

/-- Reads `HTTP/1.0` or `HTTP/1.1` and gives the minor version. Fewer than eight bytes may still
become a version if they are the start of one. -/
def version (s : Bytes) : Step Nat :=
  match s with
  | a :: b :: c :: d :: e :: f :: g :: m :: rest =>
    if [a, b, c, d, e, f, g] = versionStart then
      if m = 48 then .done 0 rest else if m = 49 then .done 1 rest else .bad .version
    else .bad .version
  | short => if short.isPrefixOf versionStart then .more else .bad .version

/-- Reads a line end: a line feed with or without a carriage return in front. -/
def newLine : Bytes → Step Unit
  | [] => .more
  | b :: rest =>
    if b = cr then expect lf .newLine rest
    else if b = lf then .done () rest
    else .bad .newLine

def span (p : UInt8 → Bool) : Bytes → Bytes × Bytes
  | [] => ([], [])
  | b :: rest => if p b then let (xs, r) := span p rest; (b :: xs, r) else ([], b :: rest)

/-- A field of a head: its name as it was written, and its value without the blanks around it. -/
structure Field where
  name : Bytes
  value : Bytes
  deriving DecidableEq, Repr

def isLineBlank (b : UInt8) : Bool := b == 32 || b == 9

def trimValueEnd (v : Bytes) : Bytes := (v.reverse.dropWhile isLineBlank).reverse

/-- Reads a field value up to and including the line end. -/
def fieldValue (s : Bytes) : Step Bytes :=
  let (value, rest) := span isValueByte (s.dropWhile isLineBlank)
  match rest with
  | [] => .more
  | b :: after =>
    if b = cr then (expect lf .fieldValue after).andThen fun () r => .done (trimValueEnd value) r
    else if b = lf then .done (trimValueEnd value) after
    else .bad .fieldValue

/-- Reads a field: a name, a colon right after it, and a value. -/
def field (s : Bytes) : Step Field :=
  match span isTokenByte s with
  | ([], []) => .more
  | ([], _ :: _) => .bad .fieldName
  | (_, []) => .more
  | (name, b :: after) =>
    if b = 58 then (fieldValue after).andThen fun value r => .done ⟨name, value⟩ r
    else .bad .fieldName

/-- Reads fields up to and including the empty line. At most `limit` fields are taken; one more is a
fault, found once it has been read itself. -/
def fields : Nat → Nat → Bytes → Step (List Field)
  | 0, _, _ => .more
  | _ + 1, _, [] => .more
  | fuel + 1, limit, b :: rest =>
    if b = cr then (expect lf .newLine rest).andThen fun () r => .done [] r
    else if b = lf then .done [] rest
    else
      (field (b :: rest)).andThen fun f r =>
        match limit with
        | 0 => .bad .tooManyFields
        | limit + 1 => (fields fuel limit r).andThen fun fs r' => .done (f :: fs) r'

def fieldBlock (limit : Nat) (s : Bytes) : Step (List Field) := fields (s.length + 1) limit s

structure RequestHead where
  method : Bytes
  target : String
  minor : Nat
  fields : List Field
  deriving DecidableEq, Repr

def requestMethod (s : Bytes) : Step Bytes :=
  match span isTokenByte s with
  | ([], []) => .more
  | ([], _ :: _) => .bad .token
  | (_, []) => .more
  | (m, b :: rest) => if b = 32 then .done m rest else .bad .token

/-- Reads a request target and the blank after it. The target is not empty, and it is text. -/
def requestTarget (s : Bytes) : Step String :=
  match span isTargetByte s with
  | (_, []) => .more
  | (t, b :: rest) =>
    if b ≠ 32 ∨ t.isEmpty then .bad .token
    else match ofBytes? t with
      | some text => .done text rest
      | none => .bad .token

def RequestHead.parse (limit : Nat) (s : Bytes) : Step RequestHead :=
  (skipEmptyLines s).andThen fun () s =>
  (requestMethod s).andThen fun m s =>
  (requestTarget s).andThen fun t s =>
  (version s).andThen fun v s =>
  (newLine s).andThen fun () s =>
  (fieldBlock limit s).andThen fun fs rest =>
  .done ⟨m, t, v, fs⟩ rest

structure ResponseHead where
  minor : Nat
  code : Nat
  fields : List Field
  deriving DecidableEq, Repr

def codeDigit : Bytes → Step Nat
  | [] => .more
  | b :: rest => if 48 ≤ b ∧ b ≤ 57 then .done (b.toNat - 48) rest else .bad .status

/-- Reads the rest of a status line after the code: nothing, or a blank and a reason. -/
def reason (s : Bytes) : Step Unit :=
  match s with
  | [] => .more
  | b :: rest =>
    if b = 32 then
      match span isValueByte rest with
      | (_, []) => .more
      | (_, c :: after) =>
        if c = cr then expect lf .status after
        else if c = lf then .done () after
        else .bad .status
    else if b = cr then expect lf .status rest
    else if b = lf then .done () rest
    else .bad .status

def ResponseHead.parse (limit : Nat) (s : Bytes) : Step ResponseHead :=
  (skipEmptyLines s).andThen fun () s =>
  (version s).andThen fun v s =>
  (expect 32 .version s).andThen fun () s =>
  (codeDigit s).andThen fun x s =>
  (codeDigit s).andThen fun y s =>
  (codeDigit s).andThen fun z s =>
  (reason s).andThen fun () s =>
  (fieldBlock limit s).andThen fun fs rest =>
  .done ⟨v, x * 100 + y * 10 + z, fs⟩ rest

end RouteCascade.Http
