import RouteCascade.Text.Ascii

/-!
# Request targets

The target of a request as a caller may give it: a path with a query, an absolute address, an
authority, or an asterisk. A fragment is dropped. Reading checks the characters only, it decodes
nothing, and writing gives back what was read, with the scheme of a web address in small letters
and an empty path as a slash.
-/
namespace RouteCascade.Http

open Text

inductive UriFault where
  | character | authority | format | empty | tooLong | schemeTooLong
  deriving DecidableEq, Repr

def UriFault.message : UriFault → String
  | character => "invalid uri character"
  | authority => "invalid authority"
  | format => "invalid format"
  | empty => "empty string"
  | tooLong => "uri too long"
  | schemeTooLong => "scheme too long"

/-- A request target. The path has no query mark in it; the query is without its mark. -/
structure Uri where
  scheme : Option String
  authority : String
  path : String
  query : Option String
  deriving DecidableEq, Repr

namespace Uri

def maxLength : Nat := 65534

def maxScheme : Nat := 64

/-- A byte that may stand in a path: those that need no percent-encoding, three marks that do but
are sent unencoded all the same, and everything beyond ASCII. -/
def isPathByte (b : UInt8) : Bool :=
  b == 0x21 || (0x24 ≤ b && b ≤ 0x3B) || b == 0x3D || (0x40 ≤ b && b ≤ 0x5F) ||
    (0x61 ≤ b && b ≤ 0x7A) || b == 0x7C || 0x7E ≤ b || b == 0x22 || b == 0x7B || b == 0x7D

def isQueryByte (b : UInt8) : Bool :=
  b == 0x21 || (0x24 ≤ b && b ≤ 0x3B) || b == 0x3D || 0x3F ≤ b

/-- A byte that may stand in an authority, or end it. -/
def isAuthorityByte (b : UInt8) : Bool :=
  b == 0x21 || (0x23 ≤ b && b ≤ 0x3B && b != 0x25) || b == 0x3D || (0x3F ≤ b && b ≤ 0x5B) ||
    b == 0x5D || b == 0x5F || (0x61 ≤ b && b ≤ 0x7A) || b == 0x7E

def isSchemeByte (b : UInt8) : Bool :=
  b == 0x2B || b == 0x2D || b == 0x2E || (0x30 ≤ b && b ≤ 0x39) ||
    (0x41 ≤ b && b ≤ 0x5A) || (0x61 ≤ b && b ≤ 0x7A)

/-- The text of some bytes; they were cut out of a text at ASCII characters. -/
def textOf (b : Bytes) : String := (ofBytes? b).getD ""

def readQuery (s : Bytes) : Except UriFault String :=
  let q := s.takeWhile (· != 0x23)
  if q.all isQueryByte then .ok (textOf q) else .error .character

/-- Reads a path and the query after it, up to a fragment mark. -/
def readPath (s : Bytes) : Except UriFault (String × Option String) :=
  let path := s.takeWhile fun b => b != 0x3F && b != 0x23
  if !path.all isPathByte then .error .character else
  match s.drop path.length with
  | 0x3F :: rest =>
    match readQuery rest with
    | .ok q => .ok (textOf path, some q)
    | .error e => .error e
  | _ => .ok (textOf path, none)

/-- What has been seen of an authority. The colons counted are those that may stand for a port: the
ones before an at sign belong to credentials, those in brackets to an address. -/
structure AuthorityScan where
  colons : Nat := 0
  opened : Bool := false
  closed : Bool := false
  percent : Bool := false
  atLast : Bool := false
  length : Nat := 0

def maxColons : Nat := 8

/-- Brackets come in pairs, at most one colon is left, something follows the at sign, and no percent
sign stands outside credentials and brackets. -/
def AuthorityScan.finish (st : AuthorityScan) : Except UriFault Nat :=
  if st.opened != st.closed || 1 < st.colons || st.atLast || st.percent then .error .authority
  else .ok st.length

/-- Reads an authority up to a slash, a query or a fragment mark and gives its length. -/
def authorityEnd (st : AuthorityScan) : Bytes → Except UriFault Nat
  | [] => st.finish
  | b :: rest =>
    let plain := { st with length := st.length + 1, atLast := false }
    if b = 0x2F ∨ b = 0x3F ∨ b = 0x23 then st.finish
    else if b = 0x3A then
      if maxColons ≤ st.colons then .error .authority
      else authorityEnd { plain with colons := st.colons + 1 } rest
    else if b = 0x5B then
      if st.percent || st.opened then .error .authority
      else authorityEnd { plain with opened := true } rest
    else if b = 0x5D then
      if !st.opened || st.closed then .error .authority
      else authorityEnd { plain with closed := true, colons := 0, percent := false } rest
    else if b = 0x40 then authorityEnd { plain with atLast := true, colons := 0, percent := false } rest
    else if b = 0x25 then authorityEnd { plain with percent := true } rest
    else if isAuthorityByte b then authorityEnd plain rest
    else .error .character

def startsWithIgnoringCase (start : String) (s : Bytes) : Bool :=
  let p := bytesOf start
  p.length ≤ s.length && (s.take p.length).map lowerByte == p

/-- The scheme in front of a target and what follows its `://`. -/
def readScheme (s : Bytes) : Except UriFault (Option String × Bytes) :=
  if startsWithIgnoringCase "http://" s then .ok (some "http", s.drop 7)
  else if startsWithIgnoringCase "https://" s then .ok (some "https", s.drop 8)
  else
    let name := s.takeWhile isSchemeByte
    match s.drop name.length with
    | 0x3A :: 0x2F :: 0x2F :: rest =>
      if s.length ≤ 3 then .ok (none, s)
      else if maxScheme < name.length then .error .schemeTooLong
      else .ok (some (textOf name), rest)
    | _ => .ok (none, s)

/-- Reads a target that does not start with a slash and is longer than one byte. -/
def readFull (s : Bytes) : Except UriFault Uri :=
  match readScheme s with
  | .error e => .error e
  | .ok (sch, rest) =>
    if rest.isEmpty then .error .empty else
    match authorityEnd { } rest with
    | .error e => .error e
    | .ok n =>
      match sch with
      | none =>
        if n ≠ rest.length then .error .format else .ok ⟨none, textOf rest, "", none⟩
      | some sch =>
        if n = 0 then .error .format else
        match readPath (rest.drop n) with
        | .error e => .error e
        | .ok (p, q) => .ok ⟨some sch, textOf (rest.take n), p, q⟩

def parse (text : String) : Except UriFault Uri :=
  let s := bytesOf text
  if maxLength < s.length then .error .tooLong else
  match s with
  | [] => .error .empty
  | [0x2A] => .ok ⟨none, "", "*", none⟩
  | 0x2F :: _ =>
    match readPath s with
    | .error e => .error e
    | .ok (p, q) => .ok ⟨none, "", p, q⟩
  | [_] =>
    match authorityEnd { } s with
    | .error e => .error e
    | .ok n => if n = 1 then .ok ⟨none, text, "", none⟩ else .error .character
  | _ => readFull s

def text (u : Uri) : String :=
  let start := match u.scheme with
    | some s => s ++ "://"
    | none => ""
  let path := if u.path.isEmpty && (u.scheme.isSome || u.query.isSome) then "/" else u.path
  let query := match u.query with
    | some q => "?" ++ q
    | none => ""
  start ++ u.authority ++ path ++ query

end Uri

end RouteCascade.Http
