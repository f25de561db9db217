import RouteCascade.Yaml.Token.Scalar

/-!
# Directives, anchors and tags

Reading what stands around the nodes of a document: the directives in front of it, and the names and
tags in front of its nodes. A tag is written with octets for the characters that may not stand in it.
-/
namespace RouteCascade.Yaml

open Text

def isTagChar (c : Char) : Bool :=
  isWord c || [';', '/', '?', ':', '@', '&', '=', '+', '$', '.', '%', '!', '~', '*', '\'', '(', ')'].contains c

def isVerbatimTagChar (c : Char) : Bool := isTagChar c || c == ',' || c == '[' || c == ']'

/-- The number of octets of a character, by the first of them; zero if it is none. -/
def octetCount (n : Nat) : Nat :=
  if n < 0x80 then 1 else if n < 0xC0 then 0 else if n < 0xE0 then 2 else if n < 0xF0 then 3
  else if n < 0xF8 then 4 else 0

/-- Reads one octet: a percent sign and two hexadecimal digits. -/
def readOctet? (c : Cursor) : Option Nat :=
  match c.rest with
  | '%' :: h :: l :: _ =>
    match hexValue? h, hexValue? l with
    | some x, some y => some (x * 16 + y)
    | _, _ => none
  | _ => none

def readOctets (fault : Problem → Cursor → SyntaxFault) :
    Nat → Bytes → Cursor → Except SyntaxFault (Bytes × Cursor)
  | 0, acc, c => .ok (acc, c)
  | n + 1, acc, c =>
    match readOctet? c with
    | none => .error (fault .uriOctet c)
    | some o =>
      if o < 0x80 ∨ 0xC0 ≤ o then .error (fault .uriTrailingOctet c)
      else readOctets fault n (UInt8.ofNat o :: acc) (c.skip 3)

def readOctetChar (fault : Problem → Cursor → SyntaxFault) (acc : Bytes) (c : Cursor) :
    Except SyntaxFault (Bytes × Cursor) :=
  match readOctet? c with
  | none => .error (fault .uriOctet c)
  | some o =>
    match octetCount o with
    | 0 => .error (fault .uriLeadingOctet c)
    | n + 1 => readOctets fault n (UInt8.ofNat o :: acc) (c.skip 3)

/-- Goes on reading a tag; what has been read is kept backwards. -/
def readTagChars (allowed : Char → Bool) (fault : Problem → Cursor → SyntaxFault) :
    Nat → Bytes → Cursor → Except SyntaxFault (Bytes × Cursor)
  | 0, acc, c => .ok (acc.reverse, c)
  | fuel + 1, acc, c =>
    match c.peek with
    | none => .ok (acc.reverse, c)
    | some x =>
      if !allowed x then .ok (acc.reverse, c)
      else if x == '%' then
        match readOctetChar fault acc c with
        | .error e => .error e
        | .ok (acc, c) => readTagChars allowed fault fuel acc c
      else readTagChars allowed fault fuel (bytesOf (String.singleton x) ++ acc) c.skip

/-- Reads the characters of a tag after those of `head`, of which the first one does not count. If
there was no head, at least one character has to come. -/
def readTagUri (allowed : Char → Bool) (context : Context) (start : Mark) (head : Bytes) (c : Cursor) :
    Except SyntaxFault (Bytes × Cursor) :=
  let fault (p : Problem) (c : Cursor) : SyntaxFault := ⟨p, c.mark, some (context, start)⟩
  match readTagChars allowed fault (c.rest.length + 1) (head.drop 1).reverse c with
  | .error e => .error e
  | .ok (uri, after) =>
    if head.isEmpty && after.mark.index == c.mark.index then .error (fault .tagUri after)
    else .ok (uri, after)

/-- Reads a tag handle: an exclamation mark and a name, which a second mark may close. In a directive
the second mark has to be there unless the handle is the first alone. -/
def readTagHandle (inDirective : Bool) (start : Mark) (c : Cursor) : Except SyntaxFault (Bytes × Cursor) :=
  if !c.isAt '!' then
    .error ⟨.tagMark, c.mark, some (if inDirective then .tagDirectiveHandle else .tagScan, start)⟩
  else
    let (name, after) := c.skip.span isWord
    let handle := bytesOf (String.ofList ('!' :: name))
    if after.isAt '!' then .ok (handle ++ [33], after.skip)
    else if inDirective && !name.isEmpty then
      .error ⟨.tagMark, after.mark, some (.tagDirectiveName, start)⟩
    else .ok (handle, after)

def readTag (inFlow : Bool) (c : Cursor) : Except SyntaxFault (Bytes × Bytes × Cursor) := do
  let start := c.mark
  let (handle, suffix, after) ←
    if c.peek 1 == some '<' then do
      let (uri, after) ← readTagUri isVerbatimTagChar .tagParse start [] (c.skip 2)
      if after.isAt '>' then pure (([] : Bytes), uri, after.skip)
      else .error ⟨.tagClose, after.mark, some (.tagScan, start)⟩
    else do
      let (handle, after) ← readTagHandle false start c
      if 1 < handle.length && handle.getLast? == some 33 then do
        let (uri, after) ← readTagUri isTagChar .tagParse start [] after
        pure (handle, uri, after)
      else do
        let (uri, after) ← readTagUri isTagChar .tagParse start handle after
        pure (if uri.isEmpty then (([] : Bytes), [33], after) else ([33], uri, after))
  if after.isGap || (inFlow && after.isAt ',') then pure (handle, suffix, after)
  else .error ⟨.tagEnd, after.mark, some (.tagScan, start)⟩

def endsAnchor (c : Char) : Bool := ['?', ':', ',', ']', '}', '%', '@', Char.ofNat 96].contains c

/-- Reads an anchor or an alias, at its mark. -/
def readAnchor (context : Context) (c : Cursor) : Except SyntaxFault (String × Cursor) :=
  let (name, after) := c.skip.span isWord
  if name.isEmpty || !(after.isGap || (after.peek).any endsAnchor) then
    .error ⟨.anchorName, after.mark, some (context, c.mark)⟩
  else .ok (String.ofList name, after)

def maxVersionDigits : Nat := 9

def readVersionNumber (start : Mark) (c : Cursor) : Except SyntaxFault (Nat × Cursor) :=
  let (ds, after) := c.span fun x => '0' ≤ x && x ≤ '9'
  if maxVersionDigits < ds.length then
    .error ⟨.versionNumberLength, (c.skip maxVersionDigits).mark, some (.versionDirective, start)⟩
  else if ds.isEmpty then .error ⟨.versionNumber, after.mark, some (.versionDirective, start)⟩
  else .ok ((decimal? ds).getD 0, after)

def readVersion (start : Mark) (c : Cursor) : Except SyntaxFault (Token.Kind × Cursor) := do
  let (major, c) ← readVersionNumber start (c.span isSpace).2
  if !c.isAt '.' then .error ⟨.versionPoint, c.mark, some (.versionDirective, start)⟩ else
  let (minor, c) ← readVersionNumber start c.skip
  pure (.versionDirective major minor, c)

def readTagDirective (start : Mark) (c : Cursor) : Except SyntaxFault (Token.Kind × Cursor) := do
  let (handle, c) ← readTagHandle true start (c.span isSpace).2
  if !((c.peek).any isSpace) then .error ⟨.tagSpace, c.mark, some (.tagDirectiveScan, start)⟩ else
  let (uri, c) ← readTagUri isVerbatimTagChar .tagDirectiveParse start [] (c.span isSpace).2
  if c.isGap then pure (.tagDirective handle uri, c)
  else .error ⟨.tagEnd, c.mark, some (.tagDirectiveScan, start)⟩

/-- Reads a directive, at its mark. It gives the place where the value ends, too. -/
def readDirective (c : Cursor) : Except SyntaxFault (Token.Kind × Mark × Cursor) := do
  let start := c.mark
  let (name, c) := c.skip.span isWord
  if name.isEmpty then .error ⟨.directiveName, c.mark, some (.directive, start)⟩ else
  if !c.isGap then .error ⟨.directiveNameEnd, c.mark, some (.directive, start)⟩ else
  let (kind, c) ←
    if name == "YAML".toList then readVersion start c
    else if name == "TAG".toList then readTagDirective start c
    else .error ⟨.directiveUnknown, c.mark, some (.directive, start)⟩
  let stop := c.mark
  let c := skipToLineEnd c
  if !c.isLineEnd then .error ⟨.directiveEnd, c.mark, some (.directive, start)⟩ else
  pure (kind, stop, c.skipBreak)

end RouteCascade.Yaml
