import RouteCascade.Http.FieldMap

/-!
# Replies off the wire

Reading the reply to one request from the bytes that a connection delivers and from the way it ends.
Interim replies are passed over. A body is delimited by chunks, by a length or by the end of the
connection. A connection that stays open without delivering what is due leaves the reader waiting.
-/
namespace RouteCascade.Http

open Text

inductive Ending where
  /-- It was closed in order. -/
  | closed
  /-- It was cut off. -/
  | broken
  /-- It stays open, and nothing more comes. -/
  | silent
  deriving DecidableEq, Repr

inductive ReplyFault where
  | version | field | status | tooLarge | contentLength | unexpectedTransferCoding
  | incomplete | connection | body
  deriving DecidableEq, Repr

def ReplyFault.message : ReplyFault → String
  | version => "invalid HTTP version parsed"
  | field => "invalid HTTP header parsed"
  | status => "invalid HTTP status-code parsed"
  | tooLarge => "message head is too large"
  | contentLength => "invalid content-length parsed"
  | unexpectedTransferCoding => "unexpected transfer-encoding parsed"
  | incomplete => "connection closed before message completed"
  | connection => "connection error"
  | body => "error reading a body from connection"

structure Reply where
  code : Nat
  body : Bytes
  deriving DecidableEq, Repr

inductive Reading (α : Type) where
  | done (value : α)
  | fault (cause : ReplyFault)
  | waiting
  deriving DecidableEq, Repr

def maxReplyFields : Nat := 100

/-- The most bytes that are held while the head of a reply is incomplete. -/
def maxReplyHead : Nat := 417792

/-- The fault that a malformed head amounts to. -/
def HeadFault.inReply : HeadFault → ReplyFault
  | .version => .version
  | .status => .status
  | .tooManyFields => .tooLarge
  | .fieldName | .fieldValue | .newLine | .token => .field

inductive BodyLength where
  | exactly (n : Nat)
  | chunked
  | toEnd
  deriving DecidableEq, Repr

def maxLength : Nat := Nat.pow 2 64 - 3

/-- The body that a reply head announces; interim replies have none. -/
def ResponseHead.bodyLength (h : ResponseHead) : Except ReplyFault (Option BodyLength) :=
  let fields := FieldMap.ofFields h.fields
  if h.code = 101 then .ok (some (.exactly 0))
  else if h.code < 200 then .ok none
  else if h.code = 204 ∨ h.code = 304 then .ok (some (.exactly 0))
  else if fields.has transferEncoding then
    if h.minor = 0 then .error .unexpectedTransferCoding
    else .ok (some (if endsChunked (fields.valuesOf transferEncoding) then .chunked else .toEnd))
  else if fields.has contentLength then
    match commonLength? (fields.valuesOf contentLength) with
    | some n => if n ≤ maxLength then .ok (some (.exactly n)) else .error .tooLarge
    | none => .error .contentLength
  else .ok (some .toEnd)

/-- What a reply that ends too early amounts to. -/
def Ending.early {α : Type} (early broken : ReplyFault) : Ending → Reading α
  | closed => .fault early
  | Ending.broken => .fault broken
  | silent => .waiting

/-- Reads heads until one is not interim. It gives the head, its body length and what follows. -/
def readHead (ending : Ending) : Nat → Bytes → Reading (ResponseHead × BodyLength × Bytes)
  | 0, _ => ending.early .incomplete .connection
  | fuel + 1, s =>
    match ResponseHead.parse maxReplyFields (s.take maxReplyHead) with
    | .more =>
      if maxReplyHead ≤ s.length then .fault .tooLarge else ending.early .incomplete .connection
    | .bad e => .fault e.inReply
    | .done h rest =>
      if h.code < 100 then .fault .status else
      match h.bodyLength with
      | .error e => .fault e
      | .ok (some n) => .done (h, n, rest ++ s.drop maxReplyHead)
      | .ok none => readHead ending fuel (rest ++ s.drop maxReplyHead)

/-- Where a reader of chunks stands; the numbers are sizes. -/
inductive ChunkState where
  | start
  | size (n : Nat)
  | blank (n : Nat)
  | extension (n : Nat) (seen : Nat)
  | sizeEnd (n : Nat)
  | data (left : Nat)
  | dataCr
  | dataLf
  | trailer
  | trailerLf
  | endCr
  | endLf
  deriving DecidableEq, Repr

def hexValue? (b : UInt8) : Option Nat :=
  if 48 ≤ b ∧ b ≤ 57 then some (b.toNat - 48)
  else if 97 ≤ b ∧ b ≤ 102 then some (b.toNat - 87)
  else if 65 ≤ b ∧ b ≤ 70 then some (b.toNat - 55)
  else none

/-- The most bytes of extensions, and of trailers. -/
def maxChunkExtras : Nat := 16384

/-- After the size `n` of a chunk, before its line end. -/
def ChunkState.afterSize (n : Nat) (b : UInt8) : Option ChunkState :=
  if isLineBlank b then some (.blank n)
  else if b = 59 then some (.extension n 0)
  else if b = cr then some (.sizeEnd n)
  else none

/-- One byte of a chunked body; `none` if it is out of place. -/
def ChunkState.step (s : ChunkState) (b : UInt8) : Option ChunkState :=
  match s with
  | start => (hexValue? b).map size
  | size n =>
    match hexValue? b with
    | some d => if n * 16 + d < Nat.pow 2 64 then some (size (n * 16 + d)) else none
    | none => afterSize n b
  | blank n => afterSize n b
  | extension n seen =>
    if b = cr then some (sizeEnd n)
    else if b = lf ∨ maxChunkExtras ≤ seen + 1 then none
    else some (extension n (seen + 1))
  | sizeEnd n => if b = lf then some (if n = 0 then endCr else data n) else none
  | data left => some (if left ≤ 1 then dataCr else data (left - 1))
  | dataCr => if b = cr then some dataLf else none
  | dataLf => if b = lf then some start else none
  | trailer => some (if b = cr then trailerLf else trailer)
  | trailerLf => if b = lf then some endCr else none
  | endCr => some (if b = cr then endLf else trailer)
  | endLf => none

def ChunkState.isData : ChunkState → Bool
  | data _ => true
  | _ => false

/-- The byte belongs to the trailers, the empty line included. -/
def ChunkState.isTrailer : ChunkState → Bool
  | trailer | trailerLf | endCr | endLf => true
  | _ => false

/-- Trailers are fields, one a line, and an empty line; none at all is just that line. -/
def trailersOk (t : Bytes) : Bool :=
  t == [cr, lf] ||
    (t.length ≤ maxChunkExtras &&
      match fieldBlock (t.count cr - 1) t with
      | .done _ _ => t.count cr ≤ maxReplyFields + 1
      | _ => false)

/-- Reads a chunked body. The parts read so far are kept backwards. -/
def readChunks (ending : Ending) (st : ChunkState) (data trailers : Bytes) : Bytes → Reading Bytes
  | [] => ending.early .body .body
  | b :: rest =>
    if st = .endLf ∧ b = lf then
      if trailersOk (trailers.reverse ++ [lf]) then .done data.reverse else .fault .body
    else
      match st.step b with
      | none => .fault .body
      | some st' =>
        readChunks ending st' (if st.isData then b :: data else data)
          (if st.isTrailer then b :: trailers else trailers) rest

def readBody (ending : Ending) (length : BodyLength) (s : Bytes) : Reading Bytes :=
  match length with
  | .exactly n => if n ≤ s.length then .done (s.take n) else ending.early .body .body
  | .toEnd =>
    match ending with
    | .closed => .done s
    | .broken => .fault .body
    | .silent => .waiting
  | .chunked => readChunks ending .start [] [] s

def Reply.read (ending : Ending) (s : Bytes) : Reading Reply :=
  match readHead ending (s.length + 1) s with
  | .waiting => .waiting
  | .fault e => .fault e
  | .done (h, n, rest) =>
    match readBody ending n rest with
    | .waiting => .waiting
    | .fault e => .fault e
    | .done body => .done ⟨h.code, body⟩

end RouteCascade.Http
