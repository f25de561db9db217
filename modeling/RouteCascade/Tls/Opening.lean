import RouteCascade.Text.Ascii
import RouteCascade.Text.Quoted
import RouteCascade.Tls.Alert

/-!
# The opening of a secure connection

What bytes from the other side amount to as long as nothing has been agreed on. They come in records:
a type, a version, a length and a payload. Only a handshake message that answers the greeting may come,
or alerts; a few mere warnings are passed over.
-/
namespace RouteCascade.Tls

open Text

inductive OpeningFault where
  /-- Something is wrong with a record or a message; the text names what. -/
  | corrupt (what : String)
  /-- The other side gives up, with an alert. -/
  | alert (code : UInt8)
  | tooManyWarnings
  /-- A handshake message that does not answer the greeting. -/
  | unexpectedMessage (code : UInt8)
  /-- A record that carries no handshake message. -/
  | unexpectedRecord (name : String)
  | interleaved
  deriving DecidableEq, Repr

def OpeningFault.message : OpeningFault → String
  | corrupt what => s!"received corrupt message of type {what}"
  | alert code => s!"received fatal alert: {alertName code}"
  | tooManyWarnings => "peer misbehaved: TooManyWarningAlertsReceived"
  | unexpectedMessage code =>
    s!"received unexpected handshake message: got {messageName code} when expecting " ++
      "ServerHello or HelloRetryRequest"
  | unexpectedRecord name => s!"received unexpected message: got {name} when expecting Handshake"
  | interleaved => "peer misbehaved: MessageInterleavedWithHandshakeMessage"

namespace Opening

/-- Something due in a message is missing. -/
def missing (what : String) : OpeningFault := .corrupt s!"MissingData({quoted what})"

/-- A message goes on after its end. -/
def trailing (what : String) : OpeningFault := .corrupt s!"TrailingData({quoted what})"

inductive RecordType where
  | changeCipher | alert | handshake | data | heartbeat
  deriving DecidableEq, Repr

def recordType? (b : UInt8) : Option RecordType :=
  if b = 20 then some .changeCipher
  else if b = 21 then some .alert
  else if b = 22 then some .handshake
  else if b = 23 then some .data
  else if b = 24 then some .heartbeat
  else none

/-- A number of two bytes. -/
def pair (high low : UInt8) : Nat := high.toNat * 256 + low.toNat

/-- A version that a record may bear: any of the third generation, the one before, and those for
datagrams. -/
def isVersion (v : Nat) : Bool := v / 256 == 3 || [0x0200, 0xFEFC, 0xFEFD, 0xFEFF].contains v

def tooLong : Nat := 18432

inductive Taken where
  | record (type : RecordType) (payload rest : Bytes)
  /-- More bytes are needed. -/
  | more
  | fault (cause : OpeningFault)

/-- Takes a record off the front. A fault is seen as soon as its bytes are there. -/
def takeRecord : Bytes → Taken
  | [] => .more
  | t :: s =>
    match recordType? t, s with
    | none, _ => .fault (.corrupt "InvalidContentType")
    | some type, v₁ :: v₂ :: s =>
      if !isVersion (pair v₁ v₂) then .fault (.corrupt "UnknownProtocolVersion") else
      match s with
      | n₁ :: n₂ :: s =>
        let n := pair n₁ n₂
        if n = 0 ∧ type ≠ .data then .fault (.corrupt "InvalidEmptyPayload")
        else if tooLong ≤ n then .fault (.corrupt "MessageTooLarge")
        else if s.length < n then .more
        else .record type (s.take n) (s.drop n)
      | _ => .more
    | some _, _ => .more

/-- The parts of known size that a handshake message starts with, with their sizes. -/
def leadingParts : Nat → List (String × Nat)
  | 1 | 2 => [("ProtocolVersion", 2), ("Random", 32), ("u8", 1)]
  | 4 => [("u32", 4), ("u16", 2)]
  | 8 => [("u16", 2)]
  | 11 => [("u24", 3)]
  | 13 => [("u8", 1)]
  | 15 => [("SignatureScheme", 2), ("u16", 2)]
  | 22 => [("CertificateStatusType", 1)]
  | 24 => [("KeyUpdateRequest", 1)]
  | _ => []

/-- The first part for which some bytes are not enough. -/
def lacking? : List (String × Nat) → Nat → Option String
  | [], _ => none
  | (name, size) :: parts, n => if n < size then some name else lacking? parts (n - size)

def hasNoContent (code : UInt8) : Bool := code == 5 || code == 14

/-- The messages that exist on paper only. -/
def isFictitious (code : UInt8) : Bool := code == 6 || code == 254

/-- What a whole handshake message amounts to; an answer to the greeting is no fault. -/
def judge (code : UInt8) (body : Bytes) : Option OpeningFault :=
  match lacking? (leadingParts code.toNat) body.length with
  | some part => some (missing part)
  | none =>
    if isFictitious code then some (.corrupt s!"UnexpectedMessage({quoted (messageName code)})")
    else if hasNoContent code && !body.isEmpty then some (trailing (messageName code))
    else if code = 2 then none
    else some (.unexpectedMessage code)

def maxMessage : Nat := 65535

/-- What the payload of a handshake record amounts to, with the payloads before it that a message goes
on from. -/
def judgeMessage : Bytes → Option OpeningFault
  | code :: n₁ :: n₂ :: n₃ :: body =>
    let n := n₁.toNat * 65536 + pair n₂ n₃
    if maxMessage < n then some (.corrupt "HandshakePayloadTooLarge")
    else if body.length < n then none
    else judge code (body.take n)
  | _ => none

def isWhole : Bytes → Bool
  | _ :: n₁ :: n₂ :: n₃ :: body => n₁.toNat * 65536 + pair n₂ n₃ ≤ body.length
  | _ => false

/-- What an alert amounts to: a warning, or a fault. -/
def judgeAlert : Bytes → Option OpeningFault
  | [] => some (missing "AlertLevel")
  | [_] => some (missing "AlertDescription")
  | [level, code] => if level = 1 then none else some (.alert code)
  | _ => some (trailing "AlertMessagePayload")

/-- What a change of ciphers amounts to: it is always out of place. -/
def judgeChange : Bytes → OpeningFault
  | [1] => .unexpectedRecord "ChangeCipherSpec"
  | 1 :: _ => trailing "ChangeCipherSpecPayload"
  | _ => .corrupt "InvalidCcs"

def maxWarnings : Nat := 4

inductive Result where
  /-- Nothing is wrong so far; these bytes are the start of something. -/
  | pending (rest : Bytes)
  /-- The greeting is answered. -/
  | answered
  | fault (cause : OpeningFault)
  deriving DecidableEq, Repr

/-- Reads records, with the start of a handshake message and the number of warnings so far. -/
def readFrom : Nat → Bytes → Nat → Bytes → Result
  | 0, message, _, s => .pending (message ++ s)
  | fuel + 1, message, warnings, s =>
    match takeRecord s with
    | .more => .pending (message ++ s)
    | .fault e => .fault e
    | .record type payload rest =>
      match type with
      | .handshake =>
        let message := message ++ payload
        match judgeMessage message with
        | some e => .fault e
        | none => if isWhole message then .answered else readFrom fuel message warnings rest
      | .alert =>
        if !message.isEmpty then .fault .interleaved else
        match judgeAlert payload with
        | some e => .fault e
        | none =>
          if maxWarnings ≤ warnings then .fault .tooManyWarnings
          else readFrom fuel message (warnings + 1) rest
      | .changeCipher => .fault (if message.isEmpty then judgeChange payload else .interleaved)
      | .data => .fault (if message.isEmpty then .unexpectedRecord "ApplicationData" else .interleaved)
      | .heartbeat => .fault (if message.isEmpty then .corrupt "InvalidContentType" else .interleaved)

def read (s : Bytes) : Result := readFrom (s.length + 1) [] 0 s

end Opening

end RouteCascade.Tls
