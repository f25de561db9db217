import RouteCascade.Cause
import RouteCascade.Net.Address
import RouteCascade.Net.HostPort
import RouteCascade.Tunnel.Stream

/-!
# Asking a SOCKS proxy for a tunnel

The client's side of version 5 of SOCKS: the choice of a method, a user name and a password if the
proxy asks for them, and the request for a connection. The reply is read to its last byte and no
further.
-/
namespace RouteCascade.Tunnel

open Text Net

structure Credentials where
  username : String
  password : String
  deriving DecidableEq, Repr

inductive Socks5Fault where
  | greetingNotSent (error : String)
  | choiceNotRead (error : String)
  | choiceVersion
  | noMethod
  | unknownMethod (method : UInt8)
  | credentialsMissing
  | credentialsTooLong
  | credentialsRefused
  | requestNotSent (error : String)
  | replyNotRead (error : String)
  | replyVersion
  | refused (code : UInt8)
  | replyAddress
  | hostTooLong
  /-- An error of the system in the middle of a message. -/
  | interrupted (error : String)
  deriving DecidableEq, Repr

namespace Socks5

def replyText (code : UInt8) : String :=
  match code.toNat with
  | 1 => "General SOCKS server failure"
  | 2 => "Connection not allowed by ruleset"
  | 3 => "Network unreachable"
  | 4 => "Host unreachable"
  | 5 => "Connection refused"
  | 6 => "TTL expired"
  | 7 => "Command not supported"
  | 8 => "Address type not supported"
  | n => s!"Unknown error: {n}"

def version : UInt8 := 5

def noAuthentication : UInt8 := 0

def withPassword : UInt8 := 2

def noneAcceptable : UInt8 := 255

/-- The offer of methods: a password is offered if there is one. -/
def greeting (credentials : Option Credentials) : Bytes :=
  match credentials with
  | some _ => [version, 2, noAuthentication, withPassword]
  | none => [version, 1, noAuthentication]

/-- The longest user name, password or host name in bytes. -/
def maxText : Nat := 255

/-- A text with its length in front. -/
def counted (s : String) : Bytes := UInt8.ofNat (bytesOf s).length :: bytesOf s

def passwordMessage (c : Credentials) : Bytes := 1 :: (counted c.username ++ counted c.password)

/-- The two octets of a port, the higher first. -/
def portOctets (p : Port) : Bytes := [UInt8.ofNat (p.toNat / 256), UInt8.ofNat (p.toNat % 256)]

/-- The host as it is written in a request: an address as its octets, a name as itself. Brackets around
an address do not count. -/
def hostOctets (host : String) : Except Socks5Fault Bytes :=
  let bare := String.ofList (stripBrackets host.toList)
  match Ipv4.parse? bare, Ipv6.parse? bare with
  | some a, _ => .ok (1 :: a.octets)
  | none, some a => .ok (4 :: a.octets)
  | none, none =>
    if maxText < (bytesOf host).length then .error .hostTooLong else .ok (3 :: counted host)

def request (host : String) (port : Port) : Except Socks5Fault Bytes :=
  match hostOctets host with
  | .ok h => .ok ([version, 1, 0] ++ h ++ portOctets port)
  | .error e => .error e

/-- A conversation whose faults are those of the system, in the middle of a message. -/
def plainly {α : Type} (t : Talk String α) : Talk Socks5Fault α := t.mapFault .interrupted

def authenticate (credentials : Option Credentials) : Talk Socks5Fault Unit := do
  let some c := credentials | Talk.fail .credentialsMissing
  if maxText < (bytesOf c.username).length ∨ maxText < (bytesOf c.password).length then
    Talk.fail .credentialsTooLong
  else
    plainly (Talk.write (passwordMessage c))
    let answer ← plainly (Talk.readExactly 2)
    if answer[1]? = some 0 then pure () else Talk.fail .credentialsRefused

def agree (credentials : Option Credentials) : Talk Socks5Fault Unit := do
  (Talk.write (greeting credentials)).mapFault .greetingNotSent
  let choice ← (Talk.readExactly 2).mapFault .choiceNotRead
  match choice with
  | [v, method] =>
    if v ≠ version then Talk.fail .choiceVersion
    else if method = noAuthentication then pure ()
    else if method = withPassword then authenticate credentials
    else if method = noneAcceptable then Talk.fail .noMethod
    else Talk.fail (.unknownMethod method)
  | _ => Talk.fail .choiceVersion

/-- Reads over the address in a reply, of a given type, and the port after it. -/
def skipAddress (addressType : UInt8) : Talk Socks5Fault Unit := do
  if addressType = 1 then
    let _ ← plainly (Talk.readExactly 6)
  else if addressType = 4 then
    let _ ← plainly (Talk.readExactly 18)
  else if addressType = 3 then
    let length ← plainly (Talk.readExactly 1)
    let _ ← plainly (Talk.readExactly ((length.headD 0).toNat + 2))
  else Talk.fail .replyAddress

def readReply : Talk Socks5Fault Unit := do
  let reply ← (Talk.readExactly 4).mapFault .replyNotRead
  match reply with
  | [v, code, _, addressType] =>
    if v ≠ version then Talk.fail .replyVersion
    else if code ≠ 0 then Talk.fail (.refused code)
    else skipAddress addressType
  | _ => Talk.fail .replyVersion

def connect (credentials : Option Credentials) (host : String) (port : Port) : Talk Socks5Fault Unit := do
  agree credentials
  match request host port with
  | .error e => Talk.fail e
  | .ok r =>
    (Talk.write r).mapFault .requestNotSent
    readReply

end Socks5

def Socks5Fault.failure : Socks5Fault → Failure
  | greetingNotSent e => ⟨.connection, s!"Failed to send SOCKS5 greeting: {e}"⟩
  | choiceNotRead e => ⟨.connection, s!"Failed to read SOCKS5 response: {e}"⟩
  | choiceVersion => ⟨.protocol, "Invalid SOCKS5 version"⟩
  | noMethod => ⟨.auth, "No acceptable authentication method"⟩
  | unknownMethod m => ⟨.protocol, s!"Unsupported authentication method: {m}"⟩
  | credentialsMissing => ⟨.auth, "Credentials required for authentication"⟩
  | credentialsTooLong => ⟨.auth, "Username or password too long"⟩
  | credentialsRefused => ⟨.auth, "Authentication failed"⟩
  | requestNotSent e => ⟨.connection, s!"Failed to send SOCKS5 connect request: {e}"⟩
  | replyNotRead e => ⟨.connection, s!"Failed to read SOCKS5 reply: {e}"⟩
  | replyVersion => ⟨.protocol, "Invalid SOCKS5 version in reply"⟩
  | refused code => ⟨.connection, Socks5.replyText code⟩
  | replyAddress => ⟨.protocol, "Invalid address type in reply"⟩
  | hostTooLong => ⟨.connection, "Domain name too long"⟩
  | interrupted e => (Cause.stream e).failure

end RouteCascade.Tunnel
