import RouteCascade.Failure
import RouteCascade.Text.Hex
import RouteCascade.Text.Base64
import RouteCascade.Digest.Sha256

/-!
# Pinned identities

The identity that a server's certificate is pinned to: the certificate itself or its SHA-256
fingerprint. An identity is written as a fingerprint; it is read either as `sha256:` with sixty-four
hexadecimal digits or as a certificate in base64, which may be broken up by blanks.
-/
namespace RouteCascade

open Text Digest

structure Fingerprint where
  bytes : Bytes
  length_eq : bytes.length = 32
  deriving DecidableEq

def Fingerprint.of (message : Bytes) : Fingerprint := ⟨sha256 message, length_sha256 message⟩

/-- What a certificate has to be. -/
inductive Identity where
  /-- Exactly these bytes. -/
  | certificate (der : Bytes)
  /-- Any bytes with this fingerprint. -/
  | fingerprint (print : Fingerprint)
  deriving DecidableEq

inductive IdentityFault where
  | empty
  | hex (fault : Hex.Fault)
  | length
  | base64 (fault : Base64.Fault)
  deriving DecidableEq, Repr

def IdentityFault.message : IdentityFault → String
  | empty => "Server certificate cannot be empty"
  | hex e => s!"Invalid certificate fingerprint: {e.message}"
  | length => "Certificate fingerprint must be 32 bytes"
  | base64 e => s!"Invalid base64 certificate: {e.message}"

def IdentityFault.failure (e : IdentityFault) : Failure := ⟨.config, e.message⟩

namespace Identity

def fingerprintMark : List Char := "sha256:".toList

def bytesOfChars (s : List Char) : Bytes := bytesOf (String.ofList s)

def parseFingerprint (digits : List Char) : Except IdentityFault Identity :=
  match Hex.decode (bytesOfChars digits) with
  | .error e => .error (.hex e)
  | .ok bytes =>
    if h : bytes.length = 32 then .ok (.fingerprint ⟨bytes, h⟩) else .error .length

def parseCertificate (s : List Char) : Except IdentityFault Identity :=
  match Base64.decode (bytesOfChars (removeBlanks s)) with
  | .error e => .error (.base64 e)
  | .ok der => .ok (.certificate der)

/-- Reads an identity. The blanks around it do not count. -/
def parse (text : String) : Except IdentityFault Identity :=
  let s := trim text.toList
  if s.isEmpty then .error .empty
  else if fingerprintMark.isPrefixOf s then parseFingerprint (s.drop fingerprintMark.length)
  else parseCertificate s

/-- The fingerprint that every matching certificate has. -/
def digest : Identity → Fingerprint
  | .certificate der => .of der
  | .fingerprint p => p

def isMatch (i : Identity) (certificate : Bytes) : Bool :=
  match i with
  | .certificate der => der == certificate
  | .fingerprint p => Fingerprint.of certificate == p

/-- An identity is written as its fingerprint. -/
def text (i : Identity) : String := "sha256:" ++ Hex.text i.digest.bytes

/-- A matching certificate has the identity's fingerprint. -/
theorem digest_of_isMatch {i : Identity} {c : Bytes} (h : i.isMatch c = true) :
    Fingerprint.of c = i.digest := by
  cases i with
  | certificate der => simp only [isMatch, beq_iff_eq] at h; simp [digest, h]
  | fingerprint p => simpa [isMatch, digest] using h

end Identity

end RouteCascade
