/-!
# Alerts

The registered names of alerts and of handshake messages, and what is shown for codes that have none.
-/
namespace RouteCascade.Tls

/-- What stands for a code of some kind without a registered name. -/
def unregistered (kind : String) (code : UInt8) : String :=
  s!"{kind}(0x{String.ofList (Nat.toDigits 16 code.toNat)})"

def alertName? : Nat → Option String
  | 0 => some "CloseNotify"
  | 10 => some "UnexpectedMessage"
  | 20 => some "BadRecordMac"
  | 21 => some "DecryptionFailed"
  | 22 => some "RecordOverflow"
  | 30 => some "DecompressionFailure"
  | 40 => some "HandshakeFailure"
  | 41 => some "NoCertificate"
  | 42 => some "BadCertificate"
  | 43 => some "UnsupportedCertificate"
  | 44 => some "CertificateRevoked"
  | 45 => some "CertificateExpired"
  | 46 => some "CertificateUnknown"
  | 47 => some "IllegalParameter"
  | 48 => some "UnknownCA"
  | 49 => some "AccessDenied"
  | 50 => some "DecodeError"
  | 51 => some "DecryptError"
  | 60 => some "ExportRestriction"
  | 70 => some "ProtocolVersion"
  | 71 => some "InsufficientSecurity"
  | 80 => some "InternalError"
  | 86 => some "InappropriateFallback"
  | 90 => some "UserCanceled"
  | 100 => some "NoRenegotiation"
  | 109 => some "MissingExtension"
  | 110 => some "UnsupportedExtension"
  | 111 => some "CertificateUnobtainable"
  | 112 => some "UnrecognisedName"
  | 113 => some "BadCertificateStatusResponse"
  | 114 => some "BadCertificateHashValue"
  | 115 => some "UnknownPSKIdentity"
  | 116 => some "CertificateRequired"
  | 120 => some "NoApplicationProtocol"
  | 121 => some "EncryptedClientHelloRequired"
  | _ => none

def alertName (code : UInt8) : String :=
  (alertName? code.toNat).getD (unregistered "AlertDescription" code)

def messageName? : Nat → Option String
  | 0 => some "HelloRequest"
  | 1 => some "ClientHello"
  | 2 => some "ServerHello"
  | 3 => some "HelloVerifyRequest"
  | 4 => some "NewSessionTicket"
  | 5 => some "EndOfEarlyData"
  | 6 => some "HelloRetryRequest"
  | 8 => some "EncryptedExtensions"
  | 11 => some "Certificate"
  | 12 => some "ServerKeyExchange"
  | 13 => some "CertificateRequest"
  | 14 => some "ServerHelloDone"
  | 15 => some "CertificateVerify"
  | 16 => some "ClientKeyExchange"
  | 20 => some "Finished"
  | 21 => some "CertificateURL"
  | 22 => some "CertificateStatus"
  | 24 => some "KeyUpdate"
  | 25 => some "CompressedCertificate"
  | 254 => some "MessageHash"
  | _ => none

def messageName (code : UInt8) : String :=
  (messageName? code.toNat).getD (unregistered "HandshakeType" code)

end RouteCascade.Tls
