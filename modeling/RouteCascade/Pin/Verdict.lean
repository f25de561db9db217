import RouteCascade.Pin.Identity
import RouteCascade.Net.ServerName

/-!
# Verdicts on presented certificates

The rule by which a presented certificate is accepted. Only the end certificate and the pinned
identity count. The name that was asked for, the certificates between, the time and a stapled proof of
validity are looked at by other verifiers; here they are taken and ignored, which the statement of the
verdict shows.
-/
namespace RouteCascade.Pin

open Text Net

/-- What a server presents in a secure handshake. -/
structure Presented where
  certificate : Bytes
  intermediates : List Bytes := []
  serverName : ServerName
  now : Nat := 0

def mismatchText : String := "invalid peer certificate: ApplicationVerificationFailure"

/-- The verdict on what was presented: the reason for which it is refused, if it is. -/
def refusal? (pin : Identity) (p : Presented) : Option String :=
  if pin.isMatch p.certificate then none else some mismatchText

/-- Decides about what a server presents and the proof of validity that is stapled to it, which may be
empty: the reason for which it is refused, if it is. -/
abbrev Verifier := Presented → Bytes → Option String

def verifier (pin : Identity) : Verifier := fun p _ => refusal? pin p

/-- The verdict depends on the pin and the end certificate only. -/
theorem refusal?_congr (pin : Identity) {p q : Presented} (h : p.certificate = q.certificate) :
    refusal? pin p = refusal? pin q := by
  simp [refusal?, h]

/-- Nothing is held against exactly the matching certificates. -/
theorem refusal?_eq_none_iff {pin : Identity} {p : Presented} :
    refusal? pin p = none ↔ pin.isMatch p.certificate = true := by
  simp only [refusal?]
  split <;> simp_all

end RouteCascade.Pin
