import RouteCascade.Cascade.Collaborators

/-!
# Selection

Which tunnels of a catalog may be used for one attempt: those that need no handshake, in the order of
the catalog. The others are given up on the spot.
-/
namespace RouteCascade.Cascade

variable {σ τ : Type}

/-- Keeps the tunnels that need no handshake. -/
def keepEligible (c : Collaborators σ τ) (session : Session) :
    List (Instance τ) → Act σ τ (List (Instance τ))
  | [] => pure []
  | i :: is => do
    if ← c.askHandshake session i then
      c.discard i
      keepEligible c session is
    else
      let kept ← keepEligible c session is
      pure (i :: kept)

/-- The tunnels that may be used, fresh from the catalog. -/
def select (c : Collaborators σ τ) (session : Session) : Act σ τ (List (Instance τ)) := do
  keepEligible c session (← c.askCatalog)

end RouteCascade.Cascade
