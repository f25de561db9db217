import RouteCascade.Cascade.Fleet
import RouteCascade.Request.Network

/-!
# Surroundings

What a run of the program meets outside: a network in which its attempts are made, and somebody who may
interrupt it. The first interrupt is told and puts the stop signal up for good; nobody listens for another.
-/
namespace RouteCascade.Cli

open Text Log Cascade Tunnel

/-- What has happened outside. -/
structure Around where
  sights : List Sight := []
  interrupted : Bool := false

def Around.interrupt (a : Around) : List Line × Around :=
  if a.interrupted then ([], a)
  else ([⟨.info, "Received interrupt, cancelling"⟩], { a with interrupted := true })

structure Surroundings where
  network : Network
  /-- An interrupt arrives during such an attempt. -/
  interrupts : Attempted → Bool := fun _ => false
  /-- The error of the system with which nobody can listen at an address. -/
  bindError : String → Option Int := fun _ => none

def Surroundings.outside (s : Surroundings) (client : PinnedClient) : Outside Around where
  poll around := (around.interrupted, around)
  probe g around := (g.probe (s.network.gateway g), around)
  attempt a listening around :=
    let (attempted, sight) :=
      s.network.attempt client a.session a.port a.parameters a.viaLocalProxy (listening.map (·.gateway))
    let seen := { around with sights := around.sights ++ [sight] }
    let (heard, around) := if s.interrupts attempted then seen.interrupt else ([], seen)
    (attempted.result.mapError (·.failure),
      Network.attemptLines a.session a.port a.parameters a.viaLocalProxy attempted ++ heard, around)
  bindError := s.bindError client.localProxy

end RouteCascade.Cli
