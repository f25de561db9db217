import RouteCascade.Text.Ascii

/-!
# Streams

A stream as its user sees it: the bytes that are still to come and how they end, how much is handed
over at a time, and how much may still be written before writing fails. A conversation over a stream
gives a value, ends in a fault, or waits for ever; in any case the stream is left as it then is, with
everything that was written to it.
-/
namespace RouteCascade.Tunnel

open Text

/-- How what comes from the other side ends. -/
inductive StreamEnd where
  /-- In order. -/
  | closed
  /-- With an error of the system. -/
  | failed (text : String)
  /-- Not at all: nothing more comes. -/
  | silent
  deriving DecidableEq, Repr

structure Stream where
  /-- What is still to be read. -/
  incoming : Bytes := []
  ending : StreamEnd := .closed
  /-- The most bytes that one read gives. -/
  mostPerRead : Option Nat := none
  /-- How many bytes may still be written. -/
  room : Option Nat := none
  /-- The error of writing without room. Without one, nothing is taken. -/
  fullError : Option String := none
  /-- The error of flushing. -/
  flushError : Option String := none
  /-- What has been written. -/
  sent : Bytes := []
  deriving DecidableEq, Repr

/-- Why a conversation did not come to its end. -/
inductive Halt (ε : Type) where
  | fault (cause : ε)
  /-- It waits for ever. -/
  | waiting
  deriving DecidableEq, Repr

/-- A conversation over a stream. -/
abbrev Talk (ε α : Type) := ExceptT (Halt ε) (StateM Stream) α

namespace Talk

def runOn {ε α : Type} (t : Talk ε α) (s : Stream) : Except (Halt ε) α × Stream := (ExceptT.run t).run s

def fail {ε α : Type} (e : ε) : Talk ε α := throw (.fault e)

def mapFault {ε δ α : Type} (f : ε → δ) (t : Talk ε α) : Talk δ α := fun s =>
  match t s with
  | (.error (.fault e), s) => (.error (.fault (f e)), s)
  | (.error .waiting, s) => (.error .waiting, s)
  | (.ok a, s) => (.ok a, s)

/-- Reads up to `n` bytes; none come only at the end. -/
def read (n : Nat) : Talk String Bytes := fun s =>
  match s.incoming with
  | [] =>
    match s.ending with
    | .closed => (.ok [], s)
    | .failed e => (.error (.fault e), s)
    | .silent => (.error .waiting, s)
  | b :: rest =>
    let most := min n (s.mostPerRead.getD n)
    (.ok ((b :: rest).take most), { s with incoming := (b :: rest).drop most })

def earlyEnd : String := "early eof"

/-- Reads exactly `n` bytes, in as many reads as it takes. -/
def readExactly (n : Nat) : Talk String Bytes := go n n
where
  /-- Reads `n` bytes in at most `fuel` reads. -/
  go : Nat → Nat → Talk String Bytes
    | _, 0 => pure []
    | 0, _ + 1 => fail earlyEnd
    | fuel + 1, n + 1 => do
      let bs ← read (n + 1)
      if bs.isEmpty then fail earlyEnd else
      let more ← go fuel (n + 1 - bs.length)
      pure (bs ++ more)

def nothingTaken : String := "write zero"

/-- Writes all of some bytes. What there is room for is written even if not all of them are. -/
def write (bs : Bytes) : Talk String Unit := fun s =>
  match s.room with
  | none => (.ok (), { s with sent := s.sent ++ bs })
  | some r =>
    let after := { s with sent := s.sent ++ bs.take r, room := some (r - bs.length) }
    if bs.length ≤ r then (.ok (), after) else (.error (.fault (s.fullError.getD nothingTaken)), after)

def flush : Talk String Unit := fun s =>
  match s.flushError with
  | none => (.ok (), s)
  | some e => (.error (.fault e), s)

end Talk

end RouteCascade.Tunnel
