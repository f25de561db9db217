import RouteCascade.Tunnel.Stream

/-!
# Conversations, run

What running a conversation gives, part by part, and a stream to which some bytes were written.
-/
namespace RouteCascade.Tunnel

open Text

namespace Stream

/-- There is room for so many bytes. -/
def Takes (s : Stream) (n : Nat) : Prop := ∀ r ∈ s.room, n ≤ r

/-- So many bytes can be written and handed over. -/
structure Delivers (s : Stream) (n : Nat) : Prop where
  takes : s.Takes n
  flushes : s.flushError = none

def wrote (s : Stream) (bs : Bytes) : Stream :=
  { s with sent := s.sent ++ bs, room := s.room.map (· - bs.length) }

section
variable (s : Stream) (a b : Bytes)

@[simp] theorem wrote_incoming : (s.wrote a).incoming = s.incoming := rfl
@[simp] theorem wrote_ending : (s.wrote a).ending = s.ending := rfl
@[simp] theorem wrote_mostPerRead : (s.wrote a).mostPerRead = s.mostPerRead := rfl
@[simp] theorem wrote_fullError : (s.wrote a).fullError = s.fullError := rfl
@[simp] theorem wrote_flushError : (s.wrote a).flushError = s.flushError := rfl
@[simp] theorem wrote_sent : (s.wrote a).sent = s.sent ++ a := rfl
@[simp] theorem wrote_room : (s.wrote a).room = s.room.map (· - a.length) := rfl

@[simp] theorem wrote_nil : s.wrote [] = s := by
  obtain ⟨_, _, _, room, _, _, _⟩ := s
  cases room <;> simp [wrote]

theorem wrote_wrote : (s.wrote a).wrote b = s.wrote (a ++ b) := by
  simp only [wrote, List.append_assoc, Option.map_map, List.length_append]
  congr 2
  funext r
  exact Nat.sub_sub r a.length b.length

variable {s a b} in
theorem Takes.append (ha : s.Takes a.length) (hb : (s.wrote a).Takes b.length) :
    s.Takes (a ++ b).length := by
  intro r hr
  have hle := ha r hr
  have hrest := hb (r - a.length) (Option.map_eq_some_iff.mpr ⟨r, hr, rfl⟩)
  rw [List.length_append]
  omega

theorem takes_or_lt (n : Nat) : s.Takes n ∨ ∃ r, s.room = some r ∧ r < n := by
  cases hr : s.room with
  | none => exact .inl (by simp [Takes, hr])
  | some r =>
      rcases Nat.lt_or_ge r n with h | h
      · exact .inr ⟨r, rfl, h⟩
      · exact .inl (by simpa [Takes, hr] using h)

theorem delivers_or (n : Nat) :
    s.Delivers n ∨ (∃ r, s.room = some r ∧ r < n) ∨ s.Takes n ∧ ∃ e, s.flushError = some e := by
  rcases s.takes_or_lt n with ht | hlt
  · cases he : s.flushError with
    | none => exact .inl ⟨ht, he⟩
    | some e => exact .inr (.inr ⟨ht, e, rfl⟩)
  · exact .inr (.inl hlt)

end

end Stream

def Halt.map {ε δ : Type} (f : ε → δ) : Halt ε → Halt δ
  | .fault e => .fault (f e)
  | .waiting => .waiting

section
variable {ε δ α : Type} (f : ε → δ)

@[simp] theorem mapError_error (e : ε) : (Except.error e : Except ε α).mapError f = .error (f e) := rfl
@[simp] theorem mapError_ok (a : α) : (Except.ok a : Except ε α).mapError f = .ok a := rfl

end

namespace Talk

variable {ε δ α β : Type} {s : Stream}

@[simp] theorem runOn_pure (a : α) (s : Stream) : (pure a : Talk ε α).runOn s = (.ok a, s) := rfl

@[simp] theorem runOn_fail (e : ε) (s : Stream) :
    (fail e : Talk ε α).runOn s = (.error (.fault e), s) := rfl

theorem runOn_bind (t : Talk ε α) (f : α → Talk ε β) (s : Stream) :
    (t >>= f).runOn s = match t.runOn s with
      | (.ok a, s) => (f a).runOn s
      | (.error h, s) => (.error h, s) := by
  simp only [runOn, ExceptT.run, StateT.run, bind, ExceptT.bind, ExceptT.mk, StateT.bind]
  rcases t s with ⟨x, s'⟩
  cases x <;> rfl

theorem runOn_mapFault (f : ε → δ) (t : Talk ε α) (s : Stream) :
    (t.mapFault f).runOn s = ((t.runOn s).1.mapError (Halt.map f), (t.runOn s).2) := by
  change mapFault f t s = _
  simp only [mapFault, runOn, ExceptT.run, StateT.run]
  rcases t s with ⟨(_ | _) | _, s'⟩ <;> rfl

theorem runOn_write_of_takes {bs : Bytes} (h : s.Takes bs.length) :
    (write bs).runOn s = (.ok (), s.wrote bs) := by
  change write bs s = _
  cases hr : s.room with
  | none => simp [write, Stream.wrote, hr]
  | some r =>
      have hle : bs.length ≤ r := h r hr
      simp [write, Stream.wrote, hr, hle, List.take_of_length_le]

/-- Without room for all of them, as many bytes are written as there is room for. -/
theorem runOn_write_of_lt {bs : Bytes} {r : Nat} (hr : s.room = some r) (h : r < bs.length) :
    (write bs).runOn s = (.error (.fault (s.fullError.getD nothingTaken)), s.wrote (bs.take r)) := by
  change write bs s = _
  simp [write, Stream.wrote, hr, Nat.not_le.mpr h, Nat.sub_eq_zero_of_le (Nat.le_of_lt h),
    Nat.min_eq_left (Nat.le_of_lt h)]

theorem runOn_flush (s : Stream) :
    flush.runOn s = match s.flushError with
      | none => (.ok (), s)
      | some e => (.error (.fault e), s) := by
  change flush s = _
  cases h : s.flushError <;> simp [flush, h]

theorem runOn_read_nil (h : s.incoming = []) (n : Nat) :
    (read n).runOn s = match s.ending with
      | .closed => (.ok [], s)
      | .failed e => (.error (.fault e), s)
      | .silent => (.error .waiting, s) := by
  change read n s = _
  cases he : s.ending <;> simp [read, h, he]

theorem runOn_read_cons {b : UInt8} {rest : Bytes} (h : s.incoming = b :: rest) (n : Nat) :
    (read n).runOn s =
      (.ok ((b :: rest).take (min n (s.mostPerRead.getD n))),
        { s with incoming := (b :: rest).drop (min n (s.mostPerRead.getD n)) }) := by
  change read n s = _
  simp [read, h]

/-- One byte is read at a time if a read gives any. -/
theorem runOn_read_one {b : UInt8} {rest : Bytes} (h : s.incoming = b :: rest) (hm : s.mostPerRead ≠ some 0) :
    (read 1).runOn s = (.ok [b], { s with incoming := rest }) := by
  have hone : min 1 (s.mostPerRead.getD 1) = 1 := by
    cases hs : s.mostPerRead with
    | none => rfl
    | some m =>
        have : m ≠ 0 := fun h => hm (by rw [hs, h])
        rw [Option.getD_some]
        omega
  rw [runOn_read_cons h, hone]
  rfl

end Talk

end RouteCascade.Tunnel
