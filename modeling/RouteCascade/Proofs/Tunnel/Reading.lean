import RouteCascade.Proofs.Tunnel.Talk

/-!
# What a conversation has read when it ends

The bytes that a conversation takes off its stream, told together with what it comes to. They hold over every
stream, however little it gives at a time and wherever it fails.
-/
namespace RouteCascade.Tunnel

open Text

namespace Talk

variable {ε δ α β : Type}

/-- What was read when a conversation comes to a value, and when it halts. -/
def Reads (t : Talk ε α) (P : α → Bytes → Prop) (H : Halt ε → Bytes → Prop) : Prop :=
  ∀ s : Stream, ∃ c, s.incoming = c ++ (t.runOn s).2.incoming ∧
    match (t.runOn s).1 with
    | .ok a => P a c
    | .error h => H h c

variable {t : Talk ε α} {P : α → Bytes → Prop} {H : Halt ε → Bytes → Prop}

theorem Reads.mono {P' : α → Bytes → Prop} {H' : Halt ε → Bytes → Prop} (h : t.Reads P H)
    (hP : ∀ a c, P a c → P' a c) (hH : ∀ e c, H e c → H' e c) : t.Reads P' H' := by
  intro s
  obtain ⟨c, hin, hc⟩ := h s
  refine ⟨c, hin, ?_⟩
  cases hr : (t.runOn s).1 with
  | ok a =>
      rw [hr] at hc
      exact hP a c hc
  | error e =>
      rw [hr] at hc
      exact hH e c hc

theorem reads_pure {a : α} (h : P a []) : (pure a : Talk ε α).Reads P H := fun _ => ⟨[], rfl, h⟩

theorem reads_fail {e : ε} (h : H (.fault e) []) : (fail e : Talk ε α).Reads P H := fun _ => ⟨[], rfl, h⟩

/-- One part of a conversation reads on where the part before has stopped. -/
theorem Reads.bind {f : α → Talk ε β} {Q : β → Bytes → Prop} (h : t.Reads P H)
    (hf : ∀ a c, P a c → (f a).Reads (fun b d => Q b (c ++ d)) fun e d => H e (c ++ d)) :
    (t >>= f).Reads Q H := by
  intro s
  obtain ⟨c, hin, hc⟩ := h s
  rw [runOn_bind]
  rcases hrun : t.runOn s with ⟨e | a, s₁⟩
  · rw [hrun] at hin hc
    exact ⟨c, hin, hc⟩
  · rw [hrun] at hin hc
    obtain ⟨d, hmore, hd⟩ := hf a c hc s₁
    refine ⟨c ++ d, ?_, hd⟩
    rw [List.append_assoc, ← hmore]
    exact hin

theorem Reads.mapFault {f : ε → δ} {H : Halt δ → Bytes → Prop} (h : t.Reads P fun e c => H (e.map f) c) :
    (t.mapFault f).Reads P H := by
  intro s
  obtain ⟨c, hin, hc⟩ := h s
  rw [runOn_mapFault]
  refine ⟨c, hin, ?_⟩
  cases hr : (t.runOn s).1 with
  | ok a =>
      rw [hr] at hc
      exact hc
  | error e =>
      rw [hr] at hc
      exact hc

section
variable {P : Unit → Bytes → Prop} {H : Halt String → Bytes → Prop}

theorem reads_write {bs : Bytes} (hP : P () []) (hH : ∀ e, H (.fault e) []) : (write bs).Reads P H := by
  intro s
  rcases s.takes_or_lt bs.length with ht | ⟨r, hr, hlt⟩
  · rw [runOn_write_of_takes ht]
    exact ⟨[], rfl, hP⟩
  · rw [runOn_write_of_lt hr hlt]
    exact ⟨[], rfl, hH _⟩

theorem reads_flush (hP : P () []) (hH : ∀ e, H (.fault e) []) : flush.Reads P H := by
  intro s
  rw [runOn_flush]
  cases s.flushError with
  | none => exact ⟨[], rfl, hP⟩
  | some e => exact ⟨[], rfl, hH e⟩

end

section
variable {P : Bytes → Bytes → Prop} {H : Halt String → Bytes → Prop} {n : Nat}

theorem reads_read (hP : ∀ bs, bs.length ≤ n → P bs bs) (hH : ∀ e, H e []) : (read n).Reads P H := by
  intro s
  cases hs : s.incoming with
  | nil =>
      rw [runOn_read_nil hs]
      cases s.ending with
      | closed => exact ⟨[], hs.symm, hP [] (Nat.zero_le n)⟩
      | failed e => exact ⟨[], hs.symm, hH _⟩
      | silent => exact ⟨[], hs.symm, hH _⟩
  | cons b rest =>
      rw [runOn_read_cons hs]
      refine ⟨_, (List.take_append_drop _ _).symm, hP _ ?_⟩
      rw [List.length_take]
      omega

theorem reads_go {fuel : Nat} (hP : ∀ bs, bs.length = n → P bs bs) (hH : ∀ e c, c.length < n → H e c) :
    (readExactly.go fuel n).Reads P H := by
  induction fuel generalizing n P H with
  | zero =>
      cases n with
      | zero => exact reads_pure (hP [] rfl)
      | succ n => exact reads_fail (hH _ _ (Nat.succ_pos n))
  | succ fuel ih =>
      cases n with
      | zero => exact reads_pure (hP [] rfl)
      | succ n =>
          have hfirst : (read (n + 1)).Reads (fun bs c => c = bs ∧ bs.length ≤ n + 1) H :=
            reads_read (fun bs hlen => ⟨rfl, hlen⟩) fun e => hH e [] (Nat.succ_pos n)
          refine hfirst.bind ?_
          rintro _ bs ⟨rfl, hlen⟩
          split
          · rename_i hempty
            rw [List.isEmpty_iff.mp hempty]
            exact reads_fail (hH _ _ (Nat.succ_pos n))
          · have hmore : (readExactly.go fuel (n + 1 - bs.length)).Reads
                (fun more d => d = more ∧ more.length = n + 1 - bs.length) (fun e d => H e (bs ++ d)) := by
              refine ih (fun more hmore => ⟨rfl, hmore⟩) fun e d hd => hH e _ ?_
              rw [List.length_append]
              omega
            refine hmore.bind ?_
            rintro _ more ⟨rfl, hcount⟩
            refine reads_pure ?_
            rw [List.append_nil]
            refine hP _ ?_
            rw [List.length_append]
            omega

/-- As many bytes as were asked for, or else fewer of them. -/
theorem reads_readExactly (hP : ∀ bs, bs.length = n → P bs bs) (hH : ∀ e c, c.length < n → H e c) :
    (readExactly n).Reads P H :=
  reads_go hP hH

end

end Talk

end RouteCascade.Tunnel
