import RouteCascade.Http.Reply

/-!
# Whole replies

What a complete reply is, told without a reader: heads that are passed over, a last head, and a body to
its last byte. A body in chunks is the data of its chunks, up to an empty one and the trailers after it.
What is read as a reply is a complete one.
-/
namespace RouteCascade.Http

open Text

def hexFrom : Nat → Bytes → Option Nat
  | n, [] => some n
  | n, b :: s =>
    match hexValue? b with
    | some d => hexFrom (n * 16 + d) s
    | none => none

def WithinLine (s : Bytes) : Prop := cr ∉ s ∧ lf ∉ s

/-- What may follow the digits of a size on their line. -/
structure Extras (s : Bytes) : Prop where
  within : WithinLine s
  noDigit : ∀ b ∈ s.head?, hexValue? b = none

/-- The line before a chunk of some size. -/
inductive SizeLine : Nat → Bytes → Prop
  | mk {n : Nat} {digits extras : Bytes} : digits ≠ [] → hexFrom 0 digits = some n → Extras extras →
      SizeLine n (digits ++ extras ++ [cr, lf])

/-- A body in chunks: its bytes on the wire with what follows them, and its data. -/
inductive Chunks : Bytes → Bytes → Prop
  | last {line trailers after : Bytes} : SizeLine 0 line → trailersOk trailers →
      Chunks (line ++ (trailers ++ after)) []
  | chunk {n : Nat} {line data rest body : Bytes} : SizeLine n line → data.length = n → data ≠ [] →
      Chunks rest body → Chunks (line ++ (data ++ cr :: lf :: rest)) (data ++ body)

/-- What follows the line before a chunk of some size: the bytes, and their data. -/
inductive AfterLine : Nat → Bytes → Bytes → Prop
  | last {trailers after : Bytes} : trailersOk trailers → AfterLine 0 (trailers ++ after) []
  | chunk {n : Nat} {data rest body : Bytes} : data.length = n → data ≠ [] → Chunks rest body →
      AfterLine n (data ++ cr :: lf :: rest) (data ++ body)

theorem AfterLine.chunks {n : Nat} {line s body : Bytes} (h : AfterLine n s body) (hl : SizeLine n line) :
    Chunks (line ++ s) body := by
  cases h with
  | last ht => exact .last hl ht
  | chunk hn hne hr => exact .chunk hl hn hne hr

/-- What is still to come, and its data, where a reader of chunks stands and has read some trailers. -/
def ToCome (trailers : Bytes) : ChunkState → Bytes → Bytes → Prop
  | .start, s, body => Chunks s body
  | .size n, s, body => ∃ digits extras rest m, s = digits ++ extras ++ cr :: lf :: rest ∧
      hexFrom n digits = some m ∧ Extras extras ∧ AfterLine m rest body
  | .blank n, s, body | .extension n _, s, body => ∃ extras rest, s = extras ++ cr :: lf :: rest ∧
      WithinLine extras ∧ AfterLine n rest body
  | .sizeEnd n, s, body => ∃ rest, s = lf :: rest ∧ AfterLine n rest body
  | .data left, s, body => ∃ data rest after, s = data ++ cr :: lf :: rest ∧ data.length = max left 1 ∧
      Chunks rest after ∧ body = data ++ after
  | .dataCr, s, body => ∃ rest, s = cr :: lf :: rest ∧ Chunks rest body
  | .dataLf, s, body => ∃ rest, s = lf :: rest ∧ Chunks rest body
  | .trailer, s, body | .trailerLf, s, body | .endCr, s, body | .endLf, s, body =>
    body = [] ∧ ∃ more after, s = more ++ after ∧ trailersOk (trailers ++ more)

section Steps
variable {trailers s body : Bytes} {st st' : ChunkState} {b : UInt8} {n : Nat}

theorem toCome_trailer_iff (h : st.isTrailer = true) :
    ToCome trailers st s body ↔ body = [] ∧ ∃ more after, s = more ++ after ∧ trailersOk (trailers ++ more) := by
  cases st with
  | trailer | trailerLf | endCr | endLf => rfl
  | _ => cases h

theorem WithinLine.cons (hcr : b ≠ cr) (hlf : b ≠ lf) (h : WithinLine s) : WithinLine (b :: s) :=
  ⟨List.not_mem_cons_of_ne_of_not_mem hcr.symm h.1, List.not_mem_cons_of_ne_of_not_mem hlf.symm h.2⟩

/-- The rest of the line after the digits of a size begins with the byte that ended the digits, unless the
line ends there. -/
theorem toCome_afterSize (hs : ChunkState.afterSize n b = some st') (h : ToCome trailers st' s body) :
    ∃ extras rest, b :: s = extras ++ cr :: lf :: rest ∧ WithinLine extras ∧ (∀ x ∈ extras.head?, x = b) ∧
      AfterLine n rest body := by
  unfold ChunkState.afterSize at hs
  split at hs
  · rename_i hb
    obtain rfl := Option.some.inj hs
    obtain ⟨extras, rest, rfl, hw, ha⟩ := h
    have hne : b ≠ cr ∧ b ≠ lf := by
      constructor <;> rintro rfl <;> simp [isLineBlank, cr, lf] at hb
    exact ⟨b :: extras, rest, rfl, hw.cons hne.1 hne.2, by simp, ha⟩
  split at hs
  · rename_i hb
    obtain rfl := Option.some.inj hs
    obtain ⟨extras, rest, rfl, hw, ha⟩ := h
    exact ⟨b :: extras, rest, rfl, hw.cons (by rw [hb]; decide) (by rw [hb]; decide), by simp, ha⟩
  split at hs
  · rename_i hb
    obtain rfl := Option.some.inj hs
    obtain ⟨rest, rfl, ha⟩ := h
    exact ⟨[], rest, by rw [hb]; rfl, ⟨List.not_mem_nil, List.not_mem_nil⟩, by simp, ha⟩
  · cases hs

theorem toCome_size (hs : (ChunkState.size n).step b = some st') (h : ToCome trailers st' s body) :
    ToCome trailers (.size n) (b :: s) body := by
  simp only [ChunkState.step] at hs
  cases hv : hexValue? b with
  | some d =>
      simp only [hv] at hs
      split at hs
      · obtain rfl := Option.some.inj hs
        obtain ⟨digits, extras, rest, m, rfl, hm, he, ha⟩ := h
        exact ⟨b :: digits, extras, rest, m, rfl, by simpa [hexFrom, hv] using hm, he, ha⟩
      · cases hs
  | none =>
      simp only [hv] at hs
      obtain ⟨extras, rest, hb, hw, hx, ha⟩ := toCome_afterSize hs h
      exact ⟨[], extras, rest, n, hb, rfl, ⟨hw, fun x hxe => by rw [hx x hxe, hv]⟩, ha⟩

theorem toCome_extension {seen : Nat} (hs : (ChunkState.extension n seen).step b = some st')
    (h : ToCome trailers st' s body) : ToCome trailers (.extension n seen) (b :: s) body := by
  simp only [ChunkState.step] at hs
  split at hs
  · rename_i hb
    obtain rfl := Option.some.inj hs
    obtain ⟨rest, rfl, ha⟩ := h
    exact ⟨[], rest, by rw [hb]; rfl, ⟨List.not_mem_nil, List.not_mem_nil⟩, ha⟩
  rename_i hcr
  split at hs
  · cases hs
  · rename_i hlf
    obtain rfl := Option.some.inj hs
    obtain ⟨extras, rest, rfl, hw, ha⟩ := h
    exact ⟨b :: extras, rest, rfl, hw.cons hcr fun hb => hlf (.inl hb), ha⟩

theorem toCome_sizeEnd (hs : (ChunkState.sizeEnd n).step b = some st') (h : ToCome [] st' s body) :
    ToCome [] (.sizeEnd n) (b :: s) body := by
  simp only [ChunkState.step] at hs
  split at hs
  · rename_i hb
    obtain rfl := Option.some.inj hs
    refine ⟨s, by rw [hb], ?_⟩
    by_cases hn : n = 0
    · rw [if_pos hn] at h
      obtain ⟨rfl, more, after, rfl, hok⟩ := h
      rw [hn]
      exact .last hok
    · rw [if_neg hn] at h
      obtain ⟨data, rest, after, rfl, hlen, hc, rfl⟩ := h
      refine .chunk (by omega) (fun hd => ?_) hc
      rw [hd, List.length_nil] at hlen
      omega
  · cases hs

theorem toCome_data {left : Nat} (hs : (ChunkState.data left).step b = some st')
    (h : ToCome trailers st' s body) : ToCome trailers (.data left) (b :: s) (b :: body) := by
  obtain rfl := Option.some.inj hs
  by_cases hl : left ≤ 1
  · rw [if_pos hl] at h
    obtain ⟨rest, rfl, hc⟩ := h
    exact ⟨[b], rest, body, rfl, by rw [List.length_singleton]; omega, hc, rfl⟩
  · rw [if_neg hl] at h
    obtain ⟨data, rest, after, rfl, hlen, hc, rfl⟩ := h
    exact ⟨b :: data, rest, after, rfl, by rw [List.length_cons]; omega, hc, rfl⟩

theorem ChunkState.isTrailer_of_step (ht : st.isTrailer = true) (hs : st.step b = some st') :
    st'.isTrailer = true := by
  cases st with
  | trailer | endCr =>
      obtain rfl := Option.some.inj hs
      split <;> rfl
  | trailerLf =>
      simp only [ChunkState.step] at hs
      split at hs <;> cases hs
      rfl
  | endLf => cases hs
  | _ => cases ht

/-- One byte is read of what is to come. -/
theorem toCome_step (hs : st.step b = some st') (ht : st.isTrailer = false → trailers = [])
    (h : ToCome (if st.isTrailer then trailers ++ [b] else trailers) st' s body) :
    ToCome trailers st (b :: s) (if st.isData then b :: body else body) := by
  cases st with
  | start =>
      obtain ⟨v, hv, rfl⟩ := Option.map_eq_some_iff.mp hs
      obtain ⟨digits, extras, rest, m, rfl, hm, he, ha⟩ := h
      have hl : SizeLine m (b :: digits ++ extras ++ [cr, lf]) :=
        .mk (List.cons_ne_nil b digits) (by simpa [hexFrom, hv] using hm) he
      have hc := ha.chunks hl
      simp only [List.cons_append, List.append_assoc, List.nil_append] at hc
      simpa [ToCome, ChunkState.isData] using hc
  | size n => exact toCome_size hs h
  | blank n =>
      obtain ⟨extras, rest, hb, hw, -, ha⟩ := toCome_afterSize hs h
      exact ⟨extras, rest, hb, hw, ha⟩
  | extension n seen => exact toCome_extension hs h
  | sizeEnd n =>
      obtain rfl := ht rfl
      exact toCome_sizeEnd hs h
  | data left => exact toCome_data hs h
  | dataCr =>
      simp only [ChunkState.step] at hs
      split at hs
      · rename_i hb
        obtain rfl := Option.some.inj hs
        obtain ⟨rest, rfl, hc⟩ := h
        exact ⟨rest, by rw [hb], hc⟩
      · cases hs
  | dataLf =>
      simp only [ChunkState.step] at hs
      split at hs
      · rename_i hb
        obtain rfl := Option.some.inj hs
        exact ⟨s, by rw [hb], h⟩
      · cases hs
  | trailer | trailerLf | endCr | endLf =>
      obtain ⟨rfl, more, after, rfl, hok⟩ := (toCome_trailer_iff (ChunkState.isTrailer_of_step rfl hs)).mp h
      exact ⟨rfl, b :: more, after, rfl, by simpa [ChunkState.isTrailer] using hok⟩

/-- Once trailers are read, a reader of chunks reads nothing else. -/
theorem readChunks_toCome {ending : Ending} {data : Bytes}
    (h : readChunks ending st data trailers s = .done body) (ht : st.isTrailer = false → trailers = []) :
    ∃ tail, body = data.reverse ++ tail ∧ ToCome trailers.reverse st s tail := by
  induction s generalizing st data trailers with
  | nil => cases ending <;> cases h
  | cons b s ih =>
      rw [readChunks] at h
      split at h
      · rename_i hend
        obtain ⟨rfl, rfl⟩ := hend
        split at h
        · rename_i hok
          cases h
          exact ⟨[], (List.append_nil _).symm, rfl, [lf], s, rfl, hok⟩
        · cases h
      · cases hst : st.step b with
        | none =>
            rw [hst] at h
            cases h
        | some st' =>
            simp only [hst] at h
            have ht' : st'.isTrailer = false → (if st.isTrailer then b :: trailers else trailers) = [] := by
              intro hf
              cases hi : st.isTrailer with
              | true => exact nomatch (ChunkState.isTrailer_of_step hi hst).symm.trans hf
              | false => exact ht hi
            obtain ⟨tail, rfl, hc⟩ := ih h ht'
            have hrev : (if st.isTrailer then b :: trailers else trailers).reverse =
                if st.isTrailer then trailers.reverse ++ [b] else trailers.reverse := by
              split <;> simp
            rw [hrev] at hc
            refine ⟨_, ?_, toCome_step hst (fun hi => by rw [ht hi]; rfl) hc⟩
            split <;> simp

end Steps

/-- The bytes after the head of a reply with what may follow them, and the body that they are. -/
inductive Framed (ending : Ending) : BodyLength → Bytes → Bytes → Prop
  | counted {n : Nat} {body after : Bytes} : body.length = n → Framed ending (.exactly n) (body ++ after) body
  | chunked {s body : Bytes} : Chunks s body → Framed ending .chunked s body
  /-- Only a connection that is closed in order ends a body. -/
  | toEnd {body : Bytes} : ending = .closed → Framed ending .toEnd body body

/-- The bytes of a connection and how they end, with the status code and the body of the reply that
they are. -/
inductive Whole (ending : Ending) : Bytes → Nat → Bytes → Prop
  | interim {s rest body : Bytes} {h : ResponseHead} {code : Nat} :
      ResponseHead.parse maxReplyFields (s.take maxReplyHead) = .done h rest →
      100 ≤ h.code → h.code < 200 → h.code ≠ 101 →
      Whole ending (rest ++ s.drop maxReplyHead) code body → Whole ending s code body
  | last {s rest body : Bytes} {h : ResponseHead} {length : BodyLength} :
      ResponseHead.parse maxReplyFields (s.take maxReplyHead) = .done h rest →
      100 ≤ h.code → h.bodyLength = .ok (some length) →
      Framed ending length (rest ++ s.drop maxReplyHead) body → Whole ending s h.code body

section Reading
variable {ending : Ending} {s body : Bytes}

theorem framed_readBody {length : BodyLength} (h : readBody ending length s = .done body) :
    Framed ending length s body := by
  cases length with
  | exactly n =>
      simp only [readBody] at h
      split at h
      · rename_i hn
        cases h
        have hx : Framed ending (.exactly n) (s.take n ++ s.drop n) (s.take n) :=
          .counted (List.length_take_of_le hn)
        rwa [List.take_append_drop] at hx
      · cases ending <;> cases h
  | chunked =>
      obtain ⟨tail, rfl, hc⟩ := readChunks_toCome h fun _ => rfl
      exact .chunked hc
  | toEnd =>
      cases ending <;> cases h
      exact .toEnd rfl

/-- Only an interim head announces no body. -/
theorem ResponseHead.interim_of_bodyLength {h : ResponseHead} (hl : h.bodyLength = .ok none) :
    h.code < 200 ∧ h.code ≠ 101 := by
  unfold ResponseHead.bodyLength at hl
  dsimp only at hl
  split at hl
  · cases hl
  split at hl
  · exact ⟨‹_›, ‹_›⟩
  repeat' split at hl
  all_goals cases hl

theorem whole_readHead {fuel : Nat} {h : ResponseHead} {length : BodyLength} {rest : Bytes}
    (hr : readHead ending fuel s = .done (h, length, rest)) (hb : Framed ending length rest body) :
    Whole ending s h.code body := by
  induction fuel generalizing s with
  | zero => cases ending <;> cases hr
  | succ fuel ih =>
      rw [readHead] at hr
      cases hp : ResponseHead.parse maxReplyFields (s.take maxReplyHead) with
      | more =>
          simp only [hp] at hr
          split at hr
          · cases hr
          · cases ending <;> cases hr
      | bad e =>
          simp only [hp] at hr
          cases hr
      | done h' rest' =>
          simp only [hp] at hr
          split at hr
          · cases hr
          rename_i hcode
          cases hl : h'.bodyLength with
          | error e =>
              simp only [hl] at hr
              cases hr
          | ok length' =>
              simp only [hl] at hr
              cases length' with
              | some length' =>
                  cases hr
                  exact .last hp (Nat.not_lt.mp hcode) hl hb
              | none =>
                  obtain ⟨hlt, hne⟩ := ResponseHead.interim_of_bodyLength hl
                  exact .interim hp (Nat.not_lt.mp hcode) hlt hne (ih hr)

/-- What is read as a reply is a complete one. -/
theorem whole_read {r : Reply} (h : Reply.read ending s = .done r) : Whole ending s r.code r.body := by
  unfold Reply.read at h
  cases hr : readHead ending (s.length + 1) s with
  | waiting | fault e =>
      simp only [hr] at h
      cases h
  | done x =>
      obtain ⟨head, length, rest⟩ := x
      simp only [hr] at h
      cases hb : readBody ending length rest with
      | waiting | fault e =>
          simp only [hb] at h
          cases h
      | done body =>
          simp only [hb] at h
          cases h
          exact whole_readHead hr (framed_readBody hb)

end Reading

end RouteCascade.Http
