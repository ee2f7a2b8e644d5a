import AdnBridge.TalkerAlias

namespace AdnBridge
set_option autoImplicit true

/-- The decoding reads its buffer and writes its text within their lengths. -/
def DecodesInBounds (blocks : TaBlocks) (haveMask : UInt32) (stack : Nat → UInt8)
    (text : List UInt8) : Prop :=
  let m := (dmraDecodeBlocks blocks haveMask stack text).2
  (∀ i ∈ m.reads, i < taBufLen) ∧ ∀ i ∈ m.writes, i < text.length

/-- A header of the two byte formats that announces more bytes than the buffer has behind it. -/
def Overlong (header : UInt8) : Prop :=
  (taFormat header = 1 ∨ taFormat header = 2) ∧ (taSize header = 28 ∨ taSize header = 29)

theorem taSize_le : ∀ header : UInt8, taSize header ≤ 31 := forall_byte (by decide +kernel)

instance (header : UInt8) : Decidable (Overlong header) := inferInstanceAs (Decidable (_ ∧ _))

namespace TaMem

/-- So far nothing outside the arrays has been touched. -/
structure Bounded (L : Nat) (m : TaMem) : Prop where
  text : m.text.length = L
  reads : ∀ i ∈ m.reads, i < taBufLen
  writes : ∀ i ∈ m.writes, i < L

variable {L : Nat} {m : TaMem}

theorem Bounded.load (h : m.Bounded L) (hi : i < taBufLen) : (m.load i).2.Bounded L := by
  refine ⟨h.text, fun j hj => ?_, h.writes⟩
  rcases List.mem_append.1 hj with hj | hj
  · exact h.reads j hj
  · exact List.mem_singleton.1 hj ▸ hi

theorem Bounded.store (h : m.Bounded L) (hi : i < L) (c : UInt8) : (m.store i c).Bounded L := by
  refine ⟨(List.length_set).trans h.text, h.reads, fun j hj => ?_⟩
  rcases List.mem_append.1 hj with hj | hj
  · exact h.writes j hj
  · exact List.mem_singleton.1 hj ▸ hi

theorem Bounded.trimBlanks (h : m.Bounded L) (hn : n ≤ L) : (trimBlanks n m).Bounded L := by
  induction n generalizing m with
  | zero => exact h
  | succ n ih =>
    rw [AdnBridge.trimBlanks]
    split
    · exact ih (h.store (by omega) 0) (by omega)
    · exact h

theorem trimBlanks_reads (n : Nat) (m : TaMem) : (trimBlanks n m).reads = m.reads := by
  induction n generalizing m with
  | zero => rfl
  | succ n ih =>
    rw [trimBlanks]
    split
    · exact ih _
    · rfl

theorem cString_length_le (s : List UInt8) : (cString s).length ≤ s.length :=
  (List.takeWhile_sublist _).length_le

theorem Bounded.trimTaText (h : m.Bounded L) : (trimTaText m).Bounded L := by
  have hlen : (cString m.text).length ≤ L := h.text ▸ cString_length_le _
  have ht := h.trimBlanks hlen
  rw [AdnBridge.trimTaText]
  split
  next i hi =>
    have hlt := List.findIdx?_eq_some_iff_findIdx_eq.1 hi
    exact ht.store (Nat.lt_of_lt_of_le hlt.1 (ht.text ▸ cString_length_le _)) 0
  next => exact ht

theorem trimTaText_reads (m : TaMem) : (trimTaText m).reads = m.reads := by
  rw [trimTaText]
  split
  · exact trimBlanks_reads _ _
  · exact trimBlanks_reads _ _

theorem taCopy_reads (n : Nat) (m : TaMem) :
    ((List.range n).foldl taCopy m).reads = m.reads ++ (List.range n).map (1 + ·) := by
  induction n with
  | zero => exact (List.append_nil _).symm
  | succ n ih =>
    rw [List.range_succ, List.foldl_append, List.map_append, ← List.append_assoc, ← ih]
    rfl

theorem Bounded.taCopy (h : m.Bounded L) (hn : n < taBufLen) (hL : n ≤ L) :
    ((List.range n).foldl taCopy m).Bounded L := by
  induction n with
  | zero => exact h
  | succ n ih =>
    rw [List.range_succ, List.foldl_append]
    exact ((ih (by omega) (by omega)).load (i := 1 + n) (by omega)).store (by omega) _

/-- The counters stay below the length of the text while bits are taken. -/
structure Counting (L size : Nat) (s : TaBits) : Prop where
  mem : s.mem.Bounded L
  outlen : s.outlen ≤ size

theorem Counting.taBit (h : Counting L size s) (hi : i < taBufLen) (hL : size < L) (j : Nat) :
    Counting L size (taBit size i s j) := by
  have hload : (s.mem.load i).2.Bounded L := h.mem.load hi
  rw [AdnBridge.taBit]
  simp only
  split
  · split
    next hlt => exact ⟨hload.store (by omega) _, hlt.2⟩
    next => exact ⟨hload, h.outlen⟩
  · exact ⟨hload, h.outlen⟩

theorem Counting.foldl_taBit (h : Counting L size s) (hi : i < taBufLen) (hL : size < L)
    (js : List Nat) : Counting L size (js.foldl (AdnBridge.taBit size i) s) := by
  induction js generalizing s with
  | nil => exact h
  | cons j js ih => exact ih (h.taBit hi hL j)

theorem Counting.taBytes (h : Counting L size s) (hL : size < L) {is : List Nat}
    (his : ∀ i ∈ is, i < taBufLen) : Counting L size (taBytes size is s) := by
  induction is generalizing s with
  | nil => exact h
  | cons i is ih =>
    rw [AdnBridge.taBytes]
    split
    · exact h
    · exact ih (h.foldl_taBit (his i List.mem_cons_self) hL _) fun i hi =>
        his i (List.mem_cons_of_mem _ hi)

/-- The seven-bit format keeps to the arrays whatever the header says. -/
theorem Bounded.decodeTa7bit (h : m.Bounded L) : (decodeTa7bit m).2.Bounded L := by
  rw [AdnBridge.decodeTa7bit]
  have h0 : 0 < taBufLen := by decide
  split
  · exact h
  · simp only
    split
    · exact h.load h0
    · split
      · exact (h.load h0).load h0
      next hsize =>
        rw [not_or] at hsize
        have hL : taSize ((m.load 0).2.load 0).1 < L := h.text ▸ Nat.lt_of_not_le hsize.2
        have hc := Counting.taBytes (s := ⟨0, 0, 0, 0, ((m.load 0).2.load 0).2⟩)
          ⟨(h.load h0).load h0, Nat.zero_le _⟩ hL fun i hi => List.mem_range.1 hi
        exact hc.mem.store (Nat.lt_of_le_of_lt hc.outlen hL) 0

theorem Bounded.decodeTaUtf (h : m.Bounded L)
    (hn : min (taSize (m.buf 0)) (L - 1) < taBufLen ∨ 29 < taSize (m.buf 0)) :
    (decodeTaUtf m).2.Bounded L := by
  rw [AdnBridge.decodeTaUtf]
  have h0 : 0 < taBufLen := by decide
  split
  · exact h
  next hL =>
    rw [h.text] at hL
    simp only
    split
    · exact (h.load h0).load h0
    next hsize =>
      split
      · exact (h.load h0).load h0
      · have hlen : (if taSize ((m.load 0).2.load 0).1 ≥ m.text.length then m.text.length - 1
            else taSize ((m.load 0).2.load 0).1) = min (taSize (m.buf 0)) (L - 1) := by
          rw [h.text]
          change (if taSize (m.buf 0) ≥ L then L - 1 else taSize (m.buf 0)) = _
          split <;> omega
        have hlt : min (taSize (m.buf 0)) (L - 1) < taBufLen := by
          rcases hn with hn | hn
          · exact hn
          · exact absurd (.inr hn) hsize
        rw [hlen]
        exact (((h.load h0).load h0).taCopy hlt (by omega)).store (by omega) 0

/-- What `decode_ta_utf` does for a header that it accepts. -/
theorem decodeTaUtf_copies (hlen : ¬m.text.length = 0)
    (hfits : ¬(taSize (m.buf 0) = 0 ∨ taSize (m.buf 0) > 29))
    (hknown : ¬(taFormat (m.buf 0) ≠ 1 ∧ taFormat (m.buf 0) ≠ 2)) :
    let size := if taSize (m.buf 0) ≥ m.text.length then m.text.length - 1 else taSize (m.buf 0)
    AdnBridge.decodeTaUtf m = (size, ((List.range size).foldl AdnBridge.taCopy
      ((m.load 0).2.load 0).2).store size 0) := by
  rw [AdnBridge.decodeTaUtf, if_neg hlen]
  exact (if_neg hfits).trans (if_neg hknown)

/-- A header that is too long has the byte behind the buffer read. -/
theorem decodeTaUtf_overlong (h : Overlong (m.buf 0)) (hL : 29 ≤ m.text.length) :
    28 ≤ (AdnBridge.decodeTaUtf m).1 ∧ 28 ∈ (AdnBridge.decodeTaUtf m).2.reads := by
  obtain ⟨hformat, hsize⟩ := h
  have hlen : ¬m.text.length = 0 := by omega
  have hfits : ¬(taSize (m.buf 0) = 0 ∨ taSize (m.buf 0) > 29) := by omega
  have hknown : ¬(taFormat (m.buf 0) ≠ 1 ∧ taFormat (m.buf 0) ≠ 2) := by
    rw [not_and_or, not_not, not_not]
    exact hformat
  rw [decodeTaUtf_copies hlen hfits hknown]
  have hn : 28 ≤ if taSize (m.buf 0) ≥ m.text.length then m.text.length - 1
      else taSize (m.buf 0) := by
    split <;> omega
  refine ⟨hn, ?_⟩
  change 28 ∈ (List.foldl AdnBridge.taCopy _ _).reads
  rw [taCopy_reads]
  exact List.mem_append_right _ (List.mem_map.2 ⟨27, List.mem_range.2 (by omega), rfl⟩)

theorem Bounded.decodeTaBuf (h : m.Bounded L) (hL : 0 < L)
    (hn : ¬(Overlong (m.buf 0) ∧ 29 ≤ L)) : (decodeTaBuf m).2.Bounded L := by
  have h0 : 0 < taBufLen := by decide
  have hload := h.load h0
  have hmax : taSize (m.buf 0) ≤ 31 := taSize_le _
  rw [AdnBridge.decodeTaBuf]
  split
  · exact h
  · simp only
    split
    next hformat =>
      refine hload.decodeTaUtf ?_
      change min (taSize (m.buf 0)) (L - 1) < 28 ∨ 29 < taSize (m.buf 0)
      have hno : ¬((taSize (m.buf 0) = 28 ∨ taSize (m.buf 0) = 29) ∧ 29 ≤ L) := fun hbad =>
        hn ⟨⟨hformat, hbad.1⟩, hbad.2⟩
      omega
    · split
      · exact hload.decodeTa7bit
      · exact hload

end TaMem

theorem taPayloadLen_pos : 0 < taPayloadLen := by decide

theorem hasBlock_header {blocks : TaBlocks} {haveMask : UInt32} (h : hasBlock haveMask 0 = true)
    (stack : Nat → UInt8) (text : List UInt8) :
    (taMem (taBuf blocks haveMask) stack text).buf 0 =
      (blocks 0).get ⟨0, taPayloadLen_pos⟩ := by
  have hbuf : taBuf blocks haveMask = (blocks 0).toList ++ ((List.finRange 4).drop 1).flatMap
      fun k => if hasBlock haveMask k then (blocks k).toList
        else List.replicate taPayloadLen 0 := by
    change (if hasBlock haveMask 0 then (blocks 0).toList else _) ++ _ = _
    rw [if_pos h]
    rfl
  have hlen : 0 < (blocks 0).toList.length := by
    rw [Vector.length_toList]
    decide
  change (taBuf blocks haveMask).getD 0 0 = _
  rw [hbuf, List.getD_eq_getElem?_getD, List.getElem?_append_left hlen,
    List.getElem?_eq_getElem hlen, Option.getD_some, Vector.getElem_toList]
  rfl

/-- The decoding stays inside its buffers just if there is no first block, or its header does not
announce 28 or 29 bytes in one of the byte formats to a text that has room for them. -/
theorem decodesInBounds_iff (blocks : TaBlocks) (haveMask : UInt32) (stack : Nat → UInt8)
    {text : List UInt8} (ht : 1 ≤ text.length) :
    DecodesInBounds blocks haveMask stack text ↔
      ¬(hasBlock haveMask 0 = true ∧ Overlong (blocks 0)[0] ∧ 29 ≤ text.length) := by
  have hne : ¬text.length = 0 := by omega
  rw [DecodesInBounds, dmraDecodeBlocks]
  cases hb : hasBlock haveMask 0 with
  | false =>
    simp only [Bool.not_false, or_true, if_true, Bool.false_eq_true, false_and, not_false_eq_true,
      iff_true]
    exact ⟨fun i hi => absurd hi List.not_mem_nil, fun i hi => absurd hi List.not_mem_nil⟩
  | true =>
    have hgo : ¬(text.length = 0 ∨ (!true) = true) := by
      rw [not_or]
      exact ⟨hne, Bool.false_ne_true⟩
    have hheader : (taMem (taBuf blocks haveMask) stack text).buf 0 = (blocks 0)[0] :=
      hasBlock_header hb stack text
    have hstart : (taMem (taBuf blocks haveMask) stack text).Bounded text.length :=
      ⟨rfl, fun i hi => absurd hi List.not_mem_nil, fun i hi => absurd hi List.not_mem_nil⟩
    rw [if_neg hgo, ← hheader]
    generalize taMem (taBuf blocks haveMask) stack text = m at hstart ⊢
    constructor
    · rintro h ⟨-, hover, hL⟩
      have hL' : 29 ≤ (m.load 0).2.text.length := hstart.text.symm ▸ hL
      obtain ⟨hn, hmem⟩ := TaMem.decodeTaUtf_overlong (m := (m.load 0).2) hover hL'
      have hbuf : decodeTaBuf m = decodeTaUtf (m.load 0).2 := by
        rw [decodeTaBuf, if_neg (hstart.text.symm ▸ hne)]
        exact if_pos hover.1
      have hreads := h.1 28
      rw [hbuf] at hreads
      have hn0 : ¬(decodeTaUtf (m.load 0).2).1 = 0 := by omega
      simp only [if_neg hn0, TaMem.trimTaText_reads] at hreads
      exact absurd (hreads hmem) (by decide)
    · intro hn
      have hdec := hstart.decodeTaBuf ht fun hbad => hn ⟨rfl, hbad⟩
      by_cases hn0 : (decodeTaBuf m).1 = 0
      · simp only [if_pos hn0]
        exact ⟨hdec.reads, hdec.writes⟩
      · simp only [if_neg hn0]
        exact ⟨hdec.trimTaText.reads, hdec.trimTaText.writes⟩

/-- A first block that announces 27 bytes, as many as there are behind it. -/
theorem decodesInBounds_iff_sample : taSize 0x76 = 27 ∧
    DecodesInBounds (fun _ => Vector.replicate 7 0x76) 15 (fun _ => 0) (List.replicate 32 0) :=
  ⟨by decide, (decodesInBounds_iff _ _ _ (by decide)).2 fun h => absurd h.2.1 (by decide)⟩

/-- A first block that announces 28 bytes. -/
theorem not_decodesInBounds : ¬DecodesInBounds (fun _ => Vector.replicate 7 0x78) 15
    (fun _ => 0) (List.replicate 32 0) := by
  intro h
  have hreads := h.1 28
  revert hreads
  decide +kernel

end AdnBridge
