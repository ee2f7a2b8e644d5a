import AdnBridge.Ysf.CodedField

namespace AdnBridge
set_option autoImplicit true

section
variable {payload bytes : List UInt8}

theorem drop_take_congr {p q : List UInt8} (hl : p.length = q.length)
    (h : ∀ i, o ≤ i → i < o + m → p.getD i 0 = q.getD i 0) :
    (p.drop o).take m = (q.drop o).take m := by
  apply List.ext_getElem
  · rw [List.length_take, List.length_take, List.length_drop, List.length_drop, hl]
  · intro i h1 h2
    rw [List.length_take, List.length_drop] at h1 h2
    have hi := h (o + i) (Nat.le_add_right o i) (by omega)
    rw [List.getD_eq_getElem _ _ (by omega), List.getD_eq_getElem _ _ (by omega)] at hi
    rw [List.getElem_take, List.getElem_take, List.getElem_drop, List.getElem_drop, hi]

/-- The pieces of a list are the list. -/
theorem pieces_eq (bytes : List UInt8) (k n : Nat) :
    ((List.range n).flatMap fun j => (bytes.drop (k * j)).take k) = bytes.take (k * n) := by
  induction n with
  | zero => rfl
  | succ n ih =>
    rw [List.range_succ, List.flatMap_append, ih, List.flatMap_singleton, Nat.mul_succ,
      List.take_add]

theorem spread_piece (hk : k ≤ 18) (hb : bytes.length = 5 * k)
    (h : off + 72 + k ≤ payload.length) (hj : j < 5) :
    ((spread k off bytes payload).drop (off + 18 * j)).take k = (bytes.drop (k * j)).take k := by
  have hpiece (i : Nat) (hi : i < 5) : ((bytes.drop (k * i)).take k).length = k := by
    have hle : k * i + k ≤ 5 * k := by
      rw [← Nat.mul_succ, Nat.mul_comm]
      exact Nat.mul_le_mul_right k hi
    rw [List.length_take, List.length_drop, hb]
    omega
  have hfold : ∀ l : List Nat, (∀ i ∈ l, i < 5) → ∀ p : List UInt8, p.length = payload.length →
      ((l.foldl (fun p i => blit p (off + 18 * i) ((bytes.drop (k * i)).take k)) p).drop
        (off + 18 * j)).take k =
          if j ∈ l then (bytes.drop (k * j)).take k else (p.drop (off + 18 * j)).take k := by
    intro l
    induction l with
    | nil =>
      intro _ p _
      exact (if_neg List.not_mem_nil).symm
    | cons i l ih =>
      intro hl p hp
      obtain ⟨hi, hl⟩ := List.forall_mem_cons.1 hl
      have hfit : off + 18 * i + ((bytes.drop (k * i)).take k).length ≤ p.length := by
        rw [hpiece i hi, hp]
        omega
      rw [List.foldl_cons, ih hl _ ((blit_length hfit).trans hp)]
      by_cases hjl : j ∈ l
      · rw [if_pos hjl, if_pos (List.mem_cons_of_mem i hjl)]
      rw [if_neg hjl]
      by_cases hji : j = i
      · subst hji
        have hself := blit_drop_take hfit
        rw [hpiece j hj] at hself
        rw [if_pos List.mem_cons_self, hself]
      · rw [if_neg fun hm => (List.mem_cons.1 hm).elim hji hjl]
        apply drop_take_congr (blit_length hfit)
        intro x hx hx'
        rw [blit_getD hfit, hpiece i hi, if_neg (by omega)]
  rw [spread, hfold (List.range 5) (fun i hi => List.mem_range.1 hi) payload rfl,
    if_pos (List.mem_range.2 hj)]

/-- What has been spread over a payload is gathered again. -/
theorem gather_spread (hk : k ≤ 18) (hb : bytes.length = 5 * k)
    (h : off + 72 + k ≤ payload.length) : gather k off (spread k off bytes payload) = bytes := by
  rw [gather, List.flatMap_congr fun j hj => spread_piece hk hb h (List.mem_range.1 hj), pieces_eq,
    Nat.mul_comm, ← hb, List.take_length]

theorem gather_congr {p q : List UInt8} (hl : p.length = q.length)
    (h : ∀ i, off ≤ i → p.getD i 0 = q.getD i 0) : gather k off p = gather k off q := by
  apply List.flatMap_congr
  intro i _
  apply drop_take_congr hl
  intro x hx _
  exact h x (by omega)

/-- A field leaves what stands elsewhere alone. -/
theorem gather_spread_of_disjoint (hb : bytes.length = 5 * k)
    (h : off + 72 + k ≤ payload.length)
    (hd : ∀ i < 5, ∀ j < 5, off' + 18 * i + k' ≤ off + 18 * j ∨ off + 18 * j + k ≤ off' + 18 * i) :
    gather k' off' (spread k off bytes payload) = gather k' off' payload := by
  obtain ⟨hl, hg⟩ := spread_spec hb h
  apply List.flatMap_congr
  intro i hi
  apply drop_take_congr hl
  intro x hx hx'
  apply hg
  intro j hj
  have := hd i (List.mem_range.1 hi) j hj
  omega

/-- The first CSD field leaves the second alone, and both are gathered again. -/
theorem gather_csd {a b : List UInt8} (hp : payload.length = 120) (ha : a.length = 5 * 9)
    (hb : b.length = 5 * 9) :
    (spread 9 39 b (spread 9 30 a payload)).length = 120 ∧
      gather 9 39 (spread 9 30 a payload) = gather 9 39 payload ∧
      gather 9 30 (spread 9 39 b (spread 9 30 a payload)) = a ∧
      gather 9 39 (spread 9 39 b (spread 9 30 a payload)) = b := by
  have h30 : 30 + 72 + 9 ≤ payload.length := hp.symm ▸ (by decide)
  have hl := (spread_spec ha h30).1.trans hp
  have h39 : 39 + 72 + 9 ≤ (spread 9 30 a payload).length := hl.symm ▸ (by decide)
  refine ⟨(spread_spec hb h39).1.trans hl, ?_, ?_, gather_spread (by decide) hb h39⟩
  · apply gather_spread_of_disjoint ha h30
    intro i _ j _
    omega
  · rw [gather_spread_of_disjoint hb h39, gather_spread (by decide) ha h30]
    intro i _ j _
    omega

end

section
variable {payload received dt csd1 csd2 : List UInt8}

/-- The DCH bytes come through a wrong bit. -/
theorem readVDMode2Data_writeVDMode2Data (hp : payload.length = 120) (hd : dt.length = 10)
    (he : wrongBits 200 (gather 5 30 received) (gather 5 30 (writeVDMode2Data payload dt)) ≤ 1) :
    readVDMode2Data received = some dt := by
  rw [writeVDMode2Data_eq, gather_spread (by decide) (codedField_length _ 5 10 dt)
    (by rw [hp]; decide)] at he
  rw [readVDMode2Data, dch_layout.readField_of_wrongBits he, fixed_of_length hd]

/-- The bit in the middle of the DCH is wrong. -/
theorem readVDMode2Data_noisy :
    readVDMode2Data (spread 5 30 (flipBit (codedField interleaveTable 5 10 ysfWireDstAll) 99)
      (List.replicate 120 0)) = some ysfWireDstAll := by
  have hlen : (flipBit (codedField interleaveTable 5 10 ysfWireDstAll) 99).length = 25 := by
    rw [flipBit, writeBit_length, codedField_length]
  have hp : (List.replicate 120 (0 : UInt8)).length = 120 := List.length_replicate
  apply readVDMode2Data_writeVDMode2Data hp rfl
  rw [writeVDMode2Data_eq, gather_spread (by decide) hlen (by decide),
    gather_spread (by decide) (codedField_length _ 5 10 _) (by decide)]
  exact dch_layout.wrongBits_flipBit (by rw [codedField_length]; decide)

theorem processDataFRModeData_of_read (h : readDataFRModeData shift payload = some dt) :
    processDataFRModeData shift payload = (some dt, writeDataFRModeData shift payload dt) := by
  rw [processDataFRModeData, h, Option.elim_some]

/-- The two fields are told apart, read and coded again. -/
theorem processHeaderData_of_wrongBits (hr : received.length = 120)
    (he1 : wrongBits 360 (gather 9 30 received) (codedField interleaveTable920 9 20 csd1) ≤ 1)
    (he2 : wrongBits 360 (gather 9 39 received) (codedField interleaveTable920 9 20 csd2) ≤ 1) :
    processHeaderData received = (some ((fixed 20 csd1).drop 10, (fixed 20 csd1).take 10),
      writeHeader received (fixed 20 csd1) (fixed 20 csd2)) := by
  have hc (dt : List UInt8) := codedField_length interleaveTable920 9 20 dt
  have hread1 : readDataFRModeData 0 received = some (fixed 20 csd1) :=
    csd_layout.readField_of_wrongBits he1
  have hread2 : readDataFRModeData 9 (writeDataFRModeData 0 received (fixed 20 csd1)) =
      some (fixed 20 csd2) := by
    apply csd_layout.readField_of_wrongBits
    rwa [writeDataFRModeData_eq, (gather_csd hr (hc _) (hc csd2)).2.1]
  rw [processHeaderData, processDataFRModeData_of_read hread1,
    processDataFRModeData_of_read hread2, Option.map_some, writeHeader]

/-- What is gathered from a header. -/
theorem gather_writeHeader (hp : payload.length = 120) (csd1 csd2 : List UInt8) :
    gather 9 30 (writeHeader payload csd1 csd2) = codedField interleaveTable920 9 20 csd1 ∧
      gather 9 39 (writeHeader payload csd1 csd2) = codedField interleaveTable920 9 20 csd2 := by
  rw [writeHeader, writeDataFRModeData_eq, writeDataFRModeData_eq]
  exact (gather_csd hp (codedField_length _ 9 20 csd1) (codedField_length _ 9 20 csd2)).2.2

/-- A header that comes with a wrong bit in each of its fields is read and repaired. -/
theorem processHeaderData_writeHeader (hp : payload.length = 120) (hr : received.length = 120)
    (h1 : csd1.length = 20) (h2 : csd2.length = 20)
    (he1 : wrongBits 360 (gather 9 30 received)
      (gather 9 30 (writeHeader payload csd1 csd2)) ≤ 1)
    (he2 : wrongBits 360 (gather 9 39 received)
      (gather 9 39 (writeHeader payload csd1 csd2)) ≤ 1) :
    processHeaderData received =
      (some (csd1.drop 10, csd1.take 10), writeHeader received csd1 csd2) := by
  obtain ⟨hg1, hg2⟩ := gather_writeHeader hp csd1 csd2
  rw [hg1] at he1
  rw [hg2] at he2
  rw [processHeaderData_of_wrongBits hr he1 he2, fixed_of_length h1, fixed_of_length h2]

/-- Each field has a wrong bit, and the payload around them is another one. -/
theorem processHeaderData_noisy :
    let noisy (csd : List UInt8) (i : Nat) := flipBit (codedField interleaveTable920 9 20 csd) i
    let received := spread 9 39 (noisy (spaces 20) 7)
      (spread 9 30 (noisy (ysfWireDstAll ++ spaces 10) 99) (List.replicate 120 255))
    processHeaderData received = (some (spaces 10, ysfWireDstAll),
      writeHeader received (ysfWireDstAll ++ spaces 10) (spaces 20)) := by
  intro noisy received
  have hn (csd : List UInt8) (i : Nat) : (noisy csd i).length = 5 * 9 :=
    (writeBit_length _ _ _).trans (codedField_length _ 9 20 csd)
  have hc (csd : List UInt8) : (codedField interleaveTable920 9 20 csd).length = 5 * 9 :=
    codedField_length _ 9 20 csd
  have hp : (List.replicate 120 (255 : UInt8)).length = 120 := List.length_replicate
  obtain ⟨hl, -, hr1, hr2⟩ := gather_csd hp (hn (ysfWireDstAll ++ spaces 10) 99) (hn (spaces 20) 7)
  obtain ⟨hw1, hw2⟩ := gather_writeHeader hp (ysfWireDstAll ++ spaces 10) (spaces 20)
  have h1 : (ysfWireDstAll ++ spaces 10).length = 20 := rfl
  apply processHeaderData_writeHeader hp hl h1 rfl
  · rw [hr1, hw1]
    exact csd_layout.wrongBits_flipBit (by rw [hc]; decide)
  · rw [hr2, hw2]
    exact csd_layout.wrongBits_flipBit (by rw [hc]; decide)

end

end AdnBridge
