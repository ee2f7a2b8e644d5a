import AdnBridge.Lib.Viterbi
import AdnBridge.Ysf.Fich
import Mathlib.Data.List.Perm.Subperm

namespace AdnBridge
set_option autoImplicit true

namespace Delay

/-- The number of a state of the decoder. -/
def index (s : Delay) : Nat := s.d1.toNat + 2 * s.d2.toNat + 4 * s.d3.toNat + 8 * s.d4.toNat

theorem index_lt (s : Delay) : s.index < 16 := by
  obtain ⟨d1, d2, d3, d4⟩ := s
  revert d1 d2 d3 d4
  decide

end Delay

/-- How many bits of a received dibit are wrong. -/
def dibitErrors (r o : Bool × Bool) : Nat := (r.1 ^^ o.1).toNat + (r.2 ^^ o.2).toNat

/-- The trellis of `convolution_encode`. -/
def fichTrellis : Trellis Delay (Bool × Bool) where
  pred s d := ⟨s.d2, s.d3, s.d4, d⟩
  cost r s d := dibitErrors r (Delay.output ⟨s.d2, s.d3, s.d4, d⟩ s.d1)

/-- The branch tables, as the loop of the decoder uses them. -/
def branchMetric (i : Nat) (r : Bool × Bool) : Nat :=
  (branchTable1.getD i 0 ^^^ r.1.toNat) + (branchTable2.getD i 0 ^^^ r.2.toNat)

theorem branchMetric_eq (r : Bool × Bool) (s : Delay) :
    branchMetric (s.index / 2) r = fichTrellis.cost r s s.d1 ∧
      2 - branchMetric (s.index / 2) r = fichTrellis.cost r s (!s.d1) := by
  obtain ⟨d1, d2, d3, d4⟩ := s
  obtain ⟨r1, r2⟩ := r
  revert d1 d2 d3 d4 r1 r2
  decide

theorem Delay.index_pred (s : Delay) : (fichTrellis.pred s false).index = s.index / 2 ∧
    (fichTrellis.pred s true).index = s.index / 2 + 8 ∧
    s.index = s.index / 2 * 2 + s.d1.toNat ∧ s.index / 2 < 8 := by
  obtain ⟨d1, d2, d3, d4⟩ := s
  revert d1 d2 d3 d4
  decide

theorem smaller_eq_min (m0 m1 : Nat) :
    (if decide (m0 ≥ m1) = true then m1 else m0) = min m0 m1 := by
  by_cases h : m1 ≤ m0
  · rw [if_pos (decide_eq_true h), Nat.min_eq_right h]
  · rw [if_neg (mt of_decide_eq_true h), Nat.min_eq_left (Nat.le_of_not_le h)]

section
variable {oldMetrics : List Nat} {rs : List (Bool × Bool)} {r : Bool × Bool}

/-- One turn writes the two states whose numbers halve to `i`. -/
theorem butterfly_get {x : List Nat × List Bool}
    (hold : ∀ s : Delay, oldMetrics.getD s.index 0 = fichTrellis.metric rs s)
    (h1 : x.1.length = 16) (h2 : x.2.length = 16) (hi : i < 8) (s : Delay) :
    (butterfly oldMetrics r.1.toNat r.2.toNat x i).1.getD s.index 0 =
        (if s.index / 2 = i then fichTrellis.metric (r :: rs) s else x.1.getD s.index 0) ∧
      (butterfly oldMetrics r.1.toNat r.2.toNat x i).2.getD s.index false =
        (if s.index / 2 = i then fichTrellis.decision rs r s else x.2.getD s.index false) := by
  obtain ⟨hf, ht, hd, -⟩ := s.index_pred
  rw [butterfly]
  simp only
  rw [getD_set _ _ _ (by rw [List.length_set]; omega), getD_set _ _ _ (by omega),
    getD_set _ _ _ (by rw [List.length_set]; omega), getD_set _ _ _ (by omega)]
  by_cases hs : s.index / 2 = i
  · subst hs
    have hm0 : oldMetrics.getD (s.index / 2) 0 = fichTrellis.metric rs (fichTrellis.pred s false) := by
      rw [← hf, hold]
    have hm1 : oldMetrics.getD (s.index / 2 + 8) 0 =
        fichTrellis.metric rs (fichTrellis.pred s true) := by
      rw [← ht, hold]
    obtain ⟨hc, hc'⟩ := branchMetric_eq r s
    rw [branchMetric] at hc hc'
    rw [hm0, hm1, hc', hc, if_pos rfl, if_pos rfl, Trellis.metric, Trellis.decision]
    cases hb : s.d1 with
    | false =>
      rw [hb, Bool.toNat_false] at hd
      have hne : s.index / 2 * 2 + 1 ≠ s.index := by omega
      have heq : s.index / 2 * 2 = s.index := by omega
      simp only [if_neg hne, if_pos heq]
      exact ⟨smaller_eq_min _ _, rfl⟩
    | true =>
      rw [hb, Bool.toNat_true] at hd
      simp only [if_pos hd.symm]
      exact ⟨smaller_eq_min _ _, rfl⟩
  · have h0 : i * 2 ≠ s.index := by omega
    have h1 : i * 2 + 1 ≠ s.index := by omega
    simp only [if_neg h0, if_neg h1, if_neg hs, and_self]

theorem butterflies_get (hold : ∀ s : Delay, oldMetrics.getD s.index 0 = fichTrellis.metric rs s)
    {x : List Nat × List Bool} (h1 : x.1.length = 16) (h2 : x.2.length = 16) (hn : n ≤ 8)
    (s : Delay) (hs : s.index / 2 < n) :
    ((List.range n).foldl (butterfly oldMetrics r.1.toNat r.2.toNat) x).1.getD s.index 0 =
        fichTrellis.metric (r :: rs) s ∧
      ((List.range n).foldl (butterfly oldMetrics r.1.toNat r.2.toNat) x).2.getD s.index false =
        fichTrellis.decision rs r s := by
  induction n with
  | zero => cases hs
  | succ n ih =>
    obtain ⟨hl1, hl2⟩ := butterfly_length oldMetrics r.1.toNat r.2.toNat x (List.range n)
    obtain ⟨hb1, hb2⟩ := butterfly_get (r := r) hold (hl1.trans h1) (hl2.trans h2) hn s
    rw [List.range_succ, List.foldl_append, List.foldl_cons, List.foldl_nil, hb1, hb2]
    by_cases hi : s.index / 2 = n
    · rw [if_pos hi, if_pos hi]
      exact ⟨rfl, rfl⟩
    · rw [if_neg hi, if_neg hi]
      exact ih (Nat.le_of_succ_le hn) (by omega)

end

/-- The words of `m_decisions` hold what the trellis decides, for symbols with the last one
first. -/
def RowsOf (decisions : List (List Bool)) : List (Bool × Bool) → Prop
  | [] => True
  | r :: rs => (∀ s : Delay, (decisions.getD rs.length []).getD s.index false =
      fichTrellis.decision rs r s) ∧ RowsOf decisions rs

theorem RowsOf.set (h : RowsOf decisions rs) (hn : rs.length ≤ n) :
    RowsOf (decisions.set n row) rs := by
  induction rs with
  | nil => exact h
  | cons r rs ih =>
    obtain ⟨hrow, hrows⟩ := h
    rw [List.length_cons] at hn
    refine ⟨fun s => ?_, ih hrows (Nat.le_of_succ_le hn)⟩
    rw [getD_set_ne decisions row [] (by omega), hrow]

/-- What the decoder holds after some symbols. -/
structure FichCodec.Decoded (c : FichCodec) (rs : List (Bool × Bool)) : Prop where
  metric : ∀ s : Delay, c.oldMetrics.getD s.index 0 = fichTrellis.metric rs s
  rows : RowsOf c.decisions rs
  dp : c.dp = rs.length

namespace FichCodec

variable {c : FichCodec} {rs : List (Bool × Bool)}

theorem decoded_cleared (c : FichCodec) : c.cleared.Decoded [] where
  metric s := by
    rw [cleared, List.getD_replicate _ s.index_lt]
    rfl
  rows := trivial
  dp := rfl

theorem convolutionDecode_oldMetrics (c : FichCodec) (s0 s1 : Nat) :
    (c.convolutionDecode s0 s1).oldMetrics = ((List.range 8).foldl (butterfly c.oldMetrics s0 s1)
      (c.newMetrics, List.replicate 16 false)).1 := by
  rw [FichCodec.convolutionDecode]

theorem convolutionDecode_decisions (c : FichCodec) (s0 s1 : Nat) :
    (c.convolutionDecode s0 s1).decisions = c.decisions.set c.dp ((List.range 8).foldl
      (butterfly c.oldMetrics s0 s1) (c.newMetrics, List.replicate 16 false)).2 := by
  rw [FichCodec.convolutionDecode]

theorem Decoded.convolutionDecode (h : c.Decoded rs) (hl : rs.length < 180) (r : Bool × Bool) :
    (c.convolutionDecode r.1.toNat r.2.toNat).Decoded (r :: rs) := by
  have hget (s : Delay) := butterflies_get (r := r) h.metric (x := (c.newMetrics,
    List.replicate 16 false)) c.newMetrics_length List.length_replicate (Nat.le_refl 8) s
    s.index_pred.2.2.2
  constructor
  · intro s
    rw [convolutionDecode_oldMetrics]
    exact (hget s).1
  · rw [convolutionDecode_decisions, h.dp]
    constructor
    · intro s
      rw [getD_set _ _ _ (by rw [c.decisions_length]; exact hl), if_pos rfl]
      exact (hget s).2
    · exact h.rows.set (Nat.le_refl _)
  · exact congrArg Nat.succ h.dp

theorem Decoded.decodeDibits (h : c.Decoded rs) (l : List (Bool × Bool))
    (hl : rs.length + l.length ≤ 180) : (c.decodeDibits l).Decoded (l.reverse ++ rs) := by
  induction l generalizing c rs with
  | nil => exact h
  | cons r l ih =>
    rw [List.length_cons] at hl
    have hn := ih (h.convolutionDecode (by omega) r) (by rw [List.length_cons]; omega)
    rw [FichCodec.decodeDibits] at hn ⊢
    rw [List.reverse_cons, List.append_assoc, List.foldl_cons]
    exact hn

end FichCodec

theorem state_pred (s : Delay) (b : Bool) (h : state >>> 4 = s.index) :
    (b.toNat <<< 7 ||| state >>> 1) >>> 4 = (fichTrellis.pred s b).index := by
  have hp : (fichTrellis.pred s b).index = s.index / 2 + 8 * b.toNat := by
    obtain ⟨hf, ht, -⟩ := s.index_pred
    cases b with
    | false => exact hf
    | true => exact ht
  rw [hp, ← h, Nat.shiftRight_or_distrib, ← Nat.shiftRight_add, Nat.add_comm 1 4, Nat.shiftRight_add]
  have hlt : state >>> 4 < 16 := h ▸ s.index_lt
  clear hp
  generalize state >>> 4 = x at hlt
  revert x b
  decide

/-- The chain back writes the survivor's decisions, from the last bit on. -/
theorem chainbackLoop_eq {decisions : List (List Bool)} (h : RowsOf decisions rs)
    (hn : n ≤ rs.length) (s : Delay) (hs : state >>> 4 = s.index) (out : List UInt8) :
    chainbackLoop decisions n rs.length state out =
      writeBits out (List.range n).reverse (fichTrellis.survivor rs s) := by
  induction n generalizing rs s state out with
  | zero => rfl
  | succ n ih =>
    cases rs with
    | nil => cases hn
    | cons r rs =>
      obtain ⟨hrow, hrows⟩ := h
      rw [chainbackLoop, List.length_cons, Nat.add_sub_cancel, hs, hrow, List.range_succ,
        List.reverse_append, List.reverse_singleton, List.singleton_append, Trellis.survivor,
        writeBits_cons]
      exact ih hrows (Nat.le_of_succ_le_succ hn) _ (state_pred s _ hs) _

/-- What the delay line holds after some input bits, the last one first. -/
def Delay.after : List Bool → Delay
  | [] => init
  | u :: us => (after us).shift u

/-- The dibits that `convolution_encode` makes of some input bits, the last one first. -/
def convolved : List Bool → List (Bool × Bool)
  | [] => []
  | u :: us => (Delay.after us).output u :: convolved us

/-- The way of the delay line through the trellis. -/
def trellisPath : List Bool → List Bool
  | [] => []
  | _ :: us => (Delay.after us).d4 :: trellisPath us

@[simp] theorem convolved_length (us : List Bool) : (convolved us).length = us.length := by
  induction us with
  | nil => rfl
  | cons u us ih => rw [convolved, List.length_cons, ih, List.length_cons]

def receiveErrors (rs os : List (Bool × Bool)) : Nat := (List.zipWith dibitErrors rs os).sum

theorem receiveErrors_cons (r o : Bool × Bool) (rs os : List (Bool × Bool)) :
    receiveErrors (r :: rs) (o :: os) = dibitErrors r o + receiveErrors rs os := by
  rw [receiveErrors, List.zipWith_cons_cons, List.sum_cons, receiveErrors]

theorem pathCost_trellisPath {rs : List (Bool × Bool)} (us : List Bool)
    (h : rs.length = us.length) :
    fichTrellis.pathCost rs (Delay.after us) (trellisPath us) = receiveErrors rs (convolved us) := by
  induction us generalizing rs with
  | nil => rw [List.length_eq_zero_iff.1 h]; rfl
  | cons u us ih =>
    obtain ⟨r, rs, rfl⟩ := List.exists_cons_of_length_eq_add_one h
    have hp : fichTrellis.pred (Delay.after (u :: us)) (Delay.after us).d4 = Delay.after us := rfl
    rw [trellisPath, Trellis.pathCost, hp, ih (Nat.succ.inj h), convolved, receiveErrors_cons,
      Nat.add_comm]
    rfl

theorem Delay.after_eq (us : List Bool) : Delay.after us =
    ⟨us.getD 0 false, us.getD 1 false, us.getD 2 false, us.getD 3 false⟩ := by
  induction us with
  | nil => rfl
  | cons u us ih => rw [Delay.after, ih]; rfl

/-- The path runs four bits behind the input. -/
theorem trellisPath_eq (us : List Bool) :
    trellisPath us = (us ++ List.replicate 4 false).drop 4 := by
  induction us with
  | nil => rfl
  | cons u us ih =>
    rw [trellisPath, ih, Delay.after_eq, List.cons_append, List.drop_succ_cons]
    have hl : 3 < (us ++ List.replicate 4 false).length := by
      rw [List.length_append, List.length_replicate]
      omega
    rw [List.drop_eq_getElem_cons hl, ← List.getD_eq_getElem _ false hl]
    congr 1
    by_cases h3 : 3 < us.length
    · rw [List.getD_append _ _ _ _ h3]
    · rw [List.getD_append_right _ _ _ _ (Nat.le_of_not_lt h3), List.getD_replicate _ (by omega),
        List.getD_eq_default _ _ (Nat.le_of_not_lt h3)]

/-- Two paths of the trellis that differ before the first step are three bit errors apart. -/
theorem fichTrellis_agree {rs : List (Bool × Bool)} {s : Delay} {ds ds' : List Bool}
    (h : ds.length = rs.length) (h' : ds'.length = rs.length)
    (hc : fichTrellis.pathCost rs s ds + fichTrellis.pathCost rs s ds' < 3) :
    ds.dropLast = ds'.dropLast := by
  apply Trellis.agree_of_cost (a := 2) (b := 1)
    (fun s s' : Delay => s.d1 = s'.d1 ∧ s.d2 = s'.d2 ∧ s.d3 = s'.d3 ∧ s.d4 = !s'.d4) _ _ _ h h' hc
  · rintro ⟨r1, r2⟩ ⟨d1, d2, d3, d4⟩ d
    revert d1 d2 d3 d4 r1 r2 d
    decide
  · rintro ⟨d1, d2, d3, d4⟩ d
    cases d <;> exact ⟨rfl, rfl, rfl, rfl⟩
  · rintro ⟨r1, r2⟩ ⟨d1, d2, d3, d4⟩ ⟨e1, e2, e3, e4⟩ d d' ⟨h1, h2, h3, h4⟩
    simp only at h1 h2 h3 h4
    subst h1 h2 h3 h4
    revert d1 d2 d3 e4 r1 r2 d d'
    decide

/-- The bits of a list of dibits. -/
def dibitBits (l : List (Bool × Bool)) : List Bool := l.flatMap fun g => [g.1, g.2]

@[simp] theorem dibitBits_length (l : List (Bool × Bool)) :
    (dibitBits l).length = 2 * l.length := by
  induction l with
  | nil => rfl
  | cons g l ih =>
    rw [dibitBits, List.flatMap_cons, List.length_append, ← dibitBits, ih]
    simp only [List.length_cons, List.length_nil]
    omega

theorem dibitBits_append (l l' : List (Bool × Bool)) :
    dibitBits (l ++ l') = dibitBits l ++ dibitBits l' :=
  List.flatMap_append

theorem dibitBits_injective : Function.Injective dibitBits := by
  intro l l' h
  induction l generalizing l' with
  | nil =>
    cases l' with
    | nil => rfl
    | cons g l' => cases h
  | cons g l ih =>
    cases l' with
    | nil => cases h
    | cons g' l' =>
      rw [dibitBits, List.flatMap_cons, dibitBits, List.flatMap_cons] at h
      simp only [List.cons_append, List.nil_append, List.cons.injEq] at h
      obtain ⟨h1, h2, h3⟩ := h
      rw [ih h3, Prod.ext h1 h2]

/-- The loop of `convolution_encode` writes the dibits one after another. -/
theorem convolutionStep_foldl (input out : List UInt8) (n : Nat) :
    (List.range n).foldl (convolutionStep input) (Delay.init, 0, out) =
      (Delay.after (readBits input (List.range n)).reverse, 2 * n,
        writeBits out (List.range (2 * n))
          (dibitBits (convolved (readBits input (List.range n)).reverse).reverse)) := by
  induction n with
  | zero => rfl
  | succ n ih =>
    have hr : readBits input (List.range (n + 1)) =
        readBits input (List.range n) ++ [readBit input n] := by
      rw [List.range_succ, readBits_append]
      rfl
    rw [List.range_succ, List.foldl_append, ih, List.foldl_cons, List.foldl_nil, ← List.range_succ,
      hr, List.reverse_append, List.reverse_singleton, List.singleton_append, convolved,
      List.reverse_cons, dibitBits_append, Nat.mul_succ,
      List.range_succ, List.range_succ, List.append_assoc, writeBits_append]
    · rfl
    · rw [dibitBits_length, List.length_reverse, convolved_length, List.length_reverse,
        readBits_length, List.length_range, List.length_range]

/-- The interleaver takes a dibit from each of the `k` groups of 20 in turn. -/
def turns (k : Nat) : List Nat :=
  (List.range 20).flatMap fun r => (List.range k).map fun c => 40 * c + 2 * r

theorem turns_length (k : Nat) : (turns k).length = 20 * k := by
  rw [turns, List.length_flatMap, List.map_congr_left fun r _ =>
    (List.length_map _).trans List.length_range, List.map_const', List.length_range,
    List.sum_replicate_nat]

theorem length_flatMap_pair (l : List Nat) :
    (l.flatMap fun i => [i, i + 1]).length = 2 * l.length := by
  induction l with
  | nil => rfl
  | cons i l ih =>
    rw [List.flatMap_cons, List.length_append, ih]
    simp only [List.length_cons, List.length_nil]
    omega

theorem turns_perm (k : Nat) :
    ((turns k).flatMap fun i => [i, i + 1]).Perm (List.range (40 * k)) := by
  have hsub : List.range (40 * k) ⊆ (turns k).flatMap fun i => [i, i + 1] := by
    intro v hv
    have hlt := List.mem_range.1 hv
    refine List.mem_flatMap.2 ⟨40 * (v / 40) + 2 * (v % 40 / 2), ?_, ?_⟩
    · refine List.mem_flatMap.2 ⟨v % 40 / 2, List.mem_range.2 (by omega), ?_⟩
      exact List.mem_map.2 ⟨v / 40, List.mem_range.2 (by omega), rfl⟩
    · simp only [List.mem_cons, List.not_mem_nil, or_false]
      omega
  refine ((List.subperm_of_subset List.nodup_range hsub).perm_of_length_le ?_).symm
  rw [length_flatMap_pair, turns_length, List.length_range]
  omega

namespace FichCodec

/-- Where the dibits of a field stand, bit by bit. -/
def fichPlaces : List Nat := interleaveTable.flatMap fun n => [n, n + 1]

theorem fichPlaces_perm : fichPlaces.Perm (List.range 200) := turns_perm 5

theorem fichPlaces_nodup : fichPlaces.Nodup := fichPlaces_perm.nodup_iff.2 List.nodup_range

theorem fichPlaces_lt : ∀ i ∈ fichPlaces, i < 200 := fun _ hi =>
  List.mem_range.1 (fichPlaces_perm.mem_iff.1 hi)

theorem dibitBits_dibits (bytes : List UInt8) :
    dibitBits (dibits bytes) = readBits bytes fichPlaces := by
  rw [dibitBits, dibits, readBits, fichPlaces, List.map_flatMap, List.flatMap_map]
  rfl

/-- An interleaver writes the bits in the order of its table. -/
theorem interleave_foldl (out : List UInt8) (l : List Nat) (o : Nat) (bytes : List UInt8) :
    (l.zipIdx o).foldl (fun bytes x =>
      writeBit (writeBit bytes x.1 (readBit out (2 * x.2))) (x.1 + 1)
        (readBit out (2 * x.2 + 1))) bytes =
      writeBits bytes (l.flatMap fun n => [n, n + 1])
        (readBits out (List.range' (2 * o) (2 * l.length))) := by
  induction l generalizing o bytes with
  | nil => rfl
  | cons n l ih =>
    rw [List.zipIdx_cons, List.foldl_cons, ih, List.length_cons, Nat.mul_succ 2 l.length,
      Nat.mul_succ 2 o, List.range'_succ, List.range'_succ]
    rfl

theorem writeDibits_eq (out bytes : List UInt8) : writeDibits out bytes =
    writeBits bytes fichPlaces (readBits out (List.range 200)) := by
  rw [writeDibits, interleave_foldl out interleaveTable 0 bytes, List.range_eq_range']
  rfl

/-- The bits of the convolutional code are its dibits. -/
theorem readBits_convolutionEncode (input : List UInt8) (h : 2 * n ≤ 8 * k) :
    readBits (convolutionEncode input (List.replicate k 0) n) (List.range (2 * n)) =
      dibitBits (convolved (readBits input (List.range n)).reverse).reverse := by
  rw [convolutionEncode, convolutionStep_foldl, readBits_writeBits List.nodup_range]
  · intro i hi
    rw [List.length_replicate]
    exact Nat.lt_of_lt_of_le (List.mem_range.1 hi) h
  · rw [dibitBits_length, List.length_reverse, convolved_length, List.length_reverse,
      readBits_length, List.length_range, List.length_range]

/-- The dibits of an encoded field are those of the convolutional code. -/
theorem dibits_writeDibits (h : bytes.length = 25) (input : List UInt8) :
    dibits (writeDibits (convolutionEncode input (List.replicate 25 0) 100) bytes) =
      (convolved (readBits input (List.range 100)).reverse).reverse := by
  apply dibitBits_injective
  rw [dibitBits_dibits, writeDibits_eq, readBits_writeBits fichPlaces_nodup]
  · exact readBits_convolutionEncode input (n := 100) (by decide)
  · intro i hi
    rw [h]
    exact fichPlaces_lt i hi
  · rw [readBits_length, List.length_range]
    rfl

/-- A flipped bit spoils the dibits once for each place of the table that it stands at. -/
theorem receiveErrors_map_flipBit (h : k < 8 * bytes.length) (l : List Nat) : receiveErrors
    (l.map fun n => (readBit (flipBit bytes k) n, readBit (flipBit bytes k) (n + 1)))
    (l.map fun n => (readBit bytes n, readBit bytes (n + 1))) =
      (l.flatMap fun n => [n, n + 1]).count k := by
  have hone (n : Nat) : dibitErrors (readBit (flipBit bytes k) n, readBit (flipBit bytes k) (n + 1))
      (readBit bytes n, readBit bytes (n + 1)) = [n, n + 1].count k := by
    have hx (a b : Bool) : ((a ^^ b) ^^ a) = b := by cases a <;> cases b <;> rfl
    have hd (a : Nat) : (decide (k = a)).toNat = if a == k then 1 else 0 := by
      by_cases ha : k = a
      · rw [decide_eq_true ha, if_pos (beq_iff_eq.2 ha.symm), Bool.toNat_true]
      · rw [decide_eq_false ha, if_neg fun hb => ha (beq_iff_eq.1 hb).symm, Bool.toNat_false]
    rw [readBit_flipBit h, readBit_flipBit h, dibitErrors, hx, hx, List.count_cons,
      List.count_singleton, hd, hd, Nat.add_comm]
  induction l with
  | nil => rfl
  | cons n l ih =>
    rw [List.map_cons, List.map_cons, receiveErrors_cons, ih, hone, List.flatMap_cons,
      List.count_append]

/-- A flipped bit of a field spoils one bit of the dibits at most. -/
theorem receiveErrors_flipBit (h : k < 8 * bytes.length) :
    receiveErrors (dibits (flipBit bytes k)) (dibits bytes) ≤ 1 := by
  rw [dibits, dibits, receiveErrors_map_flipBit h]
  exact List.nodup_iff_count.1 fichPlaces_nodup k

theorem receiveErrors_reverse {rs os : List (Bool × Bool)} (h : rs.length = os.length) :
    receiveErrors rs.reverse os.reverse = receiveErrors rs os := by
  rw [receiveErrors, ← List.reverse_zipWith h, List.sum_reverse, receiveErrors]

section
variable {g : List UInt8}

/-- With the tail of the code, the path ends in the state that the chain back starts from. -/
theorem readBits_tail (hg : ∀ i, n ≤ i → i < n + 4 → readBit g i = false) :
    (readBits g (List.range (n + 4))).reverse =
      List.replicate 4 false ++ readBits g (List.range n).reverse := by
  have hr : List.range (n + 4) = List.range n ++ [n, n + 1, n + 2, n + 3] := by
    simp only [List.range_succ, List.append_assoc, List.cons_append, List.nil_append]
  have htail : readBits g [n, n + 1, n + 2, n + 3] = List.replicate 4 false := by
    apply List.map_eq_replicate_iff.2
    intro i hi
    simp only [List.mem_cons, List.not_mem_nil, or_false] at hi
    exact hg i (by omega) (by omega)
  rw [hr, readBits_append, htail, List.reverse_append, List.reverse_replicate, readBits_reverse]

/-- The survivor of dibits with one wrong bit at most is the path of the input bits, up to its
beginning. -/
theorem survivor_take (hg : ∀ i, n ≤ i → i < n + 4 → readBit g i = false)
    {l : List (Bool × Bool)} (hl : l.length = n + 4)
    (he : receiveErrors l (convolved (readBits g (List.range (n + 4))).reverse).reverse ≤ 1) :
    (fichTrellis.survivor l.reverse Delay.init).take n = readBits g (List.range n).reverse := by
  have hlr : l.reverse.length = n + 4 := by rw [List.length_reverse, hl]
  have hus : (readBits g (List.range (n + 4))).reverse.length = n + 4 := by
    rw [List.length_reverse, readBits_length, List.length_range]
  have hpath : trellisPath (readBits g (List.range (n + 4))).reverse =
      readBits g (List.range n).reverse ++ List.replicate 4 false := by
    rw [trellisPath_eq, readBits_tail hg, List.append_assoc, List.drop_left' List.length_replicate]
  have hinit : Delay.after (readBits g (List.range (n + 4))).reverse = Delay.init := by
    rw [readBits_tail hg, Delay.after_eq]
    rfl
  have hcost := @pathCost_trellisPath l.reverse _ (hlr.trans hus.symm)
  rw [← receiveErrors_reverse (by rw [hl, List.length_reverse, convolved_length, hus]),
    List.reverse_reverse] at he
  rw [hinit] at hcost
  have hbits : (readBits g (List.range n).reverse).length = n := by
    rw [readBits_length, List.length_reverse, List.length_range]
  have hlen : (trellisPath (readBits g (List.range (n + 4))).reverse).length =
      l.reverse.length := by
    rw [hpath, List.length_append, hbits, List.length_replicate, hlr]
  have hbest := Trellis.survivor_best (T := fichTrellis) (s := Delay.init) hlen
  have hagree := fichTrellis_agree (s := Delay.init)
    (fichTrellis.survivor_length l.reverse Delay.init) hlen (by omega)
  have h := congrArg (List.take n) hagree
  have hmin : min n (n + 4 - 1) = n := Nat.min_eq_left (by omega)
  rw [List.dropLast_eq_take, List.dropLast_eq_take, List.take_take, List.take_take, hlen,
    Trellis.survivor_length, hlr, hpath, hmin] at h
  exact h.trans (List.take_left' hbits)

theorem convolutionChainback_eq (c : FichCodec) {l : List (Bool × Bool)} (hl : l.length = n + 4)
    (hn : n + 4 ≤ 180) (out : List UInt8) : convolutionChainback (c.cleared.decodeDibits l) out n =
      writeBits out (List.range n).reverse (fichTrellis.survivor l.reverse Delay.init) := by
  have hd := c.decoded_cleared.decodeDibits l (by rw [List.length_nil]; omega)
  rw [List.append_nil] at hd
  rw [convolutionChainback, hd.dp]
  apply chainbackLoop_eq hd.rows _ Delay.init rfl
  rw [List.length_reverse, hl]
  exact Nat.le_add_right n 4

/-- What is decoded does not depend on what the decoder held before. -/
theorem fichDecode_fich_eq (c c' : FichCodec) (bytes : List UInt8) :
    (c.fichDecode bytes).fich = (c'.fichDecode bytes).fich := by
  have hl : (dibits bytes).length = 100 := List.length_map _
  rw [fichDecode, fichDecode]
  simp only
  rw [convolutionChainback_eq c hl (by decide), convolutionChainback_eq c' hl (by decide)]

/-- The decoder finds the input bits again from dibits with one wrong bit at most. -/
theorem readBit_chainback (hg : ∀ i, n ≤ i → i < n + 4 → readBit g i = false) (c : FichCodec)
    {l : List (Bool × Bool)} (hl : l.length = n + 4) (hn : n + 4 ≤ 180)
    {out : List UInt8} (hout : n ≤ 8 * out.length)
    (he : receiveErrors l (convolved (readBits g (List.range (n + 4))).reverse).reverse ≤ 1)
    (hi : i < n) :
    readBit (convolutionChainback (c.cleared.decodeDibits l) out n) i = readBit g i := by
  have hlt : ∀ i ∈ (List.range n).reverse, i < 8 * out.length := by
    intro i hi
    exact Nat.lt_of_lt_of_le (List.mem_range.1 (List.mem_reverse.1 hi)) hout
  have hnodup : (List.range n).reverse.Nodup := List.pairwise_reverse.2 (List.nodup_range.imp Ne.symm)
  have hback := readBits_writeBits hnodup hlt (readBits_length g (List.range n).reverse)
  have htake := writeBits_take out (List.range n).reverse
    (fichTrellis.survivor l.reverse Delay.init)
  rw [List.length_reverse, List.length_range, survivor_take hg hl he] at htake
  rw [htake] at hback
  rw [convolutionChainback_eq c hl hn]
  exact List.map_inj_left.1 hback i (List.mem_reverse.2 (List.mem_range.2 hi))

end

end FichCodec

theorem lowByte_toNat (x : Nat) : (lowByte x).toNat = x % 256 := by
  rw [lowByte, Nat.toUInt8, UInt8.toNat_ofNat', Nat.and_two_pow_sub_one_eq_mod x 8, Nat.mod_mod]

/-- The three bytes of a code word make the word again. -/
theorem decode24128At_codeBytes (h : c < 2 ^ 24)
    (h0 : p.getD i 0 = lowByte (c >>> 16)) (h1 : p.getD (i + 1) 0 = lowByte (c >>> 8))
    (h2 : p.getD (i + 2) 0 = lowByte c) : decode24128At p i = Golay24128.decode24128 c := by
  have hc : ((c >>> 16 % 256) <<< 8 ||| c >>> 8 % 256) <<< 8 ||| c % 256 = c := by
    have hm (x : Nat) : x % 256 < 2 ^ 8 := Nat.mod_lt x (by decide)
    rw [← Nat.shiftLeft_add_eq_or_of_lt (hm _), ← Nat.shiftLeft_add_eq_or_of_lt (hm _),
      Nat.shiftLeft_eq, Nat.shiftLeft_eq, Nat.shiftRight_eq_div_pow, Nat.shiftRight_eq_div_pow]
    omega
  rw [decode24128At, h0, h1, h2, lowByte_toNat, lowByte_toNat, lowByte_toNat, hc]

theorem wordsOfFich_eq (f : List UInt8) : wordsOfFich f =
    [16 * (f.getD 0 0).toNat + (f.getD 1 0).toNat / 16,
      (f.getD 1 0).toNat % 16 * 256 + (f.getD 2 0).toNat,
      16 * (f.getD 3 0).toNat + (f.getD 4 0).toNat / 16,
      (f.getD 4 0).toNat % 16 * 256 + (f.getD 5 0).toNat] := by
  have hfirst : ∀ x y : UInt8, x.toNat <<< 4 &&& 0xFF0 ||| y.toNat >>> 4 &&& 0x00F =
      16 * x.toNat + y.toNat / 16 := by
    intro x y
    have hy := y.toNat_lt
    have hyq : y.toNat / 16 < 16 := by omega
    show x.toNat <<< 4 &&& 0xFF <<< 4 ||| y.toNat >>> 4 &&& 2 ^ 4 - 1 = _
    rw [← Nat.shiftLeft_and_distrib, Nat.and_two_pow_sub_one_eq_mod _ 8,
      Nat.and_two_pow_sub_one_eq_mod _ 4, Nat.mod_eq_of_lt x.toNat_lt,
      Nat.shiftRight_eq_div_pow, Nat.mod_eq_of_lt hyq,
      ← Nat.shiftLeft_add_eq_or_of_lt hyq, Nat.shiftLeft_eq, Nat.mul_comm]
  have hsecond : ∀ y z : UInt8, y.toNat <<< 8 &&& 0xF00 ||| z.toNat &&& 0x0FF =
      y.toNat % 16 * 256 + z.toNat := by
    intro y z
    show y.toNat <<< 8 &&& 0xF <<< 8 ||| z.toNat &&& 2 ^ 8 - 1 = _
    rw [← Nat.shiftLeft_and_distrib, Nat.and_two_pow_sub_one_eq_mod _ 4,
      Nat.and_two_pow_sub_one_eq_mod _ 8, Nat.mod_eq_of_lt z.toNat_lt,
      ← Nat.shiftLeft_add_eq_or_of_lt z.toNat_lt, Nat.shiftLeft_eq]
  simp only [wordsOfFich, hfirst, hsecond]

theorem middleByte (b0 b1 : Nat) (y : UInt8) (h0 : b0 % 16 = y.toNat / 16)
    (h1 : b1 / 256 = y.toNat % 16) :
    (b0 <<< 4 &&& 0xF0 ||| b1 >>> 8 &&& 0x0F).toUInt8 = y := by
  have hy := y.toNat_lt
  have h : b0 <<< 4 &&& 0xF <<< 4 ||| b1 >>> 8 &&& 2 ^ 4 - 1 = y.toNat := by
    rw [← Nat.shiftLeft_and_distrib, Nat.and_two_pow_sub_one_eq_mod _ 4,
      Nat.and_two_pow_sub_one_eq_mod _ 4, Nat.shiftRight_eq_div_pow,
      ← Nat.shiftLeft_add_eq_or_of_lt (Nat.mod_lt _ (by decide)), Nat.shiftLeft_eq]
    omega
  exact (congrArg Nat.toUInt8 h).trans UInt8.ofNat_toNat

theorem lowByte_eq {x : Nat} {y : UInt8} (h : x % 256 = y.toNat) : lowByte x = y := by
  rw [← UInt8.toNat_inj, lowByte_toNat, h]

theorem wordsOfFich_lt (f : List UInt8) : ∀ w ∈ wordsOfFich f, w < 4096 := by
  have hlt (i : Nat) := (f.getD i 0).toNat_lt
  intro w hw
  rw [wordsOfFich_eq] at hw
  simp only [List.mem_cons, List.not_mem_nil, or_false] at hw
  have h0 := hlt 0
  have h2 := hlt 2
  have h3 := hlt 3
  have h5 := hlt 5
  have h1 := hlt 1
  have h4 := hlt 4
  rcases hw with hw | hw | hw | hw <;> omega

/-- The four words carry the six bytes. -/
theorem fichOfWords_wordsOfFich (h : f.length = 6) :
    fichOfWords ((wordsOfFich f).getD 0 0) ((wordsOfFich f).getD 1 0) ((wordsOfFich f).getD 2 0)
      ((wordsOfFich f).getD 3 0) = f := by
  obtain ⟨f0, f, rfl⟩ := List.exists_cons_of_length_eq_add_one h
  obtain ⟨f1, f, rfl⟩ := List.exists_cons_of_length_eq_add_one (Nat.succ.inj h)
  obtain ⟨f2, f, rfl⟩ := List.exists_cons_of_length_eq_add_one (Nat.succ.inj (Nat.succ.inj h))
  obtain ⟨f3, f4, f5, rfl⟩ := List.length_eq_three.1 (Nat.succ.inj (Nat.succ.inj (Nat.succ.inj h)))
  have hs (b : UInt8) (x y : Nat) (hb : y < 16) (he : x = 16 * b.toNat + y) :
      (x >>> 4) % 256 = b.toNat := by
    have := b.toNat_lt
    rw [Nat.shiftRight_eq_div_pow]
    omega
  have h1 := f1.toNat_lt
  have h2 := f2.toNat_lt
  have h4 := f4.toNat_lt
  have h5 := f5.toNat_lt
  rw [wordsOfFich_eq]
  simp only [List.getD_cons_zero, List.getD_cons_succ]
  rw [fichOfWords, middleByte _ _ f1 (by omega) (by omega), middleByte _ _ f4 (by omega) (by omega),
    lowByte_eq (hs f0 _ (f1.toNat / 16) (by omega) rfl),
    lowByte_eq (hs f3 _ (f4.toNat / 16) (by omega) rfl), lowByte_eq (y := f2) (by omega),
    lowByte_eq (y := f5) (by omega)]

namespace FichCodec

theorem golayBytes_getD (f : List UInt8) (hk : k < 4) :
    let c := Golay24128.encode24128 ((wordsOfFich f).getD k 0)
    (golayBytes f).getD (3 * k) 0 = lowByte (c >>> 16) ∧
      (golayBytes f).getD (3 * k + 1) 0 = lowByte (c >>> 8) ∧
      (golayBytes f).getD (3 * k + 2) 0 = lowByte c := by
  obtain ⟨w0, w1, w2, w3, hw⟩ : ∃ w0 w1 w2 w3, wordsOfFich f = [w0, w1, w2, w3] :=
    ⟨_, _, _, _, rfl⟩
  rw [golayBytes, hw]
  obtain rfl | rfl | rfl | rfl : k = 0 ∨ k = 1 ∨ k = 2 ∨ k = 3 := by omega
  all_goals exact ⟨rfl, rfl, rfl⟩

/-- Three bytes of the Golay words, given by their bits, decode to the data of their word. -/
theorem decode24128At_golayBytes {out : List UInt8}
    (h : ∀ i < 96, readBit out i = readBit (golayBytes f) i) (hk : k < 4) :
    decode24128At out (3 * k) = (wordsOfFich f).getD k 0 := by
  have hbyte (j : Nat) (hj : j < 12) : out.getD j 0 = (golayBytes f).getD j 0 :=
    getD_of_readBit fun i hi => h _ (by omega)
  have hmem : (wordsOfFich f).getD k 0 ∈ wordsOfFich f := by
    rw [List.getD_eq_getElem _ 0 hk]
    exact List.getElem_mem hk
  obtain ⟨hd, -, hc⟩ := Golay24128.decode24128_encode24128 (wordsOfFich_lt f _ hmem)
  obtain ⟨h0, h1, h2⟩ := golayBytes_getD f hk
  rw [decode24128At_codeBytes hc ((hbyte _ (by omega)).trans h0) ((hbyte _ (by omega)).trans h1)
    ((hbyte _ (by omega)).trans h2), hd]

/-- The tail byte keeps the code in its last four steps at zero. -/
theorem readBit_golayBytes_tail (f : List UInt8) (i : Nat) (h96 : 96 ≤ i) (h : i < 100) :
    readBit (golayBytes f) i = false := by
  have hq : i / 8 = 12 := by omega
  rw [readBit, hq]
  have h0 : (golayBytes f).getD 12 0 = 0 := rfl
  rw [h0, UInt8.zero_and]
  rfl

/-- A field that differs from the encoded one in one bit at most decodes to the encoded bytes. -/
theorem fichDecode_of_errors (c : FichCodec) {field bytes : List UInt8} (hf : f.length = 6)
    (hl : field.length = 25)
    (he : receiveErrors (dibits bytes) (dibits (writeDibits
      (convolutionEncode (golayBytes f) (List.replicate 25 0) 100) field)) ≤ 1) :
    (c.fichDecode bytes).fich = f := by
  rw [dibits_writeDibits hl] at he
  have hbits (i : Nat) (hi : i < 96) :=
    readBit_chainback (readBit_golayBytes_tail f) c (List.length_map _) (by decide)
      (show 96 ≤ 8 * (List.replicate 13 (0 : UInt8)).length by decide) he hi
  rw [fichDecode]
  simp only
  rw [decode24128At_golayBytes (k := 0) hbits (by decide),
    decode24128At_golayBytes (k := 1) hbits (by decide),
    decode24128At_golayBytes (k := 2) hbits (by decide),
    decode24128At_golayBytes (k := 3) hbits (by decide), fichOfWords_wordsOfFich hf]

theorem receiveErrors_self (l : List (Bool × Bool)) : receiveErrors l l = 0 := by
  induction l with
  | nil => rfl
  | cons r l ih => rw [receiveErrors_cons, ih, dibitErrors, Bool.xor_self, Bool.xor_self]; rfl

theorem fichEncode_field (c : FichCodec) (field : List UInt8) : (c.fichEncode field).2 =
    writeDibits (convolutionEncode (golayBytes (c.fichEncode field).1.fich)
      (List.replicate 25 0) 100) field := by
  rw [fichEncode]

theorem fichEncode_fich (c : FichCodec) (field : List UInt8) :
    (c.fichEncode field).1.fich = addCCITT162 c.fich 6 := rfl

/-- A field that `fich_encode` has written is read back. -/
theorem fichDecode_field (sender receiver : FichCodec) (hl : field.length = 25) :
    (receiver.fichDecode (sender.fichEncode field).2).fich = addCCITT162 sender.fich 6 := by
  apply receiver.fichDecode_of_errors (sender.fichEncode field).1.fich_length hl
  rw [← fichEncode_field, receiveErrors_self]
  exact Nat.zero_le 1

/-- Whatever the decoder held before, it gets the four bytes and their check sum back from a field
that `fich_encode` has written, and from one with a flipped bit. -/
theorem fichDecode_fichEncode (sender receiver : FichCodec) (hl : field.length = 25) :
    let sent := sender.fichEncode field
    sent.1.fich = addCCITT162 sender.fich 6 ∧ sent.1.fich.take 4 = sender.fich.take 4 ∧
      (receiver.fichDecode sent.2).fich = sent.1.fich ∧
      ∀ k < 200, (receiver.fichDecode (flipBit sent.2 k)).fich = sent.1.fich := by
  have hf : (sender.fichEncode field).1.fich.length = 6 := (sender.fichEncode field).1.fich_length
  have hbytes : (sender.fichEncode field).2.length = 25 := by
    rw [fichEncode, writeDibits_eq, writeBits_length, hl]
  constructor
  · rfl
  constructor
  · rw [fichEncode_fich, addCCITT162]
    rw [List.take_set_of_le (by decide), List.take_set_of_le (by decide)]
  constructor
  · apply receiver.fichDecode_of_errors hf hl
    rw [← fichEncode_field, receiveErrors_self]
    exact Nat.zero_le 1
  · intro k hk
    apply receiver.fichDecode_of_errors hf hl
    rw [← fichEncode_field]
    apply receiveErrors_flipBit
    rw [hbytes]
    exact hk

/-- A sender with a header of its own. -/
def sampleSender : FichCodec :=
  { init with fich := [0x41, 0x26, 0x5A, 0x2A, 0x00, 0x00], fich_length := rfl }

/-- The receiver has decoded another frame before. -/
theorem fichDecode_fichEncode_sample :
    (((init.fichDecode (List.replicate 25 0xA7)).fichDecode
      (flipBit (sampleSender.fichEncode (List.replicate 25 0)).2 17)).fich).take 4 =
        [0x41, 0x26, 0x5A, 0x2A] := by
  obtain ⟨-, hkept, -, hflip⟩ := @fichDecode_fichEncode (List.replicate 25 0) sampleSender
    (init.fichDecode (List.replicate 25 0xA7)) List.length_replicate
  rw [hflip 17 (by decide), hkept]
  rfl

end FichCodec

end AdnBridge
