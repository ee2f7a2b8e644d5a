import AdnBridge.Hbp.DmrHbp
import AdnBridge.Mmdvm.Golay24128
import Mathlib.Data.List.Induction
import Mathlib.Data.List.Iterate
import Mathlib.Data.List.Nodup

namespace AdnBridge
set_option autoImplicit true

section
variable [XorOp α] [Inhabited α]

/-- The bits of a received burst in the order of the product code. -/
def bptcDeinterleave (raw : List α) : List α :=
  (List.range 196).map fun a => raw.getD (a * 181 % 196) default

/-- By how much each check bit of a line is off. -/
def lineErrors (checks : List (Nat × List Nat)) (line : List α) : List α :=
  checks.map fun x => line.getD x.1 default ^^^ xorAt line 0 x.2

def bptcRow (r : Nat) : List Nat := List.range' (15 * r + 1) 15

/-- The errors of all thirteen rows and all fifteen columns. -/
def bptcErrors (d : List α) : List α :=
  ((List.range 13).flatMap fun r =>
      lineErrors hammingChecks15113 ((bptcRow r).map fun i => d.getD i default)) ++
    (List.range 15).flatMap fun c =>
      lineErrors hammingChecks1393 ((bptcColumn c).map fun i => d.getD i default)

def bptcData (d : List α) : List α := bptcPlaces.map fun i => d.getD i default

end

theorem foldl_map_comm {f : α → β} {step : List α → Nat → List α} {step' : List β → Nat → List β}
    (h : ∀ d i, step' (d.map f) i = (step d i).map f) (l : List Nat) (d : List α) :
    l.foldl step' (d.map f) = (l.foldl step d).map f := by
  induction l generalizing d with
  | nil => rfl
  | cons i l ih => rw [List.foldl_cons, List.foldl_cons, h, ih]

section
variable [XorOp α] [Inhabited α] [XorOp β] [Inhabited β]

/-- A map that respects `^`. -/
structure XorHom (f : α → β) : Prop where
  default : f default = default
  xor : ∀ a b, f (a ^^^ b) = f a ^^^ f b

namespace XorHom

variable {f : α → β}

theorem getD (hf : XorHom f) (d : List α) (i : Nat) :
    (d.map f).getD i Inhabited.default = f (d.getD i Inhabited.default) := by
  rw [← hf.default, List.getD_map]

theorem map_getD (hf : XorHom f) (d : List α) (l : List Nat) :
    (l.map fun i => (d.map f).getD i Inhabited.default) =
      (l.map fun i => d.getD i Inhabited.default).map f := by
  rw [List.map_map]
  exact List.map_congr_left fun i _ => hf.getD d i

theorem xorAt (hf : XorHom f) (d : List α) (pos : Nat) (l : List Nat) :
    AdnBridge.xorAt (d.map f) pos l = f (AdnBridge.xorAt d pos l) := by
  have hgen (x : α) : l.foldl (fun x i => x ^^^ (d.map f).getD (pos + i) Inhabited.default) (f x) =
      f (l.foldl (fun x i => x ^^^ d.getD (pos + i) Inhabited.default) x) := by
    induction l generalizing x with
    | nil => rfl
    | cons i l ih => rw [List.foldl_cons, List.foldl_cons, hf.getD, ← hf.xor, ih]
  have h := hgen Inhabited.default
  rw [hf.default] at h
  exact h

theorem setChecks (hf : XorHom f) (d : List α) (pos : Nat) (checks : List (Nat × List Nat)) :
    AdnBridge.setChecks (d.map f) pos checks = (AdnBridge.setChecks d pos checks).map f := by
  rw [AdnBridge.setChecks, AdnBridge.setChecks]
  induction checks generalizing d with
  | nil => rfl
  | cons x checks ih => rw [List.foldl_cons, List.foldl_cons, hf.xorAt, ← List.map_set, ih]

theorem replicate (hf : XorHom f) (n : Nat) :
    List.replicate n (Inhabited.default : β) = (List.replicate n Inhabited.default).map f := by
  rw [List.map_replicate, hf.default]

theorem bptcDeInterData (hf : XorHom f) (bData : List α) :
    AdnBridge.bptcDeInterData (bData.map f) = (AdnBridge.bptcDeInterData bData).map f := by
  have hrow (d : List α) (r : Nat) : hammingEncode15113 (d.map f) (r * 15 + 1) =
      (hammingEncode15113 d (r * 15 + 1)).map f := hf.setChecks d _ _
  have hcol (d : List α) (c : Nat) :
      bptcEncodeColumn (d.map f) c = (bptcEncodeColumn d c).map f := by
    rw [bptcEncodeColumn, hf.map_getD, hammingEncode1393, hf.setChecks, setAt_map, bptcEncodeColumn,
      hammingEncode1393]
  rw [AdnBridge.bptcDeInterData, hf.replicate, setAt_map, foldl_map_comm hrow, foldl_map_comm hcol,
    AdnBridge.bptcDeInterData]

theorem lineErrors (hf : XorHom f) (checks : List (Nat × List Nat)) (line : List α) :
    AdnBridge.lineErrors checks (line.map f) = (AdnBridge.lineErrors checks line).map f := by
  rw [AdnBridge.lineErrors, AdnBridge.lineErrors, List.map_map]
  apply List.map_congr_left
  intro x _
  rw [hf.getD, hf.xorAt, ← hf.xor]
  rfl

theorem bptcErrors (hf : XorHom f) (d : List α) :
    AdnBridge.bptcErrors (d.map f) = (AdnBridge.bptcErrors d).map f := by
  rw [AdnBridge.bptcErrors, AdnBridge.bptcErrors, List.map_append, List.map_flatMap, List.map_flatMap]
  simp only [hf.map_getD, hf.lineErrors]

theorem bptcData (hf : XorHom f) (d : List α) :
    AdnBridge.bptcData (d.map f) = (AdnBridge.bptcData d).map f :=
  hf.map_getD d bptcPlaces

end XorHom

end

/-- The value of a linear form at some bits; bit `i` of the number is the factor of the `i`-th. -/
def linearForm : List Bool → Nat → Bool
  | [], _ => false
  | b :: v, m => (m.testBit 0 && b) ^^ linearForm v (m / 2)

theorem linearForm_xorHom (v : List Bool) : XorHom (linearForm v) where
  default := by
    induction v with
    | nil => rfl
    | cons b v ih =>
      rw [linearForm, Nat.default_eq_zero, Nat.zero_div, ← Nat.default_eq_zero, ih]
      rfl
  xor x y := by
    induction v generalizing x y with
    | nil => rfl
    | cons b v ih =>
      rw [linearForm, Nat.xor_div_two, ih, Nat.testBit_xor, linearForm, linearForm]
      show Bool.xor _ (Bool.xor _ _) = Bool.xor _ _
      cases x.testBit 0 <;> cases y.testBit 0 <;> cases b <;> cases linearForm v (x / 2) <;>
        cases linearForm v (y / 2) <;> rfl

theorem linearForm_single (v : List Bool) (h : k < v.length) :
    linearForm v (2 ^ k) = v.getD k false := by
  induction v generalizing k with
  | nil => cases h
  | cons b v ih =>
    cases k with
    | zero =>
      have h0 : linearForm v (2 ^ 0 / 2) = false := (linearForm_xorHom v).default
      rw [linearForm, h0]
      cases b <;> rfl
    | succ k =>
      have h2 : 2 ^ (k + 1) / 2 = 2 ^ k := by
        rw [Nat.pow_succ, Nat.mul_div_cancel _ (by decide)]
      have h0 : (2 ^ (k + 1)).testBit 0 = false := by
        rw [Nat.testBit_two_pow_of_ne (Nat.succ_ne_zero k)]
      rw [linearForm, h0, h2, ih (Nat.lt_of_succ_lt_succ h)]
      exact Bool.false_xor _

/-- The interleaver moves every bit of the product code, and no two to the same place. -/
theorem bptcDeinterleave_bptcRawData [Inhabited α] {d : List α} (h : d.length = 196) :
    bptcDeinterleave (bptcRawData d) = d := by
  have hinv : ∀ a < 196, a * 181 % 196 * 13 % 196 = a := by omega
  have hn : ((List.range 196).map fun a => a * 181 % 196).Nodup := by
    apply List.Nodup.map_on _ List.nodup_range
    intro a ha b hb hab
    rw [← hinv a (List.mem_range.1 ha), hab, hinv b (List.mem_range.1 hb)]
  have hlt : ∀ i ∈ (List.range 196).map fun a => a * 181 % 196,
      i < (List.replicate 196 (default : α)).length := by
    intro i hi
    obtain ⟨a, -, rfl⟩ := List.mem_map.1 hi
    rw [List.length_replicate]
    exact Nat.mod_lt _ (by decide)
  have hl : d.length = ((List.range 196).map fun a => a * 181 % 196).length := by
    rw [h, List.length_map, List.length_range]
  have hset := map_getD_setAt hn hlt hl default
  rw [List.map_map] at hset
  exact hset

/-- The linear forms of the 96 data bits. -/
def dataForms : List Nat := (List.range 96).map fun k => 2 ^ k

theorem dataForms_errors : (∀ x ∈ bptcErrors (bptcDeInterData dataForms), x = 0) ∧
    bptcData (bptcDeInterData dataForms) = dataForms := by
  decide +kernel

theorem forms_map (h : v.length = n) :
    ((List.range n).map fun k => 2 ^ k).map (linearForm v) = v := by
  apply List.ext_getElem
  · rw [List.length_map, List.length_map, List.length_range, h]
  · intro i h1 h2
    simp only [List.getElem_map, List.getElem_range]
    rw [linearForm_single v h2, List.getD_eq_getElem]

theorem dataForms_map (h : v.length = 96) : dataForms.map (linearForm v) = v := forms_map h

theorem setChecks_length [XorOp α] [Inhabited α] (d : List α) (pos : Nat)
    (checks : List (Nat × List Nat)) : (setChecks d pos checks).length = d.length := by
  rw [setChecks]
  induction checks generalizing d with
  | nil => rfl
  | cons x checks ih => rw [List.foldl_cons, ih, List.length_set]

theorem foldl_length {step : List α → Nat → List α} (h : ∀ d i, (step d i).length = d.length)
    (l : List Nat) (d : List α) : (l.foldl step d).length = d.length := by
  induction l generalizing d with
  | nil => rfl
  | cons i l ih => rw [List.foldl_cons, ih, h]

theorem bptcDeInterData_length [XorOp α] [Inhabited α] (v : List α) :
    (bptcDeInterData v).length = 196 := by
  have hcol (d : List α) (c : Nat) : (bptcEncodeColumn d c).length = d.length :=
    setAt_length d _ _
  have hrow (d : List α) (r : Nat) : (hammingEncode15113 d (r * 15 + 1)).length = d.length :=
    setChecks_length d _ _
  rw [bptcDeInterData, foldl_length hcol, foldl_length hrow, setAt_length, List.length_replicate]

/-- Every row and every column of an encoded burst is right, and the data comes out as it went
in. -/
theorem bptc_roundTrip (h : v.length = 96) :
    (∀ x ∈ bptcErrors (bptcDeinterleave (bptcRawData (bptcDeInterData v))), x = false) ∧
      bptcData (bptcDeinterleave (bptcRawData (bptcDeInterData v))) = v := by
  have hf := linearForm_xorHom v
  have hm := dataForms_map h
  rw [bptcDeinterleave_bptcRawData (bptcDeInterData_length v)]
  constructor
  · intro x hx
    rw [← hm, hf.bptcDeInterData, hf.bptcErrors] at hx
    obtain ⟨m, hmem, rfl⟩ := List.mem_map.1 hx
    rw [dataForms_errors.1 m hmem]
    exact hf.default
  · conv_lhs =>
      rw [← hm, hf.bptcDeInterData, hf.bptcData, dataForms_errors.2]
    exact hm

theorem bitsToByteBE_bits (raw : List Bool) (h : i + 8 ≤ raw.length) :
    byteBits (bitsToByteBE raw i) = (raw.drop i).take 8 := by
  rw [bitsToByteBE, byteBits_ofBits]
  rw [List.length_take, List.length_drop]
  omega

theorem bytesBits_bitsToByteBE (raw : List Bool) (h : o + 8 * n ≤ raw.length) :
    bytesBits ((List.range n).map fun k => bitsToByteBE raw (o + 8 * k)) =
      (raw.drop o).take (8 * n) := by
  induction n with
  | zero => rfl
  | succ n ih =>
    rw [List.range_succ, List.map_append, bytesBits_append, ih (by omega), List.map_singleton,
      bytesBits_cons, bytesBits_nil, List.append_nil, bitsToByteBE_bits raw (by omega),
      Nat.mul_succ, List.take_add, List.drop_drop]

theorem byteBits_overlay (x keep y take : UInt8) : byteBits (overlay x keep y take) =
    List.zipWith (· || ·) (List.zipWith (· && ·) (byteBits x) (byteBits keep))
      (List.zipWith (· && ·) (byteBits y) (byteBits take)) := by
  simp only [byteBits, toBits, overlay, UInt8.toNat_or, UInt8.toNat_and, Nat.testBit_or,
    Nat.testBit_and, List.zipWith_cons_cons, List.zipWith_nil_left]

theorem byteBits_shiftRight_four (y : UInt8) :
    byteBits (y >>> 4) = List.replicate 4 false ++ (byteBits y).take 4 := by
  revert y
  exact forall_byte (by decide +kernel)

theorem byteBits_overlay_low (x y : UInt8) :
    byteBits (overlay x 0x3F y 0xC0) = (byteBits y).take 2 ++ (byteBits x).drop 2 := by
  have hkeep : byteBits 0x3F = [false, false, true, true, true, true, true, true] := by decide
  have htake : byteBits 0xC0 = [true, true, false, false, false, false, false, false] := by decide
  rw [byteBits_overlay, hkeep, htake]
  simp only [byteBits, toBits, List.zipWith_cons_cons, List.zipWith_nil_left, Bool.and_true,
    Bool.and_false, Bool.or_false, Bool.false_or]
  rfl

theorem byteBits_overlay_high (x y : UInt8) :
    byteBits (overlay x 0xFC (y >>> 4) 0x03) =
      (byteBits x).take 6 ++ ((byteBits y).drop 2).take 2 := by
  have hkeep : byteBits 0xFC = [true, true, true, true, true, true, false, false] := by decide
  have htake : byteBits 0x03 = [false, false, false, false, false, false, true, true] := by decide
  rw [byteBits_overlay, byteBits_shiftRight_four, hkeep, htake]
  simp only [byteBits, toBits, List.replicate_succ, List.replicate_zero, List.take_succ_cons,
    List.take_zero, List.cons_append, List.nil_append, List.zipWith_cons_cons,
    List.zipWith_nil_left, Bool.and_true, Bool.and_false, Bool.or_false, Bool.false_or]
  rfl

/-- The 68 bits of a burst between its two halves: sync word and slot type. -/
def burstCentre (out : List UInt8) : List Bool :=
  (byteBits (byteAt out 12)).drop 2 ++ bytesBits ((out.drop 13).take 7) ++
    (byteBits (byteAt out 20)).take 6

/-- The two halves of an encoded burst are the bits of the product code. -/
theorem bytesBits_bptcEncode (lc out : List UInt8) :
    bytesBits (bptcEncode lc out) =
      (bptcRawData (bptcDeInterData (bytesBits (lc.take 12)))).take 98 ++ burstCentre out ++
        (bptcRawData (bptcDeInterData (bytesBits (lc.take 12)))).drop 98 := by
  have hl : (bptcRawData (bptcDeInterData (bytesBits (lc.take 12)))).length = 196 := by
    rw [bptcRawData, setAt_length, List.length_replicate]
  rw [bptcEncode]
  generalize bptcRawData (bptcDeInterData (bytesBits (lc.take 12))) = raw at hl
  have hfirst := bytesBits_bitsToByteBE raw (o := 0) (n := 12) (by omega)
  have hlast := bytesBits_bitsToByteBE raw (o := 100) (n := 12) (by omega)
  simp only [Nat.zero_add] at hfirst
  simp only [bytesBits_append, bytesBits_cons, bytesBits_nil, List.append_nil, hfirst, hlast,
    byteBits_overlay_low, byteBits_overlay_high, bitsToByteBE_bits raw (show 96 + 8 ≤ _ by omega)]
  have h98 : raw.take 98 = raw.take 96 ++ ((raw.drop 96).take 8).take 2 := by
    rw [List.take_take]
    exact List.take_add (i := 96) (j := 2)
  have hd98 : raw.drop 98 = (((raw.drop 96).take 8).drop 2).take 2 ++ (raw.drop 100).take 96 := by
    have hall : (raw.drop 100).take 96 = raw.drop 100 :=
      List.take_of_length_le (by rw [List.length_drop]; omega)
    have hsplit : raw.drop 98 = (raw.drop 98).take 2 ++ (raw.drop 98).drop 2 :=
      (List.take_append_drop 2 _).symm
    rw [hall, List.drop_take, List.take_take, List.drop_drop]
    rw [List.drop_drop] at hsplit
    exact hsplit
  rw [h98, hd98, burstCentre]
  simp only [List.append_assoc, List.drop_zero]

/-- Multiplication by the primitive element of GF(256), the field of `x^8 + x^4 + x^3 + x^2 + 1`. -/
def xtime (x : UInt8) : UInt8 := x <<< 1 ^^^ if x &&& 0x80 = 0 then 0 else 0x1D

/-- The value of a polynomial, its highest coefficient first, at the `j`-th power of the primitive
element. -/
def rsSyndrome (j : Nat) (word : List UInt8) : UInt8 := word.foldl (fun s c => xtime^[j] s ^^^ c) 0

theorem xtime_xor (a b : UInt8) : xtime (a ^^^ b) = xtime a ^^^ xtime b := by
  have htop : ∀ x : UInt8, x &&& 0x80 = 0 ∨ x &&& 0x80 = 0x80 := forall_byte (by decide +kernel)
  have hand : (a ^^^ b) &&& 0x80 = (a &&& 0x80) ^^^ (b &&& 0x80) := by
    rw [← UInt8.toNat_inj, UInt8.toNat_and, UInt8.toNat_xor, UInt8.toNat_xor, UInt8.toNat_and,
      UInt8.toNat_and, Nat.and_xor_distrib_right]
  have hshift : (a ^^^ b) <<< 1 = a <<< 1 ^^^ b <<< 1 := UInt8.shiftLeft_xor
  have hcarry : (if (a ^^^ b) &&& 0x80 = 0 then (0 : UInt8) else 0x1D) =
      (if a &&& 0x80 = 0 then 0 else 0x1D) ^^^ if b &&& 0x80 = 0 then 0 else 0x1D := by
    rw [hand]
    rcases htop a with ha | ha <;> rcases htop b with hb | hb <;> rw [ha, hb] <;> decide
  rw [xtime, xtime, xtime, hcarry, hshift]
  ac_rfl

theorem iterate_xtime_xor (j : Nat) (a b : UInt8) :
    xtime^[j] (a ^^^ b) = xtime^[j] a ^^^ xtime^[j] b := by
  induction j generalizing a b with
  | zero => rfl
  | succ j ih => rw [Function.iterate_succ_apply, xtime_xor, ih]; rfl

theorem xtime_zero (n : Nat) : xtime^[n] 0 = 0 := Function.iterate_fixed (by decide) n

theorem expTable_eq : expTable = List.iterate xtime 1 464 := by decide +kernel

theorem expTable_getD (h : k < 464) : expTable.getD k 0 = xtime^[k] 1 := by
  have hk : k < (List.iterate xtime 1 464).length := by rwa [List.length_iterate]
  rw [expTable_eq, List.getD_eq_getElem _ _ hk, List.getElem_iterate]

/-- The table of logarithms inverts the powers. -/
theorem expTable_logTable (h : d ≠ 0) : xtime^[(logTable.getD d.toNat 0).toNat] 1 = d := by
  have hall : ∀ d : UInt8, d ≠ 0 → expTable.getD (logTable.getD d.toNat 0).toNat 0 = d :=
    forall_byte (by decide +kernel)
  have hlog := (logTable.getD d.toNat 0).toNat_lt
  rw [← expTable_getD (by omega), hall d h]

theorem rs129Gmult_eq (ha : a ≠ 0) (hl : (logTable.getD a.toNat 0).toNat = l) (h : l < 208)
    (d : UInt8) : rs129Gmult a d = xtime^[l] d := by
  by_cases hd : d = 0
  · rw [hd, xtime_zero, rs129Gmult, decide_eq_true rfl, Bool.or_true, if_pos rfl]
  · have hlog := (logTable.getD d.toNat 0).toNat_lt
    rw [rs129Gmult, if_neg (by simp [ha, hd]), hl, expTable_getD (by omega),
      Function.iterate_add_apply, expTable_logTable hd]

/-- A relation between powers of the primitive element holds between the multiples by them. -/
theorem iterate_xtime_relation
    (h : xtime^[n] 1 = xtime^[n₁] 1 ^^^ xtime^[n₂] 1 ^^^ xtime^[n₃] 1) (d : UInt8) :
    xtime^[n] d = xtime^[n₁] d ^^^ xtime^[n₂] d ^^^ xtime^[n₃] d := by
  by_cases hd : d = 0
  · rw [hd, xtime_zero, xtime_zero, xtime_zero, xtime_zero]
    rfl
  · have hmul (n : Nat) : xtime^[n] d = xtime^[(logTable.getD d.toNat 0).toNat] (xtime^[n] 1) := by
      rw [← Function.iterate_add_apply, Nat.add_comm, Function.iterate_add_apply,
        expTable_logTable hd]
    rw [hmul, hmul, hmul, hmul, h, iterate_xtime_xor, iterate_xtime_xor]

/-- The powers of the primitive element that are roots of the generator of the code. -/
theorem rs129_root (h : j = 1 ∨ j = 2 ∨ j = 3) (d : UInt8) :
    xtime^[j] (xtime^[j] (xtime^[j] d)) =
      xtime^[j] (xtime^[j] (rs129Gmult (poly.getD 2 0) d)) ^^^
        xtime^[j] (rs129Gmult (poly.getD 1 0) d) ^^^ rs129Gmult (poly.getD 0 0) d := by
  have h0 := rs129Gmult_eq (a := 64) (l := 6) (by decide) (by decide) (by decide) d
  have h1 := rs129Gmult_eq (a := 56) (l := 201) (by decide) (by decide) (by decide) d
  have h2 := rs129Gmult_eq (a := 14) (l := 199) (by decide) (by decide) (by decide) d
  simp only [poly, List.getD_cons_succ, List.getD_cons_zero]
  rw [h0, h1, h2]
  simp only [← Function.iterate_add_apply]
  apply iterate_xtime_relation
  rcases h with rfl | rfl | rfl <;> decide +kernel

/-- The parity of `RS129` is the remainder of the message. -/
theorem rs129Encode_remainder (h : j = 1 ∨ j = 2 ∨ j = 3) (lc : List UInt8) :
    xtime^[j] (xtime^[j] (xtime^[j] (rsSyndrome j lc))) =
      xtime^[j] (xtime^[j] (rs129Encode lc).2.2) ^^^ xtime^[j] (rs129Encode lc).2.1 ^^^
        (rs129Encode lc).1 := by
  have hzero := xtime_zero j
  induction lc using List.reverseRecOn with
  | nil =>
    show xtime^[j] (xtime^[j] (xtime^[j] 0)) = xtime^[j] (xtime^[j] 0) ^^^ xtime^[j] 0 ^^^ 0
    rw [hzero, hzero, hzero, UInt8.xor_self, UInt8.xor_zero]
  | append_singleton lc m ih =>
    have hs : rsSyndrome j (lc ++ [m]) = xtime^[j] (rsSyndrome j lc) ^^^ m := by
      rw [rsSyndrome, List.foldl_append, List.foldl_cons, List.foldl_nil, rsSyndrome]
    have he : rs129Encode (lc ++ [m]) = rs129Step (rs129Encode lc) m := by
      rw [rs129Encode, List.foldl_append, List.foldl_cons, List.foldl_nil, rs129Encode]
    have hroot := rs129_root h (m ^^^ (rs129Encode lc).2.2)
    rw [hs, he, iterate_xtime_xor, iterate_xtime_xor, iterate_xtime_xor, ih, rs129Step]
    simp only [iterate_xtime_xor] at hroot ⊢
    generalize xtime^[j] (xtime^[j] (xtime^[j] m)) = x at hroot ⊢
    generalize xtime^[j] (xtime^[j] (xtime^[j] (rs129Encode lc).2.2)) = y at hroot ⊢
    have hreorder (a b : UInt8) : y ^^^ a ^^^ b ^^^ x = x ^^^ y ^^^ (a ^^^ b) := by ac_rfl
    rw [hreorder, hroot]
    ac_rfl

/-- A message with its parity behind it is a code word. -/
theorem rsSyndrome_encode (h : j = 1 ∨ j = 2 ∨ j = 3) (lc : List UInt8) :
    rsSyndrome j (lc ++ [(rs129Encode lc).2.2, (rs129Encode lc).2.1, (rs129Encode lc).1]) = 0 := by
  have hr := rs129Encode_remainder h lc
  rw [rsSyndrome, List.foldl_append, List.foldl_cons, List.foldl_cons, List.foldl_cons,
    List.foldl_nil, ← rsSyndrome, iterate_xtime_xor, iterate_xtime_xor, iterate_xtime_xor, hr]
  generalize xtime^[j] (xtime^[j] (rs129Encode lc).2.2) = a
  generalize xtime^[j] (rs129Encode lc).2.1 = b
  have hreorder (c : UInt8) : a ^^^ b ^^^ c ^^^ a ^^^ b ^^^ c = a ^^^ b ^^^ c ^^^ (a ^^^ b ^^^ c) := by
    ac_rfl
  rw [hreorder, UInt8.xor_self]

def bptcRawPlaces : List Nat := List.range' 0 98 ++ List.range' 166 98

def slotTypePlaces : List Nat := List.range' 98 10 ++ List.range' 156 10

/-- The product code of a burst. -/
def burstCode (payload : List UInt8) : List Bool := bptcDeinterleave (readBits payload bptcRawPlaces)

/-- The full LC of a burst, its three check bytes still masked. -/
def burstLc (payload : List UInt8) : List UInt8 :=
  (List.range 12).map fun k => bitsToByteBE (bptcData (burstCode payload)) (8 * k)

/-- The mask over the check bytes of the LC of a header and of a terminator. -/
def lcMask (dtype : UInt8) : UInt8 := if dtype = dmrdDtypeVterm then 0x99 else 0x96

def unmaskLc (mask : UInt8) (lc : List UInt8) : List UInt8 :=
  lc.take 9 ++ (lc.drop 9).map (· ^^^ mask)

/-- What a receiver finds in the burst of a header or a terminator: a Golay(20,8) word with the
colour code and the data type, a product code without an error, and in it a full LC with the check
bytes of its data type, the destination and the source. -/
structure DataSyncBurst (payload : List UInt8) (dtype : UInt8) (dst src : List UInt8) : Prop where
  golay : Golay24128.getSyndrome23127 (ofBits ((readBits payload slotTypePlaces).take 19)) = 0
  golayParity : (readBits payload slotTypePlaces).count true % 2 = 0
  colourCode : ofBits ((readBits payload slotTypePlaces).take 4) = 1
  dataType : ofBits (((readBits payload slotTypePlaces).drop 4).take 4) = dtype.toNat
  hamming : ∀ x ∈ bptcErrors (burstCode payload), x = false
  rs129 : ∀ j, j = 1 ∨ j = 2 ∨ j = 3 →
    rsSyndrome j (unmaskLc (lcMask dtype) (burstLc payload)) = 0
  dst : ((burstLc payload).drop 3).take 3 = dst
  src : ((burstLc payload).drop 6).take 3 = src

/-- The burst of a packet says what byte 15 and the addresses of the packet say. -/
def SaysItsHeader (pkt : List UInt8) : Prop :=
  DataSyncBurst (pkt.drop 20) (byteAt pkt 15 &&& 0x0F) ((pkt.drop 8).take 3) ((pkt.drop 5).take 3)

section
variable {lc out : List UInt8}

theorem bptcEncode_length (h : out.length = 33) (lc : List UInt8) :
    (bptcEncode lc out).length = 33 := by
  simp only [bptcEncode, List.length_append, List.length_map, List.length_range, List.length_take,
    List.length_drop, List.length_cons, List.length_nil, h]
  decide

theorem burstCentre_length (h : out.length = 33) : (burstCentre out).length = 68 := by
  simp only [burstCentre, List.length_append, List.length_drop, List.length_take, byteBits_length,
    bytesBits_length, h]
  rfl

theorem burstCode_bptcEncode (hl : lc.length = 12) (h : out.length = 33) :
    burstCode (bptcEncode lc out) =
      bptcDeinterleave (bptcRawData (bptcDeInterData (bytesBits lc))) := by
  have hraw : (bptcRawData (bptcDeInterData (bytesBits lc))).length = 196 := by
    rw [bptcRawData, setAt_length, List.length_replicate]
  have hlen := bptcEncode_length h lc
  have hbits := bytesBits_bptcEncode lc out
  rw [List.take_of_length_le (Nat.le_of_eq hl)] at hbits
  rw [burstCode, bptcRawPlaces, readBits_append, readBits_range' _ (by omega),
    readBits_range' _ (by omega), hbits]
  generalize bptcRawData (bptcDeInterData (bytesBits lc)) = raw at hraw
  have hfirst : (raw.take 98).length = 98 := by rw [List.length_take, hraw]; rfl
  have hfront : (raw.take 98 ++ burstCentre out).length = 166 := by
    rw [List.length_append, hfirst, burstCentre_length h]
  have hrest : (raw.drop 98).length = 98 := by rw [List.length_drop, hraw]
  rw [List.drop_zero, List.append_assoc, List.take_left' hfirst, ← List.append_assoc,
    List.drop_left' hfront, List.take_of_length_le (Nat.le_of_eq hrest), List.take_append_drop]

theorem slotType_bptcEncode (h : out.length = 33) (lc : List UInt8) :
    readBits (bptcEncode lc out) slotTypePlaces =
      (burstCentre out).take 10 ++ ((burstCentre out).drop 58).take 10 := by
  have hraw : (bptcRawData (bptcDeInterData (bytesBits (lc.take 12)))).length = 196 := by
    rw [bptcRawData, setAt_length, List.length_replicate]
  have hlen := bptcEncode_length h lc
  have hcentre := burstCentre_length h
  rw [slotTypePlaces, readBits_append, readBits_range' _ (by omega),
    readBits_range' _ (by omega), bytesBits_bptcEncode]
  generalize bptcRawData (bptcDeInterData (bytesBits (lc.take 12))) = raw at hraw
  have hfirst : (raw.take 98).length = 98 := by rw [List.length_take, hraw]; rfl
  have hdrop : 156 = 98 + 58 := rfl
  rw [List.append_assoc, List.drop_left' hfirst, hdrop, ← List.drop_drop, List.drop_left' hfirst,
    List.take_append_of_le_length (by omega), List.drop_append_of_le_length (by omega),
    List.take_append_of_le_length (by rw [List.length_drop]; omega)]

/-- The LC comes out of a burst as it went in. -/
theorem burstLc_bptcEncode (hl : lc.length = 12) (h : out.length = 33) :
    burstLc (bptcEncode lc out) = lc := by
  have hbits : (bytesBits lc).length = 96 := by rw [bytesBits_length, hl]
  have hbytes := bytesBits_bitsToByteBE (bytesBits lc) (o := 0) (n := 12) (by omega)
  rw [List.drop_zero, List.take_of_length_le (Nat.le_of_eq hbits)] at hbytes
  simp only [Nat.zero_add] at hbytes
  rw [burstLc, burstCode_bptcEncode hl h, (bptc_roundTrip hbits).2]
  exact bytesBits_injective hbytes

theorem headerLc_length (buf : List UInt8) : (headerLc buf).length = 12 := rfl

theorem headerFrame_length : headerFrame.length = 33 := by decide

/-- `generate_header` makes the burst of a voice LC header for whatever addresses `buf` has. -/
theorem generateHeader_burst (buf : List UInt8) :
    DataSyncBurst (generateHeader buf) dmrdDtypeVhead [byteAt buf 8, byteAt buf 9, byteAt buf 10]
      [byteAt buf 5, byteAt buf 6, byteAt buf 7] := by
  have hslot := slotType_bptcEncode headerFrame_length (headerLc buf)
  have hlc := burstLc_bptcEncode (headerLc_length buf) headerFrame_length
  have hcode := burstCode_bptcEncode (headerLc_length buf) headerFrame_length
  have hbits : (bytesBits (headerLc buf)).length = 96 := by
    rw [bytesBits_length, headerLc_length]
  rw [generateHeader]
  constructor
  · rw [hslot]
    decide +kernel
  · rw [hslot]
    decide +kernel
  · rw [hslot]
    decide +kernel
  · rw [hslot]
    decide +kernel
  · rw [hcode]
    exact (bptc_roundTrip hbits).1
  · intro j hj
    have hx (x : UInt8) : x ^^^ 0x96 ^^^ 0x96 = x := by
      rw [UInt8.xor_assoc, UInt8.xor_self, UInt8.xor_zero]
    rw [hlc, headerLc, unmaskLc]
    simp only [List.cons_append, List.nil_append, List.take_succ_cons, List.take_zero,
      List.drop_succ_cons, List.drop_zero, List.map_cons, List.map_nil]
    have hmask : lcMask dmrdDtypeVhead = 0x96 := rfl
    rw [hmask, hx, hx, hx]
    exact rsSyndrome_encode hj [0, 0, 0, byteAt buf 8, byteAt buf 9, byteAt buf 10, byteAt buf 5,
      byteAt buf 6, byteAt buf 7]
  · rw [hlc]
    rfl
  · rw [hlc]
    rfl

end

namespace Dmrd

/-- A data-sync packet says what it is exactly when it is a header. -/
theorem saysItsHeader_iff {p : Dmrd} (h : p.isVhead = true ∨ p.isVterm = true)
    (embRaw : List Bool) : SaysItsHeader (p.bytes embRaw) ↔ p.isVhead = true := by
  have hft : p.ft = dmrdFtDataSync := by
    simp only [isVhead, isVterm, Bool.and_eq_true, beq_iff_eq] at h
    rcases h with h | h
    · exact h.1
    · exact h.1
  have hburst : (p.bytes embRaw).drop 20 = generateHeader p.head := by
    rw [bytes, burst, if_pos hft]
    exact List.drop_left' rfl
  have h15 : byteAt (p.bytes embRaw) 15 &&& 0x0F = p.dtype := rfl
  have hdst : ((p.bytes embRaw).drop 8).take 3 =
      [byteAt p.head 8, byteAt p.head 9, byteAt p.head 10] := rfl
  have hsrc : ((p.bytes embRaw).drop 5).take 3 =
      [byteAt p.head 5, byteAt p.head 6, byteAt p.head 7] := rfl
  have hgen := generateHeader_burst p.head
  rw [SaysItsHeader, hburst, h15, hdst, hsrc]
  constructor
  · intro hb
    have hd : p.dtype = dmrdDtypeVhead := UInt8.toNat_inj.1 (hb.dataType.symm.trans hgen.dataType)
    simp only [isVhead, hft, hd, beq_self_eq_true, Bool.and_self]
  · intro hv
    simp only [isVhead, Bool.and_eq_true, beq_iff_eq] at hv
    rw [hv.2]
    exact hgen

end Dmrd

end AdnBridge
