import Mathlib.Tactic.Common
import Mathlib.Data.Nat.Bitwise
import Mathlib.Data.List.Basic
import Mathlib.Tactic.IntervalCases
import Mathlib.Tactic.Ring

namespace AdnBridge
set_option autoImplicit true

/-- The last `n` binary digits of a number, the highest one first. -/
def toBits : Nat → Nat → List Bool
  | 0, _ => []
  | n + 1, x => x.testBit n :: toBits n x

/-- The number that a list of binary digits writes, the highest one first. -/
def ofBits (l : List Bool) : Nat := l.foldl (fun a b => 2 * a + b.toNat) 0

def byteBits (x : UInt8) : List Bool := toBits 8 x.toNat

/-- The bits of a byte array, each byte from its highest bit on. -/
def bytesBits (p : List UInt8) : List Bool := p.flatMap byteBits

/-- `BIT_MASK_TABLE`. -/
def bitMask (i : Nat) : UInt8 := 0x80 >>> (i % 8).toUInt8

/-- `READ_BIT1`. -/
def readBit (p : List UInt8) (i : Nat) : Bool := p.getD (i / 8) 0 &&& bitMask i != 0

/-- `WRITE_BIT1`. -/
def writeBit (p : List UInt8) (i : Nat) (b : Bool) : List UInt8 :=
  p.set (i / 8) (if b then p.getD (i / 8) 0 ||| bitMask i else p.getD (i / 8) 0 &&& ~~~bitMask i)

@[simp] theorem toBits_length (n x : Nat) : (toBits n x).length = n := by
  induction n with
  | zero => rfl
  | succ n ih => rw [toBits, List.length_cons, ih]

theorem toBits_getD (h : i < n) : (toBits n x).getD i false = x.testBit (n - 1 - i) := by
  induction n generalizing i with
  | zero => cases h
  | succ n ih =>
    cases i with
    | zero => rfl
    | succ i =>
      rw [toBits, List.getD_cons_succ, ih (Nat.lt_of_succ_lt_succ h)]
      congr 1
      omega

theorem foldl_bits (l : List Bool) (a : Nat) :
    l.foldl (fun a b => 2 * a + b.toNat) a = a * 2 ^ l.length + ofBits l := by
  induction l generalizing a with
  | nil => simp [ofBits]
  | cons b l ih =>
    rw [ofBits, List.foldl_cons, List.foldl_cons, ih, ih, List.length_cons, Nat.pow_succ]
    ring

theorem ofBits_cons (b : Bool) (l : List Bool) :
    ofBits (b :: l) = b.toNat * 2 ^ l.length + ofBits l := by
  rw [ofBits, List.foldl_cons, foldl_bits, Nat.mul_zero, Nat.zero_add]

theorem ofBits_append (l m : List Bool) : ofBits (l ++ m) = ofBits l * 2 ^ m.length + ofBits m := by
  rw [ofBits, List.foldl_append, foldl_bits]
  rfl

theorem ofBits_lt (l : List Bool) : ofBits l < 2 ^ l.length := by
  induction l with
  | nil => exact Nat.one_pos
  | cons b l ih =>
    rw [ofBits_cons, List.length_cons, Nat.pow_succ]
    cases b <;> simp only [Bool.toNat_false, Bool.toNat_true] <;> omega

theorem ofBits_toBits_mod (n x : Nat) : ofBits (toBits n x) = x % 2 ^ n := by
  induction n with
  | zero => rw [toBits, Nat.pow_zero, Nat.mod_one]; rfl
  | succ n ih =>
    rw [toBits, ofBits_cons, toBits_length, ih, Nat.pow_succ, Nat.mod_mul, Nat.testBit_eq_decide_div_mod_eq]
    have h2 : x / 2 ^ n % 2 < 2 := Nat.mod_lt _ (by decide)
    rw [Nat.add_comm, Nat.mul_comm (2 ^ n)]
    congr 2
    interval_cases x / 2 ^ n % 2 <;> rfl

theorem ofBits_toBits (h : x < 2 ^ n) : ofBits (toBits n x) = x := by
  rw [ofBits_toBits_mod, Nat.mod_eq_of_lt h]

theorem toBits_congr (h : ∀ i < n, x.testBit i = y.testBit i) : toBits n x = toBits n y := by
  induction n with
  | zero => rfl
  | succ n ih => rw [toBits, toBits, h n (Nat.lt_succ_self n), ih fun i hi => h i (Nat.lt_succ_of_lt hi)]

theorem toBits_mod (n x : Nat) : toBits n (x % 2 ^ n) = toBits n x :=
  toBits_congr fun i hi => by rw [Nat.testBit_mod_two_pow, decide_eq_true hi, Bool.true_and]

theorem toBits_ofBits (l : List Bool) : toBits l.length (ofBits l) = l := by
  induction l with
  | nil => rfl
  | cons b l ih =>
    have hmod : ofBits (b :: l) % 2 ^ l.length = ofBits l := by
      rw [ofBits_cons, Nat.mul_comm, Nat.mul_add_mod, Nat.mod_eq_of_lt (ofBits_lt l)]
    have hbit : (ofBits (b :: l)).testBit l.length = b := by
      rw [ofBits_cons, Nat.testBit_eq_decide_div_mod_eq, Nat.mul_comm,
        Nat.mul_add_div (Nat.two_pow_pos _), Nat.div_eq_of_lt (ofBits_lt l)]
      cases b <;> rfl
    rw [List.length_cons, toBits, hbit, ← toBits_mod, hmod, ih]

theorem toBits_toUInt8 (x : Nat) : byteBits x.toUInt8 = toBits 8 x := by
  rw [byteBits, Nat.toUInt8, UInt8.toNat_ofNat', toBits_mod]

@[simp] theorem byteBits_length (x : UInt8) : (byteBits x).length = 8 := toBits_length 8 _

@[simp] theorem bytesBits_nil : bytesBits [] = [] := rfl

@[simp] theorem bytesBits_cons (x : UInt8) (p : List UInt8) :
    bytesBits (x :: p) = byteBits x ++ bytesBits p := rfl

@[simp] theorem bytesBits_append (p q : List UInt8) :
    bytesBits (p ++ q) = bytesBits p ++ bytesBits q :=
  List.flatMap_append

@[simp] theorem bytesBits_length (p : List UInt8) : (bytesBits p).length = 8 * p.length := by
  induction p with
  | nil => rfl
  | cons x p ih =>
    rw [bytesBits_cons, List.length_append, byteBits_length, ih, List.length_cons]
    omega

theorem byteBits_ofBits (h : l.length = 8) : byteBits (ofBits l).toUInt8 = l := by
  rw [toBits_toUInt8, ← h, toBits_ofBits]

theorem ofBits_byteBits (x : UInt8) : (ofBits (byteBits x)).toUInt8 = x := by
  rw [byteBits, ofBits_toBits x.toNat_lt, Nat.toUInt8, UInt8.ofNat_toNat]

theorem bytesBits_injective : Function.Injective bytesBits := by
  intro p q h
  induction p generalizing q with
  | nil =>
    cases q with
    | nil => rfl
    | cons y q =>
      have hl := congrArg List.length h
      rw [bytesBits_length, bytesBits_length, List.length_cons, List.length_nil] at hl
      omega
  | cons x p ih =>
    cases q with
    | nil =>
      have hl := congrArg List.length h
      rw [bytesBits_length, bytesBits_length, List.length_cons, List.length_nil] at hl
      omega
    | cons y q =>
      rw [bytesBits_cons, bytesBits_cons] at h
      obtain ⟨hx, hp⟩ := List.append_inj h (by rw [byteBits_length, byteBits_length])
      rw [ih hp, ← ofBits_byteBits x, hx, ofBits_byteBits]

/-- What holds of 256 numbers holds of every byte. -/
theorem forall_byte {P : UInt8 → Prop} (h : ∀ x : Fin 256, P (UInt8.ofNat x.val)) (x : UInt8) :
    P x := by
  have hx := h ⟨x.toNat, x.toNat_lt⟩
  rwa [UInt8.ofNat_toNat] at hx

theorem byte_read (x : UInt8) (h : k < 8) :
    (x &&& bitMask k != 0) = x.toNat.testBit (7 - k) := by
  have hall : ∀ x : UInt8, ∀ k : Fin 8,
      (x &&& bitMask k.val != 0) = x.toNat.testBit (7 - k.val) :=
    forall_byte (by decide +kernel)
  exact hall x ⟨k, h⟩

theorem bitMask_mod (i : Nat) : bitMask (i % 8) = bitMask i := by
  rw [bitMask, Nat.mod_mod, bitMask]

theorem readBit_eq (p : List UInt8) (i : Nat) : readBit p i = (bytesBits p).getD i false := by
  have hread (p : List UInt8) (i : Nat) :
      readBit p i = (p.getD (i / 8) 0).toNat.testBit (7 - i % 8) := by
    rw [readBit, ← bitMask_mod, byte_read _ (Nat.mod_lt i (by decide))]
  rw [hread]
  induction p generalizing i with
  | nil =>
    rw [List.getD_nil, bytesBits_nil, List.getD_nil]
    exact Nat.zero_testBit _
  | cons x p ih =>
    rw [bytesBits_cons]
    by_cases hi : i < 8
    · have hq : i / 8 = 0 := Nat.div_eq_of_lt hi
      rw [hq, List.getD_cons_zero, Nat.mod_eq_of_lt hi,
        List.getD_append _ _ _ _ (by rw [byteBits_length]; exact hi), byteBits, toBits_getD hi]
    · obtain ⟨j, rfl⟩ := Nat.exists_eq_add_of_le (Nat.le_of_not_lt hi)
      have hq : (8 + j) / 8 = j / 8 + 1 := by omega
      have hm : (8 + j) % 8 = j % 8 := by omega
      rw [hq, hm, List.getD_cons_succ, ih,
        List.getD_append_right _ _ _ _ (by rw [byteBits_length]; omega), byteBits_length,
        Nat.add_sub_cancel_left]

@[simp] theorem writeBit_length (p : List UInt8) (i : Nat) (b : Bool) :
    (writeBit p i b).length = p.length := List.length_set

theorem bitMask_testBit (hj : j < 8) (hk : k < 8) :
    (bitMask j).toNat.testBit (7 - k) = decide (j = k) ∧
      (~~~bitMask j).toNat.testBit (7 - k) = decide (j ≠ k) := by
  have hall : ∀ j k : Fin 8, (bitMask j.val).toNat.testBit (7 - k.val) = decide (j = k) ∧
      (~~~bitMask j.val).toNat.testBit (7 - k.val) = decide (j ≠ k) := by
    decide +kernel
  have h := hall ⟨j, hj⟩ ⟨k, hk⟩
  simp only [ne_eq, Fin.mk.injEq] at h
  exact h

theorem byte_write (x : UInt8) (b : Bool) (hj : j < 8) (hk : k < 8) :
    ((if b then x ||| bitMask j else x &&& ~~~bitMask j) &&& bitMask k != 0) =
      if j = k then b else x &&& bitMask k != 0 := by
  obtain ⟨h1, h2⟩ := bitMask_testBit hj hk
  rw [byte_read _ hk, byte_read _ hk]
  cases b with
  | true =>
    rw [if_pos rfl, UInt8.toNat_or, Nat.testBit_or, h1]
    by_cases h : j = k
    · rw [decide_eq_true h, Bool.or_true, if_pos h]
    · rw [decide_eq_false h, Bool.or_false, if_neg h]
  | false =>
    rw [if_neg Bool.false_ne_true, UInt8.toNat_and, Nat.testBit_and, h2]
    by_cases h : j = k
    · rw [decide_eq_false (not_not_intro h), Bool.and_false, if_pos h]
    · rw [decide_eq_true h, Bool.and_true, if_neg h]

/-- A bit that has been written is read back, and the others are as they were. -/
theorem readBit_writeBit (p : List UInt8) (b : Bool) (hi : i < 8 * p.length) (j : Nat) :
    readBit (writeBit p i b) j = if i = j then b else readBit p j := by
  have hlt : i / 8 < p.length := by omega
  rw [readBit, writeBit]
  by_cases hq : i / 8 = j / 8
  · have hset (x : UInt8) : (p.set (i / 8) x).getD (j / 8) 0 = x := by
      rw [← hq, List.getD_eq_getElem?_getD, List.getElem?_set_self hlt, Option.getD_some]
    rw [hset, ← bitMask_mod i, ← bitMask_mod j,
      byte_write _ _ (Nat.mod_lt i (by decide)) (Nat.mod_lt j (by decide)), bitMask_mod, readBit, hq]
    by_cases hij : i = j
    · rw [if_pos hij, if_pos (by rw [hij])]
    · rw [if_neg hij, if_neg (by omega)]
  · have hset (x : UInt8) : (p.set (i / 8) x).getD (j / 8) 0 = p.getD (j / 8) 0 := by
      rw [List.getD_eq_getElem?_getD, List.getElem?_set_ne hq, List.getD_eq_getElem?_getD]
    rw [hset, if_neg (by omega), readBit]

/-- Write bits one after another, each at its own place. -/
def writeBits (p : List UInt8) (places : List Nat) (bits : List Bool) : List UInt8 :=
  (places.zip bits).foldl (fun p x => writeBit p x.1 x.2) p

def readBits (p : List UInt8) (places : List Nat) : List Bool := places.map (readBit p)

@[simp] theorem readBits_length (p : List UInt8) (places : List Nat) :
    (readBits p places).length = places.length :=
  List.length_map _

theorem readBits_append (p : List UInt8) (places places' : List Nat) :
    readBits p (places ++ places') = readBits p places ++ readBits p places' :=
  List.map_append

theorem readBits_reverse (p : List UInt8) (places : List Nat) :
    readBits p places.reverse = (readBits p places).reverse :=
  List.map_reverse

theorem getD_set (l : List α) (a d : α) (h : i < l.length) (j : Nat) :
    (l.set i a).getD j d = if i = j then a else l.getD j d := by
  rw [List.getD_eq_getElem?_getD, List.getD_eq_getElem?_getD, List.getElem?_set]
  by_cases hij : i = j
  · rw [if_pos hij, if_pos hij, if_pos h, Option.getD_some]
  · rw [if_neg hij, if_neg hij]

theorem getD_set_ne (l : List α) (a d : α) (h : i ≠ j) : (l.set i a).getD j d = l.getD j d := by
  rw [List.getD_eq_getElem?_getD, List.getD_eq_getElem?_getD, List.getElem?_set_ne h]

/-- Values set one after another, each at its own place. -/
def setAt (d : List α) (places : List Nat) (values : List α) : List α :=
  (places.zip values).foldl (fun d x => d.set x.1 x.2) d

theorem setAt_map (f : α → β) (d : List α) (places : List Nat) (values : List α) :
    setAt (d.map f) places (values.map f) = (setAt d places values).map f := by
  rw [setAt, setAt]
  induction places generalizing d values with
  | nil => rfl
  | cons i places ih =>
    cases values with
    | nil => rfl
    | cons a values =>
      rw [List.map_cons, List.zip_cons_cons, List.zip_cons_cons, List.foldl_cons, List.foldl_cons,
        ← List.map_set, ih]

@[simp] theorem setAt_length (d : List α) (places : List Nat) (values : List α) :
    (setAt d places values).length = d.length := by
  rw [setAt]
  induction places.zip values generalizing d with
  | nil => rfl
  | cons x l ih => rw [List.foldl_cons, ih, List.length_set]

theorem setAt_getD_of_notMem (d : List α) (values : List α) (hj : j ∉ places) (a : α) :
    (setAt d places values).getD j a = d.getD j a := by
  rw [setAt]
  induction places generalizing d values with
  | nil => rfl
  | cons i places ih =>
    cases values with
    | nil => rfl
    | cons b values =>
      rw [List.mem_cons, not_or] at hj
      rw [List.zip_cons_cons, List.foldl_cons, ih _ _ hj.2, getD_set_ne _ _ _ (Ne.symm hj.1)]

/-- Values set at distinct places are there afterwards. -/
theorem map_getD_setAt {places : List Nat} (hn : places.Nodup) {d values : List α}
    (hlt : ∀ i ∈ places, i < d.length) (hl : values.length = places.length) (a : α) :
    (places.map fun i => (setAt d places values).getD i a) = values := by
  induction places generalizing d values with
  | nil => exact (List.length_eq_zero_iff.1 hl).symm
  | cons i places ih =>
    obtain ⟨b, values, rfl⟩ := List.exists_cons_of_length_eq_add_one hl
    obtain ⟨hi, hlt⟩ := List.forall_mem_cons.1 hlt
    obtain ⟨hni, hn⟩ := List.nodup_cons.1 hn
    have hstep : setAt d (i :: places) (b :: values) = setAt (d.set i b) places values := rfl
    have hrest := ih hn (d := d.set i b) (by simpa only [List.length_set] using hlt)
      (Nat.succ.inj hl)
    rw [List.map_cons, hstep, setAt_getD_of_notMem _ _ hni, hrest, getD_set _ _ _ hi, if_pos rfl]

section
variable {p : List UInt8} {places : List Nat} {bits : List Bool}

@[simp] theorem writeBits_length (p : List UInt8) (places : List Nat) (bits : List Bool) :
    (writeBits p places bits).length = p.length := by
  rw [writeBits]
  induction places.zip bits generalizing p with
  | nil => rfl
  | cons x l ih => rw [List.foldl_cons, ih, writeBit_length]

theorem writeBits_cons (p : List UInt8) (i : Nat) (places : List Nat) (b : Bool) (bits : List Bool) :
    writeBits p (i :: places) (b :: bits) = writeBits (writeBit p i b) places bits := rfl

theorem readBit_writeBits_of_notMem (hlt : ∀ i ∈ places, i < 8 * p.length) (hj : j ∉ places) :
    readBit (writeBits p places bits) j = readBit p j := by
  induction places generalizing p bits with
  | nil => rfl
  | cons i places ih =>
    cases bits with
    | nil => rfl
    | cons b bits =>
      obtain ⟨hi, hlt⟩ := List.forall_mem_cons.1 hlt
      rw [List.mem_cons, not_or] at hj
      rw [writeBits_cons, ih (by simpa only [writeBit_length] using hlt) hj.2,
        readBit_writeBit p b hi, if_neg (Ne.symm hj.1)]

/-- Bits written at distinct places are read back. -/
theorem readBits_writeBits (hn : places.Nodup) (hlt : ∀ i ∈ places, i < 8 * p.length)
    (hl : bits.length = places.length) : readBits (writeBits p places bits) places = bits := by
  induction places generalizing p bits with
  | nil => exact (List.length_eq_zero_iff.1 hl).symm
  | cons i places ih =>
    obtain ⟨b, bits, rfl⟩ := List.exists_cons_of_length_eq_add_one hl
    obtain ⟨hi, hlt⟩ := List.forall_mem_cons.1 hlt
    obtain ⟨hni, hn⟩ := List.nodup_cons.1 hn
    have hlt' : ∀ j ∈ places, j < 8 * (writeBit p i b).length := by
      simpa only [writeBit_length] using hlt
    have hrest := ih hn hlt' (Nat.succ.inj hl)
    rw [readBits, List.map_cons, writeBits_cons, readBit_writeBits_of_notMem hlt' hni,
      readBit_writeBit p b hi, if_pos rfl]
    exact congrArg (b :: ·) hrest

theorem writeBits_append (h : bits.length = places.length) (p : List UInt8)
    (places' : List Nat) (bits' : List Bool) : writeBits p (places ++ places') (bits ++ bits') =
      writeBits (writeBits p places bits) places' bits' := by
  rw [writeBits, List.zip_append h.symm, List.foldl_append]
  rfl

theorem writeBits_take (p : List UInt8) (places : List Nat) (bits : List Bool) :
    writeBits p places (bits.take places.length) = writeBits p places bits := by
  induction places generalizing p bits with
  | nil => rfl
  | cons i places ih =>
    cases bits with
    | nil => rfl
    | cons b bits => exact ih _ _

/-- A byte is given by its eight bits. -/
theorem getD_of_readBit {q : List UInt8} (h : ∀ i < 8, readBit p (8 * k + i) = readBit q (8 * k + i)) :
    p.getD k 0 = q.getD k 0 := by
  rw [← UInt8.toNat_inj]
  apply Nat.eq_of_testBit_eq
  intro i
  by_cases hi : i < 8
  · have hb := h (7 - i) (by omega)
    have hq : (8 * k + (7 - i)) / 8 = k := by omega
    have hm : (8 * k + (7 - i)) % 8 = 7 - i := by omega
    rw [readBit, readBit, ← bitMask_mod, hq, hm, byte_read _ (by omega), byte_read _ (by omega)] at hb
    have hi' : 7 - (7 - i) = i := by omega
    rwa [hi'] at hb
  · have hlt (x : UInt8) : x.toNat.testBit i = false :=
      Nat.testBit_lt_two_pow (Nat.lt_of_lt_of_le x.toNat_lt
        (Nat.pow_le_pow_right (by decide) (Nat.le_of_not_lt hi)))
    rw [hlt, hlt]

end

theorem readBits_range' (p : List UInt8) (h : s + n ≤ 8 * p.length) :
    readBits p (List.range' s n) = ((bytesBits p).drop s).take n := by
  induction n generalizing s with
  | zero => rfl
  | succ n ih =>
    have hlt : s < (bytesBits p).length := by
      rw [bytesBits_length]
      omega
    have hr : readBits p (List.range' (s + 1) n) = ((bytesBits p).drop (s + 1)).take n :=
      ih (by omega)
    rw [List.range'_succ, List.drop_eq_getElem_cons hlt, List.take_succ_cons, ← hr,
      ← List.getD_eq_getElem _ false hlt, ← readBit_eq]
    rfl

def flipBit (p : List UInt8) (i : Nat) : List UInt8 := writeBit p i (!readBit p i)

theorem readBit_flipBit (h : i < 8 * p.length) (j : Nat) :
    readBit (flipBit p i) j = (readBit p j ^^ decide (i = j)) := by
  rw [flipBit, readBit_writeBit p _ h]
  by_cases hij : i = j
  · rw [if_pos hij, hij, decide_eq_true rfl, Bool.xor_true]
  · rw [if_neg hij, decide_eq_false hij, Bool.xor_false]

/-- `src` copied over the places from `off` on. -/
def blit (p : List α) (off : Nat) (src : List α) : List α :=
  p.take off ++ src ++ p.drop (off + src.length)

@[simp] theorem blit_length {p src : List α} (h : off + src.length ≤ p.length) :
    (blit p off src).length = p.length := by
  rw [blit, List.length_append, List.length_append, List.length_take, List.length_drop]
  omega

theorem blit_getD {p src : List α} (h : off + src.length ≤ p.length) (i : Nat) (a : α) :
    (blit p off src).getD i a =
      if off ≤ i ∧ i < off + src.length then src.getD (i - off) a else p.getD i a := by
  have htake : (p.take off).length = off := List.length_take_of_le (by omega)
  have hl : (p.take off ++ src).length = off + src.length := by rw [List.length_append, htake]
  rw [blit]
  by_cases hlt : i < off
  · rw [if_neg (by omega), List.append_assoc, List.getD_append _ _ _ _ (by omega),
      List.getD_eq_getElem?_getD, List.getElem?_take_of_lt hlt, List.getD_eq_getElem?_getD]
  · by_cases hsrc : i < off + src.length
    · rw [if_pos ⟨Nat.le_of_not_lt hlt, hsrc⟩, List.getD_append _ _ _ _ (by omega),
        List.getD_append_right _ _ _ _ (by omega), htake]
    · have hidx : off + src.length + (i - (off + src.length)) = i := by omega
      rw [if_neg (by omega), List.getD_append_right _ _ _ _ (by omega), hl,
        List.getD_eq_getElem?_getD, List.getElem?_drop, hidx, List.getD_eq_getElem?_getD]

theorem blit_take {p src : List α} (h : off + src.length ≤ p.length) (hn : n ≤ off) :
    (blit p off src).take n = p.take n := by
  rw [blit, List.append_assoc, List.take_append_of_le_length
    (by rw [List.length_take]; omega), List.take_take, Nat.min_eq_left hn]

theorem blit_drop_take {p src : List α} (h : off + src.length ≤ p.length) :
    ((blit p off src).drop off).take src.length = src := by
  have htake : (p.take off).length = off := List.length_take_of_le (by omega)
  rw [blit, List.append_assoc, List.drop_left' htake, List.take_left' rfl]

/-- A C array of `n` elements that starts with the given ones. -/
def fixed [Inhabited α] (n : Nat) (l : List α) : List α := (l ++ List.replicate n default).take n

@[simp] theorem fixed_length [Inhabited α] (n : Nat) (l : List α) : (fixed n l).length = n := by
  rw [fixed, List.length_take, List.length_append, List.length_replicate]
  omega

theorem fixed_of_length [Inhabited α] {l : List α} (h : l.length = n) : fixed n l = l :=
  List.take_left' h

end AdnBridge
