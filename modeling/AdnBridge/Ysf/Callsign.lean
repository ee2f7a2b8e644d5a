import AdnBridge.Ysf.Frame
import Mathlib.Algebra.Order.Ring.Int

namespace AdnBridge
set_option autoImplicit true

def chSpace : UInt8 := 0x20
def chTab : UInt8 := 0x09
def chDash : UInt8 := 0x2D
def chSlash : UInt8 := 0x2F

def toUpper (c : UInt8) : UInt8 := if 0x61 ≤ c ∧ c ≤ 0x7A then c - 0x20 else c

theorem toUpper_toUpper (c : UInt8) : toUpper (toUpper c) = toUpper c := by
  by_cases h : 0x61 ≤ c ∧ c ≤ 0x7A
  · have hc : toUpper c = c - 0x20 := if_pos h
    rw [hc]
    refine if_neg fun h' => ?_
    have h1 : 0x61 ≤ c.toNat := UInt8.le_iff_toNat_le.1 h.1
    have h2 : c.toNat ≤ 0x7A := UInt8.le_iff_toNat_le.1 h.2
    have h3 : 0x61 ≤ (c - 0x20).toNat := UInt8.le_iff_toNat_le.1 h'.1
    have h4 : (c - 0x20).toNat = c.toNat - 0x20 := UInt8.toNat_sub_of_le _ _
      (UInt8.le_iff_toNat_le.2 (show 0x20 ≤ c.toNat by omega))
    omega
  · have hc : toUpper c = c := if_neg h
    rw [hc, hc]

def isDigit (c : UInt8) : Bool := 0x30 ≤ c && c ≤ 0x39

/-- What a C string holds: the bytes before the first NUL. -/
def cString (s : List UInt8) : List UInt8 := s.takeWhile (· != 0)

def pad10 (s : List UInt8) : List UInt8 := s.take 10 ++ spaces (10 - s.length)

theorem pad10_length (s : List UInt8) : (pad10 s).length = 10 := by
  rw [pad10, List.length_append, List.length_take, spaces, List.length_replicate]
  omega

/-- The printable part of a label; anything else shows as a dot. -/
def dbgLabel10 (raw : List UInt8) : List UInt8 :=
  (raw.take 10).map fun c => if 32 ≤ c ∧ c < 127 then c else 0x2E

def n0call : List UInt8 := [0x4E, 0x30, 0x43, 0x41, 0x4C, 0x4C]

/-- The callsign before the first blank, dash or slash. -/
def ysfCallsignBase10 (src10 : List UInt8) : List UInt8 :=
  let base := (src10.take 10).takeWhile fun c =>
    c != chSpace && c != 0 && c != chDash && c != chSlash
  if base.isEmpty then n0call else base.map toUpper

def ysfCallsignBaseSrc (src : List UInt8) : List UInt8 :=
  ysfCallsignBase10 (pad10 (cString (src.take 10)))

def formatYsfCallsign10 (src : List UInt8) : List UInt8 :=
  let base := (cString src).takeWhile fun c => c != chDash && c != chSlash
  pad10 ((base.filter fun c => c != chSpace && c != chTab).map toUpper)

def labelIsNumericDmrid (cs : List UInt8) : Bool :=
  ((cs.take 10).all fun c => c == chSpace || isDigit c) && (cs.take 10).any isDigit

/-- `atoi` on decimal digits, in 32 bits. -/
def atoi (digits : List UInt8) : Int :=
  Int.bmod (digits.foldl (fun n c => 10 * n + (c.toNat - 0x30)) 0 : Nat) (2 ^ 32)

def callsign10ToDmrid (cs : List UInt8) : Int :=
  if labelIsNumericDmrid cs then atoi ((cs.take 10).filter isDigit) else 0

def decimal (n : Nat) : List UInt8 := (Nat.toDigits 10 n).map fun c => c.toNat.toUInt8

theorem decimal_digit (n : Nat) : ∀ c ∈ decimal n, isDigit c = true := by
  intro c hc
  obtain ⟨d, hd, rfl⟩ := List.mem_map.1 hc
  have h := Nat.isDigit_of_mem_toDigits (by decide) (by decide) hd
  have hn : 48 ≤ d.toNat ∧ d.toNat ≤ 57 := by
    rw [Char.isDigit, Bool.and_eq_true, decide_eq_true_iff, decide_eq_true_iff] at h
    exact ⟨UInt32.le_iff_toNat_le.1 h.1, UInt32.le_iff_toNat_le.1 h.2⟩
  have hc : d.toNat.toUInt8.toNat = d.toNat := by
    rw [Nat.toUInt8, UInt8.toNat_ofNat']
    omega
  rw [isDigit, Bool.and_eq_true, decide_eq_true_iff, decide_eq_true_iff, UInt8.le_iff_toNat_le,
    UInt8.le_iff_toNat_le, hc]
  exact hn

theorem decimal_number (n : Nat) :
    (decimal n).foldl (fun k c => 10 * k + (c.toNat - 0x30)) 0 = n := by
  have h := Nat.ofDigitChars_toDigits (b := 10) (n := n) (by decide) (by decide)
  rw [Nat.ofDigitChars_eq_foldl] at h
  rw [decimal, List.foldl_map]
  refine Eq.trans (List.foldl_ext _ _ _ fun k d hd => ?_) h
  have h := Nat.isDigit_of_mem_toDigits (by decide) (by decide) hd
  have hn : d.toNat ≤ 57 := by
    rw [Char.isDigit, Bool.and_eq_true, decide_eq_true_iff, decide_eq_true_iff] at h
    exact UInt32.le_iff_toNat_le.1 h.2
  rw [Nat.toUInt8, UInt8.toNat_ofNat', Nat.mod_eq_of_lt (by omega)]
  rfl

def formatIdCallsign10 (id : Nat) : List UInt8 := pad10 (decimal id)

/-- `"TG %d"`. -/
def formatTgDst10 (tg : Nat) : List UInt8 := pad10 ([0x54, 0x47, 0x20] ++ decimal tg)

/-- The two lookups that the bridges make in the subscriber tables. -/
structure AliasDb where
  lookupId : List UInt8 → Int
  lookupCallsign : Int → Option (List UInt8)

end AdnBridge
