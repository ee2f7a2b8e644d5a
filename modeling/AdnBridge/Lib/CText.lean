import Mathlib.Data.List.Basic
import Mathlib.Data.List.TakeWhile
import Mathlib.Tactic.IntervalCases

namespace AdnBridge
set_option autoImplicit true

/-- The value of a digit in the bases up to 16. -/
def digitValue (c : UInt8) : Option Nat :=
  if 0x30 ≤ c ∧ c ≤ 0x39 then some (c.toNat - 0x30)
  else if 0x61 ≤ c ∧ c ≤ 0x66 then some (c.toNat - 0x57)
  else if 0x41 ≤ c ∧ c ≤ 0x46 then some (c.toNat - 0x37)
  else none

def isDigitOf (base : Nat) (c : UInt8) : Bool := (digitValue c).any (· < base)

def isWhite (c : UInt8) : Bool := c == 0x20 || (0x09 ≤ c && c ≤ 0x0D)

def digitsValue (base : Nat) (ds : List UInt8) : Nat :=
  ds.foldl (fun n c => base * n + (digitValue c).getD 0) 0

/-- The number at the start of a text, and what follows its digits. -/
def readDigits (base : Nat) (s : List UInt8) : Nat × List UInt8 :=
  (digitsValue base (s.takeWhile (isDigitOf base)), s.dropWhile (isDigitOf base))

/-- `strtoul` in base 0 at a digit. -/
def strtoul (s : List UInt8) : Nat × List UInt8 :=
  if s.headD 0 ≠ 0x30 then readDigits 10 s
  else if (s.getD 1 0 = 0x78 ∨ s.getD 1 0 = 0x58) ∧ isDigitOf 16 (s.getD 2 0) then
    readDigits 16 (s.drop 2)
  else readDigits 8 s

/-- The last number of an address, which the end of the text or a blank follows. -/
def inetLast (s : List UInt8) : Option (List Nat) :=
  let (val, rest) := strtoul s
  if !isDigitOf 10 (s.headD 0) ∨ val > 0xFFFFFFFF then none
  else if isWhite (rest.headD 0x20) then some [val] else none

/-- The numbers of an address, of which `n` may still have a dot behind them. -/
def inetParts : Nat → List UInt8 → Option (List Nat)
  | 0, s => inetLast s
  | n + 1, s =>
    let (val, rest) := strtoul s
    if rest.head? = some 0x2E then
      if !isDigitOf 10 (s.headD 0) ∨ val > 0xFF then none
      else (inetParts n rest.tail).map (val :: ·)
    else inetLast s

/-- `inet_aton`: one to four numbers, of which the last fills the bytes that are left. -/
def inetAton (s : List UInt8) : Option Nat :=
  match inetParts 3 s with
  | some [a] => some a
  | some [a, b] => if b ≤ 0xFFFFFF then some (a * 2 ^ 24 + b) else none
  | some [a, b, c] => if c ≤ 0xFFFF then some (a * 2 ^ 24 + b * 2 ^ 16 + c) else none
  | some [a, b, c, d] =>
    if d ≤ 0xFF then some (a * 2 ^ 24 + b * 2 ^ 16 + c * 2 ^ 8 + d) else none
  | _ => none

/-- What `%d` of `sscanf` leaves of a text that starts with a number. -/
def scanInt (s : List UInt8) : Option (List UInt8) :=
  let s := s.dropWhile isWhite
  let s := if s.headD 0 = 0x2B ∨ s.headD 0 = 0x2D then s.tail else s
  if isDigitOf 10 (s.headD 0) then some (s.dropWhile (isDigitOf 10)) else none

/-- A number up to 255 in decimal. -/
def byteText (n : Fin 256) : List UInt8 :=
  let digit (d : Nat) : UInt8 := 0x30 + d.toUInt8
  if n.val < 10 then [digit n]
  else if n.val < 100 then [digit (n / 10), digit (n % 10)]
  else [digit (n / 100), digit (n / 10 % 10), digit (n % 10)]

/-- The dotted writing of an address. -/
def quadText (a b c d : Fin 256) : List UInt8 :=
  byteText a ++ 0x2E :: (byteText b ++ 0x2E :: (byteText c ++ 0x2E :: byteText d))

def quadAddress (a b c d : Fin 256) : Nat :=
  a.val * 2 ^ 24 + b.val * 2 ^ 16 + c.val * 2 ^ 8 + d.val

theorem takeWhile_run {P : α → Bool} {l m : List α} (hl : ∀ a ∈ l, P a = true)
    (hm : ∀ a ∈ m.head?, P a = false) : (l ++ m).takeWhile P = l := by
  rw [List.takeWhile_append_of_pos hl]
  cases m with
  | nil => exact List.append_nil l
  | cons a m => rw [List.takeWhile_cons_of_neg (by rw [hm a rfl]; decide), List.append_nil]

theorem dropWhile_run {P : α → Bool} {l m : List α} (hl : ∀ a ∈ l, P a = true)
    (hm : ∀ a ∈ m.head?, P a = false) : (l ++ m).dropWhile P = m := by
  rw [List.dropWhile_append_of_pos hl]
  cases m with
  | nil => rfl
  | cons a m => exact List.dropWhile_cons_of_neg (by rw [hm a rfl]; decide)

theorem readDigits_run {ds rest : List UInt8} (hds : ∀ c ∈ ds, isDigitOf base c = true)
    (hrest : ∀ c ∈ rest.head?, isDigitOf base c = false) :
    readDigits base (ds ++ rest) = (digitsValue base ds, rest) := by
  rw [readDigits, takeWhile_run hds hrest, dropWhile_run hds hrest]

theorem digit_plain {d : Nat} (h : d < 10) : isDigitOf 10 (0x30 + d.toUInt8) = true ∧
    (digitValue (0x30 + d.toUInt8)).getD 0 = d ∧ isWhite (0x30 + d.toUInt8) = false ∧
    ¬((0x30 : UInt8) + d.toUInt8 = 0x2B ∨ (0x30 : UInt8) + d.toUInt8 = 0x2D) ∧
    ((0x30 : UInt8) + d.toUInt8 = 0x30 → d = 0) := by
  interval_cases d <;> decide

/-- The digits of a number up to 255, of which only that of 0 starts with a zero. -/
theorem byteText_eq (n : Fin 256) : ∃ d ds, byteText n = (d :: ds).map (0x30 + Nat.toUInt8 ·) ∧
    (∀ e ∈ d :: ds, e < 10) ∧ (d :: ds).foldl (10 * · + ·) 0 = n.val ∧
    (d = 0 → ds = [] ∧ n = 0) := by
  have hn := n.isLt
  rw [byteText]
  by_cases h10 : n.val < 10
  · refine ⟨n, [], if_pos h10, by simpa using h10, by simp, fun h => ⟨rfl, Fin.ext h⟩⟩
  rw [if_neg h10]
  by_cases h100 : n.val < 100
  · refine ⟨n / 10, [n % 10], if_pos h100, ?_, ?_, fun h => by omega⟩
    · simp only [List.forall_mem_cons]
      exact ⟨by omega, by omega, fun _ h => absurd h List.not_mem_nil⟩
    · simp only [List.foldl_cons, List.foldl_nil]
      omega
  · refine ⟨n / 100, [n / 10 % 10, n % 10], if_neg h100, ?_, ?_, fun h => by omega⟩
    · simp only [List.forall_mem_cons]
      exact ⟨by omega, by omega, by omega, fun _ h => absurd h List.not_mem_nil⟩
    · simp only [List.foldl_cons, List.foldl_nil]
      omega

theorem digitsValue_map {ds : List Nat} (h : ∀ d ∈ ds, d < 10) :
    digitsValue 10 (ds.map (0x30 + Nat.toUInt8 ·)) = ds.foldl (10 * · + ·) 0 := by
  rw [digitsValue, List.foldl_map]
  refine List.foldl_ext _ _ _ fun n d hd => ?_
  rw [(digit_plain (h d hd)).2.1]

theorem byteText_digits (n : Fin 256) : (∀ c ∈ byteText n, isDigitOf 10 c = true) ∧
    digitsValue 10 (byteText n) = n := by
  obtain ⟨d, ds, htext, hds, hvalue, -⟩ := byteText_eq n
  rw [htext, digitsValue_map hds]
  refine ⟨fun c hc => ?_, hvalue⟩
  obtain ⟨e, he, rfl⟩ := List.mem_map.1 hc
  exact (digit_plain (hds e he)).1

/-- Only 0 is written with a leading zero. -/
theorem byteText_head (n : Fin 256) : byteText n ≠ [] ∧
    (isDigitOf 10 ((byteText n).headD 0) = true ∧
      ((byteText n).headD 0 = 0x30 → byteText n = [0x30] ∧ n = 0)) := by
  obtain ⟨d, ds, htext, hds, -, hzero⟩ := byteText_eq n
  have hd := digit_plain (hds d List.mem_cons_self)
  rw [htext]
  refine ⟨List.cons_ne_nil _ _, hd.1, fun h => ?_⟩
  have hd0 := hd.2.2.2.2 h
  rw [(hzero hd0).1, hd0]
  exact ⟨rfl, (hzero hd0).2⟩

/-- No number starts with a blank or a sign. -/
theorem byteText_plain (n : Fin 256) : (∀ c ∈ (byteText n).head?, isWhite c = false) ∧
    ¬((byteText n).headD 0 = 0x2B ∨ (byteText n).headD 0 = 0x2D) := by
  obtain ⟨d, ds, htext, hds, -, -⟩ := byteText_eq n
  have hd := digit_plain (hds d List.mem_cons_self)
  rw [htext]
  refine ⟨fun c hc => ?_, hd.2.2.2.1⟩
  rw [← Option.mem_some.1 hc]
  exact hd.2.2.1

theorem headD_append {l : List α} (h : l ≠ []) (m : List α) (a : α) :
    (l ++ m).headD a = l.headD a := by
  cases l with
  | nil => exact absurd rfl h
  | cons b l => rfl

theorem head?_append_ne {l : List α} (h : l ≠ []) (m : List α) : (l ++ m).head? = l.head? := by
  cases l with
  | nil => exact absurd rfl h
  | cons b l => rfl

/-- What may follow a number of an address. -/
def Stops (rest : List UInt8) : Prop := ∀ c ∈ rest.head?, c = 0x2E

theorem Stops.nil : Stops [] := fun _ hc => nomatch hc

theorem Stops.dot (rest : List UInt8) : Stops (0x2E :: rest) := fun _ hc =>
  (Option.mem_some.1 hc).symm

theorem Stops.not_digit (h : Stops rest) (base : Nat) :
    ∀ c ∈ rest.head?, isDigitOf base c = false := by
  intro c hc
  rw [h c hc]
  rfl

theorem strtoul_byteText (n : Fin 256) {rest : List UInt8} (h : Stops rest) :
    strtoul (byteText n ++ rest) = (n.val, rest) := by
  obtain ⟨hne, -, hzero⟩ := byteText_head n
  rw [strtoul, headD_append hne]
  by_cases h0 : (byteText n).headD 0 = 0x30
  · obtain ⟨htext, hn⟩ := hzero h0
    rw [if_neg (not_not.2 h0), htext, hn]
    have hx : ¬((([0x30] ++ rest).getD 1 0 = 0x78 ∨ ([0x30] ++ rest).getD 1 0 = 0x58) ∧
        isDigitOf 16 (([0x30] ++ rest).getD 2 0) = true) := by
      rintro ⟨hx, -⟩
      cases rest with
      | nil => revert hx; decide
      | cons c rest =>
        have hc : ([0x30] ++ c :: rest).getD 1 0 = 0x2E := h c rfl
        rw [hc] at hx
        revert hx
        decide
    rw [if_neg hx]
    exact readDigits_run (List.forall_mem_singleton.2 rfl) (h.not_digit _)
  · rw [if_pos h0, readDigits_run (byteText_digits n).1 (h.not_digit _),
      (byteText_digits n).2]

theorem inetParts_dot (k : Nat) (n : Fin 256) (rest : List UInt8) :
    inetParts (k + 1) (byteText n ++ 0x2E :: rest) = (inetParts k rest).map (n.val :: ·) := by
  have hn := n.isLt
  obtain ⟨hne, hdigit, -⟩ := byteText_head n
  rw [inetParts, strtoul_byteText n (Stops.dot rest), headD_append hne, hdigit]
  refine (if_pos rfl).trans (if_neg ?_)
  rw [not_or]
  exact ⟨by decide, by omega⟩

theorem inetParts_last (n : Fin 256) : inetParts 0 (byteText n) = some [n.val] := by
  have hn := n.isLt
  obtain ⟨hne, hdigit, -⟩ := byteText_head n
  have htext := strtoul_byteText n Stops.nil
  rw [List.append_nil] at htext
  rw [inetParts, inetLast, htext, hdigit]
  refine (if_neg ?_).trans (if_pos rfl)
  rw [not_or]
  exact ⟨by decide, by omega⟩

theorem inetAton_quadText (a b c d : Fin 256) :
    inetAton (quadText a b c d) = some (quadAddress a b c d) := by
  have hd := d.isLt
  have hparts : inetParts 3 (quadText a b c d) = some [a.val, b.val, c.val, d.val] := by
    rw [quadText, inetParts_dot, inetParts_dot, inetParts_dot, inetParts_last]
    rfl
  rw [inetAton, hparts]
  exact if_pos (by omega)

/-- An address starts with a digit. -/
theorem inetAton_none {s : List UInt8} (h : isDigitOf 10 (s.headD 0) = false) :
    inetAton s = none := by
  have hlast : inetLast s = none := by
    rw [inetLast, h]
    exact if_pos (.inl rfl)
  have hparts : inetParts 3 s = none := by
    rw [inetParts, h]
    refine (ite_eq_right_iff.2 fun _ => ?_).trans hlast
    rw [hlast]
    exact if_pos (.inl rfl)
  rw [inetAton, hparts]

theorem scanInt_byteText (n : Fin 256) {rest : List UInt8} (h : Stops rest) :
    scanInt (byteText n ++ rest) = some rest := by
  obtain ⟨hne, hdigit, -⟩ := byteText_head n
  obtain ⟨hblank, hsign⟩ := byteText_plain n
  have hwhite : (byteText n ++ rest).dropWhile isWhite = byteText n ++ rest :=
    dropWhile_run (l := []) (fun _ hc => absurd hc List.not_mem_nil) fun c hc =>
      hblank c (head?_append_ne hne rest ▸ hc)
  rw [scanInt, hwhite]
  simp only [headD_append hne]
  rw [if_neg hsign, headD_append hne, hdigit]
  exact (if_pos rfl).trans (congrArg some
    (dropWhile_run (byteText_digits n).1 (h.not_digit _)))

end AdnBridge
