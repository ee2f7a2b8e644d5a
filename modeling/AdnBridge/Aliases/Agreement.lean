import Mathlib.Data.List.DropRight
import AdnBridge.Aliases.Lookup

namespace AdnBridge
set_option autoImplicit true

/-- Whatever id a callsign is looked up as is looked up as that callsign. -/
def AliasTab.Agrees (t : AliasTab) : Prop :=
  ∀ callsign, 0 < t.lookupId callsign →
    t.lookupCallsign (t.lookupId callsign) = some (pad10 (normalizeCallsignKey callsign))

/-- The row decides the id of its callsign: it is the last one of the overlay with that callsign,
or the first main row when the overlay has none. -/
inductive Decides (main overlay : List AliasRow) (row : AliasRow) : Prop where
  | overlay (l l' : List AliasRow) (h : overlay = l ++ row :: l') (hu : Usable row.1 row.2)
      (last : ∀ r ∈ l', Usable r.1 r.2 → r.key ≠ row.key)
  | main (l l' : List AliasRow) (h : main = l ++ row :: l') (hu : Usable row.1 row.2)
      (first : ∀ r ∈ l, Usable r.1 r.2 → r.key ≠ row.key)
      (none : ∀ r ∈ overlay, Usable r.1 r.2 → r.key ≠ row.key)

/-- The row is the last one with its id. -/
def LastOf (rows : List AliasRow) (row : AliasRow) : Prop :=
  ∃ l l', rows = l ++ row :: l' ∧ Usable row.1 row.2 ∧ ∀ r ∈ l', Usable r.1 r.2 → r.1 ≠ row.1

section
variable {rows main overlay : List AliasRow} {row : AliasRow} {id : Int} {key : List UInt8}

/-- What a search from the front finds, and what stands before it. -/
theorem find_takes {p : AliasRow → Bool} : rows.find? (takes p) = some row ↔
    (Usable row.1 row.2 ∧ p row = true) ∧ ∃ l l', rows = l ++ row :: l' ∧
      ∀ r ∈ l, Usable r.1 r.2 → p r = false := by
  rw [List.find?_eq_some_iff_append, takes_iff]
  refine and_congr_right fun _ => ?_
  constructor
  · rintro ⟨l, l', h, hl⟩
    refine ⟨l, l', h, fun r hr hu => ?_⟩
    have hn := hl r hr
    rwa [takes_usable hu, Bool.not_eq_true'] at hn
  · rintro ⟨l, l', h, hl⟩
    refine ⟨l, l', h, fun r hr => ?_⟩
    by_cases hu : Usable r.1 r.2
    · rw [takes_usable hu, hl r hr hu]
      rfl
    · rw [takes_refused hu]
      rfl

theorem find_takes_none {p : AliasRow → Bool} : rows.find? (takes p) = none ↔
    ∀ r ∈ rows, Usable r.1 r.2 → p r = false := by
  rw [List.find?_eq_none]
  refine forall₂_congr fun r _ => ?_
  rw [takes_iff, not_and, Bool.not_eq_true]

/-- What a search from the back finds, and what stands behind it. -/
theorem find_reverse_takes {p : AliasRow → Bool} : rows.reverse.find? (takes p) = some row ↔
    (Usable row.1 row.2 ∧ p row = true) ∧ ∃ l l', rows = l ++ row :: l' ∧
      ∀ r ∈ l', Usable r.1 r.2 → p r = false := by
  rw [find_takes]
  refine and_congr_right fun _ => ?_
  constructor
  · rintro ⟨l, l', h, hl⟩
    refine ⟨l'.reverse, l.reverse, ?_, fun r hr => hl r (List.mem_reverse.1 hr)⟩
    rw [← List.reverse_reverse rows, h, List.reverse_append, List.reverse_cons, List.append_assoc]
    rfl
  · rintro ⟨l, l', rfl, hl⟩
    refine ⟨l'.reverse, l.reverse, ?_, fun r hr => hl r (List.mem_reverse.1 hr)⟩
    rw [List.reverse_append, List.reverse_cons, List.append_assoc]
    rfl

theorem lastKey_eq_some_iff : lastKey rows id = some key ↔
    ∃ row, LastOf rows row ∧ row.1 = id ∧ AliasRow.key row = key := by
  rw [lastKey, Option.map_eq_some_iff]
  constructor
  · rintro ⟨row, hrow, rfl⟩
    obtain ⟨⟨hu, hid⟩, l, l', h, hl⟩ := find_reverse_takes.1 hrow
    obtain rfl := beq_iff_eq.1 hid
    exact ⟨row, ⟨l, l', h, hu, fun r hr hur => beq_eq_false_iff_ne.1 (hl r hr hur)⟩, rfl, rfl⟩
  · rintro ⟨row, ⟨l, l', h, hu, hl⟩, rfl, rfl⟩
    exact ⟨row, find_reverse_takes.2 ⟨⟨hu, beq_self_eq_true _⟩, l, l', h,
      fun r hr hur => beq_eq_false_iff_ne.2 (hl r hr hur)⟩, rfl⟩

theorem idFor_eq_some_iff : idFor main overlay key = some id ↔
    ∃ row, Decides main overlay row ∧ AliasRow.key row = key ∧ row.1 = id := by
  rw [idFor, Option.or_eq_some_iff, lastId, firstId, Option.map_eq_some_iff,
    Option.map_eq_none_iff, Option.map_eq_some_iff]
  constructor
  · rintro (⟨row, hrow, rfl⟩ | ⟨hnone, row, hrow, rfl⟩)
    · obtain ⟨⟨hu, hkey⟩, l, l', h, hl⟩ := find_reverse_takes.1 hrow
      obtain rfl := beq_iff_eq.1 hkey
      exact ⟨row, .overlay l l' h hu fun r hr hur => beq_eq_false_iff_ne.1 (hl r hr hur), rfl, rfl⟩
    · obtain ⟨⟨hu, hkey⟩, l, l', h, hl⟩ := find_takes.1 hrow
      obtain rfl := beq_iff_eq.1 hkey
      refine ⟨row, .main l l' h hu (fun r hr hur => beq_eq_false_iff_ne.1 (hl r hr hur))
        fun r hr hur => ?_, rfl, rfl⟩
      exact beq_eq_false_iff_ne.1 (find_takes_none.1 hnone r (List.mem_reverse.2 hr) hur)
  · rintro ⟨row, hdec, rfl, rfl⟩
    cases hdec with
    | overlay l l' h hu last =>
      exact .inl ⟨row, find_reverse_takes.2 ⟨⟨hu, beq_self_eq_true _⟩, l, l', h,
        fun r hr hur => beq_eq_false_iff_ne.2 (last r hr hur)⟩, rfl⟩
    | main l l' h hu first none =>
      refine .inr ⟨find_takes_none.2 fun r hr hur => ?_, row, find_takes.2
        ⟨⟨hu, beq_self_eq_true _⟩, l, l', h, fun r hr hur => beq_eq_false_iff_ne.2 (first r hr hur)⟩,
        rfl⟩
      exact beq_eq_false_iff_ne.2 (none r (List.mem_reverse.1 hr) hur)

theorem Decides.usable (h : Decides main overlay row) : Usable row.1 row.2 := by
  cases h with
  | overlay l l' h hu last => exact hu
  | main l l' h hu first none => exact hu

theorem Decides.mem (h : Decides main overlay row) : row ∈ main ++ overlay := by
  cases h with
  | overlay l l' h hu last =>
    exact List.mem_append_right _ (h ▸ List.mem_append_right _ List.mem_cons_self)
  | main l l' h hu first none =>
    exact List.mem_append_left _ (h ▸ List.mem_append_right _ List.mem_cons_self)

/-- Of the rows with an id there is a last one. -/
theorem exists_lastOf (hrow : row ∈ rows) (hu : Usable row.1 row.2) :
    ∃ last, LastOf rows last ∧ last.1 = row.1 := by
  have hsome : (rows.reverse.find? (takes fun r => r.1 == row.1)).isSome = true :=
    List.find?_isSome.2 ⟨row, List.mem_reverse.2 hrow, takes_iff.2 ⟨hu, beq_self_eq_true _⟩⟩
  obtain ⟨last, hlast⟩ := Option.isSome_iff_exists.1 hsome
  obtain ⟨last, hl, hid, -⟩ := lastKey_eq_some_iff.1
    (show lastKey rows row.1 = some last.key by rw [lastKey, hlast]; rfl)
  exact ⟨last, hl, hid⟩

/-- A normalised callsign does not end with a blank. -/
theorem key_reverse (callsign : List UInt8) :
    (normalizeCallsignKey callsign).reverse.dropWhile isSpace =
      (normalizeCallsignKey callsign).reverse := by
  rw [normalizeCallsignKey, List.reverse_reverse, List.dropWhile_idempotent]

theorem pad10_reverse {v : List UInt8} (hlen : v.length ≤ 10)
    (hv : v.reverse.dropWhile isSpace = v.reverse) :
    (pad10 v).reverse.dropWhile isSpace = v.reverse := by
  rw [pad10, List.take_of_length_le hlen, List.reverse_append, spaces, List.reverse_replicate]
  generalize 10 - v.length = k
  induction k with
  | zero => exact hv
  | succ k ih => exact ih

/-- Callsigns that fit are told apart by their padded forms. -/
theorem pad10_key_inj {cs cs' : List UInt8} (h : (normalizeCallsignKey cs).length ≤ 10)
    (h' : (normalizeCallsignKey cs').length ≤ 10)
    (heq : pad10 (normalizeCallsignKey cs) = pad10 (normalizeCallsignKey cs')) :
    normalizeCallsignKey cs = normalizeCallsignKey cs' := by
  have hr := pad10_reverse h (key_reverse cs)
  rw [heq, pad10_reverse h' (key_reverse cs')] at hr
  exact (List.reverse_injective hr).symm

/-- In tables that agree an id is left with the callsign that it is the id of. -/
theorem AliasTab.Agrees.key_eq {t : AliasTab} (h : t.Agrees) (hfit : KeysFit (main ++ overlay))
    (ht : tableOf main overlay = some t) {last : AliasRow} (hdec : Decides main overlay row)
    (hlast : LastOf (main ++ overlay) last) (hid : last.1 = row.1) :
    AliasRow.key last = AliasRow.key row := by
  have hrep := (tableOf_represents hfit).2 t ht
  have hu := hdec.usable
  have hlook : t.lookupId row.2 = row.1 := by
    rw [hrep.lookupId hu.2]
    exact congrArg (fun o => o.getD 0) (idFor_eq_some_iff.2 ⟨row, hdec, rfl, rfl⟩)
  have hcs := h row.2 (hlook.symm ▸ hu.1)
  rw [hlook, hrep.lookupCallsign hu.1, lastKey_eq_some_iff.2 ⟨last, hlast, hid, rfl⟩,
    Option.map_some, map_toUpper_key] at hcs
  obtain ⟨l, l', hrows, hlu, -⟩ := hlast
  have hmem : last ∈ main ++ overlay := hrows ▸ List.mem_append_right _ List.mem_cons_self
  exact pad10_key_inj (hfit last hmem hlu) (hfit row hdec.mem hu) (Option.some.inj hcs)

/-- The tables agree just if every row that decides the id of its callsign leaves the id with that
callsign: the last row with the id has the callsign too. -/
theorem agrees_iff {t : AliasTab} (hfit : KeysFit (main ++ overlay))
    (ht : tableOf main overlay = some t) : t.Agrees ↔
      ∀ row last, Decides main overlay row → LastOf (main ++ overlay) last → last.1 = row.1 →
        AliasRow.key last = AliasRow.key row := by
  have hrep := (tableOf_represents hfit).2 t ht
  constructor
  · exact fun h row last hdec hlast hid => h.key_eq hfit ht hdec hlast hid
  · intro h callsign hpos
    have hkey : normalizeCallsignKey callsign ≠ [] := fun hkey => by
      rw [AliasTab.lookupId, if_pos (.inr hkey)] at hpos
      exact absurd hpos (Int.lt_irrefl 0)
    rw [hrep.lookupId hkey] at hpos ⊢
    cases hfor : idFor main overlay (normalizeCallsignKey callsign) with
    | none =>
      rw [hfor] at hpos
      exact absurd hpos (Int.lt_irrefl 0)
    | some id =>
      obtain ⟨row, hdec, hrow, rfl⟩ := idFor_eq_some_iff.1 hfor
      obtain ⟨last, hlast, hid⟩ := exists_lastOf hdec.mem hdec.usable
      rw [Option.getD_some, hrep.lookupCallsign hdec.usable.1,
        lastKey_eq_some_iff.2 ⟨last, hlast, hid, rfl⟩, Option.map_some, map_toUpper_key,
        h row last hdec hlast hid, hrow]

end

/-- Two rows of the main file, with an id each. -/
def twoSubscribers : List AliasRow := [(1, [0x41]), (2, [0x42])]

theorem agrees_iff_sample : ∃ t, tableOf twoSubscribers [] = some t ∧ t.Agrees := by
  have hfit : KeysFit (twoSubscribers ++ []) := by
    unfold KeysFit
    decide
  have hload : Load.start.Fits twoSubscribers := ⟨by decide, by decide, trivial⟩
  obtain ⟨t, ht⟩ := (tableOf_represents hfit).1.1 hload
  refine ⟨t, ht, (agrees_iff hfit ht).2 fun row last hdec hlast hid => ?_⟩
  obtain ⟨l, l', hrows, -, -⟩ := hlast
  have hmem : last ∈ twoSubscribers ++ [] := by
    rw [hrows]
    exact List.mem_append_right l List.mem_cons_self
  have hall : ∀ r ∈ twoSubscribers, ∀ r' ∈ twoSubscribers, r'.1 = r.1 →
      AliasRow.key r' = AliasRow.key r := by decide
  exact hall row hdec.mem last hmem hid

/-- The overlay gives the id of a subscriber to another callsign, and the first callsign is still
looked up as that id. -/
theorem not_agrees : ∃ t, tableOf [(7, [0x41])] [(7, [0x42])] = some t ∧ ¬t.Agrees := by
  have hfit : KeysFit [(7, [0x41]), (7, [0x42])] := by
    unfold KeysFit
    decide
  have hload : Load.start.Fits [(7, [0x41]), (7, [0x42])] := ⟨by decide, by decide, trivial⟩
  have hrep := @tableOf_represents [(7, [0x41])] [(7, [0x42])] hfit
  obtain ⟨t, ht⟩ := hrep.1.1 hload
  refine ⟨t, ht, fun h => ?_⟩
  have hdec : Decides [(7, [0x41])] [(7, [0x42])] (7, [0x41]) :=
    .main [] [] rfl (by decide) (by decide) (by decide)
  have hlast : LastOf [(7, [0x41]), (7, [0x42])] (7, [0x42]) :=
    ⟨[(7, [0x41])], [], rfl, by decide, by decide⟩
  have hkey := h.key_eq hfit ht hdec hlast rfl
  revert hkey
  decide

end AdnBridge
