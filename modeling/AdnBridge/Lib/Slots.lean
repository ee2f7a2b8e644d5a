import AdnBridge.Lib.Probe

namespace AdnBridge
set_option autoImplicit true

open Probe

/-- How the slots of a table are used: which are empty, and what the key of the others is, from the
hash of which it is searched for. -/
structure Slots (α κ : Type*) where
  isEmpty : α → Bool
  key : α → κ
  hash : κ → Nat

namespace Slots

variable (S : Slots α κ)

def occupied (t : Vector α n) : Nat := t.countP fun s => !S.isEmpty s

/-- The table holds the entry `s`. -/
def Holds (t : Vector α n) (s : α) : Prop := S.isEmpty s = false ∧ ∃ j, t.get j = s

def HasKey (t : Vector α n) (k : κ) : Prop := ∃ s, S.Holds t s ∧ S.key s = k

/-- Every entry can be reached from the hash of its key, and there is one for each key. -/
structure Sound (t : Vector α n) : Prop where
  chained : ∀ j, S.isEmpty (t.get j) = false → ∀ m,
    steps (S.hash (S.key (t.get j))) m < steps (S.hash (S.key (t.get j))) j →
      S.isEmpty (t.get m) = false
  distinct : ∀ i j, S.isEmpty (t.get i) = false → S.isEmpty (t.get j) = false →
    S.key (t.get i) = S.key (t.get j) → i = j

/-- An entry is put where the search from its hash finds an empty slot. -/
def place (t : Vector α n) (s : α) : Option (Vector α n) :=
  if S.isEmpty s then some t
  else (seek S.isEmpty t (S.hash (S.key s))).map fun i : Fin n => t.set i s i.isLt

/-- The slot where the search for a key ends. -/
def slotFor [BEq κ] (t : Vector α n) (k : κ) : Option (Fin n) :=
  seek (fun s => S.isEmpty s || S.key s == k) t (S.hash k)

variable {S} {t : Vector α n} {j : Fin n} {s x : α}

theorem get_set_self (t : Vector α n) (j : Fin n) (x : α) : (t.set j x j.isLt).get j = x :=
  Vector.getElem_set_self j.isLt

theorem get_set_ne (t : Vector α n) {i j : Fin n} (x : α) (h : i ≠ j) :
    (t.set j x j.isLt).get i = t.get i :=
  Vector.getElem_set_ne j.isLt i.isLt fun hv => h (Fin.ext hv.symm)

theorem Holds.of_get (h : S.isEmpty (t.get j) = false) : S.Holds t (t.get j) := ⟨h, j, rfl⟩

/-- What the table holds once a slot has been overwritten. -/
theorem holds_set (hx : S.isEmpty x = false) :
    S.Holds (t.set j x j.isLt) s ↔ s = x ∨ S.isEmpty s = false ∧ ∃ i, i ≠ j ∧ t.get i = s := by
  constructor
  · rintro ⟨hs, i, rfl⟩
    by_cases hij : i = j
    · subst hij
      exact .inl (get_set_self t i x)
    · rw [get_set_ne t x hij] at hs ⊢
      exact .inr ⟨hs, i, hij, rfl⟩
  · rintro (rfl | ⟨hs, i, hij, rfl⟩)
    · exact ⟨hx, j, get_set_self t j s⟩
    · exact ⟨hs, i, get_set_ne t x hij⟩

theorem occupied_lt_iff : S.occupied t < n ↔ ∃ j, S.isEmpty (t.get j) = true := by
  have hle : S.occupied t ≤ n := Vector.countP_le_size
  have heq : S.occupied t = n ↔ ∀ a ∈ t, (!S.isEmpty a) = true := Vector.countP_eq_size
  constructor
  · intro hlt
    by_contra hno
    refine Nat.ne_of_lt hlt (heq.2 fun a ha => ?_)
    obtain ⟨i, hi, rfl⟩ := Vector.mem_iff_getElem.1 ha
    cases he : S.isEmpty t[i] with
    | false => rfl
    | true => exact absurd ⟨⟨i, hi⟩, he⟩ hno
  · rintro ⟨j, hj⟩
    refine Nat.lt_of_le_of_ne hle fun h => ?_
    have hall := heq.1 h (t.get j) (Vector.getElem_mem j.isLt)
    rw [hj] at hall
    cases hall

theorem occupied_set_empty (hj : S.isEmpty (t.get j) = true) (hx : S.isEmpty x = false) :
    S.occupied (t.set j x j.isLt) = S.occupied t + 1 := by
  have hj' : S.isEmpty t[j.val] = true := hj
  rw [occupied, Vector.countP_set, hj', hx]
  rfl

theorem occupied_set (hj : S.isEmpty (t.get j) = false) (hx : S.isEmpty x = false) :
    S.occupied (t.set j x j.isLt) = S.occupied t := by
  have hj' : S.isEmpty t[j.val] = false := hj
  have hpos : 0 < S.occupied t := Vector.countP_pos_iff.2
    ⟨t.get j, Vector.getElem_mem j.isLt, by rw [hj]; rfl⟩
  rw [occupied, Vector.countP_set, hj', hx]
  change S.occupied t - 1 + 1 = S.occupied t
  omega

theorem occupied_replicate (hx : S.isEmpty x = true) : S.occupied (Vector.replicate n x) = 0 := by
  rw [occupied, Vector.countP_replicate, hx]
  rfl

theorem not_holds_replicate (hx : S.isEmpty x = true) :
    ¬S.Holds (Vector.replicate n x) s := by
  rintro ⟨hs, j, rfl⟩
  have hget : (Vector.replicate n x).get j = x := Vector.getElem_replicate j.isLt
  rw [hget, hx] at hs
  cases hs

theorem sound_replicate (hx : S.isEmpty x = true) : S.Sound (Vector.replicate n x) :=
  ⟨fun j hj => (not_holds_replicate hx ⟨hj, j, rfl⟩).elim,
    fun i _ hi => (not_holds_replicate hx ⟨hi, i, rfl⟩).elim⟩

/-- The entries of a list of slots. -/
def entries (S : Slots α κ) (l : List α) : List α := l.filter fun s => !S.isEmpty s

theorem entries_cons_empty (hx : S.isEmpty x = true) (l : List α) :
    S.entries (x :: l) = S.entries l := by
  rw [entries, List.filter_cons, hx]
  rfl

theorem entries_cons (hx : S.isEmpty x = false) (l : List α) :
    S.entries (x :: l) = x :: S.entries l := by
  rw [entries, List.filter_cons, hx]
  rfl

theorem occupied_eq_entries (t : Vector α n) : S.occupied t = (S.entries t.toList).length := by
  rw [entries, ← List.countP_eq_length_filter, Vector.countP_toList]
  rfl

theorem mem_entries_toList (t : Vector α n) : x ∈ S.entries t.toList ↔ S.Holds t x := by
  rw [entries, List.mem_filter, Vector.mem_toList_iff, Vector.mem_iff_getElem]
  constructor
  · rintro ⟨⟨i, hi, rfl⟩, hx⟩
    exact ⟨Bool.not_eq_eq_eq_not.1 hx, ⟨i, hi⟩, rfl⟩
  · rintro ⟨hx, i, rfl⟩
    exact ⟨⟨i, i.isLt, rfl⟩, Bool.not_eq_eq_eq_not.2 hx⟩

theorem place_empty (hx : S.isEmpty x = true) : S.place t x = some t := if_pos hx

theorem place_eq_some (hx : S.isEmpty x = false) {u : Vector α n} : S.place t x = some u ↔
    ∃ j : Fin n, seek S.isEmpty t (S.hash (S.key x)) = some j ∧ u = t.set j x j.isLt := by
  rw [place, hx, if_neg Bool.false_ne_true, Option.map_eq_some_iff]
  simp only [eq_comm]

/-- Placing entries adds as many as there are. -/
theorem occupied_foldlM_place {l : List α} {u : Vector α n}
    (h : l.foldlM S.place t = some u) : S.occupied u = S.occupied t + (S.entries l).length := by
  induction l generalizing t with
  | nil =>
    cases h
    rfl
  | cons x l ih =>
    obtain ⟨v, hv, h⟩ := Option.bind_eq_some_iff.1 ((List.foldlM_cons (m := Option)).symm.trans h)
    cases hx : S.isEmpty x with
    | true =>
      rw [place_empty hx] at hv
      cases hv
      rw [entries_cons_empty hx]
      exact ih h
    | false =>
      obtain ⟨j, hj, rfl⟩ := (place_eq_some hx).1 hv
      rw [entries_cons hx, ih h, occupied_set_empty (seek_eq_some.1 hj).1 hx, List.length_cons]
      omega

/-- Placing entries brings in no others. -/
theorem holds_foldlM_place {l : List α} {u : Vector α n} (h : l.foldlM S.place t = some u)
    (hs : S.Holds u s) : S.Holds t s ∨ s ∈ S.entries l := by
  induction l generalizing t with
  | nil =>
    cases h
    exact .inl hs
  | cons x l ih =>
    obtain ⟨v, hv, h⟩ := Option.bind_eq_some_iff.1 ((List.foldlM_cons (m := Option)).symm.trans h)
    cases hx : S.isEmpty x with
    | true =>
      rw [place_empty hx] at hv
      cases hv
      rw [entries_cons_empty hx]
      exact ih h
    | false =>
      obtain ⟨j, hj, rfl⟩ := (place_eq_some hx).1 hv
      rw [entries_cons hx]
      rcases ih h with hs | hs
      · rcases (holds_set hx).1 hs with rfl | ⟨hs, i, _, rfl⟩
        · exact .inr List.mem_cons_self
        · exact .inl ⟨hs, i, rfl⟩
      · exact .inr (List.mem_cons_of_mem _ hs)

/-- Entries for which there is room are placed. -/
theorem foldlM_place_isSome {l : List α} (h : S.occupied t + (S.entries l).length ≤ n) :
    ∃ u, l.foldlM S.place t = some u := by
  induction l generalizing t with
  | nil => exact ⟨t, rfl⟩
  | cons x l ih =>
    rw [List.foldlM_cons]
    cases hx : S.isEmpty x with
    | true =>
      rw [entries_cons_empty hx] at h
      rw [place_empty hx]
      exact ih h
    | false =>
      rw [entries_cons hx, List.length_cons] at h
      have hroom : (seek S.isEmpty t (S.hash (S.key x))).isSome = true :=
        seek_isSome_iff.2 (occupied_lt_iff.1 (by omega))
      obtain ⟨j, hj⟩ := Option.isSome_iff_exists.1 hroom
      rw [(place_eq_some hx).2 ⟨j, hj, rfl⟩]
      apply ih
      rw [occupied_set_empty (seek_eq_some.1 hj).1 hx]
      omega

/-- The entries of a sound table have keys of their own. -/
theorem Sound.pairwise (ht : S.Sound t) :
    (S.entries t.toList).Pairwise fun x y => S.key x ≠ S.key y := by
  rw [entries, List.pairwise_filter, List.pairwise_iff_getElem]
  intro i j hi hj hij hx hy hk
  have hi' : i < n := by simpa using hi
  have hj' : j < n := by simpa using hj
  rw [Vector.getElem_toList] at hx hk
  rw [Vector.getElem_toList] at hy hk
  have heq := ht.distinct ⟨i, hi'⟩ ⟨j, hj'⟩ (Bool.not_eq_eq_eq_not.1 hx)
    (Bool.not_eq_eq_eq_not.1 hy) hk
  exact Nat.ne_of_lt hij (congrArg Fin.val heq)

/-- The entries of a table are those of the map `m` from keys to values. -/
def Maps (S : Slots α κ) (val : α → β) (t : Vector α n) (m : κ → Option β) : Prop :=
  ∀ s, S.Holds t s ↔ S.isEmpty s = false ∧ m (S.key s) = some (val s)

variable {val : α → β} {m : κ → Option β}

theorem maps_replicate (hx : S.isEmpty x = true) :
    S.Maps val (Vector.replicate n x) fun _ => none := by
  intro s
  constructor
  · intro hs
    exact (not_holds_replicate hx hs).elim
  · rintro ⟨_, hs⟩
    cases hs

theorem Maps.of_holds {u : Vector α p} (ht : S.Maps val t m)
    (h : ∀ s, S.Holds u s ↔ S.Holds t s) : S.Maps val u m :=
  fun s => (h s).trans (ht s)

/-- The keys that are there are those that have a value, where each value makes an entry. -/
theorem Maps.hasKey_iff (ht : S.Maps val t m) {k : κ}
    (hmk : ∀ v, ∃ x, S.isEmpty x = false ∧ S.key x = k ∧ val x = v) :
    S.HasKey t k ↔ (m k).isSome = true := by
  constructor
  · rintro ⟨s, hs, rfl⟩
    rw [((ht s).1 hs).2]
    rfl
  · intro hk
    obtain ⟨v, hv⟩ := Option.isSome_iff_exists.1 hk
    obtain ⟨x, hx, rfl, rfl⟩ := hmk v
    exact ⟨x, (ht x).2 ⟨hx, hv⟩, rfl⟩

section
variable [BEq κ] [LawfulBEq κ] {k : κ}

theorem stop_iff : (S.isEmpty s || S.key s == k) = true ↔ S.isEmpty s = true ∨ S.key s = k := by
  rw [Bool.or_eq_true, beq_iff_eq]

theorem not_stop_iff :
    (S.isEmpty s || S.key s == k) = false ↔ S.isEmpty s = false ∧ S.key s ≠ k := by
  rw [Bool.or_eq_false_iff, beq_eq_false_iff_ne]

/-- The search for a key ends if the key is there or some slot is empty. -/
theorem slotFor_isSome_iff : (S.slotFor t k).isSome = true ↔
    S.HasKey t k ∨ S.occupied t < n := by
  rw [slotFor, seek_isSome_iff, occupied_lt_iff]
  constructor
  · rintro ⟨j, hj⟩
    cases he : S.isEmpty (t.get j) with
    | true => exact .inr ⟨j, he⟩
    | false =>
      rw [he, Bool.false_or, beq_iff_eq] at hj
      exact .inl ⟨t.get j, .of_get he, hj⟩
  · rintro (⟨s, ⟨_, j, rfl⟩, hk⟩ | ⟨j, hj⟩)
    · exact ⟨j, stop_iff.2 (.inr hk)⟩
    · exact ⟨j, stop_iff.2 (.inl hj)⟩

theorem slotFor_key (h : S.slotFor t k = some j) (hj : S.isEmpty (t.get j) = false) :
    S.key (t.get j) = k := by
  rcases stop_iff.1 (seek_eq_some.1 h).1 with he | hk
  · rw [hj] at he
    cases he
  · exact hk

/-- A key is found if it is there. -/
theorem Sound.slotFor (ht : S.Sound t) (hj : S.isEmpty (t.get j) = false)
    (hk : S.key (t.get j) = k) : S.slotFor t k = some j := by
  refine seek_eq_some.2 ⟨stop_iff.2 (.inr hk), fun m hm => not_stop_iff.2 ?_⟩
  have hm' : S.isEmpty (t.get m) = false := ht.chained j hj m (by rwa [hk])
  refine ⟨hm', fun hkm => ?_⟩
  rw [ht.distinct m j hm' hj (hkm.trans hk.symm)] at hm
  exact Nat.lt_irrefl _ hm

/-- The search for a key ends in an empty slot just if the key is not there. -/
theorem Sound.slotFor_empty_iff (ht : S.Sound t) (h : S.slotFor t k = some j) :
    S.isEmpty (t.get j) = true ↔ ¬S.HasKey t k := by
  constructor
  · rintro hj ⟨s, ⟨hs, i, rfl⟩, hk⟩
    rw [ht.slotFor hs hk] at h
    cases h
    rw [hs] at hj
    cases hj
  · intro hno
    cases hj : S.isEmpty (t.get j) with
    | true => rfl
    | false => exact (hno ⟨_, .of_get hj, slotFor_key h hj⟩).elim

/-- An entry for a key, put where the search for it ends, keeps the table sound. -/
theorem Sound.set (ht : S.Sound t) (h : S.slotFor t k = some j) (hx : S.isEmpty x = false)
    (hk : S.key x = k) : S.Sound (t.set j x j.isLt) := by
  have hfull (m : Fin n) (hm : S.isEmpty (t.get m) = false) :
      S.isEmpty ((t.set j x j.isLt).get m) = false := by
    by_cases hmj : m = j
    · rw [hmj, get_set_self]
      exact hx
    · rw [get_set_ne t x hmj]
      exact hm
  have hother (i : Fin n) (hij : i ≠ j) (hi : S.isEmpty (t.get i) = false) :
      S.key (t.get i) ≠ k := by
    intro hki
    rw [ht.slotFor hi hki] at h
    exact hij (Option.some.inj h)
  constructor
  · intro i hi m hm
    by_cases hij : i = j
    · subst hij
      rw [get_set_self, hk] at hm
      exact hfull m (not_stop_iff.1 ((seek_eq_some.1 h).2 m hm)).1
    · rw [get_set_ne t x hij] at hi hm
      exact hfull m (ht.chained i hi m hm)
  · intro i i' hi hi' hkey
    by_cases hij : i = j
    · by_cases hij' : i' = j
      · exact hij.trans hij'.symm
      · rw [hij, get_set_self, get_set_ne t x hij', hk] at hkey
        rw [get_set_ne t x hij'] at hi'
        exact (hother i' hij' hi' hkey.symm).elim
    · rw [get_set_ne t x hij] at hi hkey
      by_cases hij' : i' = j
      · rw [hij', get_set_self, hk] at hkey
        exact (hother i hij hi hkey).elim
      · rw [get_set_ne t x hij'] at hi' hkey
        exact ht.distinct i i' hi hi' hkey

/-- What the table then holds: the new entry, and those of the other keys. -/
theorem Sound.holds_set (ht : S.Sound t) (h : S.slotFor t k = some j) (hx : S.isEmpty x = false) :
    S.Holds (t.set j x j.isLt) s ↔ s = x ∨ S.Holds t s ∧ S.key s ≠ k := by
  rw [Slots.holds_set hx]
  constructor
  · rintro (rfl | ⟨hs, i, hij, rfl⟩)
    · exact .inl rfl
    · refine .inr ⟨.of_get hs, fun hki => hij ?_⟩
      rw [ht.slotFor hs hki] at h
      exact Option.some.inj h
  · rintro (rfl | ⟨⟨hs, i, rfl⟩, hks⟩)
    · exact .inl rfl
    · refine .inr ⟨hs, i, ?_, rfl⟩
      rintro rfl
      exact hks (slotFor_key h hs)

/-- The search for an empty slot is the search for a key that is not there. -/
theorem seek_isEmpty (h : ¬S.HasKey t k) :
    seek S.isEmpty t (S.hash k) = S.slotFor t k := by
  have hstop (j : Fin n) :
      (S.isEmpty (t.get j) || S.key (t.get j) == k) = S.isEmpty (t.get j) := by
    cases he : S.isEmpty (t.get j) with
    | true => rfl
    | false =>
      rw [Bool.false_or, beq_eq_false_iff_ne]
      exact fun hk => h ⟨_, .of_get he, hk⟩
  apply Option.ext
  intro j
  rw [slotFor, seek_eq_some, seek_eq_some, hstop]
  simp only [hstop]

/-- Entries with keys of their own, once placed, are held beside the others. -/
theorem Sound.foldlM_place {l : List α} {u : Vector α n} (ht : S.Sound t)
    (hkeys : (S.entries l).Pairwise fun x y => S.key x ≠ S.key y)
    (hnew : ∀ x ∈ S.entries l, ¬S.HasKey t (S.key x)) (h : l.foldlM S.place t = some u) :
    S.Sound u ∧ ∀ s, S.Holds u s ↔ S.Holds t s ∨ s ∈ S.entries l := by
  induction l generalizing t with
  | nil =>
    cases h
    refine ⟨ht, fun s => ⟨.inl, ?_⟩⟩
    rintro (hs | hs)
    · exact hs
    · cases hs
  | cons x l ih =>
    obtain ⟨v, hv, h⟩ := Option.bind_eq_some_iff.1 ((List.foldlM_cons (m := Option)).symm.trans h)
    cases hx : S.isEmpty x with
    | true =>
      rw [place_empty hx] at hv
      cases hv
      rw [entries_cons_empty hx] at hkeys hnew ⊢
      exact ih ht hkeys hnew h
    | false =>
      obtain ⟨j, hj, rfl⟩ := (place_eq_some hx).1 hv
      rw [entries_cons hx] at hkeys hnew ⊢
      obtain ⟨hfst, hkeys⟩ := List.pairwise_cons.1 hkeys
      have hxnew := hnew x List.mem_cons_self
      rw [seek_isEmpty hxnew] at hj
      have hrest : ∀ y ∈ S.entries l, ¬S.HasKey (t.set j x j.isLt) (S.key y) := by
        rintro y hy ⟨s, hs, hk⟩
        rcases (ht.holds_set hj hx).1 hs with rfl | ⟨hs, _⟩
        · exact hfst y hy hk
        · exact hnew y (List.mem_cons_of_mem _ hy) ⟨s, hs, hk⟩
      obtain ⟨hu, hall⟩ := ih (ht.set hj hx rfl) hkeys hrest h
      refine ⟨hu, fun s => ?_⟩
      rw [hall s, ht.holds_set hj hx, List.mem_cons]
      constructor
      · rintro ((rfl | ⟨hs, _⟩) | hs)
        · exact .inr (.inl rfl)
        · exact .inl hs
        · exact .inr (.inr hs)
      · rintro (hs | rfl | hs)
        · exact .inl (.inr ⟨hs, fun hk => hxnew ⟨s, hs, hk⟩⟩)
        · exact .inl (.inl rfl)
        · exact .inr hs

/-- The entry that the search for a key finds has its value. -/
theorem Maps.value (ht : S.Maps val t m) (h : S.slotFor t k = some j)
    (hj : S.isEmpty (t.get j) = false) : m k = some (val (t.get j)) := by
  have hv := ((ht _).1 (.of_get hj)).2
  rwa [slotFor_key h hj] at hv

/-- Putting an entry changes the value of its key. -/
theorem Maps.set [DecidableEq κ] (ht : S.Maps val t m) (hs : S.Sound t)
    (h : S.slotFor t (S.key x) = some j) (hx : S.isEmpty x = false)
    (hext : ∀ s, S.key s = S.key x → val s = val x → s = x) :
    S.Maps val (t.set j x j.isLt) (Function.update m (S.key x) (some (val x))) := by
  intro s
  rw [hs.holds_set h hx, ht s]
  by_cases hk : S.key s = S.key x
  · rw [hk, Function.update_self]
    constructor
    · rintro (rfl | ⟨_, hne⟩)
      · exact ⟨hx, rfl⟩
      · exact (hne rfl).elim
    · rintro ⟨_, hv⟩
      exact .inl (hext s hk (Option.some.inj hv).symm)
  · rw [Function.update_of_ne hk]
    constructor
    · rintro (rfl | ⟨hm, _⟩)
      · exact (hk rfl).elim
      · exact hm
    · intro hm
      exact .inr ⟨hm, hk⟩

/-- A sound table in a larger one. -/
theorem Sound.rehash {p : Nat} {u : Vector α p} (ht : S.Sound t) (hx : S.isEmpty x = true)
    (h : t.toList.foldlM S.place (Vector.replicate p x) = some u) :
    S.Sound u ∧ ∀ s, S.Holds u s ↔ S.Holds t s := by
  have hnew : ∀ y ∈ S.entries t.toList, ¬S.HasKey (Vector.replicate p x) (S.key y) := by
    rintro y _ ⟨s, hs, _⟩
    exact not_holds_replicate hx hs
  obtain ⟨hu, hall⟩ := (sound_replicate hx).foldlM_place ht.pairwise hnew h
  refine ⟨hu, fun s => ?_⟩
  rw [hall s, mem_entries_toList]
  constructor
  · rintro (hs | hs)
    · exact (not_holds_replicate hx hs).elim
    · exact hs
  · exact .inr

end

end Slots

end AdnBridge
