import AdnBridge.Lib.Slots
import AdnBridge.Lib.Run
import AdnBridge.Aliases.Table

namespace AdnBridge
set_option autoImplicit true

def idSlots : Slots IdSlot Int := ⟨IdSlot.isEmpty, IdSlot.id, fun id => (hashId id).toNat⟩

def csSlots : Slots CsSlot (List UInt8) :=
  ⟨CsSlot.isEmpty, CsSlot.callsign, fun key => (hashStr key).toNat⟩

/-- A row that the tables take. -/
def Usable (id : Int) (callsign : List UInt8) : Prop :=
  0 < id ∧ normalizeCallsignKey callsign ≠ []

theorem pow2From_ge (k c n : Nat) : c ≤ pow2From k c n := by
  induction k generalizing c with
  | zero => exact Nat.le_refl _
  | succ k ih =>
    rw [pow2From]
    split
    next => exact Nat.le_trans (Nat.le_mul_of_pos_left c Nat.two_pos) (ih _)
    next => exact Nat.le_refl _

/-- Enough doublings reach the number. -/
theorem le_pow2From {k c n : Nat} (h : n ≤ c * 2 ^ k) : n ≤ pow2From k c n := by
  induction k generalizing c with
  | zero =>
    rw [Nat.pow_zero, Nat.mul_one] at h
    exact h
  | succ k ih =>
    rw [pow2From]
    split
    next =>
      apply ih
      calc n ≤ c * 2 ^ (k + 1) := h
        _ = c * (2 * 2 ^ k) := by rw [Nat.pow_succ, Nat.mul_comm (2 ^ k)]
        _ = 2 * c * 2 ^ k := by rw [← Nat.mul_assoc, Nat.mul_comm c]
    next hc => exact Nat.le_of_not_lt hc

theorem le_nextPow2 (n : Nat) : n ≤ nextPow2 n := by
  rw [nextPow2]
  split
  next h => exact Nat.le_of_lt h
  next =>
    apply le_pow2From
    calc n ≤ 2 ^ n := Nat.le_of_lt Nat.lt_two_pow_self
      _ ≤ aliasMinCap * 2 ^ n := Nat.le_mul_of_pos_left _ (by decide)

theorem aliasMinCap_le_nextPow2 (n : Nat) : aliasMinCap ≤ nextPow2 n := by
  rw [nextPow2]
  split
  next => exact Nat.le_refl _
  next => exact pow2From_ge _ _ _

namespace AliasTab

/-- The tables grow before the next row. -/
def GrowthDue (a : AliasTab) : Prop := a.cap = 0 ∨ a.cap * 7 ≤ (a.count + 1) * 10

/-- The counter counts the ids, and there is a slot that no id has taken. -/
structure CountsIds (a : AliasTab) : Prop where
  count : idSlots.occupied a.idTab = a.count
  free : a.cap = 0 ∨ a.count < a.cap

/-- Both tables have an empty slot, or none at all yet. -/
def HasRoom (a : AliasTab) : Prop :=
  a.cap = 0 ∨ (∃ i, (a.idTab.get i).isEmpty = true) ∧ ∃ j, (a.csTab.get j).isEmpty = true

theorem countsIds_empty : empty.CountsIds := ⟨rfl, .inl rfl⟩

variable {a b : AliasTab} {id : Int} {key callsign : List UInt8} {prefer : Bool}

theorem rehash_eq_some {newCap : Nat} : a.rehash newCap = some b ↔
    ∃ nid ncs, a.idTab.toList.foldlM idSlots.place (Vector.replicate newCap ⟨0, []⟩) = some nid ∧
      a.csTab.toList.foldlM csSlots.place (Vector.replicate newCap ⟨[], 0⟩) = some ncs ∧
      b = ⟨newCap, nid, ncs, a.count⟩ := by
  change (a.idTab.toList.foldlM idSlots.place _ >>= fun nid =>
    a.csTab.toList.foldlM csSlots.place _ >>= fun ncs =>
      some (⟨newCap, nid, ncs, a.count⟩ : AliasTab)) = some b ↔ _
  simp only [Option.bind_eq_bind, Option.bind_eq_some_iff, Option.some.injEq]
  constructor
  · rintro ⟨nid, h1, ncs, h2, rfl⟩
    exact ⟨nid, ncs, h1, h2, rfl⟩
  · rintro ⟨nid, ncs, h1, h2, rfl⟩
    exact ⟨nid, h1, ncs, h2, rfl⟩

/-- A larger table takes all the entries. -/
theorem rehash_isSome {newCap : Nat} (h : a.cap ≤ newCap) : ∃ b, a.rehash newCap = some b := by
  have hid : idSlots.occupied a.idTab ≤ a.cap := Vector.countP_le_size
  have hcs : csSlots.occupied a.csTab ≤ a.cap := Vector.countP_le_size
  obtain ⟨nid, hnid⟩ := Slots.foldlM_place_isSome (S := idSlots) (l := a.idTab.toList)
    (t := Vector.replicate newCap ⟨0, []⟩) (by
      rw [Slots.occupied_replicate rfl, ← Slots.occupied_eq_entries]
      omega)
  obtain ⟨ncs, hncs⟩ := Slots.foldlM_place_isSome (S := csSlots) (l := a.csTab.toList)
    (t := Vector.replicate newCap ⟨[], 0⟩) (by
      rw [Slots.occupied_replicate rfl, ← Slots.occupied_eq_entries]
      omega)
  exact ⟨_, rehash_eq_some.2 ⟨nid, ncs, hnid, hncs, rfl⟩⟩

/-- Rehashing keeps the number of entries. -/
theorem occupied_rehash {newCap : Nat} (h : a.rehash newCap = some b) :
    b.cap = newCap ∧ b.count = a.count ∧
      idSlots.occupied b.idTab = idSlots.occupied a.idTab ∧
        csSlots.occupied b.csTab = csSlots.occupied a.csTab := by
  obtain ⟨nid, ncs, hnid, hncs, rfl⟩ := rehash_eq_some.1 h
  refine ⟨rfl, rfl, ?_, ?_⟩
  · rw [Slots.occupied_foldlM_place hnid, Slots.occupied_replicate rfl, Nat.zero_add,
      ← Slots.occupied_eq_entries]
  · rw [Slots.occupied_foldlM_place hncs, Slots.occupied_replicate rfl, Nat.zero_add,
      ← Slots.occupied_eq_entries]

/-- The tables grow if that is due, else they stay. -/
theorem ensureCap_cases : a.GrowthDue ∧ (∃ newCap, a.cap < newCap ∧ aliasMinCap ≤ newCap ∧
    a.ensureCap = a.rehash newCap) ∨ ¬a.GrowthDue ∧ a.cap ≠ 0 ∧ a.ensureCap = some a := by
  rw [ensureCap, GrowthDue]
  by_cases h0 : a.cap = 0
  · rw [if_pos h0, h0]
    exact .inl ⟨.inl rfl, aliasMinCap, by decide, Nat.le_refl _, rfl⟩
  · rw [if_neg h0]
    by_cases hload : (a.count + 1) * 10 < a.cap * 7
    · rw [if_pos hload]
      exact .inr ⟨by omega, h0, rfl⟩
    · rw [if_neg hload]
      exact .inl ⟨.inr (Nat.le_of_not_lt hload), _, le_nextPow2 _, aliasMinCap_le_nextPow2 _, rfl⟩

/-- The tables once they have grown as far as is due: there is room for one more id. -/
structure Grown (a b : AliasTab) : Prop where
  count : b.count = a.count
  ids : idSlots.occupied b.idTab = b.count
  room : b.count + 1 < b.cap
  keys : csSlots.occupied b.csTab = csSlots.occupied a.csTab
  due : a.GrowthDue → a.cap < b.cap ∧ 2 ≤ b.cap
  same : ¬a.GrowthDue → b = a

theorem CountsIds.ensureCap (h : a.CountsIds) : ∃ b, a.ensureCap = some b ∧ a.Grown b := by
  rcases ensureCap_cases (a := a) with ⟨hdue, newCap, hcap, hmin, heq⟩ | ⟨hdue, h0, heq⟩
  · obtain ⟨b, hb⟩ := rehash_isSome (Nat.le_of_lt hcap)
    obtain ⟨hbcap, hcount, hids, hkeys⟩ := occupied_rehash hb
    have hmin' : 1024 ≤ newCap := hmin
    have hc := h.count
    refine ⟨b, heq.trans hb, hcount, by omega, ?_, hkeys, fun _ => by omega,
      fun hno => (hno hdue).elim⟩
    have hle : idSlots.occupied a.idTab ≤ a.cap := Vector.countP_le_size
    rcases h.free with hf | hf <;> omega
  · refine ⟨a, heq, rfl, h.count, ?_, rfl, fun hd => (hdue hd).elim, fun _ => rfl⟩
    rw [GrowthDue] at hdue
    omega

theorem putId_eq_some : a.putId id key = some b ↔ ∃ i : Fin a.cap,
    idSlots.slotFor a.idTab id = some i ∧
      b = ⟨a.cap, a.idTab.set i ⟨id, stored key⟩ i.isLt, a.csTab,
        if (a.idTab.get i).isEmpty then a.count + 1 else a.count⟩ := by
  rw [putId, Option.map_eq_some_iff]
  simp only [eq_comm]
  rfl

theorem putCs_eq_some (h0 : a.cap ≠ 0) : a.putCs id key prefer = some b ↔ ∃ j : Fin a.cap,
    csSlots.slotFor a.csTab key = some j ∧
      b = if (a.csTab.get j).isEmpty then
          { a with csTab := a.csTab.set j ⟨stored key, id⟩ j.isLt }
        else if prefer then
          { a with csTab := a.csTab.set j { a.csTab.get j with id := id } j.isLt }
        else a := by
  rw [putCs, if_neg h0, Option.map_eq_some_iff]
  simp only [eq_comm]
  rfl

theorem idSlot_not_empty (key : List UInt8) (hid : 0 < id) : idSlots.isEmpty ⟨id, stored key⟩ = false := by
  change (id == 0) = false
  rw [beq_eq_false_iff_ne]
  omega

theorem csSlot_not_empty (hkey : key ≠ []) : csSlots.isEmpty ⟨stored key, id⟩ = false := by
  cases key with
  | nil => exact (hkey rfl).elim
  | cons c cs => rfl

theorem putAlias_refused (h : ¬Usable id callsign) : a.putAlias prefer id callsign = some a := by
  rw [putAlias]
  refine if_pos ?_
  rw [Usable, not_and_or] at h
  rcases h with h | h
  · exact .inl (by omega)
  · exact .inr (not_not.1 h)

theorem putAlias_usable (h : Usable id callsign) : a.putAlias prefer id callsign =
    a.ensureCap >>= fun b => b.putId id (normalizeCallsignKey callsign) >>= fun c =>
      c.putCs id (normalizeCallsignKey callsign) prefer := by
  rw [putAlias]
  refine if_neg ?_
  rintro (h' | h')
  · have hid := h.1
    omega
  · exact h.2 h'

/-- The search for a key finds it in the table. -/
def stores (a : AliasTab) (key : List UInt8) : Bool :=
  (csSlots.slotFor a.csTab key).any fun j => !csSlots.isEmpty (a.csTab.get j)

/-- The id of a row is put, where there is room. -/
theorem putId_spec (key : List UInt8) (hids : idSlots.occupied a.idTab = a.count) (hroom : a.count < a.cap)
    (hid : 0 < id) : ∃ t n, a.putId id key = some ⟨a.cap, t, a.csTab, n⟩ ∧
      idSlots.occupied t = n ∧ 0 < n ∧ n ≤ a.count + 1 := by
  have hsome : (idSlots.slotFor a.idTab id).isSome = true :=
    Slots.slotFor_isSome_iff.2 (.inr (by omega))
  obtain ⟨i, hi⟩ := Option.isSome_iff_exists.1 hsome
  refine ⟨_, _, putId_eq_some.2 ⟨i, hi, rfl⟩, ?_⟩
  cases he : (a.idTab.get i).isEmpty with
  | true =>
    rw [if_pos rfl, Slots.occupied_set_empty he (idSlot_not_empty _ hid), hids]
    exact ⟨rfl, Nat.succ_pos _, Nat.le_refl _⟩
  | false =>
    have hpos : 0 < idSlots.occupied a.idTab := Vector.countP_pos_iff.2
      ⟨a.idTab.get i, Vector.getElem_mem i.isLt, by rw [show idSlots.isEmpty _ = _ from he]; rfl⟩
    rw [if_neg Bool.false_ne_true, Slots.occupied_set he (idSlot_not_empty _ hid)]
    omega

/-- The callsign of a row takes a slot unless the search for it finds it. -/
theorem putCs_occupied (h0 : a.cap ≠ 0) (hkey : key ≠ []) (h : a.putCs id key prefer = some b) :
    ∃ t, b = ⟨a.cap, a.idTab, t, a.count⟩ ∧ csSlots.occupied t =
      if a.stores key then csSlots.occupied a.csTab else csSlots.occupied a.csTab + 1 := by
  obtain ⟨j, hj, rfl⟩ := (putCs_eq_some h0).1 h
  rw [stores, hj, Option.any_some]
  cases he : (a.csTab.get j).isEmpty with
  | true =>
    have he' : csSlots.isEmpty (a.csTab.get j) = true := he
    rw [if_pos rfl, he']
    exact ⟨_, rfl, Slots.occupied_set_empty he (csSlot_not_empty hkey)⟩
  | false =>
    have he' : csSlots.isEmpty (a.csTab.get j) = false := he
    rw [if_neg Bool.false_ne_true, he']
    cases prefer with
    | true => exact ⟨_, rfl, Slots.occupied_set he he⟩
    | false => exact ⟨_, rfl, rfl⟩

theorem putCs_isSome (h0 : a.cap ≠ 0)
    (h : a.stores key = true ∨ csSlots.occupied a.csTab < a.cap) :
    ∃ b, a.putCs id key prefer = some b := by
  have hsome : (csSlots.slotFor a.csTab key).isSome = true := by
    rcases h with h | h
    · rw [stores] at h
      cases hs : csSlots.slotFor a.csTab key with
      | none =>
        rw [hs] at h
        cases h
      | some j => rfl
    · exact Slots.slotFor_isSome_iff.2 (.inr h)
  obtain ⟨j, hj⟩ := Option.isSome_iff_exists.1 hsome
  exact ⟨_, (putCs_eq_some h0).2 ⟨j, hj, rfl⟩⟩

/-- A row that is taken, in tables that have grown as far as is due. -/
theorem putAlias_spec (prefer : Bool) (h : a.CountsIds) (hrow : Usable id callsign) :
    ∃ b, a.Grown b ∧
      (b.stores (normalizeCallsignKey callsign) = true ∨ csSlots.occupied b.csTab < b.cap →
        ∃ c, a.putAlias prefer id callsign = some c) ∧
      ∀ c, a.putAlias prefer id callsign = some c → c.cap = b.cap ∧ c.CountsIds ∧ 0 < c.count ∧
        csSlots.occupied c.csTab = if b.stores (normalizeCallsignKey callsign) then
          csSlots.occupied a.csTab else csSlots.occupied a.csTab + 1 := by
  obtain ⟨b, hb, hgrown⟩ := h.ensureCap
  have hroom := hgrown.room
  obtain ⟨t, n, ht, hn, hpos, hle⟩ :=
    putId_spec (normalizeCallsignKey callsign) hgrown.ids (by omega) hrow.1
  have h0 : b.cap ≠ 0 := by omega
  have heq : a.putAlias prefer id callsign =
      AliasTab.putCs ⟨b.cap, t, b.csTab, n⟩ id (normalizeCallsignKey callsign) prefer := by
    rw [putAlias_usable hrow, hb, Option.bind_eq_bind, Option.bind_some, ht]
    rfl
  refine ⟨b, hgrown, fun hs => ?_, fun c hc => ?_⟩
  · rw [heq]
    exact putCs_isSome h0 hs
  · rw [heq] at hc
    obtain ⟨u, rfl, hu⟩ := putCs_occupied (a := ⟨b.cap, t, b.csTab, n⟩) h0 hrow.2 hc
    refine ⟨rfl, ⟨hn, .inr ?_⟩, hpos, ?_⟩
    · change n < b.cap
      omega
    · rw [← hgrown.keys]
      exact hu

end AliasTab

/-- A call of `insert_alias` or `upsert_alias`. -/
structure AliasCall where
  prefer : Bool
  id : Int
  callsign : List UInt8
deriving DecidableEq

/-- The building of the tables, one call after the other; a call that goes on for ever is `none`. -/
def aliasMachine : Machine AliasTab AliasCall :=
  ⟨.empty, fun a c => a.putAlias c.prefer c.id c.callsign⟩

namespace AliasTab

/-- The call leaves a slot of the callsign table empty: the row is refused, the tables grow first,
the callsign is found there, or two slots are empty. -/
def KeepsRoom (a : AliasTab) (c : AliasCall) : Prop :=
  ¬Usable c.id c.callsign ∨ a.GrowthDue ∨ a.stores (normalizeCallsignKey c.callsign) = true ∨
    csSlots.occupied a.csTab + 1 < a.cap

/-- What holds as long as there is room. -/
structure Roomy (a : AliasTab) : Prop where
  counts : a.CountsIds
  room : a.cap = 0 ∨ csSlots.occupied a.csTab < a.cap

theorem roomy_empty : empty.Roomy := ⟨countsIds_empty, .inl rfl⟩

variable {a b : AliasTab} {c : AliasCall}

theorem Roomy.hasRoom (h : a.Roomy) : a.HasRoom := by
  rcases h.room with h0 | hcs
  · exact .inl h0
  · rcases h.counts.free with h0 | hid
    · exact .inl h0
    · rw [← h.counts.count] at hid
      exact .inr ⟨Slots.occupied_lt_iff.1 hid, Slots.occupied_lt_iff.1 hcs⟩

theorem Roomy.keys_lt (h : a.Roomy) (hb : a.Grown b) : csSlots.occupied a.csTab < b.cap := by
  by_cases hdue : a.GrowthDue
  · have hcap := (hb.due hdue).1
    have hle : csSlots.occupied a.csTab ≤ a.cap := Vector.countP_le_size
    omega
  · rw [hb.same hdue]
    rcases h.room with h0 | hlt
    · exact (hdue (.inl h0)).elim
    · exact hlt

/-- A call that finds room returns, and leaves room just if it meets the condition. -/
theorem Roomy.step (h : a.Roomy) : ∃ b, aliasMachine.step a c = some b ∧ b.CountsIds ∧
    (a.KeepsRoom c → b.Roomy) ∧ (¬a.KeepsRoom c → ¬b.HasRoom) := by
  change ∃ b, a.putAlias c.prefer c.id c.callsign = some b ∧ _
  by_cases hrow : Usable c.id c.callsign
  · obtain ⟨g, hg, hsome, hspec⟩ := putAlias_spec c.prefer h.counts hrow
    have hlt := h.keys_lt hg
    obtain ⟨b, hb⟩ := hsome (.inr (by rwa [hg.keys]))
    obtain ⟨hcap, hcounts, _, hocc⟩ := hspec b hb
    have hroom := hg.room
    refine ⟨b, hb, hcounts, fun hk => ⟨hcounts, .inr ?_⟩, fun hk => ?_⟩
    · rw [hocc, hcap]
      split
      next => exact hlt
      next hno =>
        rcases hk with hk | hk | hk | hk
        · exact (hk hrow).elim
        · have hdue := hg.due hk
          rcases h.room with h0 | hr
          · have hle : csSlots.occupied a.csTab ≤ a.cap := Vector.countP_le_size
            omega
          · omega
        · by_cases hdue : a.GrowthDue
          · have hdue' := hg.due hdue
            rcases h.room with h0 | hr
            · have hle : csSlots.occupied a.csTab ≤ a.cap := Vector.countP_le_size
              omega
            · omega
          · rw [hg.same hdue] at hno
            exact (hno hk).elim
        · by_cases hdue : a.GrowthDue
          · have hdue' := hg.due hdue
            omega
          · rw [hg.same hdue]
            exact hk
    · simp only [KeepsRoom, not_or, not_not] at hk
      obtain ⟨_, hdue, hno, hocc1⟩ := hk
      obtain rfl := hg.same hdue
      rw [if_neg hno] at hocc
      rintro (h0 | ⟨_, hj⟩)
      · omega
      · have hlt' : csSlots.occupied b.csTab < b.cap := Slots.occupied_lt_iff.2 hj
        omega
  · refine ⟨a, putAlias_refused hrow, h.counts, fun _ => h, fun hk => ?_⟩
    exact (hk (.inl hrow)).elim

/-- A run that returns from every call under the condition. -/
theorem Roomy.run_isSome {calls : List AliasCall} (h : a.Roomy)
    (hm : aliasMachine.Meets KeepsRoom a calls) :
    (aliasMachine.runFrom a calls).isSome = true := by
  induction calls generalizing a with
  | nil => rfl
  | cons c calls ih =>
    obtain ⟨b, hb, _, hkeep, _⟩ := h.step (c := c)
    obtain ⟨hc, hm⟩ := hm b hb
    rw [Machine.runFrom_cons, hb]
    exact ih (hkeep hc) hm

/-- Every call returns, and both tables have an empty slot after it. -/
def BuildsWithRoom (calls : List AliasCall) : Prop :=
  (aliasMachine.run calls).isSome = true ∧ aliasMachine.Always HasRoom .empty calls

theorem buildsWithRoom_iff (calls : List AliasCall) :
    BuildsWithRoom calls ↔ aliasMachine.Meets KeepsRoom .empty calls := by
  have halways : aliasMachine.Always HasRoom .empty calls ↔
      aliasMachine.Meets KeepsRoom .empty calls := by
    apply Machine.always_iff_meets (I := Roomy)
    · intro s c s' hs hc he
      obtain ⟨b, hb, _, hkeep, _⟩ := hs.step (c := c)
      cases hb.symm.trans he
      exact hkeep hc
    · exact fun s hs => hs.hasRoom
    · intro s c s' hs hc he
      obtain ⟨b, hb, _, _, hbad⟩ := hs.step (c := c)
      cases hb.symm.trans he
      exact hbad hc
    · exact roomy_empty
  rw [BuildsWithRoom, halways, and_iff_right_iff_imp]
  exact roomy_empty.run_isSome

/-- A row whose callsign is longer than what a slot keeps of it. -/
def overLong : AliasCall := ⟨false, 1, List.replicate 11 0x41⟩

theorem overLong_usable : Usable overLong.id overLong.callsign := ⟨by decide, by decide⟩

theorem overLong_key : (normalizeCallsignKey overLong.callsign).length = 11 := by decide

/-- The tables as they are before the first row is put. -/
def fresh : AliasTab :=
  ⟨aliasMinCap, Vector.replicate aliasMinCap ⟨0, []⟩, Vector.replicate aliasMinCap ⟨[], 0⟩, 0⟩

/-- The tables after `k` rows of that kind. -/
structure FilledBy (a : AliasTab) (k : Nat) : Prop where
  cap : a.cap = 1024
  ids : idSlots.occupied a.idTab = a.count
  sound : idSlots.Sound a.idTab
  same : a.count = 0 ∨ a.count = 1 ∧ idSlots.HasKey a.idTab 1
  keys : csSlots.occupied a.csTab = k
  short : ∀ s, csSlots.Holds a.csTab s → s.callsign.length ≤ 10

theorem filledBy_fresh : fresh.FilledBy 0 :=
  ⟨rfl, Slots.occupied_replicate rfl, Slots.sound_replicate rfl, .inl rfl,
    Slots.occupied_replicate rfl, fun _ hs => (Slots.not_holds_replicate rfl hs).elim⟩

theorem ensureCap_empty : empty.ensureCap = some fresh := rehash_eq_some.2 ⟨_, _, rfl, rfl, rfl⟩

theorem FilledBy.ensureCap {k : Nat} (h : a.FilledBy k) : a.ensureCap = some a := by
  have hcap := h.cap
  have hcount : a.count ≤ 1 := by
    rcases h.same with h0 | ⟨h1, _⟩ <;> omega
  rw [AliasTab.ensureCap, if_neg (by omega), if_pos (by omega)]

theorem FilledBy.not_hasKey {k : Nat} (h : a.FilledBy k) {key : List UInt8}
    (hkey : key.length = 11) : ¬csSlots.HasKey a.csTab key := by
  rintro ⟨s, hs, hk⟩
  have hlen := h.short s hs
  rw [show s.callsign = key from hk, hkey] at hlen
  omega

/-- The id is put where it already is, if it is there. -/
theorem FilledBy.putId {k : Nat} (key : List UInt8) (h : a.FilledBy k) :
    ∃ t, a.putId 1 key = some ⟨a.cap, t, a.csTab, 1⟩ ∧
      FilledBy ⟨a.cap, t, a.csTab, 1⟩ k := by
  have hcap := h.cap
  have hids := h.ids
  have hx : idSlots.isEmpty ⟨1, stored key⟩ = false := idSlot_not_empty _ Int.one_pos
  have hsome : (idSlots.slotFor a.idTab 1).isSome = true := by
    refine Slots.slotFor_isSome_iff.2 (.inr ?_)
    rcases h.same with h0 | ⟨h1, _⟩ <;> omega
  obtain ⟨i, hi⟩ := Option.isSome_iff_exists.1 hsome
  have hone : (if (a.idTab.get i).isEmpty then a.count + 1 else a.count) = 1 ∧
      idSlots.occupied (a.idTab.set i ⟨1, stored key⟩ i.isLt) = 1 := by
    rcases h.same with h0 | ⟨h1, hkey⟩
    · have he : idSlots.isEmpty (a.idTab.get i) = true := by
        refine (h.sound.slotFor_empty_iff hi).2 ?_
        rintro ⟨s, hs, _⟩
        have hpos := List.length_pos_of_mem ((Slots.mem_entries_toList a.idTab).2 hs)
        rw [← Slots.occupied_eq_entries] at hpos
        omega
      rw [Slots.occupied_set_empty he hx]
      exact ⟨(if_pos he).trans (by omega), by omega⟩
    · have he : idSlots.isEmpty (a.idTab.get i) = false := by
        cases he : idSlots.isEmpty (a.idTab.get i) with
        | true => exact ((h.sound.slotFor_empty_iff hi).1 he hkey).elim
        | false => rfl
      have he' : (a.idTab.get i).isEmpty = false := he
      rw [Slots.occupied_set he hx, he', if_neg Bool.false_ne_true]
      exact ⟨h1, by omega⟩
  refine ⟨a.idTab.set i ⟨1, stored key⟩ i.isLt, putId_eq_some.2 ⟨i, hi, by rw [hone.1]⟩, hcap,
    hone.2, h.sound.set hi hx rfl,
    .inr ⟨rfl, ⟨1, stored key⟩, (h.sound.holds_set hi hx).2 (.inl rfl), rfl⟩, h.keys, h.short⟩

/-- Every such row takes another slot of the callsign table. -/
theorem FilledBy.step {k : Nat} (h : a.FilledBy k) (hk : k < 1024) :
    ∃ b, aliasMachine.step a overLong = some b ∧ b.FilledBy (k + 1) := by
  obtain ⟨t, ht, hf⟩ := h.putId (normalizeCallsignKey overLong.callsign)
  have hkeys := hf.keys
  have hcap := hf.cap
  obtain ⟨j, hj⟩ := Option.isSome_iff_exists.1
    (Slots.slotFor_isSome_iff (S := csSlots) (t := a.csTab)
      (k := normalizeCallsignKey overLong.callsign) |>.2 (.inr (by
        have hcap' := h.cap
        have hkeys' := h.keys
        omega)))
  have he : csSlots.isEmpty (a.csTab.get j) = true := by
    cases he : csSlots.isEmpty (a.csTab.get j) with
    | true => rfl
    | false => exact (h.not_hasKey overLong_key ⟨_, .of_get he, Slots.slotFor_key hj he⟩).elim
  have hx : csSlots.isEmpty ⟨stored (normalizeCallsignKey overLong.callsign), 1⟩ = false :=
    csSlot_not_empty overLong_usable.2
  refine ⟨⟨a.cap, t, a.csTab.set j
    ⟨stored (normalizeCallsignKey overLong.callsign), 1⟩ j.isLt, 1⟩, ?_, hf.cap, hf.ids,
    hf.sound, hf.same, ?_, ?_⟩
  · change a.putAlias false overLong.id overLong.callsign = _
    rw [putAlias_usable overLong_usable, h.ensureCap, Option.bind_eq_bind, Option.bind_some]
    change (a.putId 1 _ >>= _) = _
    rw [ht]
    refine (putCs_eq_some (a := ⟨a.cap, t, a.csTab, 1⟩) (by omega)).2 ⟨j, hj, ?_⟩
    exact (if_pos he).symm
  · exact (Slots.occupied_set_empty he hx).trans (congrArg (· + 1) h.keys)
  · intro s hs
    rcases (Slots.holds_set hx).1 hs with rfl | ⟨hs, i, _, rfl⟩
    · exact List.length_take_le _ _
    · exact h.short _ ⟨hs, i, rfl⟩

theorem FilledBy.run {k m : Nat} (h : a.FilledBy k) (hm : k + m ≤ 1024) :
    ∃ b, aliasMachine.runFrom a (List.replicate m overLong) = some b ∧ b.FilledBy (k + m) := by
  induction m generalizing a k with
  | zero => exact ⟨a, rfl, h⟩
  | succ m ih =>
    obtain ⟨b, hb, hf⟩ := h.step (by omega)
    obtain ⟨c, hc, hf'⟩ := ih hf (by omega)
    rw [List.replicate_succ, Machine.runFrom_cons, hb]
    refine ⟨c, hc, ?_⟩
    rwa [Nat.add_right_comm, Nat.add_assoc] at hf'

/-- In the full table, the search for one more never ends. -/
theorem FilledBy.full (h : a.FilledBy 1024) : aliasMachine.step a overLong = none := by
  obtain ⟨t, ht, hf⟩ := h.putId (normalizeCallsignKey overLong.callsign)
  have hcap := h.cap
  have hkeys := h.keys
  have hnone : csSlots.slotFor a.csTab (normalizeCallsignKey overLong.callsign) = none := by
    cases hs : csSlots.slotFor a.csTab (normalizeCallsignKey overLong.callsign) with
    | none => rfl
    | some j =>
      rcases Slots.slotFor_isSome_iff.1 (Option.isSome_iff_exists.2 ⟨j, hs⟩) with hk | hlt
      · exact (h.not_hasKey overLong_key hk).elim
      · omega
  change a.putAlias false overLong.id overLong.callsign = none
  rw [putAlias_usable overLong_usable, h.ensureCap, Option.bind_eq_bind, Option.bind_some]
  change (a.putId 1 _ >>= _) = _
  rw [ht]
  change AliasTab.putCs ⟨a.cap, t, a.csTab, 1⟩ _ _ _ = none
  have h0 : a.cap ≠ 0 := by omega
  exact (if_neg h0).trans (Option.map_eq_none_iff.2 hnone)

/-- The same row with an over-long callsign, 1025 times over: the last call never returns. -/
theorem not_buildsWithRoom : ¬BuildsWithRoom (List.replicate 1025 overLong) := by
  intro h
  have hstep : aliasMachine.step empty overLong = aliasMachine.step fresh overLong := by
    change empty.putAlias false overLong.id overLong.callsign =
      fresh.putAlias false overLong.id overLong.callsign
    rw [putAlias_usable overLong_usable, putAlias_usable overLong_usable, ensureCap_empty,
      filledBy_fresh.ensureCap]
  have hfirst : aliasMachine.run (List.replicate 1025 overLong) =
      aliasMachine.runFrom fresh (List.replicate 1025 overLong) := by
    rw [Machine.run, List.replicate_succ, Machine.runFrom_cons, Machine.runFrom_cons, ← hstep]
    rfl
  obtain ⟨b, hb, hf⟩ := filledBy_fresh.run (m := 1024) (Nat.le_refl _)
  have hnone : aliasMachine.run (List.replicate 1025 overLong) = none := by
    rw [hfirst, List.replicate_succ', Machine.runFrom_append, hb, Option.bind_some,
      Machine.runFrom_cons, hf.full]
    rfl
  have hsome := h.1
  rw [hnone] at hsome
  cases hsome

end AliasTab

end AdnBridge
