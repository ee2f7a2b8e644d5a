import AdnBridge.Lib.Probe
import AdnBridge.Ysf.Callsign

namespace AdnBridge
set_option autoImplicit true

/-- A slot of `id_tab`; it is empty when the id is 0. -/
structure IdSlot where
  id : Int
  callsign : List UInt8
deriving DecidableEq, Inhabited

/-- A slot of `cs_tab`; it is empty when the callsign is. -/
structure CsSlot where
  callsign : List UInt8
  id : Int
deriving DecidableEq, Inhabited

def IdSlot.isEmpty (s : IdSlot) : Bool := s.id == 0

def CsSlot.isEmpty (s : CsSlot) : Bool := s.callsign.isEmpty

/-- A row of a subscriber file. -/
abbrev AliasRow := Int × List UInt8

/-- The two tables of the subscriber aliases. The capacity is 0 before the first row, then a power
of two, so that `& (cap - 1)` is the remainder modulo `cap`. -/
structure AliasTab where
  cap : Nat
  idTab : Vector IdSlot cap
  csTab : Vector CsSlot cap
  count : Nat

def aliasMinCap : Nat := 1024

def hashStr (s : List UInt8) : UInt32 :=
  s.foldl (fun h c => (h <<< 5) + h + c.toUInt32) 5381

def hashId (id : Int) : UInt32 := UInt32.ofInt id * 2654435761

def isSpace (c : UInt8) : Bool := c == 0x20 || (0x09 ≤ c && c ≤ 0x0D)

/-- `normalize_callsign_key` into 16 bytes, of which the last holds the NUL. -/
def normalizeCallsignKey (src : List UInt8) : List UInt8 :=
  let src := (cString src).dropWhile isSpace
  let key := ((src.takeWhile fun c => c != chDash && c != chSlash).take 15).map toUpper
  (key.reverse.dropWhile isSpace).reverse

/-- What a slot keeps of a key: `strncpy` of 10 characters. -/
def stored (key : List UInt8) : List UInt8 := key.take 10

def pow2From : Nat → Nat → Nat → Nat
  | 0, c, _ => c
  | k + 1, c, n => if c < n then pow2From k (2 * c) n else c

/-- `next_pow2`: doubling from 1024 on. -/
def nextPow2 (n : Nat) : Nat := if n < aliasMinCap then aliasMinCap else pow2From n aliasMinCap n

namespace AliasTab

def empty : AliasTab := ⟨0, #v[], #v[], 0⟩

/-- Put a slot where the probe from its hash finds an empty one; `none` if the probe never ends. -/
def rehashId (t : Vector IdSlot n) (s : IdSlot) : Option (Vector IdSlot n) :=
  if s.isEmpty then some t
  else (Probe.seek IdSlot.isEmpty t (hashId s.id).toNat).map
    fun i : Fin n => t.set i s i.isLt

def rehashCs (t : Vector CsSlot n) (s : CsSlot) : Option (Vector CsSlot n) :=
  if s.isEmpty then some t
  else (Probe.seek CsSlot.isEmpty t (hashStr s.callsign).toNat).map
    fun i : Fin n => t.set i s i.isLt

/-- `alias_rehash`. -/
def rehash (a : AliasTab) (newCap : Nat) : Option AliasTab := do
  let nid ← a.idTab.toList.foldlM rehashId (Vector.replicate newCap ⟨0, []⟩)
  let ncs ← a.csTab.toList.foldlM rehashCs (Vector.replicate newCap ⟨[], 0⟩)
  return ⟨newCap, nid, ncs, a.count⟩

/-- `alias_ensure_cap`: grow at a load of 7/10, counted in distinct ids. -/
def ensureCap (a : AliasTab) : Option AliasTab :=
  if a.cap = 0 then a.rehash aliasMinCap
  else if (a.count + 1) * 10 < a.cap * 7 then some a
  else a.rehash (nextPow2 (a.cap + 1))

/-- `alias_put_id` without its growth step. -/
def putId (a : AliasTab) (id : Int) (key : List UInt8) : Option AliasTab :=
  (Probe.seek (fun s => s.isEmpty || s.id == id) a.idTab (hashId id).toNat).map
    fun i : Fin a.cap =>
    { a with
      idTab := a.idTab.set i ⟨id, stored key⟩ i.isLt
      count := if (a.idTab.get i).isEmpty then a.count + 1 else a.count }

def putCs (a : AliasTab) (id : Int) (key : List UInt8) (prefer : Bool) : Option AliasTab :=
  if a.cap = 0 then some a
  else
    (Probe.seek (fun s => s.isEmpty || s.callsign == key) a.csTab (hashStr key).toNat).map
      fun i : Fin a.cap =>
      if (a.csTab.get i).isEmpty then
        { a with csTab := a.csTab.set i ⟨stored key, id⟩ i.isLt }
      else if prefer then
        { a with csTab := a.csTab.set i { a.csTab.get i with id := id } i.isLt }
      else a

/-- `insert_alias`, or with `prefer` `upsert_alias`; `none` if it never returns. -/
def putAlias (prefer : Bool) (a : AliasTab) (id : Int) (callsign : List UInt8) :
    Option AliasTab :=
  let key := normalizeCallsignKey callsign
  if id ≤ 0 ∨ key = [] then some a
  else do
    let a ← a.ensureCap
    let a ← a.putId id key
    a.putCs id key prefer

def insertAlias (a : AliasTab) (id : Int) (callsign : List UInt8) : Option AliasTab :=
  putAlias false a id callsign

def upsertAlias (a : AliasTab) (id : Int) (callsign : List UInt8) : Option AliasTab :=
  putAlias true a id callsign

/-- The loop of `parse_subscriber_json`; `none` if a row is never put. -/
def putRows (localOverride : Bool) (t : AliasTab) (rows : List AliasRow) : Option AliasTab :=
  rows.foldlM (fun t row =>
    if localOverride then t.upsertAlias row.1 row.2 else t.insertAlias row.1 row.2) t

theorem putRows_cons (localOverride : Bool) (t : AliasTab) (row : AliasRow)
    (rows : List AliasRow) : t.putRows localOverride (row :: rows) =
      (putAlias localOverride t row.1 row.2).bind fun t => t.putRows localOverride rows := by
  cases localOverride <;> exact List.foldlM_cons

/-- `ysf2dmr_alias_lookup_id`; the probe is bounded by the capacity. -/
def lookupId (a : AliasTab) (callsign : List UInt8) : Int :=
  let key := normalizeCallsignKey callsign
  if a.cap = 0 ∨ key = [] then 0
  else
    match Probe.seek (fun s => s.isEmpty || s.callsign == key) a.csTab (hashStr key).toNat with
    | some i => if (a.csTab.get i).isEmpty then 0 else (a.csTab.get i).id
    | none => 0

/-- `ysf2dmr_alias_lookup_callsign`. -/
def lookupCallsign (a : AliasTab) (dmrid : Int) : Option (List UInt8) :=
  if a.cap = 0 ∨ dmrid ≤ 0 then none
  else
    match Probe.seek (fun s => s.isEmpty || s.id == dmrid) a.idTab (hashId dmrid).toNat with
    | some i =>
      if (a.idTab.get i).isEmpty then none
      else some (pad10 ((a.idTab.get i).callsign.map toUpper))
    | none => none

/-- The lookups that the bridges make. -/
def toDb (a : AliasTab) : AliasDb := ⟨a.lookupId, a.lookupCallsign⟩

end AliasTab

/-- The tables of the main rows and then of the overlay. -/
def tableOf (main overlay : List AliasRow) : Option AliasTab := do
  let t ← AliasTab.empty.putRows false main
  t.putRows true overlay

end AdnBridge
