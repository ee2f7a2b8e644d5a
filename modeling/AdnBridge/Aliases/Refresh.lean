import AdnBridge.Aliases.Sharing

namespace AdnBridge
set_option autoImplicit true

/-- The configuration: whether it names each file, and gives it a URL. -/
structure AliasesCfg where
  staleMinutes : Int
  reloadMinutes : Int
  hasFile : DataFile → Bool
  hasUrl : DataFile → Bool

/-- `ysf2dmr_aliases_t`: the tables, the times of the files they were built from, and when the
files were last looked at and last downloaded. -/
structure Aliases where
  tab : AliasTab
  subscriberMtime : Int
  localMtime : Int
  lastMtimeCheck : Int
  lastFetchTime : Int

/-- `"subscriber_ids"`. -/
def aliasChecksumKeySubscriber : List UInt8 :=
  [0x73, 0x75, 0x62, 0x73, 0x63, 0x72, 0x69, 0x62, 0x65, 0x72, 0x5F, 0x69, 0x64, 0x73]

def blake2bHexLen : Nat := 128

namespace AliasEnv

/-- The digest that a checksum file holds for the subscribers; empty if there is none. -/
def expectedOf (e : AliasEnv) (data : List UInt8) : List UInt8 :=
  match (e.json data).bind fun v => v.get aliasChecksumKeySubscriber with
  | some (.str s) => if (cString s).length = blake2bHexLen then cString s else []
  | _ => []

/-- The rows of a subscriber file, unless it is corrupt. -/
def rowsOf (e : AliasEnv) (data : List UInt8) : Option (List AliasRow) :=
  ((e.json data).bind Json.results).map fun vs => vs.filterMap Json.row

end AliasEnv

section
variable (cfg : AliasesCfg) (e : AliasEnv) (p : Nat) (fuel : Nat)

open AliasProg

/-- `load_subscriber_checksum`. -/
def loadSubscriberChecksum : AliasProg (List UInt8) :=
  if cfg.hasFile .checksum then do
    if ← access .checksum then
      match ← read .checksum with
      | some data => pure (e.expectedOf data)
      | none => pure []
    else pure []
  else pure []

def parseSubscriberJson (t : AliasTab) (f : DataFile) (localOverride : Bool) :
    AliasProg (Int × AliasTab) := do
  match ← read f with
  | none => pure (-1, t)
  | some data =>
    match e.rowsOf data with
    | none => pure (-1, t)
    | some rows =>
      match t.putRows localOverride rows with
      | none => .hang
      | some t => pure (if rows = [] then -1 else 0, t)

/-- The main file must pass its checksum. -/
def loadVerified (f : DataFile) (localOverride : Bool) (expected : List UInt8) : AliasProg Bool :=
  if localOverride then pure true else blake2bMatches e (read f) expected

def loadFile (t : AliasTab) (f : DataFile) (localOverride : Bool) (expected : List UInt8) :
    AliasProg (Int × AliasTab) :=
  if cfg.hasFile f then do
    if ← access f then
      if ← loadVerified e f localOverride expected then
        let (rc, t) ← parseSubscriberJson e t f localOverride
        pure (if rc < 0 ∧ localOverride = true then 0 else rc, t)
      else pure (-1, t)
    else pure (0, t)
  else pure (0, t)

def fileMtime (f : DataFile) : AliasProg Int := do
  let mtime ← stat f
  pure (mtime.getD 0)

def configuredMtime (f : DataFile) : AliasProg Int :=
  if cfg.hasFile f then fileMtime f else pure 0

def aliasesRecordMtimes (a : Aliases) : AliasProg Aliases := do
  let subscriberMtime ← configuredMtime cfg .subscriber
  let localMtime ← configuredMtime cfg .localOverlay
  let now ← time
  pure { a with
    subscriberMtime := subscriberMtime
    localMtime := localMtime
    lastMtimeCheck := now }

/-- The main file, which is loaded if it is there. -/
def loadMain (expected : List UInt8) : AliasProg (Int × AliasTab) :=
  if cfg.hasFile .subscriber then do
    if ← access .subscriber then loadFile cfg e .empty .subscriber false expected
    else pure (0, .empty)
  else pure (0, .empty)

def aliasesBuild : AliasProg (Option Aliases) := do
  let expected ← loadSubscriberChecksum cfg e
  let (rc, t) ← loadMain cfg e expected
  if rc < 0 then pure none
  else
    let (_, t) ← loadFile cfg e t .localOverlay true []
    let a ← aliasesRecordMtimes cfg ⟨t, 0, 0, 0, 0⟩
    pure (some a)

def checksumDownload (staleMinutes : Int) : AliasProg Unit :=
  if cfg.hasFile .checksum && cfg.hasUrl .checksum then do
    let rc ← tryDownload e .checksum p staleMinutes .anyJson [] fuel
    if rc < 0 then
      let _ ← access .checksum
      pure ()
    else pure ()
  else pure ()

def subscriberDownload (staleMinutes : Int) (expected : List UInt8) : AliasProg Bool :=
  if cfg.hasFile .subscriber && cfg.hasUrl .subscriber then do
    let rc ← tryDownload e .subscriber p staleMinutes .subscribers expected fuel
    pure (decide (rc > 0))
  else pure false

def aliasesDownload (forceSubscriber : Bool) : AliasProg Bool := do
  let staleMinutes := if forceSubscriber then 0 else cfg.staleMinutes
  checksumDownload cfg e p fuel staleMinutes
  let expected ← loadSubscriberChecksum cfg e
  subscriberDownload cfg e p fuel staleMinutes expected

/-- The subscriber file is there and fails its checksum. -/
def checksumMismatch : AliasProg Bool := do
  let expected ← loadSubscriberChecksum cfg e
  if expected = [] then pure false
  else if ← access .subscriber then not <$> blake2bMatches e (read .subscriber) expected
  else pure false

def aliasesNeedsDownload (a : Aliases) : AliasProg Bool :=
  if cfg.staleMinutes ≤ 0 then pure false
  else if cfg.hasFile .subscriber && cfg.hasUrl .subscriber then do
    let now ← time
    if a.lastFetchTime > 0 ∧ now - a.lastFetchTime < cfg.staleMinutes * 60 then pure false
    else if ← fileStale .subscriber cfg.staleMinutes then pure true
    else checksumMismatch cfg e
  else pure false

def fileNewer (f : DataFile) (mtime : Int) : AliasProg Bool :=
  if cfg.hasFile f then do
    let mt ← fileMtime f
    pure (decide (mt > mtime))
  else pure false

def aliasesDiskNewer (a : Aliases) : AliasProg Bool := do
  if ← fileNewer cfg .subscriber a.subscriberMtime then pure true
  else fileNewer cfg .localOverlay a.localMtime

def subscriberMissing : AliasProg Bool :=
  if cfg.hasFile .subscriber then not <$> access .subscriber else pure false

/-- The part of `ysf2dmr_aliases_maybe_refresh` that looks at the disk every `reload_minutes`. -/
def reloadWanted (now : Int) (a : Aliases) : AliasProg (Option Bool × Aliases) :=
  if cfg.reloadMinutes > 0 ∧ now - a.lastMtimeCheck ≥ cfg.reloadMinutes * 60 then do
    let a := { a with lastMtimeCheck := now }
    if ← subscriberMissing cfg then
      if cfg.hasUrl .subscriber then
        let didDownload ← aliasesDownload cfg e p fuel true
        pure (some didDownload, a)
      else pure (none, a)
    else if ← aliasesDiskNewer cfg a then pure (some false, a)
    else pure (none, a)
  else pure (none, a)

/-- The first part of `ysf2dmr_aliases_maybe_refresh`: whether to reload, and after a download. -/
def refreshWanted (a : Aliases) : AliasProg (Option Bool × Aliases) := do
  let now ← time
  if ← aliasesNeedsDownload cfg e a then
    let didDownload ← aliasesDownload cfg e p fuel false
    pure (some didDownload, a)
  else reloadWanted cfg e p fuel now a

/-- The end of `ysf2dmr_aliases_maybe_refresh`, which puts the new aliases in place of the old. -/
def swapAliases (a : Aliases) (didDownload : Bool) : Option Aliases → AliasProg (Int × Aliases)
  | none => pure (-1, a)
  | some neu =>
    if neu.tab.count = 0 ∧ a.tab.count > 0 then pure (-1, a)
    else if didDownload then do
      let now ← time
      pure (1, { neu with lastFetchTime := now })
    else pure (1, { neu with lastFetchTime := a.lastFetchTime })

def rebuild : Option Bool × Aliases → AliasProg (Int × Aliases)
  | (none, a) => pure (0, a)
  | (some didDownload, a) => do
    let neu ← aliasesBuild cfg e
    swapAliases a didDownload neu

/-- `ysf2dmr_aliases_maybe_refresh`: what it returns, and `*aliases` afterwards. -/
def aliasesMaybeRefresh (a : Aliases) : AliasProg (Int × Aliases) := do
  let wanted ← refreshWanted cfg e p fuel a
  rebuild cfg e wanted

/-- The download timer of a process that starts with a file that is not stale yet. -/
def alignFetchTime (a : Aliases) : AliasProg Aliases :=
  if cfg.staleMinutes > 0 ∧ cfg.hasFile .subscriber = true then do
    let mt ← fileMtime .subscriber
    if mt > 0 then
      if ← fileStale .subscriber cfg.staleMinutes then pure a
      else pure { a with lastFetchTime := mt }
    else pure a
  else pure a

/-- The end of `ysf2dmr_aliases_load`. -/
def finishLoad (fetched : Bool) : Option Aliases → AliasProg (Option Aliases)
  | none => pure none
  | some a =>
    if fetched then do
      let now ← time
      pure (some { a with lastFetchTime := now })
    else some <$> alignFetchTime cfg a

/-- `ysf2dmr_aliases_load`. -/
def aliasesLoad : AliasProg (Option Aliases) := do
  let fetched ← aliasesDownload cfg e p fuel false
  let a ← aliasesBuild cfg e
  finishLoad cfg fetched a

end

end AdnBridge
