import AdnBridge.Aliases.System

namespace AdnBridge
set_option autoImplicit true

def aliasDownloadLockStaleSec : Int := 300
def aliasDownloadWaitSec : Int := 150
def aliasDownloadIdleSec : Int := 60
def aliasDownloadAttempts : Nat := 3

/-- The code outside the repository that the aliases rest on: the JSON reader, and the BLAKE2b
digest in hexadecimal. -/
structure AliasEnv where
  json : List UInt8 → Option Json
  blake2b : List UInt8 → List UInt8

/-- How a downloaded file is checked: not at all, as JSON, or as a list of subscribers. -/
inductive Validate where
  | nothing
  | anyJson
  | subscribers
deriving DecidableEq

/-- What becomes of an attempt to get the lock. -/
inductive Acquired where
  | held
  | got
  | error
deriving DecidableEq

section
variable (e : AliasEnv) (f : DataFile) (p : Nat)

open AliasProg

def fileStale (staleMinutes : Int) : AliasProg Bool :=
  if staleMinutes ≤ 0 then pure true
  else do
    match ← stat f with
    | none => pure true
    | some mtime =>
      let now ← time
      pure (decide (now - mtime ≥ staleMinutes * 60))

def downloadLockStale : AliasProg Bool := do
  match ← statLock f with
  | none => pure true
  | some mtime =>
    let now ← time
    pure (decide (now - mtime ≥ aliasDownloadLockStaleSec))

def peerDownloadActive : AliasProg Bool := do
  if ← accessLock f then not <$> downloadLockStale f else pure false

/-- Open and write the lock file. -/
def createDownloadLock : AliasProg Acquired := do
  match ← openLock f with
  | .exists => pure .held
  | .failed => pure .error
  | .created =>
    if ← writeLock f then pure .got
    else
      unlinkLock f .writeFailed
      pure .error

def tryAcquireDownloadLock : AliasProg Acquired := do
  if ← accessLock f then
    if ← downloadLockStale f then
      unlinkLock f .takeStale
      createDownloadLock f
    else pure .held
  else createDownloadLock f

def stillOwnDownloadLock : AliasProg Bool := do
  let owner ← readLock f
  pure (owner == some p)

/-- `off_t` of the file or of the temporary file of the peer, whichever is longer; -1 without. -/
def peerSize (peer : Option Nat) : AliasProg Int := do
  let sz ← size f
  let sz : Int := (sz.map Int.ofNat).getD (-1)
  match peer with
  | none => pure sz
  | some q =>
    let ts ← tmpSize f q
    pure (max sz ((ts.map Int.ofNat).getD (-1)))

/-- The end of the wait at its deadline. -/
def waitEdge : AliasProg Bool := do
  if ← peerDownloadActive f then
    let _ ← downloadLockStale f
    pure false
  else if ← access f then pure true
  else
    let _ ← downloadLockStale f
    pure false

/-- The polls of `wait_for_peer_download`. -/
def waitPolls (peer : Option Nat) : Nat → Int → Int → Int → AliasProg Bool
  | 0, _, _, _ => .hang
  | n + 1, deadline, lastProgress, lastSize => do
    let now ← time
    if now < deadline then
      if ← peerDownloadActive f then
        let sz ← peerSize f peer
        if sz > lastSize then
          waitPolls peer n (max deadline (now + aliasDownloadLockStaleSec)) now sz
        else if now - lastProgress ≥ aliasDownloadIdleSec then pure false
        else waitPolls peer n deadline lastProgress lastSize
      else access f
    else waitEdge f

def waitForPeerDownload (fuel : Nat) : AliasProg Bool := do
  let now ← time
  let peer ← readLock f
  let sz ← peerSize f peer
  waitPolls f peer fuel (now + aliasDownloadWaitSec) now sz

/-- `blake2b_matches` on a file that `readFile` reads; nothing is expected of it when `expected` is
empty. -/
def blake2bMatches (readFile : AliasProg (Option (List UInt8))) (expected : List UInt8) :
    AliasProg Bool :=
  if expected = [] then pure true
  else do
    match ← readFile with
    | none => pure false
    | some data => pure (e.blake2b data == expected)

/-- The JSON of a downloaded file is accepted. -/
def AliasEnv.jsonValid (subscriberShape : Bool) (data : List UInt8) : Bool :=
  if data = [] then false
  else
    match e.json data with
    | none => false
    | some v => !subscriberShape || v.results.isSome

/-- `json_download_valid` on the temporary file. -/
def jsonDownloadValid (subscriberShape : Bool) : AliasProg Bool := do
  let data ← readTmp f
  pure (data.any (e.jsonValid subscriberShape))

def downloadedValid : Validate → AliasProg Bool
  | .nothing => pure true
  | .anyJson => jsonDownloadValid e f false
  | .subscribers => jsonDownloadValid e f true

/-- One round of downloading, checking and renaming; whether the file is in place. -/
def downloadAttempt (validate : Validate) (expected : List UInt8) : AliasProg Bool := do
  let rc ← curl f
  if rc ≠ 0 then pure false
  else if ← downloadedValid e f validate then
    if ← blake2bMatches e (readTmp f) expected then renameTmp f
    else pure false
  else pure false

/-- The file on disk will do: it is there, and is not known to be another one. -/
def onDisk (expected : List UInt8) : AliasProg Bool := do
  if ← access f then blake2bMatches e (read f) expected else pure false

/-- The attempts that are left to the holder of the lock. -/
def downloadAttempts (validate : Validate) (expected : List UInt8) : Nat → AliasProg Int
  | 0 => do
    if ← stillOwnDownloadLock f p then unlinkLock f .gaveUp
    pure (-1)
  | n + 1 => do
    if ← stillOwnDownloadLock f p then
      touchLock f
      if ← downloadAttempt e f validate expected then
        unlinkLock f .finished
        pure 1
      else
        unlinkTmp f
        if n = 0 then downloadAttempts validate expected 0
        else if ← onDisk e f expected then
          if ← stillOwnDownloadLock f p then unlinkLock f .foundOnDisk
          pure 1
        else downloadAttempts validate expected n
    else
      unlinkTmp f
      pure (-1)

/-- The file on disk is there, and is known to be another one. -/
def mismatchOnDisk (expected : List UInt8) : AliasProg Bool :=
  if expected = [] then pure false
  else do
    if ← access f then not <$> blake2bMatches e (read f) expected else pure false

/-- What the file of a peer is worth, once it is there. -/
def peerResult (expected : List UInt8) : AliasProg Int := do
  if ← mismatchOnDisk e f expected then pure (-1)
  else if ← access f then pure 1
  else pure 0

/-- The loop for the lock: `none` with the lock in hand, else what is returned. -/
def acquireLoop (expected : List UInt8) : Nat → AliasProg (Option Int)
  | 0 => .hang
  | n + 1 => do
    match ← tryAcquireDownloadLock f with
    | .got => pure none
    | .error => pure (some (-1))
    | .held =>
      if ← waitForPeerDownload f n then
        let r ← peerResult e f expected
        pure (some r)
      else if ← access f then
        if ← blake2bMatches e (read f) expected then pure (some 1) else pure (some (-1))
      else
        if ← accessLock f then unlinkLock f .takeAfterBackoff
        acquireLoop expected n

/-- The file is not there, fails its checksum, or is too old. -/
def wantsDownload (staleMinutes : Int) (expected : List UInt8) : AliasProg Bool := do
  if ← access f then
    if ← blake2bMatches e (read f) expected then fileStale f staleMinutes else pure true
  else fileStale f staleMinutes

def downloadLocked (validate : Validate) (expected : List UInt8) (fuel : Nat) :
    AliasProg Int := do
  match ← acquireLoop e f expected fuel with
  | some r => pure r
  | none => downloadAttempts e f p validate expected aliasDownloadAttempts

/-- `try_download` with a URL, for a run of at most `fuel` turns of its waits; `expected` is empty
when there is no checksum. -/
def tryDownload (staleMinutes : Int) (validate : Validate) (expected : List UInt8) (fuel : Nat) :
    AliasProg Int := do
  if ← wantsDownload e f staleMinutes expected then downloadLocked e f p validate expected fuel
  else
    let _ ← stat f
    pure 0

end

end AdnBridge
