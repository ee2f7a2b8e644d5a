import AdnBridge.Lib.Prog
import AdnBridge.Aliases.Table

namespace AdnBridge
set_option autoImplicit true

/-- A JSON value as `yyjson` reads it: the numbers without a sign are `uint`. -/
inductive Json where
  | null
  | bool (b : Bool)
  | uint (n : Nat)
  | sint (n : Int)
  | real
  | str (s : List UInt8)
  | arr (vs : List Json)
  | obj (kvs : List (List UInt8 × Json))

namespace Json

/-- `yyjson_obj_get`: the first member with this key. -/
def get : Json → List UInt8 → Option Json
  | obj kvs, key => (kvs.find? fun kv => kv.1 == key).map Prod.snd
  | _, _ => none

/-- `"results"`. -/
def resultsKey : List UInt8 := [0x72, 0x65, 0x73, 0x75, 0x6C, 0x74, 0x73]

/-- `"id"`. -/
def idKey : List UInt8 := [0x69, 0x64]

/-- `"callsign"`. -/
def callsignKey : List UInt8 := [0x63, 0x61, 0x6C, 0x6C, 0x73, 0x69, 0x67, 0x6E]

/-- The array of subscribers. -/
def results (v : Json) : Option (List Json) :=
  match v.get resultsKey with
  | some (arr vs) => some vs
  | _ => none

/-- The row of a subscriber: an integer, cut to an `int`, and a string. -/
def row (v : Json) : Option (Int × List UInt8) :=
  match v.get idKey, v.get callsignKey with
  | some (uint n), some (str s) => some (Int.bmod n (2 ^ 32), s)
  | some (sint n), some (str s) => some (Int.bmod n (2 ^ 32), s)
  | _, _ => none

end Json

/-- The files of the data directory that the aliases are made of. -/
inductive DataFile where
  | subscriber
  | localOverlay
  | checksum
deriving DecidableEq

structure File where
  data : List UInt8
  mtime : Int
  readable : Bool
deriving DecidableEq

/-- A lock file: the process that created it, whether its pid has been written into it, and when it
was last touched. -/
structure LockFile where
  creator : Nat
  written : Bool
  mtime : Int
deriving DecidableEq

/-- The pid that stands in a lock file. -/
def LockFile.owner (l : LockFile) : Option Nat := if l.written then some l.creator else none

/-- The data directory: the files, their locks, and the temporary file of each process. -/
structure Fs where
  file : DataFile → Option File
  lock : DataFile → Option LockFile
  tmp : DataFile → Nat → Option File

/-- Why a process removes a lock file: to take over one that is stale or one that is left after the
backoff, or because its own work is over. -/
inductive LockRemoval where
  | takeStale
  | takeAfterBackoff
  | writeFailed
  | finished
  | foundOnDisk
  | gaveUp
deriving DecidableEq

/-- The calls to the system, one at a time. -/
inductive Sys where
  | time
  | access (f : DataFile)
  | stat (f : DataFile)
  | size (f : DataFile)
  | read (f : DataFile)
  | accessLock (f : DataFile)
  | statLock (f : DataFile)
  | readLock (f : DataFile)
  | openLock (f : DataFile)
  | writeLock (f : DataFile)
  | unlinkLock (f : DataFile) (why : LockRemoval)
  | touchLock (f : DataFile)
  | tmpSize (f : DataFile) (pid : Nat)
  | curl (f : DataFile)
  | readTmp (f : DataFile)
  | renameTmp (f : DataFile)
  | unlinkTmp (f : DataFile)
deriving DecidableEq

/-- What `open` with `O_CREAT | O_EXCL` comes to. -/
inductive Opened where
  | created
  | exists
  | failed
deriving DecidableEq

/-- What a call answers. -/
def Sys.Res : Sys → Type
  | time => Int
  | access _ => Bool
  | stat _ => Option Int
  | size _ => Option Nat
  | read _ => Option (List UInt8)
  | accessLock _ => Bool
  | statLock _ => Option Int
  | readLock _ => Option Nat
  | openLock _ => Opened
  | writeLock _ => Bool
  | unlinkLock _ _ => Unit
  | touchLock _ => Unit
  | tmpSize _ _ => Option Nat
  | curl _ => Int
  | readTmp _ => Option (List UInt8)
  | renameTmp _ => Bool
  | unlinkTmp _ => Unit

/-- What is not decided by the data directory: the time, whether the call itself succeeds, the exit
code of `curl` and what it leaves in its output file. -/
structure Outcome where
  now : Int
  ok : Bool
  rc : Int
  left : Option (List UInt8)

/-- A program of a process of the bridge. -/
abbrev AliasProg := Prog Sys Sys.Res

namespace AliasProg

def time : AliasProg Int := Prog.sys Sys.time
def access (f : DataFile) : AliasProg Bool := Prog.sys (Sys.access f)
def stat (f : DataFile) : AliasProg (Option Int) := Prog.sys (Sys.stat f)
def size (f : DataFile) : AliasProg (Option Nat) := Prog.sys (Sys.size f)
def read (f : DataFile) : AliasProg (Option (List UInt8)) := Prog.sys (Sys.read f)
def accessLock (f : DataFile) : AliasProg Bool := Prog.sys (Sys.accessLock f)
def statLock (f : DataFile) : AliasProg (Option Int) := Prog.sys (Sys.statLock f)
def readLock (f : DataFile) : AliasProg (Option Nat) := Prog.sys (Sys.readLock f)
def openLock (f : DataFile) : AliasProg Opened := Prog.sys (Sys.openLock f)
def writeLock (f : DataFile) : AliasProg Bool := Prog.sys (Sys.writeLock f)
def unlinkLock (f : DataFile) (why : LockRemoval) : AliasProg Unit := Prog.sys (Sys.unlinkLock f why)
def touchLock (f : DataFile) : AliasProg Unit := Prog.sys (Sys.touchLock f)
def tmpSize (f : DataFile) (pid : Nat) : AliasProg (Option Nat) := Prog.sys (Sys.tmpSize f pid)
def curl (f : DataFile) : AliasProg Int := Prog.sys (Sys.curl f)
def readTmp (f : DataFile) : AliasProg (Option (List UInt8)) := Prog.sys (Sys.readTmp f)
def renameTmp (f : DataFile) : AliasProg Bool := Prog.sys (Sys.renameTmp f)
def unlinkTmp (f : DataFile) : AliasProg Unit := Prog.sys (Sys.unlinkTmp f)

end AliasProg

def File.read (x : File) (ok : Bool) : Option (List UInt8) :=
  if x.readable && ok then some x.data else none

namespace Fs

def setFile (s : Fs) (f : DataFile) (x : Option File) : Fs :=
  { s with file := Function.update s.file f x }

def setLock (s : Fs) (f : DataFile) (x : Option LockFile) : Fs :=
  { s with lock := Function.update s.lock f x }

def setTmp (s : Fs) (f : DataFile) (p : Nat) (x : Option File) : Fs :=
  { s with tmp := Function.update s.tmp f (Function.update (s.tmp f) p x) }

/-- A call of the process `p`. A lock is written through the descriptor that created it, so that a
lock file of another process, put there meanwhile, stays as it is. -/
def exec (p : Nat) (s : Fs) : (e : Sys) → Outcome → e.Res × Fs
  | .time, o => (o.now, s)
  | .access f, _ => ((s.file f).any File.readable, s)
  | .stat f, _ => ((s.file f).map File.mtime, s)
  | .size f, _ => ((s.file f).map fun x => x.data.length, s)
  | .read f, o => ((s.file f).bind fun x => x.read o.ok, s)
  | .accessLock f, _ => ((s.lock f).isSome, s)
  | .statLock f, _ => ((s.lock f).map LockFile.mtime, s)
  | .readLock f, o => (if o.ok then (s.lock f).bind LockFile.owner else none, s)
  | .openLock f, o =>
    if (s.lock f).isSome then (.exists, s)
    else if o.ok then (.created, s.setLock f (some ⟨p, false, o.now⟩))
    else (.failed, s)
  | .writeLock f, o =>
    if o.ok then
      (true, match s.lock f with
        | some l => if l.creator = p then s.setLock f (some ⟨p, true, o.now⟩) else s
        | none => s)
    else (false, s)
  | .unlinkLock f _, _ => ((), s.setLock f none)
  | .touchLock f, o => ((), s.setLock f ((s.lock f).map fun l => { l with mtime := o.now }))
  | .tmpSize f q, _ => ((s.tmp f q).map fun x => x.data.length, s)
  | .curl f, o => (o.rc, s.setTmp f p (o.left.map fun d => ⟨d, o.now, true⟩))
  | .readTmp f, o => ((s.tmp f p).bind fun x => x.read o.ok, s)
  | .renameTmp f, o =>
    match s.tmp f p with
    | some x => if o.ok then (true, (s.setFile f (some x)).setTmp f p none) else (false, s)
    | none => (false, s)
  | .unlinkTmp f, _ => ((), s.setTmp f p none)

end Fs

end AdnBridge
