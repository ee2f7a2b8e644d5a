import AdnBridge.Aliases.Download
import AdnBridge.Lib.Run

namespace AdnBridge
set_option autoImplicit true

/-- The call changes nothing. -/
def Sys.IsRead : Sys → Prop
  | .time | .access _ | .stat _ | .size _ | .read _ | .accessLock _ | .statLock _ | .readLock _
  | .tmpSize _ _ | .readTmp _ => True
  | _ => False

section
variable (e : AliasEnv) (f : DataFile) (p : Nat)

open AliasProg

theorem fileStale_only (staleMinutes : Int) : (fileStale f staleMinutes).Only Sys.IsRead := by
  rw [fileStale]
  split
  next => trivial
  next =>
    refine Prog.Only.bind ⟨trivial, fun _ => trivial⟩ fun r => ?_
    cases r with
    | none => trivial
    | some mtime => exact ⟨trivial, fun _ => trivial⟩

theorem downloadLockStale_only : (downloadLockStale f).Only Sys.IsRead := by
  refine Prog.Only.bind ⟨trivial, fun _ => trivial⟩ fun r => ?_
  cases r with
  | none => trivial
  | some mtime => exact ⟨trivial, fun _ => trivial⟩

theorem peerDownloadActive_only : (peerDownloadActive f).Only Sys.IsRead := by
  refine Prog.Only.bind ⟨trivial, fun _ => trivial⟩ fun r => ?_
  split
  next => exact (downloadLockStale_only f).map not
  next => trivial

theorem stillOwnDownloadLock_only : (stillOwnDownloadLock f p).Only Sys.IsRead :=
  Prog.Only.bind ⟨trivial, fun _ => trivial⟩ fun _ => trivial

theorem peerSize_only (peer : Option Nat) : (peerSize f peer).Only Sys.IsRead := by
  refine Prog.Only.bind ⟨trivial, fun _ => trivial⟩ fun r => ?_
  cases peer with
  | none => trivial
  | some q => exact ⟨trivial, fun _ => trivial⟩

theorem waitEdge_only : (waitEdge f).Only Sys.IsRead := by
  refine (peerDownloadActive_only f).bind fun r => ?_
  split
  next => exact (downloadLockStale_only f).bind fun _ => trivial
  next =>
    refine Prog.Only.bind ⟨trivial, fun _ => trivial⟩ fun r => ?_
    split
    next => trivial
    next => exact (downloadLockStale_only f).bind fun _ => trivial

theorem waitPolls_only (peer : Option Nat) (n : Nat) (deadline lastProgress lastSize : Int) :
    (waitPolls f peer n deadline lastProgress lastSize).Only Sys.IsRead := by
  induction n generalizing deadline lastProgress lastSize with
  | zero => trivial
  | succ n ih =>
    refine Prog.Only.bind ⟨trivial, fun _ => trivial⟩ fun now => ?_
    split
    next =>
      refine (peerDownloadActive_only f).bind fun r => ?_
      split
      next =>
        refine (peerSize_only f peer).bind fun sz => ?_
        split
        next => exact ih _ _ _
        next =>
          split
          next => trivial
          next => exact ih _ _ _
      next => exact ⟨trivial, fun _ => trivial⟩
    next => exact waitEdge_only f

theorem waitForPeerDownload_only (fuel : Nat) :
    (waitForPeerDownload f fuel).Only Sys.IsRead := by
  refine Prog.Only.bind ⟨trivial, fun _ => trivial⟩ fun now => ?_
  refine Prog.Only.bind ⟨trivial, fun _ => trivial⟩ fun peer => ?_
  exact (peerSize_only f peer).bind fun sz => waitPolls_only f peer fuel _ _ _

theorem blake2bMatches_only {readFile : AliasProg (Option (List UInt8))}
    (h : readFile.Only Sys.IsRead) (expected : List UInt8) :
    (blake2bMatches e readFile expected).Only Sys.IsRead := by
  rw [blake2bMatches]
  split
  next => trivial
  next =>
    refine h.bind fun r => ?_
    cases r <;> trivial

theorem read_only : (read f).Only Sys.IsRead := ⟨trivial, fun _ => trivial⟩

theorem readTmp_only : (readTmp f).Only Sys.IsRead := ⟨trivial, fun _ => trivial⟩

theorem downloadedValid_only (v : Validate) : (downloadedValid e f v).Only Sys.IsRead := by
  cases v with
  | nothing => trivial
  | anyJson => exact (readTmp_only f).bind fun _ => trivial
  | subscribers => exact (readTmp_only f).bind fun _ => trivial

theorem onDisk_only (expected : List UInt8) : (onDisk e f expected).Only Sys.IsRead := by
  refine Prog.Only.bind ⟨trivial, fun _ => trivial⟩ fun r => ?_
  split
  next => exact blake2bMatches_only e (read_only f) expected
  next => trivial

theorem mismatchOnDisk_only (expected : List UInt8) :
    (mismatchOnDisk e f expected).Only Sys.IsRead := by
  rw [mismatchOnDisk]
  split
  next => trivial
  next =>
    refine Prog.Only.bind ⟨trivial, fun _ => trivial⟩ fun r => ?_
    split
    next => exact (blake2bMatches_only e (read_only f) expected).map not
    next => trivial

theorem wantsDownload_only (staleMinutes : Int) (expected : List UInt8) :
    (wantsDownload e f staleMinutes expected).Only Sys.IsRead := by
  refine Prog.Only.bind ⟨trivial, fun _ => trivial⟩ fun r => ?_
  split
  next =>
    refine (blake2bMatches_only e (read_only f) expected).bind fun ok => ?_
    split
    next => exact fileStale_only f staleMinutes
    next => trivial
  next => exact fileStale_only f staleMinutes

theorem peerResult_only (expected : List UInt8) : (peerResult e f expected).Only Sys.IsRead := by
  refine (mismatchOnDisk_only e f expected).bind fun r => ?_
  split
  next => trivial
  next =>
    refine Prog.Only.bind ⟨trivial, fun _ => trivial⟩ fun r => ?_
    split <;> trivial

end

/-- The processes that share the data directory, each with what is left of its `try_download`. -/
structure Site where
  fs : Fs
  prog : Nat → AliasProg Int

/-- A process calls `try_download` on the file, or its call goes on. -/
inductive DownloadEvent where
  | start (p : Nat) (staleMinutes : Int) (expected : List UInt8) (fuel : Nat)
  | step (p : Nat) (o : Outcome)

namespace Site

def setProg (s : Site) (p : Nat) (m : AliasProg Int) : Site :=
  { s with prog := Function.update s.prog p m }

/-- One process after the other, in any order; a process starts again once it has returned. -/
def step (e : AliasEnv) (f : DataFile) (v : Validate) (s : Site) : DownloadEvent → Site
  | .start p staleMinutes expected fuel =>
    match (s.prog p).result with
    | some _ => s.setProg p (tryDownload e f p staleMinutes v expected fuel)
    | none => s
  | .step p o =>
    let (m, fs) := (s.prog p).advance (Fs.exec p) s.fs o
    { s.setProg p m with fs := fs }

/-- Nobody has called yet. -/
def init (fs : Fs) : Site := ⟨fs, fun _ => pure 0⟩

def machine (e : AliasEnv) (f : DataFile) (v : Validate) (fs : Fs) : Machine Site DownloadEvent :=
  ⟨init fs, fun s ev => some (s.step e f v ev)⟩

/-- The call that the process makes in its next step. -/
def next (s : Site) (p : Nat) : Option Sys :=
  match s.prog p with
  | .call c _ => some c
  | _ => none

variable {e : AliasEnv} {f : DataFile} {v : Validate} {c : Sys} {o : Outcome}

theorem prog_step (s : Site) (p : Nat) (o : Outcome) {k : c.Res → AliasProg Int}
    (h : s.prog p = .call c k) : s.step e f v (.step p o) =
      { s.setProg p (k (s.fs.exec p c o).1) with fs := (s.fs.exec p c o).2 } := by
  rw [step, h]
  rfl

theorem next_call {s : Site} {p : Nat} {k : c.Res → AliasProg Int} (h : s.prog p = .call c k) :
    s.next p = some c := by
  rw [next, h]

theorem step_fs {s : Site} {p : Nat} {k : c.Res → AliasProg Int} (h : s.prog p = .call c k) :
    (s.step e f v (.step p o)).fs = (s.fs.exec p c o).2 := by
  rw [prog_step s p o h]

/-- A process whose program is over, or hangs, does nothing. -/
theorem step_idle {s : Site} {p : Nat} (h : s.next p = none) :
    s.step e f v (.step p o) = s := by
  rw [step]
  cases hk : s.prog p with
  | call c k =>
    rw [next_call hk] at h
    cases h
  | _ =>
    simp only [Prog.advance, setProg]
    rw [← hk, Function.update_eq_self]

end Site

end AdnBridge
