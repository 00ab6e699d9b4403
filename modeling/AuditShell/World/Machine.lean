import AuditShell.Audit.Memory
import AuditShell.Path
import AuditShell.World.Script
/-!
# A contained machine

A world with a disk, a working directory and the programs of `World.Script`, in which a shell can
run without touching anything else. A process does its work when it is waited for; until then a
signal or the end of the line finds it still running.
-/
namespace AuditShell.World

/-- A store of files in memory, by the text of their paths. -/
structure Volume where
  files : List (Bytes × Bytes) := []
  deriving DecidableEq, Repr

namespace Volume

/-- The key of a path. -/
def key (path : Bytes) : Bytes :=
  let p := Path.clean path
  if p = text "." ∨ p = text ".." then text "/" else p

/-- The content of a file. -/
def get? (v : Volume) (k : Bytes) : Option Bytes := (v.files.find? (·.1 = k)).map (·.2)

/-- Stores a file. -/
def put (v : Volume) (k content : Bytes) : Volume :=
  if v.files.any (·.1 = k) then ⟨v.files.map fun f => if f.1 = k then (k, content) else f⟩
  else ⟨v.files ++ [(k, content)]⟩

/-- Whether a path is a directory: the root, or the beginning of a file's path. -/
def isDir (v : Volume) (k : Bytes) : Bool :=
  k = text "/" || v.files.any fun f => (k ++ text "/").isPrefixOf f.1

end Volume

/-- An open file. -/
inductive Handle where
  /-- A file on the disk, written from an offset on or at its end. -/
  | disk (p : Place) (offset : Option Nat)
  /-- A file in the store, written from an offset on. -/
  | memory (key : Bytes) (offset : Nat)
  | null
  | zero
  | dir
  deriving DecidableEq, Repr

/-- A started process. -/
structure Process where
  launch : Launch
  cwd : Place
  killed : Bool := false
  ended : Option Ended := none

/-- Puts bytes over a text from an offset on. -/
def overlay (content : Bytes) (offset : Nat) (b : Bytes) : Bytes :=
  content.take offset ++ List.replicate (offset - content.length) 0 ++ b ++ content.drop (offset + b.length)

end World

/-- A contained world. -/
structure World where
  disk : World.Disk := {}
  cwd : World.Place := []
  /-- Where the files of redirects are kept, if not on the disk. -/
  memory : Option World.Volume := none
  /-- Where the audit log is kept, if not on the disk. -/
  log : Option Audit.MemoryLog := none
  /-- What is left of the shell's standard input. -/
  stdin : Bytes := []
  handles : List (Nat × World.Handle) := []
  pipes : List (Nat × World.Flow) := []
  processes : List (Nat × World.Process) := []
  happenings : List Happening := []
  clock : Instant := .ofUnix 1700000000 0
  /-- The variables that programs are given. -/
  environment : List (Bytes × Bytes) := []

namespace World

/-- The entry with a number. -/
def numbered? {α : Type} (l : List (Nat × α)) (n : Nat) : Option α := (l.find? (·.1 = n)).map (·.2)

/-- Changes the entry with a number. -/
def update {α : Type} (l : List (Nat × α)) (n : Nat) (f : α → α) : List (Nat × α) :=
  l.map fun x => if x.1 = n then (n, f x.2) else x

/-! ## Files -/

/-- The failure of opening a path. -/
def openError (path : Bytes) (c : OsError.Cause) : OsError := .path (text "open") path c

/-- The handle of a device file. -/
def device? (path : Bytes) : Option Handle :=
  if path = text "/dev/null" then some .null else if path = text "/dev/zero" then some .zero else none

/-- Puts an open file under a number. -/
def addHandle (w : World) (file : Nat) (h : Handle) : Option OsError × World :=
  (none, { w with handles := w.handles ++ [(file, h)] })

/-- Opens a file for reading. -/
def openRead (file : Nat) (path : Bytes) (w : World) : Option OsError × World :=
  match w.memory with
  | some v =>
    let k := Volume.key path
    if (v.get? k).isSome then w.addHandle file (.memory k 0)
    else if v.isDir k then w.addHandle file .null
    else (some (openError k .absent), w)
  | none =>
    match device? path with
    | some h => w.addHandle file h
    | none =>
      match w.disk.resolve w.cwd path with
      | .ok (.file p _ _) => w.addHandle file (.disk p none)
      | .ok (.dir _) => w.addHandle file .dir
      | .ok (.missing _ _) => (some (openError path .notFound), w)
      | .error c => (some (openError path c), w)

/-- Opens a file for writing. -/
def openWrite (file : Nat) (append : Bool) (path : Bytes) (w : World) : Option OsError × World :=
  match w.memory with
  | some v =>
    let k := Volume.key path
    match v.get? k with
    | some content =>
      if append then w.addHandle file (.memory k content.length)
      else { w with memory := some (v.put k []) }.addHandle file (.memory k 0)
    | none =>
      if v.isDir k then w.addHandle file .null
      else { w with memory := some (v.put k []) }.addHandle file (.memory k 0)
  | none =>
    match device? path with
    | some h => w.addHandle file h
    | none =>
      match w.disk.resolve w.cwd path with
      | .ok (.file p _ x) =>
        if append then w.addHandle file (.disk p none)
        else { w with disk := w.disk.put p (.file [] x) }.addHandle file (.disk p (some 0))
      | .ok (.missing p false) =>
        { w with disk := w.disk.put p (.file [] false) }.addHandle file (.disk p (if append then none else some 0))
      | .ok (.missing _ true) => (some (openError path .isDirectory), w)
      | .ok (.dir _) => (some (openError path .isDirectory), w)
      | .error c => (some (openError path c), w)

/-- Writes to an open file. -/
def writeFile (file : Nat) (b : Bytes) (w : World) : World :=
  match numbered? w.handles file with
  | some (.disk p offset) =>
    match w.disk.node? p with
    | some (.file content x) =>
      let at' := offset.getD content.length
      { w with
        disk := w.disk.put p (.file (overlay content at' b) x)
        handles := update w.handles file fun _ => .disk p (offset.map (· + b.length)) }
    | _ => w
  | some (.memory k offset) =>
    match w.memory with
    | some v =>
      { w with
        memory := some (v.put k (overlay ((v.get? k).getD []) offset b))
        handles := update w.handles file fun _ => .memory k (offset + b.length) }
    | none => w
  | _ => w

/-! ## Processes -/

/-- Why a program cannot be started, if so. -/
def spawnError? (w : World) (words : List Bytes) : Option OsError :=
  let name := words.headD []
  let failed (path : Bytes) (c : OsError.Cause) : Option OsError := some (.path (text "fork/exec") path c)
  if name = [] then some .noCommand
  else if name = text "/" then some (.other (text "exec: \"/\": is a directory"))
  else if name.elem 0x2F then
    if words.any fun a => a.elem 0 then failed name .invalidArgument
    else if (systemProgram? name).isSome then none
    else
      match w.disk.resolve w.cwd name with
      | .ok (.file _ content true) => if (interpreter? content).isSome then none else failed name .notFound
      | .ok (.file _ _ false) => failed name .permissionDenied
      | .ok (.dir _) => failed name .permissionDenied
      | .ok (.missing _ _) => failed name .notFound
      | .error c => failed name c
  else if programNames.contains name then
    if words.any fun a => a.elem 0 then failed (text "/usr/bin/" ++ name) .invalidArgument else none
  else some (.notInPath name)

/-- Starts a process. -/
def spawn (process : Nat) (l : Launch) (w : World) : Option OsError × World :=
  match w.spawnError? l.words with
  | some e => (some e, w)
  | none => (none, { w with processes := w.processes ++ [(process, { launch := l, cwd := w.cwd })] })

/-- What a process reads. -/
def inputOf (w : World) (p : Process) : Input :=
  match p.launch.stdin with
  | .shell => .flow ⟨w.stdin, none⟩ none
  | .pipe q => .flow ((numbered? w.pipes q).getD {}) none
  | .file f =>
    match numbered? w.handles f with
    | some (.disk place _) => .flow ⟨(w.disk.content? place).getD [], none⟩ (some place)
    | some (.memory k _) => .flow ⟨(w.memory.bind (·.get? k)).getD [], none⟩ none
    | some .zero => .flow ⟨[], some 0⟩ none
    | some .dir => .dir
    | _ => .flow {} none

/-- The place of the file that a process writes to. -/
def outputPlace? (w : World) (p : Process) : Option Place :=
  match p.launch.stdout with
  | .file f =>
    match numbered? w.handles f with
    | some (.disk place _) => some place
    | _ => none
  | _ => none

/-- Passes on a write of a process. -/
def deliver (l : Launch) (w : World) (b : Stream × Bytes) : World :=
  match b.1, l.stdout with
  | .err, _ => { w with happenings := w.happenings ++ [.wrote l.stderr b.2] }
  | .out, .line => { w with happenings := w.happenings ++ [.wrote .out b.2] }
  | .out, .pipe q => { w with pipes := update w.pipes q fun f => { f with bytes := f.bytes ++ b.2 } }
  | .out, .file f => w.writeFile f b.2

/-- How deep scripts may call each other. -/
def scriptDepth : Nat := 50

/-- Lets a process do its work, unless it has been killed or has ended. -/
def finish (process : Nat) (w : World) : Ended × World :=
  match numbered? w.processes process with
  | none => (.code 0, w)
  | some p =>
    match p.ended with
    | some e => (e, w)
    | none =>
      if p.killed then
        (.signal 9, { w with processes := update w.processes process fun p => { p with ended := some (.signal 9) } })
      else
        let e : Surroundings := ⟨w.disk, p.cwd, w.inputOf p, w.outputPlace? p, w.environment⟩
        match runProgram scriptDepth e (p.launch.words.headD []) p.launch.words.tail with
        | none => (.code 127, w)
        | some o =>
          let w := { w with
            disk := o.disk
            stdin := if o.readStdin && p.launch.stdin = .shell then [] else w.stdin
            processes := update w.processes process fun p => { p with ended := some o.ended } }
          let w := o.writes.foldl (deliver p.launch) w
          let w := match o.endless, p.launch.stdout with
            | some b, .pipe q => { w with pipes := update w.pipes q fun f => { f with endless := some b } }
            | _, _ => w
          (o.ended, w)

/-- Kills a process. -/
def kill (process : Nat) (w : World) : World :=
  { w with processes := update w.processes process fun p => { p with killed := true } }

/-- A wait ends by a pending signal, else by the end of the line, else by the end of the process. -/
def wake (process : Nat) : (pending : Option Signal) → (cancelled : Bool) → World → Wake pending cancelled × World
  | some _, _, w => (.signal none, w)
  | none, true, w => (.cancel, w)
  | none, false, w =>
    let (e, w) := w.finish process
    (.exit (.ok e), w)

/-- Changes the working directory. -/
def chdir (path : Bytes) (w : World) : Option OsError × World :=
  let failed (c : OsError.Cause) : Option OsError × World := (some (.path (text "chdir") path c), w)
  match w.disk.resolve w.cwd path with
  | .ok (.dir p) => (none, { w with cwd := p })
  | .ok (.file _ _ _) => failed .notDirectory
  | .ok (.missing _ _) => failed .notFound
  | .error c => failed c

/-- The contained machine. -/
def machine : Machine World where
  openRead := openRead
  openWrite := openWrite
  closeFile file w := { w with handles := w.handles.filter (·.1 ≠ file) }
  makePipe pipe w := (none, { w with pipes := w.pipes ++ [(pipe, {})] })
  closeReader _ w := w
  closeWriter _ w := w
  spawn := spawn
  kill := kill
  reap process w :=
    let (e, w) := w.finish process
    (.ok e, w)
  wake := wake
  chdir := chdir
  cwd w := w.cwd.render
  meanwhile w := (w.happenings, { w with happenings := [] })

/-! ## The audit log -/

/-- Makes the directory of a path on the disk, with those above it; `fuel` bounds how many. -/
def makeParents : (fuel : Nat) → (path : Bytes) → World → Option OsError × World
  | 0, _, w => (none, w)
  | fuel + 1, path, w =>
    let failed (c : OsError.Cause) : Option OsError := some (.path (text "mkdir") path c)
    match w.disk.resolve w.cwd path with
    | .ok (.dir _) => (none, w)
    | .ok (.file _ _ _) => (failed .notDirectory, w)
    | _ =>
      match makeParents fuel (Path.parent path) w with
      | (some e, w) => (some e, w)
      | (none, w) =>
        match w.disk.resolve w.cwd path with
        | .ok (.missing p _) => (none, { w with disk := w.disk.put p .dir })
        | .ok (.dir _) => (none, w)
        | .ok (.file _ _ _) => (failed .notDirectory, w)
        | .error c => (failed c, w)

/-- The content of a file on the disk. -/
def readDisk (path : Bytes) (w : World) : Except OsError Bytes :=
  match w.disk.resolve w.cwd path with
  | .ok (.file _ content _) => .ok content
  | .ok (.dir _) => .error (.path (text "read") path .isDirectory)
  | .ok (.missing _ _) => .error (openError path .notFound)
  | .error c => .error (openError path c)

/-- Adds to a file on the disk. -/
def appendDisk (path t : Bytes) (w : World) : Option Audit.AppendError × World :=
  match w.disk.resolve w.cwd path with
  | .ok (.file p content x) => (none, { w with disk := w.disk.put p (.file (content ++ t) x) })
  | .ok (.missing p false) => (none, { w with disk := w.disk.put p (.file t false) })
  | .ok (.missing _ true) => (some (.opening (openError path .isDirectory)), w)
  | .ok (.dir _) => (some (.opening (openError path .isDirectory)), w)
  | .error c => (some (.opening (openError path c)), w)

/-- The log on the disk, or in memory where the world has one there. -/
def logStore : Audit.LogStore World where
  makeParent path w :=
    match w.log with
    | some l =>
      let (e, l) := Audit.MemoryLog.store.makeParent path l
      (e, { w with log := some l })
    | none => makeParents (path.length + 1) (Path.parent path) w
  read path w :=
    match w.log with
    | some l => Audit.MemoryLog.store.read path l
    | none => readDisk path w
  append path t w :=
    match w.log with
    | some l =>
      let (e, l) := Audit.MemoryLog.store.append path t l
      (e, { w with log := some l })
    | none => appendDisk path t w

end World

end AuditShell
