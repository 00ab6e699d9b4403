import AuditShell.World.Options
import AuditShell.World.Script.Pattern
import AuditShell.World.Tool.Version
/-!
# Listing directories

`ls` writes the names of files, and the names in directories: one to a line, in columns, in rows, or with
commas between them. All files are taken to be equally old.
-/
namespace AuditShell.World.Tool

open Program

/-- How names are laid out. -/
inductive Layout where
  | lines
  | columns
  | rows
  | commas
  deriving DecidableEq, Repr

/-- What names are sorted by. -/
inductive SortBy where
  | name
  | size
  | ending
  | version
  | width
  deriving DecidableEq, Repr

/-- How names are quoted. -/
inductive NameStyle where
  | plain
  /-- With question marks for what is not printed. -/
  | marked
  | doubleQuoted
  | escaped
  | shell
  | shellAlways
  | singleQuoted
  deriving DecidableEq, Repr

/-- Which marks stand after names. -/
inductive Indicator where
  | none
  /-- A slash after a directory. -/
  | slash
  /-- A star after a program, too. -/
  | all
  deriving DecidableEq, Repr

/-- Which names are shown. -/
inductive Shown where
  /-- Those that do not start with a point. -/
  | visible
  | almostAll
  | all
  deriving DecidableEq, Repr

/-- What is asked of `ls`. -/
structure Listing where
  layout : Layout := .lines
  /-- Whether more than the names is shown. -/
  long : Bool := false
  sortBy : SortBy := .name
  reverse : Bool := false
  dirsFirst : Bool := false
  style : NameStyle := .plain
  indicator : Indicator := .none
  shown : Shown := .visible
  /-- Patterns of names that are left out, and of those that are left out unless all are shown. -/
  ignored : List Bytes := []
  hidden : List Bytes := []
  recursive : Bool := false
  /-- Whether directories are listed like files. -/
  asFiles : Bool := false
  width : Nat := 80
  tab : Nat := 8
  ending : UInt8 := 0x0A

namespace Listing

/-! ## Names -/

/-- A name with backslashes before some bytes and before the letters of what is not printed. -/
def escaped (special : UInt8 → Bool) (b : Bytes) : Bytes :=
  b.flatMap fun x =>
    match Quote.escape? x with
    | some e => text "\\" ++ e
    | none => if special x || x = 0x5C then [0x5C, x] else [x]

/-- A name as it is shown. -/
def nameText (l : Listing) (b : Bytes) : Bytes :=
  match l.style with
  | .plain => b
  | .marked => b.map fun x => if Quote.isPrintable x then x else 0x3F
  | .doubleQuoted => text "\"" ++ escaped (· = 0x22) b ++ text "\""
  | .escaped => escaped (· = 0x20) b
  | .shell => Quote.shell b
  | .shellAlways => Quote.shellAlways b
  | .singleQuoted => Quote.quote b

/-- A name with its mark. -/
def entryText (l : Listing) (name : Bytes) (n : Node) : Bytes :=
  l.nameText name ++ match l.indicator, n with
    | .none, _ => []
    | _, .dir => text "/"
    | .all, .file _ true => text "*"
    | _, .file .. => []

/-- Whether a name matches a pattern. A point at its start has to be matched by a point. -/
def fitsPattern (name pattern : Bytes) : Bool :=
  let p := Script.pattern (Script.unquoted pattern)
  (name.head? ≠ some 0x2E || pattern.head? = some 0x2E) && Script.Glyph.matchesText p name

/-- Whether a name in a directory is left out. -/
def leavesOut (l : Listing) (name : Bytes) : Bool :=
  (l.shown = .visible && name.head? = some 0x2E) || (l.shown = .visible && l.hidden.any (fitsPattern name)) ||
    l.ignored.any (fitsPattern name)

/-! ## Order -/

/-- The size of what stands at a place. -/
def sizeOf : Node → Nat
  | .dir => 4096
  | .file b _ => b.length

/-- The end of a name from its last point on. -/
def endingOf (b : Bytes) : Bytes :=
  if b.elem 0x2E then 0x2E :: (b.reverse.takeWhile (· ≠ 0x2E)).reverse else []

/-- The order of names. -/
def compare (l : Listing) (a b : Bytes × Node) : Ordering :=
  let bytes (a b : Bytes) : Ordering := if a = b then .eq else if Bytes.le a b then .lt else .gt
  let key : Ordering := match l.sortBy with
    | .name => .eq
    | .size => Ord.compare (sizeOf b.2) (sizeOf a.2)
    | .ending => bytes (endingOf a.1) (endingOf b.1)
    | .version => Version.compareNames a.1 b.1
    | .width => Ord.compare (l.nameText a.1).length (l.nameText b.1).length
  let order := key.then (bytes a.1 b.1)
  let order := if l.reverse then order.swap else order
  let rank (n : Node) : Nat := if n = .dir then 0 else 1
  if l.dirsFirst then (Ord.compare (rank a.2) (rank b.2)).then order else order

/-- Names in order. -/
def sorted (l : Listing) (es : List (Bytes × Node)) : List (Bytes × Node) :=
  es.mergeSort fun a b => l.compare a b ≠ .gt

/-! ## Layout -/

/-- Blanks and tabs from one column to another. `fuel` bounds their number. -/
def indent (tab : Nat) : (fuel : Nat) → (first last : Nat) → Bytes
  | 0, _, _ => []
  | fuel + 1, first, last =>
    if last ≤ first then []
    else if tab ≠ 0 && (first + 1) / tab < last / tab then 0x09 :: indent tab fuel (first + tab - first % tab) last
    else 0x20 :: indent tab fuel (first + 1) last

/-- The widths of a number of columns for names of some lengths. -/
def widths (byColumns : Bool) (count : Nat) (lengths : List Nat) : List Nat :=
  let perColumn := (lengths.length + count - 1) / count
  let column (i : Nat) : Nat := if byColumns then i / perColumn else i % count
  ((List.range lengths.length).zip lengths).foldl (fun ws x =>
    let c := column x.1
    ws.modify c fun w => max w (x.2 + if c + 1 = count then 0 else 2)) (List.replicate count 3)

/-- The widths of as many columns as fit a line. -/
def fitting (l : Listing) (byColumns : Bool) (lengths : List Nat) : List Nat :=
  let most := min ((l.width + 2) / 3) lengths.length
  let all := (List.range most).map fun i => widths byColumns (most - i) lengths
  (all.find? fun ws => ws.length ≤ 1 || ws.foldl (· + ·) 0 < l.width || ws = List.replicate ws.length 3).getD [0]

/-- A row of names in columns. -/
def row (l : Listing) : (pos : Nat) → List Bytes → List Nat → Bytes
  | pos, n :: m :: ns, w :: ws => n ++ indent l.tab (w + 1) (pos + n.length) (pos + w) ++ row l (pos + w) (m :: ns) ws
  | _, ns, _ => ns.flatten

/-- Names with commas between them, in lines that are not too wide. -/
def joined (l : Listing) : (pos : Nat) → List Bytes → Bytes
  | _, [] => []
  | _, [n] => n
  | pos, n :: m :: ns =>
    let pos := pos + n.length
    if l.width = 0 || pos + m.length + 2 < l.width then n ++ text ", " ++ joined l (pos + 2) (m :: ns)
    else n ++ text "," ++ [l.ending] ++ joined l 0 (m :: ns)

/-- Names laid out. -/
def render (l : Listing) (ns : List Bytes) : Bytes :=
  let across (rows : List (List Bytes)) (ws : List Nat) : Bytes := rows.flatMap fun r => l.row 0 r ws ++ [l.ending]
  if ns.isEmpty then []
  else
    match l.layout with
    | .lines => ns.flatMap (· ++ [l.ending])
    | .commas => l.joined 0 ns ++ [l.ending]
    | .columns =>
      if l.width = 0 then Bytes.join (text "  ") ns ++ [l.ending]
      else
        let ws := l.fitting true (ns.map List.length)
        let rows := (ns.length + ws.length - 1) / ws.length
        across ((List.range rows).map fun r => (List.range ws.length).filterMap fun c => ns[r + c * rows]?) ws
    | .rows =>
      if l.width = 0 then Bytes.join (text "  ") ns ++ [l.ending]
      else
        let ws := l.fitting false (ns.map List.length)
        let rows := (ns.length + ws.length - 1) / ws.length
        across ((List.range rows).map fun r => (ns.drop (r * ws.length)).take ws.length) ws

/-! ## Directories -/

/-- The names in a directory that are shown, in order. -/
def entries (l : Listing) (d : Disk) (p : Place) : List (Bytes × Node) :=
  let names := (d.names p).filterMap fun n => (d.node? (p ++ [n])).map (n, ·)
  let up := if l.shown = .all then [(text ".", Node.dir), (text "..", .dir)] else []
  l.sorted ((up ++ names).filter fun x => !l.leavesOut x.1)

/-- The text of a directory's listing. -/
def content (l : Listing) (es : List (Bytes × Node)) : Bytes :=
  (if l.long && es.isEmpty then text "total 0\n" else []) ++ l.render (es.map fun x => l.entryText x.1 x.2)

/-- The listings of a directory and of those below it, with the names that they are shown by. `fuel` bounds
the depth. -/
def below (l : Listing) (d : Disk) : (fuel : Nat) → (name : Bytes) → Place → List (Bytes × Bytes)
  | 0, _, _ => []
  | fuel + 1, name, p =>
    let es := l.entries d p
    let under := if name.getLast? = some 0x2F then name else name ++ text "/"
    (name, l.content es) :: if !l.recursive then []
      else es.flatMap fun x =>
        if x.2 = .dir && x.1 ≠ text "." && x.1 ≠ text ".." then below l d fuel (under ++ x.1) (p ++ [x.1]) else []

/-! ## Arguments -/

/-- A count that an option says. -/
def countOf (what : String) (v : Bytes) : Except (Int × Bytes) Nat :=
  match scaled "" v with
  | .ok n => .ok n
  | .error .invalid => .error (2, text what ++ Quote.quote v ++ text "\n")
  | .error .tooLarge => .error (2, text what ++ Quote.quote v ++ text ": Value too large for defined data type\n")

/-- What an option asks for; otherwise the code and the text of the complaint. -/
def option (l : Listing) (o : String × Option Bytes) : Except (Int × Bytes) Listing :=
  let v := o.2.getD []
  let choose {α : Type} [DecidableEq α] (option : String) (choices : List (String × α)) : Except (Int × Bytes) α :=
    (Options.choose option choices v).mapError fun d => (1, d ++ text "\n" ++ hint "ls")
  match o.1 with
  | "a" => .ok { l with shown := .all }
  | "A" => .ok { l with shown := .almostAll }
  | "f" => .ok { l with shown := .all, sortBy := .name }
  | "B" => .ok { l with ignored := text "*~" :: text ".*~" :: l.ignored }
  | "I" => .ok { l with ignored := v :: l.ignored }
  | "hide" => .ok { l with hidden := v :: l.hidden }
  | "C" => .ok { l with layout := .columns, long := false }
  | "x" => .ok { l with layout := .rows, long := false }
  | "m" => .ok { l with layout := .commas, long := false }
  | "1" => .ok (if l.long then l else { l with layout := .lines })
  | "l" | "g" | "n" | "o" => .ok { l with layout := .lines, long := true }
  | "format" => do
    let (layout, long) ← choose "--format" [("verbose", (Layout.lines, true)), ("long", (.lines, true)),
      ("commas", (.commas, false)), ("horizontal", (.rows, false)), ("across", (.rows, false)),
      ("vertical", (.columns, false)), ("single-column", (.lines, false))]
    return { l with layout, long }
  | "d" => .ok { l with asFiles := true }
  | "R" => .ok { l with recursive := true }
  | "r" => .ok { l with reverse := true }
  | "S" => .ok { l with sortBy := .size }
  | "X" => .ok { l with sortBy := .ending }
  | "v" => .ok { l with sortBy := .version }
  | "t" | "U" => .ok { l with sortBy := .name }
  | "sort" => do
    let (sortBy, _) ← choose "--sort" [("none", (SortBy.name, 0)), ("time", (.name, 1)), ("size", (.size, 2)),
      ("extension", (.ending, 3)), ("version", (.version, 4)), ("width", (.width, 5))]
    return { l with sortBy }
  | "group-directories-first" => .ok { l with dirsFirst := true }
  | "F" =>
    if o.2.isNone then .ok { l with indicator := .all }
    else do
      let on ← choose "--classify" [("always", some true), ("yes", some true), ("force", some true),
        ("never", some false), ("no", some false), ("none", some false), ("auto", none), ("tty", none),
        ("if-tty", none)]
      return if on = some true then { l with indicator := .all } else l
  | "p" => .ok { l with indicator := .slash }
  | "file-type" => .ok { l with indicator := .slash }
  | "indicator-style" => do
    let (indicator, _) ← choose "--indicator-style" [("none", (Indicator.none, 0)), ("slash", (.slash, 1)),
      ("file-type", (.slash, 2)), ("classify", (.all, 3))]
    return { l with indicator }
  | "N" => .ok { l with style := .plain }
  | "Q" => .ok { l with style := .doubleQuoted }
  | "b" => .ok { l with style := .escaped }
  | "q" => .ok (if l.style = .plain then { l with style := .marked } else l)
  | "quoting-style" => do
    let (style, _) ← choose "--quoting-style" [("literal", (NameStyle.plain, 0)), ("shell", (.shell, 1)),
      ("shell-always", (.shellAlways, 2)), ("shell-escape", (.shell, 3)), ("shell-escape-always", (.shellAlways, 4)),
      ("c", (.doubleQuoted, 5)), ("c-maybe", (.doubleQuoted, 6)), ("escape", (.escaped, 7)),
      ("locale", (.singleQuoted, 8)), ("clocale", (.doubleQuoted, 9))]
    return { l with style }
  | "w" => do return { l with width := ← countOf "invalid line width: " v }
  | "T" => do return { l with tab := ← countOf "invalid tab size: " v }
  | "zero" => .ok { l with ending := 0, layout := .lines, long := false, style := .plain }
  | _ => .ok l

/-- The options of `ls`. -/
def options : Options where
  bare := "abcdfghiklmnopqrstuvxABCDFGHLNQRSUXZ1"
  valued := "IwT"
  long := [.bare "all" "a", .bare "escape" "b", .bare "directory" "d", .bare "dired" "D", .bare "full-time" "l",
    .bare "group-directories-first" "group-directories-first", .bare "human-readable" "h", .bare "inode" "i",
    .bare "kibibytes" "k", .bare "numeric-uid-gid" "n", .bare "no-group" "G", .bare "hide-control-chars" "q",
    .bare "reverse" "r", .bare "size" "s", .valued "width" "w", .bare "almost-all" "A", .bare "ignore-backups" "B",
    .optional "classify" "F", .bare "file-type" "file-type", .bare "si" "si", .bare "dereference-command-line" "H",
    .bare "dereference-command-line-symlink-to-dir" "dereference-command-line-symlink-to-dir", .valued "hide" "hide",
    .valued "ignore" "I", .valued "indicator-style" "indicator-style", .bare "dereference" "L", .bare "literal" "N",
    .bare "quote-name" "Q", .valued "quoting-style" "quoting-style", .bare "recursive" "R",
    .valued "format" "format", .bare "show-control-chars" "show-control-chars", .valued "sort" "sort",
    .valued "tabsize" "T", .valued "time" "time", .valued "time-style" "time-style", .bare "zero" "zero",
    .optional "color" "color", .optional "hyperlink" "hyperlink", .valued "block-size" "block-size",
    .bare "context" "Z", .bare "author" "author"] ++ Options.common

/-- What arguments ask for, with the operands; otherwise the code and the text of the complaint. -/
def ofArguments (args : List Bytes) : Except (Int × Bytes) (Listing × List Bytes) := do
  let u := options.read args
  let l ← u.given.foldlM option {}
  match u.fault with
  | some d => .error (2, d ++ text "\n" ++ hint "ls")
  | none => return (l, u.operands)

end Listing

/-- Lists the names in directories: first what cannot be listed, then the files, then the
directories. -/
def ls (e : Surroundings) (args : List Bytes) : Outcome :=
  match Listing.ofArguments args with
  | .error (code, d) => complains e code (text "ls: " ++ d)
  | .ok (l, given) =>
    let paths := if given.isEmpty then [text "."] else given
    let found := paths.map fun p => (p, e.disk.resolve e.cwd p)
    let failed := found.filterMap fun f => match f.2 with
      | .ok (.missing _ _) => some (f.1, OsError.Cause.notFound)
      | .error c => some (f.1, c)
      | _ => none
    let present := l.sorted (found.filterMap fun f => match f.2 with
      | .ok (.file _ b x) => some (f.1, .file b x)
      | .ok (.dir _) => some (f.1, .dir)
      | _ => none)
    let files := present.filter fun x => l.asFiles || x.2 ≠ .dir
    let dirs := if l.asFiles then [] else (present.filter (·.2 = .dir)).flatMap fun x =>
      match e.disk.resolve e.cwd x.1 with
      | .ok (.dir p) => l.below e.disk (e.disk.nodes.length + 1) x.1 p
      | _ => []
    let titled := l.recursive || paths.length > 1
    let blocks := (if files.isEmpty then [] else [l.render (files.map fun x => l.entryText x.1 x.2)]) ++
      dirs.map fun d => (if titled then l.nameText d.1 ++ text ":\n" else []) ++ d.2
    let said := failed.map fun f =>
      (Stream.err, text "ls: cannot access " ++ Quote.shellAlways f.1 ++ text ": " ++ causeWords f.2 ++ text "\n")
    { writes := said ++ [(.out, Bytes.join (text "\n") blocks)]
      disk := e.disk
      ended := .code (if failed.isEmpty then 0 else 2) }

end AuditShell.World.Tool
