import AuditShell.Yaml.Token
/-!
# The nodes of a YAML document

`Document.parse?` reads the first document of a text. Anchors are numbered in the order in which they
stand, and an alias names its anchor by number: a node may hold an alias to itself.
-/
namespace AuditShell.Yaml

/-- A node. A tag is given only where the text has one, in its short form. -/
inductive Node where
  | scalar (tag : Option (List Char)) (style : Style) (text : List Char)
  | sequence (items : List Node)
  | mapping (entries : List (Node × Node))
  /-- An alias, the how-manieth of the document it is, and the number of the anchor that it stands for. -/
  | alias (serial : Nat) (name : List Char) (anchor : Nat)
  deriving Repr

instance : Inhabited Node := ⟨.scalar none .plain []⟩

/-- A document: its root, the nodes with an anchor, and the number of tokens that it was read from. -/
structure Document where
  root : Node
  anchors : Array Node
  size : Nat
  deriving Repr

/-- What reading a document needs to know. -/
structure Reading where
  tokens : List Token
  /-- The tag handles of the document. -/
  handles : List (List Char × List Char) := []
  /-- The anchors seen, the last one first. -/
  names : List (List Char × Nat) := []
  anchors : Array Node := #[]
  aliases : Nat := 0

namespace Reading

/-- A step of reading. -/
abbrev Reader := StateT Reading Option

/-- The next token. -/
def peek : Reader Token := do
  match (← get).tokens with
  | t :: _ => return t
  | [] => failure

/-- Passes the next token. -/
def pass : Reader Unit := modify fun s => { s with tokens := s.tokens.tail }

/-- Passes the next token where it is the given one. -/
def accept (t : Token) : Reader Bool := do
  if (← peek) = t then pass; return true else return false

/-- The node that stands where nothing is written. -/
def absent : Node := default

/-- What the tags of the format itself start with. -/
def standardTag : List Char := "tag:yaml.org,2002:".toList

/-- A tag in its short form. -/
def shorten (tag : List Char) : List Char :=
  if standardTag.isPrefixOf tag then '!' :: '!' :: tag.drop standardTag.length else tag

/-- The tag that a handle and a suffix spell. -/
def fullTag (handle suffix : List Char) : Reader (List Char) := do
  if handle = [] then return suffix
  match ((← get).handles).lookup handle with
  | some expansion => return expansion ++ suffix
  | none => failure

/-- Reads the anchor and the tag of a node, in either order. -/
def properties : Reader (Option (List Char) × Option (List Char)) := do
  let anchor? : Reader (Option (List Char)) := do
    match ← peek with
    | .anchor n => pass; return some n
    | _ => return none
  let tag? : Reader (Option (List Char)) := do
    match ← peek with
    | .tag h s => pass; return some (← fullTag h s)
    | _ => return none
  match ← anchor? with
  | some a => return (some a, ← tag?)
  | none =>
    match ← tag? with
    | some t => return (← anchor?, some t)
    | none => return (none, none)

/-- Reserves the number of an anchor. -/
def reserve (name : Option (List Char)) : Reader (Option Nat) := do
  match name with
  | none => return none
  | some n =>
    let i := (← get).anchors.size
    modify fun s => { s with names := (n, i) :: s.names, anchors := s.anchors.push absent }
    return some i

/-- Keeps a node under the number of its anchor. -/
def keep (i : Option Nat) (n : Node) : Reader Node := do
  if let some i := i then modify fun s => { s with anchors := s.anchors.setIfInBounds i n }
  return n

mutual

/-- Reads a node. `block` allows block collections, and `flat` a sequence that is not indented. -/
def node (block flat : Bool) : Nat → Reader Node
  | 0 => failure
  | fuel + 1 => do
    match ← peek with
    | .alias name =>
      pass
      let s ← get
      match s.names.lookup name with
      | none => failure
      | some i =>
        set { s with aliases := s.aliases + 1 }
        return .alias s.aliases name i
    | _ =>
      let (anchor, tag) ← properties
      let i ← reserve anchor
      match ← peek with
      | .dash =>
        if flat then keep i (.sequence (← flatItems fuel))
        else if anchor.isSome ∨ tag.isSome then keep i (.scalar (shortTag tag) .plain [])
        else failure
      | .scalar text style => pass; keep i (.scalar (shortTag tag) style text)
      | .flowSequence => pass; keep i (.sequence (← flowItems true fuel))
      | .flowMapping => pass; keep i (.mapping (← flowEntries true fuel))
      | t =>
        if t = .blockSequence ∧ block then pass; keep i (.sequence (← blockItems fuel))
        else if t = .blockMapping ∧ block then pass; keep i (.mapping (← blockEntries fuel))
        else if anchor.isSome ∨ tag.isSome then keep i (.scalar (shortTag tag) .plain [])
        else failure
where
  /-- The short form of a tag, where it says more than nothing. -/
  shortTag (tag : Option (List Char)) : Option (List Char) :=
    (tag.filter fun t => t ≠ ['!'] ∧ t ≠ []).map shorten

/-- Reads the items of a block sequence and its end. -/
def blockItems : Nat → Reader (List Node)
  | 0 => failure
  | fuel + 1 => do
    if ← accept .dash then
      let t ← peek
      let n ← if t = .dash ∨ t = .blockEnd then pure absent else node true false fuel
      return n :: (← blockItems fuel)
    else if ← accept .blockEnd then return []
    else failure

/-- Reads the items of a sequence that is not indented. -/
def flatItems : Nat → Reader (List Node)
  | 0 => failure
  | fuel + 1 => do
    if ← accept .dash then
      let t ← peek
      let n ← if [.dash, .key, .value, .blockEnd].elem t then pure absent else node true false fuel
      return n :: (← flatItems fuel)
    else return []

/-- Reads the entries of a block mapping and its end. -/
def blockEntries : Nat → Reader (List (Node × Node))
  | 0 => failure
  | fuel + 1 => do
    if ← accept .key then
      let k ← blockPart fuel
      let v ← if ← accept .value then blockPart fuel else pure absent
      return (k, v) :: (← blockEntries fuel)
    else if ← accept .blockEnd then return []
    else failure

/-- Reads the key or the value of an entry in a block mapping. -/
def blockPart : Nat → Reader Node
  | 0 => failure
  | fuel + 1 => do
    if [.key, .value, .blockEnd].elem (← peek) then return absent else node true true fuel

/-- Reads the items of a flow sequence and its end. An item may be a single entry of a mapping. -/
def flowItems (first : Bool) : Nat → Reader (List Node)
  | 0 => failure
  | fuel + 1 => do
    if ← accept .flowSequenceEnd then return []
    if !first then
      if !(← accept .comma) then failure
    if ← accept .key then
      let k ← (do
        if [.value, .comma, .flowSequenceEnd].elem (← peek) then pass; return absent
        else node false false fuel)
      let v ← if ← accept .value then flowPart .flowSequenceEnd fuel else pure absent
      return .mapping [(k, v)] :: (← flowItems false fuel)
    else if ← accept .flowSequenceEnd then return []
    else
      let n ← node false false fuel
      return n :: (← flowItems false fuel)

/-- Reads the entries of a flow mapping and its end. -/
def flowEntries (first : Bool) : Nat → Reader (List (Node × Node))
  | 0 => failure
  | fuel + 1 => do
    if ← accept .flowMappingEnd then return []
    if !first then
      if !(← accept .comma) then failure
    if ← accept .key then
      let k ← (do
        if [.value, .comma, .flowMappingEnd].elem (← peek) then return absent else node false false fuel)
      let v ← if ← accept .value then flowPart .flowMappingEnd fuel else pure absent
      return (k, v) :: (← flowEntries false fuel)
    else if ← accept .flowMappingEnd then return []
    else
      let k ← node false false fuel
      return (k, absent) :: (← flowEntries false fuel)

/-- Reads a value in a flow collection, which may be absent. -/
def flowPart (close : Token) : Nat → Reader Node
  | 0 => failure
  | fuel + 1 => do
    let t ← peek
    if t = .comma ∨ t = close then return absent else node false false fuel

end

/-- Reads the directives of a document: at most one version, which is 1.1, and each handle once. -/
def directives : Nat → Bool → Reader Unit
  | 0, _ => failure
  | fuel + 1, versioned => do
    match ← peek with
    | .version major minor =>
      if versioned ∨ major ≠ 1 ∨ minor ≠ 1 then failure
      pass
      directives fuel true
    | .tagDirective handle expansion =>
      let s ← get
      if (s.handles.lookup handle).isSome then failure
      set { s with handles := (handle, expansion) :: s.handles }
      pass
      directives fuel versioned
    | _ => return ()

/-- Reads a document, or nothing where the text holds none. -/
def document : Reader (Option Node) := do
  let fuel := 4 * (← get).tokens.length + 8
  match ← peek with
  | .streamEnd => return none
  | _ =>
    let explicit := match ← peek with
      | .version .. | .tagDirective .. | .documentStart => true
      | _ => false
    directives fuel false
    modify fun s => { s with handles := s.handles ++ [(['!'], ['!']), (['!', '!'], standardTag)] }
    if explicit then
      if !(← accept .documentStart) then failure
      let bare := match ← peek with
        | .version .. | .tagDirective .. | .documentStart | .documentEnd | .streamEnd => true
        | _ => false
      let root ← if bare then pure absent else node true false fuel
      discard peek
      return some root
    else
      let root ← node true false fuel
      discard peek
      return some root

end Reading

namespace Document

/-- The first document of a text: `none` where the text is malformed, `some none` where it is empty. -/
def parse? (bs : Bytes) : Option (Option Document) := do
  let cs ← characters bs
  let tokens := Token.scan cs
  let (root, s) ← Reading.document.run { tokens }
  return root.map fun r => ⟨r, s.anchors, tokens.length⟩

end Document

end AuditShell.Yaml
