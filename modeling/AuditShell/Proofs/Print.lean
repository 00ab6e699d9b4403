import AuditShell.Proofs.Scan
import AuditShell.Tree.Parse
import AuditShell.Tree.Print
import Mathlib.Data.List.Basic
/-!
# How a written tree is scanned

`scan_render`: the written form of a tree is cut into the lexemes of its parts (`treeLexemes`),
wherever the words can be written at all: a word that holds both quotes has no written form.
`shapes_tree` and `shapes_tree_survive` compare the tokens of these lexemes with the words of the
tree. A word comes out as one token if it is written in quotes or has no white space (`Survives`), and no
word that comes out fails this.
-/
namespace AuditShell

/-- The words and file names of a command. -/
def Command.texts (c : Command) : List Bytes := c.words ++ c.redirects.map (·.path)

/-- The command has a name, and redirects of the known kinds only. -/
def Command.WellFormed (c : Command) : Prop := c.words ≠ [] ∧ ∀ r ∈ c.redirects, r.kind.isKnown = true

namespace Tree

/-- The words and file names of a tree. -/
def texts (t : Tree) : List Bytes := t.pipelines.flatMap fun p => p.flatMap Command.texts

/-- The tree is what a line runs: one pipeline or a sequence of at least two, all of commands. -/
def WellFormed (t : Tree) : Prop :=
  (∀ p ∈ t.pipelines, p ≠ [] ∧ ∀ c ∈ p, c.WellFormed) ∧ t.pipelines ≠ [] ∧ t = ofPipelines t.pipelines

/-! ## Words -/

/-- A word that can be written: it is text, and one of the quotes does not occur in it. -/
def Writable (w : Bytes) : Prop := ∃ cs, w = Utf8.encode cs ∧ ('\'' ∉ cs ∨ '"' ∉ cs)

/-- A word that reads back: it is written in quotes, or it has no white space. -/
def Survives (w : Bytes) : Prop :=
  (∃ c ∈ Utf8.decode w, needsQuotes c = true) ∨ ∀ c ∈ Utf8.decode w, isBlank c = false

theorem survives_iff {w : Bytes} :
    Survives w ↔ ((Utf8.decode w).any needsQuotes || (Utf8.decode w).all (!isBlank ·)) = true := by
  simp [Survives]

instance : DecidablePred Survives := fun _ => decidable_of_iff _ survives_iff.symm

/-- A rest of a line that ends a bare word. -/
def Boundary (rest : List Char) : Prop := ∀ c, rest.head? = some c → ¬ IsBare c

/-- The text is cut into the lexemes wherever bare words may end after it. -/
def Prints (ls : List Lexeme) (b : Bytes) : Prop :=
  ∃ cs, b = Utf8.encode cs ∧ ∀ rest, Boundary rest → Cuts ls (cs ++ rest) rest

/-- The quote that a word is written in. -/
def quoteOf (cs : List Char) : Char := if '\'' ∈ cs then '"' else '\''

/-- The lexemes of a written word. -/
def wordLexemes (w : Bytes) : List Lexeme :=
  let cs := Utf8.decode w
  if cs = [] ∨ cs.any needsQuotes then [.region (quoteOf cs) cs true] else lexemes cs

theorem isQuote_quoteOf (cs : List Char) : IsQuote (quoteOf cs) := by
  unfold quoteOf
  split
  · exact .inl rfl
  · exact .inr rfl

theorem quoteOf_not_mem {cs : List Char} (h : '\'' ∉ cs ∨ '"' ∉ cs) : quoteOf cs ∉ cs := by
  unfold quoteOf
  split
  next hm => exact h.resolve_left fun hn => hn hm
  next hm => exact hm

theorem mem_quote (cs : List Char) : (Utf8.encode cs).elem 0x27 = true ↔ '\'' ∈ cs := by
  rw [List.elem_iff, Utf8.mem_encode (by decide)]
  rfl

theorem encode_eq_nil {cs : List Char} : Utf8.encode cs = [] ↔ cs = [] := by
  rw [← Utf8.decode_eq_nil, Utf8.decode_encode]

theorem writeWord_encode (cs : List Char) :
    writeWord (Utf8.encode cs) =
      Utf8.encode (if cs = [] ∨ cs.any needsQuotes then quoteOf cs :: cs ++ [quoteOf cs] else cs) := by
  unfold writeWord
  rw [Utf8.decode_encode]
  by_cases hnil : cs = []
  · subst hnil
    rfl
  · have hempty : (Utf8.encode cs).isEmpty = false := by
      rw [List.isEmpty_eq_false_iff]
      exact fun h => hnil (encode_eq_nil.mp h)
    simp only [hempty, hnil, false_or, if_false, Bool.false_eq_true]
    split
    · by_cases hq : '\'' ∈ cs
      · rw [if_pos ((mem_quote cs).mpr hq), quoteOf, if_pos hq]
        simp [text]
      · rw [if_neg (fun h => hq ((mem_quote cs).mp h)), quoteOf, if_neg hq]
        simp [text]
    · rfl

theorem not_reserved_of {c : Char} (h : needsQuotes c = false) : c ∉ special ∧ c ∉ forbidden := by
  have hr : isReserved c ≠ true := by
    intro hr
    rw [needsQuotes, hr] at h
    cases h
  rw [← not_or]
  exact fun h => hr (isReserved_iff.mpr h)

theorem boundary_append {cs rest : List Char} (h : Boundary cs) (hrest : Boundary rest) : Boundary (cs ++ rest) := by
  cases cs with
  | nil => exact hrest
  | cons c cs => exact h

/-- Without operators and quotes, cutting does not depend on what follows. -/
theorem before_append {l : Lexeme} {cs rest : List Char} (h : l.Before cs) (hl : ∀ c ∈ l.chars, c ∉ special)
    (hrest : Boundary rest) : l.Before (cs ++ rest) := by
  cases h with
  | blank h => exact .blank h
  | word hne hcs hend => exact .word hne hcs (boundary_append hend hrest)
  -- only white space and bare words are left: the other lexemes have a character that is excluded
  | closed hq _ => exact absurd hq.mem_special (hl _ (by simp [Lexeme.chars]))
  | unclosed hq _ => exact absurd hq.mem_special (hl _ (by simp [Lexeme.chars]))
  | _ => exact absurd (by decide) (hl _ List.mem_cons_self)

theorem cuts_append {ls : List Lexeme} {cs tail rest : List Char} (h : Cuts ls cs tail) (htail : tail = [])
    (hcs : ∀ c ∈ cs, c ∉ special) (hrest : Boundary rest) : Cuts ls (cs ++ rest) rest := by
  induction h with
  | nil =>
    subst htail
    exact .nil
  | @cons l ls cs tail hl _ ih =>
    rw [List.append_assoc]
    refine .cons (before_append hl (fun c hc => hcs c (List.mem_append_left _ hc)) hrest) (ih htail ?_)
    exact fun c hc => hcs c (List.mem_append_right _ hc)

/-- A line without reserved characters is cut to its end. -/
theorem cuts_lexemes {cs : List Char} (h : ∀ c ∈ cs, c ∉ forbidden) : Cuts (lexemes cs) cs [] := by
  obtain ⟨ls, tail, hcuts, rfl | ⟨c, rest, rfl, hc⟩⟩ := exists_cuts cs
  · have hls : lexemes cs = ls := by rw [hcuts.lexemes_eq]; exact List.append_nil ls
    rwa [hls]
  · refine absurd hc (h c ?_)
    rw [hcuts.line_eq]
    simp

/-- A written word is cut into its lexemes. -/
theorem prints_word {w : Bytes} (h : Writable w) : Prints (wordLexemes w) (writeWord w) := by
  obtain ⟨cs, rfl, hquote⟩ := h
  refine ⟨_, writeWord_encode cs, fun rest hrest => ?_⟩
  rw [wordLexemes, Utf8.decode_encode]
  split
  · have hbefore : Lexeme.Before (.region (quoteOf cs) cs true) rest :=
      .closed (isQuote_quoteOf cs) (quoteOf_not_mem hquote)
    exact .cons hbefore .nil
  next hcs =>
    have hplain : ∀ c ∈ cs, c ∉ special ∧ c ∉ forbidden := by
      intro c hc
      refine not_reserved_of (Bool.eq_false_iff.mpr fun hq => hcs (.inr ?_))
      exact List.any_eq_true.mpr ⟨c, hc, hq⟩
    exact cuts_append (cuts_lexemes fun c hc => (hplain c hc).2) rfl (fun c hc => (hplain c hc).1) hrest

/-! ## The tokens of words -/

/-- What a token is without its position. -/
def shape (t : Token) : Token.Kind × Bytes := (t.kind, t.word)

/-- The tokens of lexemes without their positions. -/
def shapes (ls : List Lexeme) : List (Token.Kind × Bytes) := ls.filterMap fun l => (l.token? 0).map shape

theorem shapes_tokensAt (pos : Nat) (ls : List Lexeme) : (tokensAt pos ls).map shape = shapes ls := by
  induction ls generalizing pos with
  | nil => rfl
  | cons l ls ih =>
    rw [tokensAt, List.map_append, ih]
    cases l <;> rfl

theorem shapes_append (ls ms : List Lexeme) : shapes (ls ++ ms) = shapes ls ++ shapes ms := List.filterMap_append

/-- A word that survives is one token. -/
theorem shapes_word {w : Bytes} (h : Writable w) (hs : Survives w) : shapes (wordLexemes w) = [(.word, w)] := by
  obtain ⟨cs, rfl, -⟩ := h
  rw [wordLexemes, Survives, Utf8.decode_encode] at *
  split
  · rfl
  next hcs =>
    have hnone : ∀ c ∈ cs, needsQuotes c = false :=
      fun c hc => Bool.eq_false_iff.mpr fun hq => hcs (.inr (List.any_eq_true.mpr ⟨c, hc, hq⟩))
    have hblank : ∀ c ∈ cs, isBlank c = false := by
      rcases hs with ⟨c, hc, hq⟩ | hs
      · rw [hnone c hc] at hq
        cases hq
      · exact hs
    have hbefore : Lexeme.Before (.word cs) [] :=
      .word (fun h => hcs (.inl h)) (fun c hc => ⟨hblank c hc, not_reserved_of (hnone c hc)⟩) (by simp)
    have hlexemes := lexemes_before hbefore
    rw [List.append_nil] at hlexemes
    rw [show lexemes cs = .word cs :: lexemes [] from hlexemes]
    rfl

theorem mem_cuts {ls : List Lexeme} {cs tail : List Char} (h : Cuts ls cs tail) {l : Lexeme} (hl : l ∈ ls) :
    (∃ rest, l.Before rest) ∧ ∀ c ∈ l.chars, c ∈ cs := by
  induction h with
  | nil => cases hl
  | @cons m ls cs tail hm _ ih =>
    rcases List.mem_cons.mp hl with rfl | hl
    · exact ⟨⟨cs, hm⟩, fun c hc => List.mem_append_left _ hc⟩
    · exact ⟨(ih hl).1, fun c hc => List.mem_append_right _ ((ih hl).2 c hc)⟩

/-- Every word that is read from a written word survives. -/
theorem shapes_word_survive {w : Bytes} : ∀ s ∈ shapes (wordLexemes w), Survives s.2 := by
  intro s hs
  unfold wordLexemes at hs
  generalize hcs : Utf8.decode w = cs at hs
  dsimp only at hs
  split at hs
  next h =>
    obtain rfl : s = (.word, Utf8.encode cs) := List.mem_singleton.mp hs
    rw [Survives, Utf8.decode_encode]
    rcases h with rfl | h
    · exact .inr (by simp)
    · exact .inl (List.any_eq_true.mp h)
  next h =>
    have hplain : ∀ c ∈ cs, c ∉ special ∧ c ∉ forbidden := fun c hc =>
      not_reserved_of (Bool.eq_false_iff.mpr fun hq => h (.inr (List.any_eq_true.mpr ⟨c, hc, hq⟩)))
    obtain ⟨l, hl, hshape⟩ := List.mem_filterMap.mp hs
    obtain ⟨⟨rest, hbefore⟩, hchars⟩ := mem_cuts (cuts_lexemes fun c hc => (hplain c hc).2) hl
    have hspecial : ∀ c ∈ l.chars, c ∉ special := fun c hc => (hplain c (hchars c hc)).1
    cases hbefore with
    | blank _ => cases hshape
    | word _ hbare _ =>
      cases hshape
      refine .inr fun c hc => ?_
      rw [shape, Utf8.decode_encode] at hc
      exact (hbare c hc).1
    | closed hq _ => exact absurd hq.mem_special (hspecial _ (by simp [Lexeme.chars]))
    | unclosed hq _ => exact absurd hq.mem_special (hspecial _ (by simp [Lexeme.chars]))
    | _ => exact absurd (by decide) (hspecial _ List.mem_cons_self)

/-! ## Trees as lexemes -/

/-- The operator of a redirect. -/
def operatorOf : Redirect.Kind → Token.Kind
  | .input => .input
  | .append => .append
  | _ => .output

/-- The lexemes of a written redirect. -/
def redirectLexemes (r : Redirect) : List Lexeme :=
  .operator (operatorOf r.kind) :: .blank ' ' :: wordLexemes r.path

/-- The lexemes of a written command. -/
def commandLexemes (c : Command) : List Lexeme :=
  List.intercalate [.blank ' '] (c.words.map wordLexemes ++ c.redirects.map redirectLexemes)

/-- The lexemes of a written pipeline. -/
def pipelineLexemes (p : Pipeline) : List Lexeme :=
  List.intercalate [.blank ' ', .operator .pipe, .blank ' '] (p.map commandLexemes)

/-- The lexemes of a written tree. -/
def treeLexemes (t : Tree) : List Lexeme :=
  List.intercalate [.operator .separator, .blank ' '] (t.pipelines.map pipelineLexemes)

theorem join_eq (sep : Bytes) (bs : List Bytes) : Bytes.join sep bs = List.intercalate sep bs := by
  fun_induction Bytes.join sep bs with
  | case1 => rfl
  | case2 b => exact List.intercalate_singleton.symm
  | case3 b bs hbs ih =>
    cases bs with
    | nil => exact absurd rfl hbs
    | cons c cs => rw [ih, List.intercalate_cons_cons]

/-- A separator: no bare word goes on over its start, and it is cut whatever follows. -/
def Separates (ls : List Lexeme) (b : Bytes) : Prop :=
  ∃ c cs, b = Utf8.encode (c :: cs) ∧ ¬ IsBare c ∧ ∀ rest, Cuts ls (c :: cs ++ rest) rest

theorem cuts_trans {ls ms : List Lexeme} {line mid tail : List Char} (h : Cuts ls line mid) (h' : Cuts ms mid tail) :
    Cuts (ls ++ ms) line tail := by
  induction h with
  | nil => exact h'
  | cons hl _ ih => exact .cons hl (ih h')

/-- Pieces with separators between them are cut one by one. -/
theorem prints_intercalate {ls : List Lexeme} {sep : Bytes} (hsep : Separates ls sep)
    (xs : List (List Lexeme × Bytes)) (h : ∀ x ∈ xs, Prints x.1 x.2) :
    Prints (List.intercalate ls (xs.map (·.1))) (List.intercalate sep (xs.map (·.2))) := by
  obtain ⟨c, cs, rfl, hc, hcuts⟩ := hsep
  induction xs with
  | nil => exact ⟨[], rfl, fun rest _ => .nil⟩
  | cons x xs ih =>
    obtain ⟨ds, hx, hfirst⟩ := h x List.mem_cons_self
    cases xs with
    | nil => exact ⟨ds, by simpa using hx, by simpa using hfirst⟩
    | cons y ys =>
      obtain ⟨es, hys, hrest⟩ := ih fun z hz => h z (List.mem_cons_of_mem _ hz)
      refine ⟨ds ++ (c :: cs) ++ es, ?_, fun rest hend => ?_⟩
      · rw [List.map_cons, List.map_cons, List.intercalate_cons_cons, ← List.map_cons, hx, hys, Utf8.encode_append,
          Utf8.encode_append]
      · rw [List.map_cons, List.map_cons, List.intercalate_cons_cons, ← List.map_cons, List.append_assoc,
          List.append_assoc, List.append_assoc]
        -- a bare word at the end of the piece ends where the separator starts
        refine cuts_trans (hfirst _ ?_) (cuts_trans (hcuts _) (hrest rest hend))
        rintro _ ⟨⟩
        exact hc

theorem not_bare_space : ¬ IsBare ' ' := fun h => absurd h.1 (by decide)

theorem before_space (rest : List Char) : Lexeme.Before (.blank ' ') rest := .blank (by decide)

theorem separates_words : Separates [.blank ' '] (text " ") :=
  ⟨' ', [], rfl, not_bare_space, fun rest => .cons (before_space rest) .nil⟩

theorem separates_commands : Separates [.blank ' ', .operator .pipe, .blank ' '] (text " | ") :=
  ⟨' ', ['|', ' '], rfl, not_bare_space, fun rest =>
    .cons (before_space ('|' :: ' ' :: rest)) (.cons .pipe (.cons (before_space rest) .nil))⟩

theorem separates_pipelines : Separates [.operator .separator, .blank ' '] (text "; ") :=
  ⟨';', [' '], rfl, fun h => absurd h.2.1 (by decide), fun rest => .cons .separator (.cons (before_space rest) .nil)⟩

theorem prints_redirect {r : Redirect} (hk : r.kind.isKnown = true) (h : Writable r.path) :
    Prints (redirectLexemes r) r.render := by
  obtain ⟨cs, hpath, hcuts⟩ := prints_word h
  obtain ⟨kind, path⟩ := r
  dsimp only at hk hpath hcuts
  have hrest : ∀ rest, Boundary rest → Cuts (.blank ' ' :: wordLexemes path) (' ' :: cs ++ rest) rest :=
    fun rest hend => .cons (before_space _) (hcuts rest hend)
  cases kind with
  | input =>
    refine ⟨'<' :: ' ' :: cs, ?_, fun rest hend => .cons .input (hrest rest hend)⟩
    rw [Redirect.render, hpath]
    rfl
  | output =>
    refine ⟨'>' :: ' ' :: cs, ?_, fun rest hend => .cons (.output (by simp)) (hrest rest hend)⟩
    rw [Redirect.render, hpath]
    rfl
  | append =>
    refine ⟨'>' :: '>' :: ' ' :: cs, ?_, fun rest hend => .cons .append (hrest rest hend)⟩
    rw [Redirect.render, hpath]
    rfl
  | other n => cases hk

theorem prints_command {c : Command} (hc : c.WellFormed) (h : ∀ w ∈ c.texts, Writable w) :
    Prints (commandLexemes c) c.render := by
  have hitems := prints_intercalate separates_words
    (c.words.map (fun w => (wordLexemes w, writeWord w)) ++ c.redirects.map fun r => (redirectLexemes r, r.render))
    (by
      intro x hx
      rcases List.mem_append.mp hx with hx | hx
      · obtain ⟨w, hw, rfl⟩ := List.mem_map.mp hx
        exact prints_word (h w (List.mem_append_left _ hw))
      · obtain ⟨r, hr, rfl⟩ := List.mem_map.mp hx
        exact prints_redirect (hc.2 r hr) (h r.path (List.mem_append_right _ (List.mem_map_of_mem hr))))
  rw [commandLexemes, Command.render, join_eq]
  simpa [Function.comp_def] using hitems

theorem prints_pipeline {p : Pipeline} (hp : ∀ c ∈ p, c.WellFormed) (h : ∀ c ∈ p, ∀ w ∈ c.texts, Writable w) :
    Prints (pipelineLexemes p) p.render := by
  have hitems := prints_intercalate separates_commands (p.map fun c => (commandLexemes c, c.render))
    (by
      intro x hx
      obtain ⟨c, hc, rfl⟩ := List.mem_map.mp hx
      exact prints_command (hp c hc) (h c hc))
  rw [pipelineLexemes, Pipeline.render, join_eq]
  simpa [Function.comp_def] using hitems

/-- A written tree is cut into its lexemes. -/
theorem prints_tree {t : Tree} (ht : t.WellFormed) (h : ∀ w ∈ t.texts, Writable w) :
    Prints (treeLexemes t) t.render := by
  have hitems := prints_intercalate separates_pipelines (t.pipelines.map fun p => (pipelineLexemes p, p.render))
    (by
      intro x hx
      obtain ⟨p, hp, rfl⟩ := List.mem_map.mp hx
      refine prints_pipeline (ht.1 p hp).2 fun c hc w hw => h w ?_
      exact List.mem_flatMap.mpr ⟨p, hp, List.mem_flatMap.mpr ⟨c, hc, hw⟩⟩)
  rw [treeLexemes, render, join_eq]
  simpa [Function.comp_def] using hitems

/-- A written tree is scanned as the tokens of its lexemes. -/
theorem scan_render {t : Tree} (ht : t.WellFormed) (h : ∀ w ∈ t.texts, Writable w) :
    ∃ pos, Token.scan t.render = .ok (tokensAt 0 (treeLexemes t) ++ [.ofOperator .finish pos]) := by
  obtain ⟨cs, hcs, hcuts⟩ := prints_tree ht h
  have hline := hcuts [] (by rintro _ ⟨⟩)
  rw [List.append_nil] at hline
  refine ⟨cs.length, ?_⟩
  rw [Token.scan, hcs, Utf8.decode_encode, scanChars_of_cuts hline]
  rfl

/-! ## Reading a written tree -/

/-- The tokens of a redirect without their positions. -/
def redirectShapes (r : Redirect) : List (Token.Kind × Bytes) := [(operatorOf r.kind, []), (.word, r.path)]

/-- The tokens of a command without their positions. -/
def commandShapes (c : Command) : List (Token.Kind × Bytes) :=
  c.words.map (fun w => (.word, w)) ++ c.redirects.flatMap redirectShapes

/-- The tokens of a pipeline without their positions. -/
def pipelineShapes (p : Pipeline) : List (Token.Kind × Bytes) := List.intercalate [(.pipe, [])] (p.map commandShapes)

/-- The tokens of a tree without their positions. -/
def treeShapes (t : Tree) : List (Token.Kind × Bytes) :=
  List.intercalate [(.separator, [])] (t.pipelines.map pipelineShapes)

theorem shapes_intercalate (sep : List Lexeme) (xs : List (List Lexeme)) :
    shapes (List.intercalate sep xs) = List.intercalate (shapes sep) (xs.map shapes) := by
  induction xs with
  | nil => rfl
  | cons x xs ih =>
    cases xs with
    | nil => simp
    | cons y ys =>
      rw [List.intercalate_cons_cons, shapes_append, shapes_append, ih]
      exact List.intercalate_cons_cons.symm

theorem intercalate_nil_eq {α : Type} (xs : List (List α)) : List.intercalate [] xs = xs.flatten := by
  induction xs with
  | nil => rfl
  | cons x xs ih =>
    cases xs with
    | nil => simp
    | cons y ys => rw [List.intercalate_cons_cons, ih, List.append_nil]; rfl

theorem intercalate_cons_eq {α : Type} (sep x : List α) (xs : List (List α)) :
    List.intercalate sep (x :: xs) = x ++ xs.flatMap (sep ++ ·) := by
  induction xs generalizing x with
  | nil => simp
  | cons y ys ih => rw [List.intercalate_cons_cons, ih, List.flatMap_cons, List.append_assoc, List.append_assoc]

theorem shapes_command {c : Command} (h : ∀ w ∈ c.texts, Writable w ∧ Survives w) :
    shapes (commandLexemes c) = commandShapes c := by
  rw [commandLexemes, shapes_intercalate, show shapes [.blank ' '] = [] from rfl, intercalate_nil_eq, List.map_append,
    List.flatten_append, List.map_map, List.map_map, ← List.flatMap_def, ← List.flatMap_def, commandShapes]
  congr 1
  · rw [List.map_eq_flatMap]
    refine List.flatMap_congr fun w hw => ?_
    obtain ⟨hwrite, hs⟩ := h w (List.mem_append_left _ hw)
    exact shapes_word hwrite hs
  · refine List.flatMap_congr fun r hr => ?_
    obtain ⟨hwrite, hs⟩ := h r.path (List.mem_append_right _ (List.mem_map_of_mem hr))
    have hpath := shapes_word hwrite hs
    exact congrArg _ hpath

/-- Where each word survives, the tokens are those of the tree. -/
theorem shapes_tree {t : Tree} (h : ∀ w ∈ t.texts, Writable w ∧ Survives w) :
    shapes (treeLexemes t) = treeShapes t := by
  rw [treeLexemes, treeShapes, shapes_intercalate, List.map_map]
  congr 1
  refine List.map_congr_left fun p hp => ?_
  rw [Function.comp_apply, pipelineLexemes, pipelineShapes, shapes_intercalate, List.map_map]
  congr 1
  refine List.map_congr_left fun c hc => shapes_command fun w hw => h w ?_
  exact List.mem_flatMap.mpr ⟨p, hp, List.mem_flatMap.mpr ⟨c, hc, hw⟩⟩

theorem mem_intercalate {α : Type} {sep : List α} {xs : List (List α)} {a : α} (h : a ∈ List.intercalate sep xs) :
    a ∈ sep ∨ ∃ x ∈ xs, a ∈ x := by
  cases xs with
  | nil => cases h
  | cons x xs =>
    rw [intercalate_cons_eq, List.mem_append, List.mem_flatMap] at h
    rcases h with h | ⟨y, hy, h⟩
    · exact .inr ⟨x, List.mem_cons_self, h⟩
    · exact (List.mem_append.mp h).imp_right fun h => ⟨y, List.mem_cons_of_mem _ hy, h⟩

/-- Whatever the tree, each word that is read from its written form survives. -/
theorem shapes_tree_survive (t : Tree) {s : Token.Kind × Bytes} (hs : s ∈ shapes (treeLexemes t))
    (hk : s.1 = .word) : Survives s.2 := by
  rw [treeLexemes, shapes_intercalate] at hs
  rcases mem_intercalate hs with h | ⟨_, hp, hs⟩
  · rw [List.mem_singleton.mp h] at hk
    cases hk
  obtain ⟨_, hpipeline, rfl⟩ := List.mem_map.mp hp
  obtain ⟨p, -, rfl⟩ := List.mem_map.mp hpipeline
  rw [pipelineLexemes, shapes_intercalate] at hs
  rcases mem_intercalate hs with h | ⟨_, hc, hs⟩
  · rw [List.mem_singleton.mp h] at hk
    cases hk
  obtain ⟨_, hcommand, rfl⟩ := List.mem_map.mp hc
  obtain ⟨c, -, rfl⟩ := List.mem_map.mp hcommand
  rw [commandLexemes, shapes_intercalate] at hs
  rcases mem_intercalate hs with h | ⟨_, hx, hs⟩
  · cases h
  obtain ⟨_, hitem, rfl⟩ := List.mem_map.mp hx
  rcases List.mem_append.mp hitem with hw | hr
  · obtain ⟨w, -, rfl⟩ := List.mem_map.mp hw
    exact shapes_word_survive s hs
  · obtain ⟨r, -, rfl⟩ := List.mem_map.mp hr
    rcases List.mem_cons.mp hs with rfl | hs
    · cases hr : r.kind <;> rw [operatorOf.eq_def, hr] at hk <;> cases hk
    · exact shapes_word_survive s hs

end Tree

end AuditShell
