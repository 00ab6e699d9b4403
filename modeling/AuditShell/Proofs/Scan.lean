import AuditShell.Token.Scan
import AuditShell.Proofs.Text
import Mathlib.Data.List.TakeWhile
/-!
# The lexical grammar of a line

`Lexeme.Before` says which lexemes there are, each with what may follow it, and `Cuts` how they make up a
line. `StrayAt` says where a line has a character that starts no token outside its quoted regions.
`scan_spec`: a line without such a character is cut in one way, and its tokens are the lexemes that
are not white space; a line with one is refused at the first.

Both directions meet in `Lexeme.first`: what may stand first in a line is what is found there
(`Lexeme.Before.first_eq`), and what is found may stand there (`Lexeme.first_cases`).
-/
namespace AuditShell

/-! ## The lexical grammar -/

/-- The characters that start no token. -/
def forbidden : List Char := ['$', '\\', '#', '=', '[', ']', '!', '\x7b', '\x7d', '(', ')', '*', '?', '~', '&']

/-- The characters of operators and quotes. -/
def special : List Char := ['|', '<', ';', '>', '"', '\'']

/-- A character of a bare word: neither white space nor reserved. -/
def IsBare (c : Char) : Prop := isBlank c = false ∧ c ∉ special ∧ c ∉ forbidden

/-- A quote character. -/
def IsQuote (c : Char) : Prop := c = '"' ∨ c = '\''

instance (c : Char) : Decidable (IsQuote c) := inferInstanceAs (Decidable (_ ∨ _))

/-- The lexemes that may stand before a rest of a line. -/
inductive Lexeme.Before : Lexeme → List Char → Prop where
  | blank {c : Char} {rest : List Char} (h : isBlank c = true) : Before (.blank c) rest
  | pipe {rest : List Char} : Before (.operator .pipe) rest
  | input {rest : List Char} : Before (.operator .input) rest
  | separator {rest : List Char} : Before (.operator .separator) rest
  | append {rest : List Char} : Before (.operator .append) rest
  | output {rest : List Char} (h : rest.head? ≠ some '>') : Before (.operator .output) rest
  | word {cs rest : List Char} (hne : cs ≠ []) (hcs : ∀ c ∈ cs, IsBare c)
      (hrest : ∀ c, rest.head? = some c → ¬ IsBare c) : Before (.word cs) rest
  | closed {q : Char} {cs rest : List Char} (hq : IsQuote q) (hcs : q ∉ cs) : Before (.region q cs true) rest
  | unclosed {q : Char} {cs : List Char} (hq : IsQuote q) (hcs : q ∉ cs) : Before (.region q cs false) []

/-- The lexemes of a line up to a rest of it. -/
inductive Cuts : List Lexeme → List Char → List Char → Prop where
  | nil {tail : List Char} : Cuts [] tail tail
  | cons {l : Lexeme} {ls : List Lexeme} {rest tail : List Char} (h : l.Before rest) (hs : Cuts ls rest tail) :
      Cuts (l :: ls) (l.chars ++ rest) tail

/-- The token of a lexeme at a position; white space has none. -/
def Lexeme.token? (pos : Nat) : Lexeme → Option Token
  | .operator k => some ⟨k, [], pos⟩
  | .word cs => some ⟨.word, Utf8.encode cs, pos⟩
  | .region _ cs _ => some ⟨.word, Utf8.encode cs, pos⟩
  | _ => none

/-- The tokens of lexemes of which the first is at a position. -/
def tokensAt : (pos : Nat) → List Lexeme → List Token
  | _, [] => []
  | pos, l :: ls => (l.token? pos).toList ++ tokensAt (pos + l.chars.length) ls

/-- The quote that is open after one more character. -/
def quoteStep : Option Char → Char → Option Char
  | none, c => if c = '"' ∨ c = '\'' then some c else none
  | some q, c => if c = q then none else some q

/-- The quote that is open at the end of a text. -/
def openQuote (cs : List Char) : Option Char := cs.foldl quoteStep none

/-- A character that starts no token stands outside quotes. -/
def StrayAt (cs : List Char) (i : Nat) (c : Char) : Prop :=
  cs[i]? = some c ∧ c ∈ forbidden ∧ openQuote (cs.take i) = none

/-! ## Character classes -/

theorem reserved_perm : reserved.Perm (special ++ forbidden) := by decide

theorem isReserved_iff {c : Char} : isReserved c = true ↔ c ∈ special ∨ c ∈ forbidden := by
  rw [isReserved, List.contains_iff_mem, reserved_perm.mem_iff, List.mem_append]

theorem isWordChar_iff {c : Char} : isWordChar c = true ↔ IsBare c := by
  unfold isWordChar IsBare
  rw [Bool.and_eq_true, Bool.not_eq_true', Bool.not_eq_true', ← Bool.not_eq_true (isReserved c), isReserved_iff,
    not_or]

theorem special_not_blank : ∀ c ∈ special, isBlank c = false := by
  simp [special, isBlank]

theorem forbidden_not_blank : ∀ c ∈ forbidden, isBlank c = false := by
  simp [forbidden, isBlank]

theorem special_not_forbidden : ∀ c ∈ special, c ∉ forbidden := by
  simp [special, forbidden]

theorem IsQuote.mem_special {q : Char} (h : IsQuote q) : q ∈ special := by
  rcases h with rfl | rfl <;> decide

/-- Every character is of one of these classes. -/
theorem char_cases (c : Char) : isBlank c = true ∨ c ∈ special ∨ c ∈ forbidden ∨ IsBare c := by
  unfold IsBare
  by_cases hb : isBlank c = true
  · exact .inl hb
  · by_cases hs : c ∈ special
    · exact .inr (.inl hs)
    · by_cases hf : c ∈ forbidden
      · exact .inr (.inr (.inl hf))
      · exact .inr (.inr (.inr ⟨by simpa using hb, hs, hf⟩))

/-! ## The first lexeme -/

namespace Lexeme

theorem takeWhile_append {p : Char → Bool} {cs rest : List Char} (hcs : ∀ c ∈ cs, p c = true)
    (hrest : ∀ c, rest.head? = some c → p c = false) : (cs ++ rest).takeWhile p = cs := by
  rw [List.takeWhile_append_of_pos hcs]
  cases rest with
  | nil => simp
  | cons c rest => simp [hrest c rfl]

theorem head_dropWhile (p : Char → Bool) (cs : List Char) :
    ∀ c, (cs.dropWhile p).head? = some c → p c = false := by
  intro c hc
  have h := List.head?_dropWhile_not p cs
  rw [hc] at h
  exact h

theorem first_blank {c : Char} (h : isBlank c = true) (rest : List Char) : first c rest = .blank c := by
  simp [first, h]

theorem first_output (rest : List Char) :
    first '>' rest = .operator (if rest.head? = some '>' then .append else .output) := rfl

theorem first_quote {q : Char} (h : IsQuote q) (rest : List Char) :
    first q rest = .region q (rest.takeWhile (· ≠ q)) ((rest.takeWhile (· ≠ q)).length < rest.length) := by
  rcases h with rfl | rfl <;> rfl

theorem first_forbidden {c : Char} (h : c ∈ forbidden) (rest : List Char) : first c rest = .stray c := by
  have hb := forbidden_not_blank c h
  have hs : c ∉ special := fun hs => special_not_forbidden c hs h
  have hr : isReserved c = true := isReserved_iff.mpr (.inr h)
  simp only [special, List.mem_cons, List.not_mem_nil, or_false, not_or] at hs
  simp [first, hb, hs, hr]

theorem first_bare {c : Char} (h : IsBare c) (rest : List Char) :
    first c rest = .word (c :: rest.takeWhile isWordChar) := by
  obtain ⟨hb, hs, hf⟩ := h
  have hr : isReserved c = false := by
    rw [← Bool.not_eq_true, isReserved_iff]
    exact fun h => h.elim hs hf
  simp only [special, List.mem_cons, List.not_mem_nil, or_false, not_or] at hs
  simp [first, hb, hs, hr]

/-- A lexeme of the grammar is what its line starts with. -/
theorem Before.first_eq {l : Lexeme} {rest : List Char} (h : l.Before rest) :
    ∃ c cs, l.chars = c :: cs ∧ first c (cs ++ rest) = l := by
  cases h with
  | @blank c _ h => exact ⟨c, [], rfl, first_blank h rest⟩
  | pipe => exact ⟨'|', [], rfl, rfl⟩
  | input => exact ⟨'<', [], rfl, rfl⟩
  | separator => exact ⟨';', [], rfl, rfl⟩
  | append => exact ⟨'>', ['>'], rfl, rfl⟩
  | output h => exact ⟨'>', [], rfl, by rw [List.nil_append, first_output, if_neg h]⟩
  | @word cs _ hne hcs hrest =>
    cases cs with
    | nil => exact absurd rfl hne
    | cons c cs =>
      refine ⟨c, cs, rfl, ?_⟩
      rw [first_bare (hcs c List.mem_cons_self), takeWhile_append]
      · exact fun d hd => isWordChar_iff.mpr (hcs d (List.mem_cons_of_mem _ hd))
      · exact fun d hd => by simpa using mt isWordChar_iff.mp (hrest d hd)
  | @closed q cs _ hq hcs =>
    refine ⟨q, cs ++ [q], rfl, ?_⟩
    have ht : (cs ++ [q] ++ rest).takeWhile (· ≠ q) = cs := by
      rw [List.append_assoc]
      exact takeWhile_append (fun c hc => by simpa using fun he : c = q => hcs (he ▸ hc)) (by simp)
    rw [first_quote hq, ht]
    simp
  | @unclosed q cs hq hcs =>
    refine ⟨q, cs, by simp [chars], ?_⟩
    have ht : (cs ++ []).takeWhile (· ≠ q) = cs :=
      takeWhile_append (fun c hc => by simpa using fun he : c = q => hcs (he ▸ hc)) (by simp)
    rw [first_quote hq, ht]
    simp

theorem region_before {q : Char} (hq : IsQuote q) (rest : List Char) :
    ∃ tail, q :: rest = (first q rest).chars ++ tail ∧ (first q rest).Before tail := by
  have hnot : q ∉ rest.takeWhile (· ≠ q) := fun h => by simpa using List.mem_takeWhile_imp h
  have hrest := List.takeWhile_append_dropWhile (p := (· ≠ q)) (l := rest)
  have hhead := head_dropWhile (fun c => decide (c ≠ q)) rest
  rw [first_quote hq]
  generalize rest.takeWhile (· ≠ q) = cs at hnot hrest ⊢
  generalize rest.dropWhile (· ≠ q) = tail at hrest hhead
  subst hrest
  cases tail with
  | nil =>
    rw [List.append_nil, show decide (cs.length < cs.length) = false by simp]
    exact ⟨[], by simp [chars], .unclosed hq hnot⟩
  | cons c tail =>
    obtain rfl : c = q := by simpa using hhead c rfl
    rw [show decide (cs.length < (cs ++ c :: tail).length) = true by simp]
    exact ⟨tail, by simp [chars], .closed hq hnot⟩

/-- What a line starts with is a lexeme of the grammar, unless it is a character that starts none. -/
theorem first_cases (c : Char) (rest : List Char) :
    (∃ tail, c :: rest = (first c rest).chars ++ tail ∧ (first c rest).Before tail) ∨
      first c rest = .stray c ∧ c ∈ forbidden := by
  rcases char_cases c with h | h | h | h
  · rw [first_blank h]
    exact .inl ⟨rest, rfl, .blank h⟩
  · simp only [special, List.mem_cons, List.not_mem_nil, or_false] at h
    rcases h with rfl | rfl | rfl | rfl | rfl | rfl
    · exact .inl ⟨rest, rfl, .pipe⟩
    · exact .inl ⟨rest, rfl, .input⟩
    · exact .inl ⟨rest, rfl, .separator⟩
    · rw [first_output]
      split
      next h =>
        obtain ⟨tail, rfl⟩ : ∃ tail, rest = '>' :: tail := by
          cases rest with
          | nil => cases h
          | cons d tail => exact ⟨tail, by cases h; rfl⟩
        exact .inl ⟨tail, rfl, .append⟩
      next h => exact .inl ⟨rest, rfl, .output h⟩
    · exact .inl (region_before (.inl rfl) rest)
    · exact .inl (region_before (.inr rfl) rest)
  · exact .inr ⟨first_forbidden h rest, h⟩
  · rw [first_bare h]
    refine .inl ⟨rest.dropWhile isWordChar, ?_, .word (by simp) ?_ ?_⟩
    · simp [chars]
    · intro d hd
      rcases List.mem_cons.mp hd with rfl | hd
      · exact h
      · exact isWordChar_iff.mp (List.mem_takeWhile_imp hd)
    · intro d hd hbare
      have hnot := head_dropWhile isWordChar rest d hd
      rw [isWordChar_iff.mpr hbare] at hnot
      cases hnot

end Lexeme

/-! ## Cutting a line -/

theorem lexemesFrom_append (cs rest : List Char) : lexemesFrom cs.length (cs ++ rest) = lexemes rest := by
  induction cs with
  | nil => rfl
  | cons c cs ih => simpa [lexemesFrom] using ih

theorem lexemes_before {l : Lexeme} {rest : List Char} (h : l.Before rest) :
    lexemes (l.chars ++ rest) = l :: lexemes rest := by
  obtain ⟨c, cs, hl, hfirst⟩ := h.first_eq
  rw [hl, List.cons_append, lexemes, lexemesFrom, hfirst, hl]
  exact congrArg _ (lexemesFrom_append cs rest)

theorem lexemes_stray {c : Char} (h : c ∈ forbidden) (rest : List Char) :
    lexemes (c :: rest) = .stray c :: lexemes rest := by
  rw [lexemes, lexemesFrom, Lexeme.first_forbidden h]
  rfl

/-- The lexemes of a cut line are those that are found. -/
theorem Cuts.lexemes_eq {ls : List Lexeme} {line tail : List Char} (h : Cuts ls line tail) :
    lexemes line = ls ++ lexemes tail := by
  induction h with
  | nil => rfl
  | cons h _ ih => rw [lexemes_before h, ih, List.cons_append]

theorem Cuts.line_eq {ls : List Lexeme} {line tail : List Char} (h : Cuts ls line tail) :
    line = ls.flatMap Lexeme.chars ++ tail := by
  induction h with
  | nil => rfl
  | cons _ _ ih => rw [ih, List.flatMap_cons, List.append_assoc]

theorem Lexeme.Before.chars_ne_nil {l : Lexeme} {rest : List Char} (h : l.Before rest) : l.chars ≠ [] := by
  obtain ⟨c, cs, hl, -⟩ := h.first_eq
  rw [hl]
  exact List.cons_ne_nil c cs

/-- Every line is cut to its end or up to the first character that starts no token. -/
theorem exists_cuts (line : List Char) :
    ∃ ls tail, Cuts ls line tail ∧ (tail = [] ∨ ∃ c rest, tail = c :: rest ∧ c ∈ forbidden) := by
  -- the rest after the first lexeme is shorter, so the induction is on the length
  induction hn : line.length using Nat.strongRecOn generalizing line with
  | ind n ih =>
    cases line with
    | nil => exact ⟨[], [], .nil, .inl rfl⟩
    | cons c rest =>
      rcases Lexeme.first_cases c rest with ⟨tail, hline, hbefore⟩ | ⟨-, hc⟩
      · have hpos : 0 < (Lexeme.first c rest).chars.length := List.length_pos_iff.mpr hbefore.chars_ne_nil
        have hlen := congrArg List.length hline
        rw [List.length_append] at hlen
        obtain ⟨ls, tail', hcuts, hend⟩ := ih tail.length (by omega) tail rfl
        refine ⟨Lexeme.first c rest :: ls, tail', ?_, hend⟩
        rw [hline]
        exact .cons hbefore hcuts
      · exact ⟨[], c :: rest, .nil, .inr ⟨c, rest, rfl, hc⟩⟩

/-! ## Quotes -/

theorem openQuote_append (cs ds : List Char) : openQuote (cs ++ ds) = ds.foldl quoteStep (openQuote cs) :=
  List.foldl_append

theorem foldl_quoteStep_plain {cs : List Char} (h : ∀ c ∈ cs, ¬ IsQuote c) : cs.foldl quoteStep none = none := by
  induction cs with
  | nil => rfl
  | cons c cs ih =>
    have hc : quoteStep none c = none := if_neg (h c List.mem_cons_self)
    rw [List.foldl_cons, hc]
    exact ih fun d hd => h d (List.mem_cons_of_mem _ hd)

theorem foldl_quoteStep_region {q : Char} {cs : List Char} (h : q ∉ cs) : cs.foldl quoteStep (some q) = some q := by
  induction cs with
  | nil => rfl
  | cons c cs ih =>
    have hc : quoteStep (some q) c = some q := if_neg fun he : c = q => h (he ▸ List.mem_cons_self)
    rw [List.foldl_cons, hc]
    exact ih fun hm => h (List.mem_cons_of_mem _ hm)

/-- A lexeme of the grammar is a quoted region, or has neither quotes nor forbidden characters. -/
theorem Lexeme.Before.plain_or_region {l : Lexeme} {rest : List Char} (h : l.Before rest) :
    (∀ c ∈ l.chars, ¬ IsQuote c ∧ c ∉ forbidden) ∨
      ∃ q cs closed, l = .region q cs closed ∧ IsQuote q ∧ q ∉ cs ∧ (closed = false → rest = []) := by
  cases h with
  | @blank c _ h =>
    refine .inl fun d hd => ?_
    obtain rfl : d = c := List.mem_singleton.mp hd
    refine ⟨fun hq => ?_, fun hf => ?_⟩
    · rw [special_not_blank d hq.mem_special] at h
      cases h
    · rw [forbidden_not_blank d hf] at h
      cases h
  | pipe => exact .inl (by simp [Lexeme.chars, Lexeme.operatorChars, IsQuote, forbidden])
  | input => exact .inl (by simp [Lexeme.chars, Lexeme.operatorChars, IsQuote, forbidden])
  | separator => exact .inl (by simp [Lexeme.chars, Lexeme.operatorChars, IsQuote, forbidden])
  | append => exact .inl (by simp [Lexeme.chars, Lexeme.operatorChars, IsQuote, forbidden])
  | output _ => exact .inl (by simp [Lexeme.chars, Lexeme.operatorChars, IsQuote, forbidden])
  | word _ hcs _ => exact .inl fun c hc => ⟨fun hq => (hcs c hc).2.1 hq.mem_special, (hcs c hc).2.2⟩
  | closed hq hcs => exact .inr ⟨_, _, _, rfl, hq, hcs, fun h => by cases h⟩
  | unclosed hq hcs => exact .inr ⟨_, _, _, rfl, hq, hcs, fun _ => rfl⟩

theorem quoteStep_open {q : Char} (h : IsQuote q) : quoteStep none q = some q := if_pos h

theorem openQuote_region {q : Char} {cs : List Char} (hq : IsQuote q) (hcs : q ∉ cs) :
    openQuote (q :: cs) = some q := by
  rw [openQuote, List.foldl_cons, quoteStep_open hq, foldl_quoteStep_region hcs]

/-- No quote is open after a lexeme that is followed by something. -/
theorem Lexeme.Before.openQuote_eq {l : Lexeme} {rest : List Char} (h : l.Before rest) (hrest : rest ≠ []) :
    openQuote l.chars = none := by
  rcases h.plain_or_region with hplain | ⟨q, cs, closed, rfl, hq, hcs, hclosed⟩
  · exact foldl_quoteStep_plain fun c hc => (hplain c hc).1
  · cases closed with
    | false => exact absurd (hclosed rfl) hrest
    | true =>
      rw [Lexeme.chars, if_pos rfl, List.cons_append, openQuote, List.foldl_cons, quoteStep_open hq,
        List.foldl_append, foldl_quoteStep_region hcs]
      exact if_pos rfl

theorem Lexeme.Before.not_strayAt {l : Lexeme} {rest : List Char} (h : l.Before rest) {i : Nat} {c : Char}
    (hi : i < l.chars.length) : ¬ StrayAt (l.chars ++ rest) i c := by
  rintro ⟨hc, hf, hopen⟩
  rw [List.getElem?_append_left hi] at hc
  rw [List.take_append_of_le_length (Nat.le_of_lt hi)] at hopen
  rcases h.plain_or_region with hplain | ⟨q, cs, closed, rfl, hq, hcs, -⟩
  · exact (hplain c (List.mem_of_getElem? hc)).2 hf
  · cases i with
    | zero =>
      cases hc
      exact special_not_forbidden c hq.mem_special hf
    | succ i =>
      -- inside the region and at its closing quote, the opening one is still open
      have hle : i ≤ cs.length := by
        cases closed <;> simp [Lexeme.chars] at hi <;> omega
      have ht : (q :: cs ++ if closed then [q] else []).take (i + 1) = q :: cs.take i := by
        rw [List.cons_append, List.take_succ_cons, List.take_append_of_le_length hle]
      rw [Lexeme.chars, ht, openQuote_region hq fun hm => hcs (List.mem_of_mem_take hm)] at hopen
      cases hopen

theorem strayAt_append {cs rest : List Char} (h : openQuote cs = none) (i : Nat) (c : Char) :
    StrayAt (cs ++ rest) (cs.length + i) c ↔ StrayAt rest i c := by
  unfold StrayAt
  rw [List.getElem?_append_right (Nat.le_add_right _ _), Nat.add_sub_cancel_left, List.take_length_add_append,
    openQuote_append, h]
  rfl

/-- The characters that a line is cut from hold no stray one, and no quote is open where it goes on. -/
theorem Cuts.outside {ls : List Lexeme} {line tail : List Char} (h : Cuts ls line tail) :
    (∀ i c, i < (ls.flatMap Lexeme.chars).length → ¬ StrayAt line i c) ∧
      (tail ≠ [] → openQuote (ls.flatMap Lexeme.chars) = none) := by
  induction h with
  | nil => exact ⟨fun i c hi => absurd hi (Nat.not_lt_zero i), fun _ => rfl⟩
  | @cons l ls rest tail hl hs ih =>
    rw [List.flatMap_cons]
    constructor
    · intro i c hi hstray
      rcases Nat.lt_or_ge i l.chars.length with hlt | hge
      · exact hl.not_strayAt hlt hstray
      · obtain ⟨j, rfl⟩ := Nat.exists_eq_add_of_le hge
        rw [List.length_append] at hi
        -- something follows, so a quoted region before it is closed
        have hrest : rest ≠ [] := by
          rintro rfl
          rw [List.append_nil] at hstray
          have := hstray.1
          rw [List.getElem?_eq_none (by omega)] at this
          cases this
        exact ih.1 j c (by omega) ((strayAt_append (hl.openQuote_eq hrest) j c).mp hstray)
    · intro htail
      have hrest : rest ≠ [] := by
        rw [hs.line_eq]
        simp [htail]
      rw [openQuote_append, hl.openQuote_eq hrest]
      exact ih.2 htail

/-! ## Tokens -/

theorem ofLexemes_cons {l : Lexeme} {rest : List Char} (h : l.Before rest) (pos : Nat) (ls : List Lexeme) :
    Token.ofLexemes pos (l :: ls) =
      (Token.ofLexemes (pos + l.chars.length) ls).map ((l.token? pos).toList ++ ·) := by
  cases h <;> simp only [Token.ofLexemes] <;> cases Token.ofLexemes _ ls <;> rfl

theorem Cuts.ofLexemes_append {ls : List Lexeme} {line tail : List Char} (h : Cuts ls line tail) (pos : Nat)
    (ms : List Lexeme) :
    Token.ofLexemes pos (ls ++ ms) =
      (Token.ofLexemes (pos + (ls.flatMap Lexeme.chars).length) ms).map (tokensAt pos ls ++ ·) := by
  induction h generalizing pos with
  | nil => cases h : Token.ofLexemes pos ms <;> simp [tokensAt, h, Except.map]
  | cons hl _ ih =>
    rw [List.cons_append, ofLexemes_cons hl, ih, List.flatMap_cons, List.length_append, Nat.add_assoc]
    cases Token.ofLexemes _ ms <;> simp [tokensAt, Except.map]

theorem Lexeme.Before.token?_eq {l : Lexeme} {rest : List Char} (h : l.Before rest) {pos : Nat} {t : Token}
    (ht : t ∈ (l.token? pos).toList) : t.pos = pos ∧ t.kind ≠ .finish := by
  cases h <;> simp only [Lexeme.token?, Option.toList_some, Option.toList_none, List.mem_singleton,
    List.not_mem_nil] at ht <;> simp [ht]

theorem Cuts.mem_tokensAt {ls : List Lexeme} {line tail : List Char} (h : Cuts ls line tail) {pos : Nat} {t : Token}
    (ht : t ∈ tokensAt pos ls) :
    pos ≤ t.pos ∧ t.pos < pos + (ls.flatMap Lexeme.chars).length ∧ t.kind ≠ .finish := by
  induction h generalizing pos with
  | nil => cases ht
  | @cons l ls rest tail hl _ ih =>
    have hpos : 0 < l.chars.length := List.length_pos_iff.mpr hl.chars_ne_nil
    rw [List.flatMap_cons, List.length_append]
    rcases List.mem_append.mp ht with ht | ht
    · obtain ⟨hp, hk⟩ := hl.token?_eq ht
      exact ⟨by omega, by omega, hk⟩
    · obtain ⟨h1, h2, hk⟩ := ih ht
      exact ⟨by omega, by omega, hk⟩

theorem Cuts.pairwise_tokensAt {ls : List Lexeme} {line tail : List Char} (h : Cuts ls line tail) (pos : Nat) :
    (tokensAt pos ls).Pairwise (·.pos < ·.pos) := by
  induction h generalizing pos with
  | nil => exact .nil
  | @cons l ls rest tail hl hs ih =>
    have hpos : 0 < l.chars.length := List.length_pos_iff.mpr hl.chars_ne_nil
    rw [tokensAt, List.pairwise_append]
    refine ⟨by cases l.token? pos <;> simp, ih _, fun a ha b hb => ?_⟩
    have h1 := (hl.token?_eq ha).1
    have h2 := (hs.mem_tokensAt hb).1
    omega

/-! ## Scanning -/

theorem scanChars_of_cuts {ls : List Lexeme} {line : List Char} (h : Cuts ls line []) :
    Token.scanChars line = .ok (tokensAt 0 ls ++ [⟨.finish, [], line.length⟩]) := by
  have hline := h.line_eq
  rw [List.append_nil] at hline
  rw [Token.scanChars, h.lexemes_eq, h.ofLexemes_append, ← hline]
  simp [lexemes, lexemesFrom, Token.ofLexemes, Token.ofOperator, Except.map]

theorem scanChars_of_stray {ls : List Lexeme} {line rest : List Char} {c : Char} (h : Cuts ls line (c :: rest))
    (hc : c ∈ forbidden) :
    Token.scanChars line = .error ⟨.emptyToken, (ls.flatMap Lexeme.chars).length, c.toNat⟩ := by
  rw [Token.scanChars, h.lexemes_eq, lexemes_stray hc, h.ofLexemes_append]
  simp [Token.ofLexemes, Except.map]

theorem Cuts.strayAt_end {ls : List Lexeme} {line rest : List Char} {c : Char} (h : Cuts ls line (c :: rest))
    (hc : c ∈ forbidden) : StrayAt line (ls.flatMap Lexeme.chars).length c := by
  rw [h.line_eq]
  exact (strayAt_append (h.outside.2 (List.cons_ne_nil c rest)) 0 c).mpr ⟨rfl, hc, rfl⟩

theorem Cuts.unique {ls ls' : List Lexeme} {line : List Char} (h : Cuts ls line []) (h' : Cuts ls' line []) :
    ls = ls' := by
  have hl := h.lexemes_eq.symm.trans h'.lexemes_eq
  exact List.append_cancel_right hl

/-- A line is scanned as its lexical grammar says. Where it succeeds, the line is a list of lexemes in
one way only, and the tokens are the lexemes without white space, each at the position of its first
character, and the end mark. It fails exactly for a forbidden character outside quotes, and names the first one. -/
theorem scan_spec (line : Bytes) :
    (∀ ts, Token.scan line = .ok ts →
      ∃ ls, Cuts ls (Utf8.decode line) [] ∧ (∀ ls', Cuts ls' (Utf8.decode line) [] → ls' = ls) ∧
        ts = tokensAt 0 ls ++ [⟨.finish, [], (Utf8.decode line).length⟩] ∧
        ts.Pairwise (·.pos < ·.pos) ∧ ∀ t ∈ tokensAt 0 ls, t.kind ≠ .finish) ∧
    ((∃ e, Token.scan line = .error e) ↔ ∃ i c, StrayAt (Utf8.decode line) i c) ∧
    ∀ e, Token.scan line = .error e →
      ∃ i c, e = ⟨.emptyToken, (i : Nat), c.toNat⟩ ∧ StrayAt (Utf8.decode line) i c ∧
        ∀ j d, StrayAt (Utf8.decode line) j d → i ≤ j := by
  unfold Token.scan
  generalize Utf8.decode line = line
  obtain ⟨ls, tail, hcuts, rfl | ⟨c, rest, rfl, hc⟩⟩ := exists_cuts line
  · have hscan := scanChars_of_cuts hcuts
    have hline := hcuts.line_eq
    rw [List.append_nil] at hline
    refine ⟨fun ts hts => ?_, ⟨fun ⟨e, he⟩ => ?_, fun ⟨i, c, hstray⟩ => ?_⟩, fun e he => ?_⟩
    · rw [hscan] at hts
      cases hts
      refine ⟨ls, hcuts, fun ls' h' => h'.unique hcuts, rfl, ?_, fun t ht => (hcuts.mem_tokensAt ht).2.2⟩
      rw [List.pairwise_append]
      refine ⟨hcuts.pairwise_tokensAt 0, List.pairwise_singleton _ _, fun a ha b hb => ?_⟩
      rw [List.mem_singleton.mp hb]
      have := (hcuts.mem_tokensAt ha).2.1
      rw [← hline] at this
      dsimp only
      omega
    · rw [hscan] at he
      cases he
    · obtain ⟨hi, -⟩ := List.getElem?_eq_some_iff.mp hstray.1
      exact absurd hstray (hcuts.outside.1 i c (hline ▸ hi))
    · rw [hscan] at he
      cases he
  · have hscan := scanChars_of_stray hcuts hc
    have hstray := hcuts.strayAt_end hc
    refine ⟨fun ts hts => ?_, ⟨fun _ => ⟨_, c, hstray⟩, fun _ => ⟨_, hscan⟩⟩, fun e he => ?_⟩
    · rw [hscan] at hts
      cases hts
    · rw [hscan] at he
      cases he
      refine ⟨_, c, rfl, hstray, fun j d hj => ?_⟩
      exact Nat.le_of_not_lt fun hlt => hcuts.outside.1 j d hlt hj

-- the third `>` is an operator of its own, and a quoted region goes on to the end of the line
example : Token.scan (text "a>>> b'c d") =
    .ok [.ofWord (text "a") 0, .ofOperator .append 1, .ofOperator .output 3, .ofWord (text "b") 5,
      .ofWord (text "c d") 6, .ofOperator .finish 10] := by decide

end AuditShell
