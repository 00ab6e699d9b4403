import AuditShell.Proofs.Seams
/-!
# White space in a line

`Tree.ofLine_widened`: white space may be put into a line wherever no quote is open and no bare word goes
on, and what the line reads as does not change. This holds between the two characters of a `>>` too.

Only there do the tokens change, so the proof looks at a line with each `>>` taken apart (`content`). Taken
apart, a line is the content of its two halves at any gap (`content_append`), and white space has no
content. The reader of tokens does not tell `>>` from `>` and `>` (`Tree.ofTokensFrom_apart`).
-/
namespace AuditShell

/-! ## What a line holds besides white space -/

/-- A lexeme with `>>` taken apart and white space left out. -/
def Lexeme.pieces : Lexeme → List Lexeme
  | .blank _ => []
  | .operator k => if k = .append then [.operator .output, .operator .output] else [.operator k]
  | .word cs => [.word cs]
  | .region q cs closed => [.region q cs closed]
  | .stray c => [.stray c]

/-- The lexemes of a line with each `>>` taken apart, without white space. -/
def content (cs : List Char) : List Lexeme := (lexemes cs).flatMap Lexeme.pieces

theorem content_before {l : Lexeme} {rest : List Char} (h : l.Before rest) :
    content (l.chars ++ rest) = l.pieces ++ content rest := by
  simp [content, lexemes_before h]

theorem content_stray {c : Char} (h : c ∈ forbidden) (rest : List Char) :
    content (c :: rest) = .stray c :: content rest := by
  simp [content, lexemes_stray h, Lexeme.pieces]

theorem content_blanks {ws : List Char} (h : ∀ c ∈ ws, isBlank c = true) (cs : List Char) :
    content (ws ++ cs) = content cs := by
  induction ws with
  | nil => rfl
  | cons c ws ih =>
    have hc : (Lexeme.blank c).Before (ws ++ cs) := .blank (h c (by simp))
    have hcontent := content_before hc
    simp only [Lexeme.chars, Lexeme.pieces, List.nil_append, List.singleton_append] at hcontent
    rw [List.cons_append, hcontent]
    exact ih fun d hd => h d (by simp [hd])

/-- Taken apart, a run of `>` has one piece for each character, wherever the run begins. -/
theorem content_output (rest : List Char) : content ('>' :: rest) = .operator .output :: content rest := by
  induction rest with
  | nil => rfl
  | cons c rest ih =>
    by_cases hc : c = '>'
    · subst hc
      have happend : (Lexeme.operator .append).Before rest := .append
      have hcontent := content_before happend
      simp only [Lexeme.chars, Lexeme.operatorChars, Lexeme.pieces, if_true, List.cons_append, List.nil_append] at hcontent
      rw [hcontent, ih]
    · have houtput : (Lexeme.operator .output).Before (c :: rest) := .output (by simpa using hc)
      exact content_before houtput

/-! ## Gaps -/

/-- A place in a line that is outside quotes and not between two characters of one bare word. -/
structure Gap (as bs : List Char) : Prop where
  quote : openQuote as = none
  word : ∀ a ∈ as.getLast?, ∀ b ∈ bs.head?, ¬ (IsBare a ∧ IsBare b)

/-- A lexeme stays one whatever the rest of the line goes on with, if there is a rest. -/
theorem Lexeme.Before.longer {l : Lexeme} {rest : List Char} (h : l.Before rest) (hrest : rest ≠ []) (bs : List Char) :
    l.Before (rest ++ bs) := by
  obtain ⟨c, rest, rfl⟩ := List.exists_cons_of_ne_nil hrest
  cases h with
  | blank h => exact .blank h
  | pipe => exact .pipe
  | input => exact .input
  | separator => exact .separator
  | append => exact .append
  | output h => exact .output h
  | word hne hcs hword => exact .word hne hcs hword
  | closed hq hcs => exact .closed hq hcs

theorem Gap.content_last {l : Lexeme} {bs : List Char} (h : Gap l.chars bs) (hl : l.Before []) :
    content (l.chars ++ bs) = l.pieces ++ content bs := by
  cases hl with
  | blank hc => exact content_before (.blank hc)
  | pipe => exact content_before .pipe
  | input => exact content_before .input
  | separator => exact content_before .separator
  | append => exact content_before .append
  | output _ => exact content_output bs
  | @word cs _ hne hcs _ =>
    refine content_before (.word hne hcs fun b hb hbare => ?_)
    have hlast := List.getLast?_eq_some_getLast hne
    exact h.word _ hlast b hb ⟨hcs _ (List.getLast_mem hne), hbare⟩
  | closed hq hcs => exact content_before (.closed hq hcs)
  | unclosed hq hcs =>
    have hopen := h.quote
    rw [Lexeme.chars, if_neg Bool.false_ne_true, List.append_nil, openQuote_region hq hcs] at hopen
    cases hopen

theorem Gap.tail {cs as bs : List Char} (h : Gap (cs ++ as) bs) (hcs : openQuote cs = none) (has : as ≠ []) :
    Gap as bs := by
  refine ⟨?_, fun a ha b hb => h.word a ?_ b hb⟩
  · have hquote := h.quote
    rwa [openQuote_append, hcs] at hquote
  · rwa [List.getLast?_append_of_ne_nil _ has]

/-- At a gap, the content of a line is that of its two halves. -/
theorem content_append {as bs : List Char} (h : Gap as bs) : content (as ++ bs) = content as ++ content bs := by
  -- the rest after the first lexeme is shorter, so the induction is on the length
  induction hn : as.length using Nat.strongRecOn generalizing as with
  | ind n ih =>
    cases as with
    | nil => rfl
    | cons c rest =>
      rcases Lexeme.first_cases c rest with ⟨tail, hline, hbefore⟩ | ⟨-, hc⟩
      · generalize Lexeme.first c rest = l at hline hbefore
        have hlength := congrArg List.length hline
        have hpos := List.length_pos_iff.mpr hbefore.chars_ne_nil
        rw [List.length_append] at hlength
        rw [hline] at h ⊢
        by_cases htail : tail = []
        · subst htail
          rw [List.append_nil] at h
          have halone := content_before hbefore
          rw [halone, List.append_nil, h.content_last hbefore]
          simp [content, lexemes, lexemesFrom]
        · have htailgap := h.tail (hbefore.openQuote_eq htail) htail
          rw [List.append_assoc, content_before (hbefore.longer htail bs), content_before hbefore,
            ih tail.length (by omega) htailgap rfl, List.append_assoc]
      · rw [List.cons_append, content_stray hc, content_stray hc, List.cons_append]
        congr 1
        by_cases hrest : rest = []
        · simp [hrest, content, lexemes, lexemesFrom]
        · have hplain : openQuote [c] = none := by
            refine foldl_quoteStep_plain fun d hd hq => ?_
            cases List.mem_singleton.1 hd
            exact special_not_forbidden c hq.mem_special hc
          have htailgap : Gap rest bs := Gap.tail h hplain hrest
          exact ih rest.length (by rw [← hn]; simp) htailgap rfl

theorem Gap.content_widened {as bs ws : List Char} (h : Gap as bs) (hws : ∀ c ∈ ws, isBlank c = true) :
    content (as ++ ws ++ bs) = content (as ++ bs) := by
  have hwide : Gap as (ws ++ bs) := by
    cases ws with
    | nil => exact h
    | cons c ws =>
      refine ⟨h.quote, ?_⟩
      rintro a - b ⟨⟩ ⟨-, hblank, -⟩
      rw [hws c (by simp)] at hblank
      cases hblank
  rw [List.append_assoc, content_append hwide, content_blanks hws, content_append h]

/-! ## Tokens taken apart -/

/-- A token with `>>` taken apart. -/
def Token.apart (t : Token) : List Token :=
  if t.kind = .append then [.ofOperator .output t.pos, .ofOperator .output t.pos] else [t]

namespace Tree

/-- The reader does not tell `>>` from `>` and `>`: where a redirect can stand both lead to its file name, and
elsewhere neither is accepted. -/
theorem ofTokensFrom_apart (place : Place) (p : Progress) (ts : List Token) (t : Tree) :
    ofTokensFrom place p (ts.flatMap Token.apart) = .ok t ↔ ofTokensFrom place p ts = .ok t := by
  induction ts generalizing place p with
  | nil => rfl
  | cons a ts ih =>
    rw [List.flatMap_cons]
    by_cases ha : a.kind = .append
    · simp only [Token.apart, ha, if_true, List.cons_append, List.nil_append, ofTokensFrom, Token.ofOperator]
      cases place with
      | command => simp [readToken, ha]
      | words => simpa [readToken, atRedirect, ha] using ih _ _
      | redirects => simpa [readToken, atRedirect, ha] using ih _ _
      | file kind => simp [readToken, atFile, ha]
      | angle => simp [readToken, atFile, ha]
    · simp only [Token.apart, ha, if_false, List.singleton_append, ofTokensFrom]
      cases readToken place p a with
      | go place' p' => exact ih place' p'
      | stop r => rfl

theorem shapes_apart (pos : Nat) (ls : List Lexeme) :
    ((tokensAt pos ls).flatMap Token.apart).map shape = shapes (ls.flatMap Lexeme.pieces) := by
  induction ls generalizing pos with
  | nil => rfl
  | cons l ls ih =>
    rw [tokensAt, List.flatMap_append, List.map_append, ih, List.flatMap_cons, shapes_append]
    congr 1
    cases l with
    | operator k => cases k <;> rfl
    | _ => rfl

theorem ofTokens_of_pieces {ls ms : List Lexeme} (h : ls.flatMap Lexeme.pieces = ms.flatMap Lexeme.pieces) {t : Tree}
    (ht : ofTokens (tokensOf ls) = .ok t) : ofTokens (tokensOf ms) = .ok t := by
  have hshape : ((tokensOf ls).flatMap Token.apart).map shape = ((tokensOf ms).flatMap Token.apart).map shape := by
    simp only [tokensOf, List.flatMap_append, List.map_append, shapes_apart, h]
  refine (ofTokensFrom_apart .command {} (tokensOf ms) t).1 ?_
  exact ofTokens_congr hshape ((ofTokensFrom_apart .command {} (tokensOf ls) t).2 ht)

theorem stray_not_mem_pieces {l : Lexeme} {rest : List Char} (h : l.Before rest) (c : Char) : .stray c ∉ l.pieces := by
  cases h <;> simp [Lexeme.pieces]

theorem ofLine_of_content {line line' : Bytes} (h : content (Utf8.decode line) = content (Utf8.decode line')) {t : Tree}
    (ht : ofLine line = .ok t) : ofLine line' = .ok t := by
  obtain ⟨ls, hls, hread⟩ := ofLine_iff.1 ht
  have hcontent : content (Utf8.decode line) = ls.flatMap Lexeme.pieces := by
    rw [content, hls.lexemes_eq]
    simp [lexemes, lexemesFrom]
  obtain ⟨ms, tail, hms, rfl | ⟨c, rest, rfl, hc⟩⟩ := exists_cuts (Utf8.decode line')
  · refine ofLine_iff.2 ⟨ms, hms, ofTokens_of_pieces ?_ hread⟩
    rw [← hcontent, h, content, hms.lexemes_eq]
    simp [lexemes, lexemesFrom]
  · -- a stray character of the one line would be among the lexemes of the other
    have hstray : .stray c ∈ content (Utf8.decode line') := by
      rw [content, hms.lexemes_eq, lexemes_stray hc]
      simp [Lexeme.pieces]
    rw [← h, hcontent, List.mem_flatMap] at hstray
    obtain ⟨l, hl, hmem⟩ := hstray
    obtain ⟨⟨rest', hbefore⟩, -⟩ := mem_cuts hls hl
    exact absurd hmem (stray_not_mem_pieces hbefore c)

/-! ## Lines -/

/-- White space that is put into a line outside quotes, and not into a bare word, changes neither whether
the line is read nor what it is read as. -/
theorem ofLine_widened (line line' : Bytes) (p : Nat) (ws : List Char)
    (hgap : Gap ((Utf8.decode line).take p) ((Utf8.decode line).drop p)) (hws : ∀ c ∈ ws, isBlank c = true)
    (hline : Utf8.decode line' = (Utf8.decode line).take p ++ ws ++ (Utf8.decode line).drop p) (t : Tree) :
    ofLine line' = .ok t ↔ ofLine line = .ok t := by
  have hcontent : content (Utf8.decode line') = content (Utf8.decode line) := by
    rw [hline, hgap.content_widened hws, List.take_append_drop]
  exact ⟨ofLine_of_content hcontent, ofLine_of_content hcontent.symm⟩

/-- A wide space and a newline between the two characters of a `>>`, with quotes behind them. -/
theorem ofLine_widened_append :
    let line := text "echo a>>'b c' | wc"
    let line' := text "echo a>\u2003\n>'b c' | wc"
    let t : Tree := .pipeline [⟨[text "echo", text "a"], [⟨.append, text "b c"⟩]⟩, ⟨[text "wc"], []⟩]
    Gap ((Utf8.decode line).take 7) ((Utf8.decode line).drop 7) ∧
      Utf8.decode line' = (Utf8.decode line).take 7 ++ ['\u2003', '\n'] ++ (Utf8.decode line).drop 7 ∧
      ofLine line = .ok t ∧ ofLine line' = .ok t := by
  intro line line' t
  have hleft : ((Utf8.decode line).take 7).getLast? = some '>' := by decide +kernel
  have hgap : Gap ((Utf8.decode line).take 7) ((Utf8.decode line).drop 7) := by
    refine ⟨by decide +kernel, fun a ha b _ hbare => ?_⟩
    rw [hleft] at ha
    cases ha
    exact hbare.1.2.1 (by decide)
  have hline : Utf8.decode line' = (Utf8.decode line).take 7 ++ ['\u2003', '\n'] ++ (Utf8.decode line).drop 7 := by
    decide +kernel
  have hread : ofLine line = .ok t := by decide +kernel
  have hws : ∀ c ∈ ['\u2003', '\n'], isBlank c = true :=
    List.forall_mem_cons.2 ⟨by decide +kernel, List.forall_mem_singleton.2 (by decide +kernel)⟩
  exact ⟨hgap, hline, hread, (ofLine_widened line line' 7 ['\u2003', '\n'] hgap hws hline t).2 hread⟩

end Tree

end AuditShell
