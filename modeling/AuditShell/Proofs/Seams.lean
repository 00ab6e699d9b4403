import AuditShell.Proofs.ReadBack
/-!
# Lines that are put together

`Tree.ofLine_seams`: two lines with a `;` or a `|` between them are read exactly where each of them is
read, if no quote is open at the seam. With `;` the pipelines of the second follow those of the
first, and with `|` the last of the first and the first of the second become one.

The seam is carried through the three levels of reading: no character goes on over it
(`Utf8.decode_seam`), no lexeme does (`cuts_seam`), and what has been read before it only goes in front of
what is read after it (`Tree.Onto.ofTokensFrom`).
-/
namespace AuditShell

/-! ## Characters -/

namespace Utf8

/-- What a text starts with does not depend on what follows the text, if that does not continue a character. -/
theorem first?_append {as : Bytes} {b : UInt8} (has : as ≠ []) (hb : isTail b = false) (bs : Bytes) :
    first? (as ++ b :: bs) = first? as := by
  -- at most three bytes follow the first one of a character
  match as with
  | [_] => rcases bs with _ | ⟨_, _ | ⟨_, bs⟩⟩ <;> simp [first?, hb]
  | [_, _] => rcases bs with _ | ⟨_, bs⟩ <;> simp [first?, hb]
  | [_, _, _] => simp [first?, hb]
  | _ :: _ :: _ :: _ :: _ => rfl

theorem pieces_append {b : UInt8} (hb : isTail b = false) (as bs : Bytes) :
    pieces (as ++ b :: bs) = pieces as ++ pieces (b :: bs) := by
  -- a character takes several bytes, so the induction is on the length
  induction hn : as.length using Nat.strongRecOn generalizing as with
  | ind n ih =>
    cases as with
    | nil => rfl
    | cons a as =>
      cases hfirst : first? (a :: as) with
      | none =>
        have hfirst' := (first?_append (List.cons_ne_nil a as) hb bs).trans hfirst
        have hrest := ih as.length (by rw [← hn, List.length_cons]; omega) as rfl
        rw [List.cons_append] at hfirst' ⊢
        simp only [pieces, piecesFrom, hfirst, hfirst'] at hrest ⊢
        rw [hrest, List.cons_append]
      | some p =>
        obtain ⟨rest, has⟩ := eq_append_of_first? hfirst
        have hlength : rest.length < n := by
          have hc := List.length_pos_iff.mpr (encodeChar_ne_nil p.1)
          rw [← hn, has, List.length_append]
          omega
        rw [has, List.append_assoc, pieces_encodeChar_append, pieces_encodeChar_append, ih rest.length hlength rest rfl,
          List.cons_append]

/-- Text is read up to a character of one byte and from it on. -/
theorem decode_seam {c : Char} (hc : c.toNat < 0x80) (as bs : Bytes) :
    decode (as ++ encode [c] ++ bs) = decode as ++ c :: decode bs := by
  have hbyte : encode [c] = [c.toNat.toUInt8] := by simp [encode, encodeChar, hc]
  have htail : isTail c.toNat.toUInt8 = false := by
    simp only [isTail, Bool.and_eq_false_iff, decide_eq_false_iff_not, UInt8.le_iff_toNat_le]
    exact .inl (by rw [toNat_byte (by omega)]; exact Nat.not_le.mpr hc)
  have hchar := decode_encode_append [c] bs
  rw [hbyte, List.singleton_append, List.singleton_append] at hchar
  rw [hbyte, List.append_assoc, List.singleton_append, decode, pieces_append htail, List.map_append]
  exact congrArg (decode as ++ ·) hchar

end Utf8

/-! ## Lexemes -/

/-- A lexeme stays one where a character follows that neither a bare word nor `>` goes on with. -/
theorem Lexeme.Before.extend {l : Lexeme} {rest : List Char} (h : l.Before rest) (hopen : openQuote l.chars = none)
    {c : Char} (hbare : ¬ IsBare c) (hc : c ≠ '>') (more : List Char) : l.Before (rest ++ c :: more) := by
  cases h with
  | blank h => exact .blank h
  | pipe => exact .pipe
  | input => exact .input
  | separator => exact .separator
  | append => exact .append
  | output h =>
    refine .output ?_
    cases rest with
    | nil => simpa using hc
    | cons d rest => exact h
  | word hne hcs hrest =>
    refine .word hne hcs (Tree.boundary_append hrest ?_)
    rintro _ ⟨⟩
    exact hbare
  | closed hq hcs => exact .closed hq hcs
  | @unclosed q cs hq hcs =>
    rw [Lexeme.chars, if_neg Bool.false_ne_true, List.append_nil, openQuote_region hq hcs] at hopen
    cases hopen

/-- The lexemes of a line stay the same where such a character follows outside quotes. -/
theorem Cuts.extend {ls : List Lexeme} {line tail : List Char} (h : Cuts ls line tail) (hopen : openQuote line = none)
    {c : Char} (hbare : ¬ IsBare c) (hc : c ≠ '>') (more : List Char) :
    Cuts ls (line ++ c :: more) (tail ++ c :: more) := by
  induction h with
  | nil => exact .nil
  | @cons l ls rest tail hl _ ih =>
    have hl' : openQuote l.chars = none := by
      cases rest with
      | nil => rwa [List.append_nil] at hopen
      | cons d rest => exact hl.openQuote_eq (List.cons_ne_nil d rest)
    rw [openQuote_append, hl'] at hopen
    rw [List.append_assoc]
    exact .cons (hl.extend hl' hbare hc more) (ih hopen)

/-- An operator of one character that no bare word and no other operator goes on with. -/
structure Seam (c : Char) (k : Token.Kind) : Prop where
  ascii : c.toNat < 0x80
  special : c ∈ special
  ne_output : c ≠ '>'
  chars : Lexeme.operatorChars k = [c]
  before : ∀ rest, (Lexeme.operator k).Before rest

theorem seam_separator : Seam ';' .separator := ⟨by decide, by decide, by decide, rfl, fun _ => .separator⟩

theorem seam_pipe : Seam '|' .pipe := ⟨by decide, by decide, by decide, rfl, fun _ => .pipe⟩

theorem not_cuts_stray {ls ms : List Lexeme} {line rest : List Char} {c : Char} (h : Cuts ls line (c :: rest))
    (hc : c ∈ forbidden) : ¬ Cuts ms line [] := by
  intro h'
  have hstray := scanChars_of_stray h hc
  rw [scanChars_of_cuts h'] at hstray
  cases hstray

/-- A line with a seam is cut exactly where both sides are, and into their lexemes. -/
theorem cuts_seam {c : Char} {k : Token.Kind} (hseam : Seam c k) {cs : List Char} (hopen : openQuote cs = none)
    (ds : List Char) (ns : List Lexeme) :
    Cuts ns (cs ++ c :: ds) [] ↔ ∃ ls ms, Cuts ls cs [] ∧ Cuts ms ds [] ∧ ns = ls ++ .operator k :: ms := by
  have hbare : ¬ IsBare c := fun h => h.2.1 hseam.special
  have hoperator : ∀ rest, Cuts [.operator k] (c :: rest) rest := by
    intro rest
    have h := Cuts.cons (hseam.before rest) .nil
    rwa [Lexeme.chars, hseam.chars] at h
  obtain ⟨ls, tail, hls, htail⟩ := exists_cuts cs
  have hfirst := hls.extend hopen hbare hseam.ne_output ds
  constructor
  · intro h
    rcases htail with rfl | ⟨d, rest, rfl, hd⟩
    · obtain ⟨ms, tail, hms, rfl | ⟨d, rest, rfl, hd⟩⟩ := exists_cuts ds
      · have hall := Tree.cuts_trans hfirst (Tree.cuts_trans (hoperator ds) hms)
        exact ⟨ls, ms, hls, hms, h.unique hall⟩
      · exact absurd h (not_cuts_stray (Tree.cuts_trans hfirst (Tree.cuts_trans (hoperator ds) hms)) hd)
    · exact absurd h (not_cuts_stray hfirst hd)
  · rintro ⟨ls', ms, hls', hms, rfl⟩
    exact Tree.cuts_trans (hls'.extend hopen hbare hseam.ne_output ds) (Tree.cuts_trans (hoperator ds) hms)

/-! ## Tokens -/

namespace Tree

open Grammar

/-- What is read after some pipelines and commands, beside what is read of the same tokens alone: the
pipelines go before it, and the commands before its first pipeline. Both are given latest first, as
the reader keeps them. -/
inductive Onto (ps : List Pipeline) (cs : List Command) : Progress → Progress → Prop where
  | first (ds : List Command) (ws : List Bytes) (rs : List Redirect) : Onto ps cs ⟨[], ds, ws, rs⟩ ⟨ps, ds ++ cs, ws, rs⟩
  | later (qs : List Pipeline) (q : Pipeline) (ds : List Command) (ws : List Bytes) (rs : List Redirect) :
      Onto ps cs ⟨qs ++ [q], ds, ws, rs⟩ ⟨qs ++ (cs.reverse ++ q) :: ps, ds, ws, rs⟩

namespace Onto

variable {ps : List Pipeline} {cs : List Command} {p q : Progress}

theorem addWord (h : Onto ps cs p q) (w : Bytes) : Onto ps cs (p.addWord w) (q.addWord w) := by
  cases h with
  | first ds ws rs => exact .first ds (w :: ws) rs
  | later qs p ds ws rs => exact .later qs p ds (w :: ws) rs

theorem addRedirect (h : Onto ps cs p q) (r : Redirect) : Onto ps cs (p.addRedirect r) (q.addRedirect r) := by
  cases h with
  | first ds ws rs => exact .first ds ws (r :: rs)
  | later qs p ds ws rs => exact .later qs p ds ws (r :: rs)

theorem endCommand (h : Onto ps cs p q) : Onto ps cs p.endCommand q.endCommand := by
  cases h with
  | first ds ws rs => exact .first (⟨ws.reverse, rs.reverse⟩ :: ds) [] []
  | later qs p ds ws rs => exact .later qs p (⟨ws.reverse, rs.reverse⟩ :: ds) [] []

/-- The first pipeline to end takes the commands that go before it. -/
theorem endPipeline (h : Onto ps cs p q) :
    ∃ qs r, p.endPipeline = ⟨qs ++ [r], [], [], []⟩ ∧ q.endPipeline = ⟨qs ++ (cs.reverse ++ r) :: ps, [], [], []⟩ := by
  cases h with
  | first ds ws rs =>
    refine ⟨[], (⟨ws.reverse, rs.reverse⟩ :: ds).reverse, rfl, ?_⟩
    simp [Progress.endPipeline, Progress.endCommand]
  | later qs r ds ws rs => exact ⟨(⟨ws.reverse, rs.reverse⟩ :: ds).reverse :: qs, r, rfl, rfl⟩

end Onto

/-- What reading one token comes to, after some pipelines and commands and beside reading it alone. -/
inductive OntoNext (ps : List Pipeline) (cs : List Command) : Next → Next → Prop where
  | go {p q : Progress} (place : Place) (h : Onto ps cs p q) : OntoNext ps cs (.go place p) (.go place q)
  | tree (r : Pipeline) (rs : List Pipeline) :
      OntoNext ps cs (.stop (.ok (ofPipelines (r :: rs))))
        (.stop (.ok (ofPipelines (ps.reverse ++ (cs.reverse ++ r) :: rs))))
  | error (e : ParseError) : OntoNext ps cs (.stop (.error e)) (.stop (.error e))

namespace Onto

variable {ps : List Pipeline} {cs : List Command} {p q : Progress}

theorem afterCommand (h : Onto ps cs p q) (t : Token) :
    OntoNext ps cs (Tree.afterCommand p t) (Tree.afterCommand q t) := by
  obtain ⟨qs, r, hp, hq⟩ := h.endPipeline
  unfold Tree.afterCommand
  cases t.kind with
  | pipe => exact .go .command h.endCommand
  | separator =>
    dsimp only
    rw [hp, hq]
    exact .go .command (.later qs r [] [] [])
  | finish =>
    dsimp only
    rw [Progress.tree, Progress.tree, hp, hq]
    have hfirst : ∃ s ss, (qs ++ [r]).reverse = s :: ss ∧
        (qs ++ (cs.reverse ++ r) :: ps).reverse = ps.reverse ++ (cs.reverse ++ s) :: ss :=
      ⟨r, qs.reverse, by simp, by simp⟩
    obtain ⟨s, ss, h1, h2⟩ := hfirst
    rw [h1, h2]
    exact .tree s ss
  | _ => exact .error _

theorem atRedirect (h : Onto ps cs p q) (t : Token) : OntoNext ps cs (Tree.atRedirect p t) (Tree.atRedirect q t) := by
  unfold Tree.atRedirect
  cases t.kind with
  | input => exact .go _ h
  | output => exact .go _ h
  | append => exact .go _ h
  | _ => exact h.afterCommand t

theorem atFile (h : Onto ps cs p q) (kind : Redirect.Kind) (t : Token) :
    OntoNext ps cs (Tree.atFile kind p t) (Tree.atFile kind q t) := by
  unfold Tree.atFile
  cases t.kind with
  | word => exact .go _ (h.addRedirect _)
  | _ => exact .error _

/-- One token does the same to both. -/
theorem readToken (h : Onto ps cs p q) (place : Place) (t : Token) :
    OntoNext ps cs (Tree.readToken place p t) (Tree.readToken place q t) := by
  cases place with
  | command =>
    unfold Tree.readToken
    cases t.kind with
    | word => exact .go _ (h.addWord _)
    | _ => exact .error _
  | words =>
    by_cases hw : t.kind = .word
    · simp only [Tree.readToken, hw]
      exact .go _ (h.addWord _)
    · rw [readToken_words hw, readToken_words hw]
      exact h.atRedirect t
  | redirects => exact h.atRedirect t
  | file kind => exact h.atFile kind t
  | angle =>
    have hfile := h.atFile .output t
    unfold Tree.readToken
    cases ht : t.kind with
    | output => exact .go _ h
    | _ => exact hfile

/-- Tokens are read after some pipelines and commands exactly where they are read alone. -/
theorem ofTokensFrom (h : Onto ps cs p q) (place : Place) (ts : List Token) (t : Tree) :
    Tree.ofTokensFrom place q ts = .ok t ↔
      ∃ r rs, Tree.ofTokensFrom place p ts = .ok (ofPipelines (r :: rs)) ∧
        t = ofPipelines (ps.reverse ++ (cs.reverse ++ r) :: rs) := by
  induction ts generalizing place p q with
  | nil => simp [Tree.ofTokensFrom]
  | cons a ts ih =>
    have hnext := h.readToken place a
    rw [Tree.ofTokensFrom, Tree.ofTokensFrom]
    generalize Tree.readToken place p a = n at hnext ⊢
    generalize Tree.readToken place q a = m at hnext ⊢
    cases hnext with
    | go place' h' => exact ih h' place'
    | tree r rs =>
      constructor
      · rintro ⟨⟩
        exact ⟨r, rs, rfl, rfl⟩
      · rintro ⟨r', rs', heq, rfl⟩
        have hps := congrArg (Except.map pipelines) heq
        simp only [Except.map, pipelines_ofPipelines, Except.ok.injEq, List.cons.injEq] at hps
        rw [hps.1, hps.2]
    | error e => simp

end Onto

/-! ## Reading over a seam -/

/-- Tokens before the end mark are refused, whatever follows, or lead to a place from which reading goes on. -/
theorem refused_or_read {ts : List Token} (hts : ∀ t ∈ ts, t.kind ≠ .finish) (place : Place) (p : Progress) :
    (∃ e, ∀ rest, ofTokensFrom place p (ts ++ rest) = .error e) ∨
      ∃ place' p', ∀ rest, ofTokensFrom place p (ts ++ rest) = ofTokensFrom place' p' rest := by
  induction ts generalizing place p with
  | nil => exact .inr ⟨place, p, fun _ => rfl⟩
  | cons t ts ih =>
    cases hread : readToken place p t with
    | go place' p' =>
      have h := ih (fun u hu => hts u (List.mem_cons_of_mem _ hu)) place' p'
      simpa only [List.cons_append, ofTokensFrom, hread] using h
    | stop r =>
      rcases readToken_stop hread with ⟨-, hk, -⟩ | ⟨e, rfl, -⟩
      · exact absurd hk (hts t List.mem_cons_self)
      · exact .inl ⟨e, fun rest => by simp only [List.cons_append, ofTokensFrom, hread]⟩

/-- Tokens before the end of a command are refused, or lead to a place where a command may end. -/
theorem refused_or_ended {ts : List Token} (hts : ∀ t ∈ ts, t.kind ≠ .finish) :
    (∀ t rest, t.kind = .pipe ∨ t.kind = .separator ∨ t.kind = .finish →
      ∃ e, ofTokens (ts ++ t :: rest) = .error e) ∨
    ∃ place p, Ends place ∧ ∀ rest, ofTokens (ts ++ rest) = ofTokensFrom place p rest := by
  rcases refused_or_read hts .command {} with ⟨e, he⟩ | ⟨place, p, hread⟩
  · exact .inl fun t rest _ => ⟨e, he (t :: rest)⟩
  · by_cases hplace : Ends place
    · exact .inr ⟨place, p, hplace, hread⟩
    · refine .inl fun t rest ht => ?_
      obtain ⟨e, he⟩ := end_error hplace ht p rest
      exact ⟨e, (hread (t :: rest)).trans he⟩

theorem exists_pipelines {ts : List Token} {t : Tree} (h : ofTokens ts = .ok t) : ∃ r rs, t = ofPipelines (r :: rs) := by
  obtain ⟨d, -, rfl⟩ := exists_derivation h
  exact ⟨_, _, tree_eq d⟩

/-- The pipelines of two lines in order, the last of the first line and the first of the second as one. -/
def chain (ps qs : List Pipeline) : List Pipeline := ps.dropLast ++ (ps.getLastD [] ++ qs.headD []) :: qs.tail

/-- An operator after which the next command starts, and how it joins the pipelines of two lines. -/
structure Joins (k : Token.Kind) (join : List Pipeline → List Pipeline → List Pipeline) : Prop where
  ends : k = .pipe ∨ k = .separator
  next : ∀ (p : Progress) (t : Token), t.kind = k → ∃ ps cs,
    afterCommand p t = .go .command ⟨ps, cs, [], []⟩ ∧
      ∀ r rs, join p.tree.pipelines (r :: rs) = ps.reverse ++ (cs.reverse ++ r) :: rs

theorem joins_separator : Joins .separator (· ++ ·) := by
  refine ⟨.inr rfl, fun p t ht => ⟨p.endPipeline.pipelines, [], ?_, fun r rs => ?_⟩⟩
  · simp only [afterCommand, ht, Progress.endPipeline, Progress.endCommand]
  · rw [Progress.tree, pipelines_ofPipelines]
    rfl

theorem joins_pipe : Joins .pipe chain := by
  refine ⟨.inl rfl, fun p t ht => ⟨p.pipelines, p.endCommand.commands, ?_, fun r rs => ?_⟩⟩
  · simp only [afterCommand, ht, Progress.endCommand]
  · rw [Progress.tree, pipelines_ofPipelines]
    simp [chain, Progress.endPipeline, Progress.endCommand]

/-- Tokens with such an operator between them are read exactly where those on both sides are. -/
theorem ofTokens_joins {k : Token.Kind} {join : List Pipeline → List Pipeline → List Pipeline} (hjoin : Joins k join)
    {us : List Token} (hus : ∀ u ∈ us, u.kind ≠ .finish) {s f : Token} (hs : s.kind = k) (hf : f.kind = .finish)
    (vs : List Token) (t : Tree) :
    ofTokens (us ++ s :: vs) = .ok t ↔
      ∃ x y, ofTokens (us ++ [f]) = .ok x ∧ ofTokens vs = .ok y ∧ t = ofPipelines (join x.pipelines y.pipelines) := by
  have hend : s.kind = .pipe ∨ s.kind = .separator ∨ s.kind = .finish := by
    rw [hs]
    exact hjoin.ends.imp_right .inl
  rcases refused_or_ended hus with hrefused | ⟨place, p, hplace, hread⟩
  · obtain ⟨e, he⟩ := hrefused s vs hend
    obtain ⟨e', he'⟩ := hrefused f [] (.inr (.inr hf))
    simp [he, he']
  · obtain ⟨ps, cs, hnext, hps⟩ := hjoin.next p s hs
    have hfirst : ofTokens (us ++ [f]) = .ok p.tree := by
      rw [hread, ofTokensFrom, readToken_end hplace (.inr (.inr hf))]
      simp only [afterCommand, hf]
    have hsecond : ofTokens (us ++ s :: vs) = ofTokensFrom .command ⟨ps, cs, [], []⟩ vs := by
      rw [hread, ofTokensFrom, readToken_end hplace hend, hnext]
    have honto : Onto ps cs {} ⟨ps, cs, [], []⟩ := .first [] [] []
    rw [hfirst, hsecond, honto.ofTokensFrom]
    constructor
    · rintro ⟨r, rs, hr, rfl⟩
      exact ⟨p.tree, ofPipelines (r :: rs), rfl, hr, by rw [pipelines_ofPipelines, hps]⟩
    · rintro ⟨_, y, ⟨⟩, hy, rfl⟩
      obtain ⟨r, rs, rfl⟩ := exists_pipelines hy
      exact ⟨r, rs, hy, by rw [pipelines_ofPipelines, hps]⟩

/-! ## Lines -/

/-- The tokens of lexemes with an end mark, at positions that do not matter. -/
def tokensOf (ls : List Lexeme) : List Token := tokensAt 0 ls ++ [.ofOperator .finish 0]

/-- A line is read as the tokens of the lexemes into which it is cut. -/
theorem ofLine_iff {line : Bytes} {t : Tree} :
    ofLine line = .ok t ↔ ∃ ls, Cuts ls (Utf8.decode line) [] ∧ ofTokens (tokensOf ls) = .ok t := by
  obtain ⟨ls, tail, hcuts, rfl | ⟨c, rest, rfl, hc⟩⟩ := exists_cuts (Utf8.decode line)
  · have hok : ofLine line = .ok t ↔ ofTokens (tokensAt 0 ls ++ [⟨.finish, [], (Utf8.decode line).length⟩]) = .ok t := by
      rw [ofLine, Token.scan, scanChars_of_cuts hcuts]
      dsimp only
      cases ofTokens (tokensAt 0 ls ++ [⟨.finish, [], (Utf8.decode line).length⟩]) <;> simp
    have hshape : (tokensAt 0 ls ++ [Token.mk .finish [] (Utf8.decode line).length]).map shape =
        (tokensOf ls).map shape := by
      rw [tokensOf, List.map_append, List.map_append]
      rfl
    rw [hok]
    constructor
    · exact fun h => ⟨ls, hcuts, ofTokens_congr hshape h⟩
    · rintro ⟨ls', hcuts', h⟩
      rw [hcuts'.unique hcuts] at h
      exact ofTokens_congr hshape.symm h
  · have herror : ofLine line = .error (.scan ⟨.emptyToken, (ls.flatMap Lexeme.chars).length, c.toNat⟩) := by
      rw [ofLine, Token.scan, scanChars_of_stray hcuts hc]
    rw [herror]
    constructor
    · rintro ⟨⟩
    · rintro ⟨ms, hcuts', -⟩
      exact absurd hcuts' (not_cuts_stray hcuts hc)

theorem shapes_seam (k : Token.Kind) (ls ms : List Lexeme) :
    (tokensOf (ls ++ .operator k :: ms)).map shape = (tokensAt 0 ls ++ .ofOperator k 0 :: tokensOf ms).map shape := by
  have hms : shapes (.operator k :: ms) = (k, []) :: shapes ms := rfl
  simp only [tokensOf, List.map_append, List.map_cons, shapes_tokensAt, shapes_append, hms, List.append_assoc]
  rfl

/-- A line with a seam is read exactly where both sides are. -/
theorem ofLine_seam {c : Char} {k : Token.Kind} {join : List Pipeline → List Pipeline → List Pipeline}
    (hseam : Seam c k) (hjoin : Joins k join) {a : Bytes} (ha : openQuote (Utf8.decode a) = none) (b : Bytes) (t : Tree) :
    ofLine (a ++ Utf8.encode [c] ++ b) = .ok t ↔
      ∃ x y, ofLine a = .ok x ∧ ofLine b = .ok y ∧ t = ofPipelines (join x.pipelines y.pipelines) := by
  have htokens : ∀ ls ms, Cuts ls (Utf8.decode a) [] → (ofTokens (tokensOf (ls ++ .operator k :: ms)) = .ok t ↔
      ∃ x y, ofTokens (tokensOf ls) = .ok x ∧ ofTokens (tokensOf ms) = .ok y ∧
        t = ofPipelines (join x.pipelines y.pipelines)) := by
    intro ls ms hls
    have hkinds : ∀ u ∈ tokensAt 0 ls, u.kind ≠ .finish := fun u hu => (hls.mem_tokensAt hu).2.2
    have hjoined := ofTokens_joins hjoin hkinds (s := .ofOperator k 0) (f := .ofOperator .finish 0) rfl rfl
      (tokensOf ms) t
    rw [← tokensOf] at hjoined
    rw [← hjoined]
    exact ⟨ofTokens_congr (shapes_seam k ls ms), ofTokens_congr (shapes_seam k ls ms).symm⟩
  simp only [ofLine_iff, Utf8.decode_seam hseam.ascii]
  constructor
  · rintro ⟨ns, hns, hok⟩
    obtain ⟨ls, ms, hls, hms, rfl⟩ := (cuts_seam hseam ha _ ns).mp hns
    obtain ⟨x, y, hx, hy, ht⟩ := (htokens ls ms hls).mp hok
    exact ⟨x, y, ⟨ls, hls, hx⟩, ⟨ms, hms, hy⟩, ht⟩
  · rintro ⟨x, y, ⟨ls, hls, hx⟩, ⟨ms, hms, hy⟩, ht⟩
    exact ⟨_, (cuts_seam hseam ha _ _).mpr ⟨ls, ms, hls, hms, rfl⟩, (htokens ls ms hls).mpr ⟨x, y, hx, hy, ht⟩⟩

/-- Lines compose. Where no quote is open at the end of the first, two lines with a `;` between them are
read exactly where both are, as the pipelines of the first and then those of the second; and so are
two lines with a `|` between them, with the last pipeline of the first and the first of the second as one. -/
theorem ofLine_seams {a : Bytes} (ha : openQuote (Utf8.decode a) = none) (b : Bytes) :
    (∀ t, ofLine (a ++ text ";" ++ b) = .ok t ↔
      ∃ x y, ofLine a = .ok x ∧ ofLine b = .ok y ∧ t = ofPipelines (x.pipelines ++ y.pipelines)) ∧
    ∀ t, ofLine (a ++ text "|" ++ b) = .ok t ↔
      ∃ x y, ofLine a = .ok x ∧ ofLine b = .ok y ∧ t = ofPipelines (chain x.pipelines y.pipelines) :=
  ⟨ofLine_seam seam_separator joins_separator ha b, ofLine_seam seam_pipe joins_pipe ha b⟩

/-- A quoted `;` before a seam is no seam, and a `>` before one finds no file name after it. -/
theorem ofLine_seams_quoted :
    openQuote (Utf8.decode (text "ls 'a;b'; sort >> out")) = none ∧
      ofLine (text "ls 'a;b'; sort >> out" ++ text "|" ++ text "wc; id") =
        .ok (.sequence [[⟨[text "ls", text "a;b"], []⟩],
          [⟨[text "sort"], [⟨.append, text "out"⟩]⟩, ⟨[text "wc"], []⟩], [⟨[text "id"], []⟩]]) ∧
      ∀ t, ofLine (text "ls >" ++ text ";" ++ text "> out") ≠ .ok t := by
  refine ⟨by decide, ?_, fun t ht => ?_⟩
  · refine ((ofLine_seams (by decide) _).2 _).mpr ⟨.sequence [[⟨[text "ls", text "a;b"], []⟩],
      [⟨[text "sort"], [⟨.append, text "out"⟩]⟩]], .sequence [[⟨[text "wc"], []⟩], [⟨[text "id"], []⟩]], ?_, ?_, ?_⟩
    · decide +kernel
    · decide +kernel
    · rfl
  · obtain ⟨x, y, hx, -, -⟩ := ((ofLine_seams (by decide) _).1 t).mp ht
    have herror : (ofLine (text "ls >")).toOption = none := by decide +kernel
    rw [hx] at herror
    cases herror

end Tree

end AuditShell
