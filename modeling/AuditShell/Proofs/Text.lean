import AuditShell.Text.Bytes
/-!
# Reading back what was written

`Utf8.decode` gives back the characters that `Utf8.encode` wrote, whatever bytes follow, so a
repaired text is read as the text it was made from and repairing it once more changes nothing. The
valid texts are those that repairing does not change. No two texts have the same units
(`pieces_inj`). The pieces of a text between line breaks are found again when it is split.
-/

namespace AuditShell.Utf8

/-! ## One character -/

theorem toNat_byte {n : Nat} (h : n < 256) : n.toUInt8.toNat = n := Nat.mod_eq_of_lt h

theorem char_bounds (c : Char) : c.toNat < 0xD800 ∨ 0xDFFF < c.toNat ∧ c.toNat < 0x110000 := c.valid

theorem toNat_ofNat {n : Nat} (h : n < 0xD800 ∨ 0xDFFF < n ∧ n < 0x110000) : (Char.ofNat n).toNat = n := by
  rw [Char.ofNat, dif_pos h]
  rfl

theorem isTail_of {b : UInt8} {n : Nat} (h : b.toNat = 0x80 + n) (hn : n < 0x40) : isTail b = true := by
  simp only [isTail, Bool.and_eq_true, decide_eq_true_eq, UInt8.le_iff_toNat_le, h]
  exact ⟨Nat.le_add_right _ _, Nat.le_of_lt_succ (Nat.add_lt_add_left hn 0x80)⟩

theorem tailBits_of {b : UInt8} {n : Nat} (h : b.toNat = 0x80 + n) : tailBits b = n := by
  unfold tailBits
  omega

theorem first?_one {a : UInt8} {c : Char} (ha : a.toNat = c.toNat) (h : c.toNat < 0x80) (rest : Bytes) :
    first? (a :: rest) = some (c, 1) := by
  have h1 : a < 0x80 := by rw [UInt8.lt_iff_toNat_lt, ha]; exact h
  simp [first?, h1, ha, Char.ofNat_toNat]

theorem first?_two {a b : UInt8} {c : Char} (ha : a.toNat = 0xC0 + c.toNat / 0x40)
    (hb : b.toNat = 0x80 + c.toNat % 0x40) (h : 0x80 ≤ c.toNat ∧ c.toNat < 0x800) (rest : Bytes) :
    first? (a :: b :: rest) = some (c, 2) := by
  have h1 : ¬ a < 0x80 := by rw [UInt8.lt_iff_toNat_lt, ha]; simp; omega
  have h2 : 0xC2 ≤ a ∧ a ≤ 0xDF := by simp only [UInt8.le_iff_toNat_le, ha]; simp; omega
  have e : (a.toNat - 0xC0) * 0x40 + tailBits b = c.toNat := by rw [ha, tailBits_of hb]; omega
  simp [first?, h1, h2, isTail_of hb (by omega), e, Char.ofNat_toNat]

theorem first?_three {a b d : UInt8} {c : Char} (ha : a.toNat = 0xE0 + c.toNat / 0x1000)
    (hb : b.toNat = 0x80 + c.toNat / 0x40 % 0x40) (hd : d.toNat = 0x80 + c.toNat % 0x40)
    (h : 0x800 ≤ c.toNat ∧ c.toNat < 0x10000) (rest : Bytes) :
    first? (a :: b :: d :: rest) = some (c, 3) := by
  have hv := char_bounds c
  have h1 : ¬ a < 0x80 := by rw [UInt8.lt_iff_toNat_lt, ha]; simp; omega
  have h2 : ¬ (0xC2 ≤ a ∧ a ≤ 0xDF) := by simp only [UInt8.le_iff_toNat_le, ha]; simp; omega
  have h3 : 0xE0 ≤ a ∧ a ≤ 0xEF := by simp only [UInt8.le_iff_toNat_le, ha]; simp; omega
  have e : (a.toNat - 0xE0) * 0x1000 + tailBits b * 0x40 + tailBits d = c.toNat := by
    rw [ha, tailBits_of hb, tailBits_of hd]; omega
  have h4 : ¬ (0xD800 ≤ c.toNat ∧ c.toNat ≤ 0xDFFF) := by omega
  simp only [first?, h1, h2, h3, e, isTail_of hb (by omega), isTail_of hd (by omega), h.1, h4, if_false,
    if_true, decide_true, Bool.and_self, ← Bool.decide_and, decide_false, Bool.not_false,
    Bool.false_eq_true, Char.ofNat_toNat]

theorem first?_four {a b d f : UInt8} {c : Char} (ha : a.toNat = 0xF0 + c.toNat / 0x40000)
    (hb : b.toNat = 0x80 + c.toNat / 0x1000 % 0x40) (hd : d.toNat = 0x80 + c.toNat / 0x40 % 0x40)
    (hf : f.toNat = 0x80 + c.toNat % 0x40) (h : 0x10000 ≤ c.toNat) (rest : Bytes) :
    first? (a :: b :: d :: f :: rest) = some (c, 4) := by
  have hv := char_bounds c
  have h1 : ¬ a < 0x80 := by rw [UInt8.lt_iff_toNat_lt, ha]; simp; omega
  have h2 : ¬ (0xC2 ≤ a ∧ a ≤ 0xDF) := by simp only [UInt8.le_iff_toNat_le, ha]; simp; omega
  have h3 : ¬ (0xE0 ≤ a ∧ a ≤ 0xEF) := by simp only [UInt8.le_iff_toNat_le, ha]; simp; omega
  have h4 : 0xF0 ≤ a ∧ a ≤ 0xF4 := by simp only [UInt8.le_iff_toNat_le, ha]; simp; omega
  have e : (a.toNat - 0xF0) * 0x40000 + tailBits b * 0x1000 + tailBits d * 0x40 + tailBits f = c.toNat := by
    rw [ha, tailBits_of hb, tailBits_of hd, tailBits_of hf]; omega
  have h5 : 0x10000 ≤ c.toNat ∧ c.toNat ≤ 0x10FFFF := by omega
  simp only [first?, h1, h2, h3, h4, e, isTail_of hb (by omega), isTail_of hd (by omega),
    isTail_of hf (by omega), h5, if_false, if_true, decide_true, Bool.and_self, ← Bool.decide_and,
    decide_false, Bool.false_eq_true, Char.ofNat_toNat]

/-- The bytes of a character are read as that character. -/
theorem first?_encodeChar (c : Char) (rest : Bytes) :
    first? (encodeChar c ++ rest) = some (c, (encodeChar c).length) := by
  have hv := char_bounds c
  unfold encodeChar
  dsimp only
  split
  next h => exact first?_one (toNat_byte (by omega)) h rest
  next h =>
  split
  next h' => exact first?_two (toNat_byte (by omega)) (toNat_byte (by omega)) ⟨by omega, h'⟩ rest
  next h' =>
  split
  next h'' =>
    exact first?_three (toNat_byte (by omega)) (toNat_byte (by omega)) (toNat_byte (by omega))
      ⟨by omega, h''⟩ rest
  next h'' =>
    exact first?_four (toNat_byte (by omega)) (toNat_byte (by omega)) (toNat_byte (by omega))
      (toNat_byte (by omega)) (by omega) rest

theorem encodeChar_ne_nil (c : Char) : encodeChar c ≠ [] := by
  unfold encodeChar
  dsimp only
  split <;> try split <;> try split
  all_goals simp

/-! ## Strings -/

@[simp] theorem encode_nil : encode [] = [] := rfl

@[simp] theorem encode_cons (c : Char) (cs : List Char) : encode (c :: cs) = encodeChar c ++ encode cs := rfl

@[simp] theorem encode_append (cs ds : List Char) : encode (cs ++ ds) = encode cs ++ encode ds := by
  simp [encode]

theorem piecesFrom_skip (bs rest : Bytes) : piecesFrom bs.length (bs ++ rest) = pieces rest := by
  induction bs with
  | nil => rfl
  | cons b bs ih => exact ih

theorem pieces_encodeChar_append (c : Char) (rest : Bytes) :
    pieces (encodeChar c ++ rest) = .char c :: pieces rest := by
  have h := first?_encodeChar c rest
  cases hb : encodeChar c with
  | nil => exact absurd hb (encodeChar_ne_nil c)
  | cons b bs =>
    rw [hb] at h
    simp only [List.cons_append, List.length_cons] at h ⊢
    rw [pieces, piecesFrom, h]
    simp only [Nat.add_sub_cancel, piecesFrom_skip]

theorem pieces_encode_append (cs : List Char) (rest : Bytes) :
    pieces (encode cs ++ rest) = cs.map .char ++ pieces rest := by
  induction cs with
  | nil => rfl
  | cons c cs ih => rw [encode_cons, List.append_assoc, pieces_encodeChar_append, ih]; rfl

theorem decode_encode_append (cs : List Char) (rest : Bytes) : decode (encode cs ++ rest) = cs ++ decode rest := by
  have e : Piece.toChar ∘ Piece.char = id := rfl
  rw [decode, pieces_encode_append, List.map_append, List.map_map, e, List.map_id, decode]

/-- Characters that are written as bytes are read back. -/
@[simp] theorem decode_encode (cs : List Char) : decode (encode cs) = cs := by
  simpa [decode, pieces, piecesFrom] using decode_encode_append cs []

/-- A repaired text is read as the text it was made from. -/
@[simp] theorem decode_repair (bs : Bytes) : decode (repair bs) = decode bs := decode_encode _

@[simp] theorem repair_encode (cs : List Char) : repair (encode cs) = encode cs := by
  rw [repair, decode_encode]

@[simp] theorem repair_text (s : String) : repair (text s) = text s := repair_encode _

theorem decode_eq_nil {bs : Bytes} : decode bs = [] ↔ bs = [] := by
  constructor
  · intro h
    cases bs with
    | nil => rfl
    | cons b bs =>
      simp only [decode, pieces, piecesFrom] at h
      split at h <;> cases h
  · rintro rfl
    rfl

theorem repair_eq_nil {bs : Bytes} : repair bs = [] ↔ bs = [] := by
  rw [← decode_eq_nil, decode_repair, decode_eq_nil]

/-! ## Bytes that are read as a character -/

theorem toUInt8_of {b : UInt8} {n : Nat} (h : b.toNat = n) : n.toUInt8 = b := by
  subst h
  simp

theorem tailBits_spec {b : UInt8} (h : isTail b = true) : b.toNat = 0x80 + tailBits b ∧ tailBits b < 0x40 := by
  simp only [isTail, Bool.and_eq_true, decide_eq_true_eq, UInt8.le_iff_toNat_le] at h
  simp at h
  unfold tailBits
  omega

theorem encodeChar_ofNat_one {a : UInt8} (ha : a < 0x80) : encodeChar (Char.ofNat a.toNat) = [a] := by
  have ha : a.toNat < 0x80 := ha
  unfold encodeChar
  rw [toNat_ofNat (by omega)]
  dsimp only
  rw [if_pos ha, toUInt8_of rfl]

theorem encodeChar_ofNat_two {a b : UInt8} (ha : 0xC2 ≤ a ∧ a ≤ 0xDF) (hb : isTail b = true) :
    encodeChar (Char.ofNat ((a.toNat - 0xC0) * 0x40 + tailBits b)) = [a, b] := by
  have ha : 0xC2 ≤ a.toNat ∧ a.toNat ≤ 0xDF := ha
  obtain ⟨hb, hblt⟩ := tailBits_spec hb
  unfold encodeChar
  rw [toNat_ofNat (by omega)]
  dsimp only
  rw [if_neg (by omega), if_pos (by omega), toUInt8_of (b := a) (by omega), toUInt8_of (b := b) (by omega)]

theorem encodeChar_ofNat_three {a b d : UInt8} {n : Nat} (ha : 0xE0 ≤ a ∧ a ≤ 0xEF) (hb : isTail b = true)
    (hd : isTail d = true) (hn : n = (a.toNat - 0xE0) * 0x1000 + tailBits b * 0x40 + tailBits d) (hlow : 0x800 ≤ n)
    (hgap : ¬ (0xD800 ≤ n ∧ n ≤ 0xDFFF)) : encodeChar (Char.ofNat n) = [a, b, d] := by
  have ha : 0xE0 ≤ a.toNat ∧ a.toNat ≤ 0xEF := ha
  obtain ⟨hb, hblt⟩ := tailBits_spec hb
  obtain ⟨hd, hdlt⟩ := tailBits_spec hd
  unfold encodeChar
  rw [toNat_ofNat (by omega)]
  dsimp only
  rw [if_neg (by omega), if_neg (by omega), if_pos (by omega), toUInt8_of (b := a) (by omega),
    toUInt8_of (b := b) (by omega), toUInt8_of (b := d) (by omega)]

theorem encodeChar_ofNat_four {a b d f : UInt8} {n : Nat} (ha : 0xF0 ≤ a ∧ a ≤ 0xF4) (hb : isTail b = true)
    (hd : isTail d = true) (hf : isTail f = true)
    (hn : n = (a.toNat - 0xF0) * 0x40000 + tailBits b * 0x1000 + tailBits d * 0x40 + tailBits f) (hlow : 0x10000 ≤ n)
    (hhigh : n ≤ 0x10FFFF) : encodeChar (Char.ofNat n) = [a, b, d, f] := by
  have ha : 0xF0 ≤ a.toNat ∧ a.toNat ≤ 0xF4 := ha
  obtain ⟨hb, hblt⟩ := tailBits_spec hb
  obtain ⟨hd, hdlt⟩ := tailBits_spec hd
  obtain ⟨hf, hflt⟩ := tailBits_spec hf
  unfold encodeChar
  rw [toNat_ofNat (by omega)]
  dsimp only
  rw [if_neg (by omega), if_neg (by omega), if_neg (by omega), toUInt8_of (b := a) (by omega),
    toUInt8_of (b := b) (by omega), toUInt8_of (b := d) (by omega), toUInt8_of (b := f) (by omega)]

/-- What a text starts with is written by its first bytes. -/
theorem eq_append_of_first? {bs : Bytes} {c : Char} {n : Nat} (h : first? bs = some (c, n)) :
    ∃ rest, bs = encodeChar c ++ rest := by
  revert h
  fun_cases first? bs with
  | case2 a rest ha =>
    intro h
    obtain ⟨rfl, -⟩ := Prod.mk.inj (Option.some.inj h)
    exact ⟨rest, by rw [encodeChar_ofNat_one ha]; rfl⟩
  | case3 a _ ha b rest hb =>
    intro h
    obtain ⟨rfl, -⟩ := Prod.mk.inj (Option.some.inj h)
    rw [encodeChar_ofNat_two (by simpa using ha) hb]
    exact ⟨rest, rfl⟩
  | case6 a _ _ ha b d rest n hn =>
    intro h
    obtain ⟨rfl, -⟩ := Prod.mk.inj (Option.some.inj h)
    simp only [Bool.and_eq_true, Bool.not_eq_true', Bool.and_eq_false_iff, decide_eq_true_eq, decide_eq_false_iff_not] at ha hn
    obtain ⟨⟨⟨hb, hd⟩, hlow⟩, hgap⟩ := hn
    rw [encodeChar_ofNat_three ha hb hd rfl hlow (by omega)]
    exact ⟨rest, rfl⟩
  | case9 a _ _ _ ha b d f rest n hn =>
    intro h
    obtain ⟨rfl, -⟩ := Prod.mk.inj (Option.some.inj h)
    simp only [Bool.and_eq_true, decide_eq_true_eq] at ha hn
    obtain ⟨⟨⟨⟨hb, hd⟩, hf⟩, hlow⟩, hhigh⟩ := hn
    rw [encodeChar_ofNat_four ha hb hd hf rfl hlow hhigh]
    exact ⟨rest, rfl⟩
  | _ => nofun

/-! ## Valid texts -/

theorem pieces_cons_stray {b : UInt8} {bs : Bytes} (h : first? (b :: bs) = none) :
    pieces (b :: bs) = .stray b :: pieces bs := by
  rw [pieces, piecesFrom, h]
  rfl

/-- A text is made of characters and of bytes that start none, from its first byte on. -/
theorem pieces_induction {P : Bytes → Prop} (nil : P []) (char : ∀ c rest, P rest → P (encodeChar c ++ rest))
    (stray : ∀ b rest, first? (b :: rest) = none → P rest → P (b :: rest)) (bs : Bytes) : P bs := by
  match bs with
  | [] => exact nil
  | b :: bs =>
    cases hfirst : first? (b :: bs) with
    | none => exact stray b bs hfirst (pieces_induction nil char stray bs)
    | some p =>
      obtain ⟨rest, hbs⟩ := eq_append_of_first? hfirst
      have hlength : rest.length < (b :: bs).length := by
        have hc := List.length_pos_iff.mpr (encodeChar_ne_nil p.1)
        rw [hbs, List.length_append]
        omega
      rw [hbs]
      exact char p.1 rest (pieces_induction nil char stray rest)
termination_by bs.length
decreasing_by
  · exact Nat.lt_succ_self _
  · exact hlength

/-- A valid text is written by the characters that are read from it. -/
theorem repair_of_isValid {bs : Bytes} (h : isValid bs = true) : repair bs = bs := by
  induction bs using pieces_induction with
  | nil => rfl
  | char c rest ih =>
    rw [isValid, pieces_encodeChar_append, List.all_cons] at h
    rw [repair, decode, pieces_encodeChar_append, List.map_cons, encode_cons]
    exact congrArg _ (ih h)
  | stray b rest hfirst _ =>
    rw [isValid, pieces_cons_stray hfirst] at h
    cases h

theorem isValid_encode (cs : List Char) : isValid (encode cs) = true := by
  have h := pieces_encode_append cs []
  rw [List.append_nil] at h
  rw [isValid, h]
  simp [pieces, piecesFrom]

/-! ## Units -/

/-- The bytes of a unit. -/
def Piece.bytes : Piece → Bytes
  | .char c => encodeChar c
  | .stray b => [b]

/-- The units of a text hold all its bytes. -/
theorem flatMap_pieces (bs : Bytes) : (pieces bs).flatMap Piece.bytes = bs := by
  induction bs using pieces_induction with
  | nil => rfl
  | char c rest ih =>
    rw [pieces_encodeChar_append, List.flatMap_cons, ih]
    rfl
  | stray b rest hfirst ih =>
    rw [pieces_cons_stray hfirst, List.flatMap_cons, ih]
    rfl

theorem pieces_inj {as bs : Bytes} (h : pieces as = pieces bs) : as = bs := by
  rw [← flatMap_pieces as, h, flatMap_pieces]

/-- A byte that belongs to no character is not below 0x80. -/
theorem le_of_mem_pieces {b : UInt8} {bs : Bytes} (h : .stray b ∈ pieces bs) : 0x80 ≤ b.toNat := by
  induction bs using pieces_induction with
  | nil => cases h
  | char c rest ih =>
    rw [pieces_encodeChar_append] at h
    exact ih ((List.mem_cons.mp h).resolve_left nofun)
  | stray a rest hfirst ih =>
    rw [pieces_cons_stray hfirst] at h
    rcases List.mem_cons.mp h with h | h
    · cases h
      refine Nat.le_of_not_lt fun hlt => ?_
      have hb : b < 0x80 := UInt8.lt_iff_toNat_lt.mpr hlt
      simp [first?, hb] at hfirst
    · exact ih h

/-! ## Single bytes -/

/-- A byte below 0x80 stands for itself and is no part of another character. -/
theorem mem_encodeChar {b : UInt8} (h : b.toNat < 0x80) (c : Char) : b ∈ encodeChar c ↔ c.toNat = b.toNat := by
  have hv := char_bounds c
  unfold encodeChar
  dsimp only
  split
  next h' =>
    rw [List.mem_singleton, ← UInt8.toNat_inj, toNat_byte (by omega)]
    exact eq_comm
  next h' =>
    refine iff_of_false ?_ (by omega)
    split <;> try split
    all_goals
      simp only [List.mem_cons, List.not_mem_nil, or_false, ← UInt8.toNat_inj, not_or]
      refine ⟨?_, ?_⟩ <;> try refine ⟨?_, ?_⟩
      all_goals try refine ⟨?_, ?_⟩
      all_goals rw [toNat_byte (by omega)]; omega

theorem mem_encode {b : UInt8} (h : b.toNat < 0x80) (cs : List Char) :
    b ∈ encode cs ↔ Char.ofNat b.toNat ∈ cs := by
  have hn : (Char.ofNat b.toNat).toNat = b.toNat := toNat_ofNat (by omega)
  simp only [encode, List.mem_flatMap, mem_encodeChar h]
  constructor
  · rintro ⟨c, hc, e⟩
    rw [← e, Char.ofNat_toNat]
    exact hc
  · intro hc
    exact ⟨_, hc, hn⟩

end AuditShell.Utf8

namespace AuditShell.Bytes

/-! ## Splitting -/

theorem splitOn_ne_nil (sep : UInt8) (bs : Bytes) : splitOn sep bs ≠ [] := by
  cases bs with
  | nil => simp [splitOn]
  | cons b bs =>
    rw [splitOn]
    split
    · simp
    · split <;> simp

/-- The pieces on both sides of a separator. -/
theorem splitOn_append_sep (sep : UInt8) (as bs : Bytes) :
    splitOn sep (as ++ sep :: bs) = splitOn sep as ++ splitOn sep bs := by
  induction as with
  | nil => simp [splitOn]
  | cons a as ih =>
    simp only [List.cons_append, splitOn, ih]
    split
    · rfl
    · cases h : splitOn sep as with
      | nil => exact absurd h (splitOn_ne_nil sep as)
      | cons p ps => rfl

theorem splitOn_of_not_mem {sep : UInt8} {bs : Bytes} (h : sep ∉ bs) : splitOn sep bs = [bs] := by
  induction bs with
  | nil => rfl
  | cons b bs ih =>
    simp only [List.mem_cons, not_or] at h
    rw [splitOn, if_neg (Ne.symm h.1), ih h.2]

end AuditShell.Bytes
