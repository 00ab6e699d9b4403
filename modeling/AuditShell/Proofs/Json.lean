import AuditShell.Json.Parse
import AuditShell.Proofs.Text
import Mathlib.Tactic.Tauto
/-!
# JSON texts read back

`Json.parse_compact`: the compact text of a value is read as that value, with each stray byte of its
strings replaced. It needs that numbers are spelled as numbers and that the value nests no deeper
than the reader allows (`Value.Fits`). `Json.compact_line`: the text is a single line whatever its
strings hold, and `Json.compact_repair`: writing the repaired value gives the same text again.

Each form of a value has a lemma that pairs its text with how it is read (`ReadsValue`), for any
text that may follow. The fuel of the reader is twice the length of the text.
-/

namespace AuditShell.Json

/-! ## Strings -/

theorem hexValue?_hexDigit : ∀ n < 16, hexValue? (Quoted.hexDigit n) = some n := by decide

theorem hexQuad?_hex {n : Nat} (h : n < 0x10000) :
    ∃ a b c d, Quoted.hex 4 n = [a, b, c, d] ∧ hexQuad? a b c d = some n := by
  refine ⟨_, _, _, _, rfl, ?_⟩
  simp only [hexQuad?, hexValue?_hexDigit _ (Nat.mod_lt _ (by decide : 16 > 0)), Option.pure_def,
    Option.bind_eq_bind, Option.bind_some, Option.some.injEq]
  simp only [Nat.pow_eq]
  omega

/-- An escaped character is read as the character. -/
theorem stringBody_escapeChar (c : Char) (rest : List Char) :
    stringBody none (escapeChar c ++ rest) = (stringBody none rest).map fun s => (c :: s.1, s.2) := by
  unfold escapeChar
  split
  next h => rcases h with rfl | rfl <;> simp [stringBody, escaped?, unpaired]
  split
  next h => subst h; simp [stringBody, escaped?, unpaired]
  split
  next h => subst h; simp [stringBody, escaped?, unpaired]
  split
  next h => subst h; simp [stringBody, escaped?, unpaired]
  split
  next h => subst h; simp [stringBody, escaped?, unpaired]
  split
  next h => subst h; simp [stringBody, escaped?, unpaired]
  split
  next h =>
    have hn : c.toNat < 0xD800 := by
      rcases h with h | rfl | rfl | rfl | rfl | rfl
      · omega
      all_goals decide
    obtain ⟨x, y, z, w, he, hq⟩ := hexQuad?_hex (n := c.toNat) (by omega)
    have h1 : isHigh c.toNat = false := by simp [isHigh]; omega
    have h2 : isLow c.toNat = false := by simp [isLow]; omega
    simp [he, stringBody, hq, h1, h2]
  next h1 h2 h3 h4 h5 h6 h7 =>
    have hc : ¬ (c.toNat < 0x20 ∨ c = '\\') := by tauto
    -- the character is neither the quote nor a backslash, so only the last pattern fits it
    have e : stringBody none (c :: rest) = if c.toNat < 0x20 ∨ c = '\\' then none
        else (stringBody none rest).map fun s => unpaired none (c :: s.1, s.2) := by
      rw [stringBody.eq_def]
      split <;> simp_all
    rw [List.singleton_append, e, if_neg hc]
    rfl

theorem stringBody_escaped (cs rest : List Char) :
    stringBody none (cs.flatMap escapeChar ++ '"' :: rest) = some (cs, rest) := by
  induction cs with
  | nil => simp [stringBody, unpaired]
  | cons c cs ih => rw [List.flatMap_cons, List.append_assoc, stringBody_escapeChar, ih]; rfl

/-! ## Numbers -/

/-- One or more digits. -/
def Digits (ds : List Char) : Prop := ds ≠ [] ∧ ∀ c ∈ ds, isDigit c = true

/-- The integer part of a number: no zero in front of other digits. -/
def IsWhole (i : List Char) : Prop := i = ['0'] ∨ Digits i ∧ i.head? ≠ some '0'

/-- The fraction of a number, or none. -/
def IsFraction (f : List Char) : Prop := f = [] ∨ ∃ ds, Digits ds ∧ f = '.' :: ds

/-- The exponent of a number, or none. It is written with a sign. -/
def IsExponent (e : List Char) : Prop := e = [] ∨ ∃ s ds, (s = '+' ∨ s = '-') ∧ Digits ds ∧ e = 'e' :: s :: ds

/-- The characters of a number, with or without a minus sign. -/
def IsNumber (cs : List Char) : Prop :=
  ∃ sign i f e, (sign = [] ∨ sign = ['-']) ∧ IsWhole i ∧ IsFraction f ∧ IsExponent e ∧ cs = sign ++ i ++ f ++ e

/-- What may follow a value: the end, a comma or a closing bracket. -/
def Stops (rest : List Char) : Prop := ∀ c, rest.head? = some c → c = ',' ∨ c = ']' ∨ c = '\x7d'

/-- What follows does not go on with digits. -/
def NoDigit (rest : List Char) : Prop := ∀ c, rest.head? = some c → isDigit c = false

theorem Stops.noDigit {rest : List Char} (h : Stops rest) : NoDigit rest := by
  intro c hc
  rcases h c hc with rfl | rfl | rfl <;> rfl

theorem digits1_append {ds rest : List Char} (h : Digits ds) (hr : NoDigit rest) :
    digits1 (ds ++ rest) = some (ds, rest) := by
  have ht : (ds ++ rest).takeWhile isDigit = ds := by
    rw [List.takeWhile_append_of_pos h.2]
    cases rest with
    | nil => simp
    | cons c cs => simp [hr c rfl]
  have hd : (ds ++ rest).dropWhile isDigit = rest := by
    rw [List.dropWhile_append_of_pos h.2]
    cases rest with
    | nil => rfl
    | cons c cs => simp [hr c rfl]
  simp [digits1, ht, hd, h.1]

theorem integerPart_append {i rest : List Char} (h : IsWhole i) (hr : NoDigit rest) :
    integerPart (i ++ rest) = some (i, rest) := by
  rcases h with rfl | ⟨hd, h0⟩
  · rfl
  · rw [← digits1_append hd hr, integerPart.eq_def]
    split
    next r he =>
      cases i with
      | nil => exact absurd rfl hd.1
      | cons c cs => simp_all
    next => rfl

theorem fractionPart_append {f rest : List Char} (h : IsFraction f) (hr : NoDigit rest)
    (hp : f = [] → rest.head? ≠ some '.') : fractionPart (f ++ rest) = some (f, rest) := by
  rcases h with rfl | ⟨ds, hd, rfl⟩
  · rw [List.nil_append, fractionPart.eq_def]
    split
    next r => exact absurd rfl (hp rfl)
    next => rfl
  · simp [fractionPart, digits1_append hd hr]

theorem exponentPart_append {e rest : List Char} (h : IsExponent e) (hr : Stops rest) :
    exponentPart (e ++ rest) = some (e, rest) := by
  rcases h with rfl | ⟨s, ds, hs, hd, rfl⟩
  · match rest, hr with
    | [], _ => rfl
    | [c], hr => rcases hr c rfl with rfl | rfl | rfl <;> rfl
    | c :: d :: cs, hr => rcases hr c rfl with rfl | rfl | rfl <;> rfl
  · simp [exponentPart, hs, digits1_append hd hr.noDigit]

theorem Digits.cons_of {ds : List Char} (h : Digits ds) : ∃ c cs, ds = c :: cs ∧ isDigit c = true := by
  cases ds with
  | nil => exact absurd rfl h.1
  | cons c cs => exact ⟨c, cs, rfl, h.2 c (by simp)⟩

theorem IsWhole.digits {i : List Char} (h : IsWhole i) : Digits i := by
  rcases h with rfl | h
  · exact ⟨by simp, by simp [isDigit]⟩
  · exact h.1

/-- The characters of a number are read as that number, whatever may follow it. -/
theorem numberText_append {cs rest : List Char} (h : IsNumber cs) (hr : Stops rest) :
    numberText (cs ++ rest) = some (cs, rest) := by
  obtain ⟨sign, i, f, e, hs, hi, hf, he, rfl⟩ := h
  have he' : NoDigit (e ++ rest) ∧ (e ++ rest).head? ≠ some '.' := by
    rcases he with rfl | ⟨s, ds, -, -, rfl⟩
    · refine ⟨hr.noDigit, fun hd => ?_⟩
      rcases hr _ hd with h | h | h <;> cases h
    · simp [NoDigit, isDigit]
  have hf' : NoDigit (f ++ (e ++ rest)) := by
    rcases hf with rfl | ⟨ds, -, rfl⟩
    · exact he'.1
    · simp [NoDigit, isDigit]
  have hbody : ∀ sgn, ((integerPart (i ++ (f ++ (e ++ rest)))).bind fun a => (fractionPart a.2).bind fun b =>
      (exponentPart b.2).bind fun c => some (sgn ++ a.1 ++ b.1 ++ c.1, c.2)) = some (sgn ++ i ++ f ++ e, rest) := by
    intro sgn
    simp [integerPart_append hi hf', fractionPart_append hf he'.1 (fun _ => he'.2), exponentPart_append he hr]
  obtain ⟨c, cs, hic, hc⟩ := hi.digits.cons_of
  rcases hs with rfl | rfl
  · have hne : c ≠ '-' := by rintro rfl; simp [isDigit] at hc
    rw [← hbody []]
    simp only [List.nil_append, List.append_assoc, numberText]
    rw [hic]
    simp only [List.cons_append]
    split
    next r he => simp_all
    next => rfl
  · rw [← hbody ['-']]
    simp [numberText]

theorem IsNumber.cons_of {cs : List Char} (h : IsNumber cs) :
    ∃ c cs', cs = c :: cs' ∧ (isDigit c = true ∨ c = '-') := by
  obtain ⟨sign, i, f, e, hs, hi, -, -, rfl⟩ := h
  obtain ⟨c, ds, rfl, hc⟩ := hi.digits.cons_of
  rcases hs with rfl | rfl
  · exact ⟨c, ds ++ f ++ e, by simp, .inl hc⟩
  · exact ⟨'-', c :: ds ++ f ++ e, by simp, .inr rfl⟩

theorem readValue_number {cs rest : List Char} (fuel depth : Nat) (h : IsNumber cs) (hr : Stops rest) :
    readValue (fuel + 1) depth (cs ++ rest) = some (.number (Utf8.encode cs), rest) := by
  have hn := numberText_append h hr
  obtain ⟨c, cs', rfl, hc⟩ := h.cons_of
  have hne : ∀ d, (isDigit d || d == '-') = false → c ≠ d := by
    rintro d hd rfl
    rcases hc with hc | rfl
    · simp [hc] at hd
    · simp at hd
  rw [readValue, hn]
  · rfl
  -- a number starts like no other value
  all_goals
    intro r he
    rw [List.cons_append, List.cons.injEq] at he
    exact hne _ rfl he.1

/-! ## Values -/

namespace Value

mutual

/-- The value with each stray byte of its strings and names replaced. -/
def repair : Value → Value
  | .null => .null
  | .bool b => .bool b
  | .number t => .number t
  | .string s => .string (Utf8.repair s)
  | .array es => .array (repairElements es)
  | .object ms => .object (repairMembers ms)

/-- The elements of an array, repaired. -/
def repairElements : List Value → List Value
  | [] => []
  | v :: vs => v.repair :: repairElements vs

/-- The members of an object, repaired. -/
def repairMembers : List (Bytes × Value) → List (Bytes × Value)
  | [] => []
  | (k, v) :: ms => (Utf8.repair k, v.repair) :: repairMembers ms

end

mutual

/-- The value nests at most `depth` deep and the texts of its numbers are numbers. -/
def Fits (depth : Nat) : Value → Prop
  | .number t => ∃ cs, IsNumber cs ∧ t = Utf8.encode cs
  | .array es => 1 ≤ depth ∧ FitsElements (depth - 1) es
  | .object ms => 1 ≤ depth ∧ FitsMembers (depth - 1) ms
  | _ => True

/-- Each element of an array fits. -/
def FitsElements (depth : Nat) : List Value → Prop
  | [] => True
  | v :: vs => v.Fits depth ∧ FitsElements depth vs

/-- The value of each member of an object fits. -/
def FitsMembers (depth : Nat) : List (Bytes × Value) → Prop
  | [] => True
  | (_, v) :: ms => v.Fits depth ∧ FitsMembers depth ms

end

end Value

/-- A text that neither starts with white space nor with a closing bracket, and that is one line. -/
structure Inline (cs : List Char) : Prop where
  head : ∃ c cs', cs = c :: cs' ∧ isSpace c = false ∧ c ≠ ']' ∧ c ≠ '\x7d'
  line : '\n' ∉ cs

/-- The text of a value and that it is read back, whatever may follow it. -/
structure ReadsValue (depth : Nat) (v : Value) (cs : List Char) : Prop extends Inline cs where
  spelled : v.compact = Utf8.encode cs
  read : ∀ fuel rest, 2 * cs.length ≤ fuel + 1 → Stops rest →
    readValue fuel depth (cs ++ rest) = some (v.repair, rest)

/-- The text of the elements of an array and that it is read back up to the closing bracket. -/
structure ReadsElements (depth : Nat) (es : List Value) (cs : List Char) : Prop extends Inline cs where
  spelled : Value.compactElements es = Utf8.encode cs
  read : ∀ fuel rest, 2 * cs.length ≤ fuel →
    readElements fuel depth (cs ++ ']' :: rest) = some (Value.repairElements es, rest)

/-- The text of the members of an object and that it is read back up to the closing brace. -/
structure ReadsMembers (depth : Nat) (ms : List (Bytes × Value)) (cs : List Char) : Prop extends Inline cs where
  spelled : Value.compactMembers ms = Utf8.encode cs
  read : ∀ fuel rest, 2 * cs.length ≤ fuel →
    readMembers fuel depth (cs ++ '\x7d' :: rest) = some (Value.repairMembers ms, rest)

theorem Stops.of {c : Char} (h : c = ',' ∨ c = ']' ∨ c = '\x7d') (rest : List Char) : Stops (c :: rest) := by
  rintro d ⟨rfl⟩
  exact h

theorem skipSpace_cons {c : Char} (h : isSpace c = false) (cs : List Char) : skipSpace (c :: cs) = c :: cs := by
  simp [skipSpace, h]

theorem Inline.skipSpace_append {cs : List Char} (h : Inline cs) (rest : List Char) :
    skipSpace (cs ++ rest) = cs ++ rest := by
  obtain ⟨c, cs', rfl, hc, -⟩ := h.head
  exact skipSpace_cons hc _

theorem Inline.append {cs ds : List Char} (h : Inline cs) (hd : '\n' ∉ ds) : Inline (cs ++ ds) := by
  obtain ⟨c, cs', rfl, hc⟩ := h.head
  refine ⟨⟨c, cs' ++ ds, rfl, hc⟩, ?_⟩
  rw [List.mem_append, not_or]
  exact ⟨h.line, hd⟩

theorem newline_not_mem_escapeChar (c : Char) : '\n' ∉ escapeChar c := by
  unfold escapeChar
  split
  next h => rcases h with rfl | rfl <;> simp
  split
  next => simp
  split
  next => simp
  split
  next => simp
  split
  next => simp
  split
  next => simp
  split
  next =>
    have hd : ∀ n < 16, '\n' ≠ Quoted.hexDigit n := by decide
    simp only [Quoted.hex, List.mem_cons, List.not_mem_nil, or_false, not_or]
    refine ⟨by decide, by decide, ?_, ?_, ?_, ?_⟩
    all_goals exact hd _ (Nat.mod_lt _ (by decide))
  next h _ _ _ => simpa using Ne.symm h

/-- The characters of a string with its quotes. -/
def stringChars (s : Bytes) : List Char := '"' :: (Utf8.decode s).flatMap escapeChar ++ ['"']

theorem stringChars_append (s : Bytes) (rest : List Char) :
    stringChars s ++ rest = '"' :: ((Utf8.decode s).flatMap escapeChar ++ '"' :: rest) := by
  simp [stringChars]

theorem inline_string (s : Bytes) : Inline (stringChars s) := by
  refine ⟨⟨'"', _, rfl, by decide, by decide, by decide⟩, ?_⟩
  have h : '\n' ∉ (Utf8.decode s).flatMap escapeChar := by
    rw [List.mem_flatMap]
    rintro ⟨c, -, hc⟩
    exact newline_not_mem_escapeChar c hc
  simp [stringChars, h]

theorem IsNumber.inline {cs : List Char} (h : IsNumber cs) : Inline cs := by
  obtain ⟨c, cs', rfl, hc⟩ := h.cons_of
  refine ⟨⟨c, cs', rfl, ?_⟩, ?_⟩
  · rcases hc with hc | rfl
    · refine ⟨?_, ?_, ?_⟩
      · rw [Bool.eq_false_iff]
        intro hs
        simp only [isSpace, Bool.or_eq_true, beq_iff_eq] at hs
        rcases hs with ((rfl | rfl) | rfl) | rfl <;> simp [isDigit] at hc
      all_goals rintro rfl; simp [isDigit] at hc
    · decide
  · have hd : ∀ ds, Digits ds → '\n' ∉ ds := fun ds hds hm => by simpa [isDigit] using hds.2 _ hm
    obtain ⟨sign, i, f, e, hs, hi, hf, he, hcs⟩ := h
    rw [hcs]
    simp only [List.mem_append, not_or]
    refine ⟨⟨⟨?_, hd i hi.digits⟩, ?_⟩, ?_⟩
    · rcases hs with rfl | rfl <;> simp
    · rcases hf with rfl | ⟨ds, hds, rfl⟩
      · simp
      · simpa using hd ds hds
    · rcases he with rfl | ⟨s, ds, rfl | rfl, hds, rfl⟩
      · simp
      all_goals simpa using hd ds hds

/-! ### Each form of a value -/

theorem reads_null (depth : Nat) : ReadsValue depth .null ['n', 'u', 'l', 'l'] where
  head := ⟨_, _, rfl, by decide⟩
  line := by decide
  spelled := rfl
  read fuel rest h _ := by
    obtain ⟨f, rfl⟩ : ∃ f, fuel = f + 1 := ⟨fuel - 1, by simp at h; omega⟩
    rfl

theorem reads_bool (depth : Nat) (b : Bool) : ∃ cs, ReadsValue depth (.bool b) cs := by
  cases b
  · refine ⟨['f', 'a', 'l', 's', 'e'], ⟨⟨_, _, rfl, by decide⟩, by decide⟩, rfl, fun fuel rest h _ => ?_⟩
    obtain ⟨f, rfl⟩ : ∃ f, fuel = f + 1 := ⟨fuel - 1, by simp at h; omega⟩
    rfl
  · refine ⟨['t', 'r', 'u', 'e'], ⟨⟨_, _, rfl, by decide⟩, by decide⟩, rfl, fun fuel rest h _ => ?_⟩
    obtain ⟨f, rfl⟩ : ∃ f, fuel = f + 1 := ⟨fuel - 1, by simp at h; omega⟩
    rfl

theorem reads_number (depth : Nat) {cs : List Char} (h : IsNumber cs) :
    ReadsValue depth (.number (Utf8.encode cs)) cs where
  toInline := h.inline
  spelled := rfl
  read fuel rest hl hr := by
    obtain ⟨c, cs', rfl, -⟩ := h.cons_of
    obtain ⟨f, rfl⟩ : ∃ f, fuel = f + 1 := ⟨fuel - 1, by simp at hl; omega⟩
    exact readValue_number f depth h hr

theorem reads_string (depth : Nat) (s : Bytes) : ReadsValue depth (.string s) (stringChars s) where
  toInline := inline_string s
  spelled := rfl
  read fuel rest hl _ := by
    obtain ⟨f, rfl⟩ : ∃ f, fuel = f + 1 := ⟨fuel - 1, by simp [stringChars] at hl; omega⟩
    rw [stringChars_append, readValue, stringBody_escaped]
    rfl

theorem reads_empty_array (depth : Nat) : ReadsValue (depth + 1) (.array []) ['[', ']'] where
  head := ⟨_, _, rfl, by decide⟩
  line := by decide
  spelled := rfl
  read fuel rest h _ := by
    obtain ⟨f, rfl⟩ : ∃ f, fuel = f + 1 := ⟨fuel - 1, by simp at h; omega⟩
    rfl

theorem reads_array {depth : Nat} {es : List Value} {cs : List Char} (h : ReadsElements depth es cs) :
    ReadsValue (depth + 1) (.array es) ('[' :: (cs ++ [']'])) where
  head := ⟨_, _, rfl, by decide⟩
  line := by simp [h.line]
  spelled := by
    rw [Value.compact, h.spelled]
    simp [text]
  read fuel rest hl _ := by
    obtain ⟨f, rfl⟩ : ∃ f, fuel = f + 1 := ⟨fuel - 1, by simp at hl; omega⟩
    have hread := h.read f rest (by simp at hl; omega)
    have hskip := h.skipSpace_append (']' :: rest)
    obtain ⟨c, cs', rfl, -, hc, -⟩ := h.head
    simp only [List.cons_append, List.append_assoc, List.nil_append] at hread hskip ⊢
    rw [readValue]
    simp only [hskip]
    split
    next r he => exact absurd (List.cons.inj he).1 hc
    next => rw [hread]; rfl

theorem reads_empty_object (depth : Nat) : ReadsValue (depth + 1) (.object []) ['\x7b', '\x7d'] where
  head := ⟨_, _, rfl, by decide⟩
  line := by decide
  spelled := rfl
  read fuel rest h _ := by
    obtain ⟨f, rfl⟩ : ∃ f, fuel = f + 1 := ⟨fuel - 1, by simp at h; omega⟩
    rfl

/-- An object is read up to its closing brace, whatever follows it. -/
theorem ReadsMembers.readValue {depth : Nat} {ms : List (Bytes × Value)} {cs : List Char} (h : ReadsMembers depth ms cs)
    {fuel : Nat} (hfuel : 2 * cs.length < fuel) (rest : List Char) :
    readValue fuel (depth + 1) ('\x7b' :: (cs ++ '\x7d' :: rest)) = some ((Value.object ms).repair, rest) := by
  obtain ⟨f, rfl⟩ : ∃ f, fuel = f + 1 := ⟨fuel - 1, by omega⟩
  have hread := h.read f rest (by omega)
  have hskip := h.skipSpace_append ('\x7d' :: rest)
  obtain ⟨c, cs', rfl, -, -, hc⟩ := h.head
  simp only [List.cons_append] at hread hskip ⊢
  rw [Json.readValue]
  simp only [hskip]
  split
  next r he => exact absurd (List.cons.inj he).1 hc
  next => rw [hread]; rfl

theorem reads_object {depth : Nat} {ms : List (Bytes × Value)} {cs : List Char} (h : ReadsMembers depth ms cs) :
    ReadsValue (depth + 1) (.object ms) ('\x7b' :: (cs ++ ['\x7d'])) where
  head := ⟨_, _, rfl, by decide⟩
  line := by simp [h.line]
  spelled := by
    rw [Value.compact, h.spelled]
    simp [text]
  read fuel rest hl _ := by
    rw [List.cons_append, List.append_assoc, List.singleton_append]
    exact h.readValue (by simp at hl; omega) rest

/-! ### Elements and members -/

theorem reads_element {depth : Nat} {v : Value} {cs : List Char} (h : ReadsValue depth v cs) :
    ReadsElements depth [v] cs where
  toInline := h.toInline
  spelled := by rw [Value.compactElements, h.spelled]
  read fuel rest hl := by
    obtain ⟨c, cs', rfl, -⟩ := h.head
    obtain ⟨f, rfl⟩ : ∃ f, fuel = f + 1 := ⟨fuel - 1, by simp at hl; omega⟩
    rw [readElements, h.read f (']' :: rest) hl (.of (by decide) rest)]
    rfl

theorem reads_elements {depth : Nat} {v w : Value} {vs : List Value} {cs ds : List Char}
    (h : ReadsValue depth v cs) (ht : ReadsElements depth (w :: vs) ds) :
    ReadsElements depth (v :: w :: vs) (cs ++ ',' :: ds) where
  toInline := h.toInline.append (by simp [ht.line])
  spelled := by
    rw [Value.compactElements, h.spelled, ht.spelled]
    simp [text]
  read fuel rest hl := by
    obtain ⟨f, rfl⟩ : ∃ f, fuel = f + 1 := ⟨fuel - 1, by simp at hl; omega⟩
    simp only [List.length_append, List.length_cons] at hl
    have hv := h.read f (',' :: (ds ++ ']' :: rest)) (by omega) (.of (by decide) _)
    have hs := skipSpace_cons (c := ',') (by decide) (ds ++ ']' :: rest)
    rw [List.append_assoc, List.cons_append, readElements, hv]
    simp only [hs, ht.skipSpace_append, ht.read f rest (by omega)]
    rfl

theorem reads_member {depth : Nat} (k : Bytes) {v : Value} {cs : List Char} (h : ReadsValue depth v cs) :
    ReadsMembers depth [(k, v)] (stringChars k ++ ':' :: cs) where
  toInline := (inline_string k).append (by simp [h.line])
  spelled := by
    rw [Value.compactMembers, h.spelled]
    simp [text, writeString, stringChars]
  read fuel rest hl := by
    obtain ⟨f, rfl⟩ : ∃ f, fuel = f + 1 := ⟨fuel - 1, by simp at hl; omega⟩
    simp only [List.length_append, List.length_cons] at hl
    have hv := h.read f ('\x7d' :: rest) (by omega) (.of (by decide) rest)
    have hs := skipSpace_cons (c := ':') (by decide) (cs ++ '\x7d' :: rest)
    rw [List.append_assoc, stringChars_append, List.cons_append, readMembers]
    simp only [stringBody_escaped, hs, h.skipSpace_append, hv]
    rfl

theorem reads_members {depth : Nat} (k : Bytes) {v : Value} {m : Bytes × Value} {ms : List (Bytes × Value)}
    {cs ds : List Char} (h : ReadsValue depth v cs) (ht : ReadsMembers depth (m :: ms) ds) :
    ReadsMembers depth ((k, v) :: m :: ms) (stringChars k ++ ':' :: (cs ++ ',' :: ds)) where
  toInline := (inline_string k).append (by simp [h.line, ht.line])
  spelled := by
    rw [Value.compactMembers, h.spelled, ht.spelled]
    simp [text, writeString, stringChars]
  read fuel rest hl := by
    obtain ⟨f, rfl⟩ : ∃ f, fuel = f + 1 := ⟨fuel - 1, by simp at hl; omega⟩
    simp only [List.length_append, List.length_cons] at hl
    have hv := h.read f (',' :: (ds ++ '\x7d' :: rest)) (by omega) (.of (by decide) _)
    have hs := skipSpace_cons (c := ':') (by decide) (cs ++ ',' :: (ds ++ '\x7d' :: rest))
    have hs' := skipSpace_cons (c := ',') (by decide) (ds ++ '\x7d' :: rest)
    rw [List.append_assoc, stringChars_append, List.cons_append, List.append_assoc, List.cons_append, readMembers]
    simp only [stringBody_escaped, hs, h.skipSpace_append, hv, hs', ht.skipSpace_append, ht.read f rest (by omega)]
    rfl

mutual

/-- Every value that fits is read back from its text. -/
theorem reads_value : ∀ (depth : Nat) (v : Value), v.Fits depth → ∃ cs, ReadsValue depth v cs
  | depth, .null, _ => ⟨_, reads_null depth⟩
  | depth, .bool b, _ => reads_bool depth b
  | depth, .number _, h => by
    obtain ⟨cs, hcs, rfl⟩ := h
    exact ⟨cs, reads_number depth hcs⟩
  | depth, .string s, _ => ⟨_, reads_string depth s⟩
  | depth + 1, .array [], _ => ⟨_, reads_empty_array depth⟩
  | depth + 1, .array (v :: vs), h => by
    obtain ⟨cs, hcs⟩ := reads_all_elements depth v vs h.2
    exact ⟨_, reads_array hcs⟩
  | depth + 1, .object [], _ => ⟨_, reads_empty_object depth⟩
  | depth + 1, .object (m :: ms), h => by
    obtain ⟨cs, hcs⟩ := reads_all_members depth m ms h.2
    exact ⟨_, reads_object hcs⟩
  | 0, .array _, h => absurd h.1 (by decide)
  | 0, .object _, h => absurd h.1 (by decide)

theorem reads_all_elements : ∀ (depth : Nat) (v : Value) (vs : List Value),
    Value.FitsElements depth (v :: vs) → ∃ cs, ReadsElements depth (v :: vs) cs
  | depth, v, [], h => by
    obtain ⟨cs, hcs⟩ := reads_value depth v h.1
    exact ⟨cs, reads_element hcs⟩
  | depth, v, w :: vs, h => by
    obtain ⟨cs, hcs⟩ := reads_value depth v h.1
    obtain ⟨ds, hds⟩ := reads_all_elements depth w vs h.2
    exact ⟨_, reads_elements hcs hds⟩

theorem reads_all_members : ∀ (depth : Nat) (m : Bytes × Value) (ms : List (Bytes × Value)),
    Value.FitsMembers depth (m :: ms) → ∃ cs, ReadsMembers depth (m :: ms) cs
  | depth, (k, v), [], h => by
    obtain ⟨cs, hcs⟩ := reads_value depth v h.1
    exact ⟨_, reads_member k hcs⟩
  | depth, (k, v), m :: ms, h => by
    obtain ⟨cs, hcs⟩ := reads_value depth v h.1
    obtain ⟨ds, hds⟩ := reads_all_members depth m ms h.2
    exact ⟨_, reads_members k hcs hds⟩

end

/-- The compact text of a value is read as the value with its strings repaired. -/
theorem parse_compact {v : Value} (h : v.Fits maxDepth) : Value.parse v.compact = some v.repair := by
  obtain ⟨cs, hcs⟩ := reads_value maxDepth v h
  have hr := hcs.read (2 * cs.length + 2) [] (by omega) (fun c hc => by cases hc)
  have hs := hcs.skipSpace_append []
  rw [List.append_nil] at hr hs
  rw [Value.parse, hcs.spelled, Utf8.decode_encode, parseChars, hs, hr]
  rfl

/-- The text of a value behind the text of an object makes a text of no value. -/
theorem parse_object_append {ms : List (Bytes × Value)} {v : Value} (hne : ms ≠ [])
    (h : (Value.object ms).Fits maxDepth) (hv : v.Fits maxDepth) :
    Value.parse ((Value.object ms).compact ++ v.compact) = none := by
  obtain ⟨m, ms, rfl⟩ := List.exists_cons_of_ne_nil hne
  obtain ⟨cs, hcs⟩ := reads_all_members (maxDepth - 1) m ms h.2
  obtain ⟨ds, hds⟩ := reads_value maxDepth v hv
  have hspelled : (Value.object (m :: ms)).compact ++ v.compact = Utf8.encode ('\x7b' :: (cs ++ '\x7d' :: ds)) := by
    rw [(reads_object hcs).spelled, hds.spelled]
    simp [Utf8.encode]
  have hlength : 2 * cs.length < 2 * ('\x7b' :: (cs ++ '\x7d' :: ds)).length + 2 := by
    simp
    omega
  have hread := hcs.readValue hlength ds
  have hrest : (skipSpace ds).isEmpty = false := by
    have hskip := hds.skipSpace_append []
    obtain ⟨d, ds', rfl, -⟩ := hds.head
    rw [List.append_nil] at hskip
    rw [hskip]
    rfl
  rw [Value.parse, hspelled, Utf8.decode_encode, parseChars, skipSpace_cons (by decide),
    show maxDepth = maxDepth - 1 + 1 from rfl, hread]
  simp [hrest]

/-- The compact text of a value is one line, and not an empty one. -/
theorem compact_line {v : Value} {depth : Nat} (h : v.Fits depth) : 0x0A ∉ v.compact ∧ v.compact ≠ [] := by
  obtain ⟨cs, hcs⟩ := reads_value depth v h
  rw [hcs.spelled]
  refine ⟨fun hm => hcs.line ((Utf8.mem_encode (by decide) cs).1 hm), ?_⟩
  obtain ⟨c, cs', rfl, -⟩ := hcs.head
  simp [Utf8.encodeChar_ne_nil]

/-! ## Writing what was read -/

theorem writeString_repair (s : Bytes) : writeString (Utf8.repair s) = writeString s := by
  rw [writeString, Utf8.decode_repair, writeString]

mutual

/-- A repaired value has the text of the value it was made from. -/
theorem compact_repair : ∀ v : Value, v.repair.compact = v.compact
  | .null => rfl
  | .bool _ => rfl
  | .number _ => rfl
  | .string s => writeString_repair s
  | .array es => by rw [Value.repair, Value.compact, Value.compact, compact_repair_elements es]
  | .object ms => by rw [Value.repair, Value.compact, Value.compact, compact_repair_members ms]

theorem compact_repair_elements : ∀ es : List Value,
    Value.compactElements (Value.repairElements es) = Value.compactElements es
  | [] => rfl
  | [v] => by simp only [Value.repairElements, Value.compactElements, compact_repair v]
  | v :: w :: vs => by
    have ih := compact_repair_elements (w :: vs)
    simp only [Value.repairElements, Value.compactElements, compact_repair v] at ih ⊢
    rw [ih]

theorem compact_repair_members : ∀ ms : List (Bytes × Value),
    Value.compactMembers (Value.repairMembers ms) = Value.compactMembers ms
  | [] => rfl
  | [(k, v)] => by simp only [Value.repairMembers, Value.compactMembers, compact_repair v, writeString_repair]
  | (k, v) :: (l, w) :: ms => by
    have ih := compact_repair_members ((l, w) :: ms)
    simp only [Value.repairMembers, Value.compactMembers, compact_repair v, writeString_repair] at ih ⊢
    rw [ih]

end

end AuditShell.Json
