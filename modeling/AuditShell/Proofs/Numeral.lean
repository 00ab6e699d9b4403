import AuditShell.Audit.Entry
import AuditShell.Proofs.Double
import AuditShell.Proofs.Json
import Mathlib.Data.List.TakeWhile
/-!
# Numbers in entries

The numbers of an entry are written in decimal and read back as they were: the sequence number
(`unsigned?_ofNat`), the exit code (`signed?_ofInt`) and the duration (`double?_render`). For the
duration, each of the four layouts says the digits and the power of ten that it was made from
(`says_layout`), and those are read as the double (`Double.reads_of_value`).
-/

namespace AuditShell.Audit.Entry

open Json (Digits IsWhole IsFraction IsExponent IsNumber)

/-! ## Natural numbers -/

theorem isDigit_iff {c : Char} : Json.isDigit c = true ↔ 48 ≤ c.toNat ∧ c.toNat ≤ 57 := by
  simp only [Json.isDigit, Bool.and_eq_true, decide_eq_true_eq, Char.le_def, UInt32.le_iff_toNat_le]
  rfl

theorem digits_toDigits (n : ℕ) : Digits (Nat.toDigits 10 n) := by
  refine ⟨Nat.toDigits_ne_nil, fun c hc => ?_⟩
  have h := Nat.isDigit_of_mem_toDigits (by decide) (by decide) hc
  simp only [Char.isDigit, Bool.and_eq_true, decide_eq_true_eq, ge_iff_le, UInt32.le_iff_toNat_le] at h
  exact isDigit_iff.2 h

theorem head_toDigits {n : ℕ} (hn : 0 < n) : (Nat.toDigits 10 n).head? ≠ some '0' := by
  induction n using Nat.strong_induction_on with
  | _ n ih =>
    rw [Nat.toDigits_eq_if (by decide)]
    split
    · simpa using hn.ne'
    · rw [List.head?_append_of_ne_nil _ Nat.toDigits_ne_nil]
      exact ih (n / 10) (by omega) (by omega)

theorem isWhole_toDigits (n : ℕ) : IsWhole (Nat.toDigits 10 n) := by
  rcases Nat.eq_zero_or_pos n with rfl | hn
  · exact .inl rfl
  · exact .inr ⟨digits_toDigits n, head_toDigits hn⟩

theorem decimalValue_append (ds es : List Char) :
    decimalValue (ds ++ es) = 10 ^ es.length * decimalValue ds + decimalValue es :=
  (Nat.ofDigitChars_append 0).trans Nat.ofDigitChars_eq_ofDigitChars_zero

@[simp] theorem decimalValue_toDigits (n : ℕ) : decimalValue (Nat.toDigits 10 n) = n :=
  Nat.ofDigitChars_ten_toDigits

@[simp] theorem decimalValue_zeros (k : ℕ) : decimalValue (List.replicate k '0') = 0 := by
  have h : Nat.ofDigitChars 10 (List.replicate k '0') 0 = 10 ^ k * 0 := Nat.ofDigitChars_replicate_zero
  rwa [Nat.mul_zero] at h

theorem natural?_toDigits (n : ℕ) : natural? (Nat.toDigits 10 n) = some n := by
  have h := digits_toDigits n
  rw [natural?, if_pos ⟨h.1, List.all_eq_true.2 h.2⟩, decimalValue_toDigits]

theorem ofNat_eq (n : ℕ) : Bytes.ofNat n = Utf8.encode (Nat.toDigits 10 n) := by
  simp [Bytes.ofNat, text]

theorem isNumber_toDigits (n : ℕ) : IsNumber (Nat.toDigits 10 n) :=
  ⟨[], _, [], [], .inl rfl, isWhole_toDigits n, .inl rfl, .inl rfl, by simp⟩

theorem unsigned?_ofNat (n : UInt64) : unsigned? (Utf8.decode (Bytes.ofNat n.toNat)) = some n := by
  rw [ofNat_eq, Utf8.decode_encode, unsigned?, natural?_toDigits]
  simp only [Word.count, UInt64.toNat_lt n]
  simp

/-! ## Integers -/

/-- The characters of an integer. -/
def intChars (n : ℤ) : List Char := if n < 0 then '-' :: Nat.toDigits 10 n.natAbs else Nat.toDigits 10 n.natAbs

theorem ofInt_eq (n : ℤ) : Bytes.ofInt n = Utf8.encode (intChars n) := by
  rw [Bytes.ofInt, text, intChars, Int.toString_eq_repr, Int.repr_eq_if]
  split
  next h =>
    have e : n.toNat = n.natAbs := by omega
    rw [if_neg (by omega), Nat.toList_repr, e]
  next h =>
    have e : (-n).toNat = n.natAbs := by omega
    rw [if_pos (by omega), String.toList_append, Nat.toList_repr, e]
    rfl

theorem isNumber_intChars (n : ℤ) : IsNumber (intChars n) := by
  unfold intChars
  split
  · exact ⟨['-'], Nat.toDigits 10 n.natAbs, [], [], .inr rfl, isWhole_toDigits _, .inl rfl, .inl rfl, by simp⟩
  · exact isNumber_toDigits _

theorem signed?_ofInt {n : ℤ} (h : Word.holds n = true) : signed? (Utf8.decode (Bytes.ofInt n)) = some n := by
  simp only [Word.holds, Bool.and_eq_true, decide_eq_true_eq] at h
  have hl : -(Word.half : ℤ) ≤ n := h.1
  have hu := h.2
  rw [ofInt_eq, Utf8.decode_encode, intChars]
  split
  next hn =>
    have e : -(n.natAbs : ℤ) = n := by omega
    rw [signed?, natural?_toDigits]
    dsimp only
    rw [if_pos (by omega), e]
  next hn =>
    obtain ⟨c, cs, hc, hd⟩ := (digits_toDigits n.natAbs).cons_of
    have hnat := natural?_toDigits n.natAbs
    rw [hc] at hnat ⊢
    have hne : c ≠ '-' := by rintro rfl; cases hd
    rw [signed?.eq_def]
    split
    next ds he => exact absurd (List.cons.inj he).1 hne
    next =>
      have e : (n.natAbs : ℤ) = n := by omega
      rw [hnat]
      dsimp only
      rw [if_pos (by omega), e]

/-! ## Doubles -/

theorem takeWhile_mark {m : List Char} (h : ∀ c ∈ m, c ≠ 'e' ∧ c ≠ 'E') (rest : List Char) :
    (m ++ 'e' :: rest).takeWhile (fun c => c ≠ 'e' ∧ c ≠ 'E') = m := by
  rw [List.takeWhile_append_of_pos (by simpa using h)]
  simp

theorem takeWhile_all {m : List Char} (h : ∀ c ∈ m, c ≠ 'e' ∧ c ≠ 'E') :
    m.takeWhile (fun c => c ≠ 'e' ∧ c ≠ 'E') = m := by
  rw [List.takeWhile_eq_self_iff]
  simpa using h

/-- The characters of a number before its exponent, with the digits after the point apart. -/
structure Mantissa (m whole frac : List Char) : Prop where
  whole_digits : ∀ c ∈ whole, Json.isDigit c = true
  frac_digits : ∀ c ∈ frac, Json.isDigit c = true
  spelled : m = whole ∧ frac = [] ∨ m = whole ++ '.' :: frac

theorem Mantissa.split {m whole frac : List Char} (h : Mantissa m whole frac) :
    m.takeWhile (· ≠ '.') = whole ∧ (m.drop whole.length).drop 1 = frac := by
  have hw : ∀ c ∈ whole, decide (c ≠ '.') = true := by
    intro c hc
    have := h.whole_digits c hc
    rw [decide_eq_true_eq]
    rintro rfl
    cases this
  rcases h.spelled with ⟨rfl, rfl⟩ | rfl
  · exact ⟨List.takeWhile_eq_self_iff.2 hw, by simp⟩
  · refine ⟨?_, by simp⟩
    rw [List.takeWhile_append_of_pos hw]
    simp

theorem Mantissa.no_mark {m whole frac : List Char} (h : Mantissa m whole frac) : ∀ c ∈ m, c ≠ 'e' ∧ c ≠ 'E' := by
  have hd : ∀ c, Json.isDigit c = true → c ≠ 'e' ∧ c ≠ 'E' := by
    intro c hc
    constructor <;> (rintro rfl; cases hc)
  intro c hc
  rcases h.spelled with ⟨rfl, rfl⟩ | rfl
  · exact hd c (h.whole_digits c hc)
  · rcases List.mem_append.1 hc with hc | hc
    · exact hd c (h.whole_digits c hc)
    · rcases List.mem_cons.1 hc with rfl | hc
      · decide
      · exact hd c (h.frac_digits c hc)

theorem scientific_plain {m whole frac : List Char} (h : Mantissa m whole frac) :
    scientific m = (decimalValue (whole ++ frac), -(frac.length : ℤ)) := by
  obtain ⟨h1, h2⟩ := h.split
  simp only [scientific, takeWhile_all h.no_mark, h1, h2, List.drop_length]
  simp [decimalValue]

theorem scientific_mark {m whole frac : List Char} (h : Mantissa m whole frac) (negative : Bool) (ds : List Char) :
    scientific (m ++ 'e' :: (if negative then '-' else '+') :: ds) =
      (decimalValue (whole ++ frac),
        (if negative then -(decimalValue ds : ℤ) else decimalValue ds) - (frac.length : ℤ)) := by
  obtain ⟨h1, h2⟩ := h.split
  simp only [scientific, takeWhile_mark h.no_mark, h1, h2, List.drop_left]
  cases negative <;> rfl

/-- The digits of a number and a power of ten, laid out as a double is written. -/
def layout (ds : List Char) (power : ℤ) : List Char :=
  let point := (ds.length : ℤ) + power
  if point ≤ -6 ∨ 21 < point then
    ds.take 1 ++ (if ds.length = 1 then [] else '.' :: ds.drop 1) ++
      (if point - 1 < 0 then ['e', '-'] else ['e', '+']) ++ Nat.toDigits 10 (point - 1).natAbs
  else if point ≤ 0 then '0' :: '.' :: List.replicate (-point).toNat '0' ++ ds
  else if ds.length ≤ point then ds ++ List.replicate (point - ds.length).toNat '0'
  else ds.take point.toNat ++ '.' :: ds.drop point.toNat

theorem render_eq {d : Double} (hm : 0 < d.mantissa) :
    d.render = Utf8.encode ((if d.negative then ['-'] else []) ++
      layout (Nat.toDigits 10 (d.shortest.trim 20).digits) (d.shortest.trim 20).power) := by
  rw [Double.render, if_neg hm.ne', Utf8.encode_append]
  cases d.negative <;> rfl

/-- A layout is a number that says its digits and power. -/
structure Says (n : ℕ) (power : ℤ) (cs : List Char) : Prop where
  number : ∃ i f e, IsWhole i ∧ IsFraction f ∧ IsExponent e ∧ cs = i ++ f ++ e
  value : Double.decimal (scientific cs).1 (scientific cs).2 = Double.decimal n power

theorem zeros_digits (k : ℕ) : ∀ c ∈ List.replicate k '0', Json.isDigit c = true := by
  intro c hc
  rw [List.eq_of_mem_replicate hc]
  rfl

theorem all_digits_append {ds es : List Char} (h : ∀ c ∈ ds, Json.isDigit c = true)
    (h' : ∀ c ∈ es, Json.isDigit c = true) : ∀ c ∈ ds ++ es, Json.isDigit c = true := by
  intro c hc
  rcases List.mem_append.1 hc with hc | hc
  · exact h c hc
  · exact h' c hc

section
variable {ds : List Char} (hds : Digits ds) (hhead : ds.head? ≠ some '0')
include hds

theorem says_small (k : ℕ) : Says (decimalValue ds) (-(k + ds.length : ℕ)) ('0' :: '.' :: List.replicate k '0' ++ ds) := by
  have hall := all_digits_append (zeros_digits k) hds.2
  have hm : Mantissa ('0' :: '.' :: List.replicate k '0' ++ ds) ['0'] (List.replicate k '0' ++ ds) :=
    ⟨by simp [Json.isDigit], hall, .inr rfl⟩
  refine ⟨⟨['0'], '.' :: (List.replicate k '0' ++ ds), [], .inl rfl, .inr ⟨_, ⟨?_, hall⟩, rfl⟩, .inl rfl, by simp⟩, ?_⟩
  · simp [hds.1]
  · have hv : decimalValue (['0'] ++ (List.replicate k '0' ++ ds)) = decimalValue ds := by
      rw [decimalValue_append, decimalValue_append, decimalValue_zeros]
      simp [decimalValue]
    rw [scientific_plain hm, hv]
    simp

include hhead

theorem says_whole (k : ℕ) : Says (decimalValue ds) k (ds ++ List.replicate k '0') := by
  have hall := all_digits_append hds.2 (zeros_digits k)
  have hm : Mantissa (ds ++ List.replicate k '0') (ds ++ List.replicate k '0') [] :=
    ⟨hall, by simp, .inl ⟨rfl, rfl⟩⟩
  have hw : IsWhole (ds ++ List.replicate k '0') := by
    refine .inr ⟨⟨by simp [hds.1], hall⟩, ?_⟩
    rwa [List.head?_append_of_ne_nil _ hds.1]
  refine ⟨⟨_, [], [], hw, .inl rfl, .inl rfl, by simp⟩, ?_⟩
  rw [scientific_plain hm, List.append_nil, decimalValue_append]
  simp only [decimalValue_zeros, Double.decimal, List.length_replicate, List.length_nil]
  push_cast
  simp [mul_comm]

theorem says_point {k : ℕ} (h0 : 0 < k) (hk : k < ds.length) :
    Says (decimalValue ds) (k - ds.length) (ds.take k ++ '.' :: ds.drop k) := by
  have ht : ∀ c ∈ ds.take k, Json.isDigit c = true := fun c hc => hds.2 c (List.mem_of_mem_take hc)
  have hd : ∀ c ∈ ds.drop k, Json.isDigit c = true := fun c hc => hds.2 c (List.mem_of_mem_drop hc)
  have hm : Mantissa (ds.take k ++ '.' :: ds.drop k) (ds.take k) (ds.drop k) := ⟨ht, hd, .inr rfl⟩
  have hw : IsWhole (ds.take k) := by
    refine .inr ⟨⟨?_, ht⟩, ?_⟩
    · simp [hds.1, h0.ne']
    · rwa [List.head?_take, if_neg h0.ne']
  refine ⟨⟨_, '.' :: ds.drop k, [], hw, .inr ⟨_, ⟨?_, hd⟩, rfl⟩, .inl rfl, by simp⟩, ?_⟩
  · simpa using hk
  · rw [scientific_plain hm, List.take_append_drop, List.length_drop]
    congr 1
    omega

theorem says_exponent (power : ℤ) :
    Says (decimalValue ds) power (ds.take 1 ++ (if ds.length = 1 then [] else '.' :: ds.drop 1) ++
      (if (ds.length + power - 1 : ℤ) < 0 then ['e', '-'] else ['e', '+']) ++
        Nat.toDigits 10 (ds.length + power - 1 : ℤ).natAbs) := by
  obtain ⟨c, cs, rfl, hc⟩ := hds.cons_of
  have hcs : ∀ x ∈ cs, Json.isDigit x = true := fun x hx => hds.2 x (by simp [hx])
  simp only [List.take_succ_cons, List.take_zero, List.drop_succ_cons, List.drop_zero, List.length_cons,
    Nat.add_eq_right, List.length_eq_zero_iff]
  have hm : Mantissa ([c] ++ if cs = [] then [] else '.' :: cs) [c] cs := by
    refine ⟨by simpa using hc, hcs, ?_⟩
    split
    next h => exact .inl ⟨by simp, h⟩
    next => exact .inr rfl
  have hf : IsFraction (if cs = [] then [] else '.' :: cs) := by
    split
    next => exact .inl rfl
    next h => exact .inr ⟨cs, ⟨h, hcs⟩, rfl⟩
  have hw : IsWhole [c] := .inr ⟨⟨by simp, by simpa using hc⟩, by simpa using hhead⟩
  generalize hp : (((cs.length + 1 : ℕ) : ℤ) + power - 1) = p
  have he : (if p < 0 then ['e', '-'] else ['e', '+']) ++ Nat.toDigits 10 p.natAbs =
      'e' :: (if decide (p < 0) = true then '-' else '+') :: Nat.toDigits 10 p.natAbs := by
    by_cases h : p < 0 <;> simp [h]
  rw [List.append_assoc, he]
  refine ⟨⟨[c], _, _, hw, hf, .inr ⟨_, _, ?_, digits_toDigits p.natAbs, rfl⟩, rfl⟩, ?_⟩
  · by_cases h : p < 0 <;> simp [h]
  · rw [scientific_mark hm, decimalValue_toDigits, List.singleton_append]
    congr 1
    by_cases h : p < 0
    · simp only [h, decide_true, if_true]
      omega
    · simp only [h, decide_false, Bool.false_eq_true, if_false]
      omega

end

/-- Each layout of a number is a number text, and says the digits and the power it was made from. -/
theorem says_layout {n : ℕ} (hn : 0 < n) (power : ℤ) : Says n power (layout (Nat.toDigits 10 n) power) := by
  have hds := digits_toDigits n
  have hhead := head_toDigits hn
  have hval := decimalValue_toDigits n
  generalize Nat.toDigits 10 n = ds at *
  subst hval
  unfold layout
  dsimp only
  split
  next => exact says_exponent hds hhead power
  split
  next h =>
    have e : power = -(((-(ds.length + power : ℤ)).toNat + ds.length : ℕ) : ℤ) := by omega
    have hs := says_small hds (-(ds.length + power : ℤ)).toNat
    rwa [← e] at hs
  split
  next h =>
    have e : power = ((ds.length + power - ds.length : ℤ).toNat : ℤ) := by omega
    have hs := says_whole hds hhead (ds.length + power - ds.length : ℤ).toNat
    rwa [← e] at hs
  next h =>
    have e : power = ((ds.length + power : ℤ).toNat : ℤ) - ds.length := by omega
    have hs := says_point hds hhead (k := (ds.length + power : ℤ).toNat) (by omega) (by omega)
    rwa [← e] at hs

theorem Says.isNumber {n : ℕ} {power : ℤ} {cs : List Char} (h : Says n power cs) (negative : Bool) :
    IsNumber ((if negative then ['-'] else []) ++ cs) := by
  obtain ⟨i, f, e, hi, hf, he, rfl⟩ := h.number
  refine ⟨if negative then ['-'] else [], i, f, e, ?_, hi, hf, he, by simp⟩
  cases negative
  · exact .inl rfl
  · exact .inr rfl

theorem double?_sign {cs : List Char} (negative : Bool) (h : ∀ c, cs.head? = some c → c ≠ '-') :
    double? ((if negative then ['-'] else []) ++ cs) =
      Double.ofDecimal negative (scientific cs).1 (scientific cs).2 := by
  cases negative with
  | true => rfl
  | false =>
    simp only [Bool.false_eq_true, if_false, List.nil_append]
    rw [double?.eq_def]
    split
    next ds => exact absurd rfl (h '-' rfl)
    next => rfl

theorem canonical_double? {cs : List Char} {d : Double} (h : double? cs = some d) : d.Canonical := by
  unfold double? at h
  split at h <;> exact Double.canonical_ofDecimal h

/-- The text of a double is a number and is read as the double. -/
theorem double?_render {d : Double} (hc : d.Canonical) :
    ∃ cs, IsNumber cs ∧ d.render = Utf8.encode cs ∧ double? cs = some d := by
  rcases Nat.eq_zero_or_pos d.mantissa with hm | hm
  · -- only the least exponent has room for a mantissa of zero
    have he : d.exponent = Double.minExponent := by
      have h1 := hc.least
      have h2 := hc.full
      omega
    have hz : d = .zero d.negative := by
      cases d
      simp only at hm he
      subst hm he
      rfl
    refine ⟨(if d.negative then ['-'] else []) ++ ['0'], ?_, ?_, ?_⟩
    · cases d.negative
      · exact isNumber_toDigits 0
      · exact ⟨['-'], ['0'], [], [], .inr rfl, .inl rfl, .inl rfl, .inl rfl, rfl⟩
    · rw [Double.render, if_pos hm, Utf8.encode_append]
      cases d.negative <;> rfl
    · rw [double?_sign d.negative (by simp)]
      conv_rhs => rw [hz]
      rfl
  · obtain ⟨hpos, hval⟩ := Double.trim_value 20 (Double.shortest_digits_pos hc hm)
    have hs := says_layout hpos (d.shortest.trim 20).power
    refine ⟨_, hs.isNumber d.negative, render_eq hm, ?_⟩
    rw [double?_sign d.negative]
    · exact Double.reads_of_value hc hm (hs.value.trans hval)
    · obtain ⟨i, f, e, hi, -, -, hcs⟩ := hs.number
      obtain ⟨c, cs, rfl, hd⟩ := hi.digits.cons_of
      rw [hcs]
      rintro x ⟨⟩ rfl
      cases hd

end AuditShell.Audit.Entry
