import AuditShell.Number.Double
import Mathlib.Algebra.Order.Field.Power
import Mathlib.Algebra.Order.Floor.Semifield
import Mathlib.Data.Rat.Floor
import Mathlib.Tactic.FieldSimp
import Mathlib.Tactic.GCongr
import Mathlib.Tactic.Linarith
import Mathlib.Tactic.NormNum
import Mathlib.Tactic.Positivity
import Mathlib.Tactic.Ring
/-!
# The shortest digits read back

A double is rounded from a fraction, and it is written with the fewest decimal digits that round to
it again. `Double.shortest_reads`: such digits are always found, for every double but zero. The
reason is `hit_seventeen`: among seventeen digits the nearest decimal is closer to the number than
half the distance to any other one.

`ofRatio` works on a numerator and a denominator, but its result depends on their quotient only
(`ofRatio_congr`). So a decimal may be read from any spelling of it (`ofDecimal_congr`).
-/

namespace AuditShell.Double

/-! ## Rounding to an integer -/

/-- The integer nearest to a fraction, a half to the even one. -/
def nearestInt (x : ℚ) : ℕ :=
  if 2 * (x - ⌊x⌋₊) < 1 then ⌊x⌋₊
  else if 1 < 2 * (x - ⌊x⌋₊) then ⌊x⌋₊ + 1
  else if ⌊x⌋₊ % 2 = 0 then ⌊x⌋₊ else ⌊x⌋₊ + 1

theorem roundDiv_eq (num : ℕ) {den : ℕ} (hd : 0 < den) : roundDiv num den = nearestInt ((num : ℚ) / den) := by
  have hq : ⌊(num : ℚ) / den⌋₊ = num / den := Nat.floor_div_eq_div num den
  have hd' : (0 : ℚ) < den := by exact_mod_cast hd
  have hr : (num : ℚ) / den - (num / den : ℕ) = (num % den : ℕ) / den := by
    have e : ((den * (num / den) + num % den : ℕ) : ℚ) = num := by rw [Nat.div_add_mod]
    push_cast at e
    field_simp
    linarith
  have h1 : 2 * ((num % den : ℕ) / (den : ℚ)) < 1 ↔ 2 * (num % den) < den := by
    rw [← mul_div_assoc, div_lt_one hd']
    exact_mod_cast Iff.rfl
  have h2 : 1 < 2 * ((num % den : ℕ) / (den : ℚ)) ↔ den < 2 * (num % den) := by
    rw [← mul_div_assoc, one_lt_div hd']
    exact_mod_cast Iff.rfl
  simp only [roundDiv, nearestInt, hq, hr, h1, h2]

theorem nearestInt_bounds {x : ℚ} (hx : 0 ≤ x) : (nearestInt x : ℚ) ≤ x + 1 / 2 ∧ x ≤ nearestInt x + 1 / 2 := by
  have h1 := Nat.floor_le hx
  have h2 := Nat.lt_floor_add_one x
  unfold nearestInt
  split
  · constructor <;> linarith
  split
  · push_cast; constructor <;> linarith
  split
  · constructor <;> linarith
  · push_cast; constructor <;> linarith

theorem nearestInt_eq {x : ℚ} {n : ℕ} (hx : 0 ≤ x) (h1 : n - 1 / 2 < x) (h2 : x < n + 1 / 2) : nearestInt x = n := by
  obtain ⟨hl, hu⟩ := nearestInt_bounds hx
  have ha : (nearestInt x : ℚ) < n + 1 := by linarith
  have hb : (n : ℚ) < nearestInt x + 1 := by linarith
  have ha' : nearestInt x < n + 1 := by exact_mod_cast ha
  have hb' : n < nearestInt x + 1 := by exact_mod_cast hb
  omega

/-! ## Rounding to a double -/

theorem mantissaAt_eq (num : ℕ) {den : ℕ} (hd : 0 < den) (e : ℤ) :
    mantissaAt num den e = nearestInt ((num : ℚ) / den / 2 ^ e) := by
  unfold mantissaAt
  split
  next he =>
    lift e to ℕ using he
    simp only [Nat.pow_eq, Int.toNat_natCast, zpow_natCast]
    rw [roundDiv_eq _ (Nat.mul_pos hd (Nat.pow_pos (by decide)))]
    push_cast
    rw [div_div]
  next he =>
    obtain ⟨k, rfl⟩ : ∃ k : ℕ, e = -k := ⟨(-e).toNat, by omega⟩
    simp only [Nat.pow_eq, neg_neg, Int.toNat_natCast, zpow_neg, zpow_natCast]
    rw [roundDiv_eq _ hd]
    push_cast
    rw [div_inv_eq_mul, div_mul_eq_mul_div]

/-- At exponent `e` the mantissa of `x` has at most 53 bits, and at the exponent below it has more. -/
def Places (x : ℚ) (e : ℤ) : Prop :=
  nearestInt (x / 2 ^ e) < mantissaBound ∧ mantissaBound ≤ nearestInt (x / 2 ^ (e - 1))

theorem cast_bound : (mantissaBound : ℚ) = 2 ^ 53 := by norm_num [mantissaBound]

theorem div_zpow_succ (x : ℚ) (e : ℤ) : x / 2 ^ (e + 1) = x / 2 ^ e / 2 := by
  rw [zpow_add_one₀ (by norm_num), div_div]

theorem div_zpow_anti {x : ℚ} (hx : 0 < x) {e f : ℤ} (h : e ≤ f) : x / 2 ^ f ≤ x / 2 ^ e := by
  gcongr
  norm_num

theorem bound_lt {x : ℚ} {e : ℤ} (hx : 0 < x) (h : nearestInt (x / 2 ^ e) < mantissaBound) :
    x / 2 ^ e ≤ 2 ^ 53 - 1 / 2 := by
  have hb := (nearestInt_bounds (x := x / 2 ^ e) (by positivity)).2
  have hm : (nearestInt (x / 2 ^ e) : ℚ) + 1 ≤ 2 ^ 53 := by exact_mod_cast h
  linarith

theorem le_bound {x : ℚ} {e : ℤ} (hx : 0 < x) (h : mantissaBound ≤ nearestInt (x / 2 ^ e)) :
    2 ^ 53 - 1 / 2 ≤ x / 2 ^ e := by
  have hb := (nearestInt_bounds (x := x / 2 ^ e) (by positivity)).1
  have hm : (2 ^ 53 : ℚ) ≤ nearestInt (x / 2 ^ e) := by exact_mod_cast h
  linarith

/-- A fraction has only one exponent at which its mantissa fits closely. -/
theorem Places.unique {x : ℚ} (hx : 0 < x) {e f : ℤ} (he : Places x e) (hf : Places x f) : e = f := by
  have key : ∀ {e f : ℤ}, Places x e → Places x f → ¬ e < f := by
    intro e f he hf hlt
    have h1 := bound_lt hx he.1
    have h2 := le_bound hx hf.2
    rcases (show e = f - 1 ∨ e + 1 ≤ f - 1 by omega) with h | h
    · have := he.1
      rw [h] at this
      exact absurd hf.2 (by omega)
    · have h3 := div_zpow_anti hx h
      rw [div_zpow_succ] at h3
      linarith
  rcases lt_trichotomy e f with h | h | h
  · exact absurd h (key he hf)
  · exact h
  · exact absurd h (key hf he)

/-- The fraction lies between two powers of two that its parts tell. -/
theorem log2_bounds {num den : ℕ} (hn : 0 < num) (hd : 0 < den) :
    (2 : ℚ) ^ (52 : ℤ) < (num : ℚ) / den / 2 ^ ((num.log2 : ℤ) - den.log2 - 53) ∧
      (num : ℚ) / den / 2 ^ ((num.log2 : ℤ) - den.log2 - 53) < 2 ^ (54 : ℤ) := by
  have n1 : (2 : ℚ) ^ (num.log2 : ℤ) ≤ num := by
    rw [zpow_natCast]
    exact_mod_cast Nat.log2_self_le (by omega)
  have n2 : (num : ℚ) < 2 ^ ((num.log2 : ℤ) + 1) := by
    have : num < 2 ^ (num.log2 + 1) := Nat.lt_log2_self
    exact_mod_cast this
  have d1 : (2 : ℚ) ^ (den.log2 : ℤ) ≤ den := by
    rw [zpow_natCast]
    exact_mod_cast Nat.log2_self_le (by omega)
  have d2 : (den : ℚ) < 2 ^ ((den.log2 : ℤ) + 1) := by
    have : den < 2 ^ (den.log2 + 1) := Nat.lt_log2_self
    exact_mod_cast this
  have hd' : (0 : ℚ) < den := by exact_mod_cast hd
  have hp : ∀ e : ℤ, (0 : ℚ) < 2 ^ e := fun e => by positivity
  generalize (num.log2 : ℤ) = a at *
  generalize (den.log2 : ℤ) = b at *
  constructor
  · rw [lt_div_iff₀ (hp _), lt_div_iff₀ hd', ← zpow_add₀ (by norm_num)]
    calc (2 : ℚ) ^ (52 + (a - b - 53)) * den < 2 ^ (52 + (a - b - 53)) * 2 ^ (b + 1) := by gcongr
      _ = 2 ^ a := by rw [← zpow_add₀ (by norm_num)]; congr 1; ring
      _ ≤ num := n1
  · rw [div_lt_iff₀ (hp _), div_lt_iff₀ hd', ← zpow_add₀ (by norm_num)]
    calc (num : ℚ) < 2 ^ (a + 1) := n2
      _ = 2 ^ (54 + (a - b - 53)) * 2 ^ b := by rw [← zpow_add₀ (by norm_num)]; congr 1; ring
      _ ≤ 2 ^ (54 + (a - b - 53)) * den := by gcongr

/-- The exponent that `ofRatio` settles on before it is raised to the least one. -/
def settled (num den : ℕ) : ℤ :=
  let guess : ℤ := (num.log2 : ℤ) - (den.log2 : ℤ) - 53
  let e := if mantissaAt num den guess < mantissaBound then guess else guess + 1
  if mantissaAt num den e < mantissaBound then e else e + 1

theorem places_settled {num den : ℕ} (hn : 0 < num) (hd : 0 < den) :
    Places ((num : ℚ) / den) (settled num den) := by
  obtain ⟨hlo, hhi⟩ := log2_bounds hn hd
  have hx : (0 : ℚ) < (num : ℚ) / den := by positivity
  have hb (e : ℤ) := nearestInt_bounds (x := (num : ℚ) / den / 2 ^ e) (by positivity)
  simp only [settled, mantissaAt_eq num hd]
  generalize (num : ℚ) / den = x at *
  generalize (num.log2 : ℤ) - den.log2 - 53 = g at *
  norm_num at hlo hhi
  split
  next h1 =>
    -- the guess fits, and one below it the quotient has more than 53 bits
    refine ⟨h1, ?_⟩
    have e : x / 2 ^ g = x / 2 ^ (g - 1) / 2 := by rw [← div_zpow_succ, sub_add_cancel]
    have hm : ((mantissaBound : ℕ) : ℚ) < nearestInt (x / 2 ^ (g - 1)) + 1 := by
      have := (hb (g - 1)).2
      rw [cast_bound]
      linarith
    exact Nat.lt_succ_iff.1 (by exact_mod_cast hm)
  next h1 =>
    split
    next h2 => exact ⟨h2, by rw [add_sub_cancel_right]; omega⟩
    next h2 =>
      refine ⟨?_, by rw [add_sub_cancel_right]; omega⟩
      have hm : (nearestInt (x / 2 ^ (g + 1 + 1)) : ℚ) < mantissaBound := by
        have := (hb (g + 1 + 1)).1
        rw [div_zpow_succ, div_zpow_succ] at this ⊢
        rw [cast_bound]
        linarith
      exact_mod_cast hm

/-- The double of a positive fraction, told by the value of the fraction alone. -/
theorem ofRatio_eq (negative : Bool) {num den : ℕ} (hn : 0 < num) (hd : 0 < den) {e : ℤ}
    (he : Places ((num : ℚ) / den) e) :
    ofRatio negative num den =
      if maxExponent < max e minExponent then none
      else some ⟨negative, nearestInt ((num : ℚ) / den / 2 ^ max e minExponent), max e minExponent⟩ := by
  have hx : (0 : ℚ) < (num : ℚ) / den := by positivity
  obtain rfl := he.unique hx (places_settled hn hd)
  have hne : mantissaAt num den (max (settled num den) minExponent) ≠ mantissaBound := by
    rw [mantissaAt_eq num hd]
    intro h
    rcases le_or_gt minExponent (settled num den) with hm | hm
    · rw [max_eq_left hm] at h
      exact absurd he.1 (by omega)
    · rw [max_eq_right hm.le] at h
      have h1 := le_bound hx (e := minExponent) (by omega)
      have h2 := bound_lt hx he.1
      have h3 := div_zpow_anti hx (show settled num den + 1 ≤ minExponent by omega)
      rw [div_zpow_succ] at h3
      linarith
  have hunfold : ofRatio negative num den =
      let e := max (settled num den) minExponent
      let m := mantissaAt num den e
      let r := if m = mantissaBound then (mantissaBound / 2, e + 1) else (m, e)
      if maxExponent < r.2 then none else some ⟨negative, r.1, r.2⟩ := by
    rw [ofRatio, if_neg hn.ne']
    rfl
  rw [hunfold]
  simp only [if_neg hne]
  rw [mantissaAt_eq num hd]

/-- Two fractions of one value have one double. -/
theorem ofRatio_congr (negative : Bool) {num den num' den' : ℕ} (hn : 0 < num) (hd : 0 < den) (hd' : 0 < den')
    (h : (num : ℚ) / den = (num' : ℚ) / den') : ofRatio negative num den = ofRatio negative num' den' := by
  have hx : (0 : ℚ) < (num' : ℚ) / den' := by rw [← h]; positivity
  have hn' : 0 < num' := by
    rcases Nat.eq_zero_or_pos num' with rfl | h
    · simp at hx
    · exact h
  have hp := places_settled hn hd
  rw [ofRatio_eq negative hn hd hp, ofRatio_eq negative hn' hd' (h ▸ hp), h]

/-! ## Doubles in their one form -/

/-- The form of a double that stands for its value: the mantissa has at most 53 bits, and fewer only at
the least exponent. -/
structure Canonical (d : Double) : Prop where
  mantissa : d.mantissa < mantissaBound
  least : minExponent ≤ d.exponent
  greatest : d.exponent ≤ maxExponent
  full : minExponent < d.exponent → 2 ^ 52 ≤ d.mantissa

/-- The absolute value of a double. -/
def size (d : Double) : ℚ := d.mantissa * 2 ^ d.exponent

theorem canonical_zero (negative : Bool) : (zero negative).Canonical := by
  constructor <;> simp [zero, mantissaBound, minExponent, maxExponent]

/-- Rounding gives a double in its one form, with the sign that was asked for. -/
theorem canonical_ofRatio {negative : Bool} {num den : ℕ} {d : Double} (hd : 0 < den)
    (h : ofRatio negative num den = some d) : d.Canonical ∧ d.negative = negative := by
  rcases Nat.eq_zero_or_pos num with rfl | hn
  · simp only [ofRatio, if_true, Option.some.injEq] at h
    subst h
    exact ⟨canonical_zero negative, rfl⟩
  have hx : (0 : ℚ) < (num : ℚ) / den := by positivity
  have hp := places_settled hn hd
  rw [ofRatio_eq negative hn hd hp] at h
  generalize (num : ℚ) / den = x at *
  generalize settled num den = e at *
  split at h
  · cases h
  next hmax =>
    cases h
    refine ⟨⟨?_, le_max_right _ _, by simpa using hmax, ?_⟩, rfl⟩
    · -- a greater exponent makes the mantissa no longer
      have h1 := bound_lt hx hp.1
      have h2 := div_zpow_anti hx (le_max_left e minExponent)
      have h3 := (nearestInt_bounds (x := x / 2 ^ max e minExponent) (by positivity)).1
      rcases eq_or_lt_of_le (le_max_left e minExponent) with hm | hm
      · rw [← hm]
        exact hp.1
      · have h4 := div_zpow_anti hx (show e + 1 ≤ max e minExponent by omega)
        rw [div_zpow_succ] at h4
        have : (nearestInt (x / 2 ^ max e minExponent) : ℚ) < mantissaBound := by
          rw [cast_bound]
          linarith
        exact_mod_cast this
    · intro hlt
      have hm : max e minExponent = e := by
        rcases max_choice e minExponent with h | h
        · exact h
        · exact absurd hlt (by simp only [h, lt_irrefl, not_false_iff])
      simp only [hm]
      have h1 := le_bound hx hp.2
      have h2 := (nearestInt_bounds (x := x / 2 ^ e) (by positivity)).2
      have e' : x / 2 ^ e = x / 2 ^ (e - 1) / 2 := by rw [← div_zpow_succ, sub_add_cancel]
      have : (2 ^ 52 : ℚ) < nearestInt (x / 2 ^ e) + 1 := by linarith
      have : 2 ^ 52 < nearestInt (x / 2 ^ e) + 1 := by exact_mod_cast this
      omega

/-- A fraction that lies close to a double rounds to it. -/
theorem ofRatio_of_close (negative : Bool) {d : Double} (hc : d.Canonical) (hm : 0 < d.mantissa) {num den : ℕ}
    (hd : 0 < den) (h1 : d.size - d.size / 2 ^ 54 < (num : ℚ) / den)
    (h2 : (num : ℚ) / den < d.size + d.size / 2 ^ 54) :
    ofRatio negative num den = some { d with negative := negative } := by
  obtain ⟨s, m, f⟩ := d
  obtain ⟨hc1, hc2, hc3, hc4⟩ := hc
  simp only [size] at *
  have hm' : (1 : ℚ) ≤ m := by exact_mod_cast hm
  have hm53 : (m : ℚ) + 1 ≤ 2 ^ 53 := by exact_mod_cast hc1
  have hp : ∀ e : ℤ, (0 : ℚ) < 2 ^ e := fun e => by positivity
  have hx : (0 : ℚ) < (num : ℚ) / den := by
    refine lt_of_le_of_lt ?_ h1
    have := mul_pos (lt_of_lt_of_le one_pos hm') (hp f)
    linarith
  have hn : 0 < num := by
    rcases Nat.eq_zero_or_pos num with rfl | h
    · simp at hx
    · exact h
  have hpl := places_settled hn hd
  rw [ofRatio_eq negative hn hd hpl]
  generalize (num : ℚ) / den = x at *
  generalize settled num den = e at *
  -- at the exponent of the double the fraction is its mantissa up to a 54th of a bit
  have hlo : (m : ℚ) - m / 2 ^ 54 < x / 2 ^ f := by
    rw [lt_div_iff₀ (hp f)]
    calc ((m : ℚ) - m / 2 ^ 54) * 2 ^ f = m * 2 ^ f - m * 2 ^ f / 2 ^ 54 := by ring
      _ < x := h1
  have hhi : x / 2 ^ f < m + m / 2 ^ 54 := by
    rw [div_lt_iff₀ (hp f)]
    calc x < m * 2 ^ f + m * 2 ^ f / 2 ^ 54 := h2
      _ = _ := by ring
  have hmant : nearestInt (x / 2 ^ f) = m := nearestInt_eq (by positivity) (by linarith) (by linarith)
  have hle : max e minExponent ≤ f := by
    rcases le_or_gt e f with h | h
    · exact max_le h hc2
    · have h3 := le_bound hx hpl.2
      have h4 := div_zpow_anti hx (show f ≤ e - 1 by omega)
      linarith
  have hge : f ≤ max e minExponent := by
    rcases le_or_gt f (max e minExponent) with h | h
    · exact h
    · have hfull : (2 ^ 52 : ℚ) ≤ m := by exact_mod_cast hc4 (lt_of_le_of_lt (le_max_right _ _) h)
      have h3 := bound_lt hx hpl.1
      have h4 := div_zpow_anti hx (show e + 1 ≤ f by have := le_max_left e minExponent; omega)
      rw [div_zpow_succ] at h4
      linarith
  have hef : max e minExponent = f := le_antisymm hle hge
  rw [hef, hmant, if_neg (by omega)]

/-! ## Decimals -/

theorem toDigits_bounds {n : ℕ} (hn : 0 < n) :
    (10 : ℚ) ^ (((Nat.toDigits 10 n).length : ℤ) - 1) ≤ n ∧ (n : ℚ) < 10 ^ ((Nat.toDigits 10 n).length : ℤ) := by
  have hpos := Nat.length_toDigits_pos (b := 10) (n := n)
  obtain ⟨k, hk⟩ : ∃ k, (Nat.toDigits 10 n).length = k + 1 := ⟨(Nat.toDigits 10 n).length - 1, by omega⟩
  have hhi : n < 10 ^ (k + 1) := (Nat.length_toDigits_le_iff (by decide) (by omega)).1 hk.le
  have hlo : 10 ^ k ≤ n := by
    rcases Nat.eq_zero_or_pos k with rfl | hkpos
    · rwa [pow_zero]
    · exact not_lt.1 fun h => by have := (Nat.length_toDigits_le_iff (b := 10) (by decide) hkpos).2 h; omega
  rw [hk]
  push_cast
  rw [add_sub_cancel_right]
  constructor
  · exact_mod_cast hlo
  · exact_mod_cast hhi

/-- The value of decimal digits before a power of ten. -/
def decimal (digits : ℕ) (e : ℤ) : ℚ := digits * 10 ^ e

/-- The power of ten above a decimal, as `ofDecimal` finds it from its digits. -/
theorem decimal_bounds {n : ℕ} (hn : 0 < n) (e : ℤ) :
    (10 : ℚ) ^ ((Nat.toDigits 10 n).length + e - 1) ≤ decimal n e ∧
      decimal n e < 10 ^ ((Nat.toDigits 10 n).length + e) := by
  obtain ⟨h1, h2⟩ := toDigits_bounds hn
  generalize ((Nat.toDigits 10 n).length : ℤ) = k at *
  have hp : (0 : ℚ) < 10 ^ e := by positivity
  unfold decimal
  constructor
  · calc (10 : ℚ) ^ (k + e - 1) = 10 ^ (k - 1) * 10 ^ e := by rw [← zpow_add₀ (by norm_num)]; congr 1; ring
      _ ≤ n * 10 ^ e := by gcongr
  · calc (n : ℚ) * 10 ^ e < 10 ^ k * 10 ^ e := by gcongr
      _ = 10 ^ (k + e) := by rw [← zpow_add₀ (by norm_num)]

/-- Only one power of ten lies right above a positive number. -/
theorem tenPower_unique {x : ℚ} {a b : ℤ} (ha : (10 : ℚ) ^ (a - 1) ≤ x ∧ x < 10 ^ a)
    (hb : (10 : ℚ) ^ (b - 1) ≤ x ∧ x < 10 ^ b) : a = b := by
  have h1 := (zpow_lt_zpow_iff_right₀ (by norm_num : (1 : ℚ) < 10)).1 (lt_of_le_of_lt ha.1 hb.2)
  have h2 := (zpow_lt_zpow_iff_right₀ (by norm_num : (1 : ℚ) < 10)).1 (lt_of_le_of_lt hb.1 ha.2)
  omega

/-- A decimal as a fraction of integers. -/
def decimalRatio (digits : ℕ) (e : ℤ) : ℕ × ℕ :=
  if 0 ≤ e then (digits * Nat.pow 10 e.toNat, 1) else (digits, Nat.pow 10 (-e).toNat)

theorem decimalRatio_value (n : ℕ) (e : ℤ) :
    0 < (decimalRatio n e).2 ∧ ((decimalRatio n e).1 : ℚ) / (decimalRatio n e).2 = decimal n e := by
  unfold decimalRatio decimal
  split
  next he =>
    lift e to ℕ using he
    simp
  next he =>
    obtain ⟨k, rfl⟩ : ∃ k : ℕ, e = -k := ⟨(-e).toNat, by omega⟩
    simp [Nat.pow_eq, div_eq_mul_inv]

theorem ofDecimal_eq (negative : Bool) {n : ℕ} (hn : 0 < n) (e : ℤ) :
    ofDecimal negative n e =
      if (Nat.toDigits 10 n).length + e < -400 then some (zero negative)
      else if 400 < (Nat.toDigits 10 n).length + e then none
      else ofRatio negative (decimalRatio n e).1 (decimalRatio n e).2 := by
  rw [ofDecimal, if_neg hn.ne', decimalRatio]
  dsimp only
  split_ifs <;> rfl

/-- Two ways to write a decimal say the same number. -/
theorem ofDecimal_congr (negative : Bool) {n m : ℕ} {e f : ℤ} (hn : 0 < n) (h : decimal n e = decimal m f) :
    ofDecimal negative n e = ofDecimal negative m f := by
  have hv : 0 < decimal n e := by unfold decimal; positivity
  have hm : 0 < m := by
    rcases Nat.eq_zero_or_pos m with rfl | hm
    · rw [h, decimal, Nat.cast_zero, zero_mul] at hv
      exact absurd hv (lt_irrefl 0)
    · exact hm
  have hs := tenPower_unique (decimal_bounds hn e) (h ▸ decimal_bounds hm f)
  obtain ⟨h1, h2⟩ := decimalRatio_value n e
  obtain ⟨h3, h4⟩ := decimalRatio_value m f
  have hpos : 0 < (decimalRatio n e).1 := by
    rcases Nat.eq_zero_or_pos (decimalRatio n e).1 with h0 | h0
    · rw [← h2, h0, Nat.cast_zero, zero_div] at hv
      exact absurd hv (lt_irrefl 0)
    · exact h0
  rw [ofDecimal_eq negative hn, ofDecimal_eq negative hm, hs,
    ofRatio_congr negative hpos h1 h3 (by rw [h2, h4, h])]

theorem size_pos {d : Double} (hm : 0 < d.mantissa) : 0 < d.size := by
  unfold size
  positivity

theorem two_pow_lt_ten_pow : (2 : ℚ) ^ (1075 : ℤ) < 10 ^ (400 : ℤ) :=
  calc (2 : ℚ) ^ (1075 : ℤ) ≤ 2 ^ (11 * 100 : ℕ) := by
        rw [← zpow_natCast]
        exact zpow_le_zpow_right₀ (by norm_num) (by norm_num)
    _ < 10 ^ (4 * 100 : ℕ) := by
        rw [pow_mul, pow_mul]
        exact pow_lt_pow_left₀ (by norm_num) (by norm_num) (by norm_num)
    _ = 10 ^ (400 : ℤ) := by rw [← zpow_natCast]; rfl

/-- The sizes of doubles lie well inside the range in which decimals are rounded. -/
theorem size_bounds {d : Double} (hc : d.Canonical) (hm : 0 < d.mantissa) :
    (10 : ℚ) ^ (-400 : ℤ) < d.size / 2 ∧ d.size * 2 < 10 ^ (400 : ℤ) := by
  have h1 : (1 : ℚ) ≤ d.mantissa := by exact_mod_cast hm
  have h2 : (d.mantissa : ℚ) < 2 ^ 53 := by
    rw [← cast_bound]
    exact_mod_cast hc.mantissa
  have h3 : (2 : ℚ) ^ (-1074 : ℤ) ≤ 2 ^ d.exponent := zpow_le_zpow_right₀ (by norm_num) hc.least
  have h4 : (2 : ℚ) ^ d.exponent ≤ 2 ^ (971 : ℤ) := zpow_le_zpow_right₀ (by norm_num) hc.greatest
  have hp : (0 : ℚ) < 2 ^ d.exponent := by positivity
  unfold size
  constructor
  · calc (10 : ℚ) ^ (-400 : ℤ) < 2 ^ (-1075 : ℤ) := by
          rw [zpow_neg, zpow_neg]
          exact inv_strictAnti₀ (by positivity) two_pow_lt_ten_pow
      _ = 1 * 2 ^ (-1074 : ℤ) / 2 := by
          rw [one_mul, eq_div_iff (by norm_num), ← zpow_add_one₀ (by norm_num)]
          rfl
      _ ≤ d.mantissa * 2 ^ d.exponent / 2 := by gcongr
  · calc (d.mantissa : ℚ) * 2 ^ d.exponent * 2 ≤ 2 ^ 53 * 2 ^ (971 : ℤ) * 2 := by gcongr
      _ = 2 ^ (1025 : ℤ) := by
          rw [← zpow_natCast, ← zpow_add₀ (by norm_num), ← zpow_add_one₀ (by norm_num)]
          rfl
      _ ≤ 2 ^ (1075 : ℤ) := zpow_le_zpow_right₀ (by norm_num) (by norm_num)
      _ < 10 ^ (400 : ℤ) := two_pow_lt_ten_pow

/-- A decimal that lies close to a double is read as it. -/
theorem ofDecimal_of_close (negative : Bool) {d : Double} (hc : d.Canonical) (hm : 0 < d.mantissa) {n : ℕ} {e : ℤ}
    (h1 : d.size - d.size / 2 ^ 54 < decimal n e) (h2 : decimal n e < d.size + d.size / 2 ^ 54) :
    ofDecimal negative n e = some { d with negative := negative } := by
  obtain ⟨hlo, hhi⟩ := size_bounds hc hm
  have hs := size_pos hm
  have hn : 0 < n := by
    rcases Nat.eq_zero_or_pos n with rfl | hn
    · rw [decimal, Nat.cast_zero, zero_mul] at h1
      linarith
    · exact hn
  obtain ⟨hb1, hb2⟩ := decimal_bounds hn e
  have hten : (1 : ℚ) < 10 := by norm_num
  have hge : ¬ ((Nat.toDigits 10 n).length + e < -400) := fun h => by
    have h3 := zpow_le_zpow_right₀ hten.le h.le
    generalize (10 : ℚ) ^ (-400 : ℤ) = t at *
    linarith
  have hle : ¬ (400 < (Nat.toDigits 10 n).length + e) := fun h => by
    have h3 := zpow_le_zpow_right₀ hten.le (show (400 : ℤ) ≤ (Nat.toDigits 10 n).length + e - 1 by omega)
    generalize (10 : ℚ) ^ (400 : ℤ) = t at *
    linarith
  obtain ⟨hd, hv⟩ := decimalRatio_value n e
  rw [ofDecimal_eq negative hn, if_neg hge, if_neg hle]
  exact ofRatio_of_close negative hc hm hd (hv ▸ h1) (hv ▸ h2)

/-! ## The shortest digits -/

theorem ratio_value (d : Double) : 0 < d.ratio.2 ∧ (d.ratio.1 : ℚ) / d.ratio.2 = d.size := by
  unfold ratio size
  split
  next h =>
    obtain ⟨k, hk⟩ : ∃ k : ℕ, d.exponent = k := ⟨d.exponent.toNat, by omega⟩
    simp [hk]
  next h =>
    obtain ⟨k, hk⟩ : ∃ k : ℕ, d.exponent = -k := ⟨(-d.exponent).toNat, by omega⟩
    simp [hk, Nat.pow_eq, div_eq_mul_inv]

theorem below_iff (num : ℕ) {den : ℕ} (hd : 0 < den) (g : ℤ) :
    (if 0 ≤ g then decide (num < den * Nat.pow 10 g.toNat) else decide (num * Nat.pow 10 (-g).toNat < den)) = true ↔
      (num : ℚ) / den < 10 ^ g := by
  have hd' : (0 : ℚ) < den := by exact_mod_cast hd
  rw [div_lt_iff₀ hd']
  by_cases h0 : 0 ≤ g
  · lift g to ℕ using h0
    simp only [Int.natCast_nonneg, if_true, Int.toNat_natCast, Nat.pow_eq, decide_eq_true_eq, zpow_natCast]
    rw [mul_comm]
    exact_mod_cast Iff.rfl
  · obtain ⟨k, rfl⟩ : ∃ k : ℕ, g = -k := ⟨(-g).toNat, by omega⟩
    simp only [h0, if_false, neg_neg, Int.toNat_natCast, Nat.pow_eq, decide_eq_true_eq, zpow_neg, zpow_natCast]
    rw [lt_inv_mul_iff₀ (by positivity), mul_comm]
    exact_mod_cast Iff.rfl

/-- The leading digit of a fraction stands at the power of ten that is found for it. -/
theorem leadingPower_le {num den : ℕ} (hn : 0 < num) (hd : 0 < den) :
    (10 : ℚ) ^ leadingPower num den ≤ (num : ℚ) / den := by
  have n1 := (toDigits_bounds hn).1
  have d2 := (toDigits_bounds hd).2
  have hd' : (0 : ℚ) < den := by exact_mod_cast hd
  simp only [leadingPower, below_iff num hd]
  generalize ((Nat.toDigits 10 num).length : ℤ) = a at *
  generalize ((Nat.toDigits 10 den).length : ℤ) = b at *
  split
  · rw [le_div_iff₀ hd']
    calc (10 : ℚ) ^ (a - b - 1) * den ≤ 10 ^ (a - b - 1) * 10 ^ b := by gcongr
      _ = 10 ^ (a - 1) := by rw [← zpow_add₀ (by norm_num)]; congr 1; ring
      _ ≤ num := n1
  next hb => exact not_lt.1 hb

/-- The nearest multiple of a power of ten comes first among the neighbours. -/
theorem head_gridNeighbours (num : ℕ) {den : ℕ} (hd : 0 < den) (p : ℤ) :
    (gridNeighbours num den p).head? = some (nearestInt ((num : ℚ) / den / 10 ^ p)) := by
  have hhead : ∀ n d : ℕ, 0 < d →
      (let q := n / d
       let r := n % d
       if r = 0 then [q]
       else if 2 * r < d then [q, q + 1]
       else if d < 2 * r then [q + 1, q]
       else if q % 2 = 0 then [q, q + 1] else [q + 1, q]).head? = some (nearestInt ((n : ℚ) / d)) := by
    intro n d hd
    rw [← roundDiv_eq n hd]
    simp only [roundDiv]
    split_ifs <;> first | rfl | omega
  unfold gridNeighbours
  by_cases hp : 0 ≤ p
  · lift p to ℕ using hp
    simp only [Int.natCast_nonneg, if_true, Int.toNat_natCast, Nat.pow_eq, zpow_natCast]
    rw [hhead _ _ (Nat.mul_pos hd (Nat.pow_pos (by decide)))]
    push_cast
    rw [div_div]
  · obtain ⟨k, rfl⟩ : ∃ k : ℕ, p = -k := ⟨(-p).toNat, by omega⟩
    simp only [hp, if_false, neg_neg, Int.toNat_natCast, Nat.pow_eq, zpow_neg, zpow_natCast]
    rw [hhead _ _ hd]
    push_cast
    rw [div_inv_eq_mul, div_mul_eq_mul_div]

theorem hit_reads {d : Double} {p : ℤ} {r : Decimal} (h : d.hit p = some r) :
    ofDecimal false r.digits r.power = some { d with negative := false } := by
  obtain ⟨q, -, hq⟩ := List.exists_of_findSome?_eq_some h
  split at hq
  next hr =>
    cases hq
    exact hr
  · cases hq

/-- Seventeen digits are enough. -/
theorem hit_seventeen {d : Double} (hc : d.Canonical) (hm : 0 < d.mantissa) :
    (d.hit (leadingPower d.ratio.1 d.ratio.2 - 16)).isSome := by
  obtain ⟨hden, hv⟩ := ratio_value d
  have hs := size_pos hm
  have hnum : 0 < d.ratio.1 := by
    rcases Nat.eq_zero_or_pos d.ratio.1 with h0 | h0
    · rw [← hv, h0, Nat.cast_zero, zero_div] at hs
      exact absurd hs (lt_irrefl 0)
    · exact h0
  have hlead := leadingPower_le hnum hden
  have hhead := head_gridNeighbours d.ratio.1 hden (leadingPower d.ratio.1 d.ratio.2 - 16)
  rw [hv] at hlead hhead
  simp only [hit]
  generalize leadingPower d.ratio.1 d.ratio.2 = l at *
  have hp : (0 : ℚ) < 10 ^ (l - 16) := by positivity
  -- the grid is finer than the distance within which a decimal is read as the number
  have hgrid : (10 : ℚ) ^ (l - 16) / 2 < d.size / 2 ^ 54 := by
    have e : (10 : ℚ) ^ l = 10 ^ (l - 16) * 10 ^ 16 := by
      rw [← zpow_natCast, ← zpow_add₀ (by norm_num)]
      congr 1
      norm_num
    rw [e] at hlead
    rw [div_lt_div_iff₀ (by norm_num) (by norm_num)]
    norm_num at hlead ⊢
    linarith
  obtain ⟨hb1, hb2⟩ := nearestInt_bounds (x := d.size / 10 ^ (l - 16)) (by positivity)
  rw [div_add' _ _ _ hp.ne', le_div_iff₀ hp] at hb1
  rw [div_le_iff₀ hp] at hb2
  have hread : ofDecimal false (nearestInt (d.size / 10 ^ (l - 16))) (l - 16) = some { d with negative := false } :=
    ofDecimal_of_close false hc hm (by unfold decimal; linarith) (by unfold decimal; linarith)
  obtain ⟨qs, hqs⟩ : ∃ qs, gridNeighbours d.ratio.1 d.ratio.2 (l - 16) = nearestInt (d.size / 10 ^ (l - 16)) :: qs := by
    cases hg : gridNeighbours d.ratio.1 d.ratio.2 (l - 16) with
    | nil => simp [hg] at hhead
    | cons q qs => simp only [hg, List.head?_cons, Option.some.injEq] at hhead; exact ⟨qs, by rw [hhead]⟩
  rw [hqs, List.findSome?_cons, if_pos hread]
  rfl

/-- The digits that are found for a number other than zero are read as the number. -/
theorem shortest_reads {d : Double} (hc : d.Canonical) (hm : 0 < d.mantissa) :
    ofDecimal false d.shortest.digits d.shortest.power = some { d with negative := false } := by
  have h17 := hit_seventeen hc hm
  simp only [shortest, if_neg hm.ne']
  split
  next r hr =>
    obtain ⟨i, -, hi⟩ := List.exists_of_findSome?_eq_some hr
    exact hit_reads hi
  next hnone =>
    rw [List.findSome?_eq_none_iff] at hnone
    have := hnone 16 (by simp)
    rw [Nat.cast_ofNat] at this
    rw [this] at h17
    cases h17

theorem shortest_digits_pos {d : Double} (hc : d.Canonical) (hm : 0 < d.mantissa) : 0 < d.shortest.digits := by
  rcases Nat.eq_zero_or_pos d.shortest.digits with h0 | h0
  · have h := shortest_reads hc hm
    rw [h0, ofDecimal, if_pos rfl, zero] at h
    cases d
    cases h
    exact absurd hm (lt_irrefl 0)
  · exact h0

/-! ## Other spellings of the digits -/

theorem decimal_succ {n : ℕ} (h : n % 10 = 0) (e : ℤ) : decimal (n / 10) (e + 1) = decimal n e := by
  obtain ⟨k, rfl⟩ : ∃ k, n = 10 * k := ⟨n / 10, by omega⟩
  rw [Nat.mul_div_cancel_left k (by decide)]
  unfold decimal
  rw [zpow_add_one₀ (by norm_num)]
  push_cast
  ring

/-- Without its trailing zeros a decimal has the same value. -/
theorem trim_value (fuel : ℕ) {s : Decimal} (hs : 0 < s.digits) :
    0 < (s.trim fuel).digits ∧ decimal (s.trim fuel).digits (s.trim fuel).power = decimal s.digits s.power := by
  induction fuel generalizing s with
  | zero => exact ⟨hs, rfl⟩
  | succ fuel ih =>
    rw [Decimal.trim]
    split
    next h =>
      obtain ⟨h1, h2⟩ := ih (s := ⟨s.digits / 10, s.power + 1⟩) (by dsimp only; omega)
      exact ⟨h1, h2.trans (decimal_succ h.2 s.power)⟩
    next => exact ⟨hs, rfl⟩

theorem ofRatio_sign (negative : Bool) (num : ℕ) {den : ℕ} (hd : 0 < den) :
    ofRatio negative num den = (ofRatio false num den).map fun d => { d with negative := negative } := by
  rcases Nat.eq_zero_or_pos num with rfl | hn
  · rfl
  have hp := places_settled hn hd
  rw [ofRatio_eq negative hn hd hp, ofRatio_eq false hn hd hp]
  split <;> rfl

theorem ofDecimal_sign (negative : Bool) (n : ℕ) (e : ℤ) :
    ofDecimal negative n e = (ofDecimal false n e).map fun d => { d with negative := negative } := by
  rcases Nat.eq_zero_or_pos n with rfl | hn
  · rfl
  rw [ofDecimal_eq negative hn, ofDecimal_eq false hn]
  split_ifs
  · rfl
  · rfl
  · exact ofRatio_sign negative _ (decimalRatio_value n e).1

/-- Every decimal of the value of the shortest digits is read as the number. -/
theorem reads_of_value {d : Double} (hc : d.Canonical) (hm : 0 < d.mantissa) {n : ℕ} {e : ℤ}
    (h : decimal n e = decimal d.shortest.digits d.shortest.power) : ofDecimal d.negative n e = some d := by
  rw [ofDecimal_congr d.negative (shortest_digits_pos hc hm) h.symm |>.symm, ofDecimal_sign, shortest_reads hc hm]
  rfl

theorem canonical_ofDecimal {negative : Bool} {n : ℕ} {e : ℤ} {d : Double} (h : ofDecimal negative n e = some d) :
    d.Canonical := by
  rcases Nat.eq_zero_or_pos n with rfl | hn
  · cases h
    exact canonical_zero negative
  · rw [ofDecimal_eq negative hn] at h
    split_ifs at h
    · cases h
      exact canonical_zero negative
    · exact (canonical_ofRatio (decimalRatio_value n e).1 h).1

theorem canonical_ofMicros (n : ℤ) : (ofMicros n).Canonical := by
  unfold ofMicros
  dsimp only
  cases h : ofRatio ((ofRatio (decide (n < 0)) n.natAbs 1).getD (zero false)).negative
      ((ofRatio (decide (n < 0)) n.natAbs 1).getD (zero false)).ratio.1
      (((ofRatio (decide (n < 0)) n.natAbs 1).getD (zero false)).ratio.2 * 1000) with
  | none => exact canonical_zero false
  | some d => exact (canonical_ofRatio (Nat.mul_pos (ratio_value _).1 (by decide)) h).1

end AuditShell.Double
