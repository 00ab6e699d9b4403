import AuditShell.Instant
import AuditShell.Proofs.Text
import Mathlib.Algebra.Group.Nat.Defs
/-!
# Points in time are read back

`Instant.render` writes a point in time without offset as a date and a time of day, and
`Instant.parse` reads that text as the same point. The argument has three parts: the date of a day
exists and is the date of that day only, a number of fixed width is read as written, and a fraction
keeps its value without its trailing zeros.
-/
namespace AuditShell.Instant

/-! ## Dates -/

/-- The days of the years of an era before a year of it. -/
def daysBefore (y : Nat) : Nat := 365 * y + y / 4 - y / 100

theorem yearOfEra_bounds {doe : Nat} (h : doe < 146096) {y : Nat}
    (hy : y = (doe - doe / 1460 + doe / 36524 - doe / 146096) / 365) :
    daysBefore y ≤ doe ∧ doe < daysBefore (y + 1) := by
  have hf : doe / 146096 = 0 := by omega
  rw [hf] at hy
  unfold daysBefore
  generalize he : doe / 36524 = e at *
  generalize hg : doe / 1460 = g at *
  have h1 : 365 * y ≤ doe - g + e := by omega
  have h2 : doe - g + e < 365 * (y + 1) := by omega
  clear hy
  -- the leap days and the centuries of the year are those of the day, up to the year's own
  have h3 : 25 * e ≤ g := by omega
  have h4 : y / 4 ≤ g := by omega
  have h5 : e ≤ y / 100 := by omega
  have h6 : g ≤ (y + 1) / 4 := by omega
  have h7 : (y + 1) / 100 ≤ e ∨ 100 * (e + 1) ≤ y + 1 := by omega
  refine ⟨by omega, ?_⟩
  rcases h7 with h7 | h7
  · omega
  · omega

/-- A day of an era is a day of a year of it, the 366th only in a leap year. -/
theorem yearOfEra {doe : Nat} (h : doe < 146097) {y : Nat}
    (hy : y = (doe - doe / 1460 + doe / 36524 - doe / 146096) / 365) :
    ∃ doy, doe = daysBefore y + doy ∧ y < 400 ∧ doy ≤ 365 ∧
      (doy = 365 → (y + 1) % 4 = 0 ∧ ((y + 1) % 100 ≠ 0 ∨ (y + 1) % 400 = 0)) := by
  rcases (show doe < 146096 ∨ doe = 146096 by omega) with h' | rfl
  · obtain ⟨h1, h2⟩ := yearOfEra_bounds h' hy
    refine ⟨doe - daysBefore y, by omega, ?_⟩
    unfold daysBefore at *
    clear hy
    have h3 : y < 400 := by omega
    refine ⟨h3, by omega, fun h4 => ?_⟩
    have h5 : (y + 1) / 4 = y / 4 + 1 := by omega
    have h6 : (y + 1) / 100 = y / 100 := by omega
    omega
  · subst hy
    exact ⟨365, by decide, by decide, by decide, by decide⟩

theorem daysToMarch_era (era : Int) {y : Nat} (h : y < 400) :
    daysToMarch (y + era * 400) = daysBefore y + era * 146097 - 719468 := by
  unfold daysToMarch daysBefore
  rw [Int.fdiv_eq_ediv_of_nonneg _ (by decide), Int.fdiv_eq_ediv_of_nonneg _ (by decide),
    Int.fdiv_eq_ediv_of_nonneg _ (by decide)]
  omega

/-- The month that is a number of months after March. -/
def monthOf (mp : Nat) : Nat := if mp < 10 then mp + 3 else mp - 9

theorem monthOf_le_two {mp : Nat} (h : mp < 12) : monthOf mp ≤ 2 ↔ 10 ≤ mp := by
  unfold monthOf
  split <;> omega

theorem monthOf_bounds {mp : Nat} (h : mp < 12) : 1 ≤ monthOf mp ∧ monthOf mp ≤ 12 := by
  unfold monthOf
  split <;> omega

theorem daysToMonth_monthOf {mp : Nat} (h : mp < 12) : daysToMonth (monthOf mp) = (153 * mp + 2) / 5 := by
  unfold daysToMonth monthOf
  split <;> omega

theorem daysIn_monthOf (year : Nat) {mp : Nat} (h : mp < 11) :
    daysIn (monthOf mp) year = (153 * (mp + 1) + 2) / 5 - (153 * mp + 2) / 5 := by
  have hm : mp = 0 ∨ mp = 1 ∨ mp = 2 ∨ mp = 3 ∨ mp = 4 ∨ mp = 5 ∨ mp = 6 ∨ mp = 7 ∨ mp = 8 ∨ mp = 9 ∨
      mp = 10 := by omega
  rcases hm with rfl | rfl | rfl | rfl | rfl | rfl | rfl | rfl | rfl | rfl | rfl <;> rfl

theorem daysIn_february {year doy : Nat} (h : doy ≤ 365)
    (hleap : doy = 365 → year % 4 = 0 ∧ (year % 100 ≠ 0 ∨ year % 400 = 0)) : doy - 336 ≤ daysIn 2 year := by
  by_cases h365 : doy = 365
  · obtain ⟨h4, h100⟩ := hleap h365
    have hyear : isLeap year = true := by
      simp only [isLeap, Bool.and_eq_true, Bool.or_eq_true, decide_eq_true_eq]
      exact ⟨h4, h100⟩
    simp only [daysIn, hyear, if_true]
    omega
  · simp only [daysIn, if_true]
    split <;> omega

/-- A date that its year has and that is the date of a day. -/
structure Date.IsOf (date : Date) (days : Int) : Prop where
  month_pos : 1 ≤ date.month
  month_le : date.month ≤ 12
  day_pos : 1 ≤ date.day
  day_le : 0 ≤ date.year → date.day ≤ daysIn date.month date.year.toNat
  days_eq : daysOfDate date.year date.month date.day = days

/-- A day of the year that starts in March, as a date. -/
theorem isOf_march (era : Int) {y doy : Nat} (hy : y < 400) (hdoy : doy ≤ 365)
    (hleap : doy = 365 → (y + 1) % 4 = 0 ∧ ((y + 1) % 100 ≠ 0 ∨ (y + 1) % 400 = 0)) :
    Date.IsOf
      ⟨if monthOf ((5 * doy + 2) / 153) ≤ 2 then (y + era * 400 : Int) + 1 else y + era * 400,
        monthOf ((5 * doy + 2) / 153), doy - (153 * ((5 * doy + 2) / 153) + 2) / 5 + 1⟩
      (daysBefore y + doy + era * 146097 - 719468) := by
  generalize hmp : (5 * doy + 2) / 153 = mp
  have h12 : mp < 12 := by omega
  refine ⟨(monthOf_bounds h12).1, (monthOf_bounds h12).2, by dsimp only; omega, fun h0 => ?_, ?_⟩
  · dsimp only at h0 ⊢
    -- only February, the last month of a year that starts in March, depends on the year
    rcases (show mp < 11 ∨ mp = 11 by omega) with h11 | rfl
    · rw [daysIn_monthOf _ h11]
      omega
    · rw [if_pos ((monthOf_le_two h12).mpr (by decide))] at h0 ⊢
      refine Nat.le_trans ?_ (daysIn_february hdoy fun h => ?_)
      · omega
      · obtain ⟨h4, h100⟩ := hleap h
        omega
  · unfold daysOfDate
    dsimp only
    rw [daysToMonth_monthOf h12]
    have hyear : (if monthOf mp ≤ 2 then
        (if monthOf mp ≤ 2 then (y + era * 400 : Int) + 1 else y + era * 400) - 1 else
        (if monthOf mp ≤ 2 then (y + era * 400 : Int) + 1 else y + era * 400)) = y + era * 400 := by
      split <;> omega
    rw [hyear, daysToMarch_era era hy]
    omega

/-- The date of a day exists in its year, and is the date of no other day. -/
theorem dateOfDays_isOf (days : Int) : (dateOfDays days).IsOf days := by
  unfold dateOfDays
  dsimp only
  rw [Int.fdiv_eq_ediv_of_nonneg _ (by decide)]
  generalize hera : (days + 719468) / 146097 = era
  generalize hdoe : (days + 719468 - era * 146097).toNat = doe
  obtain ⟨doy, hsplit, hy, hdoy, hleap⟩ := yearOfEra (show doe < 146097 by omega) rfl
  generalize (doe - doe / 1460 + doe / 36524 - doe / 146096) / 365 = y at *
  have hyear : doe - (365 * y + y / 4 - y / 100) = doy := by
    unfold daysBefore at hsplit
    omega
  have hdays : days = daysBefore y + doy + era * 146097 - 719468 := by omega
  rw [hyear, hdays]
  exact isOf_march era hy hdoy hleap

/-! ## Digits -/

theorem digit?_ofNat {d : Nat} (h : d < 10) : digit? (Char.ofNat (48 + d)) = some d := by
  have hd : d = 0 ∨ d = 1 ∨ d = 2 ∨ d = 3 ∨ d = 4 ∨ d = 5 ∨ d = 6 ∨ d = 7 ∨ d = 8 ∨ d = 9 := by omega
  rcases hd with rfl | rfl | rfl | rfl | rfl | rfl | rfl | rfl | rfl | rfl <;> decide

theorem number_digits (width n : Nat) (rest : List Char) :
    number width (digits width n ++ rest) = some (n % 10 ^ width, rest) := by
  induction width with
  | zero => simp [digits, number, Nat.mod_one]
  | succ width ih =>
    simp only [digits, List.cons_append, number, digit?_ofNat (Nat.mod_lt _ (by decide : 0 < 10)), ih,
      Option.bind_eq_bind, Option.bind_some, Option.pure_def, Option.some.injEq, Prod.mk.injEq, and_true]
    change n / 10 ^ width % 10 * 10 ^ width + n % 10 ^ width = _
    rw [Nat.pow_succ, Nat.mod_mul, Nat.mul_comm]
    omega

theorem digits_length (width n : Nat) : (digits width n).length = width := by
  induction width with
  | zero => rfl
  | succ width ih => simp [digits, ih]

theorem mem_digits {width n : Nat} {c : Char} (h : c ∈ digits width n) : (digit? c).isSome := by
  induction width with
  | zero => cases h
  | succ width ih =>
    rcases List.mem_cons.mp h with rfl | h
    · rw [digit?_ofNat (Nat.mod_lt _ (by decide))]
      rfl
    · exact ih h

/-! ## Fractions of a second -/

theorem foldl_digits (width n acc : Nat) :
    (digits width n).foldl (fun n c => 10 * n + (digit? c).getD 0) acc = acc * 10 ^ width + n % 10 ^ width := by
  induction width generalizing acc with
  | zero => simp [digits, Nat.mod_one]
  | succ width ih =>
    simp only [digits, List.foldl_cons, digit?_ofNat (Nat.mod_lt _ (by decide : 0 < 10)), Option.getD_some, ih]
    change (10 * acc + n / 10 ^ width % 10) * 10 ^ width + n % 10 ^ width = _
    rw [Nat.pow_succ, Nat.mod_mul, Nat.add_mul]
    have h1 : 10 * acc * 10 ^ width = acc * (10 ^ width * 10) := by
      rw [Nat.mul_comm (10 ^ width) 10, ← Nat.mul_assoc, Nat.mul_comm acc 10]
    have h2 : n / 10 ^ width % 10 * 10 ^ width = 10 ^ width * (n / 10 ^ width % 10) := Nat.mul_comm _ _
    omega

theorem exists_zeros (ds : List Char) : ∃ k, ds = List.replicate k '0' ++ ds.dropWhile (· = '0') := by
  induction ds with
  | nil => exact ⟨0, rfl⟩
  | cons d ds ih =>
    by_cases h : d = '0'
    · obtain ⟨k, hk⟩ := ih
      refine ⟨k + 1, ?_⟩
      rw [List.dropWhile_cons_of_pos (by simpa using h), List.replicate_succ, List.cons_append, ← hk, h]
    · exact ⟨0, by rw [List.dropWhile_cons_of_neg (by simpa using h)]; rfl⟩

/-- Dropping the last zeros of a fraction only drops zeros. -/
theorem exists_trailing_zeros (ds : List Char) :
    ∃ k, ds = (ds.reverse.dropWhile (· = '0')).reverse ++ List.replicate k '0' := by
  obtain ⟨k, hk⟩ := exists_zeros ds.reverse
  refine ⟨k, ?_⟩
  have h := congrArg List.reverse hk
  rwa [List.reverse_reverse, List.reverse_append, List.reverse_replicate] at h

theorem foldl_zeros (k acc : Nat) :
    (List.replicate k '0').foldl (fun n c => 10 * n + (digit? c).getD 0) acc = acc * 10 ^ k := by
  induction k generalizing acc with
  | zero => simp
  | succ k ih =>
    rw [List.replicate_succ, List.foldl_cons, ih, show digit? '0' = some 0 by decide, Nat.pow_succ]
    simp only [Option.getD_some, Nat.add_zero]
    rw [Nat.mul_comm 10 acc, Nat.mul_assoc, Nat.mul_comm 10]

theorem readFraction_fraction {nanos : Nat} (h : nanos < 1000000000) :
    readFraction (fraction nanos ++ ['Z']) = (nanos, ['Z']) := by
  unfold fraction
  split
  next h0 =>
    subst h0
    rfl
  next h0 =>
    obtain ⟨k, hz⟩ := exists_trailing_zeros (digits 9 nanos)
    have hvalue := foldl_digits 9 nanos 0
    generalize ((digits 9 nanos).reverse.dropWhile (· = '0')).reverse = ds at hz ⊢
    have hlen : ds.length + k = 9 := by
      have := congrArg List.length hz
      rw [List.length_append, List.length_replicate, digits_length] at this
      exact this.symm
    have hne : ds ≠ [] := by
      rintro rfl
      rw [hz, List.nil_append, foldl_zeros] at hvalue
      omega
    have hmem : ∀ c ∈ ds, (digit? c).isSome := fun c hc =>
      mem_digits (hz ▸ List.mem_append_left _ hc)
    have htake : (ds ++ ['Z']).takeWhile (fun c => (digit? c).isSome) = ds := by
      rw [List.takeWhile_append_of_pos hmem]
      simp [show digit? 'Z' = none by decide]
    -- the reader fills up with zeros, which gives back those that were dropped
    have hnine : (ds ++ List.replicate 9 '0').take 9 = digits 9 nanos := by
      rw [hz, List.take_append, List.take_of_length_le (by omega), List.take_replicate]
      congr 2
      omega
    simp only [List.cons_append, readFraction, htake]
    rw [if_pos ⟨by decide, hne⟩, hnine, hvalue, List.drop_left]
    simp only [Nat.zero_mul, Nat.zero_add, Prod.mk.injEq, and_true]
    omega

/-! ## Reading back -/

theorem shortNumber_digits (n : Nat) (rest : List Char) :
    shortNumber (digits 2 n ++ rest) = some (n % 100, rest) := by
  simp only [shortNumber, number_digits, Nat.reducePow]

/-- What is written of a point in time is read back as that point. -/
theorem parse_render {t : Instant} {b : Bytes} (hnanos : t.nanos < 1000000000) (hoffset : t.offset = 0)
    (h : t.render = some b) : parse (Utf8.decode b) = some t := by
  obtain ⟨seconds, nanos, offset⟩ := t
  dsimp only at hnanos hoffset
  subst hoffset
  unfold render at h
  dsimp only at h
  rw [Int.add_zero, Int.fdiv_eq_ediv_of_nonneg _ (by decide)] at h
  split at h
  · cases h
  next hyear =>
    cases h
    obtain ⟨hm1, hm12, hd1, hd, hdays⟩ := dateOfDays_isOf (seconds / 86400)
    generalize dateOfDays (seconds / 86400) = date at *
    generalize hclock : (seconds - seconds / 86400 * 86400).toNat = clock at *
    have hday : date.day ≤ 31 := by
      have := hd (by omega)
      unfold daysIn at this
      split at this <;> split at this <;> omega
    simp only [Utf8.decode_encode, List.append_assoc, List.cons_append, parse, number_digits, expect,
      shortNumber_digits, zone, if_true, readFraction_fraction hnanos, readZone, Option.bind_eq_bind,
      Option.bind_some]
    rw [Nat.mod_eq_of_lt (show date.year.toNat < 10 ^ 4 by omega),
      Nat.mod_eq_of_lt (show date.month < 10 ^ 2 by omega), Nat.mod_eq_of_lt (show date.day < 10 ^ 2 by omega),
      Nat.mod_eq_of_lt (show clock / 3600 < 100 by omega),
      Nat.mod_eq_of_lt (show clock / 60 % 60 < 10 ^ 2 by omega),
      Nat.mod_eq_of_lt (show clock % 60 < 10 ^ 2 by omega), Int.toNat_of_nonneg (by omega), hdays,
      if_pos ⟨hm1, hm12, hd1, hd (by omega), by omega, by omega, by omega⟩]
    have hseconds : seconds / 86400 * 86400 +
        (3600 * (clock / 3600) + 60 * (clock / 60 % 60) + clock % 60 : Nat) - 0 = seconds := by omega
    rw [hseconds]

end AuditShell.Instant
