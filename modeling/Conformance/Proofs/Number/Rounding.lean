import Conformance.Number.Binary64
import Mathlib

/-!
# Rounding to binary floating point

Every finite number is the one that the ratios around it are rounded to. These ratios make up an
interval, which reaches half a unit of the last bit to either side, and a quarter only below a
power of two, where the next number is nearer. Its ends belong to it if the last bit is zero.

## Main definitions

* `Binary64.IsNormal` — the form in which a finite number is kept.
* `Binary64.IsNear` — the interval of a number.

## Main results

* `Binary64.ofRatio_eq` — a ratio in the interval of a number is rounded to this number.
-/

namespace Conformance.Binary64

/-! ### Quotients -/

/-- A quotient is rounded to a number that it is at most half away from, and that is even if it is
exactly half away. -/
theorem roundQuotient_eq {num den q : ℕ} (hden : 0 < den) (hlow : 2 * q * den ≤ 2 * num + den)
    (hhigh : 2 * num ≤ (2 * q + 1) * den)
    (hodd : q % 2 = 1 → 2 * q * den ≠ 2 * num + den ∧ 2 * num ≠ (2 * q + 1) * den) :
    roundQuotient num den = q := by
  have hdiv : den * (num / den) + num % den = num := Nat.div_add_mod num den
  have hlt : num % den < den := Nat.mod_lt num hden
  simp only [roundQuotient]
  generalize num / den = k at hdiv
  generalize num % den = r at hdiv hlt
  subst hdiv
  have hle : q ≤ k + 1 := by
    by_contra h
    nlinarith [Nat.mul_le_mul_right den (Nat.lt_of_not_le h)]
  have hge : k ≤ q := by
    by_contra h
    nlinarith [Nat.mul_le_mul_right den (Nat.lt_of_not_le h)]
  obtain rfl | rfl : q = k ∨ q = k + 1 := by omega
  · have hr : 2 * r ≤ den := by linarith
    rcases hr.lt_or_eq with hr | hr
    · rw [if_pos hr]
    · have hparity : q % 2 = 0 := by
        by_contra hparity
        exact (hodd (by omega)).2 (by linarith)
      rw [if_neg (by omega), if_neg (by omega), if_pos hparity]
  · have hr : den ≤ 2 * r := by linarith
    rcases hr.lt_or_eq with hr | hr
    · rw [if_neg (by omega), if_pos hr]
    · have hparity : (k + 1) % 2 = 0 := by
        by_contra hparity
        exact (hodd (by omega)).1 (by linarith)
      rw [if_neg (by omega), if_neg (by omega), if_neg (by omega)]

/-- The same, of the ratio that the quotient stands for. -/
theorem roundQuotient_eq_of_ratio {num den q : ℕ} (hden : 0 < den) {x : ℚ}
    (hx : (num : ℚ) / den = x) (hlow : (q : ℚ) - 1 / 2 ≤ x) (hhigh : x ≤ (q : ℚ) + 1 / 2)
    (hodd : q % 2 = 1 → (q : ℚ) - 1 / 2 < x ∧ x < (q : ℚ) + 1 / 2) :
    roundQuotient num den = q := by
  have hpos : (0 : ℚ) < den := by exact_mod_cast hden
  rw [div_eq_iff hpos.ne'] at hx
  have hlow' : (2 * q * den : ℚ) ≤ 2 * num + den := by nlinarith
  have hhigh' : (2 * num : ℚ) ≤ (2 * q + 1) * den := by nlinarith
  refine roundQuotient_eq hden (by exact_mod_cast hlow') (by exact_mod_cast hhigh') fun hq => ?_
  obtain ⟨hlt, hlt'⟩ := hodd hq
  have hlow'' : (2 * q * den : ℚ) < 2 * num + den := by nlinarith
  have hhigh'' : (2 * num : ℚ) < (2 * q + 1) * den := by nlinarith
  exact ⟨ne_of_lt (by exact_mod_cast hlow''), ne_of_lt (by exact_mod_cast hhigh'')⟩

/-- A ratio is scaled by a power of two. -/
theorem scaleRatio_eq (num : ℕ) {den : ℕ} (hden : 0 < den) (e : ℤ) :
    0 < (scaleRatio num den e).2 ∧
      ((scaleRatio num den e).1 : ℚ) / (scaleRatio num den e).2 = num / den / 2 ^ e := by
  rw [scaleRatio]
  split_ifs with he
  · obtain ⟨k, rfl⟩ := Int.eq_ofNat_of_zero_le he
    refine ⟨Nat.mul_pos hden (Nat.pow_pos Nat.two_pos), ?_⟩
    push_cast
    rw [div_div]
    simp
  · obtain ⟨k, hk⟩ := Int.eq_ofNat_of_zero_le (show 0 ≤ -e by omega)
    obtain rfl : e = -k := by omega
    refine ⟨hden, ?_⟩
    push_cast
    simp
    field_simp

/-- The powers of two next to a ratio are told by the lengths of its parts. -/
theorem log2_bounds {num den : ℕ} (hnum : 0 < num) (hden : 0 < den) :
    (2 : ℚ) ^ ((num.log2 : ℤ) - den.log2 - 1) ≤ num / den ∧
      (num / den : ℚ) < 2 ^ ((num.log2 : ℤ) - den.log2 + 1) := by
  have hnumLow : (2 : ℚ) ^ (num.log2 : ℤ) ≤ num := by
    exact_mod_cast Nat.log2_self_le hnum.ne'
  have hnumHigh : (num : ℚ) < 2 ^ ((num.log2 : ℤ) + 1) := by
    exact_mod_cast Nat.lt_log2_self
  have hdenLow : (2 : ℚ) ^ (den.log2 : ℤ) ≤ den := by
    exact_mod_cast Nat.log2_self_le hden.ne'
  have hdenHigh : (den : ℚ) < 2 ^ ((den.log2 : ℤ) + 1) := by
    exact_mod_cast Nat.lt_log2_self
  have hpos : (0 : ℚ) < den := by exact_mod_cast hden
  constructor
  · rw [sub_sub, zpow_sub₀ two_ne_zero]
    exact div_le_div₀ (Nat.cast_nonneg num) hnumLow hpos hdenHigh.le
  · rw [show (num.log2 : ℤ) - den.log2 + 1 = (num.log2 + 1) - den.log2 by ring,
      zpow_sub₀ two_ne_zero]
    exact div_lt_div₀ hnumHigh hdenLow (by positivity) (by positivity)

/-- The exponent of a ratio is the least one at which its integer part has at most 53 bits. -/
theorem ratioExponent_spec {num den : ℕ} (hnum : 0 < num) (hden : 0 < den) :
    (num / den : ℚ) < 2 ^ (53 + ratioExponent num den) ∧
      minExponent ≤ ratioExponent num den ∧
      (ratioExponent num den = minExponent ∨
        (2 : ℚ) ^ (52 + ratioExponent num den) ≤ num / den) := by
  obtain ⟨hlow, hhigh⟩ := log2_bounds hnum hden
  simp only [ratioExponent]
  generalize hguess : max ((num.log2 : ℤ) - den.log2 - 53) minExponent = guess
  obtain ⟨hpos, hscale⟩ := scaleRatio_eq num hden guess
  have hpow : (0 : ℚ) < 2 ^ guess := by positivity
  have hfits : (scaleRatio num den guess).1 / (scaleRatio num den guess).2 < 2 ^ 53 ↔
      (num / den : ℚ) < 2 ^ (53 + guess) := by
    rw [Nat.div_lt_iff_lt_mul hpos, zpow_add₀ two_ne_zero, ← div_lt_iff₀ hpow, ← hscale,
      div_lt_iff₀ (by exact_mod_cast hpos)]
    exact_mod_cast Iff.rfl
  split_ifs with hbits
  · refine ⟨hfits.mp hbits, by omega, ?_⟩
    rcases max_choice ((num.log2 : ℤ) - den.log2 - 53) minExponent with h | h
    · right
      rw [show 52 + guess = (num.log2 : ℤ) - den.log2 - 1 by omega]
      exact hlow
    · exact .inl (by omega)
  · rw [hfits, not_lt] at hbits
    refine ⟨hhigh.trans_le ?_, by omega, .inr ?_⟩
    · exact zpow_le_zpow_right₀ one_le_two (by omega)
    · rwa [show 52 + (guess + 1) = 53 + guess by ring]

/-! ### Numbers nearest to a ratio -/

/-- A finite number has one form: 53 bits, unless its exponent is the least one. -/
structure IsNormal (m : ℕ) (e : ℤ) : Prop where
  lt : m < 2 ^ 53
  min_le : minExponent ≤ e
  le_max : e ≤ maxExponent
  full : e = minExponent ∨ 2 ^ 52 ≤ m

/-- The lower end of the interval of a number, in quarters of its last bit. Below a power of two
the spacing of the numbers halves, and with it the distance to the lower end. -/
def lowEnd (m : ℕ) (e : ℤ) : ℕ :=
  if m = 2 ^ 52 ∧ minExponent < e then 4 * m - 1 else 4 * m - 2

/-- The ratio is in the interval of a number: it is no nearer to another one, and it is nearer to
this one if its last bit is set. -/
structure IsNear (m : ℕ) (e : ℤ) (x : ℚ) : Prop where
  low : lowEnd m e * 2 ^ (e - 2) ≤ x
  high : x ≤ (4 * m + 2) * 2 ^ (e - 2)
  odd : m % 2 = 1 → lowEnd m e * 2 ^ (e - 2) < x ∧ x < (4 * m + 2) * 2 ^ (e - 2)

variable {m num den : ℕ} {e : ℤ}

/-- A quarter of the last bit of a number. -/
theorem two_zpow_sub_two (e : ℤ) : (2 : ℚ) ^ (e - 2) = 2 ^ e / 4 := by
  rw [zpow_sub₀ two_ne_zero]
  norm_num

theorem lowEnd_bounds (hpos : 0 < m) : 4 * (m : ℚ) - 2 ≤ lowEnd m e ∧ 1 ≤ (lowEnd m e : ℚ) := by
  have hcases : lowEnd m e = 4 * m - 1 ∨ lowEnd m e = 4 * m - 2 := by
    rw [lowEnd]
    split_ifs
    · exact .inl rfl
    · exact .inr rfl
  have hnat : 4 * m ≤ lowEnd m e + 2 ∧ 1 ≤ lowEnd m e := by omega
  constructor
  · have hle : (4 * m : ℚ) ≤ lowEnd m e + 2 := by exact_mod_cast hnat.1
    linarith
  · exact_mod_cast hnat.2

theorem IsNear.pos {x : ℚ} (hpos : 0 < m) (h : IsNear m e x) : 0 < x := by
  have hlow := (lowEnd_bounds (e := e) hpos).2
  exact lt_of_lt_of_le (by positivity) h.low

/-- The interval of a number reaches at most half a unit of its last bit to either side. -/
theorem IsNear.bounds {x : ℚ} (hpos : 0 < m) (h : IsNear m e x) :
    ((m : ℚ) - 1 / 2) * 2 ^ e ≤ x ∧ x ≤ ((m : ℚ) + 1 / 2) * 2 ^ e ∧
      (m % 2 = 1 → ((m : ℚ) - 1 / 2) * 2 ^ e < x ∧ x < ((m : ℚ) + 1 / 2) * 2 ^ e) := by
  obtain ⟨hlow, hhigh, hodd⟩ := h
  have hend := (lowEnd_bounds (e := e) hpos).1
  have hunit : (0 : ℚ) < 2 ^ e := by positivity
  rw [two_zpow_sub_two] at hlow hhigh hodd
  refine ⟨by nlinarith, by nlinarith, fun hm => ?_⟩
  obtain ⟨hlt, hlt'⟩ := hodd hm
  exact ⟨by nlinarith, by nlinarith⟩

/-- A ratio in the interval of a number is rounded at the exponent of this number, or, if it is
below a power of two, at the exponent of the numbers below. -/
theorem ratioExponent_cases (hm : IsNormal m e) (hpos : 0 < m) (hnum : 0 < num) (hden : 0 < den)
    (h : IsNear m e (num / den : ℚ)) :
    ratioExponent num den = e ∨
      (ratioExponent num den = e - 1 ∧ m = 2 ^ 52 ∧ minExponent < e) := by
  obtain ⟨hsmall, hmin, hfull⟩ := ratioExponent_spec hnum hden
  obtain ⟨hlow, hhigh, -⟩ := h.bounds hpos
  have hlowEnd := h.low
  generalize (num / den : ℚ) = x at *
  generalize ratioExponent num den = E at *
  have hunit : (0 : ℚ) < 2 ^ e := by positivity
  have hpow (k : ℤ) : (2 : ℚ) ^ (k + e) = 2 ^ k * 2 ^ e := zpow_add₀ two_ne_zero k e
  rcases lt_trichotomy E e with hlt | heq | hgt
  · have hbig : 2 ^ 52 ≤ m := hm.full.resolve_left (by omega)
    have hx : x < 2 ^ (52 + e) := hsmall.trans_le (zpow_le_zpow_right₀ one_le_two (by omega))
    rw [hpow] at hx
    have hmlt : (m : ℚ) < 2 ^ 52 + 1 := by
      have hhalf := lt_of_mul_lt_mul_right (hlow.trans_lt hx) hunit.le
      linarith
    have hmeq : m = 2 ^ 52 := by
      have : m < 2 ^ 52 + 1 := by exact_mod_cast hmlt
      omega
    refine .inr ⟨?_, hmeq, by omega⟩
    by_contra hne
    have hx' : x < 2 ^ (51 + e) := hsmall.trans_le (zpow_le_zpow_right₀ one_le_two (by omega))
    rw [hpow] at hx'
    have hhalf := lt_of_mul_lt_mul_right (hlow.trans_lt hx') hunit.le
    rw [hmeq] at hhalf
    norm_num at hhalf
  · exact .inl heq
  · have hx : (2 : ℚ) ^ (52 + E) ≤ x := hfull.resolve_left (by have := hm.min_le; omega)
    have hx' : (2 : ℚ) ^ (53 + e) ≤ x :=
      (zpow_le_zpow_right₀ one_le_two (by omega)).trans hx
    rw [hpow] at hx'
    have hle : (m : ℚ) + 1 ≤ 2 ^ 53 := by exact_mod_cast hm.lt
    have hhalf := le_of_mul_le_mul_right (hx'.trans hhigh) hunit
    norm_num at hhalf hle
    linarith

/-- **A ratio in the interval of a number is rounded to this number.** -/
theorem ofRatio_eq (hm : IsNormal m e) (hpos : 0 < m) (hden : 0 < den)
    (h : IsNear m e (num / den : ℚ)) (s : Bool) : ofRatio s num den = finite s m e := by
  have hnum : 0 < num := by
    rw [Nat.pos_iff_ne_zero]
    rintro rfl
    simpa using h.pos hpos
  have hunit : (0 : ℚ) < 2 ^ e := by positivity
  obtain ⟨hlow, hhigh, hodd⟩ := h.bounds hpos
  have hmax := hm.le_max
  rcases ratioExponent_cases hm hpos hnum hden h with hE | ⟨hE, hmeq, hmin⟩
  · obtain ⟨hscaled, hscale⟩ := scaleRatio_eq num hden e
    have hround : roundQuotient (scaleRatio num den e).1 (scaleRatio num den e).2 = m := by
      refine roundQuotient_eq_of_ratio hscaled hscale ?_ ?_ fun hm => ⟨?_, ?_⟩
      · rwa [le_div_iff₀ hunit]
      · rwa [div_le_iff₀ hunit]
      · rw [lt_div_iff₀ hunit]
        exact (hodd hm).1
      · rw [div_lt_iff₀ hunit]
        exact (hodd hm).2
    have hlt := hm.lt
    have hne : m ≠ 2 ^ 53 := by omega
    simp only [ofRatio, hE, hround, hne, if_false]
    rw [if_neg (by omega), if_neg (by omega)]
  · obtain ⟨hscaled, hscale⟩ := scaleRatio_eq num hden (e - 1)
    have hhalf : (2 : ℚ) ^ (e - 1) = 2 ^ e / 2 := by
      rw [zpow_sub₀ two_ne_zero]
      norm_num
    -- The interval ends a quarter below the power of two, half a unit of the numbers there.
    have hlow' : ((2 : ℚ) ^ 52 - 1 / 4) * 2 ^ e ≤ num / den := by
      have hlowEnd := h.low
      rw [lowEnd, if_pos ⟨hmeq, hmin⟩, hmeq, zpow_sub₀ two_ne_zero] at hlowEnd
      norm_num at hlowEnd ⊢
      linarith
    have hsmall := (ratioExponent_spec hnum hden).1
    rw [hE, show 53 + (e - 1) = 52 + e by ring, zpow_add₀ two_ne_zero] at hsmall
    have hround :
        roundQuotient (scaleRatio num den (e - 1)).1 (scaleRatio num den (e - 1)).2 = 2 ^ 53 := by
      refine roundQuotient_eq_of_ratio hscaled hscale ?_ ?_ fun hodd => absurd hodd (by norm_num)
      · rw [hhalf, le_div_iff₀ (by positivity)]
        norm_num at hlow' ⊢
        linarith
      · rw [hhalf, div_le_iff₀ (by positivity)]
        norm_num at hsmall ⊢
        linarith
    simp only [ofRatio, hE, hround, if_true, hmeq, sub_add_cancel]
    rw [if_neg (by omega), if_neg (by omega)]

end Conformance.Binary64
