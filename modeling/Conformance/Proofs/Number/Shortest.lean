import Conformance.Number.Shortest
import Conformance.Proofs.Number.Rounding

/-!
# The shortest decimal reads back

The decimal that is found for a number is in the interval of ratios that are rounded to this
number, so it is read as the number again. The search always finds one, since on the finest grid,
that of seventeen digits, the unit is smaller than the interval.

## Main results

* `Binary64.shortest_spec` — the shortest decimal is in the interval of the number.
* `Binary64.ofScientific_eq` — a decimal in the interval of a number is read as this number.
-/

namespace Conformance.Binary64

variable {m c : ℕ} {e j : ℤ}

/-- An integer power as a ratio of natural powers. -/
theorem zpow_eq_div {a : ℚ} (ha : a ≠ 0) (k : ℤ) : a ^ k = a ^ k.toNat / a ^ (-k).toNat := by
  rw [← zpow_natCast, ← zpow_natCast, ← zpow_sub₀ ha]
  congr 1
  omega

theorem gridWeights_eq (e j : ℤ) :
    0 < (gridWeights e j).2 ∧
      ((gridWeights e j).1 : ℚ) = 10 ^ j / 2 ^ (e - 2) * (gridWeights e j).2 := by
  refine ⟨?_, ?_⟩
  · simp only [gridWeights]
    positivity
  · rw [zpow_eq_div (by norm_num : (10 : ℚ) ≠ 0), zpow_eq_div (two_ne_zero : (2 : ℚ) ≠ 0)]
    simp only [gridWeights]
    push_cast
    field_simp

/-- Reading back is being in the interval of the number. -/
theorem readsBack_iff : readsBack m e j c = true ↔ IsNear m e (c * 10 ^ j) := by
  obtain ⟨hpos, hunit⟩ := gridWeights_eq e j
  have hquarter : (0 : ℚ) < 2 ^ (e - 2) := by positivity
  have hpos' : (0 : ℚ) < (gridWeights e j).2 := by exact_mod_cast hpos
  have hcast : ((c * (gridWeights e j).1 : ℕ) : ℚ) * 2 ^ (e - 2) =
      c * 10 ^ j * (gridWeights e j).2 := by
    push_cast
    rw [hunit]
    field_simp
  have hle (a : ℕ) : a * (gridWeights e j).2 ≤ c * (gridWeights e j).1 ↔
      (a : ℚ) * 2 ^ (e - 2) ≤ c * 10 ^ j := by
    rw [← Nat.cast_le (α := ℚ), ← mul_le_mul_iff_left₀ hquarter, hcast, Nat.cast_mul,
      mul_right_comm, mul_le_mul_iff_left₀ hpos']
  have hge (a : ℕ) : c * (gridWeights e j).1 ≤ a * (gridWeights e j).2 ↔
      c * 10 ^ j ≤ (a : ℚ) * 2 ^ (e - 2) := by
    rw [← Nat.cast_le (α := ℚ), ← mul_le_mul_iff_left₀ hquarter, hcast, Nat.cast_mul,
      mul_right_comm (a : ℚ), mul_le_mul_iff_left₀ hpos']
  have hhigh : ((4 * m + 2 : ℕ) : ℚ) = 4 * m + 2 := by push_cast; rfl
  simp only [readsBack]
  rw [← lowEnd]
  split_ifs with hm
  · rw [Bool.and_eq_true, decide_eq_true_iff, decide_eq_true_iff, hle, hge, hhigh]
    exact ⟨fun h => ⟨h.1, h.2, fun hodd => by omega⟩, fun h => ⟨h.low, h.high⟩⟩
  · rw [Bool.and_eq_true, decide_eq_true_iff, decide_eq_true_iff, ← not_le, ← not_le, hge, hle,
      hhigh, not_le, not_le]
    exact ⟨fun h => ⟨h.1.le, h.2.le, fun _ => h⟩, fun h => h.odd (by omega)⟩

/-! ### The search for a decimal -/

/-- What is found on a grid is on it, is not zero, and reads back. -/
theorem onGrid?_sound {d : Scientific} (h : onGrid? m e j = some d) :
    d.exponent = j ∧ d.coefficient ≠ 0 ∧ IsNear m e (d.coefficient * 10 ^ j) := by
  simp only [onGrid?] at h
  split at h
  · next hbelow _ =>
    cases h
    rw [Bool.and_eq_true, decide_eq_true_iff] at hbelow
    exact ⟨rfl, hbelow.2, readsBack_iff.mp hbelow.1⟩
  · next habove =>
    cases h
    exact ⟨rfl, Nat.succ_ne_zero _, readsBack_iff.mp habove⟩
  · cases h
  · next hbelow habove =>
    cases h
    rw [Bool.and_eq_true, decide_eq_true_iff] at hbelow
    dsimp only
    split_ifs
    · exact ⟨rfl, hbelow.2, readsBack_iff.mp hbelow.1⟩
    · exact ⟨rfl, Nat.succ_ne_zero _, readsBack_iff.mp habove⟩

/-- What lies between the ends of the interval of a number is in it. -/
theorem isNear_of_lt {x : ℚ} (hlow : lowEnd m e * (2 ^ e / 4) < x)
    (hhigh : x < ((m : ℚ) + 1 / 2) * 2 ^ e) : IsNear m e x := by
  have hlow' : lowEnd m e * 2 ^ (e - 2) < x := by rwa [two_zpow_sub_two]
  have hhigh' : x < (4 * m + 2) * 2 ^ (e - 2) := by
    rw [two_zpow_sub_two]
    linarith
  exact ⟨hlow'.le, hhigh'.le, fun _ => ⟨hlow', hhigh'⟩⟩

theorem isNear_of_le {x : ℚ} (hpos : 0 < m) (hle : m * 2 ^ e ≤ x)
    (hlt : x < ((m : ℚ) + 1 / 2) * 2 ^ e) : IsNear m e x := by
  have hunit : (0 : ℚ) < 2 ^ e := by positivity
  have hend : (lowEnd m e : ℚ) + 1 ≤ 4 * m := by
    have hnat : lowEnd m e + 1 ≤ 4 * m := by
      rw [lowEnd]
      split_ifs <;> omega
    exact_mod_cast hnat
  exact isNear_of_lt (by nlinarith) hlt

theorem isNear_of_ge {x : ℚ} (hpos : 0 < m) (hm : ¬ (m = 2 ^ 52 ∧ minExponent < e))
    (hge : x ≤ m * 2 ^ e) (hlt : ((m : ℚ) - 1 / 2) * 2 ^ e < x) : IsNear m e x := by
  have hunit : (0 : ℚ) < 2 ^ e := by positivity
  have hend : (lowEnd m e : ℚ) = 4 * m - 2 := by
    rw [lowEnd, if_neg hm, Nat.cast_sub (by omega)]
    push_cast
    rfl
  refine isNear_of_lt ?_ (by linarith)
  rw [hend]
  linarith

/-- The neighbour below on a grid is the number rounded down. -/
theorem div_gridWeights (m : ℕ) (e j : ℤ) :
    4 * m * (gridWeights e j).2 / (gridWeights e j).1 = ⌊(m * 2 ^ e / 10 ^ j : ℚ)⌋₊ := by
  obtain ⟨hquarter, hunit⟩ := gridWeights_eq e j
  have hpos : (0 : ℚ) < (gridWeights e j).2 := by exact_mod_cast hquarter
  rw [← Nat.floor_div_eq_div (K := ℚ)]
  congr 1
  push_cast
  rw [hunit, zpow_sub₀ two_ne_zero]
  field_simp
  norm_num
  ring

/-- A decimal is found on a grid that divides the number into at least `10 ^ 16` parts: its unit is
less than a unit of the last bit, so that the nearer of the two neighbours reads back. For a power
of two the unit is even less than half of that, and the neighbour above reads back. -/
theorem exists_onGrid?_eq_some (hm : IsNormal m e) (hpos : 0 < m)
    (hgrid : (10 : ℚ) ^ 16 * 10 ^ j ≤ m * 2 ^ e) : ∃ d, onGrid? m e j = some d := by
  have hten : (0 : ℚ) < 10 ^ j := by positivity
  have htwo : (0 : ℚ) < 2 ^ e := by positivity
  have hquotient : (10 : ℚ) ^ 16 ≤ m * 2 ^ e / 10 ^ j := by rwa [le_div_iff₀ hten]
  simp only [onGrid?, div_gridWeights]
  generalize hbelow : ⌊(m * 2 ^ e / 10 ^ j : ℚ)⌋₊ = below
  have hle : (below : ℚ) * 10 ^ j ≤ m * 2 ^ e := by
    rw [← le_div_iff₀ hten, ← hbelow]
    exact Nat.floor_le (by positivity)
  have hlt : (m * 2 ^ e : ℚ) < (below + 1 : ℕ) * 10 ^ j := by
    rw [← div_lt_iff₀ hten, ← hbelow]
    exact_mod_cast Nat.lt_floor_add_one (m * 2 ^ e / 10 ^ j : ℚ)
  have hne : below ≠ 0 := by
    have hone : 1 ≤ below := by
      rw [← hbelow]
      exact Nat.le_floor (le_trans (by norm_num) hquotient)
    omega
  have hmlt : (m : ℚ) < 2 ^ 53 := by exact_mod_cast hm.lt
  have hfound : readsBack m e j below = true ∨ readsBack m e j (below + 1) = true := by
    rw [readsBack_iff, readsBack_iff]
    push_cast at hlt ⊢
    by_cases hpower : m = 2 ^ 52 ∧ minExponent < e
    · refine .inr (isNear_of_le hpos hlt.le ?_)
      have hmeq : (m : ℚ) = 2 ^ 52 := by exact_mod_cast hpower.1
      rw [hmeq] at hle hgrid ⊢
      nlinarith
    · by_cases hnear : (m * 2 ^ e - below * 10 ^ j : ℚ) ≤ 10 ^ j / 2
      · refine .inl (isNear_of_ge hpos hpower hle ?_)
        nlinarith
      · refine .inr (isNear_of_le hpos hlt.le ?_)
        nlinarith
  cases hdown : readsBack m e j below <;> cases hup : readsBack m e j (below + 1) <;>
    simp_all

/-! ### The number of digits -/

/-- The decimal exponent that is estimated from a binary one is not too large by more than one. -/
theorem zpow_guess_le {l : ℤ} (hlow : -1074 ≤ l) (hhigh : l ≤ 1023) :
    (10 : ℚ) ^ (l * 30103 / 100000 - 1) ≤ 2 ^ l := by
  generalize hk : l * 30103 / 100000 - 1 = k
  rcases le_or_gt 0 k with hpos | hneg
  · -- The logarithm of two is more than 59 / 196.
    obtain ⟨n, rfl⟩ := Int.eq_ofNat_of_zero_le hpos
    obtain ⟨p, rfl⟩ := Int.eq_ofNat_of_zero_le (show 0 ≤ l by omega)
    rw [zpow_natCast, zpow_natCast]
    refine le_of_pow_le_pow_left₀ (by norm_num : 59 ≠ 0) (by positivity) ?_
    calc ((10 : ℚ) ^ n) ^ 59 = (10 ^ 59) ^ n := by rw [← pow_mul, ← pow_mul, mul_comm]
      _ ≤ (2 ^ 196) ^ n := by gcongr; norm_num
      _ = 2 ^ (196 * n) := (pow_mul 2 196 n).symm
      _ ≤ 2 ^ (p * 59) := pow_le_pow_right₀ one_le_two (by omega)
      _ = (2 ^ p) ^ 59 := pow_mul 2 p 59
  · rcases le_or_gt 0 l with hl | hl
    · exact (zpow_le_one_of_nonpos₀ (by norm_num) hneg.le).trans (one_le_zpow₀ one_le_two hl)
    · -- The logarithm of two is less than 28 / 93.
      obtain ⟨n, hn⟩ := Int.eq_ofNat_of_zero_le (show 0 ≤ -k by omega)
      obtain ⟨p, hp⟩ := Int.eq_ofNat_of_zero_le (show 0 ≤ -l by omega)
      obtain rfl : k = -n := by omega
      obtain rfl : l = -p := by omega
      rw [zpow_neg, zpow_neg, zpow_natCast, zpow_natCast]
      refine inv_anti₀ (by positivity)
        (le_of_pow_le_pow_left₀ (by norm_num : 93 ≠ 0) (by positivity) ?_)
      calc ((2 : ℚ) ^ p) ^ 93 = (2 ^ 93) ^ p := by rw [← pow_mul, ← pow_mul, mul_comm]
        _ ≤ (10 ^ 28) ^ p := by gcongr; norm_num
        _ = 10 ^ (28 * p) := (pow_mul 10 28 p).symm
        _ ≤ 10 ^ (n * 93) := pow_le_pow_right₀ (by norm_num) (by omega)
        _ = (10 ^ n) ^ 93 := pow_mul 10 n 93

/-- The power of ten of the decimal exponent is not beyond the number. -/
theorem zpow_decimalExponent_le (hm : IsNormal m e) (hpos : 0 < m) :
    (10 : ℚ) ^ decimalExponent m e ≤ m * 2 ^ e := by
  have hatMost (k : ℤ) :
      10 ^ k.toNat * 2 ^ (-e).toNat ≤ m * 2 ^ e.toNat * 10 ^ (-k).toNat ↔
        (10 : ℚ) ^ k ≤ m * 2 ^ e := by
    rw [zpow_eq_div (by norm_num : (10 : ℚ) ≠ 0) k, zpow_eq_div (two_ne_zero : (2 : ℚ) ≠ 0) e,
      mul_div_assoc', div_le_div_iff₀ (by positivity) (by positivity)]
    exact_mod_cast Iff.rfl
  simp only [decimalExponent, decide_eq_true_iff, hatMost]
  split_ifs with h h'
  · exact h
  · exact h'
  · have hlog : (2 : ℚ) ^ ((m.log2 : ℤ) + e) ≤ m * 2 ^ e := by
      rw [zpow_add₀ two_ne_zero]
      gcongr
      exact_mod_cast Nat.log2_self_le hpos.ne'
    refine le_trans (zpow_guess_le ?_ ?_) hlog
    · have := hm.min_le
      simp only [minExponent] at this
      omega
    · have hlt : m.log2 < 53 := (Nat.log2_lt hpos.ne').mpr hm.lt
      have := hm.le_max
      simp only [maxExponent] at this
      omega

/-- The search ends with a decimal that reads back if the finest grid has one. -/
theorem shortestFrom_spec (hm : IsNormal m e) (hpos : 0 < m) {top : ℤ}
    (htop : (10 : ℚ) ^ top ≤ m * 2 ^ e) (left count : ℕ) (hcount : count + left = 17) :
    (shortestFrom m e top count left).coefficient ≠ 0 ∧
      IsNear m e ((shortestFrom m e top count left).coefficient *
        10 ^ (shortestFrom m e top count left).exponent) := by
  induction left generalizing count with
  | zero =>
    have hgrid : (10 : ℚ) ^ 16 * 10 ^ (top + 1 - (count : ℤ)) ≤ m * 2 ^ e := by
      have hexp : (10 : ℚ) ^ (16 : ℤ) * 10 ^ (top + 1 - (count : ℤ)) = 10 ^ top := by
        rw [← zpow_add₀ (by norm_num)]
        congr 1
        omega
      exact le_trans (le_of_eq (by exact_mod_cast hexp)) htop
    obtain ⟨d, hd⟩ := exists_onGrid?_eq_some hm hpos hgrid
    obtain ⟨hexponent, hne, hnear⟩ := onGrid?_sound hd
    rw [shortestFrom, hd, Option.getD_some, hexponent]
    exact ⟨hne, hnear⟩
  | succ left ih =>
    rw [shortestFrom]
    cases hd : onGrid? m e (top + 1 - count) with
    | some d =>
      obtain ⟨hexponent, hne, hnear⟩ := onGrid?_sound hd
      dsimp only
      rw [hexponent]
      exact ⟨hne, hnear⟩
    | none => exact ih (count + 1) (by omega)

/-- **The shortest decimal is in the interval of the number.** -/
theorem shortest_spec (hm : IsNormal m e) (hpos : 0 < m) :
    (shortest m e).coefficient ≠ 0 ∧
      IsNear m e ((shortest m e).coefficient * 10 ^ (shortest m e).exponent) :=
  shortestFrom_spec hm hpos (zpow_decimalExponent_le hm hpos) 16 1 rfl

/-! ### Reading a decimal -/

theorem digitCount_bounds (hc : c ≠ 0) :
    c < 10 ^ digitCount c ∧ 10 ^ digitCount c ≤ c * 10 := by
  have hpos : 0 < digitCount c := Nat.length_toDigits_pos
  have hiff (k : ℕ) (hk : 0 < k) : digitCount c ≤ k ↔ c < 10 ^ k :=
    Nat.length_toDigits_le_iff (by norm_num) hk
  refine ⟨(hiff _ hpos).mp le_rfl, ?_⟩
  obtain ⟨k, hk⟩ := Nat.exists_eq_succ_of_ne_zero hpos.ne'
  rw [hk, Nat.pow_succ]
  refine Nat.mul_le_mul_right 10 ?_
  rcases Nat.eq_zero_or_pos k with rfl | hk'
  · exact Nat.one_le_iff_ne_zero.mpr hc
  · exact Nat.le_of_not_lt fun hlt => by
      have := (hiff k hk').mpr hlt
      omega

/-- The digits of a decimal near a number begin at a place that the format reaches. -/
theorem magnitude_bounds (hm : IsNormal m e) (hpos : 0 < m) (hc : c ≠ 0) {k : ℤ}
    (h : IsNear m e (c * 10 ^ k)) : -330 ≤ digitCount c + k ∧ digitCount c + k ≤ 310 := by
  obtain ⟨hlow, hhigh, -⟩ := h.bounds hpos
  obtain ⟨hlt, hle⟩ := digitCount_bounds hc
  have hten : (0 : ℚ) < 10 ^ k := by positivity
  have hmin : (2 : ℚ) ^ (-1074 : ℤ) ≤ 2 ^ e := zpow_le_zpow_right₀ one_le_two hm.min_le
  have hmax : (2 : ℚ) ^ e ≤ 2 ^ (971 : ℤ) := zpow_le_zpow_right₀ one_le_two hm.le_max
  have hone : (1 : ℚ) ≤ m := by exact_mod_cast hpos
  have hmlt : (m : ℚ) + 1 ≤ 2 ^ 53 := by exact_mod_cast hm.lt
  have hpow : (10 : ℚ) ^ (digitCount c + k) = 10 ^ digitCount c * 10 ^ k := by
    rw [zpow_add₀ (by norm_num), zpow_natCast]
  have hupper : (10 : ℚ) ^ (digitCount c + k) ≤ c * 10 ^ k * 10 := by
    have : (10 : ℚ) ^ digitCount c ≤ c * 10 := by exact_mod_cast hle
    rw [hpow]
    nlinarith
  have hlower : c * 10 ^ k < (10 : ℚ) ^ (digitCount c + k) := by
    have : (c : ℚ) < 10 ^ digitCount c := by exact_mod_cast hlt
    rw [hpow]
    nlinarith
  constructor
  · have hleast : (10 : ℚ) ^ (-330 : ℤ) ≤ 1 / 2 * 2 ^ (-1074 : ℤ) := by
      have hnat : (2 : ℕ) * 2 ^ 1074 ≤ 10 ^ 330 := by decide +kernel
      have hrat : (2 : ℚ) * 2 ^ 1074 ≤ 10 ^ 330 := by exact_mod_cast hnat
      rw [zpow_neg, zpow_neg, one_div, ← mul_inv]
      exact inv_anti₀ (by positivity) hrat
    have hhalf : (1 / 2 : ℚ) * 2 ^ (-1074 : ℤ) ≤ c * 10 ^ k :=
      le_trans (mul_le_mul (by linarith) hmin (by positivity) (by linarith)) hlow
    exact ((zpow_lt_zpow_iff_right₀ (by norm_num)).mp
      ((hleast.trans hhalf).trans_lt hlower)).le
  · have hgreatest : (2 : ℚ) ^ 53 * 2 ^ (971 : ℤ) * 10 ≤ 10 ^ (310 : ℤ) := by
      have hnat : (2 : ℕ) ^ 53 * 2 ^ 971 * 10 ≤ 10 ^ 310 := by decide +kernel
      exact_mod_cast hnat
    have hwhole : c * 10 ^ k ≤ (2 : ℚ) ^ 53 * 2 ^ (971 : ℤ) :=
      hhigh.trans (mul_le_mul (by linarith) hmax (by positivity) (by positivity))
    refine (zpow_le_zpow_iff_right₀ (by norm_num : (1 : ℚ) < 10)).mp (hupper.trans ?_)
    exact le_trans (by gcongr) hgreatest

/-- **A decimal in the interval of a number is read as this number.** -/
theorem ofScientific_eq (hm : IsNormal m e) (hpos : 0 < m) (hc : c ≠ 0) {k : ℤ}
    (h : IsNear m e (c * 10 ^ k)) (s : Bool) : ofScientific s c k = finite s m e := by
  obtain ⟨hlow, hhigh⟩ := magnitude_bounds hm hpos hc h
  simp only [ofScientific]
  rw [if_neg (by omega), if_neg (by omega)]
  rw [zpow_eq_div (by norm_num : (10 : ℚ) ≠ 0)] at h
  split_ifs with hk
  · refine ofRatio_eq hm hpos Nat.one_pos ?_ s
    rw [show (-k).toNat = 0 by omega] at h
    simpa using h
  · refine ofRatio_eq hm hpos (by positivity) ?_ s
    rw [show k.toNat = 0 by omega] at h
    simpa [div_eq_mul_inv] using h

end Conformance.Binary64
