import Conformance.Proofs.Number.Numeral
import Conformance.Proofs.Number.Shortest

/-!
# The text of a floating-point number

The digits of the shortest decimal are written with a point among them, or with an exponent if the
number is very large or very small. Either way the text is a numeral that stands for this decimal,
so the number is read back from it. A text without a point has a single digit and an exponent.

## Main definitions

* `Number.Numeral.value` — the number that a numeral stands for.

## Main results

* `Binary64.exists_magnitudeText` — the text of a number is a numeral of the shortest decimal.
* `Binary64.exists_text` — a finite number is read back from its text.
-/

namespace Conformance

/-- The number that a numeral stands for. -/
def Number.Numeral.value (n : Number.Numeral) : ℚ := n.coefficient * 10 ^ n.scale

namespace Binary64

open Number

variable {ds : List Char}

/-- Digits with a point are a numeral of the number that they are with this point. -/
theorem exists_positional (hne : ds ≠ []) (hds : IsDigits ds) (point : ℤ) :
    ∃ n : Numeral, n.text = positional ds point ∧ n.fraction.isSome = true ∧ n.exponent = none ∧
      n.value = ofDigits ds * 10 ^ (point - ds.length) := by
  have hpos : 0 < ds.length := List.length_pos_iff.mpr hne
  have hten : (10 : ℚ) ≠ 0 := by norm_num
  rw [positional]
  split_ifs with hpoint hlength
  · -- Zeros stand between the point and the digits.
    have hzeros := isDigits_replicate (-point).toNat
    refine ⟨⟨['0'], some (List.replicate (-point).toNat '0' ++ ds), none, List.cons_ne_nil _ _,
      isDigits_replicate 1, ?_, nofun⟩, ?_, rfl, rfl, ?_⟩
    · rintro fs ⟨⟩
      exact hzeros.append hds
    · simp [Numeral.text, Numeral.fractionText, Numeral.exponentText]
    · have hzero : ofDigits ['0'] = 0 := rfl
      simp only [Numeral.value, Numeral.coefficient, Numeral.scale, Option.getD_some,
        ofDigits_append, hzero, ofDigits_replicate, Option.elim_none, List.length_append,
        List.length_replicate, Nat.zero_mul, Nat.zero_add]
      congr 2
      push_cast
      omega
  · -- Zeros stand between the digits and the point.
    have hzeros := isDigits_replicate (point.toNat - ds.length)
    refine ⟨⟨ds ++ List.replicate (point.toNat - ds.length) '0', some ['0'], none, by simp [hne],
      hds.append hzeros, ?_, nofun⟩, ?_, rfl, rfl, ?_⟩
    · rintro fs ⟨⟩
      exact isDigits_replicate 1
    · simp [Numeral.text, Numeral.fractionText, Numeral.exponentText]
    · have hzero : ofDigits ['0'] = 0 := rfl
      simp only [Numeral.value, Numeral.coefficient, Numeral.scale, Option.getD_some,
        ofDigits_append, hzero, ofDigits_replicate, Option.elim_none, List.length_replicate,
        Nat.add_zero, List.length_singleton]
      push_cast
      rw [zpow_neg_one, mul_inv_cancel_right₀ hten, ← zpow_natCast]
      congr 2
      omega
  · -- The point stands between two digits.
    refine ⟨⟨ds.take point.toNat, some (ds.drop point.toNat), none, ?_,
      fun c hc => hds c (List.mem_of_mem_take hc), ?_, nofun⟩, ?_, rfl, rfl, ?_⟩
    · rw [Ne, List.take_eq_nil_iff]
      rintro (h | h)
      · omega
      · exact hne h
    · rintro fs ⟨⟩
      exact fun c hc => hds c (List.mem_of_mem_drop hc)
    · simp [Numeral.text, Numeral.fractionText, Numeral.exponentText]
    · simp only [Numeral.value, Numeral.coefficient, Numeral.scale, Option.getD_some,
        List.take_append_drop, Option.elim_none, List.length_drop]
      congr 2
      omega

/-- Digits with an exponent are a numeral of the number with one digit before the point. Only a
single digit is written without one. -/
theorem exists_exponential (hne : ds ≠ []) (hds : IsDigits ds) (k : ℤ) :
    ∃ n : Numeral, n.text = exponential layout ds k ∧ n.exponent.isSome = true ∧
      (n.fraction = none → n.whole.length = 1) ∧
      n.value = ofDigits ds * 10 ^ (k + 1 - ds.length) := by
  obtain ⟨d, rest, rfl⟩ := List.exists_cons_of_ne_nil hne
  have hexponent : IsDigits (padZeros layout.exponentDigits (Nat.toDigits 10 k.natAbs)) :=
    (isDigits_replicate _).append (isDigits_toDigits _)
  have hexponentNe : padZeros layout.exponentDigits (Nat.toDigits 10 k.natAbs) ≠ [] := by
    simp [padZeros, Nat.toDigits_ne_nil]
  have hread : signed (decide (k < 0))
      (ofDigits (padZeros layout.exponentDigits (Nat.toDigits 10 k.natAbs))) = k := by
    rw [padZeros, ofDigits_append, ofDigits_replicate, ofDigits_toDigits, signed]
    split_ifs with hk
    · rw [decide_eq_true_iff] at hk
      omega
    · rw [decide_eq_true_iff] at hk
      omega
  refine ⟨⟨[d], if rest = [] then none else some rest,
    some (decide (k < 0), padZeros layout.exponentDigits (Nat.toDigits 10 k.natAbs)),
    List.cons_ne_nil _ _, fun c hc => hds c (List.mem_cons.mpr (.inl (List.mem_singleton.mp hc))),
    ?_, ?_⟩, ?_, rfl, fun _ => rfl, ?_⟩
  · intro fs hfs
    split_ifs at hfs
    · cases hfs
    · cases hfs
      exact fun c hc => hds c (List.mem_cons_of_mem _ hc)
  · rintro p ⟨⟩
    exact ⟨hexponentNe, hexponent⟩
  · rw [Numeral.text, exponential]
    cases rest <;> simp [Numeral.fractionText, Numeral.exponentText, layout]
  · have hfraction : (if rest = [] then none else some rest).getD [] = rest := by
      split_ifs with h
      · exact h.symm
      · rfl
    simp only [Numeral.value, Numeral.coefficient, Numeral.scale, hfraction, Option.elim_some,
      hread, List.singleton_append, List.length_cons]
    congr 2
    push_cast
    omega

/-- The digits of a number without the zeros at their end. -/
theorem exists_stripped {c : ℕ} (hc : c ≠ 0) :
    ∃ ds zeros, ((Nat.toDigits 10 c).reverse.dropWhile (· = '0')).reverse = ds ∧
      Nat.toDigits 10 c = ds ++ List.replicate zeros '0' ∧ ds ≠ [] ∧ IsDigits ds ∧
      c = ofDigits ds * 10 ^ zeros := by
  generalize hds : ((Nat.toDigits 10 c).reverse.dropWhile (· = '0')).reverse = ds
  have hzeros : ((Nat.toDigits 10 c).reverse.takeWhile (· = '0')).reverse =
      List.replicate ((Nat.toDigits 10 c).reverse.takeWhile (· = '0')).length '0' := by
    rw [List.reverse_eq_iff, List.reverse_replicate, List.eq_replicate_iff]
    exact ⟨rfl, fun d hd => by simpa using List.mem_takeWhile_imp hd⟩
  have hsplit : Nat.toDigits 10 c =
      ds ++ List.replicate ((Nat.toDigits 10 c).reverse.takeWhile (· = '0')).length '0' := by
    rw [← hzeros, ← hds, ← List.reverse_append, List.takeWhile_append_dropWhile,
      List.reverse_reverse]
  have hvalue : c = ofDigits ds *
      10 ^ ((Nat.toDigits 10 c).reverse.takeWhile (· = '0')).length := by
    have h := congrArg ofDigits hsplit
    rwa [ofDigits_toDigits, ofDigits_append, ofDigits_replicate, List.length_replicate,
      Nat.add_zero] at h
  refine ⟨ds, _, rfl, hsplit, ?_, fun d hd => ?_, hvalue⟩
  · rintro rfl
    have hzero : ofDigits [] = 0 := rfl
    rw [hzero, Nat.zero_mul] at hvalue
    exact hc hvalue
  · exact isDigits_toDigits c d (hsplit ▸ List.mem_append_left _ hd)

variable {m : ℕ} {e : ℤ}

/-- **The text of a number is a numeral of the shortest decimal.** It has a point, or it is a single
digit with an exponent. -/
theorem exists_magnitudeText (hm : IsNormal m e) (hpos : 0 < m) :
    ∃ n : Numeral, n.text = magnitudeText layout m e ∧
      n.value = (shortest m e).coefficient * 10 ^ (shortest m e).exponent ∧
      (n.fraction = none → n.whole.length = 1 ∧ n.exponent.isSome = true) := by
  obtain ⟨hc, -⟩ := shortest_spec hm hpos
  obtain ⟨ds, zeros, hstrip, hwritten, hne, hds, hvalue⟩ := exists_stripped hc
  have hlength : (Nat.toDigits 10 (shortest m e).coefficient).length = ds.length + zeros := by
    rw [hwritten, List.length_append, List.length_replicate]
  have hten : (10 : ℚ) ≠ 0 := by norm_num
  have hscale {k : ℤ} (hk : k = zeros + (shortest m e).exponent) :
      (ofDigits ds * 10 ^ k : ℚ) = (shortest m e).coefficient * 10 ^ (shortest m e).exponent := by
    rw [hk, hvalue, zpow_add₀ hten, zpow_natCast]
    push_cast
    ring
  simp only [magnitudeText, hstrip, hlength]
  split_ifs
  · obtain ⟨n, htext, hfraction, -, hn⟩ :=
      exists_positional hne hds ((ds.length + zeros : ℕ) + (shortest m e).exponent)
    refine ⟨n, htext, hn.trans (hscale (by push_cast; ring)), fun h => ?_⟩
    rw [h] at hfraction
    cases hfraction
  · obtain ⟨n, htext, hexponent, hwhole, hn⟩ :=
      exists_exponential hne hds ((ds.length + zeros : ℕ) + (shortest m e).exponent - 1)
    exact ⟨n, htext, hn.trans (hscale (by push_cast; ring)), fun h => ⟨hwhole h, hexponent⟩⟩

/-- **A number is read back from its text.** -/
theorem ofScientific_magnitudeText (hm : IsNormal m e) (hpos : 0 < m) {n : Numeral}
    (hn : n.value = (shortest m e).coefficient * 10 ^ (shortest m e).exponent) (s : Bool) :
    ofScientific s n.coefficient n.scale = finite s m e := by
  obtain ⟨-, hnear⟩ := shortest_spec hm hpos
  rw [← hn] at hnear
  refine ofScientific_eq hm hpos ?_ hnear s
  intro hzero
  have hvalue := hnear.pos hpos
  rw [Numeral.value, hzero] at hvalue
  simp at hvalue

/-- The text of a finite number is a numeral, with a minus in front if the number is negative, and
the numeral reads back as the number without its sign. -/
theorem exists_text (hm : IsNormal m e) (s : Bool) :
    ∃ n : Numeral, (finite s m e).text = String.ofList (if s then '-' :: n.text else n.text) ∧
      ofScientific false n.coefficient n.scale = finite false m e ∧
      (n.fraction = none → n.whole.length = 1 ∧ n.exponent.isSome = true) := by
  rw [text]
  rcases Nat.eq_zero_or_pos m with rfl | hpos
  · obtain rfl : e = minExponent := hm.full.resolve_right (by norm_num)
    have hdigits : IsDigits ['0'] := isDigits_replicate 1
    refine ⟨⟨['0'], some ['0'], none, List.cons_ne_nil _ _, hdigits, ?_, nofun⟩, rfl, rfl, nofun⟩
    rintro fs ⟨⟩
    exact hdigits
  · obtain ⟨n, htext, hvalue, hshape⟩ := exists_magnitudeText hm hpos
    refine ⟨n, ?_, ofScientific_magnitudeText hm hpos hvalue false, hshape⟩
    simp only [if_neg hpos.ne', htext]

end Binary64

end Conformance
