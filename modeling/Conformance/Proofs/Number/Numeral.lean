import Conformance.Number.Decimal
import Mathlib

/-!
# Numerals

A numeral has digits, perhaps a point with digits after it, and perhaps an exponent. Its parts can
be told from its text, so reading the text gives the digits and the place of the last one.

## Main definitions

* `Number.IsDigits` — a text that has only digits.
* `Number.Numeral` — a numeral in its parts, with `Number.Numeral.text`.
* `Number.Numeral.coefficient`, `Number.Numeral.scale` — the number that it stands for.

## Main results

* `Number.Numeral.readScientific?_text` — reading a numeral gives its digits and its scale.
* `Number.Numeral.readBinary64?_text` — a numeral is read as it stands.
-/

namespace Conformance.Number

/-! ### Runs of digits -/

/-- The decimal digits. -/
def digits : List Char := ['0', '1', '2', '3', '4', '5', '6', '7', '8', '9']

theorem isDigit_iff_mem {c : Char} : c.isDigit = true ↔ c ∈ digits := by
  constructor
  · intro h
    simp only [Char.isDigit, Bool.and_eq_true, decide_eq_true_eq, ge_iff_le,
      UInt32.le_iff_toNat_le] at h
    have hlow : 48 ≤ c.toNat := h.1
    have hhigh : c.toNat ≤ 57 := h.2
    rw [← Char.ofNat_toNat c]
    generalize c.toNat = n at hlow hhigh
    interval_cases n <;> simp [digits]
  · have hall : ∀ d ∈ digits, d.isDigit = true := by simp [digits]
    exact hall c

/-- All characters are digits. -/
def IsDigits (cs : List Char) : Prop := ∀ c ∈ cs, c.isDigit = true

theorem IsDigits.append {xs ys : List Char} (hx : IsDigits xs) (hy : IsDigits ys) :
    IsDigits (xs ++ ys) :=
  List.forall_mem_append.mpr ⟨hx, hy⟩

theorem isDigits_replicate (n : ℕ) : IsDigits (List.replicate n '0') := by
  intro c hc
  rw [List.eq_of_mem_replicate hc]
  rfl

theorem isDigits_toDigits (n : ℕ) : IsDigits (Nat.toDigits 10 n) :=
  fun _ hc => Nat.isDigit_of_mem_toDigits (by norm_num) le_rfl hc

/-- The number of some digits is the one that the core library reads. -/
theorem ofDigits_eq (cs : List Char) : ofDigits cs = Nat.ofDigitChars 10 cs 0 :=
  Nat.ofDigitChars_eq_foldl.symm

theorem ofDigits_append (xs ys : List Char) :
    ofDigits (xs ++ ys) = ofDigits xs * 10 ^ ys.length + ofDigits ys := by
  rw [ofDigits_eq, Nat.ofDigitChars_append, Nat.ofDigitChars_eq_ofDigitChars_zero, ofDigits_eq,
    ofDigits_eq, Nat.mul_comm]

theorem ofDigits_replicate (n : ℕ) : ofDigits (List.replicate n '0') = 0 := by
  rw [ofDigits_eq, Nat.ofDigitChars_replicate_zero, Nat.mul_zero]

theorem ofDigits_toDigits (n : ℕ) : ofDigits (Nat.toDigits 10 n) = n := by
  rw [ofDigits_eq, Nat.ofDigitChars_ten_toDigits]

/-- A run of digits is taken as a whole if the rest does not go on with one. -/
theorem span_digits {ds rest : List Char} (hds : IsDigits ds)
    (hrest : ∀ c ∈ rest.head?, c.isDigit = false) :
    (ds ++ rest).takeWhile Char.isDigit = ds ∧ (ds ++ rest).dropWhile Char.isDigit = rest := by
  rw [List.takeWhile_append_of_pos hds, List.dropWhile_append_of_pos hds]
  cases rest with
  | nil => simp
  | cons c rest =>
    have hc : ¬ c.isDigit = true := by simp [hrest c rfl]
    rw [List.takeWhile_cons_of_neg hc, List.dropWhile_cons_of_neg hc, List.append_nil]
    exact ⟨rfl, rfl⟩

/-! ### Unsigned numerals -/

/-- An unsigned numeral in its parts: the digits before the point, those after it if there is a
point, and the sign and digits of the exponent if there is one. -/
structure Numeral where
  whole : List Char
  fraction : Option (List Char)
  exponent : Option (Bool × List Char)
  whole_ne_nil : whole ≠ []
  whole_isDigits : IsDigits whole
  fraction_isDigits : ∀ ds ∈ fraction, IsDigits ds
  exponent_isDigits : ∀ p ∈ exponent, p.2 ≠ [] ∧ IsDigits p.2

namespace Numeral

/-- The text of a fraction. -/
def fractionText : Option (List Char) → List Char
  | none => []
  | some ds => '.' :: ds

/-- The text of an exponent. -/
def exponentText : Option (Bool × List Char) → List Char
  | none => []
  | some (negative, ds) => 'e' :: (if negative then '-' else '+') :: ds

/-- The text of a numeral. -/
def text (n : Numeral) : List Char :=
  n.whole ++ (fractionText n.fraction ++ exponentText n.exponent)

/-- The digits of a numeral as a number. -/
def coefficient (n : Numeral) : ℕ := ofDigits (n.whole ++ n.fraction.getD [])

/-- The exponent of the last digit. -/
def scale (n : Numeral) : ℤ :=
  (n.exponent.elim 0 fun p => signed p.1 (ofDigits p.2)) - (n.fraction.getD []).length

/-- The characters of numerals. -/
def chars : List Char := digits ++ ['.', 'e', '+', '-']

variable (n : Numeral)

theorem exists_text_eq : ∃ c cs, n.text = c :: cs ∧ c.isDigit = true := by
  obtain ⟨c, cs, hwhole⟩ := List.exists_cons_of_ne_nil n.whole_ne_nil
  refine ⟨c, cs ++ (fractionText n.fraction ++ exponentText n.exponent), ?_, ?_⟩
  · rw [text, hwhole, List.cons_append]
  · exact n.whole_isDigits c (hwhole ▸ List.mem_cons_self)

theorem mem_chars_of_mem_text {c : Char} (h : c ∈ n.text) : c ∈ chars := by
  have hdigits {ds : List Char} (hds : IsDigits ds) (hc : c ∈ ds) : c ∈ chars :=
    List.mem_append_left _ (isDigit_iff_mem.mp (hds c hc))
  rw [text, List.mem_append, List.mem_append] at h
  rcases h with h | h | h
  · exact hdigits n.whole_isDigits h
  · cases hfraction : n.fraction with
    | none => rw [hfraction] at h; cases h
    | some ds =>
      rw [hfraction, fractionText, List.mem_cons] at h
      rcases h with rfl | h
      · decide
      · exact hdigits (n.fraction_isDigits ds hfraction) h
  · cases hexponent : n.exponent with
    | none => rw [hexponent] at h; cases h
    | some p =>
      obtain ⟨negative, ds⟩ := p
      rw [hexponent, exponentText, List.mem_cons, List.mem_cons] at h
      rcases h with rfl | rfl | h
      · decide
      · cases negative <;> decide
      · exact hdigits (n.exponent_isDigits _ hexponent).2 h

theorem not_isDigit_head?_exponentText (exponent : Option (Bool × List Char)) :
    ∀ c ∈ (exponentText exponent).head?, c.isDigit = false := by
  cases exponent with
  | none => exact fun c hc => nomatch hc
  | some p =>
    intro c hc
    obtain rfl : 'e' = c := Option.some.inj hc
    rfl

/-- An exponent is read with its sign. -/
theorem readSigned?_sign {ds : List Char} (negative : Bool) (hne : ds ≠ []) (hds : IsDigits ds) :
    readSigned? ((if negative then '-' else '+') :: ds) = some (signed negative (ofDigits ds)) := by
  have hall : ds.all Char.isDigit = true := List.all_eq_true.mpr hds
  cases negative <;> simp [readSigned?, splitSign, hne, hall]

/-- Reading a numeral gives its digits and the exponent of the last one. -/
theorem readScientific?_text : readScientific? n.text = some (n.coefficient, n.scale) := by
  have hhead : ∀ c ∈ (fractionText n.fraction ++ exponentText n.exponent).head?,
      c.isDigit = false := by
    cases hfraction : n.fraction with
    | none => exact not_isDigit_head?_exponentText n.exponent
    | some ds =>
      intro c hc
      obtain rfl : '.' = c := Option.some.inj hc
      rfl
  obtain ⟨hwhole, hrest⟩ := span_digits n.whole_isDigits hhead
  have hne := n.whole_ne_nil
  rw [readScientific?, text, hwhole, hrest, coefficient, scale]
  have hexponent : n.exponent = none ∨ ∃ negative ds, n.exponent = some (negative, ds) ∧
      readSigned? ((if negative then '-' else '+') :: ds) =
        some (signed negative (ofDigits ds)) := by
    cases h : n.exponent with
    | none => exact .inl rfl
    | some p =>
      obtain ⟨hds, hdigits⟩ := n.exponent_isDigits p h
      exact .inr ⟨p.1, p.2, rfl, readSigned?_sign p.1 hds hdigits⟩
  cases hfraction : n.fraction with
  | none =>
    rcases hexponent with h | ⟨negative, ds, h, hread⟩
    · simp [h, hne, fractionText, exponentText]
    · simp [h, hne, fractionText, exponentText, hread]
  | some fs =>
    obtain ⟨htake, hdrop⟩ := span_digits (n.fraction_isDigits fs hfraction)
      (not_isDigit_head?_exponentText n.exponent)
    rcases hexponent with h | ⟨negative, ds, h, hread⟩
    · simp only [h, exponentText, List.append_nil] at htake hdrop
      simp [h, hne, fractionText, htake, hdrop, exponentText]
    · simp only [h, exponentText] at htake hdrop
      simp [h, hne, fractionText, htake, hdrop, exponentText, hread]

/-- The characters of numerals are in ASCII, in lower case, and no blanks. -/
theorem char_spec {c : Char} (h : c ∈ chars) :
    asciiChar? c = some c ∧ isSpace c = false ∧ c.toLower = c ∧ c ≠ '_' ∧ c ≠ ':' := by
  have hall : ∀ d ∈ chars, asciiChar? d = some d ∧ isSpace d = false ∧ d.toLower = d ∧ d ≠ '_' ∧
      d ≠ ':' := by
    simp [chars, digits, asciiChar?, isSpace, Char.toLower]
  exact hall c h

theorem char_spec_of_mem_text {c : Char} (h : c ∈ n.text) :
    asciiChar? c = some c ∧ isSpace c = false ∧ c.toLower = c ∧ c ≠ '_' ∧ c ≠ ':' :=
  char_spec (n.mem_chars_of_mem_text h)

theorem lower_text : lower n.text = n.text := by
  rw [lower]
  conv_rhs => rw [← List.map_id n.text]
  exact List.map_congr_left fun c hc => (n.char_spec_of_mem_text hc).2.2.1

theorem ascii?_text : ascii? n.text = some n.text := by
  rw [ascii?, ← List.mapM'_eq_mapM]
  generalize hcs : n.text = cs
  have hall : ∀ c ∈ cs, asciiChar? c = some c := by
    rw [← hcs]
    exact fun c hc => (n.char_spec_of_mem_text hc).1
  clear hcs
  induction cs with
  | nil => rfl
  | cons c cs ih =>
    obtain ⟨hc, hcs⟩ := List.forall_mem_cons.mp hall
    rw [List.mapM'_cons, hc, ih hcs]
    rfl

theorem strip_text : strip n.text = n.text := by
  have hfront {cs : List Char} (hcs : ∀ c ∈ cs, c ∈ n.text) : cs.dropWhile isSpace = cs := by
    cases cs with
    | nil => rfl
    | cons c cs =>
      have hc := (n.char_spec_of_mem_text (hcs c List.mem_cons_self)).2.1
      exact List.dropWhile_cons_of_neg (by simp [hc])
  rw [strip, hfront fun _ h => h, hfront fun _ h => List.mem_reverse.mp h, List.reverse_reverse]

/-- A numeral begins with a digit. -/
theorem splitSign_text : splitSign n.text = (false, n.text) := by
  obtain ⟨c, cs, htext, hc⟩ := n.exists_text_eq
  rw [htext]
  unfold splitSign
  split
  · next h => cases h; cases hc
  · next h => cases h; cases hc
  · rfl

/-- Without a sign and blanks a numeral is read as it stands. -/
theorem readBinary64?_text :
    readBinary64? n.text = some (.ofScientific false n.coefficient n.scale) := by
  obtain ⟨c, cs, htext, hc⟩ := n.exists_text_eq
  have hword {w : List Char} {d : Char} (hw : w.head? = some d) (hd : d.isDigit = false) :
      n.text ≠ w := by
    rintro rfl
    rw [htext] at hw
    obtain rfl : c = d := Option.some.inj hw
    exact Bool.false_ne_true (hd.symm.trans hc)
  simp only [readBinary64?, n.ascii?_text, Option.bind_eq_bind, Option.bind_some, n.strip_text,
    n.splitSign_text, n.lower_text]
  rw [if_neg, if_neg, n.readScientific?_text]
  · rfl
  · exact hword (w := "nan".toList) rfl rfl
  · rw [not_or]
    exact ⟨hword (w := "inf".toList) rfl rfl, hword (w := "infinity".toList) rfl rfl⟩

end Numeral

end Conformance.Number
