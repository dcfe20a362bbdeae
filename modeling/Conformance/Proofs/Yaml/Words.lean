import Conformance.Proofs.Number.Layout
import Conformance.Yaml.Scalar

/-!
# Plain words and numbers

The tags and the values of plain scalars that are spelled as a word for nothing, a word for a
truth value, or a number in decimal digits. A number with an exponent is one only if it has a
point: `1.0e+16` is a floating-point number and `1e+16` a text.

## Main results

* `Resolve.tag_null`, `Resolve.tag_bool` — the tags of the words.
* `Resolve.tag_pointed`, `Scalar.float_signedText` — numerals with a point.
* `Resolve.tag_whole`, `Scalar.int_signedText` — integers.
* `Resolve.tag_unpointed` — numerals with an exponent but without a point are texts.
-/

namespace Conformance

open Number

namespace Number.Numeral

/-- A numeral with a minus in front if the number is negative. -/
def signedText (n : Numeral) (negative : Bool) : List Char :=
  if negative then '-' :: n.text else n.text

/-- The numeral of a natural number. -/
def ofNat (n : ℕ) : Numeral :=
  ⟨Nat.toDigits 10 n, none, none, Nat.toDigits_ne_nil, isDigits_toDigits n, nofun, nofun⟩

theorem text_ofNat (n : ℕ) : (ofNat n).text = Nat.toDigits 10 n := List.append_nil _

/-- The text of an integer is a signed numeral. -/
theorem toList_toString (n : ℤ) :
    (toString n).toList = (ofNat n.natAbs).signedText (decide (n < 0)) := by
  cases n with
  | ofNat n =>
    have hnonneg : ¬ Int.ofNat n < 0 := Int.not_lt.mpr (Int.natCast_nonneg n)
    rw [decide_eq_false hnonneg]
    change n.repr.toList = (ofNat n).text
    rw [text_ofNat, Nat.repr_eq_ofList_toDigits, String.toList_ofList]
  | negSucc n =>
    rw [decide_eq_true (Int.negSucc_lt_zero n)]
    change ("-" ++ (n + 1).repr).toList = '-' :: (ofNat (n + 1)).text
    rw [text_ofNat, Nat.repr_eq_ofList_toDigits, String.toList_append, String.toList_ofList]
    simp

variable (n : Numeral) (negative : Bool)

/-- A signed numeral begins with a digit, or a digit follows its minus. -/
theorem exists_signedText_eq : ∃ c cs, n.signedText negative = c :: cs ∧
    (c.isDigit = true ∨ c = '-' ∧ ∃ d ds, cs = d :: ds ∧ d.isDigit = true) := by
  obtain ⟨c, cs, htext, hc⟩ := n.exists_text_eq
  cases negative with
  | true => exact ⟨'-', n.text, rfl, .inr ⟨rfl, c, cs, htext, hc⟩⟩
  | false => exact ⟨c, cs, htext, .inl hc⟩

/-- What does not begin with a digit or a minus is no signed numeral. -/
theorem signedText_ne {w : List Char} (hw : ∀ c ∈ w.head?, c.isDigit = false ∧ c ≠ '-') :
    n.signedText negative ≠ w := by
  rintro rfl
  obtain ⟨c, cs, htext, hc⟩ := n.exists_signedText_eq negative
  obtain ⟨hdigit, hminus⟩ := hw c (by rw [htext]; rfl)
  rcases hc with hc | ⟨hc, -⟩
  · rw [hdigit] at hc
    cases hc
  · exact hminus hc

theorem mem_chars_of_mem_signedText {c : Char} (h : c ∈ n.signedText negative) : c ∈ chars := by
  cases negative with
  | true =>
    rcases List.mem_cons.mp h with rfl | h
    · decide
    · exact n.mem_chars_of_mem_text h
  | false => exact n.mem_chars_of_mem_text h

theorem splitSign_signedText : splitSign (n.signedText negative) = (negative, n.text) := by
  cases negative with
  | true => rfl
  | false => exact n.splitSign_text

theorem lower_signedText : lower (n.signedText negative) = n.signedText negative := by
  cases negative with
  | true => exact congrArg ('-' :: ·) n.lower_text
  | false => exact n.lower_text

end Number.Numeral

namespace Yaml

open Number.Numeral

variable (n : Numeral) (negative : Bool)

namespace Resolve

/-! ### Words -/

/-- The words for nothing that have letters, and those for truth values. -/
theorem spellings_eq : spellings "null" = ["null", "Null", "NULL"] ∧
    truthWords.map (spellings ·.1) = [["yes", "Yes", "YES"], ["no", "No", "NO"],
      ["true", "True", "TRUE"], ["false", "False", "FALSE"], ["on", "On", "ON"],
      ["off", "Off", "OFF"]] := ⟨rfl, rfl⟩

theorem isBool_eq (s : String) :
    isBool s = (truthWords.map (spellings ·.1)).any (·.contains s) := by
  rw [isBool, List.any_map]
  rfl

theorem tag_null : tag "null".toList = .null := by
  simp [tag, dropFinalBreak, isNull, spellings_eq]

theorem tag_bool (b : Bool) : tag (if b then "true".toList else "false".toList) = .bool := by
  simp only [tag, dropFinalBreak]
  cases b <;> simp [isNull, isBool_eq, spellings_eq]

/-- No signed numeral is a word that begins neither with a digit nor with a minus. -/
theorem ofList_signedText_notMem (ws : List String)
    (hws : ∀ w ∈ ws, ∀ c ∈ w.toList.head?, c.isDigit = false ∧ c ≠ '-') :
    String.ofList (n.signedText negative) ∉ ws :=
  fun hmem => n.signedText_ne negative (hws _ hmem) (by rw [String.toList_ofList])

theorem not_isNull : isNull (String.ofList (n.signedText negative)) = false := by
  have hne := ofList_signedText_notMem n negative ["", "~", "null", "Null", "NULL"] (by simp)
  rw [Bool.eq_false_iff]
  exact fun h => hne (by simpa [isNull, spellings_eq, or_assoc] using h)

theorem not_isBool : isBool (String.ofList (n.signedText negative)) = false := by
  have hne := ofList_signedText_notMem n negative
    (truthWords.map (spellings ·.1)).flatten (by simp [spellings_eq])
  rw [Bool.eq_false_iff, isBool_eq]
  exact fun h => hne (by simpa using h)

/-! ### Numbers -/

theorem dropFinalBreak_signedText :
    dropFinalBreak (n.signedText negative) = n.signedText negative := by
  rw [dropFinalBreak, if_neg]
  rintro ⟨-, hlast⟩
  have hmem := n.mem_chars_of_mem_signedText negative (List.mem_of_getLast? hlast)
  exact absurd hmem (by decide)

/-- Nothing in a numeral is set apart by colons. -/
theorem colonFields_of_chars {cs : List Char} (h : ∀ c ∈ cs, c ∈ chars) : colonFields cs = [cs] :=
  List.splitOn_eq_singleton fun hmem => absurd (h _ hmem) (by decide)

theorem colonFields_digits {cs : List Char} (h : IsDigits cs) : colonFields cs = [cs] :=
  colonFields_of_chars fun c hc => List.mem_append_left _ (isDigit_iff_mem.mp (h c hc))

theorem all_isDigitOrLine {cs : List Char} (h : IsDigits cs) : cs.all isDigitOrLine = true :=
  List.all_eq_true.mpr fun c hc => by rw [isDigitOrLine, h c hc, Bool.true_or]

/-- A fraction with an exponent is one, since the exponent has its sign. -/
theorem isFraction_text {ds : List Char} (hds : IsDigits ds) :
    isFraction (ds ++ exponentText n.exponent) = true := by
  have hrun : ∀ c ∈ ds, isDigitOrLine c = true := List.all_eq_true.mp (all_isDigitOrLine hds)
  rw [isFraction, List.dropWhile_append_of_pos hrun]
  cases h : n.exponent with
  | none => rfl
  | some p =>
    obtain ⟨hne, hdigits⟩ := n.exponent_isDigits p h
    have hall : p.2.all Char.isDigit = true := List.all_eq_true.mpr hdigits
    have hsign : (p.1 = true ∨ p.1 = false) := by cases p.1 <;> simp
    rcases hsign with hsign | hsign <;>
      simp [exponentText, isDigitOrLine, isExponent, hsign, hne, hall]

theorem notMem_exponentText : '.' ∉ exponentText n.exponent := by
  cases h : n.exponent with
  | none => exact List.not_mem_nil
  | some p =>
    have hdigits := (n.exponent_isDigits p h).2
    have hpoint : '.' ∉ p.2 := fun hmem => absurd (hdigits _ hmem) (by decide)
    cases hsign : p.1 <;> simp [exponentText, hsign, hpoint]

theorem notMem_whole : '.' ∉ n.whole := fun hmem => absurd (n.whole_isDigits _ hmem) (by decide)

/-- There is a point in a signed numeral exactly if it has a fraction. -/
theorem mem_signedText_iff : '.' ∈ n.signedText negative ↔ n.fraction.isSome = true := by
  have htext : '.' ∈ n.text ↔ n.fraction.isSome = true := by
    rw [Numeral.text]
    cases n.fraction <;> simp [fractionText, notMem_whole, notMem_exponentText]
  cases negative <;> simp [Numeral.signedText, htext]

/-- Without a point no number is one with a point. -/
theorem isPointed_eq_false {cs : List Char} (h : '.' ∉ cs) : isPointed cs = false := by
  have hrest : cs.dropWhile (· ≠ '.') = [] :=
    List.dropWhile_eq_nil_iff.mpr fun c hc => decide_eq_true fun heq => h (heq ▸ hc)
  rw [isPointed, hrest]

/-- A numeral has a point exactly if it has a fraction. -/
theorem isPointed_text : isPointed n.text = n.fraction.isSome := by
  cases hfraction : n.fraction with
  | none =>
    refine isPointed_eq_false fun hmem => ?_
    have hsome := (mem_signedText_iff n false).mp hmem
    rw [hfraction] at hsome
    cases hsome
  | some ds =>
    have hwhole : ∀ c ∈ n.whole, decide (c ≠ '.') = true := fun c hc =>
      decide_eq_true fun h => notMem_whole n (h ▸ hc)
    obtain ⟨c, cs, hcons⟩ := List.exists_cons_of_ne_nil n.whole_ne_nil
    have hdigits := n.whole_isDigits
    rw [hcons] at hdigits
    obtain ⟨hc, hcs⟩ := List.forall_mem_cons.mp hdigits
    rw [isPointed, Numeral.text, List.takeWhile_append_of_pos hwhole,
      List.dropWhile_append_of_pos hwhole, hfraction]
    simp [fractionText, hcons, colonFields_digits hdigits, hc, all_isDigitOrLine hcs,
      isFraction_text n (n.fraction_isDigits ds hfraction)]

/-- A signed numeral is a floating-point number exactly if it has a point. -/
theorem isFloat_signedText : isFloat (n.signedText negative) = n.fraction.isSome := by
  have hword (w : List Char) : n.signedText negative ≠ '.' :: w ∧ n.text ≠ '.' :: w :=
    ⟨n.signedText_ne negative (by simp), n.signedText_ne false (by simp)⟩
  have hnan : ([".nan", ".NaN", ".NAN"].any fun w => n.signedText negative = w.toList) = false := by
    simp [hword]
  have hinf : (spellings "inf").any (fun w => n.text = '.' :: w.toList) = false := by
    simp [hword]
  rw [isFloat, dropSign, n.splitSign_signedText]
  simp only [hnan, hinf, isPointed_text, Bool.or_false]
  exact fun c fraction h => (hword _).1 h

/-- The tag of a signed numeral depends on its form only. -/
theorem tag_signedText : tag (n.signedText negative) =
    if n.fraction.isSome then .float
    else if isInt (n.signedText negative) then .int
    else if isTimestamp (n.signedText negative) then .timestamp
    else .str := by
  have hne := ofList_signedText_notMem n negative ["<<", "=", "!", "&", "*"] (by simp)
  simp only [List.mem_cons, List.not_mem_nil, or_false, not_or] at hne
  simp [tag, dropFinalBreak_signedText, not_isNull, not_isBool, isFloat_signedText, hne]

/-- A numeral with a point is a floating-point number. -/
theorem tag_pointed (h : n.fraction.isSome = true) : tag (n.signedText negative) = .float := by
  rw [tag_signedText, if_pos h]

/-- A numeral with a mark of an exponent after its first digit, but without a point, is neither a
number nor a date. -/
theorem tag_unpointed (hfraction : n.fraction = none) (hexponent : n.exponent.isSome = true)
    (hwhole : n.whole.length = 1) : tag (n.signedText negative) = .str := by
  obtain ⟨d, hd⟩ := List.length_eq_one_iff.mp hwhole
  obtain ⟨p, hp⟩ := Option.isSome_iff_exists.mp hexponent
  have hdigit : d.isDigit = true := n.whole_isDigits d (hd ▸ List.mem_cons_self)
  obtain ⟨rest, htext⟩ : ∃ rest, n.text = d :: 'e' :: rest := ⟨_, by
    rw [Numeral.text, hd, hfraction, hp]
    rfl⟩
  have hletter : ∀ c ∈ 'e' :: rest, c ∈ chars := fun c hc =>
    n.mem_chars_of_mem_text (htext ▸ List.mem_cons_of_mem _ hc)
  have hint : isInt (n.signedText negative) = false := by
    rw [isInt, dropSign, n.splitSign_signedText, htext]
    split
    · next h => cases h
    · next h => cases h
    · next h =>
      obtain ⟨-, rfl⟩ := List.cons.inj h
      rfl
    · next h =>
      obtain ⟨-, rfl⟩ := List.cons.inj h
      rw [colonFields_of_chars hletter]
      exact Bool.and_false _
    · rfl
  have hstamp : isTimestamp (n.signedText negative) = false := by
    have hfield : Calendar.field? 4 (n.signedText negative) = none := by
      cases negative <;> simp [signedText, htext, Calendar.field?]
    rw [isTimestamp, stamp?, hfield]
    rfl
  rw [tag_signedText, hfraction, hint, hstamp]
  rfl

/-- No number but zero begins with a zero. -/
theorem toDigits_eq (k : ℕ) : Nat.toDigits 10 k = ['0'] ∧ k = 0 ∨
    ∃ c cs, Nat.toDigits 10 k = c :: cs ∧ c ≠ '0' := by
  induction k using Nat.strong_induction_on with
  | _ k ih =>
    rcases Nat.lt_or_ge k 10 with hlt | hge
    · rw [Nat.toDigits_of_lt_base hlt]
      interval_cases k <;> simp
    · rw [Nat.toDigits_of_base_le (by norm_num) hge]
      rcases ih (k / 10) (by omega) with ⟨-, hzero⟩ | ⟨c, cs, hcons, hc⟩
      · omega
      · exact .inr ⟨c, cs ++ [Nat.digitChar (k % 10)], by rw [hcons]; rfl, hc⟩

/-- The digits of a natural number are an integer. -/
theorem tag_whole (k : ℕ) : tag ((ofNat k).signedText negative) = .int := by
  have hint : isInt ((ofNat k).signedText negative) = true := by
    rw [isInt, dropSign, splitSign_signedText, text_ofNat]
    have hdigits := isDigits_toDigits k
    rcases toDigits_eq k with ⟨hk, -⟩ | ⟨c, cs, hk, hc⟩
    · rw [hk]
      rfl
    · rw [hk] at hdigits ⊢
      obtain ⟨hdigit, hdigits⟩ := List.forall_mem_cons.mp hdigits
      split
      · next h => exact absurd (List.cons.inj h).1 hc
      · next h => exact absurd (List.cons.inj h).1 hc
      · next h => exact absurd (List.cons.inj h).1 hc
      · next h =>
        obtain ⟨rfl, rfl⟩ := List.cons.inj h
        simp [hdigit, colonFields_digits hdigits, all_isDigitOrLine hdigits]
      · next h => cases h
  rw [tag_signedText, hint]
  rfl

end Resolve

namespace Scalar

/-! ### Values -/

theorem bool_word (b : Bool) : bool (if b then "true".toList else "false".toList) = .ok b := by
  cases b <;> simp [bool, lower, Resolve.truthWords, List.lookup]

theorem ungroup_signedText : ungroup (n.signedText negative) = n.signedText negative := by
  refine List.filter_eq_self.mpr fun c hc => decide_eq_true ?_
  exact (char_spec (n.mem_chars_of_mem_signedText negative hc)).2.2.2.1

theorem signed_signedText : signed (n.signedText negative) = .ok (negative, n.text) := by
  obtain ⟨c, cs, htext, -⟩ := n.exists_signedText_eq negative
  rw [signed, if_neg (by simp [htext]), n.splitSign_signedText]

/-- A signed numeral has the value of the numeral with its sign. -/
theorem float_signedText : float (n.signedText negative) =
    .ok (if negative then (Binary64.ofScientific false n.coefficient n.scale).neg
      else .ofScientific false n.coefficient n.scale) := by
  have hinf : n.text ≠ ['.', 'i', 'n', 'f'] := n.signedText_ne false (by simp)
  have hnan : n.text ≠ sharedNaN := n.signedText_ne false (by simp [sharedNaN])
  have hfields : Resolve.colonFields n.text = [n.text] :=
    Resolve.colonFields_of_chars fun c hc => n.mem_chars_of_mem_text hc
  rw [float, floatText, ungroup_signedText, lower_signedText, signed_signedText]
  simp [hinf, hnan, hfields, orWrong, n.readBinary64?_text, bind, Except.bind, pure, Except.pure]

theorem isSharedNaN_signedText : isSharedNaN (n.signedText negative) = false := by
  have hnan : n.text ≠ sharedNaN := n.signedText_ne false (by simp [sharedNaN])
  rw [isSharedNaN, floatText, ungroup_signedText, lower_signedText, signed_signedText]
  simp [hnan]

/-- The digits of a natural number that are not too many are read as it. -/
theorem readInt?_toDigits {k : ℕ} (hk : k < 10 ^ digitLimit) :
    readInt? (Nat.toDigits 10 k) = some k := by
  have hlength := (Nat.length_toDigits_le_iff (by norm_num) (by decide)).mpr hk
  have hall : (Nat.toDigits 10 k).all Char.isDigit = true :=
    List.all_eq_true.mpr (isDigits_toDigits k)
  have htext := text_ofNat k
  rw [readInt?, ← htext, (ofNat k).ascii?_text]
  simp only [Option.bind_eq_bind, Option.bind_some, (ofNat k).strip_text, (ofNat k).splitSign_text]
  rw [htext, if_neg (by simp [hall, hlength, Nat.toDigits_ne_nil]), ofDigits_toDigits]
  rfl

/-- The digits of a natural number with a sign have the value of the integer. -/
theorem int_signedText {k : ℕ} (hk : k < 10 ^ digitLimit) :
    int ((ofNat k).signedText negative) = .ok (if negative then -k else k) := by
  rw [int, ungroup_signedText, signed_signedText, text_ofNat]
  have hdigits := isDigits_toDigits k
  have hread := readInt?_toDigits hk
  rcases Resolve.toDigits_eq k with ⟨hk, rfl⟩ | ⟨c, cs, hk, hc⟩
  · rw [hk]
    cases negative <;> rfl
  · have hfields := Resolve.colonFields_digits hdigits
    rw [hk] at hread hfields ⊢
    simp [hc, hfields, hread, orWrong, bind, Except.bind, pure, Except.pure]

end Scalar

end Yaml

end Conformance
