import Conformance.Descriptor.Token
import Mathlib

/-!
# Which texts are cut into which tokens

A text lexes into tokens if it is a row of them with white space before, between and after
them, where a name is an ASCII identifier and is never cut short: the character after it could
not continue it. `Token.Lexes` states this without a cursor, and cutting a text into tokens
finds exactly the rows that there are. White space at the end of a text is dropped before the
cutting begins; the characters dropped are those that the row allows at its end.

## Main definitions

* `Token.IsWritten` — a token that can stand in a text: its name, if it is one, is an identifier.
* `Token.EndsBefore` — a token that ends where the given text begins.
* `Token.Lexes` — a text that is a row of the given tokens.

## Main results

* `Token.read?_eq_some_iff` — the token at the beginning of a text.
* `Token.Lexes.append` — two rows of tokens are one.
* `Token.scan_eq_ok_iff` — the tokens of a text.
-/

namespace Conformance

namespace Text

theorem toNat_of_isBlank {c : Char} (h : isBlank c = true) :
    (0 < c.toNat ∧ c.toNat ≤ 32) ∨ (133 ≤ c.toNat ∧ c.toNat ≤ 0x3000) := by
  simp only [isBlank, blankRanges, List.any_cons, List.any_nil, Bool.or_eq_true,
    Bool.and_eq_true, decide_eq_true_eq, Bool.or_false] at h
  omega

/-- White space is dropped at the end of a text only. -/
theorem trimEnd_append_cons {c : Char} (hc : isBlank c = false) (xs ys : List Char) :
    trimEnd (xs ++ c :: ys) = xs ++ c :: trimEnd ys := by
  have hrev : (xs ++ c :: ys).reverse = ys.reverse ++ c :: xs.reverse := by simp
  rw [trimEnd, trimEnd, hrev, List.dropWhile_append]
  split_ifs with h
  · rw [List.isEmpty_iff] at h
    rw [h, List.dropWhile_cons_of_neg (by simp [hc])]
    simp
  · simp

theorem trimEnd_of_forall_isBlank {cs : List Char} (h : ∀ c ∈ cs, isBlank c = true) :
    trimEnd cs = [] := by
  rw [trimEnd, List.reverse_eq_nil_iff, List.dropWhile_eq_nil_iff]
  intro c hc
  exact h c (List.mem_reverse.mp hc)

/-- What is dropped at the end of a text is white space. -/
theorem exists_trimEnd_append_eq (cs : List Char) :
    ∃ blanks, (∀ c ∈ blanks, isBlank c = true) ∧ trimEnd cs ++ blanks = cs := by
  refine ⟨(cs.reverse.takeWhile isBlank).reverse, fun c hc => ?_, ?_⟩
  · exact List.mem_takeWhile_imp (List.mem_reverse.mp hc)
  · rw [trimEnd, ← List.reverse_append, List.takeWhile_append_dropWhile, List.reverse_reverse]

theorem mem_head?_of_mem_head?_trimEnd {cs : List Char} {c : Char}
    (h : c ∈ (trimEnd cs).head?) : c ∈ cs.head? := by
  obtain ⟨blanks, -, hcs⟩ := exists_trimEnd_append_eq cs
  rw [← hcs, List.head?_append]
  rw [Option.mem_def.mp h]
  rfl

end Text

namespace Token

/-! ### Characters of names -/

theorem isNameChar_of_isNameStart {c : Char} (h : isNameStart c = true) :
    isNameChar c = true := by
  simp only [isNameStart, isNameChar, Char.isAlphanum, Bool.or_eq_true] at h ⊢
  exact h.imp_left Or.inl

theorem toNat_of_isNameChar {c : Char} (h : isNameChar c = true) :
    48 ≤ c.toNat ∧ c.toNat ≤ 122 := by
  simp only [isNameChar, Char.isAlphanum, Char.isAlpha, Char.isUpper, Char.isLower, Char.isDigit,
    Bool.or_eq_true, Bool.and_eq_true, decide_eq_true_eq, ge_iff_le,
    UInt32.le_iff_toNat_le, Char.reduceVal, UInt32.reduceToNat] at h
  rcases h with h | rfl
  · simp only [Char.toNat]
    omega
  · decide

/-- White space does not continue a name. -/
theorem isNameChar_eq_false_of_isBlank {c : Char} (h : Text.isBlank c = true) :
    isNameChar c = false := by
  have hblank := Text.toNat_of_isBlank h
  by_contra hname
  rw [Bool.not_eq_false] at hname
  have hbounds := toNat_of_isNameChar hname
  omega

theorem isBlank_eq_false_of_isNameChar {c : Char} (h : isNameChar c = true) :
    Text.isBlank c = false := by
  by_contra hblank
  rw [Bool.not_eq_false] at hblank
  rw [isNameChar_eq_false_of_isBlank hblank] at h
  exact Bool.false_ne_true h

/-- The characters that are tokens of their own begin no name. -/
theorem ofChar?_eq_none_of_isNameStart {c : Char} (h : isNameStart c = true) :
    ofChar? c = none := by
  unfold ofChar?
  split <;> first | rfl | exact absurd h (by decide)

/-! ### Tokens in a text -/

/-- A text is an identifier: an ASCII letter or an underscore, and then letters, digits and
underscores. -/
def IsIdentifier : List Char → Prop
  | [] => False
  | c :: cs => isNameStart c = true ∧ ∀ d ∈ cs, isNameChar d = true

theorem IsIdentifier.forall_isNameChar {cs : List Char} (h : IsIdentifier cs) :
    ∀ c ∈ cs, isNameChar c = true := by
  cases cs with
  | nil => exact h.elim
  | cons c cs => exact List.forall_mem_cons.mpr ⟨isNameChar_of_isNameStart h.1, h.2⟩

/-- The token can stand in a text: a name has to be an identifier. -/
def IsWritten : Token → Prop
  | name s => IsIdentifier s.toList
  | _ => True

/-- The token ends where the given text begins: the text does not continue a name. -/
def EndsBefore (rest : List Char) : Token → Prop
  | name _ => ∀ c ∈ rest.head?, isNameChar c = false
  | _ => True

/-- The text is a row of the given tokens, with white space allowed around each of them. -/
inductive Lexes : List Char → List Token → Prop
  | nil {blanks : List Char} (hb : ∀ c ∈ blanks, Text.isBlank c = true) : Lexes blanks []
  | cons {blanks rest : List Char} {t : Token} {ts : List Token}
      (hb : ∀ c ∈ blanks, Text.isBlank c = true) (ht : t.IsWritten) (he : t.EndsBefore rest)
      (h : Lexes rest ts) : Lexes (blanks ++ (t.text.toList ++ rest)) (t :: ts)

/-- A token that is written begins and ends with characters that are not white space. -/
theorem IsWritten.exists_text_eq {t : Token} (ht : t.IsWritten) :
    ∃ c xs ys d, t.text.toList = c :: xs ∧ t.text.toList = ys ++ [d] ∧
      Text.isBlank c = false ∧ Text.isBlank d = false := by
  cases t with
  | name s =>
    change ∃ c xs ys d, s.toList = c :: xs ∧ s.toList = ys ++ [d] ∧ _
    change IsIdentifier s.toList at ht
    cases hs : s.toList with
    | nil => rw [hs] at ht; exact ht.elim
    | cons c xs =>
      rw [hs] at ht
      have hall := ht.forall_isNameChar
      have hlast := List.dropLast_concat_getLast (List.cons_ne_nil c xs)
      exact ⟨c, xs, _, _, rfl, hlast.symm,
        isBlank_eq_false_of_isNameChar (hall c List.mem_cons_self),
        isBlank_eq_false_of_isNameChar (hall _ (List.getLast_mem _))⟩
  | openBracket => exact ⟨'[', [], [], '[', rfl, rfl, by decide, by decide⟩
  | closeBracket => exact ⟨']', [], [], ']', rfl, rfl, by decide, by decide⟩
  | bar => exact ⟨'|', [], [], '|', rfl, rfl, by decide, by decide⟩
  | star => exact ⟨'*', [], [], '*', rfl, rfl, by decide, by decide⟩

/-- A run of characters of names that the rest does not continue is taken as a whole. -/
theorem span_name_append {xs rest : List Char} (hxs : ∀ d ∈ xs, isNameChar d = true)
    (hrest : ∀ c ∈ rest.head?, isNameChar c = false) :
    (xs ++ rest).takeWhile isNameChar = xs ∧ (xs ++ rest).dropWhile isNameChar = rest := by
  rw [List.takeWhile_append_of_pos hxs, List.dropWhile_append_of_pos hxs]
  cases rest with
  | nil => simp
  | cons c rest =>
    have hc : ¬ isNameChar c = true := by simp [hrest c rfl]
    rw [List.takeWhile_cons_of_neg hc, List.dropWhile_cons_of_neg hc, List.append_nil]
    exact ⟨rfl, rfl⟩

/-- The token at the beginning of a text is the one that is written there and ends before the
rest. -/
theorem read?_eq_some_iff {cs rest : List Char} {t : Token} :
    read? cs = some (t, rest) ↔
      t.IsWritten ∧ t.EndsBefore rest ∧ cs = t.text.toList ++ rest := by
  constructor
  · intro h
    cases cs with
    | nil => simp [read?] at h
    | cons c cs =>
      simp only [read?] at h
      split at h
      · next t' ht' =>
        obtain ⟨rfl, rfl⟩ := Prod.mk.inj (Option.some.inj h)
        unfold ofChar? at ht'
        split at ht' <;> first
          | (cases ht'; exact ⟨trivial, trivial, rfl⟩)
          | cases ht'
      · next hc =>
        split_ifs at h with hstart
        obtain ⟨rfl, rfl⟩ := Prod.mk.inj (Option.some.inj h)
        refine ⟨?_, fun d hd => ?_, ?_⟩
        · rw [IsWritten, String.toList_ofList]
          exact ⟨hstart, fun d hd => List.mem_takeWhile_imp hd⟩
        · have hnot := List.head?_dropWhile_not isNameChar cs
          rw [Option.mem_def.mp hd] at hnot
          simpa using hnot
        · rw [text, String.toList_ofList, List.cons_append, List.takeWhile_append_dropWhile]
  · rintro ⟨ht, he, rfl⟩
    cases t with
    | name s =>
      rw [text]
      rw [IsWritten] at ht
      rw [← s.ofList_toList]
      generalize s.toList = w at ht
      cases w with
      | nil => exact ht.elim
      | cons c xs =>
        obtain ⟨htake, hdrop⟩ := span_name_append ht.2 he
        rw [String.toList_ofList, List.cons_append, read?, ofChar?_eq_none_of_isNameStart ht.1]
        simp only [ht.1, if_true, htake, hdrop]
    | openBracket => rfl
    | closeBracket => rfl
    | bar => rfl
    | star => rfl

/-! ### Rows of tokens -/

/-- White space may stand before a row of tokens. -/
theorem Lexes.blanks_append {blanks cs : List Char} {ts : List Token} (h : Lexes cs ts)
    (hb : ∀ c ∈ blanks, Text.isBlank c = true) : Lexes (blanks ++ cs) ts := by
  cases h with
  | nil hb' =>
    refine .nil fun c hc => ?_
    exact (List.mem_append.mp hc).elim (hb c) (hb' c)
  | cons hb' ht he h =>
    rw [← List.append_assoc]
    refine .cons (fun c hc => ?_) ht he h
    exact (List.mem_append.mp hc).elim (hb c) (hb' c)

/-- A token that is written stands before a row of tokens that does not continue it. -/
theorem Lexes.token_append {t : Token} {cs : List Char} {ts : List Token} (ht : t.IsWritten)
    (he : t.EndsBefore cs) (h : Lexes cs ts) : Lexes (t.text.toList ++ cs) (t :: ts) := by
  have hnone : ∀ c ∈ ([] : List Char), Text.isBlank c = true := List.forall_mem_nil _
  exact .cons hnone ht he h

theorem Lexes.empty : Lexes [] [] := .nil (List.forall_mem_nil _)

theorem not_isNameChar_head?_cons {c : Char} {cs : List Char} (hc : isNameChar c = false) :
    ∀ d ∈ (c :: cs).head?, isNameChar d = false := by
  intro d hd
  rwa [← Option.some.inj hd]

theorem endsBefore_nil (t : Token) : t.EndsBefore [] := by
  cases t with
  | name s => exact fun c hc => nomatch hc
  | _ => trivial

/-- Every token ends before white space. -/
theorem endsBefore_blank_cons (t : Token) {c : Char} (hc : Text.isBlank c = true)
    (cs : List Char) : t.EndsBefore (c :: cs) := by
  cases t with
  | name s => exact not_isNameChar_head?_cons (isNameChar_eq_false_of_isBlank hc)
  | _ => trivial

/-- Two rows of tokens are one row if the second does not continue a name. -/
theorem Lexes.append {cs ds : List Char} {ts us : List Token} (h : Lexes cs ts)
    (h' : Lexes ds us) (hd : ∀ c ∈ ds.head?, isNameChar c = false) :
    Lexes (cs ++ ds) (ts ++ us) := by
  induction h with
  | nil hb => exact h'.blanks_append hb
  | @cons blanks rest t ts hb ht he h ih =>
    rw [List.append_assoc, List.append_assoc, List.cons_append]
    refine .cons hb ht ?_ ih
    cases t with
    | name s =>
      cases rest with
      | nil => exact hd
      | cons c rest => exact he
    | _ => trivial

/-- All tokens of a row can stand in a text. -/
theorem Lexes.isWritten {cs : List Char} {ts : List Token} (h : Lexes cs ts) :
    ∀ t ∈ ts, t.IsWritten := by
  induction h with
  | nil hb => exact fun t ht => nomatch ht
  | cons hb ht he h ih => exact List.forall_mem_cons.mpr ⟨ht, ih⟩

/-- White space may follow a row of tokens. -/
theorem Lexes.append_blanks {cs blanks : List Char} {ts : List Token} (h : Lexes cs ts)
    (hb : ∀ c ∈ blanks, Text.isBlank c = true) : Lexes (cs ++ blanks) ts := by
  have hhead : ∀ c ∈ blanks.head?, isNameChar c = false := fun c hc =>
    isNameChar_eq_false_of_isBlank (hb c (List.mem_of_mem_head? hc))
  have hall := h.append (.nil hb) hhead
  rwa [List.append_nil] at hall

/-- Cutting goes on after the token that a text begins with. -/
theorem scanFrom_of_read? {cs rest : List Char} {t : Token}
    (h : read? (cs.dropWhile Text.isBlank) = some (t, rest)) (position : Nat) :
    scanFrom position cs =
      (scanFrom (position + (cs.length - rest.length)) rest).map (t :: ·) := by
  rw [scanFrom, if_neg (by rintro rfl; simp [read?] at h)]
  dsimp only
  split
  · next hnone => rw [h] at hnone; cases hnone
  · next hsome => rw [h] at hsome; cases hsome; rfl

/-- What is cut from a text is a row of tokens that the text is. -/
theorem lexes_of_scanFrom {position : Nat} {cs : List Char} {ts : List Token}
    (h : scanFrom position cs = .ok ts) : Lexes cs ts := by
  fun_induction scanFrom position cs generalizing ts with
  | case1 =>
    cases h
    exact .nil (by simp)
  | case2 => cases h
  | case3 position cs _ _ t rest hread =>
    rename_i ih
    cases hrest : scanFrom (position + (cs.length - rest.length)) rest with
    | error e => rw [hrest] at h; cases h
    | ok us =>
      rw [hrest] at h
      cases h
      obtain ⟨ht, he, hbody⟩ := read?_eq_some_iff.mp hread
      have hcs' : cs = cs.takeWhile Text.isBlank ++ (t.text.toList ++ rest) := by
        rw [← hbody, List.takeWhile_append_dropWhile]
      rw [hcs']
      exact .cons (fun c hc => List.mem_takeWhile_imp hc) ht he (ih hrest)

/-- Once the white space at the end of a text is dropped, cutting it begins with the token that it
begins with, and goes on after this token with the rest, the end of which is dropped too. -/
theorem scanFrom_trimEnd_token {blanks rest : List Char} {t : Token}
    (hb : ∀ c ∈ blanks, Text.isBlank c = true) (ht : t.IsWritten) (he : t.EndsBefore rest)
    (position : Nat) :
    scanFrom position (Text.trimEnd (blanks ++ (t.text.toList ++ rest))) =
      (scanFrom (position + (blanks.length + t.text.toList.length)) (Text.trimEnd rest)).map
        (t :: ·) := by
  obtain ⟨c, xs, ys, d, hfirst, hlast, hc, hd⟩ := ht.exists_text_eq
  have htrim : Text.trimEnd (blanks ++ (t.text.toList ++ rest)) =
      blanks ++ (t.text.toList ++ Text.trimEnd rest) := by
    rw [hlast, List.append_assoc, ← List.append_assoc, List.singleton_append,
      Text.trimEnd_append_cons hd]
    simp
  have hbody : (blanks ++ (t.text.toList ++ Text.trimEnd rest)).dropWhile Text.isBlank =
      t.text.toList ++ Text.trimEnd rest := by
    rw [List.dropWhile_append_of_pos hb, hfirst, List.cons_append,
      List.dropWhile_cons_of_neg (by simp [hc])]
  have he' : t.EndsBefore (Text.trimEnd rest) := by
    cases t with
    | name s => exact fun c hc => he c (Text.mem_head?_of_mem_head?_trimEnd hc)
    | _ => trivial
  have hlength : (blanks ++ (t.text.toList ++ Text.trimEnd rest)).length -
      (Text.trimEnd rest).length = blanks.length + t.text.toList.length := by
    simp only [List.length_append]
    omega
  rw [htrim, scanFrom_of_read? (read?_eq_some_iff.mpr ⟨ht, he', hbody⟩), hlength]

/-- A row of tokens is cut as it stands once the white space at its end is dropped. -/
theorem Lexes.scanFrom_trimEnd {cs : List Char} {ts : List Token} (h : Lexes cs ts) :
    ∀ position, scanFrom position (Text.trimEnd cs) = .ok ts := by
  induction h with
  | nil hb =>
    intro position
    rw [Text.trimEnd_of_forall_isBlank hb, scanFrom, if_pos rfl]
  | cons hb ht he h ih =>
    intro position
    rw [scanFrom_trimEnd_token hb ht he, ih]
    rfl

/-- A text is cut into tokens exactly if it is a row of them. -/
theorem scan_eq_ok_iff {s : String} {ts : List Token} :
    scan s = .ok ts ↔ Lexes s.toList ts := by
  constructor
  · intro h
    obtain ⟨blanks, hb, hs⟩ := Text.exists_trimEnd_append_eq s.toList
    rw [← hs]
    exact (lexes_of_scanFrom h).append_blanks hb
  · intro h
    exact h.scanFrom_trimEnd 0

/-- A text is a row of one list of tokens at most. -/
theorem Lexes.unique {cs : List Char} {ts us : List Token} (h : Lexes cs ts) (h' : Lexes cs us) :
    ts = us :=
  Except.ok.inj ((h.scanFrom_trimEnd 0).symm.trans (h'.scanFrom_trimEnd 0))

end Token

end Conformance
