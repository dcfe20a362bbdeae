import Conformance.Proofs.Descriptor.Viability

/-!
# Where a text cannot be cut

A text is a row of tokens, or there is a first character in it that cannot be cut: it is no white
space and no token begins with it, and all of the text before it is a row of tokens with white
space. Cutting stops at the end of the last of these tokens. So the place that the error names is
the one of the offending character only if no white space stands before it; otherwise it is the
one of the first white space after the last token.

`Token.Strays` describes both places along the row, without a cursor, and every text that is not
cut is described by it. That the text up to a place is a row of tokens is then a question of the
second place alone.

## Main definitions

* `Token.IsStray` — a character that is no white space and begins no token.
* `Token.Strays` — where the last token before the first stray character ends, and where this
  character stands.

## Main results

* `Token.lexes_or_strays` — a text is a row of tokens, or has a first stray character.
* `Token.scan_eq_error_iff` — the position at which cutting stops.
* `Token.Strays.lexes_take_iff` — the prefixes that are rows of tokens.
* `Descriptor.ofValue_stray` — the position that an error names, and the character at fault.
-/

namespace Conformance

namespace Token

variable {cs : List Char} {p q n : Nat} {c : Char}

/-- The character is neither white space nor the first of a token. -/
structure IsStray (c : Char) : Prop where
  isBlank_eq_false : Text.isBlank c = false
  head?_ne : ∀ t : Token, t.IsWritten → t.text.toList.head? ≠ some c

/-- The character `c` at `q` is the first one in the text that cannot be cut, and the last token
before it ends at `p`. -/
inductive Strays : List Char → Nat → Nat → Char → Prop
  | here {blanks : List Char} {c : Char} (hb : ∀ b ∈ blanks, Text.isBlank b = true)
      (hc : IsStray c) (rest : List Char) : Strays (blanks ++ c :: rest) 0 blanks.length c
  | token {blanks rest : List Char} {t : Token} {p q : Nat} {c : Char}
      (hb : ∀ b ∈ blanks, Text.isBlank b = true) (ht : t.IsWritten) (he : t.EndsBefore rest)
      (h : Strays rest p q c) :
      Strays (blanks ++ (t.text.toList ++ rest)) (blanks.length + t.text.toList.length + p)
        (blanks.length + t.text.toList.length + q) c

/-- No token is at the beginning of a text exactly if the first character begins none. -/
theorem read?_cons_eq_none_iff :
    read? (c :: cs) = none ↔ ∀ t : Token, t.IsWritten → t.text.toList.head? ≠ some c := by
  constructor
  · intro hnone t ht hhead
    cases t with
    | name s =>
      change IsIdentifier s.toList at ht
      change s.toList.head? = some c at hhead
      cases hs : s.toList with
      | nil => rw [hs] at ht; exact ht
      | cons d ds =>
        rw [hs] at ht hhead
        cases hhead
        simp [read?, ofChar?_eq_none_of_isNameStart ht.1, ht.1] at hnone
    | openBracket => cases hhead; cases hnone
    | closeBracket => cases hhead; cases hnone
    | bar => cases hhead; cases hnone
    | star => cases hhead; cases hnone
  · intro hbegins
    by_contra hsome
    obtain ⟨⟨t, rest⟩, hread⟩ := Option.ne_none_iff_exists'.mp hsome
    obtain ⟨ht, -, htext⟩ := read?_eq_some_iff.mp hread
    obtain ⟨d, ds, -, -, hfirst, -⟩ := ht.exists_text_eq
    rw [hfirst] at htext
    cases htext
    exact hbegins t ht (by rw [hfirst]; rfl)

/-! ### Texts that are not cut -/

/-- A text is a row of tokens, or there is a first character in it that cannot be cut. -/
theorem lexes_or_strays (cs : List Char) :
    (∃ ts, Lexes cs ts) ∨ ∃ p q c, Strays cs p q c := by
  have hblanks : ∀ b ∈ cs.takeWhile Text.isBlank, Text.isBlank b = true :=
    fun b hb => List.mem_takeWhile_imp hb
  have hcs : cs.takeWhile Text.isBlank ++ cs.dropWhile Text.isBlank = cs :=
    List.takeWhile_append_dropWhile
  cases hbody : cs.dropWhile Text.isBlank with
  | nil =>
    rw [hbody, List.append_nil] at hcs
    exact .inl ⟨[], .nil (hcs ▸ hblanks)⟩
  | cons c body =>
    have hc : Text.isBlank c = false := by
      have hhead := List.head?_dropWhile_not Text.isBlank cs
      rw [hbody] at hhead
      simpa using hhead
    cases hread : read? (c :: body) with
    | none =>
      rw [← hcs, hbody]
      exact .inr ⟨_, _, _, .here hblanks ⟨hc, read?_cons_eq_none_iff.mp hread⟩ body⟩
    | some found =>
      obtain ⟨t, rest⟩ := found
      obtain ⟨ht, he, htext⟩ := read?_eq_some_iff.mp hread
      have hshorter : rest.length < cs.length := by
        have hlt := length_lt_of_read? hread
        have hle := length_dropWhile_le Text.isBlank cs
        rw [hbody] at hle
        omega
      rw [← hcs, hbody, htext]
      rcases lexes_or_strays rest with ⟨ts, h⟩ | ⟨p, q, d, h⟩
      · exact .inl ⟨t :: ts, .cons hblanks ht he h⟩
      · exact .inr ⟨_, _, _, .token hblanks ht he h⟩
termination_by cs.length

/-- Cutting stops after the last token before the first stray character. -/
theorem Strays.scanFrom_trimEnd (h : Strays cs p q c) :
    ∀ position, scanFrom position (Text.trimEnd cs) = .error (position + p) := by
  induction h with
  | @here blanks c hb hc rest =>
    intro position
    have hread : read? (c :: Text.trimEnd rest) = none :=
      read?_cons_eq_none_iff.mpr hc.head?_ne
    rw [Text.trimEnd_append_cons hc.isBlank_eq_false, scanFrom, if_neg (by simp)]
    dsimp only
    rw [List.dropWhile_append_of_pos hb,
      List.dropWhile_cons_of_neg (by simp [hc.isBlank_eq_false])]
    split
    · rfl
    · next hsome => rw [hread] at hsome; cases hsome
  | token hb ht he h ih =>
    intro position
    rw [scanFrom_trimEnd_token hb ht he, ih, Nat.add_assoc position]
    rfl

/-- A text with a stray character in it is no row of tokens. -/
theorem Strays.not_lexes (h : Strays cs p q c) {ts : List Token} : ¬ Lexes cs ts := by
  intro hts
  cases (hts.scanFrom_trimEnd 0).symm.trans (h.scanFrom_trimEnd 0)

/-- Cutting stops at a position exactly if the last token before the first stray character ends
there. -/
theorem scan_eq_error_iff {s : String} : scan s = .error p ↔ ∃ q c, Strays s.toList p q c := by
  constructor
  · intro h
    rcases lexes_or_strays s.toList with ⟨ts, hts⟩ | ⟨p', q, c, hstrays⟩
    · cases h.symm.trans (scan_eq_ok_iff.mpr hts)
    · have hp := hstrays.scanFrom_trimEnd 0
      rw [Nat.zero_add] at hp
      cases h.symm.trans hp
      exact ⟨q, c, hstrays⟩
  · rintro ⟨q, c, h⟩
    rw [scan, h.scanFrom_trimEnd 0, Nat.zero_add]

/-! ### The text around the stray character -/

/-- The text is cut at the end of the last token and at the stray character, with white space
between them. -/
theorem Strays.exists_eq_append (h : Strays cs p q c) :
    ∃ before blanks rest ts, cs = before ++ (blanks ++ c :: rest) ∧ before.length = p ∧
      p + blanks.length = q ∧ IsStray c ∧ (∀ b ∈ blanks, Text.isBlank b = true) ∧
      (∀ b ∈ before.getLast?, Text.isBlank b = false) ∧ Lexes (before ++ blanks) ts := by
  induction h with
  | @here blanks c hb hc rest =>
    exact ⟨[], blanks, rest, [], rfl, rfl, by simp, hc, hb, nofun, .nil hb⟩
  | @token blanks rest t p q c hb ht he h ih =>
    obtain ⟨before, between, after, ts, rfl, rfl, rfl, hc, hbetween, hlast, hts⟩ := ih
    have hends : t.EndsBefore (before ++ between) := by
      cases t with
      | name s =>
        intro d hd
        refine he d ?_
        rw [← List.append_assoc, List.head?_append, Option.mem_def.mp hd]
        rfl
      | _ => trivial
    refine ⟨blanks ++ (t.text.toList ++ before), between, after, t :: ts, by simp, ?_, by omega,
      hc, hbetween, fun b hb' => ?_, ?_⟩
    · simp only [List.length_append]
      omega
    · obtain ⟨-, -, ys, d, -, htext, -, hd⟩ := ht.exists_text_eq
      rw [htext, List.getLast?_append, List.getLast?_append] at hb'
      cases hbefore : before.getLast? with
      | none =>
        rw [hbefore] at hb'
        simp only [List.getLast?_append, List.getLast?_singleton, Option.some_or, Option.none_or,
          Option.mem_def, Option.some.injEq] at hb'
        exact hb' ▸ hd
      | some e =>
        rw [hbefore] at hb'
        cases hb'
        exact hlast b hbefore
    · have hall := Lexes.cons hb ht hends hts
      simpa using hall

/-- The front of a token that can stand in a text is a row of tokens. -/
theorem IsWritten.exists_lexes_take {t : Token} (ht : t.IsWritten) (n : Nat) :
    ∃ us, Lexes (t.text.toList.take n) us := by
  cases n with
  | zero => exact ⟨[], .empty⟩
  | succ n =>
    cases t with
    | name s =>
      change ∃ us, Lexes (s.toList.take (n + 1)) us
      change IsIdentifier s.toList at ht
      cases hs : s.toList with
      | nil => rw [hs] at ht; exact ht.elim
      | cons d ds =>
        rw [hs] at ht
        have hword : (name (String.ofList (d :: ds.take n))).IsWritten := by
          rw [IsWritten, String.toList_ofList]
          exact ⟨ht.1, fun e he => ht.2 e (List.mem_of_mem_take he)⟩
        have hlexes := Lexes.empty.token_append hword fun e he => by cases he
        rw [text, String.toList_ofList, List.append_nil] at hlexes
        exact ⟨_, hlexes⟩
    | _ =>
      rw [List.take_of_length_le (Nat.succ_le_succ n.zero_le), ← List.append_nil (text _).toList]
      exact ⟨_, Lexes.empty.token_append ht trivial⟩

theorem EndsBefore.take {t : Token} {rest : List Char} (he : t.EndsBefore rest) (n : Nat) :
    t.EndsBefore (rest.take n) := by
  cases t with
  | name s =>
    intro d hd
    refine he d ?_
    rw [List.head?_take] at hd
    split_ifs at hd
    · cases hd
    · exact hd
  | _ => trivial

/-- A row of tokens, cut short at any place, is a row of tokens. -/
theorem Lexes.exists_take {ts : List Token} (h : Lexes cs ts) :
    ∀ n, ∃ us, Lexes (cs.take n) us := by
  induction h with
  | nil hb => exact fun n => ⟨[], .nil fun b hb' => hb b (List.mem_of_mem_take hb')⟩
  | @cons blanks rest t ts hb ht he h ih =>
    intro n
    rw [List.take_append, List.take_append]
    have hfront : ∀ b ∈ blanks.take n, Text.isBlank b = true :=
      fun b hb' => hb b (List.mem_of_mem_take hb')
    by_cases hn : n - blanks.length ≤ t.text.toList.length
    · obtain ⟨us, hus⟩ := ht.exists_lexes_take (n - blanks.length)
      rw [Nat.sub_eq_zero_of_le hn, List.take_zero, List.append_nil]
      exact ⟨us, hus.blanks_append hfront⟩
    · obtain ⟨us, hus⟩ := ih (n - blanks.length - t.text.toList.length)
      rw [List.take_of_length_le (l := t.text.toList) (by omega)]
      exact ⟨t :: us, .cons hfront ht (he.take _) hus⟩

/-- A stray character stays the first one as long as the text is not cut before it. -/
theorem Strays.take (h : Strays cs p q c) : ∀ {n}, q < n → Strays (cs.take n) p q c := by
  induction h with
  | @here blanks c hb hc rest =>
    intro n hn
    have hc' : (c :: rest).take (n - blanks.length) = c :: rest.take (n - blanks.length - 1) :=
      List.take_cons (by omega)
    rw [List.take_append, List.take_of_length_le (by omega), hc']
    exact .here hb hc _
  | @token blanks rest t p q c hb ht he h ih =>
    intro n hn
    rw [List.take_append, List.take_append, List.take_of_length_le (l := blanks) (by omega),
      List.take_of_length_le (l := t.text.toList) (by omega)]
    exact .token hb ht (he.take _) (ih (by omega))

/-- The prefixes that are rows of tokens are those that end before the stray character. -/
theorem Strays.lexes_take_iff (h : Strays cs p q c) : (∃ ts, Lexes (cs.take n) ts) ↔ n ≤ q := by
  constructor
  · rintro ⟨ts, hts⟩
    by_contra hn
    exact (h.take (Nat.lt_of_not_le hn)).not_lexes hts
  · intro hn
    obtain ⟨before, blanks, rest, ts, rfl, rfl, rfl, -, -, -, hts⟩ := h.exists_eq_append
    rw [← List.append_assoc, List.take_append_of_le_length (by simpa using hn)]
    exact hts.exists_take n

end Token

namespace Descriptor

/-- Only a stray character has a reason that names a position, and it names the one at which
cutting stopped. -/
theorem reason_eq_unexpectedCharacter_iff {fault : SyntaxFault} {p : Nat} :
    fault.reason = s!"unexpected character at position {p}" ↔
      fault = .unexpectedCharacter p := by
  constructor
  · intro h
    have hother {u : String}
        (hu : "unexpected character at position ".toList.take 12 ≠ u.toList.take 12) :
        s!"unexpected character at position {p}" ≠ u :=
      append_ne_of_take_ne hu (by decide)
    cases fault with
    | notText => exact absurd h.symm (hother (by decide))
    | empty => exact absurd h.symm (hother (by decide))
    | unexpectedEnd => exact absurd h.symm (hother (by decide))
    | expectedClose => exact absurd h.symm (hother (by decide))
    | unexpectedCharacter q =>
      have hdigits : toString q = toString p := (String.append_right_inj _).mp h
      rw [Nat.repr_injective hdigits]
    | unexpectedToken t =>
      rw [reason_unexpectedToken] at h
      have htake : "unexpected character at position ".toList.take 12 ≠
          ("unexpected token '" ++ (t.text ++ "'")).toList.take 12 := by
        rw [String.toList_append, List.take_append_of_le_length (by decide)]
        decide
      exact absurd h.symm (hother htake)
  · rintro rfl
    rfl

/-- Tokens are never refused for a character. -/
theorem ofTokens_ne_unexpectedCharacter (ts : List Token) (p : Nat) :
    ofTokens ts ≠ .error (.unexpectedCharacter p) := by
  intro h
  by_cases hts : ts = []
  · rw [ofTokens, if_pos hts] at h
    cases h
  · have hverdict := Pending.verdict_eq_ofTokens hts
    rw [h, Pending.verdict] at hverdict
    cases hrun : (Pending.due 0).run ts with
    | ok q =>
      rw [hrun] at hverdict
      cases Pending.finish_eq_error hverdict
    | error fault =>
      rw [hrun] at hverdict
      cases hverdict
      obtain ⟨_, _, _, -, -, hstep⟩ := Pending.exists_of_run_eq_error hrun
      rcases Pending.step_eq_error hstep with ⟨hfault, -⟩ | ⟨hfault, -⟩ <;> cases hfault

/-- Reading a text finds an unexpected character where cutting it into tokens stops. -/
theorem read_eq_unexpectedCharacter_iff {s : String} {p : Nat} :
    read s = .error (.unexpectedCharacter p) ↔ Token.scan s = .error p := by
  rw [read]
  cases Token.scan s with
  | error position => simp
  | ok ts => simpa using ofTokens_ne_unexpectedCharacter ts p

variable {v : Value} {s : String} {e : SyntaxError} {p : Nat}

/-- **A character that cannot be cut is reported where the last token before it ends.** If reading
a text as a descriptor fails with an unexpected character at a position, there is a first character
in the text that is neither white space nor the beginning of a token: the text before it is cut
into tokens, and no longer part of the text is. The position is the one just after the last of
these tokens, so that only white space stands from there to the character; it is the one of the
character itself exactly if no white space stands right before it. -/
theorem ofValue_stray (g : Store) (hv : v.str? = some s)
    (h : ofValue g v = .error (.schema (.descriptor v e)))
    (hp : e.fault.reason = s!"unexpected character at position {p}") :
    ∃ q c, s.toList[q]? = some c ∧ Token.IsStray c ∧
      (∀ n, (∃ ts, Token.Lexes (s.toList.take n) ts) ↔ n ≤ q) ∧
      p ≤ q ∧ (∀ b ∈ (s.toList.take q).drop p, Text.isBlank b = true) ∧
      (∀ b ∈ (s.toList.take p).getLast?, Text.isBlank b = false) ∧
      (p = q ↔ ∀ b ∈ (s.toList.take q).getLast?, Text.isBlank b = false) := by
  rw [reason_eq_unexpectedCharacter_iff] at hp
  have hscan : Token.scan s = .error p := by
    rw [← read_eq_unexpectedCharacter_iff, ← hp]
    rw [ofValue_of_str? g hv, parse] at h
    cases hread : read s with
    | ok d => rw [hread] at h; cases h
    | error fault => rw [hread] at h; cases h; rfl
  obtain ⟨q, c, hstrays⟩ := Token.scan_eq_error_iff.mp hscan
  obtain ⟨before, blanks, rest, ts, htext, rfl, rfl, hc, hblanks, hlast, -⟩ :=
    hstrays.exists_eq_append
  have htake : s.toList.take (before.length + blanks.length) = before ++ blanks := by
    rw [htext, ← List.append_assoc, List.take_left' (by simp)]
  have htake' : s.toList.take before.length = before := by
    rw [htext, List.take_left' rfl]
  refine ⟨_, c, ?_, hc, fun n => hstrays.lexes_take_iff, Nat.le_add_right _ _, ?_, ?_, ?_⟩
  · rw [htext, ← List.append_assoc, List.getElem?_append_right (by simp)]
    simp
  · rw [htake, List.drop_left' rfl]
    exact hblanks
  · rw [htake']
    exact hlast
  · rw [htake]
    cases hend : blanks.getLast? with
    | none =>
      rw [List.getLast?_eq_none_iff] at hend
      subst hend
      simpa using hlast
    | some b =>
      have hb := hblanks b (List.mem_of_getLast? hend)
      have hlength : 0 < blanks.length := List.length_pos_of_mem (List.mem_of_getLast? hend)
      rw [List.getLast?_append, hend, Option.some_or]
      refine iff_of_false (by omega) fun hnot => ?_
      rw [hnot b rfl] at hb
      cases hb

/-- The dollar sign stands at position eight, and the position that is reported is six, where the
white space after the name begins. -/
theorem ofValue_stray_spaces :
    (Value.str "Number  $").str? = some "Number  $" ∧
      ofValue {} (.str "Number  $") =
        .error (.schema (.descriptor (.str "Number  $") ⟨"Number  $", .unexpectedCharacter 6⟩)) ∧
      (SyntaxFault.unexpectedCharacter 6).reason = s!"unexpected character at position {6}" ∧
      "Number  $".toList[8]? = some '$' ∧ Token.IsStray '$' ∧
      ∀ n, (∃ ts, Token.Lexes ("Number  $".toList.take n) ts) ↔ n ≤ 8 := by
  have hread : ofValue {} (.str "Number  $") =
      .error (.schema (.descriptor (.str "Number  $") ⟨"Number  $", .unexpectedCharacter 6⟩)) := by
    cbv
  obtain ⟨q, c, hq, hc, hlexes, -⟩ := ofValue_stray {} rfl hread rfl
  have hfront : Token.Lexes ("Number  $".toList.take 8) [.name "Number"] :=
    Token.scan_eq_ok_iff (s := "Number  ").mp (by cbv)
  have hle : 8 ≤ q := (hlexes 8).mp ⟨_, hfront⟩
  have hlt : q < "Number  $".toList.length := (List.getElem?_eq_some_iff.mp hq).1
  obtain rfl : q = 8 := Nat.le_antisymm (Nat.le_of_lt_succ hlt) hle
  obtain rfl : '$' = c := Option.some.inj hq
  exact ⟨rfl, hread, rfl, hq, hc, hlexes⟩

end Descriptor

end Conformance
