import Conformance.Proofs.Json.Basic
import Conformance.Proofs.Yaml.Lines

/-!
# Texts between quotation marks

A text is written unit by unit, and each unit is read back as a code point of its own, whether it
stands for itself or is escaped. Spaces are kept, since no end of a line comes after them.

## Main definitions

* `CodePoint.IsEscapeOf` — an escape that is read as a code point.

## Main results

* `CodePoint.written_cases` — a unit is written as itself or as an escape of it.
* `Json.scan_quoted` — a quoted text is read as its units.
-/

namespace Conformance

namespace CodePoint

variable {u : CodePoint}

/-! ### Escapes -/

theorem isPrintable_digitChar {d : Nat} (h : d < 16) : IsPrintable (Nat.digitChar d) := by
  interval_cases d <;> decide

theorem isPrintable_hexDigits (n : Nat) : ∀ c ∈ hexDigits n, IsPrintable c := by
  intro c hc
  obtain ⟨d, hd, rfl⟩ := List.mem_map.mp hc
  refine isPrintable_digitChar ?_
  simp only [List.mem_cons, List.not_mem_nil, or_false] at hd
  omega

theorem hexValue?_digitChar {d : Nat} (h : d < 16) :
    Number.hexValue? (Nat.digitChar d) = some d := by
  interval_cases d <;> rfl

/-- Four hexadecimal digits are read as the number that they were written for. -/
theorem hexNumber_hexDigits {n : Nat} (h : n < 0x10000) :
    Yaml.Flow.hexNumber (hexDigits n) = n := by
  have hmod (k : Nat) : k % 16 < 16 := Nat.mod_lt _ (by norm_num)
  simp only [Yaml.Flow.hexNumber, hexDigits, List.map_cons, List.map_nil, List.foldl_cons,
    List.foldl_nil, hexValue?_digitChar (hmod _), Option.getD_some]
  omega

/-- An escape that is read as a code point. -/
def IsEscapeOf (u : CodePoint) (e : List Char) : Prop :=
  (∀ c ∈ e, IsPrintable c) ∧ ∀ (c : Yaml.Cursor) (rest : List Char), c.rest = e ++ rest →
    Yaml.Flow.escape c = .ok ([u.val], c.moved e.length rest)

/-- The short escapes are those of the letters that are read. -/
theorem lookup_letterEscapes {p : Nat × Char} (h : p ∈ shortEscapes) :
    ∃ r, Yaml.Flow.letterEscapes.lookup p.2 = some r ∧ r.toNat = p.1 ∧ IsPrintable p.2 := by
  have hall : ∀ p ∈ shortEscapes, ∃ r, Yaml.Flow.letterEscapes.lookup p.2 = some r ∧
      r.toNat = p.1 ∧ IsPrintable p.2 := by
    simp [shortEscapes, Yaml.Flow.letterEscapes, List.lookup_cons, IsPrintable]
  exact hall p h

/-- A letter after a backslash stands for a character. -/
theorem isEscapeOf_letter {ch : Char} (h : shortEscapes.lookup u.val = some ch) :
    IsEscapeOf u [ch] := by
  obtain ⟨front, rest, hsplit, -⟩ := List.lookup_eq_some_iff.mp h
  have hmem : (u.val, ch) ∈ shortEscapes := hsplit ▸ List.mem_append_right _ List.mem_cons_self
  obtain ⟨r, hlookup, hr, hprintable⟩ := lookup_letterEscapes hmem
  refine ⟨List.forall_mem_singleton.mpr hprintable, fun c rest hrest => ?_⟩
  simp only [Yaml.Flow.escape, Yaml.Cursor.peek_eq hrest, hlookup, hr,
    Yaml.Cursor.step_eq_moved hrest hprintable, List.length_singleton]
  rfl

/-- Four hexadecimal digits stand for the unit of this number. -/
theorem isEscapeOf_hexDigits (h : u.val < 0x10000) : IsEscapeOf u ('u' :: hexDigits u.val) := by
  have hletter : IsPrintable 'u' := by decide
  have hdigits := isPrintable_hexDigits u.val
  have hhex : ∀ c ∈ hexDigits u.val, (Number.hexValue? c).isSome = true := by
    intro c hc
    obtain ⟨d, hd, rfl⟩ := List.mem_map.mp hc
    rw [hexValue?_digitChar (by simp at hd; omega)]
    rfl
  refine ⟨List.forall_mem_cons.mpr ⟨hletter, hdigits⟩, fun c rest hrest => ?_⟩
  have hnone : Yaml.Flow.letterEscapes.lookup 'u' = none := by decide
  have hsome : Yaml.Flow.numberEscapes.lookup 'u' = some 4 := by decide
  have htake : ((hexDigits u.val ++ rest).take 4).takeWhile
      (fun ch => (Number.hexValue? ch).isSome) = hexDigits u.val := by
    rw [List.take_left' (by rfl), List.takeWhile_eq_self_iff.mpr hhex]
  have hadvance : (c.moved 1 (hexDigits u.val ++ rest)).advance (hexDigits u.val).length =
      c.moved 5 rest := by
    rw [Yaml.Cursor.advance_eq_moved rfl hdigits, Yaml.Cursor.moved_moved]
    rfl
  have hnumber : Yaml.Flow.escapeNumber 4 (c.moved 1 (hexDigits u.val ++ rest)) =
      .ok (u.val, c.moved 5 rest) := by
    simp only [Yaml.Flow.escapeNumber, Yaml.Cursor.rest_moved, htake, hadvance,
      hexNumber_hexDigits h]
    rfl
  have hpoint : Yaml.Flow.codePoint u.val = .ok u.val := by
    have := u.isLt
    simp only [Yaml.Flow.codePointLimit] at this
    rw [Yaml.Flow.codePoint, if_neg, if_neg] <;>
      simp only [Yaml.Flow.numberLimit, Yaml.Flow.codePointLimit] <;> omega
  simp only [Yaml.Flow.escape, Yaml.Cursor.peek_eq hrest, hnone, hsome,
    Yaml.Cursor.step_eq_moved hrest hletter]
  change (Yaml.Flow.escapeNumber 4 (c.moved 1 (hexDigits u.val ++ rest)) >>= fun p => _) = _
  rw [hnumber]
  change (Yaml.Flow.codePoint u.val >>= fun n => _) = _
  rw [hpoint]
  rfl

/-- A unit is written as itself, or as a backslash and an escape. -/
theorem written_cases (h : u.val < 0x10000) :
    (∃ ch, written u = [ch] ∧ ch.toNat = u.val ∧ IsPrintable ch ∧ ch ≠ '"' ∧ ch ≠ '\\') ∨
      ∃ e, written u = '\\' :: e ∧ IsEscapeOf u e := by
  rw [written]
  split
  · next ch hch => exact .inr ⟨[ch], rfl, isEscapeOf_letter hch⟩
  · next hnone =>
    split_ifs with hprintable
    · have hval : (Char.ofNat u.val).toNat = u.val := by
        rw [Char.toNat_ofNat, if_pos (.inl (by omega))]
      refine .inl ⟨_, rfl, hval, ?_, ?_, ?_⟩
      · rw [IsPrintable, hval]
        exact hprintable
      · intro hch
        rw [← hval, hch] at hnone
        cases hnone
      · intro hch
        rw [← hval, hch] at hnone
        cases hnone
    · exact .inr ⟨_, rfl, isEscapeOf_hexDigits h⟩

end CodePoint

namespace Yaml.Flow

open CodePoint Cursor

/-! ### Words -/

/-- The characters that interrupt the plain ones of a quoted scalar. -/
def isSpecial (ch : Char) : Bool := ch = '\'' || ch = '"' || ch = '\\' || isGap ch

/-- What is read after the plain characters of a piece. -/
def afterPlain (c : Cursor) (text : List Nat) (n : Nat) : Except Fault (List Nat × Cursor) :=
  if c.peek = '\'' then nonSpaces true c.step (text ++ [c.peek.toNat]) n
  else if c.peek = '\\' then escape c.step >>= fun p => nonSpaces true p.2 (text ++ p.1) n
  else .ok (text, c)

variable {c : Cursor} {text : List Nat} {rest : List Char} {ch : Char} {n : Nat}

theorem nonSpaces_succ (c : Cursor) (text : List Nat) (n : Nat) :
    nonSpaces true c text (n + 1) = afterPlain (c.advance (c.run (!isSpecial ·)).length)
      (text ++ (c.run (!isSpecial ·)).map Char.toNat) n := by
  rw [nonSpaces]
  simp [isSpecial, afterPlain]

/-- A plain character of a quoted scalar stands for itself. -/
theorem nonSpaces_of_plain (hrest : c.rest = ch :: rest) (hch : isSpecial ch = false) :
    nonSpaces true c text (n + 1) = nonSpaces true c.step (text ++ [ch.toNat]) (n + 1) := by
  have hstep : c.step.rest = rest := by
    rw [step, hrest]
    dsimp only
    split_ifs <;> rfl
  have hrun : c.run (!isSpecial ·) = ch :: c.step.run (!isSpecial ·) := by
    rw [run, hrest, List.takeWhile_cons_of_pos (by simp [hch]), run, hstep]
  rw [nonSpaces_succ, nonSpaces_succ, hrun, List.length_cons, advance, List.map_cons,
    List.append_assoc, List.singleton_append]

theorem nonSpaces_of_special (hrest : c.rest = ch :: rest) (hch : isSpecial ch = true) :
    nonSpaces true c text (n + 1) = afterPlain c text n := by
  have hrun : c.run (!isSpecial ·) = [] := by
    rw [run, hrest, List.takeWhile_cons_of_neg (by simp [hch])]
  rw [nonSpaces_succ, hrun, List.map_nil, List.append_nil]
  rfl

/-- Units without a space are read up to the space or the quotation mark after them. -/
theorem nonSpaces_units {us : List CodePoint} (hus : ∀ u ∈ us, u.val < 0x10000 ∧ u.val ≠ 0x20)
    (hrest : c.rest = us.flatMap written ++ ch :: rest) (hch : ch = ' ' ∨ ch = '"')
    (hn : us.length < n) :
    nonSpaces true c text n = .ok (text ++ us.map Fin.val,
      c.moved (us.flatMap written).length (ch :: rest)) := by
  induction us generalizing c text n with
  | nil =>
    obtain ⟨n, rfl⟩ : ∃ k, n = k + 1 := Nat.exists_eq_add_one.mpr hn
    have hspecial : isSpecial ch = true := by rcases hch with rfl | rfl <;> rfl
    have hstop : ch ≠ '\'' ∧ ch ≠ '\\' := by rcases hch with rfl | rfl <;> decide
    rw [List.flatMap_nil, List.nil_append] at hrest
    rw [nonSpaces_of_special hrest hspecial, afterPlain, peek_eq hrest, if_neg hstop.1,
      if_neg hstop.2, List.map_nil, List.append_nil, List.flatMap_nil, List.length_nil,
      moved_zero hrest]
  | cons u us ih =>
    obtain ⟨n, rfl⟩ : ∃ k, n = k + 1 := Nat.exists_eq_add_one.mpr (Nat.zero_lt_of_lt hn)
    obtain ⟨⟨hu, hspace⟩, hus⟩ := List.forall_mem_cons.mp hus
    rw [List.flatMap_cons, List.append_assoc] at hrest
    -- However the unit is written, the others are read after it.
    have hnext {m : Nat} (hm : us.length < m) :
        nonSpaces true (c.moved (written u).length (us.flatMap written ++ ch :: rest))
          (text ++ [u.val]) m = .ok (text ++ (u :: us).map Fin.val,
            c.moved ((u :: us).flatMap written).length (ch :: rest)) := by
      rw [ih hus rfl hm, moved_moved, List.append_assoc, List.singleton_append, List.map_cons,
        List.flatMap_cons, List.length_append]
    have hfuel : us.length < n := Nat.lt_of_succ_lt_succ hn
    rcases written_cases hu with ⟨d, hd, hval, hprintable, hquote, hbackslash⟩ | ⟨e, he, hescape⟩
    · rw [hd, List.length_singleton] at hnext
      rw [hd, List.singleton_append] at hrest
      have hstep := step_eq_moved hrest hprintable
      by_cases happostrophe : d = '\''
      · have hspecial : isSpecial d = true := by rw [happostrophe]; rfl
        rw [nonSpaces_of_special hrest hspecial, afterPlain, peek_eq hrest, if_pos happostrophe,
          hstep, hval, hnext hfuel]
      · have hne : d ≠ ' ' := by
          rintro rfl
          exact hspace hval.symm
        have hplain : isSpecial d = false := by
          simp [isSpecial, happostrophe, hquote, hbackslash, isGap_eq_false hprintable hne]
        rw [nonSpaces_of_plain hrest hplain, hstep, hval, hnext (Nat.lt_succ_of_lt hfuel)]
    · rw [he, List.cons_append] at hrest
      have hstep : c.step = c.moved 1 (e ++ (us.flatMap written ++ ch :: rest)) :=
        step_eq_moved hrest (by decide)
      rw [nonSpaces_of_special hrest rfl, afterPlain, peek_eq hrest, if_neg (by decide),
        if_pos rfl, hstep, hescape.2 _ _ rfl, moved_moved, Nat.add_comm 1, ← List.length_cons, ← he]
      exact hnext hfuel

/-! ### Spaces -/

theorem isPrintable_replicate (k : Nat) : ∀ d ∈ List.replicate k ' ', IsPrintable d := by
  intro d hd
  rw [List.eq_of_mem_replicate hd]
  decide

/-- Spaces within a line stand for themselves. -/
theorem spaces_replicate {k : Nat} (hrest : c.rest = List.replicate k ' ' ++ ch :: rest)
    (hch : IsPrintable ch) (hspace : ch ≠ ' ') :
    spaces c = .ok (List.replicate k ' ', c.moved k (ch :: rest)) := by
  have hblank : ∀ d ∈ List.replicate k ' ', (d = ' ' || d = '\t') = true := by
    simp +contextual [List.mem_replicate]
  have hnext : ∀ d ∈ (ch :: rest).head?, (d = ' ' || d = '\t') = false := by
    simp [hspace, ne_of_isPrintable hch]
  have hskip := skip_eq hrest hblank hnext (isPrintable_replicate k)
  rw [List.length_replicate] at hskip
  have hpeek : (c.moved k (ch :: rest)).peek = ch := peek_eq rfl
  have hend : isEnd ch = false := decide_eq_false (ne_of_isPrintable hch (by decide))
  have hbreak : (c.moved k (ch :: rest)).lineBreak? = none :=
    lineBreak?_eq_none (by simp [isBreak_eq_false hch])
  simp [spaces, run_eq hrest hblank hnext, hskip, hpeek, hend, hbreak]

theorem flatMap_written_spaces {us : List CodePoint} (hus : ∀ u ∈ us, u.val = 0x20) :
    us.flatMap written = List.replicate us.length ' ' ∧
      us.map Fin.val = (List.replicate us.length ' ').map Char.toNat := by
  induction us with
  | nil => exact ⟨rfl, rfl⟩
  | cons u us ih =>
    obtain ⟨hu, hus⟩ := List.forall_mem_cons.mp hus
    obtain ⟨htext, hval⟩ := ih hus
    have hwritten : written u = [' '] := by
      rw [written, hu]
      rfl
    rw [List.flatMap_cons, hwritten, htext, List.map_cons, hval, hu]
    exact ⟨rfl, rfl⟩

/-- Before the closing quotation mark a unit other than a space does not begin with one. -/
theorem exists_flatMap_written {us : List CodePoint} (hus : ∀ u ∈ us, u.val < 0x10000)
    (hhead : ∀ u ∈ us.head?, u.val ≠ 0x20) (rest : List Char) :
    ∃ ch rest', us.flatMap written ++ '"' :: rest = ch :: rest' ∧ IsPrintable ch ∧ ch ≠ ' ' := by
  have hmark {d : Char} (hd : d = '"' ∨ d = '\\') : IsPrintable d ∧ d ≠ ' ' := by
    rcases hd with rfl | rfl <;> exact ⟨by decide, by decide⟩
  cases us with
  | nil => exact ⟨'"', rest, rfl, hmark (.inl rfl)⟩
  | cons u us =>
    rw [List.flatMap_cons]
    rcases written_cases (hus u List.mem_cons_self) with ⟨d, hd, hval, hprintable, -⟩ | ⟨e, he, -⟩
    · refine ⟨d, us.flatMap written ++ '"' :: rest, by rw [hd]; rfl, hprintable, ?_⟩
      rintro rfl
      exact hhead u rfl hval.symm
    · exact ⟨'\\', e ++ us.flatMap written ++ '"' :: rest, by rw [he]; rfl, hmark (.inr rfl)⟩

theorem length_le_flatMap_written (us : List CodePoint) :
    us.length ≤ (us.flatMap written).length := by
  induction us with
  | nil => exact le_rfl
  | cons u us ih =>
    have hpos : 0 < (written u).length := by
      rw [written]
      split
      · exact Nat.succ_pos _
      · split <;> exact Nat.succ_pos _
    rw [List.length_cons, List.flatMap_cons, List.length_append]
    omega

/-- A list up to the first item that does not satisfy a condition, and the rest. -/
theorem exists_span {α : Type} (p : α → Prop) [DecidablePred p] (xs : List α) :
    ∃ ys zs, xs = ys ++ zs ∧ (∀ y ∈ ys, p y) ∧ ∀ z ∈ zs.head?, ¬p z := by
  refine ⟨xs.takeWhile (p ·), xs.dropWhile (p ·), List.takeWhile_append_dropWhile.symm,
    fun y hy => by simpa using List.mem_takeWhile_imp hy, fun z hz => ?_⟩
  have hnot := List.head?_dropWhile_not (p ·) xs
  rw [Option.mem_def.mp hz] at hnot
  simpa using hnot

section

variable {text' : List Nat} {c' c'' : Cursor} {gap : List Char}

theorem scanFrom_of_end (h : nonSpaces true c text (c.rest.length + 1) = .ok (text', c'))
    (hquote : c'.peek = '"') : scanFrom true c text (n + 1) = .ok (text', c'.step) := by
  rw [scanFrom, h]
  exact if_pos hquote

theorem scanFrom_of_gap (h : nonSpaces true c text (c.rest.length + 1) = .ok (text', c'))
    (hquote : c'.peek ≠ '"') (hgap : spaces c' = .ok (gap, c'')) :
    scanFrom true c text (n + 1) = scanFrom true c'' (text' ++ gap.map Char.toNat) n := by
  rw [scanFrom, h]
  refine (if_neg hquote).trans ?_
  rw [hgap]
  rfl

end

/-- A quoted text is read up to its closing quotation mark. -/
theorem scanFrom_units {us : List CodePoint} (hus : ∀ u ∈ us, u.val < 0x10000)
    (hrest : c.rest = us.flatMap written ++ '"' :: rest) (hn : us.length < n) :
    scanFrom true c text n = .ok (text ++ us.map Fin.val,
      c.moved ((us.flatMap written).length + 1) rest) := by
  induction hlength : us.length using Nat.strong_induction_on generalizing us c text n with
  | _ l ih =>
  subst hlength
  obtain ⟨n, rfl⟩ : ∃ k, n = k + 1 := Nat.exists_eq_add_one.mpr (Nat.zero_lt_of_lt hn)
  -- A word, spaces after it, and what follows these.
  obtain ⟨ws, after, rfl, hword, hafter⟩ := exists_span (fun u : CodePoint => u.val ≠ 0x20) us
  obtain ⟨gap, us', rfl, hgap, hhead⟩ := exists_span (fun u : CodePoint => u.val = 0x20) after
  have hws : ∀ u ∈ ws, u.val < 0x10000 ∧ u.val ≠ 0x20 := fun u hu =>
    ⟨hus u (List.mem_append_left _ hu), hword u hu⟩
  have hus' : ∀ u ∈ us', u.val < 0x10000 := fun u hu =>
    hus u (List.mem_append_right _ (List.mem_append_right _ hu))
  have hfuel : ws.length < c.rest.length + 1 := by
    have hlength := length_le_flatMap_written ws
    rw [hrest, List.flatMap_append, List.length_append, List.length_append]
    omega
  cases gap with
  | nil =>
    -- Nothing is left then, since what follows the word is a space.
    obtain rfl : us' = [] := by
      cases us' with
      | nil => rfl
      | cons u us' => exact absurd (not_not.mp (hafter u rfl)) (hhead u rfl)
    rw [List.append_nil, List.append_nil] at hrest
    rw [scanFrom_of_end (nonSpaces_units hws hrest (.inr rfl) hfuel) (peek_eq rfl),
      step_eq_moved rfl (by decide), moved_moved, List.append_nil,
      List.append_nil]
  | cons g gap =>
    obtain ⟨hgapText, hgapVal⟩ := flatMap_written_spaces hgap
    obtain ⟨ch, rest', hus'Text, hch, hspace⟩ := exists_flatMap_written hus' hhead rest
    have hrest' : c.rest = ws.flatMap written ++
        ' ' :: (List.replicate gap.length ' ' ++ ch :: rest') := by
      rw [hrest, List.flatMap_append, List.flatMap_append, hgapText, List.append_assoc,
        List.append_assoc, hus'Text]
      rfl
    have hspaces := spaces_replicate (k := (g :: gap).length)
      (c := c.moved (ws.flatMap written).length
        (' ' :: (List.replicate gap.length ' ' ++ ch :: rest'))) rfl hch hspace
    have hlength : us'.length < (ws ++ (g :: gap ++ us')).length := by
      simp only [List.length_append, List.length_cons]
      omega
    rw [scanFrom_of_gap (nonSpaces_units hws hrest' (.inl rfl) hfuel) (by rw [peek_eq rfl]; decide)
      hspaces, ih us'.length hlength hus' hus'Text.symm (by omega) rfl, moved_moved, moved_moved,
      ← hgapVal]
    simp only [List.map_append, List.append_assoc, List.flatMap_append, List.length_append,
      hgapText, List.length_replicate, Nat.add_assoc]

end Yaml.Flow

/-! ### Quoted texts -/

namespace Json

open CodePoint (written_cases)

theorem isPrintable_quotationMark : IsPrintable '"' := by decide

theorem mem_units_lt {s : List CodePoint} : ∀ u ∈ units s, u.val < 0x10000 := by
  intro u hu
  obtain ⟨p, -, hp⟩ := List.mem_flatMap.mp hu
  have hlt := p.isLt
  simp only [Yaml.Flow.codePointLimit] at hlt
  rw [CodePoint.units] at hp
  split_ifs at hp with h
  · obtain rfl := List.mem_singleton.mp hp
    exact h
  · simp only [List.mem_cons, List.not_mem_nil, or_false] at hp
    rcases hp with rfl | rfl <;> dsimp only <;> omega

theorem isPrintable_unit {u : CodePoint} (hu : u.val < 0x10000) :
    ∀ ch ∈ u.written, IsPrintable ch := by
  rcases written_cases hu with ⟨d, hd, -, hprintable, -⟩ | ⟨e, he, hescape, -⟩
  · rw [hd]
    exact List.forall_mem_singleton.mpr hprintable
  · rw [he]
    exact List.forall_mem_cons.mpr ⟨by decide, hescape⟩

theorem isPrintable_quoted (s : List CodePoint) : ∀ ch ∈ quoted s, IsPrintable ch := by
  rw [quoted]
  refine List.forall_mem_append.mpr ⟨List.forall_mem_cons.mpr ⟨isPrintable_quotationMark, ?_⟩,
    List.forall_mem_singleton.mpr isPrintable_quotationMark⟩
  intro ch hch
  obtain ⟨u, hu, hwritten⟩ := List.mem_flatMap.mp hch
  exact isPrintable_unit (mem_units_lt u hu) ch hwritten

/-- **A quoted text is read as its units.** What comes after it is left. -/
theorem scan_quoted {c : Yaml.Cursor} {s : List CodePoint} {rest : List Char}
    (hrest : c.rest = quoted s ++ rest) :
    Yaml.Flow.scan true c =
      .ok ((units s).map Fin.val, c.moved (quoted s).length rest) := by
  have hrest' : c.rest =
      '"' :: ((units s).flatMap CodePoint.written ++ '"' :: rest) := by
    rw [hrest, quoted]
    simp
  have hfuel : (units s).length < c.rest.length + 1 := by
    have hlength := Yaml.Flow.length_le_flatMap_written (units s)
    rw [hrest', List.length_cons, List.length_append]
    omega
  rw [Yaml.Flow.scan, Yaml.Cursor.step_eq_moved hrest' isPrintable_quotationMark,
    Yaml.Flow.scanFrom_units mem_units_lt rfl hfuel, Yaml.Cursor.moved_moved, List.nil_append]
  congr 3
  rw [quoted]
  simp
  omega

end Json

end Conformance
