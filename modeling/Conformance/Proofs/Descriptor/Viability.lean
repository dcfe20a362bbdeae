import Conformance.Proofs.Descriptor.Meaning

/-!
# Where reading a descriptor stops

Some tokens are viable if more tokens can follow them such that all of them together make a
descriptor. Reading from the left refuses a row of tokens at the first of them that makes it
unviable, and does not look beyond; if there is no such token, it finds that the row ends too early.

Reading goes down into brackets and comes back, but of the tokens already read not much matters:
whether a term is due or the last one is complete, and how many brackets are open. `Pending` is
this, and changes with every token. A term takes it from due to complete with as many open
brackets. Whatever is pending, a star and closing brackets make a descriptor of it; so the tokens
that change it without a fault are the viable ones, and the fault that ends them is the one that
reading meets.

## Main definitions

* `Descriptor.IsViable` — tokens that can be continued to a descriptor.
* `Descriptor.EndsInBracket` — tokens that end with a union in an open bracket.
* `Descriptor.Pending` — what the tokens read so far leave open.

## Main results

* `Descriptor.Pending.verdict_eq_ofTokens` — reading follows what is pending.
* `Descriptor.isViable_iff` — the viable tokens.
* `Token.Lexes.exists_of_append_blank` — a text is cut apart at white space between tokens.
* `Descriptor.parse_stops_at_unviable` — where reading stops, and with which reason.
-/

namespace Conformance

namespace Descriptor

/-- Some more tokens, which can stand in a text, make a descriptor of these. -/
def IsViable (ts : List Token) : Prop :=
  ∃ us d, (∀ t ∈ us, t.IsWritten) ∧ DerivesUnion (ts ++ us) d

/-- The tokens end with a bracket that is open and with a union after it. -/
def EndsInBracket (ts : List Token) : Prop :=
  ∃ outer inner d, ts = outer ++ .openBracket :: inner ∧ DerivesUnion inner d

/-- What the tokens read so far leave open: a term is due or the last one is complete, inside some
open brackets. -/
inductive Pending
  | due (brackets : Nat)
  | complete (brackets : Nat)

namespace Pending

/-- What is pending after a further token, or the fault in it. -/
def step : Pending → Token → Except SyntaxFault Pending
  | due n, .star => .ok (complete n)
  | due n, .name s => .ok (if s = Pattern.maybeKeyword then due n else complete n)
  | due n, .openBracket => .ok (due (n + 1))
  | due _, t => .error (.unexpectedToken t)
  | complete n, .bar => .ok (due n)
  | complete 0, t => .error (.unexpectedToken t)
  | complete (n + 1), .closeBracket => .ok (complete n)
  | complete (_ + 1), _ => .error .expectedClose

/-- What is pending after further tokens. -/
def run : Pending → List Token → Except SyntaxFault Pending
  | p, [] => .ok p
  | p, t :: ts => (p.step t).bind (·.run ts)

/-- What the end of the tokens makes of it. -/
def finish : Pending → Except SyntaxFault Unit
  | complete 0 => .ok ()
  | _ => .error .unexpectedEnd

/-- Whether further tokens make a descriptor, or else the fault in them. -/
def verdict (p : Pending) (ts : List Token) : Except SyntaxFault Unit := (p.run ts).bind finish

theorem run_append (p : Pending) (ts us : List Token) :
    p.run (ts ++ us) = (p.run ts).bind (·.run us) := by
  induction ts generalizing p with
  | nil => rfl
  | cons t ts ih =>
    rw [List.cons_append, run, run]
    cases p.step t with
    | error e => rfl
    | ok q => exact ih q

theorem verdict_append {p q : Pending} {ts : List Token} (h : p.run ts = .ok q)
    (us : List Token) : p.verdict (ts ++ us) = q.verdict us := by
  rw [verdict, run_append, h]
  rfl

/-! ### Reading follows what is pending -/

mutual

/-- A term that is due completes it. -/
theorem run_of_derivesTerm : ∀ {ts : List Token} {d : Descriptor}, DerivesTerm ts d →
    ∀ n, (due n).run ts = .ok (complete n)
  | _, _, .star, _ => rfl
  | _, _, .name hs, n => by
    rw [run, step, if_neg hs]
    rfl
  | _, _, .maybe h, n => by
    rw [run, step, if_pos rfl]
    exact run_of_derivesTerm h n
  | _, _, .array h, n => by
    rw [run, step]
    change (due (n + 1)).run _ = _
    rw [run_append, run_of_derivesUnion h (n + 1)]
    rfl

/-- Terms with bars between them do, too. -/
theorem run_of_derivesOptions : ∀ {ts : List Token} {ds : List Descriptor}, DerivesOptions ts ds →
    ∀ n, (due n).run ts = .ok (complete n)
  | _, _, .one h, n => run_of_derivesTerm h n
  | _, _, .more h h', n => by
    rw [run_append, run_of_derivesTerm h n]
    exact run_of_derivesOptions h' n

theorem run_of_derivesUnion : ∀ {ts : List Token} {d : Descriptor}, DerivesUnion ts d →
    ∀ n, (due n).run ts = .ok (complete n)
  | _, _, .single h, n => run_of_derivesTerm h n
  | _, _, .several h h', n => by
    rw [run_append, run_of_derivesTerm h n]
    exact run_of_derivesOptions h' n

end

/-- What is read as further options of a union leaves it complete, and no bar follows. -/
theorem verdict_of_readOptions {ts rest : List Token} {ds : List Descriptor}
    {hle : rest.length ≤ ts.length} (h : readOptions ts = .ok ⟨(ds, rest), hle⟩) (n : Nat) :
    (complete n).verdict ts = (complete n).verdict rest ∧ rest.head? ≠ some .bar := by
  have hother (hbar : ts.head? ≠ some .bar) :
      (complete n).verdict ts = (complete n).verdict rest ∧ rest.head? ≠ some .bar := by
    rw [readOptions_of_head?_ne_bar hbar] at h
    cases h
    exact ⟨rfl, hbar⟩
  cases ts with
  | nil => exact hother (by simp)
  | cons t ts =>
    cases t with
    | bar =>
      obtain ⟨first, behind, others, hlt, hle', hterm, hoptions, rfl⟩ :=
        exists_of_readOptions_eq_ok h
      obtain ⟨used, hts, hused⟩ := derivesTerm_of_readTerm hterm
      obtain ⟨hverdict, hhead⟩ := verdict_of_readOptions hoptions n
      refine ⟨?_, hhead⟩
      change (due n).verdict ts = _
      rw [← hverdict, hts, verdict_append (run_of_derivesTerm hused n)]
    | _ => exact hother (by simp)
termination_by ts.length

theorem verdict_of_readTerm {ts rest : List Token} {d : Descriptor}
    {hlt : rest.length < ts.length} (h : readTerm ts = .ok ⟨(d, rest), hlt⟩) (n : Nat) :
    (due n).verdict ts = (complete n).verdict rest := by
  obtain ⟨used, hts, hused⟩ := derivesTerm_of_readTerm h
  rw [hts, verdict_append (run_of_derivesTerm hused n)]

/-- What is read as a union leaves it complete, and no bar follows. -/
theorem verdict_of_readUnion {ts rest : List Token} {d : Descriptor}
    {hlt : rest.length < ts.length} (h : readUnion ts = .ok ⟨(d, rest), hlt⟩) (n : Nat) :
    (due n).verdict ts = (complete n).verdict rest ∧ rest.head? ≠ some .bar := by
  obtain ⟨first, behind, others, hlt', hle, hterm, hoptions, rfl⟩ := exists_of_readUnion_eq_ok h
  obtain ⟨hverdict, hhead⟩ := verdict_of_readOptions hoptions n
  exact ⟨(verdict_of_readTerm hterm n).trans hverdict, hhead⟩

mutual

/-- The fault that reading a term ends with is the one in the tokens. -/
theorem verdict_of_readTerm_error {ts : List Token} {e : SyntaxFault} (h : readTerm ts = .error e)
    (n : Nat) : (due n).verdict ts = .error e := by
  match ts with
  | [] | .closeBracket :: ts | .bar :: ts =>
    rw [readTerm] at h
    cases h
    rfl
  | .star :: ts => rw [readTerm] at h; cases h
  | .name s :: ts =>
    rw [readTerm] at h
    split_ifs at h with hs
    subst hs
    cases hterm : readTerm ts with
    | ok r => rw [hterm] at h; cases h
    | error e' =>
      rw [hterm] at h
      cases h
      rw [verdict, run, step, if_pos rfl]
      exact verdict_of_readTerm_error hterm n
  | .openBracket :: ts =>
    rw [readTerm] at h
    change (due (n + 1)).verdict ts = _
    cases hunion : readUnion ts with
    | error e' =>
      rw [hunion] at h
      cases h
      exact verdict_of_readUnion_error hunion (n + 1)
    | ok r =>
      obtain ⟨⟨d, rest⟩, hlt⟩ := r
      obtain ⟨hverdict, hhead⟩ := verdict_of_readUnion hunion (n + 1)
      rw [hverdict]
      rw [hunion] at h
      match rest with
      | [] => cases h; rfl
      | .closeBracket :: _ => cases h
      | .bar :: _ => exact absurd rfl hhead
      | .openBracket :: _ | .star :: _ | .name _ :: _ => cases h; rfl
termination_by (ts.length, 0)

theorem verdict_of_readUnion_error {ts : List Token} {e : SyntaxFault}
    (h : readUnion ts = .error e) (n : Nat) : (due n).verdict ts = .error e := by
  obtain hterm | ⟨first, behind, hlt, hterm, hoptions⟩ := exists_of_readUnion_eq_error h
  · exact verdict_of_readTerm_error hterm n
  · rw [verdict_of_readTerm hterm n]
    exact verdict_of_readOptions_error hoptions n
termination_by (ts.length, 2)

theorem verdict_of_readOptions_error {ts : List Token} {e : SyntaxFault}
    (h : readOptions ts = .error e) (n : Nat) : (complete n).verdict ts = .error e := by
  match ts with
  | .bar :: ts =>
    change (due n).verdict ts = _
    obtain hterm | ⟨first, behind, hlt, hterm, hoptions⟩ := exists_of_readOptions_eq_error h
    · exact verdict_of_readTerm_error hterm n
    · rw [verdict_of_readTerm hterm n]
      exact verdict_of_readOptions_error hoptions n
  | [] | .openBracket :: _ | .closeBracket :: _ | .star :: _ | .name _ :: _ =>
    rw [readOptions_of_head?_ne_bar (by simp)] at h
    cases h
termination_by (ts.length, 1)

end

/-- **Reading follows what is pending.** It makes a descriptor of some tokens where what is
pending finds no fault in them, and else ends with the fault found. -/
theorem verdict_eq_ofTokens {ts : List Token} (hts : ts ≠ []) :
    (due 0).verdict ts = (ofTokens ts).map fun _ => () := by
  rw [ofTokens, if_neg hts]
  cases hunion : readUnion ts with
  | error e => exact verdict_of_readUnion_error hunion 0
  | ok r =>
    obtain ⟨⟨d, rest⟩, hlt⟩ := r
    obtain ⟨hverdict, hhead⟩ := verdict_of_readUnion hunion 0
    rw [hverdict]
    cases rest with
    | nil => rfl
    | cons t rest =>
      cases t with
      | bar => exact absurd rfl hhead
      | _ => rfl

/-! ### Viable tokens -/

theorem verdict_closeBrackets (n : Nat) :
    (complete n).verdict (List.replicate n .closeBracket) = .ok () := by
  induction n with
  | zero => rfl
  | succ n ih => exact ih

/-- Whatever is pending, some tokens make a descriptor of it. -/
theorem exists_verdict_eq_ok (p : Pending) :
    ∃ us, (∀ t ∈ us, t.IsWritten) ∧ p.verdict us = .ok () := by
  have hclose (n : Nat) : ∀ t ∈ List.replicate n Token.closeBracket, t.IsWritten := by
    intro t ht
    rw [List.eq_of_mem_replicate ht]
    trivial
  cases p with
  | complete n => exact ⟨_, hclose n, verdict_closeBrackets n⟩
  | due n =>
    exact ⟨.star :: List.replicate n .closeBracket, List.forall_mem_cons.mpr ⟨trivial, hclose n⟩,
      verdict_closeBrackets n⟩

/-- Some tokens lead to a fault at the first of them that does. -/
theorem exists_of_run_eq_error {p : Pending} {ts : List Token} {e : SyntaxFault}
    (h : p.run ts = .error e) :
    ∃ i t q, ts[i]? = some t ∧ p.run (ts.take i) = .ok q ∧ q.step t = .error e := by
  induction ts generalizing p with
  | nil => cases h
  | cons t ts ih =>
    rw [run] at h
    cases hstep : p.step t with
    | error e' =>
      rw [hstep] at h
      cases h
      exact ⟨0, t, p, rfl, rfl, hstep⟩
    | ok q =>
      rw [hstep] at h
      obtain ⟨i, u, q', hu, hq', hfault⟩ := ih h
      refine ⟨i + 1, u, q', hu, ?_, hfault⟩
      rw [List.take_succ_cons, run, hstep]
      exact hq'

/-- A further token is at fault for not closing a bracket after a term in it, and else as such. -/
theorem step_eq_error {p : Pending} {t : Token} {e : SyntaxFault} (h : p.step t = .error e) :
    (e = .expectedClose ∧ ∃ n, p = complete (n + 1)) ∨
      (e = .unexpectedToken t ∧ ¬ ∃ n, p = complete (n + 1)) := by
  rcases p with n | (_ | n)
  · refine .inr ⟨?_, by simp⟩
    cases t <;> cases h <;> rfl
  · refine .inr ⟨?_, by simp⟩
    cases t <;> cases h <;> rfl
  · refine .inl ⟨?_, n, rfl⟩
    cases t <;> cases h <;> rfl

/-- The end of the tokens is at fault for coming too early. -/
theorem finish_eq_error {p : Pending} {e : SyntaxFault} (h : p.finish = .error e) :
    e = .unexpectedEnd := by
  rcases p with n | (_ | n) <;> cases h <;> rfl

/-- The tokens end with as many brackets that are open, a union in the innermost of them, and a
place for a term before each of them. -/
def Completes : Nat → List Token → Prop
  | 0, ts => ∃ d, DerivesUnion ts d
  | n + 1, ts => ∃ outer inner d, ts = outer ++ .openBracket :: inner ∧ DerivesUnion inner d ∧
      ∀ us e, DerivesTerm us e → Completes n (outer ++ us)

/-- The tokens are such as to leave this pending. -/
def Describes : Pending → List Token → Prop
  | complete n, ts => Completes n ts
  | due n, ts => ∀ us d, DerivesTerm us d → Completes n (ts ++ us)

/-- A term after a bar is a further option of the innermost union. -/
theorem Completes.append_bar {n : Nat} {ts us : List Token} {d : Descriptor}
    (h : Completes n ts) (hus : DerivesTerm us d) : Completes n (ts ++ .bar :: us) := by
  have hunion {vs : List Token} {e : Descriptor} (hvs : DerivesUnion vs e) :
      ∃ e', DerivesUnion (vs ++ .bar :: us) e' := by
    obtain ⟨e₁, es, hoptions, -⟩ := hvs.exists_derivesOptions
    exact ⟨_, (hoptions.append (.one hus)).derivesUnion⟩
  cases n with
  | zero =>
    obtain ⟨e, hts⟩ := h
    exact hunion hts
  | succ n =>
    obtain ⟨outer, inner, e, rfl, hinner, houter⟩ := h
    obtain ⟨e', hinner'⟩ := hunion hinner
    exact ⟨outer, inner ++ .bar :: us, e', by simp, hinner', houter⟩

/-- A further token changes what is pending as it changes the tokens. -/
theorem Describes.step {p q : Pending} {ts : List Token} (h : p.Describes ts) {t : Token}
    (hstep : p.step t = .ok q) : q.Describes (ts ++ [t]) := by
  rcases p with n | n
  · cases t with
    | star =>
      cases hstep
      exact h _ _ .star
    | name s =>
      cases hstep
      by_cases hs : s = Pattern.maybeKeyword
      · rw [if_pos hs, hs]
        intro us d hus
        rw [List.append_assoc]
        exact h _ _ (.maybe hus)
      · rw [if_neg hs]
        exact h _ _ (.name hs)
    | openBracket =>
      cases hstep
      intro us d hus
      exact ⟨ts, us, d, by simp, .single hus, h⟩
    | closeBracket => cases hstep
    | bar => cases hstep
  · cases t with
    | bar =>
      cases hstep
      intro us d hus
      rw [List.append_assoc]
      exact Completes.append_bar h hus
    | closeBracket =>
      cases n with
      | zero => cases hstep
      | succ n =>
        cases hstep
        obtain ⟨outer, inner, d, rfl, hinner, houter⟩ := h
        rw [List.append_assoc]
        exact houter _ _ (.array hinner)
    | _ => cases n <;> cases hstep

theorem Describes.run {p q : Pending} {ts us : List Token} (h : p.Describes ts)
    (hrun : p.run us = .ok q) : q.Describes (ts ++ us) := by
  induction us generalizing p ts with
  | nil =>
    cases hrun
    rwa [List.append_nil]
  | cons u us ih =>
    rw [Pending.run] at hrun
    cases hstep : p.step u with
    | error e => rw [hstep] at hrun; cases hrun
    | ok p' =>
      rw [hstep] at hrun
      have hall := ih (h.step hstep) hrun
      rwa [List.append_assoc] at hall

/-- The last term is complete inside a bracket exactly if the tokens end with a union in one. -/
theorem exists_eq_complete_iff {ts : List Token} {p : Pending} (h : (due 0).run ts = .ok p) :
    (∃ n, p = complete (n + 1)) ↔ EndsInBracket ts := by
  constructor
  · rintro ⟨n, rfl⟩
    have hstart : (due 0).Describes [] := fun us d hus => ⟨d, .single hus⟩
    obtain ⟨outer, inner, d, hts, hinner, -⟩ := hstart.run h
    exact ⟨outer, inner, d, hts, hinner⟩
  · rintro ⟨outer, inner, d, rfl, hinner⟩
    rw [run_append] at h
    cases houter : (due 0).run outer with
    | error e => rw [houter] at h; cases h
    | ok q =>
      rw [houter] at h
      rcases q with n | (_ | n)
      · change (due (n + 1)).run inner = _ at h
        rw [run_of_derivesUnion hinner (n + 1)] at h
        cases h
        exact ⟨n, rfl⟩
      · cases h
      · cases h

end Pending

open Pending

/-- **The viable tokens** are those in which there is no fault so far. -/
theorem isViable_iff {ts : List Token} : IsViable ts ↔ ∃ p, (due 0).run ts = .ok p := by
  constructor
  · rintro ⟨us, d, -, h⟩
    have hrun := run_of_derivesUnion h 0
    rw [run_append] at hrun
    cases hts : (due 0).run ts with
    | error e => rw [hts] at hrun; cases hrun
    | ok p => exact ⟨p, rfl⟩
  · rintro ⟨p, hp⟩
    obtain ⟨us, hus, hverdict⟩ := exists_verdict_eq_ok p
    rw [← verdict_append hp] at hverdict
    have hne : ts ++ us ≠ [] := by
      intro hnil
      rw [hnil] at hverdict
      cases hverdict
    rw [verdict_eq_ofTokens hne] at hverdict
    cases hd : ofTokens (ts ++ us) with
    | error e => rw [hd] at hverdict; cases hverdict
    | ok d => exact ⟨us, d, hus, ofTokens_eq_ok_iff.mp hd⟩

/-- Tokens that come before others in viable ones are viable. -/
theorem IsViable.of_append {ts us : List Token} (h : IsViable (ts ++ us)) : IsViable ts := by
  obtain ⟨p, hp⟩ := isViable_iff.mp h
  rw [run_append] at hp
  cases hts : (due 0).run ts with
  | error e => rw [hts] at hp; cases hp
  | ok q => exact isViable_iff.mpr ⟨q, hts⟩

end Descriptor

/-! ### Texts that go on after white space -/

namespace Token

variable {cs ds blanks rest : List Char} {t : Token} {ts us : List Token}

/-- What is left of white space and a token without white space at its beginning. -/
theorem IsWritten.dropWhile_append (ht : t.IsWritten) (hb : ∀ c ∈ blanks, Text.isBlank c = true) :
    (blanks ++ (t.text.toList ++ rest)).dropWhile Text.isBlank = t.text.toList ++ rest := by
  obtain ⟨c, xs, -, -, hfirst, -, hc, -⟩ := ht.exists_text_eq
  rw [List.dropWhile_append_of_pos hb, hfirst, List.cons_append,
    List.dropWhile_cons_of_neg (by simp [hc])]

theorem lexes_dropWhile_iff : Lexes (cs.dropWhile Text.isBlank) ts ↔ Lexes cs ts := by
  constructor
  · intro h
    rw [← List.takeWhile_append_dropWhile (p := Text.isBlank) (l := cs)]
    exact h.blanks_append fun c hc => List.mem_takeWhile_imp hc
  · intro h
    cases h with
    | nil hb =>
      rw [List.dropWhile_eq_nil_iff.mpr hb]
      exact .empty
    | cons hb ht he h =>
      rw [ht.dropWhile_append hb]
      exact .token_append ht he h

/-- White space at the beginning of a text makes no difference. -/
theorem lexes_blanks_append_iff (hb : ∀ c ∈ blanks, Text.isBlank c = true) :
    Lexes (blanks ++ cs) ts ↔ Lexes cs ts := by
  rw [← lexes_dropWhile_iff, List.dropWhile_append_of_pos hb, lexes_dropWhile_iff]

/-- White space at the end of a text makes no difference. -/
theorem lexes_append_blanks_iff (hb : ∀ c ∈ blanks, Text.isBlank c = true) :
    Lexes (cs ++ blanks) ts ↔ Lexes cs ts := by
  refine ⟨fun h => ?_, fun h => h.append_blanks hb⟩
  have htrim : Text.trimEnd (cs ++ blanks) = Text.trimEnd cs := by
    rw [Text.trimEnd, List.reverse_append,
      List.dropWhile_append_of_pos fun c hc => hb c (List.mem_reverse.mp hc), Text.trimEnd]
  rw [← String.toList_ofList (l := cs), ← scan_eq_ok_iff, scan, String.toList_ofList, ← htrim]
  exact h.scanFrom_trimEnd 0

/-- A text that begins with a token is a row that begins with it. -/
theorem Lexes.exists_of_token_append (ht : t.IsWritten) (he : t.EndsBefore cs)
    (h : Lexes (t.text.toList ++ cs) ts) : ∃ us, ts = t :: us ∧ Lexes cs us := by
  have hread : read? (t.text.toList ++ cs) = some (t, cs) := read?_eq_some_iff.mpr ⟨ht, he, rfl⟩
  have hdrop : ([] ++ (t.text.toList ++ cs)).dropWhile Text.isBlank = t.text.toList ++ cs :=
    ht.dropWhile_append (List.forall_mem_nil _)
  generalize hall : t.text.toList ++ cs = all at h
  cases h with
  | nil hb =>
    rw [List.nil_append, hall, List.dropWhile_eq_nil_iff.mpr hb] at hdrop
    rw [hall, ← hdrop] at hread
    cases hread
  | @cons blanks rest t' us hb ht' he' h =>
    rw [List.nil_append, hall, ht'.dropWhile_append hb] at hdrop
    rw [hall, ← hdrop, read?_eq_some_iff.mpr ⟨ht', he', rfl⟩] at hread
    cases hread
    exact ⟨us, rfl, h⟩

/-- **A text is cut apart at white space between tokens**: if its beginning is a row of tokens, then
the rest is a row of the remaining tokens. -/
theorem Lexes.exists_of_append_blank (h : Lexes cs ts) {c : Char} (hc : Text.isBlank c = true)
    (h' : Lexes (cs ++ c :: ds) us) : ∃ vs, us = ts ++ vs ∧ Lexes ds vs := by
  induction h generalizing us with
  | nil hb =>
    rw [lexes_blanks_append_iff hb] at h'
    exact ⟨us, rfl, (lexes_blanks_append_iff (List.forall_mem_singleton.mpr hc)).mp h'⟩
  | @cons blanks rest t ts hb ht he h ih =>
    rw [List.append_assoc, List.append_assoc, lexes_blanks_append_iff hb] at h'
    have hends : t.EndsBefore (rest ++ c :: ds) := by
      cases rest with
      | nil => exact t.endsBefore_blank_cons hc ds
      | cons d rest => cases t <;> exact he
    obtain ⟨us', rfl, hus⟩ := h'.exists_of_token_append ht hends
    obtain ⟨vs, rfl, hvs⟩ := ih hus
    exact ⟨vs, rfl, hvs⟩

/-- Tokens that can stand in a text do so with single spaces between them. -/
theorem lexes_joined (h : ∀ t ∈ ts, t.IsWritten) :
    Lexes (" ".intercalate (ts.map text)).toList ts := by
  induction ts with
  | nil => exact .empty
  | cons t ts ih =>
    rw [List.forall_mem_cons] at h
    cases ts with
    | nil =>
      have hall := Lexes.empty.token_append h.1 t.endsBefore_nil
      simpa using hall
    | cons u us =>
      have hspace : Text.isBlank ' ' = true := by decide
      have hall := ((ih h.2).blanks_append forall_mem_space_isBlank).token_append h.1
        (t.endsBefore_blank_cons hspace _)
      simpa [String.intercalate_cons_cons] using hall

end Token

namespace Descriptor

open Token Pending

/-- Some text that goes on after a space makes a descriptor exactly if the tokens are viable. -/
theorem exists_parse_append_iff {s : String} {ts : List Token} (hs : Lexes s.toList ts) :
    (∃ x d, parse (s ++ " " ++ x) = .ok d) ↔ IsViable ts := by
  have hlist (x : String) : (s ++ " " ++ x).toList = s.toList ++ ' ' :: x.toList := by
    rw [String.toList_append, String.toList_append, List.append_assoc]
    rfl
  constructor
  · rintro ⟨x, d, hx⟩
    obtain ⟨us, hus, hd⟩ := parse_eq_ok_iff.mp hx
    rw [hlist] at hus
    obtain ⟨vs, rfl, hvs⟩ := hs.exists_of_append_blank (by decide) hus
    exact ⟨vs, d, hvs.isWritten, hd⟩
  · rintro ⟨us, d, hus, hd⟩
    refine ⟨" ".intercalate (us.map Token.text), d, parse_eq_ok_iff.mpr ⟨ts ++ us, ?_, hd⟩⟩
    rw [hlist]
    exact hs.append ((lexes_joined hus).blanks_append forall_mem_space_isBlank)
      (not_isNameChar_head?_cons (by decide))

theorem append_ne_of_take_ne {s t u : String} {n : Nat}
    (h : s.toList.take n ≠ u.toList.take n) (hn : n ≤ s.toList.length) : s ++ t ≠ u := by
  rintro rfl
  rw [String.toList_append, List.take_append_of_le_length hn] at h
  exact h rfl

theorem reason_unexpectedToken (t : Token) :
    (SyntaxFault.unexpectedToken t).reason = "unexpected token '" ++ (t.text ++ "'") := by
  rw [← String.append_assoc]
  rfl

/-- No other fault has the reason of a text that ends too early. -/
theorem reason_eq_unexpectedEnd_iff {fault : SyntaxFault} :
    fault.reason = "unexpected end of descriptor" ↔ fault = .unexpectedEnd := by
  constructor
  · intro h
    cases fault with
    | unexpectedEnd => rfl
    | notText | empty | expectedClose => exact absurd h (by decide)
    | unexpectedCharacter p =>
      exact absurd h (append_ne_of_take_ne (n := 12) (by decide) (by decide))
    | unexpectedToken t =>
      rw [reason_unexpectedToken] at h
      exact absurd h (append_ne_of_take_ne (n := 12) (by decide) (by decide))
  · rintro rfl
    rfl

/-- Where a further token is at fault, all tokens up to it are viable, no more are, and nothing
after it matters. -/
theorem isViable_take_iff {ts : List Token} {i : Nat} {t : Token} {p : Pending} {e : SyntaxFault}
    (ht : ts[i]? = some t) (hp : (due 0).run (ts.take i) = .ok p) (hstep : p.step t = .error e) :
    (∀ j, IsViable (ts.take j) ↔ j ≤ i) ∧
      ∀ us, ofTokens (ts.take (i + 1) ++ us) = .error e := by
  have htake : ts.take (i + 1) = ts.take i ++ [t] := by
    rw [List.take_add_one, ht]
    rfl
  have hfault (us : List Token) : (due 0).run (ts.take (i + 1) ++ us) = .error e := by
    rw [htake, List.append_assoc, run_append, hp]
    change (p.step t).bind _ = _
    rw [hstep]
    rfl
  refine ⟨fun j => ⟨fun hviable => ?_, fun hj => ?_⟩, fun us => ?_⟩
  · by_contra hj
    obtain ⟨us, hus⟩ := List.take_prefix_take_left (l := ts) (show i + 1 ≤ j by omega)
    rw [← hus] at hviable
    obtain ⟨q, hq⟩ := isViable_iff.mp hviable
    rw [hfault] at hq
    cases hq
  · obtain ⟨us, hus⟩ := List.take_prefix_take_left (l := ts) hj
    have hall : IsViable (ts.take j ++ us) := by
      rw [hus]
      exact isViable_iff.mpr ⟨p, hp⟩
    exact hall.of_append
  · have hne : ts.take (i + 1) ++ us ≠ [] := by simp [htake]
    have hverdict := verdict_eq_ofTokens hne
    rw [verdict, hfault] at hverdict
    cases hall : ofTokens (ts.take (i + 1) ++ us) with
    | ok d => rw [hall] at hverdict; cases hverdict
    | error e' => rw [hall] at hverdict; cases hverdict; rfl

/-- **Reading stops at the token that makes a descriptor impossible.** A text that is a row of
tokens and no descriptor is refused as ending too early exactly if another text after a space makes
it one. Else there is a token such that the tokens before it can go on to a descriptor and those up
to it cannot; whatever follows this token, it is refused with the same fault: that a bracket is
expected to be closed, if the tokens before it end with a union in an open bracket, and else that
this token is not expected. -/
theorem parse_stops_at_unviable {s : String} {ts : List Token} (hs : Lexes s.toList ts)
    (hne : ts ≠ []) (hfail : ∀ d, parse s ≠ .ok d) :
    ∃ fault, parse s = .error ⟨s, fault⟩ ∧
      (fault.reason = "unexpected end of descriptor" ↔ ∃ x d, parse (s ++ " " ++ x) = .ok d) ∧
      ((¬ ∃ x d, parse (s ++ " " ++ x) = .ok d) →
        ∃ i t, ts[i]? = some t ∧ (∀ j, IsViable (ts.take j) ↔ j ≤ i) ∧
          (∀ us, ofTokens (ts.take (i + 1) ++ us) = .error fault) ∧
          ((fault.reason = "expected ']'" ∧ EndsInBracket (ts.take i)) ∨
            (fault.reason = s!"unexpected token '{t.text}'" ∧ ¬ EndsInBracket (ts.take i)))) := by
  have hread : read s = ofTokens ts := by rw [read, scan_eq_ok_iff.mpr hs]
  have hverdict := verdict_eq_ofTokens hne
  rw [exists_parse_append_iff hs, isViable_iff]
  cases htokens : ofTokens ts with
  | ok d => exact absurd (by rw [parse, hread, htokens]; rfl) (hfail d)
  | error fault =>
    rw [htokens, verdict] at hverdict
    have hparse : parse s = .error ⟨s, fault⟩ := by
      rw [parse, hread, htokens]
      rfl
    cases hrun : (due 0).run ts with
    | ok p =>
      rw [hrun] at hverdict
      obtain rfl : fault = .unexpectedEnd := finish_eq_error hverdict
      exact ⟨_, hparse, ⟨fun _ => ⟨p, rfl⟩, fun _ => rfl⟩, fun h => absurd ⟨p, rfl⟩ h⟩
    | error e =>
      rw [hrun] at hverdict
      cases hverdict
      obtain ⟨i, t, p, ht, hp, hstep⟩ := exists_of_run_eq_error hrun
      have hreason := step_eq_error hstep
      refine ⟨_, hparse, iff_of_false ?_ (by simp), fun _ => ?_⟩
      · rw [reason_eq_unexpectedEnd_iff]
        rintro rfl
        rcases hreason with ⟨h, -⟩ | ⟨h, -⟩ <;> cases h
      · obtain ⟨hviable, hsame⟩ := isViable_take_iff ht hp hstep
        refine ⟨i, t, ht, hviable, hsame, ?_⟩
        rw [← exists_eq_complete_iff hp]
        rcases hreason with ⟨rfl, hp⟩ | ⟨rfl, hp⟩
        · exact .inl ⟨rfl, hp⟩
        · exact .inr ⟨rfl, hp⟩

/-- The first text ends too early, and some other text would complete it; in the second nothing
that follows could make up for the bracket that was not closed. -/
theorem parse_stops_at_unviable_sample :
    Lexes "[A".toList [.openBracket, .name "A"] ∧ (∀ d, parse "[A" ≠ .ok d) ∧
      (∃ x d, parse ("[A" ++ " " ++ x) = .ok d) ∧
      Lexes "[A B]".toList [.openBracket, .name "A", .name "B", .closeBracket] ∧
      (∀ d, parse "[A B]" ≠ .ok d) ∧ (¬ ∃ x d, parse ("[A B]" ++ " " ++ x) = .ok d) ∧
      ∃ i, EndsInBracket ([.openBracket, .name "A", .name "B", .closeBracket].take i) ∧
        ¬ IsViable ([.openBracket, .name "A", .name "B", .closeBracket].take (i + 1)) := by
  have hlexes : Lexes "[A".toList [.openBracket, .name "A"] := scan_eq_ok_iff.mp (by cbv)
  have hparse : parse "[A" = .error ⟨"[A", .unexpectedEnd⟩ := by cbv
  have hlexes' : Lexes "[A B]".toList [.openBracket, .name "A", .name "B", .closeBracket] :=
    scan_eq_ok_iff.mp (by cbv)
  have hparse' : parse "[A B]" = .error ⟨"[A B]", .expectedClose⟩ := by cbv
  have hfail : ∀ d, parse "[A" ≠ .ok d := by simp [hparse]
  have hfail' : ∀ d, parse "[A B]" ≠ .ok d := by simp [hparse']
  obtain ⟨fault, hfault, hend, -⟩ :=
    parse_stops_at_unviable hlexes (List.cons_ne_nil _ _) hfail
  obtain ⟨fault', hfault', hend', hstop⟩ :=
    parse_stops_at_unviable hlexes' (List.cons_ne_nil _ _) hfail'
  obtain rfl : fault = .unexpectedEnd := by cases hparse.symm.trans hfault; rfl
  obtain rfl : fault' = .expectedClose := by cases hparse'.symm.trans hfault'; rfl
  have hunviable : ¬ ∃ x d, parse ("[A B]" ++ " " ++ x) = .ok d := mt hend'.mpr (by decide)
  obtain ⟨i, t, -, hviable, -, ⟨-, hbracket⟩ | ⟨hreason, -⟩⟩ := hstop hunviable
  · exact ⟨hlexes, hfail, hend.mp rfl, hlexes', hfail', hunviable, i, hbracket,
      fun h => absurd ((hviable (i + 1)).mp h) (Nat.not_succ_le_self i)⟩
  · exact absurd ((reason_unexpectedToken t).symm.trans hreason.symm)
      (append_ne_of_take_ne (n := 3) (by decide) (by decide))

end Descriptor

end Conformance
