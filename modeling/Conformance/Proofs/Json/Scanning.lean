import Conformance.Proofs.Json.Quoted
import Conformance.Yaml.Token

/-!
# Tokens of a JSON text

A JSON text is made of a few kinds of parts: punctuation with the space after it, keys, texts, and
words. Each part gives its own tokens, if parts follow each other as they can. Only a key gives
them late: it is read as a text, and the mark in front of it comes with the colon, unless the key
is too long for that.

The parts read so far leave the scanner in one of a few states, and each step leads from such a
state to another one and gives tokens or has them pending. From this it follows for all steps
together that the tokens of the parts are given, one after the other, and nothing else.

## Main definitions

* `Yaml.Lexeme` — the parts, with `Yaml.Lexeme.written` and `Yaml.Lexeme.tokens`.
* `Yaml.Fits` — whether parts can follow each other.
* `Yaml.Scanner.Follows` — the tokens that a scanner of a JSON text still gives.
* `Yaml.Scanner.Gives` — tokens that are given one after the other.

## Main results

* `Yaml.Scanner.scan_advances` — one step reads the part that begins at the place.
* `Yaml.Scanner.Follows.next` — reading on changes nothing that is still to come.
* `Yaml.Scanner.Follows.gives` — what is still to come is given.
-/

namespace Conformance

/-- The code points of a text as it is read. -/
def Json.points (s : List CodePoint) : List Nat := (units s).map Fin.val

namespace Yaml

open Json (quoted points)

/-! ### Lexemes -/

/-- The parts of a JSON text: its punctuation with the spaces after it, a key with its colon, a
text, and a word or number. -/
inductive Lexeme
  | openArray
  | closeArray
  | openObject
  | closeObject
  | comma
  | key (s : List CodePoint)
  | text (s : List CodePoint)
  | plain (word : List Char)

namespace Lexeme

/-- The text of a part. -/
def written : Lexeme → List Char
  | openArray => ['[']
  | closeArray => [']']
  | openObject => ['\x7b']
  | closeObject => ['\x7d']
  | comma => [',', ' ']
  | key s => quoted s ++ [':', ' ']
  | text s => quoted s
  | plain word => word

/-- The token that marks a key, which is there if the key is short enough. -/
def keyMark (s : List CodePoint) : List Token :=
  if (quoted s).length ≤ Scanner.keyLimit then [.key] else []

/-- The tokens of a part. -/
def tokens : Lexeme → List Token
  | openArray => [.flowSequenceStart]
  | closeArray => [.flowSequenceEnd]
  | openObject => [.flowMappingStart]
  | closeObject => [.flowMappingEnd]
  | comma => [.flowEntry]
  | key s => keyMark s ++ [.scalar (points s) false, .value]
  | text s => [.scalar (points s) false]
  | plain word => [.scalar (word.map Char.toNat) true]

/-- How many collections are open after a part. -/
def level (l : Nat) : Lexeme → Nat
  | openArray | openObject => l + 1
  | closeArray | closeObject => l - 1
  | _ => l

/-- Whether a key can follow a part. -/
def allowsKey : Lexeme → Bool
  | openArray | openObject | comma => true
  | _ => false

/-- Whether a word or number ends where a part begins. -/
def endsWord : Lexeme → Bool
  | closeArray | closeObject | comma => true
  | _ => false

end Lexeme

/-- A word or number: it begins with a letter or digit, perhaps after a minus, and has only
letters, digits, signs and a point. -/
structure IsWord (word : List Char) : Prop where
  chars : ∀ c ∈ word, c.isAlphanum = true ∨ c = '.' ∨ c = '+' ∨ c = '-'
  head : ∃ c cs, word = c :: cs ∧
    (c.isAlphanum = true ∨ c = '-' ∧ ∃ d ds, cs = d :: ds ∧ d.isAlphanum = true)

/-- The text of some parts. -/
def flat (ls : List Lexeme) : List Char := ls.flatMap Lexeme.written

/-- Whether a part can stand before others: keys only in a collection and where they are
allowed, and words only before what ends them. -/
def MayStand (l : Nat) (keyAllowed : Bool) : Lexeme → List Lexeme → Prop
  | .key _, _ => keyAllowed = true ∧ 0 < l
  | .plain word, ls => IsWord word ∧ ∀ lx ∈ ls.head?, 0 < l ∧ lx.endsWord = true
  | _, _ => True

/-- Whether parts can follow each other, inside a number of collections. -/
def Fits : Nat → Bool → List Lexeme → Prop
  | _, _, [] => True
  | l, keyAllowed, lx :: ls =>
    MayStand l keyAllowed lx ls ∧ Fits (lx.level l) lx.allowsKey ls

/-! ### Words -/

theorem indicators_eq : Scanner.indicators = ['-', '?', ':', ',', '[', ']', '\x7b', '\x7d', '#',
    '&', '*', '!', '|', '>', '\'', '"', '%', '@', '\x60'] := rfl

/-- Letters and digits are printable, and none of them is an indicator. -/
theorem isAlphanum_spec {c : Char} (h : c.isAlphanum = true) :
    IsPrintable c ∧ c ≠ ' ' ∧ c ∉ Scanner.indicators := by
  have hlt : c.toNat < 128 := by
    simp only [Char.isAlphanum, Char.isAlpha, Char.isUpper, Char.isLower, Char.isDigit,
      Bool.or_eq_true, Bool.and_eq_true, decide_eq_true_eq, ge_iff_le,
      UInt32.le_iff_toNat_le] at h
    change c.val.toNat < 128
    have hZ : 'Z'.val.toNat = 90 := rfl
    have hz : 'z'.val.toNat = 122 := rfl
    have h9 : '9'.val.toNat = 57 := rfl
    rcases h with (⟨-, h⟩ | ⟨-, h⟩) | ⟨-, h⟩ <;> omega
  have hall : ∀ n : Fin 128, (Char.ofNat n.val).isAlphanum = true →
      (0x20 ≤ (Char.ofNat n.val).toNat ∧ (Char.ofNat n.val).toNat ≤ 0x7e) ∧
        Char.ofNat n.val ≠ ' ' ∧ Char.ofNat n.val ∉ Scanner.indicators := by
    rw [indicators_eq]
    decide
  have hspec := hall ⟨c.toNat, hlt⟩
  rw [Char.ofNat_toNat] at hspec
  exact hspec h

theorem wordChar_spec {c : Char} (h : c.isAlphanum = true ∨ c = '.' ∨ c = '+' ∨ c = '-') :
    IsPrintable c ∧ c ≠ ' ' ∧ c ≠ ':' ∧ c ∉ Plain.flowIndicators := by
  rcases h with h | rfl | rfl | rfl
  · obtain ⟨hprintable, hspace, hindicator⟩ := isAlphanum_spec h
    refine ⟨hprintable, hspace, ?_, fun hmem => hindicator ?_⟩
    · rintro rfl
      exact hindicator (by simp [indicators_eq])
    · have hsub : ∀ d ∈ Plain.flowIndicators, d ∈ Scanner.indicators := by
        simp [Plain.flowIndicators, indicators_eq]
      exact hsub c hmem
  all_goals decide

namespace Plain

/-- A word ends before the end of the text and before the punctuation of collections. -/
theorem word_append {w rest : List Char}
    (hw : ∀ c ∈ w, c.isAlphanum = true ∨ c = '.' ∨ c = '+' ∨ c = '-')
    {inFlow : Bool} (hrest : ∀ ch ∈ rest.head?, inFlow = true ∧ ch ∈ flowIndicators) :
    word inFlow (w ++ rest) = w := by
  induction w with
  | nil =>
    cases rest with
    | nil => rfl
    | cons ch rest =>
      obtain ⟨hflow, hmem⟩ := hrest ch rfl
      rw [List.nil_append, word]
      simp [hflow, hmem]
  | cons c w ih =>
    obtain ⟨hc, hw⟩ := List.forall_mem_cons.mp hw
    obtain ⟨hprintable, hspace, hcolon, hindicator⟩ := wordChar_spec hc
    rw [List.cons_append, word, ih hw]
    simp [isGap_eq_false hprintable hspace, hcolon, hindicator]

/-- A word is a plain scalar. -/
theorem scan_word {w rest : List Char} (hw : IsWord w) {inFlow : Bool} (indent : Int) {c : Cursor}
    (hc : c.rest = w ++ rest)
    (hrest : ∀ ch ∈ rest.head?, inFlow = true ∧ ch ∈ flowIndicators) :
    scan inFlow indent c = (w, false, c.moved w.length rest) := by
  obtain ⟨d, ds, hcons, hhead⟩ := hw.head
  have hadvance : c.advance w.length = c.moved w.length rest :=
    Cursor.advance_eq_moved hc fun ch hch => (wordChar_spec (hw.chars ch hch)).1
  have hbetween : between (c.moved w.length rest) = ⟨[], false, c.moved w.length rest⟩ := by
    have hall : ∀ d ∈ flowIndicators, decide (d = ' ') = false ∧ isBreak d = false := by
      simp [flowIndicators, isBreak]
    have hnext : ∀ ch ∈ rest.head?, decide (ch = ' ') = false := fun ch hch =>
      (hall ch (hrest ch hch).2).1
    have hrun : (c.moved w.length rest).run (· = ' ') = [] :=
      Cursor.run_eq rfl (List.forall_mem_nil _) hnext
    have hskip : (c.moved w.length rest).skipSpaces = c.moved w.length rest := by
      rw [Cursor.skipSpaces, Cursor.skip, hrun]
      rfl
    have hbreak : (c.moved w.length rest).lineBreak? = none :=
      Cursor.lineBreak?_eq_none fun ch hch => (hall ch (hrest ch hch).2).2
    simp [between, hrun, hskip, hbreak]
  have hpeek : c.peek ≠ '#' := by
    rw [Cursor.peek_eq (hc.trans (by rw [hcons]; rfl))]
    rintro rfl
    rcases hhead with h | ⟨h, -⟩
    · exact absurd h (by decide)
    · exact absurd h (by decide)
  have hne : w ≠ [] := by
    rw [hcons]
    exact List.cons_ne_nil _ _
  rw [scan, scanFrom, if_neg hpeek, hc, word_append hw.chars hrest]
  simp [hne, hadvance, hbetween]

end Plain

namespace Scanner

/-! ### States -/

/-- The places of keys as there are in a single line: none has to be a key, and there is one at
most for each level of collections. -/
structure InLine (places : List (Nat × KeyPlace)) : Prop where
  free : ∀ p ∈ places, p.2.required = false ∧ p.2.line = 0
  levels : (places.map Prod.fst).Nodup

/-- A scanner in the first line of a text that has nothing indented, inside a number of
collections and before the given rest of the text. -/
structure Standing (s : Scanner) (l : Nat) (rest : List Char) : Prop where
  rest : s.cursor.rest = rest
  beyond : s.cursor.beyond = none
  line : s.cursor.line = 0
  level : s.flowLevel = l
  indent : s.indent = -1
  outer : s.outerIndents = []
  running : s.finished = false
  places : InLine s.keyPlaces

variable {s : Scanner} {l : Nat} {rest : List Char} {places : List (Nat × KeyPlace)}

theorem InLine.filter (h : InLine places) (p : Nat × KeyPlace → Bool) :
    InLine (places.filter p) where
  free := fun q hq => h.free q (List.mem_of_mem_filter hq)
  levels := (List.filter_sublist.map Prod.fst).nodup h.levels

/-- A scanner without the places of keys that are too far away. -/
def fresh (s : Scanner) : Scanner :=
  { s with keyPlaces := s.keyPlaces.filter fun p => s.cursor.index - p.2.index ≤ keyLimit }

theorem dropStale_eq (h : s.Standing l rest) : s.dropStale = .ok s.fresh := by
  have hline : ∀ p ∈ s.keyPlaces, p.2.required = false ∧ p.2.line = s.cursor.line := by
    rw [h.line]
    exact h.places.free
  have hnone : (s.keyPlaces.any fun p => (decide (p.2.line ≠ s.cursor.line) ||
      decide (keyLimit < s.cursor.index - p.2.index)) && p.2.required) = false :=
    List.any_eq_false.mpr fun p hp => by simp [(hline p hp).1]
  have hfilter : (s.keyPlaces.filter fun p => !(decide (p.2.line ≠ s.cursor.line) ||
      decide (keyLimit < s.cursor.index - p.2.index))) =
        s.keyPlaces.filter fun p => s.cursor.index - p.2.index ≤ keyLimit :=
    List.filter_congr fun p hp => by
      rw [decide_eq_false (not_not.mpr (hline p hp).2), Bool.false_or, ← decide_not]
      exact decide_eq_decide.mpr Nat.not_lt
  simp only [dropStale, hnone, hfilter]
  rfl

theorem Standing.fresh (h : s.Standing l rest) : s.fresh.Standing l rest where
  rest := h.rest
  beyond := h.beyond
  line := h.line
  level := h.level
  indent := h.indent
  outer := h.outer
  running := h.running
  places := h.places.filter _

theorem Standing.inFlow_eq (h : s.Standing l rest) (hl : 0 < l) : s.inFlow = true := by
  rw [inFlow, h.level]
  exact decide_eq_true (Nat.ne_of_gt hl)

/-- The places of keys on other levels. -/
def otherPlaces (s : Scanner) : List (Nat × KeyPlace) := s.keyPlaces.filter (·.1 ≠ s.flowLevel)

theorem dropKey_eq (h : s.Standing l rest) :
    s.dropKey = .ok { s with keyPlaces := s.otherPlaces } := by
  rw [dropKey]
  cases hlookup : s.keyPlaces.lookup s.flowLevel with
  | none =>
    have hother : s.otherPlaces = s.keyPlaces := by
      refine List.filter_eq_self.mpr fun p hp => decide_eq_true fun hlevel => ?_
      have hne := List.lookup_eq_none_iff.mp hlookup p hp
      simp [hlevel] at hne
    rw [hother]
  | some k =>
    obtain ⟨front, back, hsplit, -⟩ := List.lookup_eq_some_iff.mp hlookup
    have hmem : (s.flowLevel, k) ∈ s.keyPlaces :=
      hsplit ▸ List.mem_append_right _ List.mem_cons_self
    have hfree : k.required = false := (h.places.free _ hmem).1
    exact if_neg (by rw [hfree]; decide)

/-- The place of a key that begins here. -/
def placeHere (s : Scanner) : KeyPlace where
  position := s.count
  required := false
  index := s.cursor.index
  line := s.cursor.line
  column := s.cursor.column

/-- The places of keys after one has been noted. -/
def notedPlaces (s : Scanner) : List (Nat × KeyPlace) :=
  if s.keyAllowed then (s.flowLevel, s.placeHere) :: s.otherPlaces else s.keyPlaces

theorem noteKey_eq (h : s.Standing l rest) :
    s.noteKey = .ok { s with keyPlaces := s.notedPlaces } := by
  have hindent : (!s.inFlow && decide (s.indent = (s.cursor.column : Int))) = false := by
    rw [h.indent, Bool.and_eq_false_iff]
    exact .inr (decide_eq_false (by omega))
  rw [noteKey, notedPlaces]
  split
  · rw [dropKey_eq h]
    change Except.ok _ = Except.ok _
    rw [placeHere, ← hindent]
    rfl
  · rfl

theorem Standing.inLine_other (h : s.Standing l rest) : InLine s.otherPlaces := h.places.filter _

theorem Standing.inLine_noted (h : s.Standing l rest) : InLine s.notedPlaces := by
  rw [notedPlaces]
  split
  · refine ⟨List.forall_mem_cons.mpr ⟨⟨rfl, h.line⟩, h.inLine_other.free⟩, ?_⟩
    refine List.nodup_cons.mpr ⟨fun hmem => ?_, h.inLine_other.levels⟩
    obtain ⟨p, hp, hlevel⟩ := List.mem_map.mp hmem
    exact of_decide_eq_true (List.mem_filter.mp hp).2 hlevel
  · exact h.places

/-! ### The tokens to come -/

/-- The tokens that a scanner of a JSON text still gives, the pending ones included. Between a key
and its colon the mark of the key has not been put in front of it yet. -/
inductive Follows : Scanner → List Token → Prop
  | before {s : Scanner} {l k : Nat} {ls : List Lexeme}
    (h : s.Standing l (List.replicate k ' ' ++ flat ls)) (hfits : Fits l s.keyAllowed ls) :
    Follows s (s.pending ++ (ls.flatMap Lexeme.tokens ++ [.streamEnd]))
  | afterKey {s : Scanner} {l : Nat} {ls : List Lexeme} {front : List Token} {t : Token}
    {p : KeyPlace} (h : s.Standing l (':' :: ' ' :: flat ls)) (hl : 0 < l)
    (hfits : Fits l false ls) (hpending : s.pending = front ++ [t])
    (hp : (l, p) ∈ s.keyPlaces) (hposition : p.position = s.taken + front.length)
    (hnear : s.cursor.index - p.index ≤ keyLimit) :
    Follows s (front ++ .key :: t :: .value :: (ls.flatMap Lexeme.tokens ++ [.streamEnd]))
  | afterLongKey {s : Scanner} {l : Nat} {ls : List Lexeme}
    (h : s.Standing l (':' :: ' ' :: flat ls)) (hl : 0 < l) (hfits : Fits l false ls)
    (hfar : ∀ p, (l, p) ∈ s.keyPlaces → keyLimit < s.cursor.index - p.index) :
    Follows s (s.pending ++ .value :: (ls.flatMap Lexeme.tokens ++ [.streamEnd]))
  | finished {s : Scanner} (h : s.finished = true) : Follows s s.pending

variable {ts : List Token}

/-- Giving up places changes nothing that is still to come. -/
theorem Follows.dropStale (h : Follows s ts) (hrunning : s.finished = false) :
    s.dropStale = .ok s.fresh ∧ Follows s.fresh ts := by
  cases h with
  | before h hfits => exact ⟨dropStale_eq h, .before h.fresh hfits⟩
  | afterKey h hl hfits hpending hp hposition hnear =>
    refine ⟨dropStale_eq h, .afterKey h.fresh hl hfits hpending ?_ hposition hnear⟩
    exact List.mem_filter.mpr ⟨hp, decide_eq_true hnear⟩
  | afterLongKey h hl hfits hfar =>
    refine ⟨dropStale_eq h, .afterLongKey h.fresh hl hfits fun p hp => ?_⟩
    exact hfar p (List.mem_of_mem_filter hp)
  | finished h =>
    rw [hrunning] at h
    cases h

theorem fresh_fresh (s : Scanner) : s.fresh.fresh = s.fresh := by
  rw [fresh, fresh]
  simp

/-- What reading the next token comes to. -/
def Advances (s : Scanner) (r : Except Fault Scanner) (ts : List Token) : Prop :=
  ∃ s', r = .ok s' ∧ Follows s' ts ∧ s'.cursor.beyond = none ∧
    (s'.finished = true ∨ s'.cursor.rest.length < s.cursor.rest.length)

section Scan

variable {ls : List Lexeme}

/-- The state after a token that does not begin a key. -/
theorem Standing.scanned (h : s.Standing l rest) (hplaces : InLine places) (l' n : Nat)
    (rest' : List Char) (allowed : Bool) (pending : List Token) :
    Standing { s with
      flowLevel := l', keyAllowed := allowed, keyPlaces := places, pending := pending
      cursor := s.cursor.moved n rest' } l' rest' where
  rest := rfl
  beyond := h.beyond
  line := h.line
  level := rfl
  indent := h.indent
  outer := h.outer
  running := h.running
  places := hplaces

/-- Before the next part the pending tokens come first. -/
theorem Standing.advances_pending {l' n : Nat} (k : Nat) {allowed : Bool} (h : s.Standing l rest)
    (hplaces : InLine places) (hfits : Fits l' allowed ls)
    (hshorter : (List.replicate k ' ' ++ flat ls).length < rest.length) (pending : List Token) :
    s.Advances (.ok { s with
        flowLevel := l', keyAllowed := allowed, keyPlaces := places, pending := pending
        cursor := s.cursor.moved n (List.replicate k ' ' ++ flat ls) })
      (pending ++ (ls.flatMap Lexeme.tokens ++ [.streamEnd])) := by
  have hstanding := h.scanned hplaces l' n (List.replicate k ' ' ++ flat ls) allowed pending
  exact ⟨_, rfl, .before hstanding hfits, hstanding.beyond,
    .inr (by rw [h.rest]; exact hshorter)⟩

/-- A token that does not begin a key comes after those that are pending. -/
theorem Standing.advances {l' n : Nat} (k : Nat) {allowed : Bool} {t : Token}
    (h : s.Standing l rest) (hplaces : InLine places) (hfits : Fits l' allowed ls)
    (hshorter : (List.replicate k ' ' ++ flat ls).length < rest.length) :
    s.Advances (.ok { s with
        flowLevel := l', keyAllowed := allowed, keyPlaces := places, pending := s.pending ++ [t]
        cursor := s.cursor.moved n (List.replicate k ' ' ++ flat ls) })
      (s.pending ++ t :: (ls.flatMap Lexeme.tokens ++ [.streamEnd])) := by
  have hadvances := h.advances_pending (n := n) k hplaces hfits hshorter (s.pending ++ [t])
  rwa [List.append_assoc] at hadvances

variable {ch : Char}

theorem openFlow_advances (h : s.Standing l (ch :: flat ls)) (hch : IsPrintable ch)
    (hfits : Fits (l + 1) true ls) (t : Token) : s.Advances (s.openFlow t)
      (s.pending ++ t :: (ls.flatMap Lexeme.tokens ++ [.streamEnd])) := by
  have hopen : s.openFlow t = .ok { s with
      flowLevel := l + 1, keyAllowed := true, keyPlaces := s.notedPlaces
      pending := s.pending ++ [t], cursor := s.cursor.moved 1 (flat ls) } := by
    rw [openFlow, noteKey_eq h, ← h.level, ← Cursor.step_eq_moved h.rest hch]
    rfl
  rw [hopen]
  exact h.advances 0 h.inLine_noted hfits (Nat.lt_succ_self _)

theorem closeFlow_advances (h : s.Standing l (ch :: flat ls)) (hch : IsPrintable ch)
    (hfits : Fits (l - 1) false ls) (t : Token) : s.Advances (s.closeFlow t)
      (s.pending ++ t :: (ls.flatMap Lexeme.tokens ++ [.streamEnd])) := by
  have hclose : s.closeFlow t = .ok { s with
      flowLevel := l - 1, keyAllowed := false, keyPlaces := s.otherPlaces
      pending := s.pending ++ [t], cursor := s.cursor.moved 1 (flat ls) } := by
    rw [closeFlow, dropKey_eq h, ← h.level, ← Cursor.step_eq_moved h.rest hch]
    rfl
  rw [hclose]
  exact h.advances 0 h.inLine_other hfits (Nat.lt_succ_self _)

theorem flowEntry_advances (h : s.Standing l (',' :: ' ' :: flat ls)) (hfits : Fits l true ls) :
    s.Advances s.flowEntry
      (s.pending ++ .flowEntry :: (ls.flatMap Lexeme.tokens ++ [.streamEnd])) := by
  have hentry : s.flowEntry = .ok { s with
      flowLevel := l, keyAllowed := true, keyPlaces := s.otherPlaces
      pending := s.pending ++ [.flowEntry], cursor := s.cursor.moved 1 (' ' :: flat ls) } := by
    rw [flowEntry, dropKey_eq h, ← h.level,
      ← Cursor.step_eq_moved h.rest (by decide)]
    rfl
  rw [hentry]
  exact h.advances 1 h.inLine_other hfits (Nat.lt_succ_self _)

/-- A text between quotation marks is read with the place where it begins noted. -/
theorem quotedScalar_eq {p : List CodePoint} (h : s.Standing l (quoted p ++ rest)) :
    s.quotedScalar true = .ok { s with
      flowLevel := l, keyAllowed := false, keyPlaces := s.notedPlaces
      pending := s.pending ++ [.scalar (points p) false]
      cursor := s.cursor.moved (quoted p).length rest } := by
  rw [quotedScalar, word, noteKey_eq h, ← h.level]
  change ((Flow.scan true s.cursor >>= _) >>= _) = _
  rw [Json.scan_quoted h.rest]
  rfl

theorem text_advances {p : List CodePoint} (h : s.Standing l (quoted p ++ flat ls))
    (hfits : Fits l false ls) : s.Advances (s.quotedScalar true)
      (s.pending ++ .scalar (points p) false :: (ls.flatMap Lexeme.tokens ++ [.streamEnd])) := by
  rw [quotedScalar_eq h]
  refine h.advances 0 h.inLine_noted hfits ?_
  change (flat ls).length < (quoted p ++ flat ls).length
  rw [List.length_append, quoted]
  exact Nat.lt_add_of_pos_left (Nat.succ_pos _)

/-- After a key the scanner knows where it began, and whether it is near enough. -/
theorem key_advances {p : List CodePoint} (h : s.Standing l (quoted p ++ ':' :: ' ' :: flat ls))
    (hl : 0 < l) (hallowed : s.keyAllowed = true) (hfits : Fits l false ls) :
    s.Advances (s.quotedScalar true) (s.pending ++ ((Lexeme.key p).tokens ++
      (ls.flatMap Lexeme.tokens ++ [.streamEnd]))) := by
  have hstanding := h.scanned h.inLine_noted l (quoted p).length (':' :: ' ' :: flat ls) false
    (s.pending ++ [.scalar (points p) false])
  have hshorter : (':' :: ' ' :: flat ls).length < s.cursor.rest.length := by
    rw [h.rest, List.length_append, quoted]
    exact Nat.lt_add_of_pos_left (Nat.succ_pos _)
  have hmem (k : KeyPlace) : (l, k) ∈ s.notedPlaces ↔ k = s.placeHere := by
    rw [notedPlaces, if_pos hallowed, List.mem_cons, Prod.mk.injEq, h.level]
    refine ⟨fun hk => hk.elim And.right fun hk => ?_, fun hk => .inl ⟨rfl, hk⟩⟩
    exact absurd h.level.symm (of_decide_eq_true (List.mem_filter.mp hk).2)
  have hfar : s.cursor.index + (quoted p).length - s.placeHere.index = (quoted p).length :=
    Nat.add_sub_cancel_left ..
  rw [quotedScalar_eq h]
  refine ⟨_, rfl, ?_, hstanding.beyond, .inr hshorter⟩
  rw [Lexeme.tokens, Lexeme.keyMark]
  split
  · next hnear =>
    exact .afterKey hstanding hl hfits rfl ((hmem _).mpr rfl) rfl (hfar.trans_le hnear)
  · next hlong =>
    have hfollows := Follows.afterLongKey hstanding hl hfits fun k hk => by
      rw [(hmem k).mp hk]
      exact Nat.lt_of_lt_of_eq (Nat.lt_of_not_le hlong) hfar.symm
    rw [List.append_assoc] at hfollows
    exact hfollows

theorem plain_advances {w : List Char} (hw : IsWord w) (h : s.Standing l (w ++ flat ls))
    (hnext : ∀ lx ∈ ls.head?, 0 < l ∧ lx.endsWord = true) (hfits : Fits l false ls) :
    s.Advances s.plainScalar (s.pending ++
      .scalar (w.map Char.toNat) true :: (ls.flatMap Lexeme.tokens ++ [.streamEnd])) := by
  have hrest : ∀ ch ∈ (flat ls).head?, s.inFlow = true ∧ ch ∈ Plain.flowIndicators := by
    cases ls with
    | nil => exact fun ch hch => nomatch hch
    | cons lx ls =>
      obtain ⟨hl, hends⟩ := hnext lx rfl
      intro ch hch
      refine ⟨h.inFlow_eq hl, ?_⟩
      cases lx with
      | closeArray | closeObject | comma =>
        obtain rfl := Option.some.inj hch
        decide
      | _ => cases hends
  have hplain : s.plainScalar = .ok { s with
      flowLevel := l, keyAllowed := false, keyPlaces := s.notedPlaces
      pending := s.pending ++ [.scalar (w.map Char.toNat) true]
      cursor := s.cursor.moved w.length (flat ls) } := by
    have hscan := Plain.scan_word hw (s.indent + 1) h.rest hrest
    simp only [inFlow] at hscan
    rw [plainScalar, noteKey_eq h, ← h.level]
    simp only [bind, Except.bind, inFlow, hscan]
    rfl
  rw [hplain]
  refine h.advances 0 h.inLine_noted hfits ?_
  obtain ⟨c, cs, rfl, -⟩ := hw.head
  change (flat ls).length < (c :: cs ++ flat ls).length
  rw [List.length_append]
  exact Nat.lt_add_of_pos_left (Nat.succ_pos _)

/-- The place of a key on a level is found. -/
theorem InLine.lookup_eq (h : InLine places) {p : KeyPlace} (hp : (l, p) ∈ places) :
    places.lookup l = some p := by
  obtain ⟨front, back, rfl⟩ := List.append_of_mem hp
  refine List.lookup_eq_some_iff.mpr ⟨front, back, rfl, fun q hq => ?_⟩
  have hlevels := h.levels
  rw [List.map_append, List.map_cons] at hlevels
  have hne := (List.nodup_append.mp hlevels).2.2 q.1 (List.mem_map_of_mem hq) l List.mem_cons_self
  simpa using hne.symm

/-- The colon after a key puts the mark of the key in front of it. -/
theorem value_advances {front : List Token} {t : Token} {p : KeyPlace}
    (h : s.Standing l (':' :: ' ' :: flat ls)) (hl : 0 < l) (hfits : Fits l false ls)
    (hpending : s.pending = front ++ [t]) (hp : (l, p) ∈ s.keyPlaces)
    (hposition : p.position = s.taken + front.length) : s.Advances s.mappingValue
      (front ++ .key :: t :: .value :: (ls.flatMap Lexeme.tokens ++ [.streamEnd])) := by
  have hlookup : s.keyPlaces.lookup s.flowLevel = some p := by
    rw [h.level]
    exact h.places.lookup_eq hp
  have hflow := h.inFlow_eq hl
  have hplace : p.position - s.taken = front.length := by rw [hposition, Nat.add_sub_cancel_left]
  have hvalue : s.mappingValue = .ok { s with
      flowLevel := l, keyAllowed := false, keyPlaces := s.otherPlaces
      pending := front ++ [.key, t, .value], cursor := s.cursor.moved 1 (' ' :: flat ls) } := by
    rw [mappingValue, hlookup, ← h.level,
      ← Cursor.step_eq_moved h.rest (by decide)]
    simp only [inFlow] at hflow
    simp [emitAt, emit, inFlow, hflow, hplace, hpending, otherPlaces]
  have hadvances := h.advances_pending (n := 1) 1 h.inLine_other hfits (Nat.lt_succ_self _)
    (front ++ [.key, t, .value])
  rw [List.append_assoc] at hadvances
  rw [hvalue]
  exact hadvances

/-- The colon after a key that is too far away is there without one. -/
theorem longValue_advances (h : s.Standing l (':' :: ' ' :: flat ls)) (hl : 0 < l)
    (hfits : Fits l false ls) (hfar : ∀ p, (l, p) ∉ s.keyPlaces) : s.Advances s.mappingValue
      (s.pending ++ .value :: (ls.flatMap Lexeme.tokens ++ [.streamEnd])) := by
  have hlookup : s.keyPlaces.lookup s.flowLevel = none := by
    refine List.lookup_eq_none_iff.mpr fun p hp => ?_
    rw [h.level, bne_iff_ne]
    rintro rfl
    exact hfar p.2 hp
  have hflow := h.inFlow_eq hl
  have hvalue : s.mappingValue = .ok { s with
      flowLevel := l, keyAllowed := false, keyPlaces := s.otherPlaces
      pending := s.pending ++ [.value], cursor := s.cursor.moved 1 (' ' :: flat ls) } := by
    rw [mappingValue, hlookup, ← h.level,
      ← Cursor.step_eq_moved h.rest (by decide)]
    simp [hflow, dropKey_eq h, bind, Except.bind, emit]
    exact hflow
  rw [hvalue]
  exact h.advances 1 h.inLine_other hfits (Nat.lt_succ_self _)

theorem finish_advances (h : s.Standing l []) :
    s.Advances s.finish (s.pending ++ [.streamEnd]) := by
  have hunwind : s.unwind (-1) = s := by
    rw [unwind, h.outer]
    split <;> rfl
  have hfinish : s.finish = .ok { s with
      keyPlaces := s.otherPlaces, keyAllowed := false, pending := s.pending ++ [.streamEnd]
      finished := true } := by
    rw [finish, marker, hunwind, dropKey_eq h]
    rfl
  exact ⟨_, hfinish, .finished rfl, h.beyond, .inl rfl⟩

theorem scan_of_word {w : List Char} (hw : IsWord w) (hrest : s.cursor.rest = w ++ rest) :
    s.scan = s.plainScalar := by
  obtain ⟨c, cs, rfl, hhead⟩ := hw.head
  have hpeek : s.cursor.peek = c := Cursor.peek_eq hrest
  -- The first character is no indicator but a minus, and then no blank follows it.
  have hfirst : c ∉ Scanner.indicators ∧ c ≠ '.' ∨
      c = '-' ∧ isGap (s.cursor.peek 1) = false ∧ s.cursor.peek 1 ≠ '-' := by
    rcases hhead with hc | ⟨rfl, d, ds, rfl, hd⟩
    · refine .inl ⟨(isAlphanum_spec hc).2.2, ?_⟩
      rintro rfl
      exact absurd hc (by decide)
    · obtain ⟨hprintable, hspace, hindicator⟩ := isAlphanum_spec hd
      have hsecond : s.cursor.peek 1 = d := by
        rw [Cursor.peek, hrest]
        rfl
      rw [hsecond]
      refine .inr ⟨rfl, isGap_eq_false hprintable hspace, ?_⟩
      rintro rfl
      exact absurd hd (by decide)
  obtain ⟨hprintable, hspace, -⟩ := wordChar_spec (hw.chars c List.mem_cons_self)
  have hend : c ≠ '\x00' := by
    rintro rfl
    exact absurd hprintable.1 (by decide)
  have hbegins : s.beginsPlain = true := by
    rw [beginsPlain, hpeek]
    rcases hfirst with ⟨h, -⟩ | ⟨rfl, hgap, -⟩
    · simp [isGap_eq_false hprintable hspace, h]
    · simp [hgap]
  rw [scan, hpeek]
  dsimp only
  split
  · exact absurd rfl hend
  · rcases hfirst with ⟨h, hpoint⟩ | ⟨rfl, hgap, hsecond⟩
    · simp only [indicators_eq, List.mem_cons, List.not_mem_nil, or_false, not_or] at h
      simp [h, hbegins, Cursor.isMark, hpeek, hpoint]
    · simp [hbegins, Cursor.isMark, hpeek, hgap, hsecond]

/-- What begins at the place of a part is read. -/
theorem scan_advances (h : s.Standing l (flat ls)) (hfits : Fits l s.keyAllowed ls) :
    s.Advances s.scan (s.pending ++ (ls.flatMap Lexeme.tokens ++ [.streamEnd])) := by
  cases ls with
  | nil =>
    have hscan : s.scan = s.finish := by
      have hpeek : s.cursor.peek = '\x00' := by
        rw [Cursor.peek, h.rest]
        rfl
      rw [scan, hpeek]
      rfl
    rw [hscan]
    exact finish_advances h
  | cons lx ls =>
    obtain ⟨hstand, hnext⟩ := hfits
    cases lx with
    | openArray =>
      have hscan : s.scan = s.openFlow .flowSequenceStart := by
        simp [scan, Cursor.peek_eq (h.rest.trans rfl), Cursor.isMark]
      rw [hscan]
      exact openFlow_advances h (by decide) hnext _
    | openObject =>
      have hscan : s.scan = s.openFlow .flowMappingStart := by
        simp [scan, Cursor.peek_eq (h.rest.trans rfl), Cursor.isMark]
      rw [hscan]
      exact openFlow_advances h (by decide) hnext _
    | closeArray =>
      have hscan : s.scan = s.closeFlow .flowSequenceEnd := by
        simp [scan, Cursor.peek_eq (h.rest.trans rfl), Cursor.isMark]
      rw [hscan]
      exact closeFlow_advances h (by decide) hnext _
    | closeObject =>
      have hscan : s.scan = s.closeFlow .flowMappingEnd := by
        simp [scan, Cursor.peek_eq (h.rest.trans rfl), Cursor.isMark]
      rw [hscan]
      exact closeFlow_advances h (by decide) hnext _
    | comma =>
      have hscan : s.scan = s.flowEntry := by
        simp [scan, Cursor.peek_eq (h.rest.trans rfl), Cursor.isMark]
      rw [hscan]
      exact flowEntry_advances h hnext
    | key p =>
      have hrest : flat (.key p :: ls) = quoted p ++ ':' :: ' ' :: flat ls := by
        simp [flat, Lexeme.written]
      rw [hrest] at h
      have hscan : s.scan = s.quotedScalar true := by
        simp [scan, Cursor.peek_eq (h.rest.trans rfl), Cursor.isMark]
      rw [hscan, List.flatMap_cons, List.append_assoc]
      exact key_advances h hstand.2 hstand.1 hnext
    | text p =>
      have hscan : s.scan = s.quotedScalar true := by
        simp [scan, Cursor.peek_eq (h.rest.trans rfl), Cursor.isMark]
      rw [hscan]
      exact text_advances h hnext
    | plain w =>
      rw [scan_of_word hstand.1 h.rest]
      exact plain_advances hstand.1 h hstand.2 hnext

end Scan

/-! ### Reading ahead -/

/-- The spaces before the next part are passed. -/
theorem skipGap_eq {k : Nat} (h : s.Standing l (List.replicate k ' ' ++ rest))
    (hrest : ∀ ch ∈ rest.head?, IsPrintable ch ∧ ch ≠ ' ' ∧ ch ≠ '#') (n : Nat) :
    s.skipGap (n + 1) = s.moveTo (s.cursor.moved k rest) := by
  have hspace : ∀ ch ∈ List.replicate k ' ', decide (ch = ' ') = true := by
    simp +contextual [List.mem_replicate]
  have hspaces : s.cursor.skipSpaces = s.cursor.moved k rest := by
    have hskip := Cursor.skip_eq h.rest hspace (fun ch hch => by simp [(hrest ch hch).2.1])
      (Flow.isPrintable_replicate k)
    rwa [List.length_replicate] at hskip
  have hcomment : (s.cursor.moved k rest).skipComment = s.cursor.moved k rest := by
    rw [Cursor.skipComment, if_neg]
    intro hpeek
    cases rest with
    | nil => cases hpeek
    | cons ch rest => exact (hrest ch rfl).2.2 hpeek
  have hbreak : (s.cursor.moved k rest).lineBreak? = none :=
    Cursor.lineBreak?_eq_none fun ch hch => isBreak_eq_false (hrest ch hch).1
  rw [skipGap]
  simp only [hspaces, hcomment, hbreak]

theorem flat_head {ls : List Lexeme} {allowed : Bool} (hfits : Fits l allowed ls) :
    ∀ ch ∈ (flat ls).head?, IsPrintable ch ∧ ch ≠ ' ' ∧ ch ≠ '#' := by
  cases ls with
  | nil => exact fun ch hch => nomatch hch
  | cons lx ls =>
    intro ch hch
    cases lx with
    | plain w =>
      obtain ⟨c, cs, rfl, hhead⟩ := hfits.1.1.head
      obtain rfl : c = ch := Option.some.inj hch
      obtain ⟨hprintable, hspace, -⟩ := wordChar_spec (hfits.1.1.chars c List.mem_cons_self)
      refine ⟨hprintable, hspace, ?_⟩
      rintro rfl
      rcases hhead with h | ⟨h, -⟩
      · exact absurd h (by decide)
      · exact absurd h (by decide)
    | _ =>
      obtain rfl := Option.some.inj hch
      decide

theorem Standing.moved {k : Nat} (h : s.Standing l (List.replicate k ' ' ++ rest)) :
    (s.moveTo (s.cursor.moved k rest)).Standing l rest where
  rest := rfl
  beyond := h.beyond
  line := h.line
  level := h.level
  indent := h.indent
  outer := h.outer
  running := h.running
  places := h.places

theorem require_eq {c : Cursor} (h : c.beyond = none) : c.require = .ok () := by
  rw [Cursor.require, h]
  split
  · next h => cases h
  · rfl

/-- The next token is what begins after the spaces. -/
theorem next_advances {k : Nat} (h : s.Standing l (List.replicate k ' ' ++ rest))
    (hrest : ∀ ch ∈ rest.head?, IsPrintable ch ∧ ch ≠ ' ' ∧ ch ≠ '#')
    (hscan : (s.moveTo (s.cursor.moved k rest)).fresh.Advances
      (s.moveTo (s.cursor.moved k rest)).fresh.scan ts) : s.Advances s.next ts := by
  obtain ⟨s', hs', hfollows, hbeyond, hshorter⟩ := hscan
  have hmoved := h.moved
  have hnext : s.next = .ok s' := by
    have hunwind (c : Int) : (s.moveTo (s.cursor.moved k rest)).fresh.unwind c =
        (s.moveTo (s.cursor.moved k rest)).fresh := by
      rw [unwind, hmoved.fresh.outer]
      split <;> rfl
    rw [next, skipGap_eq h hrest]
    simp only [bind, Except.bind, require_eq hmoved.beyond, dropStale_eq hmoved, hunwind, hs',
      require_eq hbeyond]
  refine ⟨s', hnext, hfollows, hbeyond, hshorter.imp_right fun hlt => hlt.trans_le ?_⟩
  rw [h.rest, List.length_append]
  exact Nat.le_add_left ..

theorem scan_colon (h : s.Standing l (':' :: rest)) (hl : 0 < l) : s.scan = s.mappingValue := by
  simp [scan, Cursor.peek_eq h.rest, Cursor.isMark, h.inFlow_eq hl]

/-- Reading on changes nothing that is still to come. -/
theorem Follows.next (h : Follows s ts) (hrunning : s.finished = false) :
    s.Advances s.next ts := by
  have hcolon {rest : List Char} :
      ∀ ch ∈ (':' :: rest).head?, IsPrintable ch ∧ ch ≠ ' ' ∧ ch ≠ '#' := by
    intro ch hch
    obtain rfl := Option.some.inj hch
    decide
  cases h with
  | before h hfits =>
    exact next_advances h (flat_head hfits) (scan_advances h.moved.fresh hfits)
  | afterKey h hl hfits hpending hp hposition hnear =>
    have hfresh := (Standing.moved (k := 0) h).fresh
    refine next_advances (k := 0) h hcolon ?_
    rw [scan_colon hfresh hl]
    exact value_advances hfresh hl hfits hpending (List.mem_filter.mpr ⟨hp, decide_eq_true hnear⟩)
      hposition
  | afterLongKey h hl hfits hfar =>
    have hfresh := (Standing.moved (k := 0) h).fresh
    refine next_advances (k := 0) h hcolon ?_
    rw [scan_colon hfresh hl]
    refine longValue_advances hfresh hl hfits fun p hp => ?_
    obtain ⟨hmem, hnear⟩ := List.mem_filter.mp hp
    exact absurd (of_decide_eq_true hnear) (Nat.not_le.mpr (hfar p hmem))
  | finished h =>
    rw [hrunning] at h
    cases h

/-! ### Peeking and taking -/

/-- The first pending token cannot have anything put in front of it any more. -/
def Ready (s : Scanner) : Prop :=
  s.finished = true ∨ s.pending ≠ [] ∧ s.dropStale = .ok s ∧ s.awaitsKey = false

theorem Ready.prepare_eq (h : s.Ready) (n : Nat) : s.prepare n = .ok s := by
  cases n with
  | zero => rfl
  | succ n =>
    rw [prepare]
    rcases h with hfinished | ⟨hpending, hstale, hawaits⟩
    · simp [hfinished]
    · cases hfinished : s.finished <;> simp [hpending, hstale, hawaits, bind, Except.bind]

/-- How much there is to read at most. -/
def left (s : Scanner) : Nat := if s.finished then 0 else s.cursor.rest.length + 1

/-- Reading ahead ends with a token that is ready, and changes nothing that is still to come. -/
theorem Follows.prepare (h : Follows s ts) {n : Nat} (hn : s.left < n) :
    ∃ s', s.prepare n = .ok s' ∧ Follows s' ts ∧ s'.Ready := by
  induction n generalizing s with
  | zero => exact absurd hn (Nat.not_lt_zero _)
  | succ n ih =>
    -- Reading one more token leaves less to read.
    have hnext {s : Scanner} (h : Follows s ts) (hrunning : s.finished = false)
        (hn : s.left < n + 1) :
        ∃ s', (s.next >>= fun s => s.prepare n) = .ok s' ∧ Follows s' ts ∧ s'.Ready := by
      obtain ⟨s', hs', hfollows, -, hshorter⟩ := h.next hrunning
      rw [hs']
      refine ih hfollows (Nat.lt_of_lt_of_le ?_ (Nat.le_of_lt_succ hn))
      rw [left, left, hrunning]
      rcases hshorter with hfinished | hlt
      · rw [if_pos hfinished]
        exact Nat.succ_pos _
      · split
        · exact Nat.succ_pos _
        · exact Nat.succ_lt_succ hlt
    cases hfinished : s.finished with
    | true =>
      have hready : s.Ready := .inl hfinished
      exact ⟨s, hready.prepare_eq _, h, hready⟩
    | false =>
      rw [Scanner.prepare, hfinished, if_neg Bool.false_ne_true]
      by_cases hpending : s.pending = []
      · rw [if_pos hpending]
        exact hnext h hfinished hn
      · obtain ⟨hstale, hfresh⟩ := h.dropStale hfinished
        rw [if_neg hpending, hstale]
        change ∃ s', (if s.fresh.awaitsKey then _ else _) = _ ∧ _
        split
        · exact hnext hfresh hfinished hn
        · next hawaits =>
          have hsettled : s.fresh.dropStale = .ok s.fresh := by
            rw [(hfresh.dropStale hfinished).1, fresh_fresh]
          exact ⟨s.fresh, rfl, hfresh, .inr ⟨hpending, hsettled, by simpa using hawaits⟩⟩

/-- A token that is ready is the next one, and taking it leaves those after it. -/
theorem Follows.skip {t : Token} (h : Follows s (t :: ts)) (hready : s.Ready) :
    s.pending.headD .streamEnd = t ∧ Follows s.skip ts := by
  generalize hus : t :: ts = us at h
  -- A scanner that goes on reading has a pending token.
  have hpending {l : Nat} {rest : List Char} (hstanding : s.Standing l rest) :
      ∃ x xs, s.pending = x :: xs ∧ s.awaitsKey = false := by
    rcases hready with hfinished | ⟨hne, -, hawaits⟩
    · rw [hstanding.running] at hfinished
      cases hfinished
    · obtain ⟨x, xs, hcons⟩ := List.exists_cons_of_ne_nil hne
      exact ⟨x, xs, hcons, hawaits⟩
  have hskip {x : Token} {xs : List Token} (hcons : s.pending = x :: xs) : s.skip.pending = xs := by
    rw [Scanner.skip, hcons]
    rfl
  have htaken {l : Nat} {rest : List Char} {later : List Token} (hstanding : s.Standing l rest)
      (hus : t :: ts = s.pending ++ later) :
      s.pending.headD .streamEnd = t ∧ ts = s.skip.pending ++ later := by
    obtain ⟨x, xs, hcons, -⟩ := hpending hstanding
    rw [hcons] at hus
    obtain ⟨rfl, rfl⟩ := List.cons.inj hus
    rw [hskip hcons, hcons]
    exact ⟨rfl, rfl⟩
  have hstand {l : Nat} {rest : List Char} (h : s.Standing l rest) : s.skip.Standing l rest :=
    ⟨h.rest, h.beyond, h.line, h.level, h.indent, h.outer, h.running, h.places⟩
  cases h with
  | before h hfits =>
    obtain ⟨hhead, rfl⟩ := htaken h hus
    exact ⟨hhead, .before (hstand h) hfits⟩
  | @afterKey l ls front u p h hl hfits hfront hp hposition hnear =>
    obtain ⟨x, xs, hcons, hawaits⟩ := hpending h
    cases front with
    | nil =>
      -- The mark of the key is still to come before the pending token.
      have hblocked : s.awaitsKey = true :=
        List.any_eq_true.mpr ⟨_, hp, decide_eq_true hposition⟩
      rw [hblocked] at hawaits
      cases hawaits
    | cons y front =>
      obtain ⟨rfl, rfl⟩ := List.cons.inj hus
      refine ⟨by rw [hfront]; rfl, .afterKey (hstand h) hl hfits (hskip hfront) hp ?_ hnear⟩
      rw [hposition, List.length_cons]
      change _ = s.taken + 1 + front.length
      omega
  | afterLongKey h hl hfits hfar =>
    obtain ⟨hhead, rfl⟩ := htaken h hus
    exact ⟨hhead, .afterLongKey (hstand h) hl hfits hfar⟩
  | finished h =>
    refine ⟨by rw [← hus]; rfl, ?_⟩
    have hnext := Follows.finished (s := s.skip) h
    rwa [hskip hus.symm] at hnext

/-- A scanner gives some tokens, one after the other: to look at the next one changes nothing
about it. -/
def Gives : Scanner → List Token → Prop
  | _, [] => True
  | s, t :: ts => ∃ s', s.peek = .ok (t, s') ∧ s'.peek = .ok (t, s') ∧ Gives s'.skip ts

/-- What is still to come is given. -/
theorem Follows.gives (h : Follows s ts) : s.Gives ts := by
  induction ts generalizing s with
  | nil => trivial
  | cons t ts ih =>
    have hleft : s.left < s.cursor.rest.length + 2 := by
      rw [left]
      split <;> omega
    obtain ⟨s', hs', hfollows, hready⟩ := h.prepare hleft
    obtain ⟨rfl, hskip⟩ := hfollows.skip hready
    refine ⟨s', ?_, ?_, ih hskip⟩
    · rw [peek, hs']
      rfl
    · rw [peek, hready.prepare_eq]
      rfl

end Scanner

end Yaml

end Conformance
