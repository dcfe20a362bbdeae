import Conformance.Yaml.Node

/-!
# What reading a text can end with

Reading the nodes of a text gives nodes or ends with a fault. What a place fails with is known
from the source alone, since moving on in a text changes neither what ends it nor what is said
there: a cursor keeps its `beyond` wherever it goes. So the faults of reading are that the text is
not well-formed, whatever the source itself is broken off with, and the one thing that is looked
at besides the form of a text, the number of a character written by its digits.

## Main definitions

* `Yields` — what a computation gives, and the faults it can end with.
* `Fault.OfReading` — the faults of reading a source.

## Main results

* `readNodes_yields` — a source gives nodes or ends with one of these faults.
-/

namespace Conformance.Yaml

/-- The computation gives a result with a property, or ends with a fault of a kind. -/
inductive Yields {α : Type} (F : Fault → Prop) (Q : α → Prop) : Except Fault α → Prop
  | ok {a : α} (h : Q a) : Yields F Q (.ok a)
  | error {f : Fault} (h : F f) : Yields F Q (.error f)

namespace Yields

variable {α β : Type} {F : Fault → Prop} {Q R : α → Prop} {x : Except Fault α}

theorem mono (h : Yields F Q x) (hQR : ∀ a, Q a → R a) : Yields F R x := by
  cases h with
  | ok h => exact .ok (hQR _ h)
  | error h => exact .error h

theorem bind {f : α → Except Fault β} {S : β → Prop} (h : Yields F Q x)
    (hf : ∀ a, Q a → Yields F S (f a)) : Yields F S (x >>= f) := by
  cases h with
  | ok h => exact hf _ h
  | error h => exact .error h

theorem ite {p : Prop} [Decidable p] {y : Except Fault α} (hx : Yields F Q x)
    (hy : Yields F Q y) : Yields F Q (if p then x else y) := by
  split
  · exact hx
  · exact hy

end Yields

/-- A fault that reading can end with where the source is broken off as given. -/
inductive Fault.OfReading (beyond : Option Fault) : Fault → Prop
  | beyond {f : Fault} (h : beyond = some f) : OfReading beyond f
  | malformed : OfReading beyond .malformed
  /-- A character written by a number that is too large. -/
  | number {m : Misuse} (h : m = .overflow ∨ m = .wrongValue) : OfReading beyond (.misuse m)

/-! ### Places -/

namespace Cursor

variable (c : Cursor) {b : Option Fault}

@[simp] theorem beyond_step : c.step.beyond = c.beyond := by
  rw [step]
  split
  · rfl
  · dsimp only
    split
    · rfl
    · split <;> rfl

@[simp] theorem beyond_advance (n : Nat) : (c.advance n).beyond = c.beyond := by
  induction n generalizing c with
  | zero => rfl
  | succ n ih => rw [advance, ih, beyond_step]

@[simp] theorem beyond_skip (p : Char → Bool) : (c.skip p).beyond = c.beyond := beyond_advance ..

@[simp] theorem beyond_skipSpaces : c.skipSpaces.beyond = c.beyond := beyond_skip ..

@[simp] theorem beyond_skipComment : c.skipComment.beyond = c.beyond := by
  rw [skipComment]
  split
  · exact beyond_skip ..
  · rfl

theorem beyond_of_lineBreak? {c c' : Cursor} {ch : Char} (h : c.lineBreak? = some (ch, c')) :
    c'.beyond = c.beyond := by
  simp only [lineBreak?] at h
  split at h
  · cases h; exact beyond_advance ..
  · split at h
    · cases h; exact beyond_step ..
    · split at h
      · cases h; exact beyond_step ..
      · cases h

@[simp] theorem beyond_lineBreak : c.lineBreak.2.beyond = c.beyond := by
  rw [lineBreak]
  split
  · next h => exact beyond_of_lineBreak? h
  · rfl

@[simp] theorem beyond_start (s : Source) : (start s).beyond = s.beyond := by
  rw [start]
  split
  · split <;> rfl
  · rfl

variable {c}

theorem refuse_yields {α : Type} {Q : α → Prop} (hc : c.beyond = b) :
    Yields (Fault.OfReading b) Q c.refuse := by
  refine .error ?_
  rw [refusal]
  split
  · next f _ hf => exact .beyond (hc ▸ hf)
  · exact .malformed

theorem require_yields (hc : c.beyond = b) :
    Yields (Fault.OfReading b) (fun _ => True) c.require := by
  rw [require]
  split
  · next f _ hf => exact .error (.beyond (hc ▸ hf))
  · exact .ok trivial

theorem expect_yields (hc : c.beyond = b) (ch : Char) :
    Yields (Fault.OfReading b) (·.beyond = b) (c.expect ch) := by
  rw [expect]
  split
  · exact .ok (by simpa using hc)
  · exact refuse_yields hc

theorem finishLine_yields (hc : c.beyond = b) :
    Yields (Fault.OfReading b) (·.beyond = b) c.finishLine := by
  simp only [finishLine]
  split
  · exact .ok (by simpa using hc)
  · exact refuse_yields (by simpa using hc)

end Cursor

variable {b : Option Fault} {c : Cursor}

/-! ### Scalars -/

namespace Plain

theorem beyond_emptyLines (c : Cursor) (breaks : List Char) (n : Nat) :
    (emptyLines c breaks n).2.beyond = c.beyond := by
  induction n generalizing c breaks with
  | zero => rfl
  | succ n ih =>
    rw [emptyLines]
    split
    · rw [ih, Cursor.beyond_step]
    · split
      · rfl
      · next h =>
        have hnext := Cursor.beyond_of_lineBreak? h
        split
        · exact hnext
        · rw [ih, hnext]

theorem beyond_between (c : Cursor) : (between c).cursor.beyond = c.beyond := by
  simp only [between]
  split
  · exact Cursor.beyond_skipSpaces c
  · next ch c' h =>
    have hnext : c'.beyond = c.beyond := by simpa using Cursor.beyond_of_lineBreak? h
    split
    · exact hnext
    · have hlines := beyond_emptyLines c' [] c'.rest.length
      split <;> next heq => rw [heq] at hlines; exact hlines.trans hnext

theorem beyond_scanFrom (inFlow : Bool) (indent : Int) (text gap : List Char) (broke : Bool)
    (c : Cursor) (n : Nat) :
    (scanFrom inFlow indent text gap broke c n).2.2.beyond = c.beyond := by
  induction n generalizing text gap broke c with
  | zero => rfl
  | succ n ih =>
    simp only [scanFrom]
    split
    · rfl
    · split
      · rfl
      · split
        · simp [beyond_between]
        · rw [ih]
          simp [beyond_between]

theorem beyond_scan (inFlow : Bool) (indent : Int) (c : Cursor) :
    (scan inFlow indent c).2.2.beyond = c.beyond := beyond_scanFrom ..

end Plain

namespace Flow

theorem escapeNumber_yields (hc : c.beyond = b) (width : Nat) :
    Yields (Fault.OfReading b) (·.2.beyond = b) (escapeNumber width c) := by
  simp only [escapeNumber]
  split
  · exact .ok (by simpa using hc)
  · exact Cursor.refuse_yields (by simpa using hc)

theorem codePoint_yields (n : Nat) :
    Yields (Fault.OfReading b) (fun _ => True) (codePoint n) := by
  rw [codePoint]
  split
  · exact .error (.number (.inl rfl))
  · split
    · exact .error (.number (.inr rfl))
    · exact .ok trivial

theorem breaks_yields (hc : c.beyond = b) (text : List Char) (n : Nat) :
    Yields (Fault.OfReading b) (·.2.beyond = b) (breaks c text n) := by
  induction n generalizing c text with
  | zero => exact .ok hc
  | succ n ih =>
    simp only [breaks]
    split
    · exact Cursor.refuse_yields hc
    · split
      · exact .ok (by simpa using hc)
      · next h => exact ih (by simpa [hc] using Cursor.beyond_of_lineBreak? h) _

theorem spaces_yields (hc : c.beyond = b) :
    Yields (Fault.OfReading b) (·.2.beyond = b) (spaces c) := by
  simp only [spaces]
  split
  · exact Cursor.refuse_yields (by simpa using hc)
  · split
    · exact .ok (by simpa using hc)
    · next h =>
      refine (breaks_yields (by simpa [hc] using Cursor.beyond_of_lineBreak? h) _ _).bind ?_
      rintro ⟨more, c'⟩ hc'
      exact .ok hc'

theorem escape_yields (hc : c.beyond = b) :
    Yields (Fault.OfReading b) (·.2.beyond = b) (escape c) := by
  simp only [escape]
  split
  · exact .ok (by simpa using hc)
  · refine (escapeNumber_yields (by simpa using hc) _).bind ?_
    rintro ⟨n, c'⟩ hc'
    exact (codePoint_yields n).bind fun _ _ => .ok hc'
  · split
    · next h =>
      refine (breaks_yields (by simpa [hc] using Cursor.beyond_of_lineBreak? h) _ _).bind ?_
      rintro ⟨text, c'⟩ hc'
      exact .ok hc'
    · exact Cursor.refuse_yields hc

theorem nonSpaces_yields (double : Bool) (hc : c.beyond = b) (text : List Nat) (n : Nat) :
    Yields (Fault.OfReading b) (·.2.beyond = b) (nonSpaces double c text n) := by
  induction n generalizing c text with
  | zero => exact .ok hc
  | succ n ih =>
    simp only [nonSpaces]
    split
    · exact ih (by simpa using hc) _
    · split
      · exact ih (by simpa using hc) _
      · split
        · refine (escape_yields (by simpa using hc)).bind ?_
          rintro ⟨r, c'⟩ hc'
          exact ih hc' _
        · exact .ok (by simpa using hc)

theorem scanFrom_yields (double : Bool) (hc : c.beyond = b) (text : List Nat) (n : Nat) :
    Yields (Fault.OfReading b) (·.2.beyond = b) (scanFrom double c text n) := by
  induction n generalizing c text with
  | zero => exact .error .malformed
  | succ n ih =>
    refine (nonSpaces_yields double hc text _).bind ?_
    rintro ⟨text', c'⟩ hc'
    refine .ite (.ok (by simpa using hc')) ((spaces_yields hc').bind ?_)
    rintro ⟨gap, c''⟩ hc''
    exact ih hc'' _

end Flow

namespace Block

theorem increment?_yields (hc : c.beyond = b) :
    Yields (Fault.OfReading b) (fun _ => True) (increment? c) := by
  rw [increment?]
  split
  · exact Cursor.refuse_yields hc
  · split <;> exact .ok trivial

theorem indicators_yields (hc : c.beyond = b) :
    Yields (Fault.OfReading b) (·.2.2.beyond = b) (indicators c) := by
  have hlast (chomping : Chomping) (increment : Option Nat) {c' : Cursor} (hc' : c'.beyond = b) :
      Yields (Fault.OfReading b) (·.2.2.beyond = b)
        (if endsWord c'.peek then .ok (chomping, increment, c') else c'.refuse) :=
    .ite (.ok hc') (Cursor.refuse_yields hc')
  rw [indicators]
  split
  · refine (increment?_yields (by simpa using hc)).bind fun i _ => ?_
    cases i <;> exact hlast _ _ (by simpa using hc)
  · refine (increment?_yields hc).bind fun i _ => ?_
    cases i with
    | none => exact hlast _ _ hc
    | some i =>
      dsimp only
      split <;> exact hlast _ _ (by simpa using hc)

theorem beyond_leadingLines (c : Cursor) (text : List Char) (widest n : Nat) :
    (leadingLines c text widest n).2.2.beyond = c.beyond := by
  induction n generalizing c text widest with
  | zero => rfl
  | succ n ih =>
    rw [leadingLines]
    split
    · rw [ih, Cursor.beyond_step]
    · split
      · rfl
      · next h => rw [ih, Cursor.beyond_of_lineBreak? h]

@[simp] theorem beyond_skipIndent (indent : Nat) (c : Cursor) :
    (skipIndent indent c).beyond = c.beyond := Cursor.beyond_advance ..

theorem beyond_emptyLines (indent : Nat) (c : Cursor) (text : List Char) (n : Nat) :
    (emptyLines indent c text n).2.beyond = c.beyond := by
  induction n generalizing c text with
  | zero => rfl
  | succ n ih =>
    simp only [emptyLines]
    split
    · exact beyond_skipIndent ..
    · next h => rw [ih, Cursor.beyond_of_lineBreak? h, beyond_skipIndent]

theorem beyond_lines (folded : Bool) (indent : Nat) (c : Cursor) (text last empties : List Char)
    (n : Nat) : (lines folded indent c text last empties n).2.2.2.beyond = c.beyond := by
  induction n generalizing c text last empties with
  | zero => rfl
  | succ n ih =>
    rw [lines]
    split
    · dsimp only
      split
      · rw [ih, beyond_emptyLines, Cursor.beyond_lineBreak, Cursor.beyond_advance]
      · simp [beyond_emptyLines]
    · rfl

theorem scan_yields (folded : Bool) (indent : Int) (hc : c.beyond = b) :
    Yields (Fault.OfReading b) (·.2.beyond = b) (scan folded indent c) := by
  rw [scan]
  refine (indicators_yields (by simpa using hc)).bind ?_
  rintro ⟨chomping, increment, c'⟩ hc'
  refine (Cursor.finishLine_yields hc').bind fun c'' hc'' => ?_
  cases increment with
  | none =>
    dsimp only
    exact .ok ((beyond_lines ..).trans ((beyond_leadingLines ..).trans hc''))
  | some i =>
    dsimp only
    exact .ok ((beyond_lines ..).trans ((beyond_emptyLines ..).trans hc''))

end Block

/-! ### Names, tags and directives -/

theorem name_yields (hc : c.beyond = b) :
    Yields (Fault.OfReading b) (·.2.beyond = b) (name c) := by
  simp only [name]
  exact .ite (Cursor.refuse_yields hc) (.ok (by simpa using hc))

theorem anchorName_yields (hc : c.beyond = b) :
    Yields (Fault.OfReading b) (·.2.beyond = b) (anchorName c) := by
  rw [anchorName]
  refine (name_yields hc).bind ?_
  rintro ⟨s, c'⟩ hc'
  exact .ite (.ok hc') (Cursor.refuse_yields hc')

theorem tagHandle_yields (hc : c.beyond = b) :
    Yields (Fault.OfReading b) (·.2.beyond = b) (tagHandle c) := by
  rw [tagHandle]
  refine (Cursor.expect_yields hc _).bind fun c' hc' => .ite (.ok hc') ?_
  exact (Cursor.expect_yields (by simpa using hc') _).bind fun c'' hc'' => .ok hc''

theorem escapedBytes_yields (hc : c.beyond = b) (bytes : List UInt8) (n : Nat) :
    Yields (Fault.OfReading b) (·.2.beyond = b) (escapedBytes c bytes n) := by
  induction n generalizing c bytes with
  | zero => exact .ok hc
  | succ n ih =>
    rw [escapedBytes]
    refine .ite ((Flow.escapeNumber_yields (by simpa using hc) _).bind ?_) (.ok hc)
    rintro ⟨x, c'⟩ hc'
    exact ih hc' _

theorem tagCharsFrom_yields (hc : c.beyond = b) (text : List Char) (n : Nat) :
    Yields (Fault.OfReading b) (·.2.beyond = b) (tagCharsFrom c text n) := by
  induction n generalizing c text with
  | zero => exact .ok hc
  | succ n ih =>
    have hc' : (c.advance (c.run isTagChar).length).beyond = b := by simpa using hc
    rw [tagCharsFrom]
    refine .ite ((escapedBytes_yields hc' _ _).bind ?_) (.ok hc')
    rintro ⟨bytes, c''⟩ hc''
    dsimp only
    split
    · exact ih hc'' _
    · exact .error .malformed

theorem tagChars_yields (hc : c.beyond = b) :
    Yields (Fault.OfReading b) (·.2.beyond = b) (tagChars c) := by
  rw [tagChars]
  refine .ite (Cursor.refuse_yields hc) ((tagCharsFrom_yields hc _ _).bind ?_)
  rintro ⟨text, c'⟩ hc'
  exact .ok hc'

/-- A tag ends at the end of a word. -/
theorem tagEnd_yields (hc : c.beyond = b) (tag : WrittenTag) :
    Yields (Fault.OfReading b) (·.2.beyond = b)
      (if endsWord c.peek then .ok (tag, c) else c.refuse) :=
  .ite (.ok hc) (Cursor.refuse_yields hc)

/-- What follows the handle of a tag. -/
theorem tagSuffix_yields (hc : c.beyond = b) (handle : String) :
    Yields (Fault.OfReading b) (·.2.beyond = b) (do
      let (s, c) ← tagChars c
      if endsWord c.peek then .ok (WrittenTag.mk (some handle) s, c) else c.refuse) := by
  refine (tagChars_yields hc).bind ?_
  rintro ⟨s, c'⟩ hc'
  exact tagEnd_yields hc' _

theorem writtenTag_yields (hc : c.beyond = b) :
    Yields (Fault.OfReading b) (·.2.beyond = b) (writtenTag c) := by
  rw [writtenTag]
  refine .ite ((tagChars_yields (by simpa using hc)).bind ?_)
    (.ite (tagEnd_yields (by simpa using hc) _) ?_)
  · rintro ⟨s, c'⟩ hc'
    exact (Cursor.expect_yields hc' _).bind fun c'' hc'' => tagEnd_yields hc'' _
  · refine .ite ((tagHandle_yields hc).bind ?_) (tagSuffix_yields (by simpa using hc) _)
    rintro ⟨handle, c'⟩ hc'
    exact tagSuffix_yields hc' handle

theorem number_yields (hc : c.beyond = b) :
    Yields (Fault.OfReading b) (·.2.beyond = b) (number c) := by
  simp only [number]
  exact .ite (Cursor.refuse_yields hc) (.ok (by simpa using hc))

theorem directive_yields (hc : c.beyond = b) :
    Yields (Fault.OfReading b) (·.2.beyond = b) (directive c) := by
  have hlast {x : Except Fault (Directive × Cursor)}
      (hx : Yields (Fault.OfReading b) (·.2.beyond = b) x) :
      Yields (Fault.OfReading b) (fun r : Directive × Cursor => r.2.beyond = b) (do
        let r ← x
        let c ← r.2.finishLine
        .ok (r.1, c)) :=
    hx.bind fun r hr => (Cursor.finishLine_yields hr).bind fun c hc => .ok hc
  rw [directive]
  refine (name_yields hc).bind ?_
  rintro ⟨word, c'⟩ hc'
  dsimp only at hc' ⊢
  refine .ite (Cursor.refuse_yields hc') (.ite ?_ (.ite ?_ ?_))
  · refine (number_yields (by simpa using hc')).bind fun major hmajor => ?_
    refine (Cursor.expect_yields hmajor _).bind fun c₁ hc₁ => ?_
    refine (number_yields hc₁).bind fun minor hminor => ?_
    exact .ite (hlast (.ok hminor)) (hlast (Cursor.refuse_yields hminor))
  · refine (tagHandle_yields (by simpa using hc')).bind fun handle hhandle => ?_
    refine .ite (hlast (Cursor.refuse_yields hhandle)) ?_
    refine (tagChars_yields (by simpa using hhandle)).bind fun meaning hmeaning => ?_
    exact .ite (hlast (.ok hmeaning)) (hlast (Cursor.refuse_yields hmeaning))
  · exact hlast (.ok (by simpa using hc'))

/-! ### Tokens -/

namespace Scanner

variable {s : Scanner}

/-- Scanning goes on within the source, or ends with a fault of reading it. -/
abbrev Stays (b : Option Fault) : Except Fault Scanner → Prop :=
  Yields (Fault.OfReading b) (·.cursor.beyond = b)

theorem dropStale_stays (hs : s.cursor.beyond = b) : Stays b s.dropStale :=
  .ite (.error .malformed) (.ok hs)

theorem dropKey_stays (hs : s.cursor.beyond = b) : Stays b s.dropKey := by
  rw [dropKey]
  split
  · exact .ok hs
  · exact .ite (.error .malformed) (.ok hs)

theorem noteKey_stays (hs : s.cursor.beyond = b) : Stays b s.noteKey :=
  .ite ((dropKey_stays hs).bind fun _ hs' => .ok hs') (.ok hs)

theorem cursor_unwindTo (s : Scanner) (column : Int) (outer : List Int) :
    (s.unwindTo column outer).cursor = s.cursor := by
  induction outer generalizing s with
  | nil => rfl
  | cons o outer ih =>
    rw [unwindTo]
    split
    · rw [ih]; rfl
    · rfl

@[simp] theorem cursor_unwind (s : Scanner) (column : Int) :
    (s.unwind column).cursor = s.cursor := by
  rw [unwind]
  split
  · rfl
  · exact cursor_unwindTo ..

@[simp] theorem cursor_openAt (s : Scanner) (column position : Nat) (t : Token) :
    (s.openAt column position t).cursor = s.cursor := by
  rw [openAt]
  split <;> rfl

theorem beyond_skipGap (s : Scanner) (n : Nat) :
    (s.skipGap n).cursor.beyond = s.cursor.beyond := by
  induction n generalizing s with
  | zero => rfl
  | succ n ih =>
    simp only [skipGap]
    split
    · simp [moveTo]
    · next h =>
      rw [ih]
      simpa using Cursor.beyond_of_lineBreak? h

theorem marker_stays (hs : s.cursor.beyond = b) (t : Token) (width : Nat) :
    Stays b (s.marker t width) := by
  rw [marker]
  refine (dropKey_stays (by simpa using hs)).bind fun s' hs' => .ok ?_
  simpa [emit] using hs'

theorem finish_stays (hs : s.cursor.beyond = b) : Stays b s.finish :=
  (marker_stays hs _ _).bind fun _ hs' => .ok hs'

theorem scanDirective_stays (hs : s.cursor.beyond = b) : Stays b s.scanDirective := by
  rw [scanDirective]
  refine (dropKey_stays (by simpa using hs)).bind fun s' hs' => ?_
  exact (directive_yields (by simpa using hs')).bind fun r hr => .ok hr

theorem openFlow_stays (hs : s.cursor.beyond = b) (t : Token) : Stays b (s.openFlow t) :=
  (noteKey_stays hs).bind fun _ hs' => .ok (by simpa [emit] using hs')

theorem closeFlow_stays (hs : s.cursor.beyond = b) (t : Token) : Stays b (s.closeFlow t) :=
  (dropKey_stays hs).bind fun _ hs' => .ok (by simpa [emit] using hs')

theorem flowEntry_stays (hs : s.cursor.beyond = b) : Stays b s.flowEntry :=
  (dropKey_stays hs).bind fun _ hs' => .ok (by simpa [emit] using hs')

theorem blockEntry_stays (hs : s.cursor.beyond = b) : Stays b s.blockEntry := by
  refine .ite (.error .malformed) ((dropKey_stays ?_).bind fun _ hs' => .ok ?_)
  · split
    · exact hs
    · simpa using hs
  · simpa [emit] using hs'

theorem explicitKey_stays (hs : s.cursor.beyond = b) : Stays b s.explicitKey := by
  refine .ite (.error .malformed) ((dropKey_stays ?_).bind fun _ hs' => .ok ?_)
  · split
    · exact hs
    · simpa using hs
  · simpa [emit] using hs'

theorem mappingValue_stays (hs : s.cursor.beyond = b) : Stays b s.mappingValue := by
  rw [mappingValue]
  split
  · refine .ok ?_
    split <;> simpa [emit, emitAt] using hs
  · refine .ite (.error .malformed) ((dropKey_stays ?_).bind fun _ hs' => .ok ?_)
    · split
      · exact hs
      · simpa using hs
    · simpa [emit] using hs'

theorem word_stays (hs : s.cursor.beyond = b) {read : Cursor → Except Fault (Token × Cursor)}
    (hread : ∀ c : Cursor, c.beyond = b →
      Yields (Fault.OfReading b) (·.2.beyond = b) (read c)) : Stays b (s.word read) := by
  rw [word]
  refine (noteKey_stays hs).bind fun s' hs' => ?_
  exact (hread _ hs').bind fun r hr => .ok hr

theorem blockScalar_stays (hs : s.cursor.beyond = b) (folded : Bool) :
    Stays b (s.blockScalar folded) := by
  rw [blockScalar]
  refine (dropKey_stays hs).bind fun s' hs' => ?_
  exact (Block.scan_yields folded _ hs').bind fun r hr => .ok hr

theorem quotedScalar_stays (hs : s.cursor.beyond = b) (double : Bool) :
    Stays b (s.quotedScalar double) :=
  word_stays hs fun c hc =>
    (Flow.scanFrom_yields double (by simpa using hc) _ _).bind fun r hr => .ok hr

theorem plainScalar_stays (hs : s.cursor.beyond = b) : Stays b s.plainScalar := by
  rw [plainScalar]
  refine (noteKey_stays hs).bind fun s' hs' => ?_
  dsimp only [emit]
  exact .ok ((Plain.beyond_scan ..).trans hs')

theorem scan_stays (hs : s.cursor.beyond = b) : Stays b s.scan := by
  rw [scan]
  split
  · exact finish_stays hs
  · refine .ite (scanDirective_stays hs) (.ite (marker_stays hs _ _) (.ite (marker_stays hs _ _)
      (.ite (openFlow_stays hs _) (.ite (openFlow_stays hs _) (.ite (closeFlow_stays hs _)
      (.ite (closeFlow_stays hs _) (.ite (flowEntry_stays hs) (.ite (blockEntry_stays hs)
      (.ite (explicitKey_stays hs) (.ite (mappingValue_stays hs) ?_))))))))))
    refine .ite (word_stays hs fun c hc => ?_) (.ite (word_stays hs fun c hc => ?_)
      (.ite (word_stays hs fun c hc => ?_) ?_))
    · exact (anchorName_yields (by simpa using hc)).bind fun r hr => .ok hr
    · exact (anchorName_yields (by simpa using hc)).bind fun r hr => .ok hr
    · exact (writtenTag_yields hc).bind fun r hr => .ok hr
    · exact .ite (blockScalar_stays hs _) (.ite (blockScalar_stays hs _)
        (.ite (quotedScalar_stays hs _) (.ite (quotedScalar_stays hs _)
        (.ite (plainScalar_stays hs) (.error .malformed)))))

theorem next_stays (hs : s.cursor.beyond = b) : Stays b s.next := by
  rw [next]
  have hgap : (s.skipGap (s.cursor.rest.length + 1)).cursor.beyond = b :=
    (beyond_skipGap ..).trans hs
  refine (Cursor.require_yields hgap).bind fun _ _ => ?_
  refine (dropStale_stays hgap).bind fun s₁ hs₁ => ?_
  refine (scan_stays (by simpa using hs₁)).bind fun s₂ hs₂ => ?_
  exact (Cursor.require_yields hs₂).bind fun _ _ => .ok hs₂

theorem prepare_stays (hs : s.cursor.beyond = b) (n : Nat) : Stays b (s.prepare n) := by
  induction n generalizing s with
  | zero => exact .ok hs
  | succ n ih =>
    rw [prepare]
    refine .ite (.ok hs) (.ite ((next_stays hs).bind fun _ hs' => ih hs') ?_)
    refine (dropStale_stays hs).bind fun s₁ hs₁ => ?_
    exact .ite ((next_stays hs₁).bind fun _ hs' => ih hs') (.ok hs₁)

theorem peek_yields (hs : s.cursor.beyond = b) :
    Yields (Fault.OfReading b) (·.2.cursor.beyond = b) s.peek :=
  (prepare_stays hs _).bind fun _ hs' => .ok hs'

end Scanner

/-! ### Nodes -/

namespace Build

variable {α β : Type}

/-- A step of reading nodes goes on within the source, or ends with a fault of reading it. -/
def Stays (b : Option Fault) (w : Build α) : Prop :=
  ∀ s : Builder, s.scanner.cursor.beyond = b →
    Yields (Fault.OfReading b) (·.2.scanner.cursor.beyond = b) (w.run s)

namespace Stays

theorem pure (a : α) : Stays b (pure a : Build α) := fun _ hs => .ok hs

theorem malformed : Stays b (malformed : Build α) := fun _ _ => .error .malformed

theorem get : Stays b (get : Build Builder) := fun _ hs => .ok hs

theorem modify {f : Builder → Builder}
    (hf : ∀ s, (f s).scanner.cursor.beyond = s.scanner.cursor.beyond) :
    Stays b (modify f : Build Unit) := fun s hs => .ok ((hf s).trans hs)

theorem bind {w : Build α} {f : α → Build β} (h : Stays b w) (hf : ∀ a, Stays b (f a)) :
    Stays b (w >>= f) := fun s hs => (h s hs).bind fun r hr => hf r.1 r.2 hr

theorem ite {p : Prop} [Decidable p] {w w' : Build α} (h : Stays b w) (h' : Stays b w') :
    Stays b (if p then w else w') := by
  split
  · exact h
  · exact h'

/-- A step is skipped or taken before the rest. -/
theorem unlessDone {p : Prop} [Decidable p] {w : Build Unit} {f : Unit → Build α}
    (h : Stays b w) (hf : Stays b (f ())) : Stays b (if p then f () else w >>= f) :=
  .ite hf (h.bind fun _ => hf)

theorem peek : Stays b peek := by
  intro s hs
  have hrun : Build.peek.run s = (do
      let r ← s.scanner.peek
      .ok (r.1, { s with scanner := r.2 })) := by
    cases hpeek : s.scanner.peek <;> simp [Build.peek, hpeek] <;> rfl
  rw [hrun]
  exact (Scanner.peek_yields hs).bind fun r hr => .ok hr

theorem skip : Stays b skip := modify fun _ => rfl

theorem isNext (ts : List Token) : Stays b (isNext ts) := peek.bind fun _ => .pure _

theorem accept (t : Token) : Stays b (accept t) :=
  peek.bind fun _ => .ite (skip.bind fun _ => .pure _) (.pure _)

theorem require (t : Token) : Stays b (require t) :=
  (accept t).bind fun _ => .ite (.pure _) malformed

theorem add (anchor : Option String) (n : Node) : Stays b (add anchor n) := by
  intro s hs
  cases anchor with
  | none => exact .ok hs
  | some a =>
    by_cases h : (s.anchors.lookup a).isSome = true
    · have hrun : (Build.add (some a) n).run s = .error .malformed := by
        simp [Build.add, h, Build.malformed]
        rfl
      exact hrun ▸ .error .malformed
    · have hrun : (Build.add (some a) n).run s = .ok (s.nodes.size,
          { s with nodes := s.nodes.push n, anchors := (a, s.nodes.size) :: s.anchors }) := by
        simp [Build.add, h]
        rfl
      exact hrun ▸ .ok hs

theorem fill (id : NodeId) (content : Content) : Stays b (fill id content) :=
  modify fun _ => rfl

theorem addEmpty : Stays b addEmpty := add none _

/-- An anchor, if there is one. -/
theorem anchor? : Stays b (do
    match ← Build.peek with
    | .anchor a => Build.skip; Pure.pure (some a)
    | _ => Pure.pure none : Build (Option String)) := by
  refine peek.bind fun t => ?_
  split
  · exact skip.bind fun _ => .pure _
  · exact .pure _

/-- A tag, if there is one. -/
theorem tag? : Stays b (do
    match ← Build.peek with
    | .tag t => Build.skip; Pure.pure (some t)
    | _ => Pure.pure none : Build (Option WrittenTag)) := by
  refine peek.bind fun t => ?_
  split
  · exact skip.bind fun _ => .pure _
  · exact .pure _

theorem properties : Stays b properties := by
  rw [Build.properties]
  refine anchor?.bind fun a => ?_
  split
  · exact tag?.bind fun _ => .pure _
  · refine tag?.bind fun t => ?_
    split
    · exact .pure _
    · exact anchor?.bind fun _ => .pure _

theorem fullTag (t : WrittenTag) : Stays b (fullTag t) := by
  rw [Build.fullTag]
  split
  · exact .pure _
  · refine get.bind fun s => ?_
    split
    · exact .pure _
    · exact malformed

mutual

theorem node (block indentless : Bool) : ∀ n, Stays b (node block indentless n)
  | 0 => malformed
  | n + 1 => by
    rw [Build.node]
    refine peek.bind fun t => ?_
    split
    · refine skip.bind fun _ => get.bind fun s => ?_
      split
      · exact .pure _
      · exact malformed
    · refine properties.bind fun p => ?_
      have htag : Stays b (p.2.mapM Build.fullTag) := by
        cases p.2 with
        | none => exact .pure _
        | some t => exact (fullTag t).bind fun _ => .pure _
      refine htag.bind fun tag => peek.bind fun t' => ?_
      split
      · exact (add _ _).bind fun id => (indentlessItems n).bind fun _ =>
          (fill _ _).bind fun _ => .pure _
      · exact skip.bind fun _ => add _ _
      · exact skip.bind fun _ => (add _ _).bind fun id => (flowItems true n).bind fun _ =>
          (fill _ _).bind fun _ => .pure _
      · exact skip.bind fun _ => (add _ _).bind fun id => (flowEntries true n).bind fun _ =>
          (fill _ _).bind fun _ => .pure _
      · exact skip.bind fun _ => (add _ _).bind fun id => (blockItems n).bind fun _ =>
          (fill _ _).bind fun _ => .pure _
      · exact skip.bind fun _ => (add _ _).bind fun id => (blockEntries n).bind fun _ =>
          (fill _ _).bind fun _ => .pure _
      · exact .ite (add _ _) malformed

theorem nodeUnless (stop : List Token) (block indentless : Bool) :
    ∀ n, Stays b (nodeUnless stop block indentless n)
  | 0 => malformed
  | n + 1 => (isNext stop).bind fun _ => .ite addEmpty (node block indentless n)

theorem blockItems : ∀ n, Stays b (blockItems n)
  | 0 => malformed
  | n + 1 => (accept _).bind fun _ => .ite
      ((nodeUnless _ _ _ n).bind fun _ => (blockItems n).bind fun _ => .pure _)
      ((require _).bind fun _ => .pure _)

theorem indentlessItems : ∀ n, Stays b (indentlessItems n)
  | 0 => malformed
  | n + 1 => (accept _).bind fun _ => .ite
      ((nodeUnless _ _ _ n).bind fun _ => (indentlessItems n).bind fun _ => .pure _) (.pure _)

theorem blockEntries : ∀ n, Stays b (blockEntries n)
  | 0 => malformed
  | n + 1 => by
    refine (accept _).bind fun _ => .ite ?_ ((require _).bind fun _ => .pure _)
    refine (nodeUnless _ _ _ n).bind fun k => (accept _).bind fun _ => .ite ?_ ?_
    · exact (nodeUnless _ _ _ n).bind fun v => (blockEntries n).bind fun _ => .pure _
    · exact addEmpty.bind fun v => (blockEntries n).bind fun _ => .pure _

theorem flowItems (first : Bool) : ∀ n, Stays b (flowItems first n)
  | 0 => malformed
  | n + 1 => by
    rw [Build.flowItems]
    refine (accept _).bind fun _ => .ite (.pure _) (.unlessDone (require _) ?_)
    refine (accept _).bind fun _ => .ite (.pure _) ((accept _).bind fun _ => .ite ?_ ?_)
    · exact (flowPair n).bind fun _ => (flowItems false n).bind fun _ => .pure _
    · exact (node _ _ n).bind fun _ => (flowItems false n).bind fun _ => .pure _

theorem flowPair : ∀ n, Stays b (flowPair n)
  | 0 => malformed
  | n + 1 => by
    refine (add _ _).bind fun id => (nodeUnless _ _ _ n).bind fun k =>
      (accept _).bind fun _ => .ite ?_ ?_
    · exact (nodeUnless _ _ _ n).bind fun v => (fill _ _).bind fun _ => .pure _
    · exact addEmpty.bind fun v => (fill _ _).bind fun _ => .pure _

theorem flowEntries (first : Bool) : ∀ n, Stays b (flowEntries first n)
  | 0 => malformed
  | n + 1 => by
    have hentry (e : NodeId × NodeId) : Stays b (do
        let e ← Pure.pure e
        return (e.1, e.2) :: (← Build.flowEntries false n)) :=
      (pure e).bind fun _ => (flowEntries false n).bind fun _ => .pure _
    rw [Build.flowEntries]
    refine (accept _).bind fun _ => .ite (.pure _) (.unlessDone (require _) ?_)
    refine (accept _).bind fun _ => .ite (.pure _) ((accept _).bind fun _ => .ite ?_ ?_)
    · refine (nodeUnless _ _ _ n).bind fun k => (accept _).bind fun _ => .ite ?_ ?_
      · exact (nodeUnless _ _ _ n).bind fun v => hentry (k, v)
      · exact addEmpty.bind fun v => hentry (k, v)
    · exact (node _ _ n).bind fun k => addEmpty.bind fun v => hentry (k, v)

end

theorem directives (versioned : Bool) (handles : List (String × String)) (n : Nat) :
    Stays b (directives versioned handles n) := by
  induction n generalizing versioned handles with
  | zero => exact malformed
  | succ n ih =>
    rw [Build.directives]
    refine peek.bind fun t => ?_
    split
    · refine skip.bind fun _ => ?_
      split
      · exact .ite malformed (ih _ _)
      · exact .ite malformed (ih _ _)
      · exact ih _ _
    · exact .pure _

theorem documentEnds (n : Nat) : Stays b (documentEnds n) := by
  induction n with
  | zero => exact .pure _
  | succ n ih => exact (accept _).bind fun _ => .ite ih (.pure _)

theorem isDirectiveOr (ts : List Token) : Stays b (isDirectiveOr ts) := by
  rw [Build.isDirectiveOr]
  refine peek.bind fun t => ?_
  split <;> exact .pure _

theorem finish (n : Nat) : Stays b (finish n) :=
  (documentEnds n).bind fun _ => (accept _).bind fun _ =>
    .ite (.pure _) ((directives _ _ n).bind fun _ => malformed)

theorem document (n : Nat) : Stays b (document n) := by
  have hending (id : NodeId) : Stays b (do
      Build.finish n
      Pure.pure (some id) : Build (Option NodeId)) := (finish n).bind fun _ => .pure _
  rw [Build.document]
  refine (isDirectiveOr _).bind fun _ => .ite ((accept _).bind fun _ => .ite (.pure _) ?_) ?_
  · refine (directives _ _ n).bind fun _ => (require _).bind fun _ => bind ?_
      fun _ => (isDirectiveOr _).bind fun _ => .ite ?_ ?_
    · exact modify fun _ => rfl
    · exact addEmpty.bind hending
    · exact (node _ _ n).bind hending
  · exact bind (modify fun _ => rfl) fun _ => (node _ _ n).bind hending

end Stays

end Build

/-- **What reading a source can end with.** It gives nodes, unless the text is not well-formed, a
character in it is written by a number that is too large, or the source is broken off. -/
theorem readNodes_yields (s : Source) :
    Yields (Fault.OfReading s.beyond) (fun _ => True) (readNodes s) := by
  have hstart : (Cursor.start s).beyond = s.beyond := Cursor.beyond_start s
  refine (Cursor.require_yields hstart).bind fun _ _ => ?_
  refine (Build.Stays.document _ { scanner := { cursor := .start s } } hstart).bind fun r _ => ?_
  exact .ok trivial

end Conformance.Yaml
