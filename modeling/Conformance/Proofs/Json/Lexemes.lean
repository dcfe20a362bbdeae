import Conformance.Proofs.Json.Scanning
import Conformance.Proofs.Yaml.Words

/-!
# The parts of a JSON text

The text of a value is made of parts that follow each other as they can, so a scanner at its
beginning gives the tokens of these parts.

## Main definitions

* `Json.lexemes` — the parts of the text of a value.
* `Json.tokens` — its tokens.

## Main results

* `Json.flat_lexemes`, `Json.fits_lexemes` — the parts make up the text, and fit together.
* `Json.exists_float_text` — the text of a floating-point number is a numeral of this number.
* `Json.gives_tokens` — a scanner at the beginning of the text gives its tokens.
-/

namespace Conformance

open Yaml (Lexeme flat Fits IsWord)

/-! ### Numbers as words -/

theorem Number.isAlphanum_of_isDigit {c : Char} (h : c.isDigit = true) : c.isAlphanum = true := by
  rw [Char.isAlphanum, h, Bool.or_true]

/-- A signed numeral is a word. -/
theorem Number.Numeral.isWord_signedText (n : Numeral) (negative : Bool) :
    IsWord (n.signedText negative) where
  chars c hc := by
    have hmem := n.mem_chars_of_mem_signedText negative hc
    rcases List.mem_append.mp hmem with h | h
    · exact .inl (isAlphanum_of_isDigit (isDigit_iff_mem.mpr h))
    · have hall : ∀ d ∈ ['.', 'e', '+', '-'],
          d.isAlphanum = true ∨ d = '.' ∨ d = '+' ∨ d = '-' := by simp
      exact hall c h
  head := by
    obtain ⟨c, cs, htext, hc⟩ := n.exists_signedText_eq negative
    refine ⟨c, cs, htext, hc.imp isAlphanum_of_isDigit fun ⟨hminus, d, ds, hcs, hd⟩ => ?_⟩
    exact ⟨hminus, d, ds, hcs, isAlphanum_of_isDigit hd⟩

namespace Json

/-- The text of a finite floating-point number is a signed numeral that is read as the number; if
it has no point, then an exponent follows its only digit. -/
theorem exists_float_text {m : Nat} {e : Int} (hm : Binary64.IsNormal m e) (negative : Bool) :
    ∃ n : Number.Numeral, (Binary64.finite negative m e).text.toList = n.signedText negative ∧
      Binary64.ofScientific false n.coefficient n.scale = .finite false m e ∧
      (n.fraction = none → n.whole.length = 1 ∧ n.exponent.isSome = true) := by
  obtain ⟨n, htext, hvalue, hform⟩ := Binary64.exists_text hm negative
  exact ⟨n, by rw [htext, String.toList_ofList]; rfl, hvalue, hform⟩

/-! ### Parts -/

mutual

/-- The parts of the text of a value. -/
def lexemes : Json → List Lexeme
  | array items => .openArray :: itemLexemes true items
  | object entries => .openObject :: entryLexemes true entries
  | str s => [.text s]
  | v => [.plain v.written]

/-- The parts of the text of some items up to the closing bracket, after a comma unless they are
the first. -/
def itemLexemes (first : Bool) : List Json → List Lexeme
  | [] => [.closeArray]
  | v :: vs => (if first then [] else [.comma]) ++ lexemes v ++ itemLexemes false vs

/-- The parts of the text of some entries up to the closing brace, after a comma unless they are
the first. -/
def entryLexemes (first : Bool) : List (List CodePoint × Json) → List Lexeme
  | [] => [.closeObject]
  | (k, v) :: es =>
    (if first then [] else [.comma]) ++ .key k :: lexemes v ++ entryLexemes false es

end

theorem separated_cons (text : List Char) (texts : List (List Char)) :
    separated (text :: texts) = text ++ texts.flatMap ([',', ' '] ++ ·) := by
  unfold separated
  induction texts generalizing text with
  | nil => simp
  | cons t ts ih =>
    rw [List.intercalate_cons_cons, ih, List.flatMap_cons, List.append_assoc, List.append_assoc]

theorem flat_append (ls ls' : List Lexeme) : flat (ls ++ ls') = flat ls ++ flat ls' :=
  List.flatMap_append

theorem flat_cons (lx : Lexeme) (ls : List Lexeme) : flat (lx :: ls) = lx.written ++ flat ls :=
  List.flatMap_cons

theorem flat_itemLexemes {items : List Json} (h : ∀ v ∈ items, flat v.lexemes = v.written) :
    flat (itemLexemes false items) = (writtenItems items).flatMap ([',', ' '] ++ ·) ++ [']'] ∧
      flat (itemLexemes true items) = separated (writtenItems items) ++ [']'] := by
  induction items with
  | nil => exact ⟨rfl, rfl⟩
  | cons v vs ih =>
    obtain ⟨hv, hvs⟩ := List.forall_mem_cons.mp h
    have hrest := (ih hvs).1
    constructor
    · simp [itemLexemes, flat_append, flat_cons, hv, hrest, writtenItems, Lexeme.written]
    · simp [itemLexemes, flat_append, hv, hrest, writtenItems, separated_cons]

theorem flat_entryLexemes {entries : List (List CodePoint × Json)}
    (h : ∀ e ∈ entries, flat e.2.lexemes = e.2.written) :
    flat (entryLexemes false entries) =
        (writtenEntries entries).flatMap ([',', ' '] ++ ·) ++ ['\x7d'] ∧
      flat (entryLexemes true entries) = separated (writtenEntries entries) ++ ['\x7d'] := by
  induction entries with
  | nil => exact ⟨rfl, rfl⟩
  | cons e es ih =>
    obtain ⟨hv, hes⟩ := List.forall_mem_cons.mp h
    have hrest := (ih hes).1
    constructor
    · simp [entryLexemes, flat_append, flat_cons, hv, hrest, writtenEntries, Lexeme.written]
    · simp [entryLexemes, flat_append, flat_cons, hv, hrest, writtenEntries, Lexeme.written,
        separated_cons]

/-- The parts make up the text. -/
theorem flat_lexemes (v : Json) : flat v.lexemes = v.written := by
  induction v using Json.induction with
  | array items ih =>
    rw [lexemes, flat_cons, (flat_itemLexemes ih).2, written]
    rfl
  | object entries ih =>
    rw [lexemes, flat_cons, (flat_entryLexemes ih).2, written]
    rfl
  | _ => exact List.append_nil _

/-! ### Words -/

theorem isWord_written_int (n : ℤ) : IsWord (int n).written := by
  rw [written, Number.Numeral.toList_toString]
  exact Number.Numeral.isWord_signedText ..

theorem isWord_written_float {m : ℕ} {e : ℤ} (hm : Binary64.IsNormal m e) (negative : Bool) :
    IsWord (float negative m e hm).written := by
  obtain ⟨n, htext, -⟩ := exists_float_text hm negative
  rw [written, htext]
  exact n.isWord_signedText negative

theorem isWord_written_null : IsWord null.written :=
  ⟨by simp [written, Char.isAlphanum], 'n', ['u', 'l', 'l'], by simp [written], .inl (by decide)⟩

theorem isWord_written_bool (b : Bool) : IsWord (bool b).written := by
  cases b with
  | true => exact ⟨by simp [written], 't', ['r', 'u', 'e'], by simp [written], .inl (by decide)⟩
  | false =>
    exact ⟨by simp [written], 'f', ['a', 'l', 's', 'e'], by simp [written], .inl (by decide)⟩

/-! ### The order of parts -/

/-- Whether what comes after a value ends it: nothing, or punctuation of the collection around it
that is not an opening one. -/
def Ends (l : ℕ) (ls : List Lexeme) : Prop := ∀ lx ∈ ls.head?, 0 < l ∧ lx.endsWord = true

/-- Whether some parts can stand where a value ends inside one more collection. -/
def Closes (l : ℕ) (ls : List Lexeme) : Prop :=
  Ends (l + 1) ls ∧ ∀ allowed, Fits (l + 1) allowed ls

variable {l : ℕ} {ls : List Lexeme}

/-- A closing bracket or brace ends a value. -/
theorem closes_cons {lx : Lexeme} (hlx : lx = .closeArray ∨ lx = .closeObject)
    (hfits : Fits l false ls) : Closes l (lx :: ls) := by
  refine ⟨fun x hx => ?_, fun allowed => ?_⟩
  · obtain rfl := Option.some.inj hx
    rcases hlx with rfl | rfl <;> exact ⟨Nat.succ_pos _, rfl⟩
  · rcases hlx with rfl | rfl <;> exact ⟨trivial, hfits⟩

/-- A comma ends a value and allows a key. -/
theorem closes_comma (hfits : Fits (l + 1) true ls) : Closes l (.comma :: ls) := by
  refine ⟨fun x hx => ?_, fun allowed => ⟨trivial, hfits⟩⟩
  obtain rfl := Option.some.inj hx
  exact ⟨Nat.succ_pos _, rfl⟩

/-- The parts of a value can stand wherever it is ended. -/
def CanStand (v : Json) : Prop :=
  ∀ {l : ℕ} {ls : List Lexeme}, Ends l ls → Fits l false ls → ∀ allowed,
    Fits l allowed (v.lexemes ++ ls)

theorem closes_itemLexemes {items : List Json} (h : ∀ v ∈ items, CanStand v)
    (hfits : Fits l false ls) : Closes l (itemLexemes false items ++ ls) ∧
      ∀ allowed, Fits (l + 1) allowed (itemLexemes true items ++ ls) := by
  induction items with
  | nil => exact ⟨closes_cons (.inl rfl) hfits, (closes_cons (.inl rfl) hfits).2⟩
  | cons v vs ih =>
    obtain ⟨hv, hvs⟩ := List.forall_mem_cons.mp h
    obtain ⟨hends, hrest⟩ := (ih hvs).1
    have hvalue (allowed : Bool) := hv hends (hrest false) allowed
    simp only [itemLexemes, List.append_assoc]
    exact ⟨closes_comma (hvalue true), hvalue⟩

theorem closes_entryLexemes {entries : List (List CodePoint × Json)}
    (h : ∀ e ∈ entries, CanStand e.2) (hfits : Fits l false ls) :
    Closes l (entryLexemes false entries ++ ls) ∧
      Fits (l + 1) true (entryLexemes true entries ++ ls) := by
  induction entries with
  | nil => exact ⟨closes_cons (.inr rfl) hfits, (closes_cons (.inr rfl) hfits).2 true⟩
  | cons e es ih =>
    obtain ⟨hv, hes⟩ := List.forall_mem_cons.mp h
    obtain ⟨hends, hrest⟩ := (ih hes).1
    have hentry : Fits (l + 1) true
        (.key e.1 :: (e.2.lexemes ++ (entryLexemes false es ++ ls))) :=
      ⟨⟨rfl, Nat.succ_pos _⟩, hv hends (hrest false) false⟩
    simp only [entryLexemes, List.append_assoc]
    exact ⟨closes_comma hentry, hentry⟩

theorem canStand_plain {w : List Char} (hw : IsWord w) (hends : Ends l ls) (hfits : Fits l false ls)
    (allowed : Bool) : Fits l allowed ([.plain w] ++ ls) :=
  ⟨⟨hw, hends⟩, hfits⟩

theorem canStand (v : Json) : CanStand v := by
  induction v using Json.induction with
  | null => exact canStand_plain isWord_written_null
  | bool b => exact canStand_plain (isWord_written_bool b)
  | int n => exact canStand_plain (isWord_written_int n)
  | float negative m e hm => exact canStand_plain (isWord_written_float hm negative)
  | str s => exact fun _ hfits _ => ⟨trivial, hfits⟩
  | array items ih => exact fun _ hfits _ => ⟨trivial, (closes_itemLexemes ih hfits).2 true⟩
  | object entries ih => exact fun _ hfits _ => ⟨trivial, (closes_entryLexemes ih hfits).2⟩

/-- The parts of a value follow each other as they can. -/
theorem fits_lexemes (v : Json) : Fits 0 true v.lexemes := by
  have hends : Ends 0 [] := fun lx h => nomatch h
  have hfits := canStand v hends trivial true
  rwa [List.append_nil] at hfits

theorem isPrintable_flat {allowed : Bool} (hfits : Fits l allowed ls) :
    ∀ ch ∈ flat ls, IsPrintable ch := by
  induction ls generalizing l allowed with
  | nil => exact fun ch hch => nomatch hch
  | cons lx ls ih =>
    rw [flat_cons]
    refine List.forall_mem_append.mpr ⟨?_, ih hfits.2⟩
    cases lx with
    | key s =>
      exact List.forall_mem_append.mpr ⟨isPrintable_quoted s, by simp [IsPrintable]⟩
    | text s => exact isPrintable_quoted s
    | plain w => exact fun c hc => (Yaml.wordChar_spec (hfits.1.1.chars c hc)).1
    | _ => simp [Lexeme.written, IsPrintable]

/-- All characters of the text of a value are printable. -/
theorem isPrintable_written (v : Json) : ∀ ch ∈ v.written, IsPrintable ch := by
  rw [← flat_lexemes]
  exact isPrintable_flat (fits_lexemes v)

/-! ### Tokens -/

/-- The tokens of the text of a value. -/
def tokens (v : Json) : List Yaml.Token := v.lexemes.flatMap Lexeme.tokens

/-- The tokens of some items, up to the closing bracket. -/
def itemTokens (first : Bool) (items : List Json) : List Yaml.Token :=
  (itemLexemes first items).flatMap Lexeme.tokens

/-- The tokens of some entries, up to the closing brace. -/
def entryTokens (first : Bool) (entries : List (List CodePoint × Json)) : List Yaml.Token :=
  (entryLexemes first entries).flatMap Lexeme.tokens

theorem tokens_array (items : List Json) :
    tokens (array items) = .flowSequenceStart :: itemTokens true items := by
  rw [tokens, lexemes]
  rfl

theorem tokens_object (entries : List (List CodePoint × Json)) :
    tokens (object entries) = .flowMappingStart :: entryTokens true entries := by
  rw [tokens, lexemes]
  rfl

theorem itemTokens_cons (first : Bool) (v : Json) (vs : List Json) :
    itemTokens first (v :: vs) =
      (if first then [] else [.flowEntry]) ++ (v.tokens ++ itemTokens false vs) := by
  cases first <;> simp [itemTokens, itemLexemes, tokens, Lexeme.tokens]

theorem entryTokens_cons (first : Bool) (k : List CodePoint) (v : Json)
    (es : List (List CodePoint × Json)) : entryTokens first ((k, v) :: es) =
      (if first then [] else [.flowEntry]) ++ (Lexeme.keyMark k ++
        .scalar (points k) false :: .value :: (v.tokens ++ entryTokens false es)) := by
  cases first <;> simp [entryTokens, entryLexemes, tokens, Lexeme.tokens]

/-- Every token has a character of its own. -/
theorem length_tokens_le_of_fits {allowed : Bool} (hfits : Fits l allowed ls) :
    (ls.flatMap Lexeme.tokens).length ≤ (flat ls).length := by
  induction ls generalizing l allowed with
  | nil => exact Nat.le_refl _
  | cons lx ls ih =>
    have hpart : lx.tokens.length ≤ lx.written.length := by
      cases lx with
      | plain w =>
        obtain ⟨c, cs, rfl, -⟩ := hfits.1.1.head
        exact Nat.succ_le_succ (Nat.zero_le _)
      | key s =>
        have hmark : (Lexeme.keyMark s).length ≤ 1 := by
          rw [Lexeme.keyMark]
          split <;> simp
        have hquoted : 2 ≤ (quoted s).length := by simp [quoted]
        rw [Lexeme.tokens, Lexeme.written, List.length_append, List.length_append]
        simp only [List.length_cons, List.length_nil]
        omega
      | _ => simp [Lexeme.tokens, Lexeme.written, quoted]
    rw [List.flatMap_cons, flat_cons, List.length_append, List.length_append]
    exact Nat.add_le_add hpart (ih hfits.2)

theorem length_tokens_le (v : Json) : v.tokens.length ≤ v.written.length := by
  rw [← flat_lexemes]
  exact length_tokens_le_of_fits (fits_lexemes v)

/-- A scanner at the beginning of the text of a value gives its tokens. -/
theorem gives_tokens (v : Json) :
    ({ cursor := { rest := v.written } } : Yaml.Scanner).Gives (v.tokens ++ [.streamEnd]) := by
  have hstanding : ({ cursor := { rest := v.written } } : Yaml.Scanner).Standing 0
      (List.replicate 0 ' ' ++ flat v.lexemes) :=
    ⟨(flat_lexemes v).symm, rfl, rfl, rfl, rfl, rfl, rfl, ⟨(fun _ h => nomatch h), List.nodup_nil⟩⟩
  exact (Yaml.Scanner.Follows.before hstanding (fits_lexemes v)).gives

end Json

end Conformance
