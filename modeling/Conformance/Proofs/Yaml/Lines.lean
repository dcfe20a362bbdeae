import Conformance.Yaml.Cursor
import Mathlib

/-!
# Places in a line

Printable characters take a column each, and none of them ends a line. So moving on over them
changes a cursor in a way that can be written down.
-/

namespace Conformance

/-- Printable ASCII. -/
def IsPrintable (c : Char) : Prop := 0x20 ≤ c.toNat ∧ c.toNat ≤ 0x7e

instance : DecidablePred IsPrintable := fun _ => inferInstanceAs (Decidable (_ ∧ _))

namespace Yaml

variable {ch : Char} {rest cs : List Char} {c : Cursor}

/-! ### Printable characters -/

theorem ne_of_isPrintable (h : IsPrintable ch) {d : Char} (hd : d.toNat < 0x20 ∨ 0x7e < d.toNat) :
    ch ≠ d := by
  rintro rfl
  have := h.1
  have := h.2
  omega

theorem isBreak_eq_false (h : IsPrintable ch) : isBreak ch = false := by
  simp [isBreak, ne_of_isPrintable h]

/-- Of the printable characters only the space is a gap. -/
theorem isGap_eq_false (h : IsPrintable ch) (hspace : ch ≠ ' ') : isGap ch = false := by
  simp [isGap, endsWord, endsLine, isEnd, isBreak_eq_false h, hspace, ne_of_isPrintable h]

/-! ### Moving on -/

namespace Cursor

/-- A cursor some columns further on in the same line, before the given text. -/
def moved (c : Cursor) (n : Nat) (rest : List Char) : Cursor :=
  { c with rest := rest, index := c.index + n, column := c.column + n }

@[simp] theorem rest_moved (c : Cursor) (n : Nat) (rest : List Char) :
    (c.moved n rest).rest = rest := rfl

theorem moved_zero (hrest : c.rest = rest) : c.moved 0 rest = c := by
  rw [moved, ← hrest]
  rfl

@[simp] theorem moved_moved (c : Cursor) (n k : Nat) (rest rest' : List Char) :
    (c.moved n rest).moved k rest' = c.moved (n + k) rest' := by
  simp only [moved, Nat.add_assoc]

theorem step_eq_moved (hrest : c.rest = ch :: rest)
    (h : IsPrintable ch) : c.step = c.moved 1 rest := by
  have hmark : ch ≠ byteOrderMark := by
    rintro rfl
    exact absurd h.2 (by decide)
  simp [step, hrest, isBreak_eq_false h, hmark, moved]

/-- Printable characters take a column each. -/
theorem advance_eq_moved (hrest : c.rest = cs ++ rest)
    (h : ∀ ch ∈ cs, IsPrintable ch) : c.advance cs.length = c.moved cs.length rest := by
  induction cs generalizing c with
  | nil => exact (moved_zero hrest).symm
  | cons ch cs ih =>
    obtain ⟨hch, hcs⟩ := List.forall_mem_cons.mp h
    rw [List.length_cons, advance, step_eq_moved hrest hch, ih rfl hcs, moved_moved, Nat.add_comm 1]

theorem peek_eq (hrest : c.rest = ch :: rest) : c.peek = ch := by
  rw [peek, hrest]
  rfl

section Run

variable {p : Char → Bool}

/-- A run ends before a character that does not belong to it, or at the end of the text. -/
theorem run_eq (hrest : c.rest = cs ++ rest) (hcs : ∀ ch ∈ cs, p ch = true)
    (hnext : ∀ ch ∈ rest.head?, p ch = false) : c.run p = cs := by
  rw [run, hrest, List.takeWhile_append_of_pos hcs]
  cases rest with
  | nil => simp
  | cons ch rest => rw [List.takeWhile_cons_of_neg (by simp [hnext ch rfl]), List.append_nil]

theorem skip_eq (hrest : c.rest = cs ++ rest) (hcs : ∀ ch ∈ cs, p ch = true)
    (hnext : ∀ ch ∈ rest.head?, p ch = false) (h : ∀ ch ∈ cs, IsPrintable ch) :
    c.skip p = c.moved cs.length rest := by
  rw [skip, run_eq hrest hcs hnext, advance_eq_moved hrest h]

end Run

theorem lineBreak?_eq_none (h : ∀ ch ∈ c.rest.head?, isBreak ch = false) : c.lineBreak? = none := by
  have hpeek : isBreak c.peek = false := by
    rw [peek]
    cases hrest : c.rest with
    | nil => rfl
    | cons ch rest => exact h ch (by rw [hrest]; rfl)
  simp only [isBreak, Bool.or_eq_false_iff, decide_eq_false_iff_not] at hpeek
  simp [lineBreak?, isBreak, hpeek]

end Cursor

end Yaml

end Conformance
