import Conformance.Proofs.Document.Loading
import Conformance.Proofs.Json.Making
import Conformance.Proofs.Yaml.Safety

/-!
# Loading a JSON document

A file with the text of a JSON value is loaded as YAML if all keys in the value are short enough to
be keys, and is refused as malformed otherwise. What is loaded is the value itself exactly if the
value keeps its form. A number that is written without a point, such as `1e+16`, is loaded as a text,
and a character that is written as a pair of surrogates is loaded as its two halves.

## Main results

* `Json.load_written` — what loading the text of a value comes to.
-/

namespace Conformance

/-! ### Sources -/

/-- There is no end of a line to be changed in a text of printable characters. -/
theorem Document.lineFeeds_eq_self {cs : List Char} (h : ∀ c ∈ cs, IsPrintable c) :
    lineFeeds cs = cs := by
  induction cs with
  | nil => rfl
  | cons c cs ih =>
    obtain ⟨hc, hcs⟩ := List.forall_mem_cons.mp h
    have hreturn : c ≠ '\r' := Yaml.ne_of_isPrintable hc (by decide)
    rw [lineFeeds, ih hcs] <;> simp [hreturn]

/-- A text of printable characters is read as it is. -/
theorem Yaml.Source.ofText_eq {cs : List Char} (h : ∀ c ∈ cs, IsPrintable c) :
    ofText cs = ⟨cs, none⟩ := by
  have hfind : cs.findIdx? (!isTextChar ·) = none := by
    refine List.findIdx?_eq_none_iff.mpr fun c hc => ?_
    have hc := h c hc
    simp [isTextChar, IsPrintable] at *
    omega
  rw [ofText, hfind]

namespace Json

/-- The document with the text of a value. -/
theorem load_source {v : Json} (hv : v.IsWritten) (g : Store) :
    (v.HasShortKeys ∧ ∃ x h, Yaml.load g ⟨v.written, none⟩ = .ok (x, h) ∧ v.asRead.IsAt h x) ∨
      (¬ v.HasShortKeys ∧ Yaml.load g ⟨v.written, none⟩ = .error .malformed) := by
  rw [Yaml.load]
  rcases readNodes_written v with ⟨hkeys, nodes, id, hread, hnode⟩ | ⟨hkeys, hread⟩
  · obtain ⟨x, m, hrun, hat⟩ := exists_run_root (g := g) hv hnode
    refine .inl ⟨hkeys, x, m.store, ?_, hat⟩
    rw [hread]
    change ((Yaml.Make.root id).run _ >>= _) = _
    rw [hrun]
    rfl
  · exact .inr ⟨hkeys, by rw [hread]; rfl⟩

section Load

variable {files : Files} {path : String} {v : Json}

/-- A file with the text of a value is read as it is. -/
theorem run_load_written (hfile : files (.ofString path) = .text (String.ofList v.written))
    (w : Workspace) : (Document.load files Yaml.loader path).run.run w =
      (Document.load.read Yaml.loader (.ofString path) ⟨v.written, false⟩).run.run w := by
  rw [Document.load]
  simp only [hfile]
  rw [String.toList_ofList, Document.lineFeeds_eq_self (isPrintable_written v)]

/-- The source of the text of a value is the text. -/
theorem loader_written (v : Json) (g : Store) :
    Yaml.loader g ⟨v.written, false⟩ = Yaml.load g ⟨v.written, none⟩ := by
  rw [Yaml.loader, Yaml.Source.ofStream, if_neg Bool.false_ne_true,
    Yaml.Source.ofText_eq (isPrintable_written v)]

/-- **What loading a JSON document comes to.** The text of a value is loaded if all keys in it are
short enough to be keys, and is no document otherwise. What is loaded is new data, namely what is
read in the place of the value, and where objects have distinct keys it is the value itself exactly
if the value keeps its form. -/
theorem load_written (hfile : files (.ofString path) = .text (String.ofList v.written))
    (hv : v.IsWritten) (w : Workspace) :
    (v.HasShortKeys → ∃ x w', (Document.load files Yaml.loader path).run.run w =
        (.ok (x, .loaded (FilePath.ofString path).text (w'.store.className x)), w') ∧
      Document.Adds w x w' ∧ v.asRead.IsAt w'.store x ∧
      (v.HasDistinctKeys → (v.IsAt w'.store x ↔ v.KeepsForm))) ∧
    (¬ v.HasShortKeys → (Document.load files Yaml.loader path).run.run w =
      (.error (.load (.malformed (FilePath.ofString path).text)), w)) := by
  rw [run_load_written hfile, Document.run_read, loader_written]
  rcases load_source hv w.store with ⟨hkeys, x, h, hload, hat⟩ | ⟨hkeys, hload⟩
  · have hadds := Yaml.loader_isSafe.adds _ _ _ _ ((loader_written v w.store).trans hload)
    rw [hload]
    exact ⟨fun _ => ⟨x, { w with store := h }, rfl, ⟨hadds, rfl⟩, hat,
      fun hdistinct => isAt_iff hdistinct hat⟩, fun hlong => absurd hkeys hlong⟩
  · rw [hload]
    exact ⟨fun hshort => absurd hshort hkeys, fun _ => rfl⟩

/-- The number `1e+16`. -/
def tenQuadrillion : Json :=
  float false 5000000000000000 1 ⟨by decide, by decide, by decide, .inr (by decide)⟩

/-- The number `1e+16`, which is written without a point, is loaded as a text. -/
theorem load_written_tenQuadrillion : ∃ w',
    (Document.load (fun _ => .text "1e+16") Yaml.loader "f.json").run.run {} =
      (.ok (.str "1e+16", .loaded "f.json" "str"), w') ∧
    ¬ tenQuadrillion.IsAt w'.store (.str "1e+16") := by
  have htext : (Binary64.finite false 5000000000000000 1).text = "1e+16" := by decide +kernel
  have hwritten : String.ofList tenQuadrillion.written = "1e+16" := by
    rw [tenQuadrillion, written, htext, String.ofList_toList]
  have hfile : (fun _ => .text "1e+16" : Files) (.ofString "f.json") =
      .text (String.ofList tenQuadrillion.written) := by rw [hwritten]
  obtain ⟨x, w', hrun, -, hat, hiff⟩ :=
    (@load_written (fun _ => .text "1e+16") "f.json" tenQuadrillion hfile trivial {}).1 trivial
  have hpoint : '.' ∉ (Binary64.finite false 5000000000000000 1).text.toList := by
    rw [htext]
    decide
  rw [tenQuadrillion, asRead, if_neg hpoint, htext, IsAt] at hat
  obtain rfl : x = .str "1e+16" := hat
  exact ⟨w', hrun, fun h => hpoint ((hiff trivial).mp h)⟩

end Load

end Json

end Conformance
