import CollectionPlan.Grammar.Source
import CollectionPlan.Proofs.Grammar.Word

namespace CollectionPlan.Grammar

section Run

variable {p : Parser α} {f : α → Parser β} {c : Cursor} {q : List Placed → Bool}

-- What a parser does at a cursor, step by step.

@[simp]
theorem run_pure {a : α} : (pure a : Parser α) c = .ok (a, c) :=
  rfl

@[simp]
theorem run_bind : (p >>= f) c = p c >>= fun (a, d) => f a d :=
  rfl

@[simp]
theorem run_map {g : α → β} : (g <$> p) c = p c >>= fun (a, d) => .ok (g a, d) :=
  rfl

@[simp]
theorem run_discard : discard p c = p c >>= fun (_, d) => .ok ((), d) :=
  rfl

@[simp]
theorem run_get : (get : Parser Cursor) c = .ok (c, c) :=
  rfl

@[simp]
theorem run_modify {g : Cursor → Cursor} : (modify g : Parser Unit) c = .ok ((), g c) :=
  rfl

@[simp]
theorem ok_bind {x : α × Cursor} {g : α × Cursor → Except Fault β} : (Except.ok x >>= g) = g x :=
  rfl

@[simp]
theorem run_ahead : ahead c = .ok (c.input, c) :=
  rfl

@[simp]
theorem run_sees : sees q c = .ok (q c.input, c) :=
  rfl

theorem run_whenSees (h : q c.input = false) : whenSees q p c = .ok (false, c) := by
  simp [whenSees, h]

theorem run_capture (h : p { c with written := [] } = .ok (a, d)) :
    capture p c = .ok ((a, d.written.reverse), { d with written := d.written ++ c.written }) := by
  simp [capture, h]

end Run

theorem atOp_nil : atOp w [] = false := by
  unfold atOp afterOperator?
  split <;> simp_all

namespace Identifier

variable {i : CollectionPlan.Identifier} {w : String} {offset : Nat} {r : Rules}

-- A text with nothing but an identifier, before and behind it.

def before (i : CollectionPlan.Identifier) (offset : Nat) : Cursor where
  input := [⟨.ident i.toWord, offset⟩]

def behind (i : CollectionPlan.Identifier) : Cursor where
  input   := []
  written := [.ident i.toWord]

theorem atWord_eq_false (hw : w ∈ Word.reserved) : atWord w (before i offset).input = false := by
  have hi := i.free
  simp only [Word.isIdentifier, Bool.not_eq_true', List.contains_eq_mem, decide_eq_false_iff_not] at hi
  have hn : i.text ≠ w := fun h => hi (h ▸ hw)
  simp [atWord, headWord?, hn, before]

theorem atOp_eq_false : atOp w (before i offset).input = false := by
  unfold atOp afterOperator? before
  split <;> simp_all

theorem atGroup_eq_false : atGroup d (before i offset).input = false :=
  rfl

theorem atIdent_eq_true : atIdent (before i offset).input = true := by
  simpa [atIdent, headWord?, before] using i.free

theorem run_ident : ident (before i offset) = .ok (i, behind i) := by
  have hi : i.toWord.identifier? = some i := by simp [Word.identifier?, i.free]
  simp [ident, headWord?, hi, anyWord, advance, before, behind]

theorem run_segment : segment r .type (before i offset) = .ok ({ name := i.text }, behind i) := by
  have hs : atAnyWord ["super", "self", "crate", "try"] (before i offset).input = false := by
    simp +decide [atAnyWord, atWord_eq_false]
  have ha : atArguments .type (behind i).input = false := by
    simp [atArguments, atOp_nil, afterOperator?, behind]
  simp +decide [segment, hs, atWord_eq_false, run_ident, ha]

theorem run_path : path r .type (before i offset) =
    .ok (⟨false, false, [{ name := i.text }]⟩, behind i) := by
  have hl : op? "::" (before i offset) = .ok (false, before i offset) := run_whenSees atOp_eq_false
  simp [path, hl, run_segment, repeatWhile, repeatWhile.go, behind]

theorem run_ofPath : Type.ofPath r true false (before i offset) =
    .ok (.path false [] i.text false [], behind i) := by
  have hq : qualifiedPath r .type (before i offset) =
      .ok (⟨false, false, [{ name := i.text }]⟩, behind i) := by
    simp [qualifiedPath, atOp_eq_false, run_path]
  have hc : capture (qualifiedPath r .type) (before i offset) =
      .ok ((⟨false, false, [{ name := i.text }]⟩, [.ident i.toWord]), behind i) := by
    rw [run_capture (c := before i offset) hq]
    rfl
  simp [Type.ofPath, hc, Path.isPlain, Path.tree?, atMacroMark, behind, atOp_nil]

theorem run_read : Type.read r true (before i offset) = .ok (.path false [] i.text false [], behind i) := by
  have hl : forLifetimes r (before i offset) = .ok (false, before i offset) :=
    run_whenSees (atWord_eq_false (by decide))
  have hf : Type.atFunction (before i offset).input = false := by
    simp +decide [Type.atFunction, atAnyWord, atWord_eq_false]
  have hp : Type.atPath (before i offset).input = true := by simp [Type.atPath, atIdent_eq_true]
  simp [Type.read, hl, atGroup_eq_false, hf, hp, run_ofPath]

end Identifier

-- An identifier is the type that it names.
theorem type?_ident (i : Identifier) : type? i.text = some (.path false [] i.text false []) := by
  have hs : Token.scan i.text.toList = .ok [⟨.ident i.toWord, 0⟩] := Token.scan_word
  have hr : (Rules.ofDepth (depthFor [⟨.ident i.toWord, 0⟩])).type true (Identifier.before i 0) =
      .ok (.path false [] i.text false [], Identifier.behind i) :=
    Identifier.run_read
  have hy : syntaxOf (·.type true) [⟨.ident i.toWord, 0⟩] = .ok (.path false [] i.text false []) := by
    change ((Rules.ofDepth _).type true (Identifier.before i 0) >>= _) = _
    rw [hr]
    rfl
  unfold type? readText
  rw [hs]
  simp [hy, Except.mapError, Except.toOption]

end CollectionPlan.Grammar
