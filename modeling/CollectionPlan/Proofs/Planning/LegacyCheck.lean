import CollectionPlan.Proofs.Planning.OwnDeclaration

namespace CollectionPlan

open Collecting

variable {u : Universe} {m : TypeModel} {d : Directive} {t : DeclaredType} {x : Diagnostic}

-- Nothing that is found while a type is planned is about a retired attribute or about a file.

theorem Candidates.kind_of_mem_findings (h : x ∈ findings d) :
    x.kind ≠ .deprecated ∧ x.kind ≠ .parseFailure := by
  obtain ⟨_, rfl⟩ | rfl := eq_of_mem_findings h <;> simp [unknownMethod, targetsWithoutMethods]

namespace TypePlan

theorem kind_of_mem_subjectFindings (h : x ∈ subjectFindings u d) :
    x.kind ≠ .deprecated ∧ x.kind ≠ .parseFailure := by
  unfold subjectFindings at h
  split at h <;> simp_all

theorem kind_of_mem_targetFindings (h : x ∈ targetFindings u d target) :
    x.kind ≠ .deprecated ∧ x.kind ≠ .parseFailure := by
  unfold targetFindings at h
  split at h <;> simp_all

theorem kind_of_mem_findings (h : x ∈ findings u d) :
    x.kind ≠ .deprecated ∧ x.kind ≠ .parseFailure := by
  rw [findings, List.mem_append, List.mem_append, List.mem_flatMap] at h
  rcases h with hc | hs | ⟨_, _, ht⟩
  · exact Candidates.kind_of_mem_findings hc
  · exact kind_of_mem_subjectFindings hs
  · exact kind_of_mem_targetFindings ht

end TypePlan

theorem TypeItem.isAlias_of_mem_fieldTags {i : TypeItem} (h : field ∈ i.fieldTags) : i.isAlias = false := by
  unfold fieldTags at h
  unfold isAlias lower Declaration.isAlias
  cases hb : i.body <;> simp_all

-- Among some fields there is one that is reported, with the text that a field would be reported with.
def LegacyTag.FoundIn (fields : List FieldTag) (field : FieldTag) : Prop :=
  ∃ own ∈ fields, has own.rawTag = true ∧ message own = message field

namespace DeclaredType

theorem kind_of_mem_planFindings (h : x ∈ t.planFindings u) :
    x.kind ≠ .deprecated ∧ x.kind ≠ .parseFailure := by
  unfold planFindings at h
  cases hd : t.directive?
  case none   => simp [hd] at h
  case some d => exact TypePlan.kind_of_mem_findings (hd ▸ h)

theorem mem_legacyFindings_iff : x ∈ t.legacyFindings m.toUniverse ↔
    ∃ handle, m.resolve t.name = .ok handle ∧
      ∃ field ∈ m.fieldTags handle, LegacyTag.has field.rawTag = true ∧
        LegacyTag.finding t.name field = x := by
  have hr : m.toUniverse.resolve t.name = m.resolve t.name := rfl
  unfold legacyFindings
  rw [hr]
  cases m.resolve t.name
  case error => simp
  case ok handle =>
    have hf : m.toUniverse.fields handle = m.fieldTags handle := rfl
    simp [LegacyTag.findings, hf, and_assoc]

theorem kind_of_mem_legacyFindings (h : x ∈ t.legacyFindings u) : x.kind = .deprecated := by
  unfold legacyFindings at h
  split at h
  case h_1 =>
    have ⟨_, _, hx⟩ := List.mem_map.mp h
    exact hx ▸ rfl
  case h_2 => cases h

-- Without the check a type leaves what it leaves with it, less the findings of the check.
theorem findings_unchecked : t.findings u false = (t.findings u true).filter (·.kind ≠ .deprecated) := by
  have hl : (t.legacyFindings u).filter (·.kind ≠ .deprecated) = [] := by
    simpa using fun x hx => kind_of_mem_legacyFindings hx
  have hp : (t.planFindings u).filter (·.kind ≠ .deprecated) = t.planFindings u := by
    simpa using fun x hx => (kind_of_mem_planFindings hx).left
  simp only [findings, if_true, Bool.false_eq_true, if_false, List.filter_append, hl, hp]

end DeclaredType

namespace SourceTree

variable {tree : SourceTree} {packageOf : String → String} {fs : List SourceFile} {i j : TypeItem}

theorem planFindings_unchecked :
    tree.planFindings false = (tree.planFindings true).filter (·.kind ≠ .deprecated) := by
  simp only [planFindings, List.filter_flatMap, DeclaredType.findings_unchecked]

-- The check for retired attributes takes no part in planning. With and without it the plans are the same,
-- and without it the findings are the others, in their order.
theorem legacyCheck_independent (tree : SourceTree) :
    ∃ plans checked unchecked,
      (tree.plan true).Yields plans checked ∧
      (tree.plan false).Yields plans unchecked ∧
      (∀ x ∈ unchecked, x.kind ≠ .deprecated) ∧
      unchecked = checked.filter (·.kind ≠ .deprecated) := by
  refine ⟨_, _, _, yields_plan, yields_plan, fun x hx => ?_, planFindings_unchecked⟩
  rw [planFindings_unchecked] at hx
  simpa using List.of_mem_filter hx

theorem mem_planFindings_iff (hk : x.kind = .deprecated) : x ∈ tree.planFindings true ↔
    ∃ t ∈ tree.types, x ∈ t.legacyFindings tree.model.toUniverse := by
  have hp (t : DeclaredType) : x ∉ t.planFindings tree.model.toUniverse :=
    fun h => (DeclaredType.kind_of_mem_planFindings h).left hk
  simp [planFindings, DeclaredType.findings, hp]

-- A field is reported under a name if the name resolves to a struct that has it, or one of the same text.
theorem finding_mem_planFindings_iff (hn : n ∈ tree.types.map (·.name)) :
    LegacyTag.finding n field ∈ tree.planFindings true ↔
      ∃ handle, tree.model.resolve n = .ok handle ∧
        LegacyTag.FoundIn (tree.model.fieldTags handle) field := by
  rw [mem_planFindings_iff rfl]
  simp only [DeclaredType.mem_legacyFindings_iff]
  constructor
  case mp =>
    intro ⟨t, _, handle, hr, own, ho, hl, he⟩
    simp only [LegacyTag.finding, Diagnostic.mk.injEq, Option.some.injEq, true_and] at he
    exact ⟨handle, he.left ▸ hr, own, ho, hl, he.right⟩
  case mpr =>
    intro ⟨handle, hr, own, ho, hl, he⟩
    obtain ⟨t, ht, rfl⟩ := List.mem_map.mp hn
    exact ⟨t, ht, handle, hr, own, ho, hl, by simp [LegacyTag.finding, he]⟩

theorem mem_names_types (hi : i ∈ fs.flatMap (·.typeItems)) :
    i.name ∈ (parsedTree packageOf fs).types.map (·.name) := by
  rw [(perm_types.map _).mem_iff, SourceFile.names_declaredTypes]
  exact List.mem_map_of_mem hi

-- The first declaration of a name is checked in place of every other one.
theorem finding_mem_iff_of_first (hi : i ∈ fs.flatMap (·.typeItems)) (hb : Builtin.isName i.name = false)
    (hj : (fs.flatMap (·.typeItems)).find? (·.name = i.name) = some j) (ha : j.isAlias = false) :
    LegacyTag.finding i.name field ∈ (parsedTree packageOf fs).planFindings true ↔
      LegacyTag.FoundIn j.fieldTags field := by
  have hn : j.name = i.name := by simpa using List.find?_some hj
  have ho : j.IsOwn (parsedTree packageOf fs).model := isOwn_of_first (hn ▸ hj) (hn ▸ hb) ha
  rw [finding_mem_planFindings_iff (mem_names_types hi), ←hn, ho.resolve_eq]
  simp [ho.fieldTags_eq]

theorem typeName_ne_of_builtin (hb : Builtin.isName i.name = true) (hx : x ∈ tree.planFindings true)
    (hk : x.kind = .deprecated) : x.typeName ≠ some i.name := by
  have ⟨t, _, h⟩ := (mem_planFindings_iff hk).mp hx
  obtain ⟨handle, hr, own, ho, _, rfl⟩ := DeclaredType.mem_legacyFindings_iff.mp h
  intro ht
  have hn : t.name = i.name := Option.some.inj ht
  rw [hn] at hr
  exact List.ne_nil_of_mem ho (TypeModel.fieldTags_builtin hb hr)

-- What the check for retired attributes finds under the name of an item.
structure LegacyChecked (tree : SourceTree) (items : List TypeItem) (found : List Diagnostic)
    (i : TypeItem) : Prop where
  -- The name is resolved, and the fields of what it resolves to are checked.
  resolved : ∀ field, LegacyTag.finding i.name field ∈ found ↔
    ∃ handle, tree.model.resolve i.name = .ok handle ∧
      LegacyTag.FoundIn (tree.model.fieldTags handle) field
  -- So the first declaration of the name is checked in place of every other one.
  first    : Builtin.isName i.name = false → ∀ j, items.find? (·.name = i.name) = some j →
    j.isAlias = false → ∀ field,
      LegacyTag.finding i.name field ∈ found ↔ LegacyTag.FoundIn j.fieldTags field
  -- No field is missed in the first declaration itself.
  own      : Builtin.isName i.name = false → items.find? (·.name = i.name) = some i →
    ∀ field ∈ i.fieldTags, LegacyTag.has field.rawTag = true → LegacyTag.finding i.name field ∈ found
  -- Under the name of a builtin type nothing is checked.
  builtin  : Builtin.isName i.name = true → ∀ x ∈ found, x.kind = .deprecated →
    x.typeName ≠ some i.name

-- Which fields with a retired attribute are reported depends on what the name of their struct means: all of
-- them if it stands for the struct, which it does not behind another declaration or a builtin type.
theorem legacyFields_checked (packageOf : String → String) (fs : List SourceFile) :
    ∃ tree plans found, (ofSources packageOf fs).Yields tree (SourceFile.parseFindings fs) ∧
      (tree.plan true).Yields plans found ∧
      ∀ i ∈ fs.flatMap (·.typeItems), LegacyChecked tree (fs.flatMap (·.typeItems)) found i := by
  refine ⟨_, _, _, yields_ofSources, yields_plan, fun i hi => ?_⟩
  exact {
    resolved := fun _ => finding_mem_planFindings_iff (mem_names_types hi)
    first    := fun hb j hj ha _ => finding_mem_iff_of_first hi hb hj ha
    own      := fun hb hf field hm hl =>
      (finding_mem_iff_of_first hi hb hf (TypeItem.isAlias_of_mem_fieldTags hm)).mpr ⟨field, hm, hl, rfl⟩
    builtin  := fun hb _ => typeName_ne_of_builtin hb }

-- Two structs of one name, the second with a retired attribute, and a struct with the name of a builtin type.
def bareItem : SourceFile :=
  ⟨"a.rs", "struct Item;"⟩

def taggedItem : SourceFile :=
  ⟨"b.rs", "struct Item { #[collgen(SumBy)] total: f64 }"⟩

def taggedBox : SourceFile :=
  ⟨"c.rs", "struct Box { #[collgen(MaxBy)] side: u32 }"⟩

def totalField : FieldTag :=
  ⟨"total", "# [collgen (SumBy)]"⟩

def sideField : FieldTag :=
  ⟨"side", "# [collgen (MaxBy)]"⟩

theorem legacyFields_checked_item :
    LegacyTag.has totalField.rawTag = true ∧ Builtin.isName "Item" = false ∧
    ∃ tree plans found, (ofSources id [taggedItem]).Yields tree (SourceFile.parseFindings [taggedItem]) ∧
      (tree.plan true).Yields plans found ∧ LegacyTag.finding "Item" totalField ∈ found := by
  have hl : LegacyTag.has totalField.rawTag = true := by decide +kernel
  have hb : Builtin.isName "Item" = false := by decide
  have hi : ([taggedItem].flatMap (·.typeItems)).map (fun i => (i.name, i.fieldTags)) =
      [("Item", [totalField])] := by
    decide +kernel
  obtain ⟨i, hs, he⟩ := List.map_eq_singleton_iff.mp hi
  obtain ⟨hn, ht⟩ : i.name = "Item" ∧ i.fieldTags = [totalField] := by simpa using he
  have ⟨tree, plans, found, hy, hp, hc⟩ := legacyFields_checked id [taggedItem]
  have hc : LegacyChecked tree [i] found i := by
    rw [hs] at hc
    exact hc i (by simp)
  refine ⟨hl, hb, tree, plans, found, hy, hp, ?_⟩
  rw [←hn]
  exact hc.own (hn ▸ hb) (by simp) totalField (by simp [ht]) hl

-- Both fields are left out, the one behind the other struct and the one behind the builtin type.
theorem legacyFields_unreported :
    ([taggedItem, taggedBox].flatMap (·.typeItems)).map (fun i => (i.name, i.fieldTags)) =
      [("Item", [totalField]), ("Box", [sideField])] ∧
    LegacyTag.has totalField.rawTag = true ∧ LegacyTag.has sideField.rawTag = true ∧
    ∃ tree plans, (ofSources id [bareItem, taggedItem, taggedBox]).Yields tree [] ∧
      (tree.plan true).Yields plans [] := by
  have hi : ([taggedItem, taggedBox].flatMap (·.typeItems)).map (fun i => (i.name, i.fieldTags)) =
      [("Item", [totalField]), ("Box", [sideField])] := by
    decide +kernel
  have hp : SourceFile.parseFindings [bareItem, taggedItem, taggedBox] = [] := by decide +kernel
  have hf : (parsedTree id [bareItem, taggedItem, taggedBox]).planFindings true = [] := by decide +kernel
  exact ⟨hi, by decide +kernel, by decide +kernel, _, _, hp ▸ yields_ofSources, hf ▸ yields_plan⟩

end SourceTree
end CollectionPlan
