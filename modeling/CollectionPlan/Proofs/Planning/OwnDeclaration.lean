import CollectionPlan.Proofs.Planning.FileOrder
import CollectionPlan.Proofs.Resolution.OwnName

namespace CollectionPlan

-- Under distinct keys no other element has the key of an element.
theorem filter_key_eq_singleton [DecidableEq κ] {key : α → κ} {xs : List α} (hn : (xs.map key).Nodup)
    (hx : x ∈ xs) : xs.filter (key · = key x) = [x] := by
  obtain ⟨before, after, rfl⟩ := List.append_of_mem hx
  simp only [List.map_append, List.map_cons, List.nodup_middle, List.nodup_cons, List.mem_append,
    List.mem_map, not_or, not_exists, not_and] at hn
  have hb : before.filter (key · = key x) = [] := by simpa using hn.left.left
  have ha : after.filter (key · = key x) = [] := by simpa using hn.left.right
  simp [hb, ha]

theorem Directive.name_ofDoc? (h : ofDoc? doc type = some d) : d.name = type := by
  have ⟨_, _, hl⟩ := Option.map_eq_some_iff.mp h
  exact hl ▸ name_ofLine

namespace TypeItem

def isAlias (i : TypeItem) : Bool :=
  i.lower.isAlias

-- The fields that an item is written with. The fields of a tuple are named by their places.
def fieldTags (i : TypeItem) : List FieldTag :=
  match i.body with
  | .struct fields => fields.mapIdx fun k f => ⟨f.name.getD (toString k), Attribute.rawTag f.attrs⟩
  | .alias _       => []
  | .enum _        => []

-- What a type is capable of by its own declaration.
def ownTraits (m : TypeModel) (i : TypeItem) : Traits where
  numeric    := false
  comparable := (TypeExpr.tuple i.lower.members).comparableWith (m.comparableName (m.size - 1) [i.name])
  ordered    := false

-- The name of an item means the item: it resolves to itself, with its own fields, and its traits are those
-- of the declaration that it is lowered to.
structure IsOwn (m : TypeModel) (i : TypeItem) : Prop where
  resolve_eq   : m.resolve i.name = .ok ⟨i.name, .named i.name⟩
  fieldTags_eq : m.fieldTags ⟨i.name, .named i.name⟩ = i.fieldTags
  find?_eq     : m.find? i.name = some i.lower
  traits_eq    : m.traits ⟨i.name, .named i.name⟩ = i.ownTraits m

variable {m : TypeModel} {i : TypeItem}

theorem fieldTags_lower :
    (i.lower.fields.map fun f => (⟨f.name, f.rawTag⟩ : FieldTag)) = i.fieldTags := by
  unfold lower fieldTags Declaration.fields
  cases i.body
  case struct => simp [lowerFields, lowerField, List.mapIdx_eq_zipIdx_map]
  all_goals rfl

theorem isOwn_of_find? (hb : Builtin.isName i.name = false) (hd : m.find? i.name = some i.lower)
    (ha : i.isAlias = false) : i.IsOwn m where
  resolve_eq   := TypeModel.resolve_declared hb hd ha
  fieldTags_eq := (TypeModel.fieldTags_named hd).trans fieldTags_lower
  find?_eq     := hd
  traits_eq    := by rw [TypeModel.traits_declared hd ha, TypeModel.comparable_declared hd, ownTraits]

-- The standard methods of a directive that a type is capable of by its own declaration.
def ownMethods (m : TypeModel) (i : TypeItem) (d : Directive) : List String :=
  (Candidates.selected d).standard.filter (Catalog.standard.approves (i.ownTraits m))

theorem IsOwn.approvedStandard_eq (h : i.IsOwn m) (hd : Directive.ofDoc? i.doc i.name = some d) :
    TypePlan.approvedStandard m.toUniverse d (Candidates.selected d).standard = i.ownMethods m d := by
  have hn : d.name = i.name := Directive.name_ofDoc? hd
  simp only [TypePlan.approvedStandard, TypeModel.toUniverse, hn, h.resolve_eq, h.traits_eq, ownMethods]

end TypeItem

namespace DeclaredType

variable {u : Universe} {t : DeclaredType} {package n : String}

def approvedMethods? (u : Universe) (t : DeclaredType) : Option (List String) :=
  (Directive.ofDoc? t.doc t.name).map fun d =>
    TypePlan.approvedStandard u d (Candidates.selected d).standard

theorem standardMethods_planned? : ((t.planned? u package).filter (·.name = n)).map (·.standardMethods) =
    if t.name = n then t.approvedMethods? u else none := by
  have hp : t.planned? u package = (Directive.ofDoc? t.doc t.name).map (.approved u package) := rfl
  rw [hp, approvedMethods?]
  cases hd : Directive.ofDoc? t.doc t.name
  case none   => simp
  case some d =>
    have hn : (TypePlan.approved u package d).name = t.name := Directive.name_ofDoc? hd
    by_cases h : t.name = n
    case pos =>
      rw [Option.map_some, Option.filter_some_pos (by simp [hn, h]), if_pos h]
      rfl
    case neg =>
      rw [Option.map_some, Option.filter_some_neg (by simp [hn, h]), if_neg h]
      rfl

end DeclaredType

namespace SourceTree

variable {tree : SourceTree} {packageOf : String → String} {fs : List SourceFile} {i : TypeItem}

-- What is planned under a name is planned for the types of the name.
theorem standardMethods_planned :
    ((tree.planned.flatMap (·.types)).filter (·.name = n)).map (·.standardMethods) =
      (tree.types.filter (·.name = n)).filterMap (·.approvedMethods? tree.model.toUniverse) := by
  simp [types_planned, PackagePlan.plannedTypes, types, List.filter_flatMap, List.map_flatMap,
    List.filterMap_flatMap, List.filter_filterMap, List.map_filterMap, List.filterMap_filter,
    DeclaredType.standardMethods_planned?]

-- The first declaration of a name is what the name means, unless a builtin type hides it.
theorem isOwn_of_first (hf : (fs.flatMap (·.typeItems)).find? (·.name = i.name) = some i)
    (hb : Builtin.isName i.name = false) (ha : i.isAlias = false) :
    i.IsOwn (parsedTree packageOf fs).model := by
  refine TypeItem.isOwn_of_find? hb ?_ ha
  rw [find?_model, hf, Option.map_some]

-- A type is declared by its item and by no other.
theorem types_of_item (hn : ((fs.flatMap (·.typeItems)).map (·.name)).Nodup)
    (hi : i ∈ fs.flatMap (·.typeItems)) :
    ∃ file, (parsedTree packageOf fs).types.filter (·.name = i.name) = [⟨i.name, i.doc, file⟩] := by
  have ⟨f, hf, hi⟩ := List.mem_flatMap.mp hi
  have ht : ⟨i.name, i.doc, f.path⟩ ∈ fs.flatMap (·.declaredTypes) :=
    List.mem_flatMap.mpr ⟨f, hf, List.mem_map.mpr ⟨i, hi, rfl⟩⟩
  rw [←SourceFile.names_declaredTypes] at hn
  refine ⟨f.path, List.perm_singleton.mp ?_⟩
  exact filter_key_eq_singleton hn ht ▸ perm_types.filter _

-- Names that are distinct and not those of builtin types stand for their own declarations: a struct or an
-- enum resolves to itself, with its own fields and the traits of its own members, and its standard methods
-- are gated on these.
theorem own_declarations (packageOf : String → String) (fs : List SourceFile)
    (hn : ((fs.flatMap (·.typeItems)).map (·.name)).Nodup)
    (hb : ∀ i ∈ fs.flatMap (·.typeItems), Builtin.isName i.name = false) :
    ∃ tree plans, (ofSources packageOf fs).Yields tree (SourceFile.parseFindings fs) ∧
      (∀ legacyCheck, ∃ found, (tree.plan legacyCheck).Yields plans found) ∧
      ∀ i ∈ fs.flatMap (·.typeItems), i.isAlias = false →
        i.IsOwn tree.model ∧
        ((plans.flatMap (·.types)).filter (·.name = i.name)).map (·.standardMethods) =
          ((Directive.ofDoc? i.doc i.name).map (i.ownMethods tree.model)).toList := by
  refine ⟨_, _, yields_ofSources, fun _ => ⟨_, yields_plan⟩, fun i hi ha => ?_⟩
  have ho : i.IsOwn (parsedTree packageOf fs).model :=
    isOwn_of_first ((find?_key_eq_some_iff hn).mpr ⟨hi, rfl⟩) (hb i hi) ha
  have ⟨file, ht⟩ : ∃ file,
      (parsedTree packageOf fs).types.filter (·.name = i.name) = [⟨i.name, i.doc, file⟩] :=
    types_of_item hn hi
  refine ⟨ho, ?_⟩
  rw [standardMethods_planned, ht]
  cases hd : Directive.ofDoc? i.doc i.name
  case none   => simp [DeclaredType.approvedMethods?, hd]
  case some d => simp [DeclaredType.approvedMethods?, hd, ho.approvedStandard_eq hd]

-- A generic struct with a raw name, and an enum whose name goes beyond ASCII.
def toolStruct : SourceFile :=
  ⟨"tools/lib.rs", "/// +gen methods:\"Distinct\"\nstruct r#union<T> { #[collgen(MaxBy)] a: Größe, b: T }"⟩

def sizeEnum : SourceFile :=
  ⟨"tools/size.rs", "/// +gen\nenum Größe { Klein(u8), Keine }"⟩

theorem own_declarations_tools :
    ([toolStruct, sizeEnum].flatMap (·.typeItems)).map (fun i => (i.name, i.isAlias)) =
      [("r#union", false), ("Größe", false)] ∧
    ∃ tree plans,
      (ofSources (fun _ => "tools") [toolStruct, sizeEnum]).Yields tree
        (SourceFile.parseFindings [toolStruct, sizeEnum]) ∧
      (∀ legacyCheck, ∃ found, (tree.plan legacyCheck).Yields plans found) ∧
      ∀ i ∈ [toolStruct, sizeEnum].flatMap (·.typeItems), i.IsOwn tree.model ∧
        ((plans.flatMap (·.types)).filter (·.name = i.name)).map (·.standardMethods) =
          ((Directive.ofDoc? i.doc i.name).map (i.ownMethods tree.model)).toList := by
  have hi : ([toolStruct, sizeEnum].flatMap (·.typeItems)).map (fun i => (i.name, i.isAlias)) =
      [("r#union", false), ("Größe", false)] := by
    decide +kernel
  have hm : ∀ i ∈ [toolStruct, sizeEnum].flatMap (·.typeItems),
      (i.name, i.isAlias) ∈ [("r#union", false), ("Größe", false)] :=
    fun i h => hi ▸ List.mem_map_of_mem h
  have hn : ([toolStruct, sizeEnum].flatMap (·.typeItems)).map (·.name) = ["r#union", "Größe"] := by
    simpa only [List.map_map, Function.comp_def, List.map_cons, List.map_nil] using
      congrArg (List.map Prod.fst) hi
  have hb : ∀ p ∈ [("r#union", false), ("Größe", false)], Builtin.isName p.1 = false := by decide
  have ha : ∀ p ∈ [("r#union", false), ("Größe", false)], p.2 = false := by decide
  have ⟨tree, plans, ht, hp, ho⟩ := own_declarations (fun _ => "tools") [toolStruct, sizeEnum]
    (hn ▸ by decide) fun i h => hb _ (hm i h)
  exact ⟨hi, tree, plans, ht, hp, fun i h => ho i h (ha _ (hm i h))⟩

end SourceTree
end CollectionPlan
