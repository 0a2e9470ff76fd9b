import CollectionPlan.Output.Format
import CollectionPlan.Proofs.Terminal.Stripping
import Mathlib.Data.List.Forall2

namespace CollectionPlan

-- All texts of a report.

def Projection.texts (p : Projection) : List String :=
  [p.method, p.target]

def TypePlan.texts (p : TypePlan) : List String :=
  p.package :: p.name :: p.standardMethods ++ p.projections.flatMap (·.texts)

def PackagePlan.texts (p : PackagePlan) : List String :=
  p.name :: p.types.flatMap (·.texts)

def Diagnostic.texts (d : Diagnostic) : List String :=
  d.typeName.toList ++ [d.message]

def Report.texts (r : Report) : List String :=
  r.packages.flatMap (·.texts) ++ r.diagnostics.flatMap (·.texts)

namespace Terminal

variable {colors : Bool} {items lines₁ lines₂ : List String} {title : String} {α : Type} {xs : List α}
  {r : Report} {c : Catalog} {t : Template}

-- The texts that are made on the way.

theorem isPlain_rule : IsPlain rule :=
  .replicate (by decide)

theorem isPlain_padded {name : String} (h : IsPlain name) : IsPlain (padded name) :=
  .append h (.replicate (by decide))

theorem isPlain_listed (h : ∀ s ∈ items, IsPlain s) : IsPlain (listed items) := by
  unfold listed
  split
  · decide
  · exact .intercalate (by decide) h

theorem isPlain_supportLabels (p : TypePlan) : ∀ s ∈ supportLabels p, IsPlain s := by
  have hl (q : Requirement) : IsPlain q.label := by cases q <;> decide
  intro s h
  rcases List.mem_append.mp h with h | h
  · obtain ⟨q, -, rfl⟩ := List.mem_map.mp h
    exact hl q
  · split at h
    · exact List.mem_singleton.mp h ▸ (by decide)
    · cases h

theorem isPlain_elementType {p : TypePlan} (h : IsPlain p.name) : IsPlain p.elementType := by
  unfold TypePlan.elementType
  split
  · exact .append (by decide) h
  · exact h

theorem isPlain_summary : IsPlain (summary r) :=
  have ht := (IsPlain.repr r.typeCount).append (t := " types in ") (by decide)
  have hp := (ht.append (.repr r.packages.length)).append (t := " packages, ") (by decide)
  (hp.append (.repr r.diagnostics.length)).append (t := " diagnostics") (by decide)

theorem isPlain_label : IsPlain t.label := by
  have hd : ∀ s ∈ t.demands, IsPlain s := by
    intro s h
    simp only [Template.demands, List.mem_append, List.mem_ite_nil_right, List.mem_singleton] at h
    rcases h with (⟨-, rfl⟩ | ⟨-, rfl⟩) | ⟨-, rfl⟩ <;> decide
  exact isPlain_listed hd

theorem forall₂_map_map {β γ : Type} {R : β → γ → Prop} {f : α → β} {g : α → γ}
    (h : ∀ x ∈ xs, R (f x) (g x)) : List.Forall₂ R (xs.map f) (xs.map g) := by
  simpa [List.forall₂_map_left_iff, List.forall₂_map_right_iff, List.forall₂_same] using h

theorem shows_flatMap {f g : α → List String} (h : ∀ x ∈ xs, List.Forall₂ Shows (f x) (g x)) :
    List.Forall₂ Shows (xs.flatMap f) (xs.flatMap g) := by
  rw [List.flatMap_def, List.flatMap_def]
  exact List.rel_flatten (forall₂_map_map h)

theorem page_cons {line : String} {lines : List String} :
    page (line :: lines) = line ++ "\n" ++ page lines := by
  rw [page, List.map_cons, String.join_cons, ←page]

-- What holds line by line holds of a page.
theorem shows_page (h : List.Forall₂ Shows lines₁ lines₂) : Shows (page lines₁) (page lines₂) := by
  induction h
  case nil => exact .of_plain (by decide)
  case cons hl _ ih =>
    rw [page_cons, page_cons]
    exact (hl.append_plain (by decide)).append ih

-- One lemma for each writer: its colored lines show its plain ones.

theorem shows_blankLine : List.Forall₂ Shows [""] [""] :=
  .cons (.of_plain (by decide)) .nil

theorem shows_header (h : IsPlain title) :
    List.Forall₂ Shows (header colors title) (header false title) := by
  have he : Shows "" "" := .of_plain (by decide)
  have hr : Shows ((colored .cyan).paint colors rule) ((colored .cyan).paint false rule) :=
    .paint isPlain_rule
  exact .cons he <| .cons hr <| .cons (.paint (.append (by decide) h)) <| .cons hr shows_blankLine

theorem shows_typeLines {p : TypePlan} (h : ∀ s ∈ p.texts, IsPlain s) :
    List.Forall₂ Shows (typeLines colors p) (typeLines false p) := by
  simp only [TypePlan.texts, List.cons_append, List.forall_mem_cons, List.forall_mem_append,
    List.forall_mem_flatMap] at h
  have ⟨_, hn, hs, hp⟩ := h
  have hm : ∀ s ∈ p.projections.map (·.methodName), IsPlain s := by
    simp only [List.forall_mem_map]
    intro q hq
    have ht := hp q hq
    simp only [Projection.texts, List.forall_mem_cons] at ht
    exact .append ht.left ht.right.left
  have hl {front : String} {items : List String} (hf : IsPlain front) (hi : ∀ s ∈ items, IsPlain s) :
      Shows (front ++ listed items) (front ++ listed items) :=
    .of_plain (.append hf (isPlain_listed hi))
  refine .cons ?_ <| .cons (hl (by decide) hs) <| .cons (hl (by decide) hm) <|
    .cons (hl (by decide) (isPlain_supportLabels p)) .nil
  have hc : Shows ((boldColored .green).paint colors p.name) ((boldColored .green).paint false p.name) :=
    .paint hn
  have he := (hc.plain_append (t := "  ") (by decide)).append_plain (t := " (element ") (by decide)
  exact (he.append_plain (isPlain_elementType hn)).append_plain (by decide)

theorem shows_packageLines {p : PackagePlan} (h : ∀ s ∈ p.texts, IsPlain s) :
    List.Forall₂ Shows (packageLines colors p) (packageLines false p) := by
  simp only [PackagePlan.texts, List.forall_mem_cons, List.forall_mem_flatMap] at h
  have ⟨hn, ht⟩ := h
  have hk : Shows (bold.paint colors "package") (bold.paint false "package") := .paint (by decide)
  have hc : Shows (bold.paint colors p.name) (bold.paint false p.name) := .paint hn
  have hl := ((hk.plain_append (t := "📦 ") (by decide)).append_plain (t := " ") (by decide)).append hc
  exact List.rel_append (.cons hl (shows_flatMap fun q hq => shows_typeLines (ht q hq)))
    shows_blankLine

theorem shows_diagnosticLine {d : Diagnostic} (h : ∀ s ∈ d.texts, IsPlain s) :
    Shows (diagnosticLine colors d) (diagnosticLine false d) := by
  have hm : IsPlain d.message := h _ (by simp [Diagnostic.texts])
  have hp (k : Diagnostic.Kind) : IsPlain k.label := by cases k <;> decide
  have hk : Shows ((colored .yellow).paint colors d.kind.label)
      ((colored .yellow).paint false d.kind.label) :=
    .paint (hp _)
  exact ((hk.plain_append (by decide)).append_plain (by decide)).append_plain hm

theorem shows_diagnosticLines {ds : List Diagnostic} (h : ∀ d ∈ ds, ∀ s ∈ d.texts, IsPlain s) :
    List.Forall₂ Shows (diagnosticLines colors ds) (diagnosticLines false ds) := by
  unfold diagnosticLines
  split
  · exact .nil
  · have ht : Shows ((boldColored .yellow).paint colors "DIAGNOSTICS")
        ((boldColored .yellow).paint false "DIAGNOSTICS") :=
      .paint (by decide)
    have hc := (ht.plain_append (t := "⚠️  ") (by decide)).append_plain (t := " (") (by decide)
    have hl := (hc.append_plain (.repr ds.length)).append_plain (t := ")") (by decide)
    exact List.rel_append (.cons hl (forall₂_map_map fun d hd => shows_diagnosticLine (h d hd)))
      shows_blankLine

theorem shows_summaryLine : Shows (summaryLine colors r) (summaryLine false r) := by
  unfold summaryLine
  split
  · exact .plain_append (.paint isPlain_summary) (by decide)
  · exact .plain_append (.paint isPlain_summary) (by decide)

theorem shows_reportLines (h : ∀ s ∈ r.texts, IsPlain s) :
    List.Forall₂ Shows (reportLines colors r) (reportLines false r) := by
  simp only [Report.texts, List.forall_mem_append, List.forall_mem_flatMap] at h
  have ⟨hp, hd⟩ := h
  have hl := shows_flatMap (f := packageLines colors) fun p hm => shows_packageLines (hp p hm)
  exact List.rel_append (List.rel_append (List.rel_append (shows_header (by decide)) hl)
    (shows_diagnosticLines hd)) (.cons shows_summaryLine .nil)

theorem shows_templateLine (h : IsPlain t.name) :
    Shows (templateLine colors t) (templateLine false t) := by
  have hl : Shows (dimmed.paint colors t.label) (dimmed.paint false t.label) := .paint isPlain_label
  have hf : IsPlain ("  " ++ padded t.name ++ " ") :=
    .append (.append (by decide) (isPlain_padded h)) (by decide)
  exact hl.plain_append hf

theorem shows_catalogSection (title : String) (ht : IsPlain title)
    (hc : ∀ t ∈ c.templates, IsPlain t.name) :
    List.Forall₂ Shows (catalogSection colors title c) (catalogSection false title c) := by
  have hp : Shows (bold.paint colors title) (bold.paint false title) := .paint ht
  have hn := (hp.append_plain (t := " (") (by decide)).append_plain (.repr c.templates.length)
  have hl := hn.append_plain (t := ")") (by decide)
  exact List.rel_append (.cons hl (forall₂_map_map fun t hm => shows_templateLine (hc t hm)))
    shows_blankLine

-- Every name is plain and fits its column.
theorem templateName (h : t ∈ Catalog.standard.templates ++ Catalog.projection.templates) :
    IsPlain t.name ∧ t.name.length ≤ 16 := by
  have hn : ∀ t ∈ Catalog.standard.templates ++ Catalog.projection.templates,
      IsPlain t.name ∧ t.name.length ≤ 16 := by
    decide
  exact hn t h

theorem shows_catalogLines : List.Forall₂ Shows (catalogLines colors) (catalogLines false) :=
  have hs := shows_catalogSection "Standard methods" (by decide)
    fun _ ht => (templateName <| List.mem_append_left _ ht).left
  have hp := shows_catalogSection "Projection methods" (by decide)
    fun _ ht => (templateName <| List.mem_append_right _ ht).left
  List.rel_append (List.rel_append (shows_header (by decide)) hs) hp

theorem mem_catalogLines (h : t ∈ Catalog.standard.templates ++ Catalog.projection.templates) :
    templateLine colors t ∈ catalogLines colors := by
  have hs {title : String} {c : Catalog} (h : t ∈ c.templates) :
      templateLine colors t ∈ catalogSection colors title c :=
    List.mem_append_left _ <| List.mem_cons_of_mem _ <| List.mem_map_of_mem h
  rcases List.mem_append.mp h with h | h
  · exact List.mem_append_left _ <| List.mem_append_right _ (hs h)
  · exact List.mem_append_right _ (hs h)

-- What a template demands stands in one column: two spaces, sixteen characters and one more space
-- are in front of it.
theorem templateLine_columns (h : t.name.length ≤ 16) :
    ∃ gap, 0 < gap ∧ 2 + t.name.length + gap = 19 ∧
      templateLine false t = "  " ++ t.name ++ String.ofList (List.replicate gap ' ') ++ t.label := by
  refine ⟨16 - t.name.length + 1, by omega, by omega, ?_⟩
  have hl : templateLine false t = "  " ++ padded t.name ++ " " ++ t.label := rfl
  have hg : (" " : String) = String.ofList [' '] := rfl
  rw [hl, padded, List.replicate_succ', String.ofList_append, hg]
  simp only [String.append_assoc]

-- The first character that a header paints tells a colored page from a plain one.
theorem header_ne {lines lines' : List String} :
    page (header true title ++ lines) ≠ page (header false title ++ lines') := by
  have hp (colors : Bool) (lines : List String) : ∃ rest, (page (header colors title ++ lines)).toList =
      '\n' :: (((colored .cyan).paint colors rule).toList ++ rest) := by
    simp only [header, List.cons_append, page_cons, String.toList_append, List.append_assoc]
    exact ⟨_, rfl⟩
  have hc : ∃ rest, ((colored .cyan).paint true rule).toList = '\x1b' :: rest :=
    ⟨_, String.toList_ofList⟩
  have hn : ((colored .cyan).paint false rule).toList = '═' :: List.replicate 42 '═' :=
    String.toList_ofList
  have ⟨_, hc⟩ := hc
  have ⟨_, ht⟩ := hp true lines
  have ⟨_, hf⟩ := hp false lines'
  intro h
  simp [h, hf, hn, hc] at ht

-- Colors are decoration only: without its sequences a colored text is the text that is written
-- without colors. In particular, the columns of the catalogs stay where they are.
theorem colors_decorate (h : ∀ s ∈ r.texts, IsPlain s) :
    (∀ colors, stripped (OutputFormat.terminal.report colors r) = OutputFormat.terminal.report false r) ∧
    OutputFormat.terminal.report true r ≠ OutputFormat.terminal.report false r ∧
    (∀ colors, stripped (OutputFormat.terminal.catalog colors) = OutputFormat.terminal.catalog false) ∧
    OutputFormat.terminal.catalog true ≠ OutputFormat.terminal.catalog false ∧
    ∀ t ∈ Catalog.standard.templates ++ Catalog.projection.templates, ∃ gap,
      0 < gap ∧ 2 + t.name.length + gap = 19 ∧ ∀ colors, ∃ line ∈ catalogLines colors,
        stripped line = "  " ++ t.name ++ String.ofList (List.replicate gap ' ') ++ t.label := by
  refine ⟨fun _ => (shows_page (shows_reportLines h)).stripped_eq, ?_,
    fun _ => (shows_page shows_catalogLines).stripped_eq, ?_, fun t ht => ?_⟩
  case refine_1 =>
    simp only [OutputFormat.report, reportLines, List.append_assoc]
    exact header_ne
  case refine_2 =>
    simp only [OutputFormat.catalog, catalogLines, List.append_assoc]
    exact header_ne
  case refine_3 =>
    have ⟨hn, hl⟩ := templateName ht
    have ⟨gap, hp, hs, he⟩ := templateLine_columns hl
    exact ⟨gap, hp, hs, fun colors =>
      ⟨_, mem_catalogLines ht, he ▸ (shows_templateLine hn).stripped_eq⟩⟩

-- Two packages, one of them with a name beyond ASCII, and two findings.
def quayReport : Report where
  packages := [
    { name  := "quay"
      types := [
        { package := "quay", name := "Crane", pointer := true, standardMethods := ["Sort", "SortBy"],
          projections := [⟨"GroupBy", "Dock"⟩], requirements := { sort := true },
          requiresExtendedSort := true },
        { package := "quay", name := "Dock", pointer := false }] },
    { name := "kai_größe", types := [] }]
  diagnostics := [
    ⟨.unknownMethod, some "Crane", "unknown standard method Lift"⟩,
    ⟨.parseFailure, none, "failed to parse quay/ship.rs"⟩]

theorem colors_decorate_quay :
    (∀ s ∈ quayReport.texts, IsPlain s) ∧
    stripped (OutputFormat.terminal.report true quayReport) =
      OutputFormat.terminal.report false quayReport ∧
    OutputFormat.terminal.report true quayReport ≠ OutputFormat.terminal.report false quayReport ∧
    ∃ line ∈ catalogLines true, stripped line = "  Average          numeric" := by
  have h : ∀ s ∈ quayReport.texts, IsPlain s := by decide
  have ⟨hs, hn, _, _, hc⟩ := colors_decorate h
  have ⟨gap, _, hg, ht⟩ := hc { name := "Average", numeric := true } (by decide)
  have ⟨line, hl, he⟩ := ht true
  have hw : gap = 10 := Nat.add_left_cancel (n := 9) hg
  exact ⟨h, hs true, hn, line, hl, he.trans (hw ▸ rfl)⟩

end Terminal
end CollectionPlan
