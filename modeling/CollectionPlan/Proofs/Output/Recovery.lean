import CollectionPlan.Output.Format
import CollectionPlan.Proofs.Json.RoundTrip

-- Recovering a report from its document. Every part is looked up by its name.
namespace CollectionPlan

namespace Document

variable {α : Type}

def field? (name : String) : Document → Option Document
  | record fields => fields.lookup name
  | _             => none

def flag? : Document → Option Bool
  | flag b => some b
  | _      => none

def text? : Document → Option String
  | text s => some s
  | _      => none

def items? : Document → Option (List Document)
  | list ds => some ds
  | _       => none

def listOf? (read : Document → Option α) (d : Document) : Option (List α) :=
  d.items?.bind (·.mapM read)

def textsOf? : Document → Option (List String) :=
  listOf? text?

-- The part of a record with this name.
def part? (d : Document) (name : String) (read : Document → Option α) : Option α :=
  (d.field? name).bind read

-- A list is recovered if each of its items is.
theorem listOf?_map {read : Document → Option α} {write : α → Document}
    (h : ∀ x, read (write x) = some x) (xs : List α) :
    (list (xs.map write)).listOf? read = some xs := by
  induction xs
  case nil => rfl
  case cons x xs ih =>
    simp only [listOf?, items?, List.map_cons, List.mapM_cons, h, Option.bind_some] at ih ⊢
    simp [ih]

theorem textsOf?_texts (values : List String) : (texts values).textsOf? = some values := by
  have hv (s : String) : (text s).text? = some s := rfl
  exact listOf?_map hv values

end Document

def Requirement.ofLabel? : String → Option Requirement
  | "errors" => some errors
  | "sort"   => some sort
  | _        => none

-- A set is given by the ascending list of the names of its members.
def Requirements.ofLabels? (labels : List String) : Option Requirements :=
  if labels.Pairwise (· < ·) then
    (labels.mapM Requirement.ofLabel?).map fun members =>
      { errors := members.contains .errors, sort := members.contains .sort }
  else none

def Projection.ofDocument? (d : Document) : Option Projection := do
  let method ← d.part? "method" (·.text?)
  let target ← d.part? "target" (·.text?)
  return { method, target }

def TypePlan.ofDocument? (d : Document) : Option TypePlan := do
  let package              ← d.part? "package" (·.text?)
  let name                 ← d.part? "name" (·.text?)
  let pointer              ← d.part? "pointer" (·.flag?)
  let standardMethods      ← d.part? "standard_methods" (·.textsOf?)
  let projections          ← d.part? "projections" (·.listOf? Projection.ofDocument?)
  let labels               ← d.part? "requirements" (·.textsOf?)
  let requirements         ← Requirements.ofLabels? labels
  let requiresExtendedSort ← d.part? "requires_extended_sort" (·.flag?)
  return { package, name, pointer, standardMethods, projections, requirements, requiresExtendedSort }

def PackagePlan.ofDocument? (d : Document) : Option PackagePlan := do
  let name  ← d.part? "name" (·.text?)
  let types ← d.part? "types" (·.listOf? TypePlan.ofDocument?)
  return { name, types }

namespace Diagnostic

def Kind.ofKey? : String → Option Kind
  | "unknown_method"             => some unknownMethod
  | "unresolved_type"            => some unresolvedType
  | "inconsistent_configuration" => some inconsistentConfiguration
  | "deprecated"                 => some deprecated
  | "parse_failure"              => some parseFailure
  | _                            => none

-- There is no name if there is no such field. A field that is there has a text.
def typeName? (d : Document) : Option (Option String) :=
  match d.field? "type_name" with
  | none      => some none
  | some name => name.text?.map some

def ofDocument? (d : Document) : Option Diagnostic := do
  let key      ← d.part? "kind" (·.text?)
  let kind     ← Kind.ofKey? key
  let typeName ← typeName? d
  let message  ← d.part? "message" (·.text?)
  return { kind, typeName, message }

end Diagnostic

def Report.ofDocument? (d : Document) : Option Report := do
  let packages    ← d.part? "packages" (·.listOf? PackagePlan.ofDocument?)
  let diagnostics ← d.part? "diagnostics" (·.listOf? Diagnostic.ofDocument?)
  return { packages, diagnostics }

theorem Requirements.ofLabels?_labels (r : Requirements) : ofLabels? r.labels = some r := by
  cases r with | mk e s => cases e <;> cases s <;> decide

theorem Projection.ofDocument?_document (p : Projection) : ofDocument? p.document = some p :=
  rfl

theorem TypePlan.ofDocument?_document (p : TypePlan) : ofDocument? p.document = some p := by
  have hk : p.document.part? "package" (·.text?) = some p.package := rfl
  have hn : p.document.part? "name" (·.text?) = some p.name := rfl
  have hi : p.document.part? "pointer" (·.flag?) = some p.pointer := rfl
  have hm : p.document.part? "standard_methods" (·.textsOf?) = some p.standardMethods :=
    Document.textsOf?_texts _
  have hp : p.document.part? "projections" (·.listOf? Projection.ofDocument?) = some p.projections :=
    Document.listOf?_map Projection.ofDocument?_document _
  have hl : p.document.part? "requirements" (·.textsOf?) = some p.requirements.labels :=
    Document.textsOf?_texts _
  have he : p.document.part? "requires_extended_sort" (·.flag?) = some p.requiresExtendedSort := rfl
  simp only [ofDocument?, hk, hn, hi, hm, hp, hl, he, Requirements.ofLabels?_labels,
    Option.bind_eq_bind, Option.bind_some]
  rfl

theorem PackagePlan.ofDocument?_document (p : PackagePlan) : ofDocument? p.document = some p := by
  have hn : p.document.part? "name" (·.text?) = some p.name := rfl
  have ht : p.document.part? "types" (·.listOf? TypePlan.ofDocument?) = some p.types :=
    Document.listOf?_map TypePlan.ofDocument?_document _
  simp only [ofDocument?, hn, ht]
  rfl

namespace Diagnostic

theorem Kind.ofKey?_key (k : Kind) : ofKey? k.key = some k := by
  cases k <;> rfl

theorem field?_typeName (d : Diagnostic) :
    d.document.field? "type_name" = d.typeName.map .text := by
  cases d with | mk kind typeName message => cases typeName <;> rfl

theorem ofDocument?_document (d : Diagnostic) : ofDocument? d.document = some d := by
  have hn : typeName? d.document = some d.typeName := by
    rw [typeName?, field?_typeName]
    cases d.typeName <;> rfl
  have hk : d.document.part? "kind" (·.text?) = some d.kind.key := rfl
  have hm : d.document.part? "message" (·.text?) = some d.message := by
    cases d with | mk kind typeName message => cases typeName <;> rfl
  simp only [ofDocument?, hk, hn, hm, Kind.ofKey?_key, Option.bind_eq_bind, Option.bind_some]
  rfl

end Diagnostic

namespace Report

variable {colors colors' : Bool} {r r' : Report}

theorem ofDocument?_document (r : Report) : ofDocument? r.document = some r := by
  have hp : r.document.part? "packages" (·.listOf? PackagePlan.ofDocument?) = some r.packages :=
    Document.listOf?_map PackagePlan.ofDocument?_document _
  have hd : r.document.part? "diagnostics" (·.listOf? Diagnostic.ofDocument?) = some r.diagnostics :=
    Document.listOf?_map Diagnostic.ofDocument?_document _
  simp only [ofDocument?, hp, hd]
  rfl

theorem document_eq_iff : r.document = r'.document ↔ r = r' where
  mpr h := h ▸ rfl
  mp h  := Option.some.inj <| by rw [←ofDocument?_document r, h, ofDocument?_document]

theorem typeNames_document :
    ∃ findings, r.document.part? "diagnostics" (·.items?) = some findings ∧
      findings.map (·.field? "type_name") = r.diagnostics.map (·.typeName.map .text) :=
  ⟨_, rfl, by simp [Diagnostic.field?_typeName]⟩

-- The text is one record and a line break behind it, and the report is recovered from that record.
-- A finding has a field for its type exactly if it belongs to one. So a text has only one report.
theorem json_recovered :
    (∃ text d, OutputFormat.json.report colors r = text ++ "\n" ∧
      (∃ inside, text.toList = '\x7b' :: inside ++ ['\x7d']) ∧
      Json.read? text = some d ∧
      ofDocument? d = some r ∧
      ∃ findings, d.part? "diagnostics" (·.items?) = some findings ∧
        findings.map (·.field? "type_name") = r.diagnostics.map (·.typeName.map .text)) ∧
    (OutputFormat.json.report colors r = OutputFormat.json.report colors' r' ↔ r = r') := by
  constructor
  · refine ⟨_, _, Json.render_eq, ?_, Json.read?_value, ofDocument?_document r, typeNames_document⟩
    simpa [document] using Json.value_record
  · exact Json.render_eq_iff.trans document_eq_iff

end Report
end CollectionPlan
