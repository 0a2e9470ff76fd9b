import CollectionPlan.Catalog
import CollectionPlan.Plan.Report
import CollectionPlan.Terminal.Style

-- Reports and catalogs for people, line by line.
namespace CollectionPlan.Terminal

def bold : Style where
  bold := true

def dimmed : Style where
  dimmed := true

def colored (c : Color) : Style where
  color := some c

def boldColored (c : Color) : Style where
  bold  := true
  color := some c

def rule : String :=
  String.ofList (List.replicate 43 '═')

def header (colors : Bool) (title : String) : List String :=
  let rule := (colored .cyan).paint colors rule
  ["", rule, (boldColored .cyan).paint colors ("           " ++ title), rule, ""]

def listed (items : List String) : String :=
  if items.isEmpty then "-" else ", ".intercalate items

def supportLabels (p : TypePlan) : List String :=
  p.requirements.labels ++ if p.requiresExtendedSort then ["extended sort"] else []

def typeLines (colors : Bool) (p : TypePlan) : List String :=
  let name := (boldColored .green).paint colors p.name
  [s!"  {name} (element {p.elementType})",
    "    standard:    " ++ listed p.standardMethods,
    "    projections: " ++ listed (p.projections.map (·.methodName)),
    "    requires:    " ++ listed (supportLabels p)]

def packageLines (colors : Bool) (p : PackagePlan) : List String :=
  let kind := bold.paint colors "package"
  let name := bold.paint colors p.name
  s!"📦 {kind} {name}" :: p.types.flatMap (typeLines colors) ++ [""]

def diagnosticLine (colors : Bool) (d : Diagnostic) : String :=
  let kind := (colored .yellow).paint colors d.kind.label
  s!"  [{kind}] {d.message}"

def diagnosticLines (colors : Bool) (ds : List Diagnostic) : List String :=
  if ds.isEmpty then []
  else
    let title := (boldColored .yellow).paint colors "DIAGNOSTICS"
    s!"⚠️  {title} ({ds.length})" :: ds.map (diagnosticLine colors) ++ [""]

def summary (r : Report) : String :=
  s!"{r.typeCount} types in {r.packages.length} packages, {r.diagnostics.length} diagnostics"

def summaryLine (colors : Bool) (r : Report) : String :=
  if r.diagnostics.isEmpty then "✅ " ++ (colored .green).paint colors (summary r)
  else "ℹ️  " ++ (colored .yellow).paint colors (summary r)

def reportLines (colors : Bool) (r : Report) : List String :=
  header colors "COLLECTION PLAN" ++ r.packages.flatMap (packageLines colors)
    ++ diagnosticLines colors r.diagnostics ++ [summaryLine colors r]

-- Names are padded, so that what they demand stands in one column.
def padded (name : String) : String :=
  name ++ String.ofList (List.replicate (16 - name.length) ' ')

def templateLine (colors : Bool) (t : Template) : String :=
  let label := dimmed.paint colors t.label
  s!"  {padded t.name} {label}"

def catalogSection (colors : Bool) (title : String) (c : Catalog) : List String :=
  let title := bold.paint colors title
  s!"{title} ({c.templates.length})" :: c.templates.map (templateLine colors) ++ [""]

def catalogLines (colors : Bool) : List String :=
  header colors "METHOD CATALOG" ++ catalogSection colors "Standard methods" .standard
    ++ catalogSection colors "Projection methods" .projection

-- Every line is ended.
def page (lines : List String) : String :=
  String.join (lines.map (· ++ "\n"))

end CollectionPlan.Terminal
