import CollectionPlan.Catalog
import CollectionPlan.Document
import CollectionPlan.Plan.Report

-- Reports and catalogs as machine readable documents.
namespace CollectionPlan

def Projection.document (p : Projection) : Document :=
  .record [
    ("method", .text p.method),
    ("target", .text p.target)]

def TypePlan.document (p : TypePlan) : Document :=
  .record [
    ("package", .text p.package),
    ("name", .text p.name),
    ("pointer", .flag p.pointer),
    ("standard_methods", .texts p.standardMethods),
    ("projections", .list (p.projections.map (·.document))),
    ("requirements", .texts p.requirements.labels),
    ("requires_extended_sort", .flag p.requiresExtendedSort)]

def PackagePlan.document (p : PackagePlan) : Document :=
  .record [
    ("name", .text p.name),
    ("types", .list (p.types.map (·.document)))]

-- A finding that belongs to no type has no such field.
def Diagnostic.document (d : Diagnostic) : Document :=
  .record <|
    ("kind", .text d.kind.key)
      :: (d.typeName.elim [] fun name => [("type_name", .text name)])
      ++ [("message", .text d.message)]

def Report.document (r : Report) : Document :=
  .record [
    ("packages", .list (r.packages.map (·.document))),
    ("diagnostics", .list (r.diagnostics.map (·.document)))]

def Template.document (t : Template) : Document :=
  .record [
    ("name", .text t.name),
    ("requires_numeric", .flag t.numeric),
    ("requires_comparable", .flag t.comparable),
    ("requires_ordered", .flag t.ordered)]

namespace Catalog

def templateDocuments (c : Catalog) : Document :=
  .list (c.templates.map (·.document))

-- Both catalogs together.
def listing : Document :=
  .record [
    ("standard", standard.templateDocuments),
    ("projection", projection.templateDocuments)]

end Catalog
end CollectionPlan
