import CollectionPlan.Traits

namespace CollectionPlan

-- A generated operation, with the capabilities that it asks of its element type.
structure Template where
  name       : String
  numeric    : Bool := false
  comparable : Bool := false
  ordered    : Bool := false
deriving DecidableEq, Repr

namespace Template

def isSatisfiedBy (t : Template) (traits : Traits) : Bool :=
  (!t.numeric || traits.numeric) && (!t.comparable || traits.comparable) &&
    (!t.ordered || traits.ordered)

-- The type has each capability that is asked for.
theorem isSatisfiedBy_iff {t : Template} : t.isSatisfiedBy traits ↔
    (t.numeric → traits.numeric) ∧ (t.comparable → traits.comparable) ∧ (t.ordered → traits.ordered) := by
  simp [isSatisfiedBy, Decidable.imp_iff_not_or, and_assoc]

def demands (t : Template) : List String :=
  (if t.numeric then ["numeric"] else []) ++ (if t.comparable then ["comparable"] else []) ++
    (if t.ordered then ["ordered"] else [])

def label (t : Template) : String :=
  if t.demands.isEmpty then "-" else ", ".intercalate t.demands

end Template

-- A registry of operations in the order of their names.
structure Catalog where
  templates : List Template
deriving Repr

namespace Catalog

-- Gated on the annotated type itself.
def standard : Catalog where
  templates := [
    { name := "All" },
    { name := "Any" },
    { name := "Average", numeric := true },
    { name := "Contains", comparable := true },
    { name := "Count" },
    { name := "Distinct", comparable := true },
    { name := "DistinctBy" },
    { name := "Each" },
    { name := "First" },
    { name := "IsSorted", ordered := true },
    { name := "IsSortedBy" },
    { name := "IsSortedByDesc" },
    { name := "IsSortedDesc", ordered := true },
    { name := "Max", ordered := true },
    { name := "MaxBy" },
    { name := "Min", ordered := true },
    { name := "MinBy" },
    { name := "Single" },
    { name := "Sort", ordered := true },
    { name := "SortBy" },
    { name := "SortByDesc" },
    { name := "SortDesc", ordered := true },
    { name := "Sum", numeric := true },
    { name := "Where" }]

-- Gated on each projection target.
def projection : Catalog where
  templates := [
    { name := "Aggregate" },
    { name := "Average", numeric := true },
    { name := "GroupBy", comparable := true },
    { name := "Max", ordered := true },
    { name := "Min", ordered := true },
    { name := "Select" },
    { name := "Sum", numeric := true }]

def template? (c : Catalog) (name : String) : Option Template :=
  c.templates.find? (·.name = name)

def has (c : Catalog) (name : String) : Bool :=
  (c.template? name).isSome

def names (c : Catalog) : List String :=
  c.templates.map (·.name)

theorem has_iff {c : Catalog} : c.has name ↔ name ∈ c.names := by
  simp [has, template?, names]

end Catalog
end CollectionPlan
