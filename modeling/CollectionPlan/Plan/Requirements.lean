namespace CollectionPlan

-- A support module that generated code depends on.
inductive Requirement
  | errors
  | sort
deriving DecidableEq, Repr

def Requirement.label : Requirement → String
  | errors => "errors"
  | sort   => "sort"

-- A set of support modules.
structure Requirements where
  errors : Bool := false
  sort   : Bool := false
deriving DecidableEq, Repr

namespace Requirements

def toList (r : Requirements) : List Requirement :=
  (if r.errors then [.errors] else []) ++ (if r.sort then [.sort] else [])

def labels (r : Requirements) : List String :=
  r.toList.map (·.label)

def union (r₁ r₂ : Requirements) : Requirements where
  errors := r₁.errors || r₂.errors
  sort   := r₁.sort || r₂.sort

-- Methods that can fail to produce a value.
def fallible : List String :=
  ["First", "Single", "Max", "Min", "MaxBy", "MinBy", "Average"]

def sorting : List String :=
  ["Sort"]

def ofMethod (method : String) : Requirements where
  errors := fallible.contains method
  sort   := sorting.contains method

def ofMethods (methods : List String) : Requirements :=
  methods.foldl (fun r method => r.union (ofMethod method)) {}

@[simp]
theorem mem_toList {r : Requirements} : .errors ∈ r.toList ↔ r.errors := by
  cases r with | mk e s => cases e <;> cases s <;> decide

@[simp]
theorem sort_mem_toList {r : Requirements} : .sort ∈ r.toList ↔ r.sort := by
  cases r with | mk e s => cases e <;> cases s <;> decide

end Requirements

-- Methods that sort by several keys share the beginning of their name.
def extendedSortMarker : List Char := "SortBy".toList

def needsExtendedSort (methods : List String) : Bool :=
  methods.any fun method => extendedSortMarker.isPrefixOf method.toList

end CollectionPlan
