namespace CollectionPlan

inductive Diagnostic.Kind
  | unknownMethod
  | unresolvedType
  | inconsistentConfiguration
  | deprecated
  | parseFailure
deriving DecidableEq, Repr

-- A finding that explains why something was left out of a plan. It never stops a run.
structure Diagnostic where
  kind     : Diagnostic.Kind
  typeName : Option String
  message  : String
deriving DecidableEq, Repr

namespace Diagnostic.Kind

-- The name shown to people.
def label : Kind → String
  | unknownMethod             => "unknown-method"
  | unresolvedType            => "unresolved-type"
  | inconsistentConfiguration => "inconsistent-configuration"
  | deprecated                => "deprecated"
  | parseFailure              => "parse-failure"

-- The name in machine readable reports.
def key : Kind → String
  | unknownMethod             => "unknown_method"
  | unresolvedType            => "unresolved_type"
  | inconsistentConfiguration => "inconsistent_configuration"
  | deprecated                => "deprecated"
  | parseFailure              => "parse_failure"

end Diagnostic.Kind

-- The findings of a run in the order in which they were made.
structure Diagnostics where
  items : List Diagnostic := []
deriving DecidableEq, Repr

namespace Diagnostics

def push (ds : Diagnostics) (kind : Diagnostic.Kind) (typeName : Option String) (message : String) :
    Diagnostics where
  items := ds.items ++ [{ kind, typeName, message }]

-- A finding that belongs to a declared type.
def report (ds : Diagnostics) (kind : Diagnostic.Kind) (typeName message : String) : Diagnostics :=
  ds.push kind typeName message

def extend (ds other : Diagnostics) : Diagnostics where
  items := ds.items ++ other.items

def size (ds : Diagnostics) : Nat :=
  ds.items.length

def isEmpty (ds : Diagnostics) : Bool :=
  ds.items.isEmpty

def countOf (ds : Diagnostics) (kind : Diagnostic.Kind) : Nat :=
  ds.items.countP (·.kind = kind)

def messages (ds : Diagnostics) : List String :=
  ds.items.map (·.message)

@[simp]
theorem items_push : (push ds kind typeName message).items = ds.items ++ [⟨kind, typeName, message⟩] :=
  rfl

@[simp]
theorem items_report : (report ds kind typeName message).items = ds.items ++ [⟨kind, typeName, message⟩] :=
  rfl

@[simp]
theorem items_extend {ds other : Diagnostics} : (ds.extend other).items = ds.items ++ other.items :=
  rfl

end Diagnostics

-- A computation that leaves its findings in a collector.
abbrev Collecting := StateM Diagnostics

namespace Collecting

def report (kind : Diagnostic.Kind) (typeName message : String) : Collecting Unit :=
  modify (·.report kind typeName message)

-- A finding that belongs to no type.
def note (kind : Diagnostic.Kind) (message : String) : Collecting Unit :=
  modify (·.push kind none message)

@[simp]
theorem run_report {ds : Diagnostics} :
    (report kind typeName message).run ds = ((), ds.report kind typeName message) :=
  rfl

@[simp]
theorem run_note {ds : Diagnostics} : (note kind message).run ds = ((), ds.push kind none message) :=
  rfl

end Collecting
end CollectionPlan
