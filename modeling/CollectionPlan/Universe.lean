import CollectionPlan.Traits

namespace CollectionPlan

-- Why a type name does not resolve.
inductive ResolveError
  | malformed (expr : String)
  | undeclared (name : String)
  | aliasCycle (name : String)
deriving DecidableEq, Repr

def ResolveError.message : ResolveError → String
  | malformed expr  => s!"invalid type expression `{expr}`: <syntax>"
  | undeclared name => s!"undeclared type {name}"
  | aliasCycle name => s!"alias cycle through {name}"

-- A field of a declared struct, as the check for retired attributes sees it.
structure FieldTag where
  name   : String
  rawTag : String
deriving DecidableEq, Repr

-- What planning asks about types. A handle stands for a resolved type; only a struct has fields.
structure Universe where
  Handle  : Type
  resolve : String → Except ResolveError Handle
  traits  : Handle → Traits
  fields  : Handle → List FieldTag

end CollectionPlan
