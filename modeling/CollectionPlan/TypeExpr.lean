namespace CollectionPlan

inductive Primitive
  | int
  | float
  | bool
  | char
  | str
deriving DecidableEq, Repr

-- The representation of a type as far as it is modelled.
inductive TypeExpr
  | primitive (p : Primitive)
  | unit
  -- References and raw pointers.
  | pointer (inner : TypeExpr)
  -- Owning wrappers, whose equality is that of their content.
  | wrapper (inner : TypeExpr)
  -- Arrays of fixed size.
  | array (inner : TypeExpr)
  | tuple (elems : List TypeExpr)
  -- Growable collections and slices.
  | dynamic (name : String) (args : List TypeExpr)
  -- Function pointers and trait objects.
  | function
  -- A reference to a declaration.
  | named (name : String)
  -- Type parameters and all that is not modelled.
  | unknown (text : String)
deriving Repr

namespace TypeExpr

mutual

-- The declarations that an expression refers to, from left to right.
def names : TypeExpr → List String
  | named name                            => [name]
  | pointer inner | wrapper inner | array inner => inner.names
  | tuple elems                           => namesOf elems
  | dynamic _ args                        => namesOf args
  | primitive _ | unit | function | unknown _   => []

def namesOf : List TypeExpr → List String
  | []      => []
  | e :: es => e.names ++ namesOf es

end

mutual

-- The text of the first part that is not modelled.
def unknown? : TypeExpr → Option String
  | unknown text                          => some text
  | pointer inner | wrapper inner | array inner => inner.unknown?
  | tuple elems                           => unknownOf? elems
  | dynamic _ args                        => unknownOf? args
  | primitive _ | unit | function | named _     => none

def unknownOf? : List TypeExpr → Option String
  | []      => none
  | e :: es => e.unknown? <|> unknownOf? es

end

mutual

-- Whether equality is defined for an expression, given the answer for each name in it. A pointer is
-- compared by its address, so what it points to does not matter.
def comparableWith (atName : String → Bool) : TypeExpr → Bool
  | primitive _ | unit | pointer _    => true
  | wrapper inner | array inner       => inner.comparableWith atName
  | tuple elems                       => allComparableWith atName elems
  | dynamic _ _ | function | unknown _ => false
  | named name                        => atName name

def allComparableWith (atName : String → Bool) : List TypeExpr → Bool
  | []      => true
  | e :: es => e.comparableWith atName && allComparableWith atName es

end

theorem namesOf_eq : namesOf es = es.flatMap names := by
  induction es <;> simp_all [namesOf]

theorem unknownOf?_eq : unknownOf? es = es.findSome? unknown? := by
  induction es <;> simp_all [unknownOf?, List.findSome?_cons]
  split <;> simp_all

theorem allComparableWith_eq : allComparableWith atName es = es.all (comparableWith atName) := by
  induction es <;> simp_all [allComparableWith]

def isNumeric : TypeExpr → Bool
  | primitive .int | primitive .float => true
  | _                                 => false

def isOrdered : TypeExpr → Bool
  | primitive .int | primitive .float | primitive .char | primitive .str => true
  | _                                                                     => false

end TypeExpr

structure FieldDecl where
  name   : String
  type   : TypeExpr
  -- The text of the attributes on the field, documentation apart.
  rawTag : String
deriving Repr

inductive Declaration.Body
  | alias (target : TypeExpr)
  | struct (fields : List FieldDecl)
  -- The member types of all variants in order.
  | enum (members : List TypeExpr)
deriving Repr

structure Declaration where
  name : String
  body : Declaration.Body
deriving Repr

namespace Declaration

def isAlias (d : Declaration) : Bool :=
  match d.body with
  | .alias _  => true
  | .struct _ => false
  | .enum _   => false

def members (d : Declaration) : List TypeExpr :=
  match d.body with
  | .alias target  => [target]
  | .struct fields => fields.map (·.type)
  | .enum members  => members

def fields (d : Declaration) : List FieldDecl :=
  match d.body with
  | .struct fields => fields
  | .alias _       => []
  | .enum _        => []

end Declaration
end CollectionPlan
