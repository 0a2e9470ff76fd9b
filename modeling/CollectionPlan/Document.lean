namespace CollectionPlan

-- A value with named parts in a fixed order, as machine readable reports are made of.
inductive Document
  | flag (value : Bool)
  | text (value : String)
  | list (items : List Document)
  | record (fields : List (String × Document))
deriving Repr

namespace Document

def texts (values : List String) : Document :=
  list (values.map text)

end Document
end CollectionPlan
