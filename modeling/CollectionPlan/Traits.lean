namespace CollectionPlan

-- What a resolved type is capable of.
structure Traits where
  numeric    : Bool
  comparable : Bool
  ordered    : Bool
deriving DecidableEq, Repr

namespace Traits

-- A projection target that does not resolve still counts as comparable, and as nothing more.
def unresolvedTarget : Traits where
  numeric    := false
  comparable := true
  ordered    := false

end Traits
end CollectionPlan
