namespace CollectionPlan.Text

-- Membership of a code point in a table of closed ranges.
def inRanges (table : List (Nat × Nat)) (c : Char) : Bool :=
  table.any fun (lo, hi) => lo ≤ c.toNat && c.toNat ≤ hi

end CollectionPlan.Text
