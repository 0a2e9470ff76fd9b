import CollectionPlan.Diagnostic
import CollectionPlan.Text.Blank
import CollectionPlan.Universe

-- Methods used to be requested with an attribute on a field. Such an attribute has no effect any
-- more and is reported instead.
namespace CollectionPlan.LegacyTag

def migrationGuide : String := "MIGRATING.md"

def name : List Char := "collgen".toList

def skipBlank (cs : List Char) : List Char :=
  cs.dropWhile Text.isBlank

-- What is left of a text behind `key` at its head, blanks in front of it skipped.
def after? (key cs : List Char) : Option (List Char) :=
  let rest := skipBlank cs
  if key.isPrefixOf rest then some (rest.drop key.length) else none

-- Whether an attribute with a list or a value starts right behind a `#`.
def startsAttribute (cs : List Char) : Bool :=
  match after? ['['] cs >>= after? name with
  | some rest => (skipBlank rest).head?.any fun c => c = '(' || c = '='
  | none      => false

def occursIn : List Char → Bool
  | []        => false
  | c :: rest => (c = '#' && startsAttribute rest) || occursIn rest

def has (rawTag : String) : Bool :=
  occursIn rawTag.toList

def message (field : FieldTag) : String :=
  s!"custom methods ({field.rawTag} on {field.name}) have been deprecated, see {migrationGuide}"

-- One finding per field that still has the attribute, in the order of the fields.
def check (u : Universe) (handle : u.Handle) (typeName : String) : Collecting Unit :=
  ((u.fields handle).filter fun field => has field.rawTag).forM fun field =>
    .report .deprecated typeName (message field)

end CollectionPlan.LegacyTag
