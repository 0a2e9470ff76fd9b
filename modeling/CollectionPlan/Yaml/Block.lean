import CollectionPlan.Document
import CollectionPlan.Yaml.Scalar

namespace CollectionPlan.Yaml

-- A list stands right below its key, all else two columns further.
def contentIndent (indent : Nat) : Document → Nat
  | .list (_ :: _) => indent
  | _              => indent + 2

-- What is between a key and its value.
def gap (indent : Nat) : Document → List Char
  | .list (_ :: _)   => '\n' :: spaces indent
  | .record (_ :: _) => '\n' :: spaces (indent + 2)
  | _                => [' ']

mutual

-- A value in lines, the first of them without its indentation.
def value (indent : Nat) : Document → List Char
  | .flag b          => (if b then "true\n" else "false\n").toList
  | .text s          => scalar indent s
  | .list []         => ['[', ']', '\n']
  | .list (d :: ds)  => '-' :: ' ' :: value (indent + 2) d ++ items indent ds
  | .record []       => ['\x7b', '\x7d', '\n']
  | .record ((k, d) :: fs) =>
    k.toList ++ ':' :: gap indent d ++ value (contentIndent indent d) d ++ fields indent fs

-- The items of a list behind the first one.
def items (indent : Nat) : List Document → List Char
  | []      => []
  | d :: ds => spaces indent ++ '-' :: ' ' :: value (indent + 2) d ++ items indent ds

-- The fields of a record behind the first one.
def fields (indent : Nat) : List (String × Document) → List Char
  | []           => []
  | (k, d) :: fs =>
    spaces indent ++ k.toList ++ ':' :: gap indent d ++ value (contentIndent indent d) d
      ++ fields indent fs

end

-- A document in block style.
def render (d : Document) : String :=
  String.ofList (value 0 d)

end CollectionPlan.Yaml
