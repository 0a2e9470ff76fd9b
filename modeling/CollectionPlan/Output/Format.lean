import CollectionPlan.Json
import CollectionPlan.Output.Documents
import CollectionPlan.Output.Pages
import CollectionPlan.Yaml.Block

namespace CollectionPlan

-- A form in which results are written.
inductive OutputFormat
  | terminal
  | json
  | yaml
deriving DecidableEq, Repr

namespace OutputFormat

def name : OutputFormat → String
  | terminal => "terminal"
  | json     => "json"
  | yaml     => "yaml"

def all : List OutputFormat :=
  [terminal, json, yaml]

def ofName? (name : String) : Option OutputFormat :=
  all.find? (·.name = name)

def report (f : OutputFormat) (colors : Bool) (r : Report) : String :=
  match f with
  | terminal => Terminal.page (Terminal.reportLines colors r)
  | json     => Json.render r.document
  | yaml     => Yaml.render r.document

def catalog (f : OutputFormat) (colors : Bool) : String :=
  match f with
  | terminal => Terminal.page (Terminal.catalogLines colors)
  | json     => Json.render Catalog.listing
  | yaml     => Yaml.render Catalog.listing

end OutputFormat
end CollectionPlan
