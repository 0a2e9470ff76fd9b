import CollectionPlan.Config.Basic

namespace CollectionPlan

-- What the plan command is asked to do.
structure PlanRequest where
  path          : FilePath := "."
  format        : Option OutputFormat := none
  output        : Option FilePath := none
  noLegacyCheck : Bool := false
  strict        : Bool := false
  verbosity     : Nat := 0
deriving DecidableEq, Repr

inductive Command
  | plan (request : PlanRequest)
  | init (force : Bool)
  | catalog (format : OutputFormat)
deriving DecidableEq, Repr

namespace Command

def verbosity : Command → Nat
  | plan request => request.verbosity
  | _            => 0

-- The paths that a command reads or writes.
def paths : Command → List FilePath
  | plan request => request.path :: request.output.toList
  | init _       => [Config.fileName]
  | catalog _    => []

-- The level of detail of the log.
def logLevel : Nat → String
  | 0 => "warn"
  | 1 => "info"
  | 2 => "debug"
  | _ => "trace"

end Command

namespace Config

-- Settings that a request does not override stay as they are.
def override (c : Config) (r : PlanRequest) : Config where
  ignore         := c.ignore
  legacyTagCheck := c.legacyTagCheck && !r.noLegacyCheck
  format         := r.format.getD c.format

end Config
end CollectionPlan
