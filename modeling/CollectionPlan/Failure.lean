import CollectionPlan.FileTree
import CollectionPlan.Glob
import CollectionPlan.Token.Basic

namespace CollectionPlan

-- What stops a run. Problems with a single type do not, and are findings instead.
inductive Failure
  | fileSystem (message : String) (path : FilePath) (cause : Option IoError)
  | parse (file : FilePath) (position : Position)
  | configuration (message : String)
  | walk (path : FilePath) (cause : IoError)
  | pattern (error : Glob.Error)
deriving DecidableEq, Repr

namespace Failure

def message : Failure → String
  | fileSystem message _ _ => s!"File system error: {message}"
  | parse file position    => s!"Parse error in {file}:{position.line}:{position.column}: <syntax>"
  | configuration message  => s!"Configuration error: {message}"
  | walk path cause        => s!"IO error for operation on {path}: {cause.message}"
  | pattern error          => error.message

def cause? : Failure → Option IoError
  | fileSystem _ _ cause => cause
  | walk _ cause         => some cause
  | _                    => none

-- Whether a change of the sources or of the settings helps.
def isUserFixable : Failure → Bool
  | parse _ _ | configuration _ | pattern _ => true
  | fileSystem _ _ _ | walk _ _             => false

-- The message and what is behind it, outermost first.
def chain (f : Failure) : List String :=
  f.message :: f.cause?.toList.map (·.message)

end Failure
end CollectionPlan
