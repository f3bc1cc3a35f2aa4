import AssetExchange.Config.Environment
import AssetExchange.Config.Extraction
import AssetExchange.Config.Placeholder
import AssetExchange.Dictionary
import AssetExchange.FileTree.Basic
import AssetExchange.Toml.Reader

/-!
# Loading configurations

A configuration is laid together from three layers: the defaults, a configuration file
and the environment variables, where a later layer wins over the ones before it. The
file is named by the caller or by a variable of its own; otherwise a file of a fixed
name is used where there is one. What comes of the layers is accepted only if it passes
`AppConfig.validate`.
-/

namespace AssetExchange

/-- What a program finds around it. -/
structure Surroundings where
  tree : FileTree
  /-- The names from the top of the tree to the working directory. -/
  working : List String
  environment : Dictionary String

/-- Why a configuration cannot be loaded or saved. -/
inductive ConfigError
  | extraction (error : ExtractionError)
  | notFound (path : String)
  | write (path : String) (problem : FileProblem)
  | invalid (problem : ConfigProblem)

def ConfigError.message : ConfigError → String
  | extraction error => error.problem.message
  | notFound path => "Configuration file not found: " ++ path
  | write path problem =>
      "Failed to write configuration file " ++ path ++ ": " ++ problem.message
  | invalid problem => "Invalid configuration: " ++ problem.message

namespace AppConfig

/-! ## From layers -/

/-- The configuration that a file and environment variables describe together with the
defaults. -/
def ofLayers (file : Document) (bindings : List (String × String)) :
    Except ExtractionError AppConfig :=
  extract (Document.ofLayers [default.toDocument, file, Environment.layer bindings])

/-- A configuration with its placeholders replaced, if it is acceptable then. -/
def accept (directory : Option String) (config : AppConfig) :
    Except ConfigError AppConfig := do
  let expanded := config.expand directory
  expanded.validate.mapError .invalid
  return expanded

/-- The acceptable configuration that a file and environment variables describe; the
placeholders stand for a directory, if one is given. -/
def resolve (file : Document) (bindings : List (String × String))
    (directory : Option String) : Except ConfigError AppConfig := do
  let config ← (ofLayers file bindings).mapError .extraction
  config.accept directory

/-- The layer that the content of a file is; without a file it is empty. -/
def fileLayer : Option String → Except ConfigError Document
  | none => .ok .empty
  | some content =>
      match Toml.parse content with
      | some document => .ok document
      | none => .error (.extraction ⟨[], .malformedFile⟩)

/-! ## From surroundings -/

def pathVariable : String := "ASSETIO_DEFAULT_CONFIG"

/-- The path of the file that is used where no other is named. -/
def usualPath : String := "assetio.toml"

def loadFrom (surroundings : Surroundings) (path : String) :
    Except ConfigError AppConfig :=
  let tree := surroundings.tree
  let working := surroundings.working
  let route := TreePath.ofText tree.top path
  match tree.locate working route with
  | .error _ => .error (.notFound path)
  | .ok place => do
      let file ← fileLayer (tree.findContent? working route)
      resolve file surroundings.environment.toList (tree.holderText? place)

/-- Loads a configuration with the file that a variable names, or with the usual one
where there is one. -/
def load (surroundings : Surroundings) : Except ConfigError AppConfig :=
  match surroundings.environment.get? pathVariable with
  | some path => loadFrom surroundings path
  | none =>
      match loadFrom surroundings usualPath with
      | .error (.notFound _) => resolve .empty surroundings.environment.toList none
      | result => result

end AppConfig
end AssetExchange
