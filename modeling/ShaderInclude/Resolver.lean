import ShaderInclude.Loader
import ShaderInclude.RootPath
import ShaderInclude.SchemeTable

/-!
# ShaderInclude.Resolver

A resolver puts the parts together: settings, a table of loaders, and a logger. Each of its
operations gives its result together with its emissions in order.
-/

namespace ShaderInclude

structure Resolver where
  config : Config
  table : SchemeTable Loader
  logger : Log.Logger

/-- What a resolver is made from. -/
structure ResolverParts where
  config : Config := {}
  /-- A table to use, if it is usable. -/
  table : Option (SchemeTable Loader) := none
  /-- A logger to use. -/
  logger : Option Log.Logger := none
  /-- The logger of a component. -/
  component : String → Log.Logger

namespace Resolver

def records (rs : List (Log.Logger × Log.Record)) : List Emission :=
  rs.map fun (logger, r) => .record logger r

/-- The logger of the resolver itself. -/
def ownLogger (parts : ResolverParts) : Log.Logger × List Emission :=
  match parts.logger with
  | some l => (l, [])
  | none => (parts.component "resolver", [.asked "resolver"])

/-- The table of the resolver, before local files are added to it. -/
def ownTable (parts : ResolverParts) : SchemeTable Loader × List Emission :=
  match parts.table.filter SchemeTable.isUsable with
  | some t => (t, [])
  | none => (.guarded (parts.component "protocols") {}, [.asked "protocols"])

/-- Adds local files to a table that does not serve them. -/
def addFiles (parts : ResolverParts) (t : SchemeTable Loader) : SchemeTable Loader × List Emission :=
  if t.contains (some fileScheme) then (t, [])
  else
    let logger := parts.component "loaders.file"
    match t.register (some fileScheme) (.localFile parts.config.encoding logger) with
    | .error _ => (t, [.asked "loaders.file"])
    | .ok (t', rs) => (t', .asked "loaders.file" :: records rs)

/-- Puts a resolver together. -/
def make (parts : ResolverParts) : Resolver × List Emission :=
  let (logger, es) := ownLogger parts
  let (table, es') := ownTable parts
  let (table, es'') := addFiles parts table
  (⟨parts.config, table, logger⟩, es ++ es' ++ es'')

def register (r : Resolver) (scheme : Option String) (loader : Loader) :
    Except RegistryError (Resolver × List Emission) :=
  match r.table.register scheme loader with
  | .error e => .error e
  | .ok (table, rs) => .ok ({ r with table := table }, records rs)

/-- The loader that serves a path, and the path without its scheme. -/
def loaderFor (r : Resolver) (path : String) : Option Loader × String :=
  let (scheme, body) := splitScheme path
  (r.table.get? (some (scheme.getD r.config.defaultScheme)), body)

/-- What loading a path emits. -/
def loadEmissions (r : Resolver) (w : World) (path : String) : List Emission :=
  match r.loaderFor path with
  | (some loader, body) => (loader.visit w body).emissions
  | (none, _) => []

/-- The text of a file. -/
def load (r : Resolver) (w : World) (path : String) : Except Raised String :=
  Expansion.loadWith (fun scheme => (r.table.get? (some scheme)).map (Loader.backend w))
    r.config.defaultScheme path

def debugRecord (r : Resolver) (message : String) : Emission :=
  .record r.logger { logger := r.logger.name, level := Log.Level.debug, message := message }

/-- What an event of an expansion emits. -/
def eventEmissions (r : Resolver) (w : World) : Expansion.Event → List Emission
  | .load path => r.loadEmissions w path
  | .skip file line target =>
    [r.debugRecord (file ++ ":" ++ toString line ++ ": " ++ target ++ " already included, skipping")]

/-- The root path that a caller's path names. -/
def rootPath (r : Resolver) (w : World) (path : String) : String :=
  RootPath.resolve w.tree.workingDirectory.render r.config.defaultScheme path

/-- Expands a file with all that it includes. -/
def resolve (r : Resolver) (w : World) (path : String) :
    Except Expansion.Failure Buffer × List Emission :=
  let root := r.rootPath w path
  let run := Expansion.run (r.load w) r.config.maxDepth root
  let emissions := run.progress.events.flatMap (r.eventEmissions w)
  match run.result with
  | .error e => (.error e, emissions)
  | .ok b =>
    (.ok b, emissions ++ [r.debugRecord ("resolved " ++ root ++ ": " ++ toString b.size ++
      " lines from " ++ toString run.progress.used.length ++ " files")])

/-- Expands a file with a resolver of its own, by default with the settings of the environment. -/
def resolveFile (w : World) (config : Option Config) (component : String → Log.Logger)
    (path : String) : Except Expansion.Failure Buffer × List Emission :=
  let logger := Log.Logger.shared "config"
  let (config, warnings) := match config with
    | some c => (c, [])
    | none => Config.ofEnvironment w.env logger
  let (r, es) := make { config := config, component := component }
  let (result, es') := r.resolve w path
  (result, warnings.map (.record logger) ++ es ++ es')

end Resolver
end ShaderInclude
