import ShaderInclude.Log.Logger
import ShaderInclude.Text.Integer

/-!
# ShaderInclude.Config

Settings of an expansion: the scheme of paths that name none, how deep files may nest below the
root, and the encoding of local files. From the environment, a depth that is no number from zero on
is reported and replaced by the default.
-/

namespace ShaderInclude

/-- The scheme of local files. -/
def fileScheme : String := "file"

structure Config where
  defaultScheme : String := fileScheme
  maxDepth : Int := 64
  encoding : String := "utf-8"
deriving DecidableEq, Repr

namespace Config

/-- The nesting depth that a setting spells. -/
def readDepth? (setting : String) : Option Int :=
  (Text.readInt? setting).filter (0 ≤ ·)

/-- The report of a depth that is no depth. -/
def depthWarning (logger : Log.Logger) (setting : String) : Log.Record :=
  { logger := logger.name
    level := Log.Level.warning
    message := "invalid " ++ Environment.maxDepthName ++ "=" ++ Text.quoted setting ++ ", using " ++
      toString ({} : Config).maxDepth }

/-- The settings of an environment, and the reports about them. -/
def ofEnvironment (env : Environment) (logger : Log.Logger) : Config × List Log.Record :=
  let encoding := (env.nonEmpty? Environment.encodingName).getD ({} : Config).encoding
  match env.nonEmpty? Environment.maxDepthName with
  | none => ({ encoding := encoding }, [])
  | some setting =>
    match readDepth? setting with
    | some depth => ({ maxDepth := depth, encoding := encoding }, [])
    | none => ({ encoding := encoding }, [depthWarning logger setting])

end Config
end ShaderInclude
