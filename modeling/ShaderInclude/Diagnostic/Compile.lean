import ShaderInclude.Diagnostic.Remap
import ShaderInclude.Error
import ShaderInclude.Log.Logger

/-!
# ShaderInclude.Diagnostic.Compile

Compiling a buffer. The compiler gets the merged text; when it refuses, its log is remapped to
the files that the text was merged from, and the refusal is reported to the log.
-/

namespace ShaderInclude
namespace Diagnostic

/-- What a compiler says about a text. -/
inductive Verdict (α : Type) where
  | accepted (handle : α)
  | refused (log : String)

/-- The files of a buffer in order of their names. -/
def sortedFiles (b : Buffer) : List String :=
  b.files.mergeSort (· ≤ ·)

/-- The report of a refusal. -/
def refusalRecord (logger : Log.Logger) (b : Buffer) : Log.Record :=
  { logger := logger.name
    level := Log.Level.debug
    message := "compilation failed for " ++ ", ".intercalate (sortedFiles b) }

/-- The compiler's handle, or the error that holds its log. A log that cannot be remapped is an
error of its own, and is not reported. -/
def compile {α : Type} (compiler : String → Verdict α) (b : Buffer) (base : Int)
    (logger : Log.Logger) : Except RemapError (Except Error α × List Log.Record) :=
  match compiler b.text with
  | .accepted handle => .ok (.ok handle, [])
  | .refused log =>
    match remap b base log with
    | .error e => .error e
    | .ok mapped => .ok (.error (.rejection mapped log), [refusalRecord logger b])

end Diagnostic
end ShaderInclude
