import ShaderInclude.Log.Logger
import ShaderInclude.WebPage

/-!
# ShaderInclude.Journal

What the parts of a run do beside computing their results: they ask for loggers, send records and
request pages. These emissions are plain data, in the order in which they happen; a `Journal` takes
them in and shows what they leave behind.
-/

namespace ShaderInclude

inductive Emission where
  /-- A logger was asked for by the name of its component. -/
  | asked (component : String)
  | record (logger : Log.Logger) (r : Log.Record)
  | request (r : WebRequest)

structure Journal where
  base : Log.BaseLogger := {}
  /-- The factory that is asked for loggers, if there is one. -/
  factory : Option Log.Factory := none
  /-- The time that records show. -/
  stamp : String
  asked : List String := []
  captured : List (String × Log.Record) := []
  written : List (String × String) := []
  requests : List WebRequest := []

namespace Journal

def take (j : Journal) : Emission → Journal
  | .asked component =>
    let j := { j with asked := j.asked ++ [component] }
    match j.factory with
    | none => j
    | some f =>
      let (f', base) := f.request j.base
      { j with factory := some f', base := base }
  | .record (.captured component) r => { j with captured := j.captured ++ [(component, r)] }
  | .record (.shared _) r => { j with written := j.written ++ j.base.write j.stamp r }
  | .request r => { j with requests := j.requests ++ [r] }

def takeAll (j : Journal) (emissions : List Emission) : Journal :=
  emissions.foldl take j

/-- The journal with what it holds cleared away; its loggers stay as they are. -/
def cleared (j : Journal) : Journal :=
  { j with asked := [], captured := [], written := [], requests := [] }

/-- All that was written to streams, as one text. -/
def writtenText (j : Journal) : String :=
  String.join (j.written.map Prod.snd)

end Journal
end ShaderInclude
