import ShaderInclude.Charset
import ShaderInclude.Config
import ShaderInclude.ContentType
import ShaderInclude.Expansion
import ShaderInclude.FileTree.Canonical
import ShaderInclude.Journal
import ShaderInclude.MemoryStore

/-!
# ShaderInclude.Loader

Loaders: the built-in ways to serve paths, and backends of a caller's own. A loader works on a
`World`, which holds the files, pages and stores that loaders read. A visit to a path has an outcome
and emits what it traces and requests on the way.
-/

namespace ShaderInclude

/-- What loaders read. -/
structure World where
  tree : FileTree := {}
  /-- Pages by their addresses. -/
  pages : List (String × WebPage) := []
  /-- Memory stores by their numbers. -/
  stores : List (Nat × MemoryStore) := []
  env : Environment := {}

/-- Settings of a loader of web pages. -/
structure WebSettings where
  scheme : String := "https"
  /-- How long to wait for a page, in seconds. -/
  timeout : Float := 30.0
  userAgent : Option String := none
  /-- The security context for an address. -/
  context : String → Option String := fun _ => none
  logger : Log.Logger := .shared "loaders.url"

/-- A timeout of a whole number of seconds, if a double can hold it. -/
def WebSettings.timeoutOf (seconds : Int) : Except Fault Float :=
  let timeout := Float.ofInt seconds
  if (Decimal.special? timeout).isSome then .error (.overflow "int too large to convert to float")
  else .ok timeout

inductive Loader where
  /-- The memory store of a number. -/
  | memory (store : Nat)
  /-- Local files in an encoding. -/
  | localFile (encoding : String) (logger : Log.Logger)
  /-- Local files in the default encoding, traced by the shared logger. -/
  | plainFile
  | web (settings : WebSettings)
  | custom (backend : Backend)

/-- What came of a path, and what was emitted on the way. -/
structure Visit where
  outcome : Outcome
  emissions : List Emission := []

namespace Loader

def ofExcept : Except Error String → Outcome
  | .ok s => .text s
  | .error e => .refused e

/-- The trace of a read, if reads are traced. -/
def trace (w : World) (logger : Log.Logger) (message key value : String) : List Emission :=
  match Log.traceRecord w.env logger message [(key, .text value)] with
  | some r => [.record logger r]
  | none => []

def unreadableFile (path cause : String) : Outcome :=
  .refused (.unreadable ("File loading error (file " ++ path ++ "): " ++ cause) (some path))

/-- Whether a text holds the character of code zero, which no name may hold. -/
def hasNull (s : String) : Bool := s.toList.contains (Char.ofNat 0)

/-- The fault of an encoding that cannot be a name. -/
def unusableEncoding : Fault := .invalidValue "embedded null character"

/-- The text of a node of the file tree at a canonical location. -/
def readNode (encoding path : String) (l : Location) : Option FileNode → Outcome
  | some (.file bytes) =>
    match Charset.ofName? encoding with
    | none => .faulted (.unknownEncoding encoding)
    | some charset =>
      match charset.readFile bytes with
      | .ok s => .text s
      | .error (.undecodable e) => unreadableFile path e.message
      | .error .noMark => .faulted .noByteOrderMark
  | _ => unreadableFile path ("[Errno 21] Is a directory: " ++ Text.quoted l.render)

def visitFile (w : World) (encoding : String) (logger : Log.Logger) (path : String) : Visit :=
  match w.tree.canonical path with
  | .error .embeddedNull => ⟨.faulted (.invalidValue PathFault.embeddedNull.message), []⟩
  | .error e => ⟨.refused (.unresolved ("Path error " ++ path ++ ": " ++ e.message) (some path)), []⟩
  | .ok l =>
    ⟨if hasNull encoding then .faulted unusableEncoding
      else readNode encoding path l (w.tree.node? l),
      trace w logger "reading local file" "path" l.render⟩

/-- A page that did not arrive. -/
def unfetchedPage (url cause : String) : Outcome :=
  .refused (.unreadable ("Fetch error (" ++ url ++ "): " ++ cause) (some url))

/-- The fault of a content type that cannot be read. -/
def contentTypeFault (e : ContentType.ReadError) : Fault :=
  match e with
  | .mixedParts _ => .mismatch e.message
  | _ => .invalidValue e.message

/-- The character set that a page states. -/
def statedCharset : Option String → Except Fault (Option String)
  | none => .ok none
  | some contentType =>
    match ContentType.charset? contentType with
    | .ok charset => .ok charset
    | .error e => .error (contentTypeFault e)

/-- The text of the bytes of a page. A page without bytes is empty in any encoding. -/
def decodePage (url : String) (bytes : List UInt8) (encoding : String) : Outcome :=
  let undecodable (cause : String) : Outcome :=
    .refused (.unreadable ("Cannot decode " ++ url ++ " as " ++ encoding ++ ": " ++ cause) (some url))
  if hasNull encoding then .faulted unusableEncoding
  else if bytes.isEmpty then .text ""
  else
    match Charset.ofName? encoding with
    | none => undecodable (unknownEncodingText encoding)
    | some charset =>
      match charset.decode bytes with
      | .ok s => .text s
      | .error e => undecodable e.message

/-- The text of a page, or why there is none. -/
def readPage (url : String) : Option WebPage → Outcome
  | none => unfetchedPage url "<urlopen error no such page>"
  | some (.failure text) => unfetchedPage url text
  | some (.content bytes contentType) =>
    match statedCharset contentType with
    | .error f => .faulted f
    | .ok stated => decodePage url bytes ((stated.filter (· ≠ "")).getD ({} : Config).encoding)

/-- A number of seconds in whole milliseconds, the rest cut off. -/
def millis (seconds : Float) : Except Fault Int :=
  let product := seconds * 1000.0
  match Decimal.special? product with
  | none => .ok (Decimal.truncate product)
  | some .infinity => .error (.overflow "cannot convert float infinity to integer")
  | some .notANumber => .error (.invalidValue "cannot convert float NaN to integer")

def visitPage (w : World) (s : WebSettings) (path : String) : Visit :=
  let url := s.scheme ++ "://" ++ path
  match WebRequest.address? url with
  | none => ⟨.faulted (.invalidValue (WebRequest.unknownAddress url)), []⟩
  | some address =>
    let traced := trace w s.logger "fetching url" "url" url
    match millis s.timeout with
    | .error f => ⟨.faulted f, traced⟩
    | .ok timeoutMillis =>
      let request : WebRequest :=
        { url := address
          userAgent := s.userAgent.filter (· ≠ "")
          timeoutMillis := timeoutMillis
          context := s.context url }
      ⟨readPage url (w.pages.lookup address), traced ++ [.request request]⟩

/-- Serves a path. -/
def visit (w : World) (loader : Loader) (path : String) : Visit :=
  match loader with
  | .memory store => ⟨ofExcept (((w.stores.lookup store).getD {}).load path), []⟩
  | .localFile encoding logger => visitFile w encoding logger path
  | .plainFile => visitFile w ({} : Config).encoding (.shared "loaders.file") path
  | .web settings => visitPage w settings path
  | .custom backend => ⟨backend path, []⟩

/-- The loader as a backend. -/
def backend (w : World) (loader : Loader) : Backend :=
  fun path => (loader.visit w path).outcome

end Loader
end ShaderInclude
