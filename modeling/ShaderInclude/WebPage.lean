import ShaderInclude.Text.Blank
import ShaderInclude.Text.Quoted

/-!
# ShaderInclude.WebPage

Pages of the web, and requests for them. A request states its address without the blanks around it,
without the form `<URL:…>` that may wrap it, and without an empty fragment at its end.
-/

namespace ShaderInclude

/-- What a request for a page brings: its bytes and content type, or a failure of the system. -/
inductive WebPage where
  | content (bytes : List UInt8) (contentType : Option String)
  | failure (text : String)

/-- A request for a page. -/
structure WebRequest where
  url : String
  userAgent : Option String
  timeoutMillis : Int
  /-- The security context, if one was provided. -/
  context : Option String
deriving DecidableEq, Repr

namespace WebRequest

/-- An address out of its wrapping. -/
def unwrap (url : List Char) : List Char :=
  let bare := Text.trimChars url
  let inner :=
    if bare.head? = some '<' ∧ bare.getLast? = some '>' then Text.trimChars (bare.drop 1).dropLast
    else bare
  if ['U', 'R', 'L', ':'].isPrefixOf inner then Text.trimChars (inner.drop 4) else inner

/-- An address and its fragment, which stands after the last `#`. -/
def splitFragment (url : List Char) : List Char × List Char :=
  if url.contains '#' then
    let fragment := (url.reverse.takeWhile (· != '#')).reverse
    (url.take (url.length - fragment.length - 1), fragment)
  else (url, [])

/-- An address with its fragment, if that is not empty. -/
def withFragment : List Char × List Char → List Char
  | (url, []) => url
  | (url, fragment) => url ++ '#' :: fragment

/-- Whether an address starts with a scheme and a colon. -/
def hasScheme (url : List Char) : Bool :=
  let scheme := url.takeWhile fun c => c != '/' && c != ':'
  !scheme.isEmpty && (url.drop scheme.length).head? == some ':'

/-- The address that a request for `url` states. -/
def stated (url : String) : List Char × List Char :=
  splitFragment (unwrap url.toList)

/-- The address that a request for `url` states, if it is one. -/
def address? (url : String) : Option String :=
  if hasScheme (stated url).1 then some (String.ofList (withFragment (stated url))) else none

/-- What is said of an address that is none. -/
def unknownAddress (url : String) : String :=
  "unknown url type: " ++ Text.quoted (String.ofList (withFragment (stated url)))

end WebRequest

end ShaderInclude
