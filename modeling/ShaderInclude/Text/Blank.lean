import ShaderInclude.Text.CodeRange

/-!
# ShaderInclude.Text.Blank

White space: the characters with the Unicode property `White_Space` and the four information
separators U+001C to U+001F. `trim` removes them at both ends of a text.
-/

namespace ShaderInclude
namespace Text

def blankRanges : CodeRanges :=
  [(9, 13), (28, 32), (133, 133), (160, 160), (5760, 5760), (8192, 8202), (8232, 8233),
    (8239, 8239), (8287, 8287), (12288, 12288)]

def isBlank (c : Char) : Bool :=
  blankRanges.has c.toNat

/-- Characters without the blanks at their end. -/
def trimRight (cs : List Char) : List Char :=
  (cs.reverse.dropWhile isBlank).reverse

/-- Characters without the blanks at either end. -/
def trimChars (cs : List Char) : List Char :=
  trimRight (cs.dropWhile isBlank)

/-- A text without the blanks at either end. -/
def trim (s : String) : String :=
  String.ofList (trimChars s.toList)

end Text
end ShaderInclude
