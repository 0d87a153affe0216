import TileScope.Text.Percent
import TileScope.Url.Scheme

/-!
# Characters behind percent signs

Every part of an address has characters that it cannot show as they are: controls and characters
outside ASCII, and some more.

| part | some more |
| --- | --- |
| name and password | those of a path and `/ : ; = @ [ \ ] ^` and the vertical bar |
| host, rest of an address of another kind | none |
| path | space, `" < >`, the grave accent, `# ?`, and braces |
| query | space, `" # < >`, and for the web and files `'` |
| fragment | space, `" < >`, and the grave accent |
-/

namespace TileScope.Url

/-- A control character, or one outside ASCII. -/
def isOutside (c : Char) : Bool := c < ' ' || '~' < c

/-- The character has no place in a path. -/
def notInPath (c : Char) : Bool :=
  isOutside c || c ∈ [' ', '"', '<', '>', '\x60', '#', '?', '\x7b', '\x7d']

/-- The character has no place in a name or password. -/
def notInLogin (c : Char) : Bool :=
  notInPath c || c ∈ ['/', ':', ';', '=', '@', '[', '\\', ']', '^', '|']

/-- The character has no place in a query. -/
def notInQuery (k : Kind) (c : Char) : Bool :=
  isOutside c || c ∈ [' ', '"', '#', '<', '>'] || (k.isSpecial && c = '\'')

/-- The character has no place in a fragment. -/
def notInFragment (c : Char) : Bool := isOutside c || c ∈ [' ', '"', '<', '>', '\x60']

/-- The characters, those without a place behind percent signs. -/
def escape (noPlace : Char → Bool) (cs : List Char) : String :=
  String.ofList (Text.Percent.encode noPlace cs)

end TileScope.Url
