/-!
# How texts start and end
-/

namespace TileScope.Text

/-- The text starts with the characters of another. -/
def startsWith (s start : String) : Bool := start.toList.isPrefixOf s.toList

/-- The characters without the slashes behind. -/
def dropSlashes (cs : List Char) : List Char := (cs.reverse.dropWhile (· = '/')).reverse

/-- The text without the slashes at its end. -/
def dropSlashesEnd (s : String) : String := String.ofList (dropSlashes s.toList)

end TileScope.Text
