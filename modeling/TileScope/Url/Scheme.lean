/-!
# Schemes of addresses

What stands in front of the first colon of an address tells how the rest is read. The schemes of
the web have hosts that are looked up, and a usual port. Files have a path first of all. The rest of
another address is taken mostly as it stands.
-/

namespace TileScope.Url

/-- How an address is read. -/
inductive Kind where
  | file
  /-- An address of the web, with the usual port. -/
  | web (usual : Nat)
  | other
deriving DecidableEq, Repr

/-- The kind of addresses with a scheme, in lower case. -/
def Kind.ofScheme (scheme : String) : Kind :=
  match scheme with
  | "file" => file
  | "http" | "ws" => web 80
  | "https" | "wss" => web 443
  | "ftp" => web 21
  | _ => other

/-- Backslashes count as slashes. -/
def Kind.isSpecial (k : Kind) : Bool := k ≠ other

/-- The character ends a part of the path. -/
def Kind.isSlash (k : Kind) (c : Char) : Bool := c = '/' || (k.isSpecial && c = '\\')

/-- Splits the scheme off. -/
def scheme? (cs : List Char) : Option (String × List Char) :=
  match cs.takeWhile (· ≠ ':'), cs.dropWhile (· ≠ ':') with
  | c :: front, _ :: rest =>
    if c.isAlpha ∧ front.all fun c => c.isAlphanum || c ∈ ['+', '-', '.'] then
      some (String.ofList ((c :: front).map Char.toLower), rest)
    else none
  | _, _ => none

end TileScope.Url
