import TileScope.Url.Basic
import TileScope.Url.Path

/-!
# Reading addresses

An address is read the lenient way that browsers read it, and comes in its one normal form.

| part | what happens to it |
| --- | --- |
| whole text | controls and spaces at the ends, and all tabs and line ends, are taken away |
| scheme | lower case |
| slashes in front of a host | any number for the web, two for a file, else exactly two |
| host | as in `Url.Host` |
| port | the usual one is taken away |
| path | as in `Url.Path` |
| path, query, fragment | characters with no place there are put behind percent signs |

An address of another kind may have no host, and if it has no slash behind the scheme either, the
rest of it is taken as it stands. A file may have no host; `localhost` is no host, and neither is a
drive or what stands in front of one.
-/

namespace TileScope.Url

/-- The query and the fragment, where a query begins with `?` and a fragment with `#`. -/
def queryAndFragment (k : Kind) (cs : List Char) : Option String × Option String :=
  (match cs.takeWhile (· ≠ '#') with
    | '?' :: query => some (escape (notInQuery k) query)
    | _ => none,
    match cs.dropWhile (· ≠ '#') with
    | '#' :: fragment => some (escape notInFragment fragment)
    | _ => none)

/-- The name and the password in a text, if one of them is not empty. -/
def login? (cs : List Char) : Option Login :=
  let login := Login.mk (escape notInLogin (cs.takeWhile (· ≠ ':')))
    (escape notInLogin ((cs.dropWhile (· ≠ ':')).drop 1))
  if login = ⟨"", ""⟩ then none else some login

/-- How many characters in front of the first colon outside brackets. -/
def colonIndex (inBrackets : Bool) : List Char → Nat
  | [] => 0
  | '[' :: rest => colonIndex true rest + 1
  | ']' :: rest => colonIndex false rest + 1
  | c :: rest => if c = ':' ∧ !inBrackets then 0 else colonIndex inBrackets rest + 1

/-- The port that digits with a colon in front write, and what stands behind a backslash and with
it. No digits write the usual port. -/
def port? (k : Kind) (cs : List Char) : Option (Option Nat × List Char) :=
  match cs with
  | [] => some (none, [])
  | _ :: cs => do
    let digits := cs.takeWhile Char.isDigit
    let rest := cs.dropWhile Char.isDigit
    let port ← (Text.numberIn? 10 digits).filter (· < 65536)
    if rest ≠ [] ∧ rest.head? ≠ some '\\' then none
    else return (if digits = [] ∨ k = .web port then none else some port, rest)

/-- Reads an authority, in front of `rest`. The second result is what of it belongs to the path. -/
def authority? (k : Kind) (cs rest : List Char) : Option (Authority × List Char) := do
  let behindLogin := (cs.reverse.takeWhile (· ≠ '@')).reverse
  let login := login? (cs.take (cs.length - behindLogin.length - 1))
  let name := behindLogin.take (colonIndex false behindLogin)
  let behindName := behindLogin.drop (colonIndex false behindLogin)
  if name = [] ∧ (k.isSpecial ∨ behindName ≠ [] ∨ login.isSome ∨ (cs = ['@'] ∧ rest ≠ [])) then none
  else
    let host ← Host.ofChars? k name
    let (port, rest) ← port? k behindName
    return (⟨login, host, port⟩, rest)

/-- Splits at the first character that ends an authority. -/
def splitAuthority (k : Kind) (cs : List Char) : List Char × List Char :=
  let stops := fun c => k.isSlash c || c = '?' || c = '#'
  (cs.takeWhile (!stops ·), cs.dropWhile (!stops ·))

/-- Splits the query and the fragment off. -/
def splitPath (cs : List Char) : List Char × List Char :=
  let stops := fun c => c = '?' || c = '#'
  (cs.takeWhile (!stops ·), cs.dropWhile (!stops ·))

/-- The address with a path and what is behind it. -/
def withPath (scheme : String) (authority : Option Authority) (path : String)
    (behind : List Char) : Url :=
  let (query, fragment) := queryAndFragment (.ofScheme scheme) behind
  ⟨scheme, authority, path, query, fragment⟩

/-- Reads an address from behind the two slashes in front of its authority. -/
def atAuthority? (scheme : String) (cs : List Char) : Option Url := do
  let k := Kind.ofScheme scheme
  let (front, rest) := splitAuthority k cs
  let (authority, more) ← authority? k front rest
  let (path, behind) := splitPath (more ++ rest)
  let path := if path = [] ∧ !k.isSpecial then "" else Path.normal k path
  return withPath scheme authority path behind

/-- The host of a file. -/
def fileHost? (cs : List Char) : Option Host :=
  if cs = [] then some .nowhere
  else (Host.ofChars? .file cs).map fun host =>
    if host = .name "localhost" then .nowhere else host

/-- Reads the address of a file from behind the scheme. -/
def ofFile? (cs : List Char) : Option Url := do
  let (front, rest) := match cs with
    | a :: b :: rest =>
      if Kind.file.isSlash a ∧ Kind.file.isSlash b then
        let (front, path) := splitAuthority .file rest
        if Path.isDrive front then ([], rest) else (front, path)
      else ([], cs)
    | _ => ([], cs)
  let host ← fileHost? front
  let (path, behind) := splitPath rest
  let host := if Path.hasDrive path then .nowhere else host
  return withPath "file" (some { host }) (Path.normal .file path) behind

/-- Reads an address of another kind from behind the scheme. -/
def ofOther? (scheme : String) (cs : List Char) : Option Url :=
  match cs with
  | '/' :: '/' :: rest => atAuthority? scheme rest
  | _ =>
    let (path, behind) := splitPath cs
    let path := match path with
      | '/' :: _ => Path.normal .other path
      | _ => escape isOutside path
    some (withPath scheme none path behind)

/-- Reads an address from behind the scheme, without another one that it starts from. -/
def ofRest? (scheme : String) (cs : List Char) : Option Url :=
  match Kind.ofScheme scheme with
  | .file => ofFile? cs
  | .web usual => atAuthority? scheme (cs.dropWhile (Kind.web usual).isSlash)
  | .other => ofOther? scheme cs

/-- Reads what stands for another address of the web, without scheme, in place of `u`. -/
def relative? (u : Url) (cs : List Char) : Option Url :=
  let (front, behind) := splitPath cs
  let path := match front.takeWhile u.kind.isSlash with
    | [] => (u.path.toList.reverse.dropWhile (· ≠ '/')).reverse ++ front
    | _ => front
  if 2 ≤ (front.takeWhile u.kind.isSlash).length then
    atAuthority? u.scheme (cs.dropWhile u.kind.isSlash)
  else if front = [] then
    let (query, fragment) := queryAndFragment u.kind behind
    some { u with query := if query.isSome then query else u.query, fragment }
  else some (withPath u.scheme u.authority (Path.normal u.kind path) behind)

/-- The characters of an address that count. -/
def counting (s : String) : List Char :=
  let ends := fun c : Char => c ≤ ' '
  ((s.toList.dropWhile ends).reverse.dropWhile ends).reverse.filter (· ∉ ['\t', '\n', '\r'])

/-- Reads an address. -/
def parse? (s : String) : Option Url := (scheme? (counting s)).bind fun (scheme, rest) =>
  ofRest? scheme rest

/-- The address that a text stands for in the answer from `u`, an address of the web. -/
def follow? (u : Url) (s : String) : Option Url :=
  match scheme? (counting s) with
  | none => relative? u (counting s)
  | some (scheme, rest) =>
    if scheme = u.scheme ∧ (rest.takeWhile u.kind.isSlash).length < 2 then relative? u rest
    else ofRest? scheme rest

end TileScope.Url
