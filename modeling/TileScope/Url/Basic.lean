import TileScope.Text.Ends
import TileScope.Url.Host

/-!
# Addresses

The parts of an address in normal form, and its written form.
-/

namespace TileScope

namespace Url

/-- A name and a password for a host. One of them may be empty. -/
structure Login where
  user : String
  password : String
deriving DecidableEq, Repr

/-- The written form of a login. -/
def Login.render (l : Login) : String :=
  l.user ++ (if l.password = "" then "" else ":" ++ l.password) ++ "@"

/-- What stands behind two slashes. -/
structure Authority where
  login : Option Login := none
  host : Host
  /-- The port, if it is not the usual one. -/
  port : Option Nat := none
deriving DecidableEq, Repr

/-- The written form of an authority. -/
def Authority.render (a : Authority) : String :=
  (a.login.map (·.render)).getD "" ++ a.host.render
    ++ (a.port.map fun n => ":" ++ toString n).getD ""

end Url

/-- An address in normal form. -/
structure Url where
  scheme : String
  authority : Option Url.Authority
  path : String
  query : Option String
  fragment : Option String
deriving DecidableEq, Repr

namespace Url

/-- The written form of an address. A path that starts with two slashes, which would show as an
authority, gets a part of one dot in front. -/
def render (u : Url) : String :=
  let front := match u.authority with
    | some a => "//" ++ a.render
    | none => if Text.startsWith u.path "//" then "/." else ""
  u.scheme ++ ":" ++ front ++ u.path ++ (u.query.map ("?" ++ ·)).getD ""
    ++ (u.fragment.map ("#" ++ ·)).getD ""

instance : ToString Url := ⟨render⟩

/-- The kind of an address. -/
def kind (u : Url) : Kind := .ofScheme u.scheme

/-- The host of an address, unless it has none. -/
def host? (u : Url) : Option Host := (u.authority.map (·.host)).filter (· ≠ .nowhere)

end Url

end TileScope
