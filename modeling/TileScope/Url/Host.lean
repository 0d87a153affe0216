import TileScope.Url.Domain
import TileScope.Url.Escape
import TileScope.Url.Host.Ipv4
import TileScope.Url.Host.Ipv6

/-!
# Hosts of addresses

A host is a name or a number, of 128 bits in brackets or of 32 bits. The name of a host of the web
or of a file is a domain name, in which bytes may stand behind percent signs, and it is not empty.
Another name is any text without the characters that have a meaning of their own in an address.
-/

namespace TileScope.Url

/-- A host. -/
inductive Host where
  /-- A name in normal form. The empty name is no host. -/
  | name (s : String)
  | ipv4 (n : UInt32)
  | ipv6 (groups : Ipv6.Groups)
deriving DecidableEq, Repr

namespace Host

/-- No host at all. -/
def nowhere : Host := name ""

/-- The written form of a host. -/
def render : Host → String
  | name s => s
  | ipv4 n => Ipv4.render n
  | ipv6 groups => "[" ++ Ipv6.render groups ++ "]"

/-- The host that a domain name is. -/
def ofDomain? (cs : List Char) : Option Host := do
  let text ← Text.Percent.text? (String.ofList cs)
  let domain ← Domain.ofName? text.toList
  if domain = [] then none
  else if Ipv4.endsInNumber domain then return ipv4 (← Ipv4.ofChars? domain)
  else return name (String.ofList domain)

/-- A character that is in no name of a host. -/
def isForbidden (c : Char) : Bool :=
  c ∈ ['\x00', '\t', '\n', '\r', ' ', '#', '/', ':', '<', '>', '?', '@', '[', '\\', ']', '^', '|']

/-- Reads a host. -/
def ofChars? (k : Kind) (cs : List Char) : Option Host :=
  match cs with
  | '[' :: rest =>
    if rest.getLast? = some ']' then (Ipv6.ofChars? rest.dropLast).map ipv6 else none
  | _ =>
    if k.isSpecial then ofDomain? cs
    else if cs.any isForbidden then none
    else some (name (escape isOutside cs))

end Host

end TileScope.Url
