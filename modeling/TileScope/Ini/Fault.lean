import TileScope.Ini.Place
import TileScope.Text.Visible

/-!
# Faults in settings documents

A fault is found at a character or at the end of the text; its place is the one behind that
character.
-/

namespace TileScope.Ini

/-- What a part of a document ends with. -/
inductive Ending where
  /-- The name of a section ends with a bracket. -/
  | bracket
  /-- A key ends with an equals sign or a colon. -/
  | separator
  /-- A quoted part ends with the quote that it starts with. -/
  | quote (double : Bool)
  /-- A plain value ends with the line, also if that is the last one. -/
  | line
deriving DecidableEq, Repr

namespace Ending

/-- The character ends the part. -/
def isEnd : Ending → Char → Bool
  | bracket, c => c = ']'
  | separator, c => c = '=' || c = ':'
  | quote true, c => c = '"'
  | quote false, c => c = '\''
  | line, c => c = '\n' || c = '\r'

/-- What a message lists as ends. -/
def listing : Ending → String
  | bracket => "[Some(']')]"
  | separator => "[Some('='), Some(':')]"
  | quote true => "[Some('\"')]"
  | quote false => "[Some('\\'')]"
  | line => "[Some('\\n'), Some('\\r'), None]"

end Ending

/-- What is wrong with a document. -/
inductive Cause where
  /-- The text ends within a part. -/
  | unended (ending : Ending)
  /-- A value has no key. -/
  | missingKey
  /-- A comment does not start its line. -/
  | inlineComment
  /-- Four characters behind `\x` are no code of a character. -/
  | code
  /-- Within the four characters, a backslash is followed by something else than a line end. -/
  | brokenCode (found : Option Char)
deriving DecidableEq, Repr

/-- The hexadecimal digits of a number. -/
def hexDigits (n : Nat) : String := String.ofList (Nat.toDigits 16 n)

/-- A character between apostrophes, as messages show it. -/
def shown (c : Char) : String :=
  if c = '\x00' then "'\\0'"
  else if c = '\t' then "'\\t'"
  else if c = '\r' then "'\\r'"
  else if c = '\n' then "'\\n'"
  else if c = '\'' then "'\\''"
  else if c = '\\' then "'\\\\'"
  else if Text.isVisible c then String.ofList ['\'', c, '\'']
  else "'\\u\x7b" ++ hexDigits c.toNat ++ "\x7d'"

/-- The wording of a cause. -/
def Cause.message : Cause → String
  | unended ending => "expecting \"" ++ ending.listing ++ "\" but found EOF."
  | missingKey => "missing key"
  | inlineComment => "doesn't support inline comment"
  | code => "unknown character in \\xHH form"
  | brokenCode found =>
    let found := match found with
      | some c => "Some(" ++ shown c ++ ")"
      | none => "None"
    "expecting \"\\\\n\" but found \"" ++ found ++ "\"."

/-- A cause and its place. -/
structure Fault where
  place : Place
  cause : Cause
deriving DecidableEq, Repr

/-- The wording of a fault. -/
def Fault.message (f : Fault) : String := f.place.render ++ " " ++ f.cause.message

end TileScope.Ini
