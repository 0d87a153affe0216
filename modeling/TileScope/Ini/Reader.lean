import TileScope.Ini.Document
import TileScope.Ini.Fault
import TileScope.Text.Blank
import TileScope.Text.Digit

/-!
# Reading settings documents

| line | form |
| --- | --- |
| heading | `[`, a name, `]` |
| property | a key, `=` or `:`, a value |
| comment | `;` or `#` in the first column, up to the end of the line |

Names, keys and values lose the blanks at their ends. Names and keys may run over several lines. A
value runs to the end of its line; in front, it may have parts in single or double quotes, which
keep their blanks and may run over several lines.

Between two items, blanks and line ends do not count, except that spaces and tabs at the start of a
line are an indentation. An indented line has a heading or a property, or is blank; if its key
cannot be read, the text goes on at the character at which that is seen.

A backslash stands for a character that is hard to write: `\0`, `\a`, `\b`, `\t`, `\n`, `\r`,
`\x` and four hexadecimal digits; in front of a line end, it takes the line end away, and in front
of any other character, only itself.
-/

namespace TileScope.Ini

/-- A piece of text that was read, and a rest not longer than what there was. -/
structure Piece (whole : List Mark) where
  chars : List Char
  rest : List Mark
  le : rest.length ≤ whole.length

namespace Piece

/-- Nothing, and everything left. -/
def none (whole : List Mark) : Piece whole := ⟨[], whole, Nat.le_refl _⟩

/-- The piece with characters in front, of a text that may be longer. -/
def behind {shorter whole : List Mark} (chars : List Char) (h : shorter.length ≤ whole.length)
    (p : Piece shorter) : Piece whole :=
  ⟨chars ++ p.chars, p.rest, Nat.le_trans p.le h⟩

end Piece

/-- What is wrong, and the marks from the character on at which it is seen. -/
structure Stop (whole : List Mark) where
  cause : Cause
  rest : List Mark
  le : rest.length ≤ whole.length

/-- The fault of a text with a last place. -/
def Stop.fault {whole : List Mark} (last : Place) (s : Stop whole) : Fault :=
  match s.rest with
  | [] => ⟨last, s.cause⟩
  | m :: _ => ⟨m.behind, s.cause⟩

/-- Characters in front of what is read from a text that may be shorter. -/
def followedBy {shorter whole : List Mark} (chars : List Char)
    (h : shorter.length ≤ whole.length) :
    Except (Stop shorter) (Piece shorter) → Except (Stop whole) (Piece whole)
  | .ok p => .ok (p.behind chars h)
  | .error s => .error ⟨s.cause, s.rest, Nat.le_trans s.le h⟩

/-- The character of a hexadecimal code, which may have a plus sign in front. -/
def charOfCode? (cs : List Char) : Option Char :=
  let digits := match cs with
    | '+' :: rest => rest
    | _ => cs
  (Text.numberIn? 16 digits).bind fun n => if n.isValidChar then some (Char.ofNat n) else none

/-- The character that a backslash and a letter stand for. -/
def escaped (c : Char) : Char :=
  match c with
  | '0' => '\x00'
  | 'a' => '\x07'
  | 'b' => '\x08'
  | 't' => '\t'
  | 'n' => '\n'
  | 'r' => '\r'
  | _ => c

/-- The `n` characters of a code behind a mark; the rest starts with the last of them. A backslash
has to be followed by a line end, and counts as a character. -/
def codeChars (ending : Ending) :
    Nat → (m : Mark) → (rest : List Mark) → Except (Stop (m :: rest)) (Piece (m :: rest))
  | 0, m, rest => .ok (.none (m :: rest))
  | _ + 1, _, [] => .error ⟨.unended ending, [], by simp⟩
  | n + 1, _, c :: rest =>
    if c.char = '\\' then
      match rest with
      | [] => .error ⟨.brokenCode none, [], by simp⟩
      | l :: rest =>
        if l.char = '\n' then followedBy [c.char] (by simp) (codeChars ending n l rest)
        else .error ⟨.brokenCode (some l.char), l :: rest, by simp⟩
    else followedBy [c.char] (by simp) (codeChars ending n c rest)

/-- Reads a part up to its end. Only a plain value may end with the text. -/
def readPart (ending : Ending) : (ms : List Mark) → Except (Stop ms) (Piece ms)
  | [] => if ending = .line then .ok (.none []) else .error ⟨.unended ending, [], Nat.le_refl _⟩
  | m :: rest =>
    if ending.isEnd m.char then .ok (.none (m :: rest))
    else if m.char = '\\' then
      match rest with
      | [] => followedBy ['\\'] (by simp) (readPart ending [])
      | e :: rest =>
        if e.char = 'x' then
          match codeChars ending 4 e rest with
          | .error s => .error ⟨s.cause, s.rest, Nat.le_trans s.le (by simp)⟩
          | .ok code =>
            match charOfCode? code.chars with
            | .none => .error ⟨.code, code.rest, Nat.le_trans code.le (by simp)⟩
            | some c =>
              followedBy [c]
                (by simp only [List.length_drop, List.length_cons]; omega)
                (readPart ending (rest.drop 4))
        else
          followedBy (if e.char = '\n' then [] else [escaped e.char])
            (by simp only [List.length_cons]; omega) (readPart ending rest)
    else followedBy [m.char] (by simp) (readPart ending rest)
termination_by ms => ms.length
decreasing_by all_goals (simp only [List.length_drop, List.length_cons, List.length_nil]; omega)

/-- Reads a value: quoted parts as long as there are any, and then plain text up to the end of
the line. -/
def readValue (first : Bool) (ms : List Mark) : Except (Stop ms) (Piece ms) :=
  match ms with
  | [] => .ok (.none [])
  | m :: rest =>
    if m.char = '"' ∨ m.char = '\'' then
      match readPart (.quote (m.char = '"')) rest with
      | .error s => .error ⟨s.cause, s.rest, Nat.le_trans s.le (by simp)⟩
      | .ok part =>
        have := part.le
        followedBy part.chars (by simp only [List.length_drop, List.length_cons]; omega)
          (readValue false (part.rest.drop 1))
    else
      (readPart .line (m :: rest)).map fun p =>
        { p with chars := if first then Text.trimChars p.chars else Text.dropBlanksEnd p.chars }
termination_by ms.length
decreasing_by
  simp only [List.length_drop, List.length_cons]
  omega

/-- The character ends a line. -/
def isLineEnd (c : Char) : Bool := c = '\n' || c = '\r'

/-- The character indents a line. -/
def isIndent (c : Char) : Bool := c = ' ' || c = '\t'

/-- The marks without the blanks in front, up to an indented line. -/
def dropGap : List Mark → List Mark
  | [] => []
  | m :: rest =>
    if Text.isBlank m.char then
      if isLineEnd m.char && rest.head?.any (isIndent ·.char) then rest else dropGap rest
    else m :: rest

/-- The marks without the blanks in front that stand on the line. -/
def dropBlanksOfLine (ms : List Mark) : List Mark :=
  ms.dropWhile fun m => Text.isBlank m.char && !isLineEnd m.char

/-- The marks behind an indentation. -/
def dropIndent (ms : List Mark) : List Mark := ms.dropWhile (isIndent ·.char)

/-- The marks behind the end of the line. -/
def nextLine (ms : List Mark) : List Mark := (ms.dropWhile (·.char != '\n')).drop 1

/-- Dropping a gap leaves no more marks than there were. -/
theorem length_dropGap_le (ms : List Mark) : (dropGap ms).length ≤ ms.length := by
  induction ms with
  | nil => exact Nat.le_refl _
  | cons m rest ih =>
    unfold dropGap
    split
    · split
      · simp
      · exact Nat.le_succ_of_le ih
    · exact Nat.le_refl _

/-- Dropping the blanks of a line leaves no more marks than there were. -/
theorem length_dropBlanksOfLine_le (ms : List Mark) : (dropBlanksOfLine ms).length ≤ ms.length :=
  (List.dropWhile_suffix _).length_le

/-- Dropping an indent leaves no more marks than there were. -/
theorem length_dropIndent_le (ms : List Mark) : (dropIndent ms).length ≤ ms.length :=
  (List.dropWhile_suffix _).length_le

/-- Going on to the next line leaves no more marks than there were. -/
theorem length_nextLine_le (ms : List Mark) : (nextLine ms).length ≤ ms.length :=
  Nat.le_trans (List.length_drop ▸ Nat.sub_le _ _) (List.dropWhile_suffix _).length_le

/-- The text of a piece without the blanks at its ends. -/
def trimmed (chars : List Char) : String := String.ofList (Text.trimChars chars)

/-- Reads the value behind a key, and skips to the next item. -/
def readProperty {ms : List Mark} (key : Piece ms) :
    Except (Stop ms) (Item × { rest : List Mark // rest.length < ms.length }) :=
  match hk : key.rest with
  | [] => .error ⟨.unended .separator, [], by simp⟩
  | s :: valueMarks =>
    have hlt : valueMarks.length < ms.length := by
      have := key.le
      rw [hk, List.length_cons] at this
      omega
    if (trimmed key.chars).isEmpty then .error ⟨.missingKey, s :: valueMarks, hlt⟩
    else
      match readValue true (dropBlanksOfLine valueMarks) with
      | .error stop =>
        .error ⟨stop.cause, stop.rest, Nat.le_trans stop.le
          (Nat.le_trans (length_dropBlanksOfLine_le _) (Nat.le_of_lt hlt))⟩
      | .ok value =>
        have := length_dropGap_le value.rest
        have := value.le
        have := length_dropBlanksOfLine_le valueMarks
        .ok (.property (trimmed key.chars) (String.ofList value.chars),
          ⟨dropGap value.rest, by omega⟩)

/-- Reads the items of a document. -/
def readItems (last : Place) (ms : List Mark) : Except Fault (List Item) :=
  match ms with
  | [] => .ok []
  | m :: rest =>
    if m.char = ';' ∨ m.char = '#' then
      if m.place.column = 1 then
        have := length_dropGap_le (nextLine rest)
        have := length_nextLine_le rest
        readItems last (dropGap (nextLine rest))
      else .error ⟨m.behind, .inlineComment⟩
    else if m.char = '[' then do
      let name ← (readPart .bracket rest).mapError (·.fault last)
      have := length_dropGap_le (name.rest.drop 1)
      have := name.le
      return .heading (trimmed name.chars) :: (← readItems last (dropGap (name.rest.drop 1)))
    else if isIndent m.char then
      match hi : dropIndent rest with
      | [] => .ok []
      | n :: behind =>
        have hlt : behind.length < rest.length := by
          have := length_dropIndent_le rest
          rw [hi, List.length_cons] at this
          omega
        if n.char = '[' then readItems last (n :: behind)
        else if isLineEnd n.char then readItems last behind
        else
          match readPart .separator (n :: behind) with
          | .error stop =>
            have := length_dropGap_le stop.rest
            have := stop.le
            readItems last (dropGap stop.rest)
          | .ok key => do
            let (item, after) ← (readProperty key).mapError (·.fault last)
            have := after.property
            return item :: (← readItems last after)
    else if isLineEnd m.char then
      have := length_dropGap_le rest
      readItems last (dropGap rest)
    else do
      let key ← (readPart .separator (m :: rest)).mapError (·.fault last)
      let (item, after) ← (readProperty key).mapError (·.fault last)
      have := after.property
      return item :: (← readItems last after)
termination_by ms.length
decreasing_by all_goals (simp only [List.length_drop, List.length_cons] at *; omega)

/-- Reads a document. -/
def Document.read (text : String) : Except Fault Document :=
  let cs := text.toList
  (readItems (lastPlace cs) (marks cs)).map .ofItems

end TileScope.Ini
