import NodeDevices.Text.Decimal
import NodeDevices.Json.Lexer
import NodeDevices.Yaml.Cursor
/-! The texts of YAML scalars: plain ones, quoted ones, and the blocks that keep or fold
their lines.
-/

namespace NodeDevices.Yaml

/-- The blanks between two words of a scalar: spaces of one line, or line breaks. -/
structure Gap where
  spaces : List Char := []
  /-- The first line break, if the line ends here. -/
  firstBreak : List Char := []
  laterBreaks : List Char := []
  endsLine : Bool := false

namespace Gap

/-- What the blanks read as: a line break as a space, more of them less the first. -/
def join (gap : Gap) : List Char :=
  if !gap.endsLine then gap.spaces
  else if gap.firstBreak = ['\n'] then
    if gap.laterBreaks = [] then [' '] else gap.laterBreaks
  else gap.firstBreak ++ gap.laterBreaks

/-- Reads blanks and line breaks. A tab to the left of the given column is refused once a
line has ended.
-/
def read? (leftmost : Nat) : Nat → Gap → Cursor → Option (Gap × Cursor)
  | 0, _, _ => none
  | bound + 1, gap, cursor =>
      match cursor.peek with
      | none => some (gap, cursor)
      | some c =>
          if isSpace c then
            if gap.endsLine ∧ cursor.column < leftmost ∧ c = '\t' then none
            else
              let gap := if gap.endsLine then gap else { gap with spaces := gap.spaces ++ [c] }
              read? leftmost bound gap cursor.skip
          else if isBreak c then
            let (lineBreak, cursor) := cursor.readBreak
            let gap :=
              if gap.endsLine then { gap with laterBreaks := gap.laterBreaks ++ lineBreak }
              else { gap with spaces := [], firstBreak := lineBreak, endsLine := true }
            read? leftmost bound gap cursor
          else some (gap, cursor)

end Gap

namespace Scalar

/-- The marks that end a plain scalar within brackets. -/
def flowMarks : List Char := [',', '[', ']', '\x7b', '\x7d']

/-- Reads the characters of a plain scalar up to a blank or to a mark that ends it. A colon
right before a mark is refused within brackets.
-/
def plainWord? (inFlow : Bool) : Nat → Cursor → Option (List Char × Cursor)
  | 0, _ => none
  | bound + 1, cursor =>
      match cursor.peek with
      | none => some ([], cursor)
      | some c =>
          if isSpace c || isBreak c then some ([], cursor)
          else if inFlow && c = ':' && cursor.isOneOf ('?' :: flowMarks) 1 then none
          else if (c = ':' && cursor.atWordEnd 1) || (inFlow && flowMarks.contains c) then
            some ([], cursor)
          else do
            let (word, cursor) ← plainWord? inFlow bound cursor.skip
            return (c :: word, cursor)

/-- Reads a plain scalar, and says whether line breaks follow it. -/
def plain? (inFlow : Bool) (leftmost : Nat)
    : Nat → List Char → Gap → Cursor → Option (List Char × Bool × Cursor)
  | 0, _, _, _ => none
  | bound + 1, text, gap, cursor => do
      if cursor.atDocumentMark || cursor.isAt '#' then return (text, gap.endsLine, cursor)
      let (word, cursor) ← plainWord? inFlow (cursor.rest.length + 1) cursor
      let (text, gap) := if word = [] then (text, gap) else (text ++ gap.join ++ word, {})
      if cursor.atWordEnd ∧ cursor.peek ≠ none then
        let (gap, cursor) ← Gap.read? leftmost (cursor.rest.length + 1) gap cursor
        if !inFlow ∧ cursor.column < leftmost then return (text, gap.endsLine, cursor)
        plain? inFlow leftmost bound text gap cursor
      else return (text, gap.endsLine, cursor)

/-- The character of an escape with one letter. -/
def escape? (c : Char) : Option Char :=
  match c with
  | '0' => some '\x00'
  | 'a' => some '\x07'
  | 'b' => some '\x08'
  | 't' => some '\t'
  | '\t' => some '\t'
  | 'n' => some '\n'
  | 'v' => some '\x0b'
  | 'f' => some '\x0c'
  | 'r' => some '\r'
  | 'e' => some '\x1b'
  | ' ' => some ' '
  | '"' => some '"'
  | '/' => some '/'
  | '\\' => some '\\'
  | 'N' => some '\u0085'
  | '_' => some '\u00a0'
  | 'L' => some '\u2028'
  | 'P' => some '\u2029'
  | _ => none

/-- The number of hexadecimal digits that an escape with a letter has. -/
def escapeDigits? (c : Char) : Option Nat :=
  match c with
  | 'x' => some 2
  | 'u' => some 4
  | 'U' => some 8
  | _ => none

/-- The number that hexadecimal digits stand for. -/
def hexNumber? (digits : List Char) : Option Nat :=
  digits.foldlM (fun total c => (Json.hexValue? c).map (16 * total + ·)) 0

/-- The character with a code point. -/
def charAt? (code : Nat) : Option Char :=
  if code < 0xD800 ∨ (0xE000 ≤ code ∧ code < 0x110000) then some (Char.ofNat code) else none

/-- Reads an escape after its backslash. -/
def readEscape? (cursor : Cursor) : Option (Char × Cursor) := do
  let c ← cursor.peek
  match escapeDigits? c with
  | some count =>
      let digits := (cursor.rest.drop 1).take count
      if digits.length = count then
        return (← charAt? (← hexNumber? digits), cursor.skip (count + 1))
      else none
  | none => return (← escape? c, cursor.skip)

/-- Reads the characters of a quoted scalar up to a blank or the closing quote. It says
whether an escaped line break came last.
-/
def quotedWord? (quote : Char) : Nat → Cursor → Option (List Char × Bool × Cursor)
  | 0, _ => none
  | bound + 1, cursor =>
      match cursor.peek with
      | none => some ([], false, cursor)
      | some c =>
          if isSpace c || isBreak c then some ([], false, cursor)
          else if c = '\'' ∧ quote = '\'' ∧ cursor.isAt '\'' 1 then do
            let (word, broken, cursor) ← quotedWord? quote bound (cursor.skip 2)
            return ('\'' :: word, broken, cursor)
          else if c = quote then some ([], false, cursor)
          else if c = '\\' ∧ quote = '"' then
            if cursor.atBreak 1 then some ([], true, cursor.skip.readBreak.2)
            else do
              let (escaped, cursor) ← readEscape? cursor.skip
              let (word, broken, cursor) ← quotedWord? quote bound cursor
              return (escaped :: word, broken, cursor)
          else do
            let (word, broken, cursor) ← quotedWord? quote bound cursor.skip
            return (c :: word, broken, cursor)

/-- Reads a quoted scalar after its opening quote. -/
def quoted? (quote : Char) : Nat → List Char → Cursor → Option (List Char × Cursor)
  | 0, _, _ => none
  | bound + 1, text, cursor => do
      if cursor.atDocumentMark ∨ cursor.peek = none then none
      let (word, broken, cursor) ← quotedWord? quote (cursor.rest.length + 1) cursor
      if cursor.isAt quote then return (text ++ word, cursor.skip)
      let (gap, cursor) ← Gap.read? 0 (cursor.rest.length + 1) { endsLine := broken } cursor
      quoted? quote bound (text ++ word ++ gap.join) cursor

/-- What becomes of the line breaks at the end of a block. -/
inductive Chomping where
  | strip
  | clip
  | keep
  deriving DecidableEq

/-- Reads the mark of a chomping, if there is one. -/
def readChomping (cursor : Cursor) : Option Chomping × Cursor :=
  if cursor.isAt '+' then (some .keep, cursor.skip)
  else if cursor.isAt '-' then (some .strip, cursor.skip)
  else (none, cursor)

/-- Reads the digit of an indentation, if there is one, which is not zero. -/
def readIndentation? (cursor : Cursor) : Option (Option Nat × Cursor) :=
  match cursor.peek with
  | some c =>
      if c = '0' then none
      else if c.isDigit then some (some (c.toNat - 48), cursor.skip)
      else some (none, cursor)
  | none => some (none, cursor)

/-- Reads the header of a block: chomping and indentation in either order, and perhaps a
comment.
-/
def blockHeader? (cursor : Cursor) : Option (Chomping × Option Nat × Cursor) := do
  let (chomping, cursor) := readChomping cursor
  let (indentation, cursor) ← readIndentation? cursor
  let (chomping, cursor) :=
    if chomping.isNone ∧ indentation.isSome then readChomping cursor else (chomping, cursor)
  let cursor := cursor.skipSpaces.skipComment
  if cursor.atLineEnd then return (chomping.getD .clip, indentation, cursor.readBreak.2)
  else none

/-- Reads empty lines and the indentation of the line after them, and says how deep the
deepest indentation was. A tab is refused within the indentation.
-/
def blockBreaks? (indent : Option Nat)
    : Nat → List Char → Nat → Cursor → Option (List Char × Nat × Cursor)
  | 0, _, _, _ => none
  | bound + 1, breaks, deepest, cursor =>
      let spaces := (cursor.rest.takeWhile (· = ' ')).length
      let cursor := cursor.skip
        (match indent with
        | some indent => min spaces (indent - cursor.column)
        | none => spaces)
      let deepest := max deepest cursor.column
      if indent.all (cursor.column < ·) ∧ cursor.isAt '\t' then none
      else if cursor.atBreak then
        let (lineBreak, cursor) := cursor.readBreak
        blockBreaks? indent bound (breaks ++ lineBreak) deepest cursor
      else some (breaks, deepest, cursor)

/-- Reads the lines of a block. -/
def blockLines? (literal : Bool) (indent : Nat)
    : Nat → List Char → List Char → List Char → Bool → Cursor
      → Option (List Char × List Char × List Char × Cursor)
  | 0, _, _, _, _, _ => none
  | bound + 1, text, lineBreak, breaks, wasBlank, cursor => do
      if cursor.column = indent ∧ cursor.peek ≠ none then
        let blank := cursor.atSpace
        let joined :=
          if !literal ∧ lineBreak = ['\n'] ∧ !wasBlank ∧ !blank then
            if breaks = [] then [' '] else []
          else lineBreak
        let (line, cursor) := cursor.readWhile (!isBreak ·)
        let (nextBreak, cursor) := cursor.readBreak
        let (nextBreaks, _, cursor) ←
          blockBreaks? (some indent) (cursor.rest.length + 1) [] 0 cursor
        blockLines? literal indent bound (text ++ joined ++ breaks ++ line) nextBreak nextBreaks
          blank cursor
      else return (text, lineBreak, breaks, cursor)

/-- Reads a block after its mark, given the indentation that it stands in, if any. -/
def block? (literal : Bool) (outer : Option Nat) (cursor : Cursor)
    : Option (List Char × Cursor) := do
  let (chomping, increment, cursor) ← blockHeader? cursor
  let given := increment.map (outer.getD 0 + ·)
  let (breaks, deepest, cursor) ← blockBreaks? given (cursor.rest.length + 1) [] 0 cursor
  let least := (outer.map (· + 1)).getD 0
  let indent := given.getD (max 1 (max deepest least))
  let (text, lineBreak, breaks, cursor) ←
    blockLines? literal indent (cursor.rest.length + 1) [] [] breaks false cursor
  match chomping with
  | .strip => return (text, cursor)
  | .clip => return (text ++ lineBreak, cursor)
  | .keep => return (text ++ lineBreak ++ breaks, cursor)

end Scalar

end NodeDevices.Yaml
