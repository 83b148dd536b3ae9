/-! A place in a YAML text: what is left to read, with the line and column that decide
about indentation.
-/

namespace NodeDevices.Yaml

/-- A place in a text. -/
structure Cursor where
  rest : List Char
  index : Nat := 0
  line : Nat := 0
  column : Nat := 0

/-- Says whether a character is a space or a tab. -/
def isSpace (c : Char) : Bool :=
  c = ' ' || c = '\t'

/-- Says whether a character breaks a line. -/
def isBreak (c : Char) : Bool :=
  c = '\n' || c = '\r' || c = '\u0085' || c = '\u2028' || c = '\u2029'

/-- Says whether a character may be part of an anchor or of the handle of a tag. -/
def isWord (c : Char) : Bool :=
  c.isAlphanum || c = '_' || c = '-'

namespace Cursor

/-- The character some places ahead, if the text goes on so far. -/
def peek (cursor : Cursor) (ahead : Nat := 0) : Option Char :=
  cursor.rest[ahead]?

/-- Says whether a given character stands some places ahead. -/
def isAt (cursor : Cursor) (c : Char) (ahead : Nat := 0) : Bool :=
  cursor.peek ahead = some c

/-- Says whether a space or tab stands some places ahead. -/
def atSpace (cursor : Cursor) (ahead : Nat := 0) : Bool :=
  (cursor.peek ahead).any isSpace

/-- Says whether a line break stands here. -/
def atBreak (cursor : Cursor) (ahead : Nat := 0) : Bool :=
  (cursor.peek ahead).any isBreak

/-- Says whether the line ends some places ahead. -/
def atLineEnd (cursor : Cursor) (ahead : Nat := 0) : Bool :=
  (cursor.peek ahead).all isBreak

/-- Says whether a word ends some places ahead: at a blank, a line break or the end. -/
def atWordEnd (cursor : Cursor) (ahead : Nat := 0) : Bool :=
  (cursor.peek ahead).all fun c => isSpace c || isBreak c

/-- Says whether one of the given characters stands some places ahead. -/
def isOneOf (cursor : Cursor) (chars : List Char) (ahead : Nat := 0) : Bool :=
  (cursor.peek ahead).any chars.contains

/-- Goes on by some characters of the same line. -/
def skip (cursor : Cursor) (count : Nat := 1) : Cursor :=
  { cursor with
    rest := cursor.rest.drop count
    index := cursor.index + count
    column := cursor.column + count }

/-- Goes on past a line break, and says what it reads as: a line feed, except for the two
separators of lines and paragraphs, which stay.
-/
def readBreak (cursor : Cursor) : List Char × Cursor :=
  match cursor.rest with
  | '\r' :: '\n' :: rest =>
      (['\n'], { rest, index := cursor.index + 2, line := cursor.line + 1 })
  | c :: rest =>
      if isBreak c then
        (if c = '\u2028' ∨ c = '\u2029' then [c] else ['\n'],
          { rest, index := cursor.index + 1, line := cursor.line + 1 })
      else ([], cursor)
  | [] => ([], cursor)

/-- Reads the characters of a class. -/
def readWhile (cursor : Cursor) (class? : Char → Bool) : List Char × Cursor :=
  let run := cursor.rest.takeWhile class?
  (run, cursor.skip run.length)

/-- Goes on past spaces and tabs. -/
def skipSpaces (cursor : Cursor) : Cursor :=
  (cursor.readWhile isSpace).2

/-- Goes on to the end of the line if a comment stands here. -/
def skipComment (cursor : Cursor) : Cursor :=
  if cursor.isAt '#' then (cursor.readWhile (!isBreak ·)).2 else cursor

/-- Says whether a line starts here with the given mark, three times, as a word. -/
def atTripled (cursor : Cursor) (mark : Char) : Bool :=
  cursor.column = 0 && cursor.isAt mark && cursor.isAt mark 1 && cursor.isAt mark 2
    && cursor.atWordEnd 3

/-- Says whether a mark of a document's start or end stands here. -/
def atDocumentMark (cursor : Cursor) : Bool :=
  cursor.atTripled '-' || cursor.atTripled '.'

end Cursor

end NodeDevices.Yaml
