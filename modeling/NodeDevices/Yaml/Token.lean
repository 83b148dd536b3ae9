import NodeDevices.Yaml.Scalar
/-! The tokens of a YAML text. Indentation shows as tokens that open and close blocks, and
a key without a mark is found only when its colon is read: its token is then put in front
of it.
-/

namespace NodeDevices.Yaml

/-- A token. -/
inductive Token where
  | version (major minor : Nat)
  | tagDirective (handle start : String)
  | documentStart
  | documentEnd
  | blockSequence
  | blockMapping
  | blockEnd
  | openSequence
  | closeSequence
  | openMapping
  | closeMapping
  | blockEntry
  | flowEntry
  | key
  | value
  | alias (name : String)
  | anchor (name : String)
  | tag (handle suffix : String)
  | scalar (plain : Bool) (text : String)
  deriving DecidableEq, Repr

/-- A place at which a key without a mark may have begun. -/
structure KeyPlace where
  required : Bool
  /-- The number of tokens before it. -/
  position : Nat
  index : Nat
  line : Nat
  column : Nat

/-- A scanner: where it is, the tokens found, and what they imply for what comes. -/
structure Scanner where
  cursor : Cursor
  tokens : List Token := []
  /-- The number of brackets that are open. -/
  flowDepth : Nat := 0
  /-- The columns of the open blocks, the innermost first. -/
  indents : List Nat := []
  keyAllowed : Bool := true
  /-- The place of a possible key within each bracket, the innermost first. -/
  keys : List (Option KeyPlace) := [none]
  ended : Bool := false

namespace Scanner

/-- Says whether brackets are open. -/
def inFlow (scanner : Scanner) : Bool :=
  scanner.flowDepth ≠ 0

/-- Appends a token. -/
def emit (scanner : Scanner) (token : Token) : Scanner :=
  { scanner with tokens := scanner.tokens ++ [token] }

/-- Puts a token at a position. -/
def insert (scanner : Scanner) (position : Nat) (token : Token) : Scanner :=
  { scanner with
    tokens := scanner.tokens.take position ++ token :: scanner.tokens.drop position }

/-- Goes on past blanks, comments and line breaks, and past a byte order mark that begins the
text and counts as a column. A line break in a block allows a key.
-/
def skipToToken : Nat → Scanner → Scanner
  | 0, scanner => scanner
  | bound + 1, scanner =>
      let cursor := scanner.cursor
      let cursor :=
        if cursor.index = 0 ∧ cursor.isAt '\ufeff' then cursor.skip else cursor
      let tabs := scanner.inFlow || !scanner.keyAllowed
      let cursor := (cursor.readWhile fun c => c = ' ' || (tabs && c = '\t')).2.skipComment
      if cursor.atBreak then
        skipToToken bound
          { scanner with
            cursor := cursor.readBreak.2
            keyAllowed := scanner.keyAllowed || !scanner.inFlow }
      else { scanner with cursor }

/-- Forgets the places of keys that a line break or too long a text has made impossible. A
key that the indentation calls for cannot be missing.
-/
def dropStaleKeys? (scanner : Scanner) : Option Scanner := do
  let keys ← scanner.keys.mapM fun place =>
    match place with
    | some key =>
        if key.line < scanner.cursor.line ∨ key.index + 1024 < scanner.cursor.index then
          if key.required then none else some none
        else some (some key)
    | none => some none
  return { scanner with keys }

/-- Closes the blocks that lie deeper than a column, or all of them. -/
def unrollTo (scanner : Scanner) (column : Option Nat) : Scanner :=
  if scanner.inFlow then scanner
  else
    let deeper := scanner.indents.takeWhile fun indent => column.all (· < indent)
    { scanner with
      indents := scanner.indents.drop deeper.length
      tokens := scanner.tokens ++ deeper.map fun _ => Token.blockEnd }

/-- Opens a block at a column unless one is open there; its token goes to a position. -/
def rollTo (scanner : Scanner) (column position : Nat) (token : Token) : Scanner :=
  if scanner.inFlow ∨ scanner.indents.head?.any (column ≤ ·) then scanner
  else { scanner with indents := column :: scanner.indents }.insert position token

/-- Forgets the place of a possible key. -/
def dropKey? (scanner : Scanner) : Option Scanner :=
  match scanner.keys with
  | some key :: rest => if key.required then none else some { scanner with keys := none :: rest }
  | _ => some scanner

/-- Remembers this place as that of a possible key. -/
def saveKey? (scanner : Scanner) : Option Scanner :=
  let required := !scanner.inFlow && scanner.indents.head? = some scanner.cursor.column
  if scanner.keyAllowed then do
    let scanner ← scanner.dropKey?
    let key : KeyPlace := {
      required
      position := scanner.tokens.length
      index := scanner.cursor.index
      line := scanner.cursor.line
      column := scanner.cursor.column
    }
    return { scanner with keys := some key :: scanner.keys.drop 1 }
  else some scanner

/-- Goes on by some characters after a token. -/
def pass (scanner : Scanner) (token : Token) (count : Nat) : Scanner :=
  { scanner with cursor := scanner.cursor.skip count }.emit token

/-- Ends the text. -/
def finish? (scanner : Scanner) : Option Scanner := do
  let scanner ← (scanner.unrollTo none).dropKey?
  return { scanner with ended := true }

/-- Reads a number of a version. -/
def versionNumber? (cursor : Cursor) : Option (Nat × Cursor) :=
  let (run, cursor) := cursor.readWhile Char.isDigit
  if run = [] ∨ 9 < run.length then none else some (Text.Decimal.value run, cursor)

/-- Reads the handle of a tag: a mark, a word and perhaps another mark. -/
def handle? (cursor : Cursor) : Option (List Char × Cursor) :=
  if cursor.isAt '!' then
    let (word, cursor) := cursor.skip.readWhile isWord
    if cursor.isAt '!' then some ('!' :: word ++ ['!'], cursor.skip)
    else some ('!' :: word, cursor)
  else none

/-- The marks that may stand in the address of a tag. -/
def addressMarks : List Char :=
  ";/?:@&=+$.!~*'()".toList

/-- Reads the bytes of a character that are written as escapes. -/
def escapedBytes? : Nat → Cursor → Option (List UInt8 × Cursor)
  | 0, cursor => some ([], cursor)
  | count + 1, cursor =>
      match cursor.rest with
      | '%' :: high :: low :: _ => do
          let byte := 16 * (← Json.hexValue? high) + (← Json.hexValue? low)
          let (bytes, cursor) ← escapedBytes? count (cursor.skip 3)
          return (UInt8.ofNat byte :: bytes, cursor)
      | _ => none

/-- The number of bytes that follow the first byte of a character. -/
def trailingBytes? (first : UInt8) : Option Nat :=
  if first &&& 0x80 = 0 then some 0
  else if first &&& 0xE0 = 0xC0 then some 1
  else if first &&& 0xF0 = 0xE0 then some 2
  else if first &&& 0xF8 = 0xF0 then some 3
  else none

/-- Reads an escaped character of an address. -/
def escapedChar? (cursor : Cursor) : Option (List Char × Cursor) := do
  let (first, next) ← escapedBytes? 1 cursor
  let count ← first.head?.bind trailingBytes?
  let (rest, next) ← escapedBytes? count next
  if rest.all (· &&& 0xC0 = 0x80) then
    let text ← String.fromUTF8? ⟨(first ++ rest).toArray⟩
    return (text.toList, next)
  else none

/-- Reads an address of a tag, in which brackets may be allowed. -/
def address? (brackets : Bool) : Nat → Cursor → Option (List Char × Cursor)
  | 0, _ => none
  | bound + 1, cursor =>
      match cursor.peek with
      | none => some ([], cursor)
      | some c =>
          if c = '%' then do
            let (text, cursor) ← escapedChar? cursor
            let (rest, cursor) ← address? brackets bound cursor
            return (text ++ rest, cursor)
          else if isWord c ∨ addressMarks.contains c ∨ (brackets ∧ [',', '[', ']'].contains c)
          then do
            let (rest, cursor) ← address? brackets bound cursor.skip
            return (c :: rest, cursor)
          else some ([], cursor)

/-- Reads a tag that is written between angle brackets. -/
def verbatimTag? (cursor : Cursor) : Option (Token × Cursor) := do
  let (address, cursor) ← address? true (cursor.rest.length + 1) (cursor.skip 2)
  if address ≠ [] ∧ cursor.isAt '>' then
    return (.tag "" (String.ofList address), cursor.skip)
  else none

/-- Reads a tag that begins with a handle, if only the mark of a local tag. -/
def shortTag? (cursor : Cursor) : Option (Token × Cursor) := do
  let (handle, cursor) ← handle? cursor
  let (address, cursor) ← address? false (cursor.rest.length + 1) cursor
  if 1 < handle.length ∧ handle.getLast? = some '!' then
    if address = [] then none
    else return (.tag (String.ofList handle) (String.ofList address), cursor)
  else
    let suffix := handle.drop 1 ++ address
    return (if suffix = [] then .tag "" "!" else .tag "!" (String.ofList suffix), cursor)

/-- Reads a tag, after which a word ends. -/
def tag? (scanner : Scanner) : Option Scanner := do
  let cursor := scanner.cursor
  let (token, cursor) ← if cursor.isAt '<' 1 then verbatimTag? cursor else shortTag? cursor
  if cursor.atWordEnd ∨ (scanner.inFlow ∧ cursor.isAt ',') then
    return { scanner with cursor }.emit token
  else none

/-- Reads the value of a directive about versions. -/
def versionDirective? (cursor : Cursor) : Option (Token × Cursor) := do
  let (major, cursor) ← versionNumber? cursor.skipSpaces
  if cursor.isAt '.' then
    let (minor, cursor) ← versionNumber? cursor.skip
    return (.version major minor, cursor)
  else none

/-- Reads the value of a directive about tags. -/
def tagDirective? (cursor : Cursor) : Option (Token × Cursor) := do
  let (handle, cursor) ← handle? cursor.skipSpaces
  if (handle ≠ ['!'] ∧ handle.getLast? ≠ some '!') ∨ !cursor.atSpace then none
  let cursor := cursor.skipSpaces
  let (address, cursor) ← address? true (cursor.rest.length + 1) cursor
  if address ≠ [] ∧ cursor.atWordEnd then
    return (.tagDirective (String.ofList handle) (String.ofList address), cursor)
  else none

/-- Reads a directive. -/
def directive? (scanner : Scanner) : Option Scanner := do
  let scanner ← (scanner.unrollTo none).dropKey?
  let (name, cursor) := scanner.cursor.skip.readWhile isWord
  if name = [] ∨ !cursor.atWordEnd then none
  let (token, cursor) ←
    if name = "YAML".toList then versionDirective? cursor
    else if name = "TAG".toList then tagDirective? cursor
    else none
  let cursor := cursor.skipSpaces.skipComment
  if cursor.atLineEnd then
    return { scanner with cursor := cursor.readBreak.2, keyAllowed := false }.emit token
  else none

/-- Reads the mark of a document's start or end. -/
def documentMark? (scanner : Scanner) (token : Token) : Option Scanner := do
  let scanner ← (scanner.unrollTo none).dropKey?
  return { scanner with keyAllowed := false }.pass token 3

/-- Reads an opening bracket. -/
def open? (scanner : Scanner) (token : Token) : Option Scanner := do
  let scanner ← scanner.saveKey?
  return {
    scanner with
    keys := none :: scanner.keys
    flowDepth := scanner.flowDepth + 1
    keyAllowed := true
  }.pass token 1

/-- Reads a closing bracket. -/
def close? (scanner : Scanner) (token : Token) : Option Scanner := do
  let scanner ← scanner.dropKey?
  let keys := if scanner.inFlow then scanner.keys.drop 1 else scanner.keys
  return {
    scanner with keys, flowDepth := scanner.flowDepth - 1, keyAllowed := false
  }.pass token 1

/-- Reads a comma. -/
def flowEntry? (scanner : Scanner) : Option Scanner := do
  let scanner ← scanner.dropKey?
  return { scanner with keyAllowed := true }.pass .flowEntry 1

/-- Opens a block at this column if none is open there, where a block may begin. -/
def beginBlock? (scanner : Scanner) (token : Token) : Option Scanner :=
  if scanner.inFlow then some scanner
  else if scanner.keyAllowed then
    some (scanner.rollTo scanner.cursor.column scanner.tokens.length token)
  else none

/-- Reads the mark of an entry of a block. -/
def blockEntry? (scanner : Scanner) : Option Scanner := do
  let scanner ← (← scanner.beginBlock? .blockSequence).dropKey?
  return { scanner with keyAllowed := true }.pass .blockEntry 1

/-- Reads the mark of a key. -/
def key? (scanner : Scanner) : Option Scanner := do
  let scanner ← (← scanner.beginBlock? .blockMapping).dropKey?
  return { scanner with keyAllowed := !scanner.inFlow }.pass .key 1

/-- Reads a colon. If a key can have begun before it, that is where its token goes. -/
def value? (scanner : Scanner) : Option Scanner :=
  match scanner.keys with
  | some key :: rest =>
      let scanner := (scanner.insert key.position .key).rollTo key.column key.position
        .blockMapping
      some ({ scanner with keys := none :: rest, keyAllowed := false }.pass .value 1)
  | _ => do
      let scanner ← scanner.beginBlock? .blockMapping
      return { scanner with keyAllowed := !scanner.inFlow }.pass .value 1

/-- Reads the name of an anchor or alias. -/
def anchor? (scanner : Scanner) (token : String → Token) : Option Scanner := do
  let scanner ← scanner.saveKey?
  let (name, cursor) := scanner.cursor.skip.readWhile isWord
  if name ≠ [] ∧ (cursor.atWordEnd
      ∨ cursor.isOneOf ['?', ':', ',', ']', '\x7d', '%', '@', '\x60']) then
    return { scanner with cursor, keyAllowed := false }.emit (token (String.ofList name))
  else none

/-- Reads a block of lines. -/
def block? (scanner : Scanner) (literal : Bool) : Option Scanner := do
  let scanner ← scanner.dropKey?
  let (text, cursor) ← Scalar.block? literal scanner.indents.head? scanner.cursor.skip
  return { scanner with cursor, keyAllowed := true }.emit (.scalar false (String.ofList text))

/-- Reads a quoted scalar. -/
def quoted? (scanner : Scanner) (quote : Char) : Option Scanner := do
  let scanner ← scanner.saveKey?
  let (text, cursor) ←
    Scalar.quoted? quote (scanner.cursor.rest.length + 1) [] scanner.cursor.skip
  return { scanner with cursor, keyAllowed := false }.emit (.scalar false (String.ofList text))

/-- Reads a plain scalar. -/
def plain? (scanner : Scanner) : Option Scanner := do
  let scanner ← scanner.saveKey?
  let leftmost := (scanner.indents.head?.map (· + 1)).getD 0
  let (text, endsLine, cursor) ←
    Scalar.plain? scanner.inFlow leftmost (scanner.cursor.rest.length + 1) [] {} scanner.cursor
  return { scanner with cursor, keyAllowed := endsLine }.emit
    (.scalar true (String.ofList text))

/-- The marks that a plain scalar does not begin with. -/
def marks : List Char :=
  "-?:,[]\x7b\x7d#&*!|>'\"%@\x60".toList

/-- Says whether a plain scalar begins here. -/
def atPlain (scanner : Scanner) : Bool :=
  let cursor := scanner.cursor
  (!cursor.atWordEnd && !cursor.isOneOf marks)
    || (cursor.isAt '-' && !cursor.atSpace 1)
    || (!scanner.inFlow && cursor.isOneOf ['?', ':'] && !cursor.atWordEnd 1)

/-- Reads the token that stands here. -/
def token? (scanner : Scanner) : Option Scanner :=
  let cursor := scanner.cursor
  match cursor.peek with
  | none => scanner.finish?
  | some c =>
      if cursor.column = 0 ∧ c = '%' then scanner.directive?
      else if cursor.atTripled '-' then scanner.documentMark? .documentStart
      else if cursor.atTripled '.' then scanner.documentMark? .documentEnd
      else if c = '[' then scanner.open? .openSequence
      else if c = '\x7b' then scanner.open? .openMapping
      else if c = ']' then scanner.close? .closeSequence
      else if c = '\x7d' then scanner.close? .closeMapping
      else if c = ',' then scanner.flowEntry?
      else if c = '-' ∧ cursor.atWordEnd 1 then scanner.blockEntry?
      else if c = '?' ∧ (scanner.inFlow ∨ cursor.atWordEnd 1) then scanner.key?
      else if c = ':' ∧ (scanner.inFlow ∨ cursor.atWordEnd 1) then scanner.value?
      else if c = '*' then scanner.anchor? .alias
      else if c = '&' then scanner.anchor? .anchor
      else if c = '!' then do
        let scanner ← { (← scanner.saveKey?) with keyAllowed := false }.tag?
        return scanner
      else if c = '|' ∧ !scanner.inFlow then scanner.block? true
      else if c = '>' ∧ !scanner.inFlow then scanner.block? false
      else if c = '\'' ∨ c = '"' then scanner.quoted? c
      else if scanner.atPlain then scanner.plain?
      else none

/-- Reads what comes up to the end of the next token. -/
def next? (scanner : Scanner) : Option Scanner := do
  let scanner ← (scanner.skipToToken (scanner.cursor.rest.length + 1)).dropStaleKeys?
  (scanner.unrollTo (some scanner.cursor.column)).token?

/-- Reads tokens up to the end of the text, given a bound on their number. -/
def run? : Nat → Scanner → Option (List Token)
  | 0, _ => none
  | bound + 1, scanner => do
      let scanner ← scanner.next?
      if scanner.ended then return scanner.tokens else run? bound scanner

end Scanner

/-- Says whether a character may stand in a text. -/
def isPrintable (c : Char) : Bool :=
  let code := c.toNat
  code = 9 || code = 10 || code = 13 || (0x20 ≤ code && code ≤ 0x7E) || code = 0x85
    || (0xA0 ≤ code && code ≤ 0xD7FF) || (0xE000 ≤ code && code ≤ 0xFFFD) || 0x10000 ≤ code

/-- The tokens of a text. -/
def scan? (text : List Char) : Option (List Token) :=
  if text.all isPrintable then Scanner.run? (text.length + 2) { cursor := { rest := text } }
  else none

end NodeDevices.Yaml
