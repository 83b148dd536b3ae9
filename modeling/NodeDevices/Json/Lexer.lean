import NodeDevices.Json.Basic
/-! Splitting a text into JSON tokens. Every scanner returns what it has read with the rest
of the text, which is shorter, so the text bounds the work.
-/

namespace NodeDevices.Json

/-- Says whether a character may stand between tokens. -/
def isSpace (c : Char) : Bool :=
  c = ' ' || c = '\t' || c = '\n' || c = '\r'

/-- The value of a hexadecimal digit. -/
def hexValue? (c : Char) : Option Nat :=
  if '0' ≤ c ∧ c ≤ '9' then some (c.toNat - 48)
  else if 'a' ≤ c ∧ c ≤ 'f' then some (c.toNat - 87)
  else if 'A' ≤ c ∧ c ≤ 'F' then some (c.toNat - 55)
  else none

/-- The value of four hexadecimal digits. -/
def hex4? (a b c d : Char) : Option Nat := do
  return (((← hexValue? a) * 16 + (← hexValue? b)) * 16 + (← hexValue? c)) * 16 + (← hexValue? d)

/-- A piece of a string: a character, or a code unit written in hexadecimal. -/
inductive Piece where
  | char (c : Char)
  | unit (code : Nat)

/-- The character of an escape with one letter. -/
def shortEscape? (c : Char) : Option Char :=
  match c with
  | '"' => some '"'
  | '\\' => some '\\'
  | '/' => some '/'
  | 'b' => some '\x08'
  | 'f' => some '\x0c'
  | 'n' => some '\n'
  | 'r' => some '\r'
  | 't' => some '\t'
  | _ => none

/-- Reads the pieces of a string up to its closing quote. -/
def pieces? : List Char → Option (List Piece × List Char)
  | [] => none
  | c :: rest =>
      if c = '"' then some ([], rest)
      else if c = '\\' then
        match rest with
        | [] => none
        | e :: rest =>
            if e = 'u' then
              match rest with
              | h1 :: h2 :: h3 :: h4 :: rest => do
                  let code ← hex4? h1 h2 h3 h4
                  let (tail, rest) ← pieces? rest
                  return (.unit code :: tail, rest)
              | _ => none
            else do
              let c ← shortEscape? e
              let (tail, rest) ← pieces? rest
              return (.char c :: tail, rest)
      else if c.toNat < 32 then none
      else do
        let (tail, rest) ← pieces? rest
        return (.char c :: tail, rest)

/-- Joins the pieces of a string. A high half of a surrogate pair counts only when a low
half follows it, and a low half only then.
-/
def assemble? : List Piece → Option (List Char)
  | [] => some []
  | .char c :: rest => (assemble? rest).map (c :: ·)
  | .unit high :: rest =>
      if 0xD800 ≤ high ∧ high < 0xDC00 then
        match rest with
        | .unit low :: rest =>
            if 0xDC00 ≤ low ∧ low < 0xE000 then
              (assemble? rest).map
                (Char.ofNat (0x10000 + (high - 0xD800) * 0x400 + (low - 0xDC00)) :: ·)
            else none
        | _ => none
      else if 0xDC00 ≤ high ∧ high < 0xE000 then none
      else (assemble? rest).map (Char.ofNat high :: ·)

/-- Reads a fraction: a point and at least one digit, or nothing. -/
def fraction? : List Char → Option (List Char × List Char)
  | '.' :: rest =>
      let (run, rest) := Text.Decimal.spanDigits rest
      if run = [] then none else some ('.' :: run, rest)
  | rest => some ([], rest)

/-- Reads the digits of an exponent after its mark and sign. -/
def exponentDigits? (mark : List Char) (text : List Char) : Option (List Char × List Char) :=
  let (run, rest) := Text.Decimal.spanDigits text
  if run = [] then none else some (mark ++ run, rest)

/-- Reads an exponent: a mark, perhaps a sign and at least one digit, or nothing. -/
def exponent? : List Char → Option (List Char × List Char)
  | e :: rest =>
      if e = 'e' ∨ e = 'E' then
        match rest with
        | s :: rest =>
            if s = '+' ∨ s = '-' then exponentDigits? [e, s] rest
            else exponentDigits? [e] (s :: rest)
        | [] => none
      else some ([], e :: rest)
  | [] => some ([], [])

/-- Reads a number after its sign. A whole part of several digits starts with no zero. -/
def number? (negative : Bool) (text : List Char) : Option (Number × List Char) := do
  let (run, rest) := Text.Decimal.spanDigits text
  if run = [] ∨ (run.head? = some '0' ∧ run.length ≠ 1) then none
  else
    let (fraction, rest) ← fraction? rest
    let (exponent, rest) ← exponent? rest
    return (⟨negative, Text.Decimal.value run, fraction ++ exponent⟩, rest)

/-- Reads the rest of a word whose first letter has been read. -/
def word? (word : String) (token : Token) (text : List Char) : Option (Token × List Char) :=
  if word.toList.isPrefixOf text then some (token, text.drop word.length) else none

/-- Reads the token that starts with the given character. -/
def token? (c : Char) (rest : List Char) : Option (Token × List Char) :=
  match c with
  | '\x7b' => some (.openObject, rest)
  | '\x7d' => some (.closeObject, rest)
  | '[' => some (.openArray, rest)
  | ']' => some (.closeArray, rest)
  | ',' => some (.comma, rest)
  | ':' => some (.colon, rest)
  | '"' => do
      let (pieces, rest) ← pieces? rest
      return (.str ((assemble? pieces).map String.ofList), rest)
  | 'n' => word? "ull" .null rest
  | 't' => word? "rue" (.bool true) rest
  | 'f' => word? "alse" (.bool false) rest
  | '-' => do
      let (number, rest) ← number? true rest
      return (.num number, rest)
  | c => do
      let (number, rest) ← number? false (c :: rest)
      return (.num number, rest)

/-- Splits a text into tokens, given a bound on their number. -/
def lexWithin : Nat → List Char → Option (List Token)
  | _, [] => some []
  | 0, _ :: _ => none
  | bound + 1, c :: rest =>
      if isSpace c then lexWithin bound rest
      else do
        let (token, rest) ← token? c rest
        let tokens ← lexWithin bound rest
        return token :: tokens

/-- Splits a text into tokens. -/
def lex (text : List Char) : Option (List Token) :=
  lexWithin text.length text

end NodeDevices.Json
