import NodeDevices.Json.Basic
/-! The compact written form of a document: no blanks, members in their order, and in a
string only quotes, backslashes and control characters escaped.
-/

namespace NodeDevices.Json

/-- The hexadecimal digit of a number below sixteen, in lower case. -/
def hexDigit (n : Nat) : Char :=
  if n < 10 then Char.ofNat (48 + n) else Char.ofNat (87 + n)

/-- Writes one character of a string. -/
def escape (c : Char) : List Char :=
  if c = '"' then ['\\', '"']
  else if c = '\\' then ['\\', '\\']
  else if c.toNat = 8 then ['\\', 'b']
  else if c.toNat = 12 then ['\\', 'f']
  else if c = '\n' then ['\\', 'n']
  else if c = '\r' then ['\\', 'r']
  else if c = '\t' then ['\\', 't']
  else if c.toNat < 32 then
    ['\\', 'u', '0', '0', hexDigit (c.toNat / 16), hexDigit (c.toNat % 16)]
  else [c]

/-- Writes a string with its quotes; a text that cannot be kept is shown as a lone half. -/
def quote : Text → List Char
  | some s => '"' :: s.toList.flatMap escape ++ ['"']
  | none => "\"\\ud800\"".toList

/-- Writes a number. -/
def Number.render (number : Number) : List Char :=
  (if number.negative then ['-'] else []) ++ Text.Decimal.digits number.whole ++ number.tail

/-- Writes a token. -/
def Token.render : Token → List Char
  | .openObject => ['\x7b']
  | .closeObject => ['\x7d']
  | .openArray => ['[']
  | .closeArray => [']']
  | .comma => [',']
  | .colon => [':']
  | .null => "null".toList
  | .bool value => (if value then "true" else "false").toList
  | .num value => value.render
  | .str text => quote text

mutual
/-- The tokens of a document. -/
def tokens : Json → List Token
  | .null => [.null]
  | .bool value => [.bool value]
  | .num value => [.num value]
  | .str text => [.str text]
  | .arr items => .openArray :: itemTokens items ++ [.closeArray]
  | .obj members => .openObject :: memberTokens members ++ [.closeObject]

/-- The tokens of the items of an array. -/
def itemTokens : List Json → List Token
  | [] => []
  | [item] => item.tokens
  | item :: next :: rest => item.tokens ++ .comma :: itemTokens (next :: rest)

/-- The tokens of the members of an object. -/
def memberTokens : List (Text × Json) → List Token
  | [] => []
  | [(name, value)] => .str name :: .colon :: value.tokens
  | (name, value) :: next :: rest =>
      .str name :: .colon :: value.tokens ++ .comma :: memberTokens (next :: rest)
end

/-- Writes a document. -/
def render (document : Json) : String :=
  String.ofList (document.tokens.flatMap Token.render)

end NodeDevices.Json
