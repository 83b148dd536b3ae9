import NodeDevices.Json.Printer
/-! The written form of a document for people to read: the tokens of the compact form, with
each item and member on a line of its own, indented by two spaces for each level.
-/

namespace NodeDevices.Json

/-- A line break with the indentation of a level. -/
def newLine (level : Nat) : List Char :=
  '\n' :: List.replicate (2 * level) ' '

/-- Lays out tokens from a level on. Brackets with nothing between them stay together. -/
def layOut : Nat → List Token → List Char
  | _, [] => []
  | level, .openArray :: .closeArray :: rest => '[' :: ']' :: layOut level rest
  | level, .openObject :: .closeObject :: rest => '\x7b' :: '\x7d' :: layOut level rest
  | level, .openArray :: rest => '[' :: newLine (level + 1) ++ layOut (level + 1) rest
  | level, .openObject :: rest => '\x7b' :: newLine (level + 1) ++ layOut (level + 1) rest
  | level, .closeArray :: rest => newLine (level - 1) ++ ']' :: layOut (level - 1) rest
  | level, .closeObject :: rest => newLine (level - 1) ++ '\x7d' :: layOut (level - 1) rest
  | level, .comma :: rest => ',' :: newLine level ++ layOut level rest
  | level, .colon :: rest => ':' :: ' ' :: layOut level rest
  | level, token :: rest => token.render ++ layOut level rest

/-- Writes a document in lines. -/
def renderLines (document : Json) : String :=
  String.ofList (layOut 0 document.tokens)

end NodeDevices.Json
