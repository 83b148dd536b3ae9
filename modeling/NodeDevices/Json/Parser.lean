import NodeDevices.Json.Lexer
/-! Reading a document from its tokens. A text is one document and nothing after it. -/

namespace NodeDevices.Json

mutual
/-- Reads the document that a list of tokens starts with. -/
def readValue? : Nat → List Token → Option (Json × List Token)
  | 0, _ => none
  | _, [] => none
  | bound + 1, token :: rest =>
      match token with
      | .null => some (.null, rest)
      | .bool value => some (.bool value, rest)
      | .num value => some (.num value, rest)
      | .str text => some (.str text, rest)
      | .openArray =>
          match rest with
          | .closeArray :: rest => some (.arr [], rest)
          | _ => do
              let (items, rest) ← readItems? bound rest
              return (.arr items, rest)
      | .openObject =>
          match rest with
          | .closeObject :: rest => some (.obj [], rest)
          | _ => do
              let (members, rest) ← readMembers? bound rest
              return (.obj members, rest)
      | _ => none

/-- Reads the items of an array that has some, with the closing bracket. -/
def readItems? : Nat → List Token → Option (List Json × List Token)
  | 0, _ => none
  | bound + 1, tokens => do
      let (item, rest) ← readValue? bound tokens
      match rest with
      | .closeArray :: rest => return ([item], rest)
      | .comma :: rest =>
          let (items, rest) ← readItems? bound rest
          return (item :: items, rest)
      | _ => none

/-- Reads the members of an object that has some, with the closing brace. -/
def readMembers? : Nat → List Token → Option (List (Text × Json) × List Token)
  | 0, _ => none
  | bound + 1, tokens => do
      match tokens with
      | .str name :: .colon :: rest =>
          let (value, rest) ← readValue? bound rest
          match rest with
          | .closeObject :: rest => return ([(name, value)], rest)
          | .comma :: rest =>
              let (members, rest) ← readMembers? bound rest
              return ((name, value) :: members, rest)
          | _ => none
      | _ => none
end

/-- Reads a text as one document. -/
def parse? (text : List Char) : Option Json := do
  let tokens ← lex text
  let (document, rest) ← readValue? (2 * tokens.length + 1) tokens
  if rest.isEmpty then return document else none

end NodeDevices.Json
