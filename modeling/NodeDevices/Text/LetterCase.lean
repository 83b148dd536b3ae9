import NodeDevices.Text.LetterCase.Table
/-! Lower and upper case of texts. A character may become several, and a capital sigma at
the end of a word has a lower case of its own.
-/

namespace NodeDevices.Text.LetterCase

/-- The case that the runs of a table give to a code point. -/
def lookup? (runs : List Run) (code : Nat) : Option Nat :=
  runs.findSome? (·.partner? code)

/-- Says whether a code point lies in a range of a table. -/
def isIn (ranges : List (Nat × Nat)) (code : Nat) : Bool :=
  ranges.any (fun range => range.1 ≤ code && code ≤ range.2)

/-- The lower case of a character by itself. -/
def lowerChar (c : Char) : List Char :=
  if c = 'İ' then ['i', '\u0307']
  else match lookup? lowerRuns c.toNat with
    | some code => [Char.ofNat code]
    | none => [c]

/-- The upper case of a character. -/
def upperChar (c : Char) : List Char :=
  match longUppers.lookup c.toNat with
  | some codes => codes.map Char.ofNat
  | none =>
      match lookup? upperRuns c.toNat with
      | some code => [Char.ofNat code]
      | none => [c]

/-- Says whether a cased character comes next, ignorable ones passed over. -/
def casedNext (text : List Char) : Bool :=
  match text.dropWhile (fun c => isIn ignorableRanges c.toNat) with
  | c :: _ => isIn casedRanges c.toNat
  | [] => false

/-- The lower case of a text, given what stands before it in reverse. -/
def lowerAfter (before : List Char) : List Char → List Char
  | [] => []
  | c :: rest =>
      let lower :=
        if c = 'Σ' then if casedNext before && !casedNext rest then ['ς'] else ['σ']
        else lowerChar c
      lower ++ lowerAfter (c :: before) rest

/-- The lower case of a text. -/
def lower (text : List Char) : List Char :=
  lowerAfter [] text

/-- The upper case of a text. -/
def upper (text : String) : String :=
  String.ofList (text.toList.flatMap upperChar)

end NodeDevices.Text.LetterCase
