import NodeDevices.Text.Decimal
/-! JSON documents as trees, and the tokens that they are written with. A number keeps its
spelling and an object keeps all its members in written order, so that what a reader
ignores can be of any size and shape.
-/

namespace NodeDevices

/-- The text of a JSON string. There is none when an escape stands for half of a surrogate
pair: such a string may be skipped but not kept.
-/
abbrev Json.Text := Option String

/-- A JSON number: its whole part, and the spelling of its fraction and exponent. -/
structure Json.Number where
  negative : Bool
  whole : Nat
  tail : List Char
  deriving DecidableEq, Repr

/-- A JSON document. -/
inductive Json where
  | null
  | bool (value : Bool)
  | num (value : Json.Number)
  | str (text : Json.Text)
  | arr (items : List Json)
  | obj (members : List (Json.Text × Json))

namespace Json

/-- A piece of a written document. -/
inductive Token where
  | openObject
  | closeObject
  | openArray
  | closeArray
  | comma
  | colon
  | null
  | bool (value : Bool)
  | num (value : Number)
  | str (text : Text)
  deriving DecidableEq, Repr

/-- The number that an integer is written as. -/
def Number.ofInt (n : Int) : Number :=
  ⟨n < 0, n.natAbs, []⟩

/-- The integer that a number stands for. A number with a fraction, an exponent or a
negative zero is no integer.
-/
def Number.int? (number : Number) : Option Int :=
  if number.tail ≠ [] ∨ (number.negative ∧ number.whole = 0) then none
  else if number.negative then some (-(number.whole : Int))
  else some number.whole

theorem Number.int?_ofInt (n : Int)
    : (Number.ofInt n).int? = some n := by
  cases n with
  | ofNat k => rfl
  | negSucc k =>
    rw [int?, if_neg (by simp [ofInt]), if_pos (by simp [ofInt]), ofInt, Int.natAbs_negSucc]
    rfl

/-- The document that is an integer. -/
def int (n : Int) : Json :=
  .num (.ofInt n)

/-- The document that is a text. -/
def text (s : String) : Json :=
  .str (some s)

/-- The object with the given members. -/
def record (members : List (String × Json)) : Json :=
  .obj (members.map fun (name, value) => (some name, value))

/-- The document that is a value, or `null` when there is none. -/
def optional {α : Type} (write : α → Json) : Option α → Json
  | none => .null
  | some value => write value

end Json

end NodeDevices
