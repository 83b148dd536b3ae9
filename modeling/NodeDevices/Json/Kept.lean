import NodeDevices.Json.Parser
/-! Documents that are kept as they are, whatever their shape: they are not nested too
deeply, all their texts are whole, and their numbers are in the range of binary floating
point with 64 bits.
-/

namespace NodeDevices.Json

/-- The least magnitude that rounds to no finite number: half a unit above the greatest. -/
def Number.overflow : Nat :=
  Nat.pow 2 1024 - Nat.pow 2 970

/-- The digits of the fraction in the spelling of a number, and its exponent. -/
def Number.scale (number : Number) : List Char × Int :=
  let fraction :=
    match number.tail with
    | '.' :: rest => rest.takeWhile Char.isDigit
    | _ => []
  let exponent := (number.tail.dropWhile fun c => c = '.' || c.isDigit).drop 1
  let magnitude : Nat := Text.Decimal.value (exponent.filter Char.isDigit)
  (fraction, if exponent.head? = some '-' then -(magnitude : Int) else magnitude)

/-- Says whether a number rounds to a finite one. The number of digits settles it unless
the number is close to the bound.
-/
def Number.isFinite (number : Number) : Bool :=
  let (fraction, exponent) := number.scale
  let significand := number.whole * Nat.pow 10 fraction.length + Text.Decimal.value fraction
  let power : Int := exponent - fraction.length
  let size : Int := (Text.Decimal.digits significand).length + power
  if significand = 0 ∨ size < 300 then true
  else if 320 < size then false
  else if 0 ≤ power then significand * Nat.pow 10 power.toNat < overflow
  else significand < overflow * Nat.pow 10 (-power).toNat

/-- Says whether a document can be kept within a number of levels. -/
def isKept : Nat → Json → Bool
  | _, .null => true
  | _, .bool _ => true
  | _, .num number => number.isFinite
  | _, .str text => text.isSome
  | 0, .arr _ => false
  | 0, .obj _ => false
  | levels + 1, .arr items => items.all (isKept levels)
  | levels + 1, .obj members =>
      members.all fun member => member.1.isSome && isKept levels member.2

/-- Reads a document that can be kept within a number of levels. -/
def kept? (levels : Nat) (document : Json) : Option Json :=
  if document.isKept levels then some document else none

/-- The number of bytes of a character that starts with a byte, if one can. -/
def charSize (first : UInt8) : Nat :=
  if first < 0x80 then 1 else if first < 0xE0 then 2 else if first < 0xF0 then 3 else 4

/-- The text of bytes. A byte that is part of no character reads like a lone half of a
surrogate pair: it can be passed over within a string, but not kept.
-/
def decode : Nat → List UInt8 → List Char
  | _, [] => []
  | 0, _ => []
  | bound + 1, first :: rest =>
      let size := charSize first
      match String.fromUTF8? ⟨((first :: rest).take size).toArray⟩ with
      | some text => text.toList ++ decode bound (rest.drop (size - 1))
      | none => "x\\udc80x".toList ++ decode bound rest

/-- Reads bytes as one document. -/
def ofBytes? (bytes : List UInt8) : Option Json :=
  parse? (decode bytes.length bytes)

end NodeDevices.Json
