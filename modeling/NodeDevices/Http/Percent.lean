import NodeDevices.Json.Lexer
/-! Percent-encoding: a byte as a percent sign and two hexadecimal digits. -/

namespace NodeDevices.Http.Percent

/-- The capital hexadecimal digit with a value. -/
def digit (value : Nat) : Char :=
  if value < 10 then Char.ofNat (48 + value) else Char.ofNat (55 + value)

/-- The escape of a byte. -/
def escape (byte : UInt8) : List Char :=
  ['%', digit (byte.toNat / 16), digit (byte.toNat % 16)]

/-- Says whether a character is a control, or not ASCII at all. -/
def isForeign (c : Char) : Bool :=
  c.toNat < 0x20 || 0x7F ≤ c.toNat

/-- Escapes the characters that are foreign or among the given ones. -/
def encode (escaped : List Char) (text : List Char) : List Char :=
  text.flatMap fun c =>
    if isForeign c || escaped.contains c then (String.singleton c).toUTF8.toList.flatMap escape
    else [c]

/-- The bytes of a text, in which an escape stands for one byte. -/
def decode : List Char → List UInt8
  | [] => []
  | '%' :: high :: low :: rest =>
      match Json.hexValue? high, Json.hexValue? low with
      | some h, some l => UInt8.ofNat (16 * h + l) :: decode rest
      | _, _ => 0x25 :: decode (high :: low :: rest)
  | c :: rest => (String.singleton c).toUTF8.toList ++ decode rest

end NodeDevices.Http.Percent
