import NodeDevices.Http.Percent
import NodeDevices.Http.Punycode
import NodeDevices.Text.Decimal
import NodeDevices.Text.LetterCase
import NodeDevices.Text.Split
/-! The host of an address: a name, or a number of the fourth or sixth version of the
internet protocol. Every host has one written form.
-/

namespace NodeDevices.Http

/-- A host. -/
inductive Host where
  | name (text : List Char)
  | ipv4 (value : Nat)
  | ipv6 (pieces : List Nat)
  deriving DecidableEq, Repr

namespace Host

/-- The digits of a number to the base sixteen, none of them idle. -/
def hexDigits (n : Nat) : List Char :=
  Nat.toDigits 16 n

/-- The number that hexadecimal digits stand for. -/
def hexNumber? (digits : List Char) : Option Nat :=
  digits.foldlM (fun total c => (Json.hexValue? c).map (16 * total + ·)) 0

/-- Reads a part of a number of the fourth version, which may be hexadecimal or octal. -/
def ipv4Part? (part : List Char) : Option Nat :=
  match part with
  | [] => none
  | '0' :: x :: digits =>
      if x = 'x' ∨ x = 'X' then hexNumber? digits
      else if (x :: digits).all fun c => '0' ≤ c ∧ c ≤ '7' then
        some ((x :: digits).foldl (fun total c => 8 * total + (c.toNat - 48)) 0)
      else none
  | digits => Text.Decimal.nat? digits

/-- The parts of a name between its dots, of which the last may be empty. -/
def nameParts (name : List Char) : List (List Char) :=
  let parts := Text.splitOn '.' name
  if parts.getLast? = some [] then parts.dropLast else parts

/-- Says whether a name ends in a number, so that it has to be a number as a whole. -/
def endsInNumber (name : List Char) : Bool :=
  match (nameParts name).getLast? with
  | some part => (part ≠ [] && part.all Char.isDigit) || (ipv4Part? part).isSome
  | none => false

/-- Reads a number of the fourth version. Of fewer than four parts the last one has the bytes
of those that are left out.
-/
def ipv4? (name : List Char) : Option Nat := do
  let numbers ← (nameParts name).mapM ipv4Part?
  if 4 < numbers.length then none
  let last ← numbers.getLast?
  let leading := numbers.dropLast
  let span := Nat.pow 256 (4 - leading.length)
  if span ≤ last ∨ leading.any (255 < ·) then none
  return last + (leading.foldl (fun total n => 256 * total + n) 0) * span

/-- Reads a byte in decimal digits without idle zeros. -/
def plainByte? (part : List Char) : Option Nat := do
  let n ← Text.Decimal.nat? part
  if 255 < n ∨ (part.head? = some '0' ∧ part.length ≠ 1) then none else return n

/-- Reads four bytes with dots between them as two pieces. -/
def dotted? (text : List Char) : Option (List Nat) := do
  match ← (Text.splitOn '.' text).mapM plainByte? with
  | [a, b, c, d] => return [256 * a + b, 256 * c + d]
  | _ => none

/-- Reads a piece of a number of the sixth version. -/
def piece? (text : List Char) : Option Nat :=
  if text = [] ∨ 4 < text.length then none else hexNumber? text

/-- Reads pieces with colons between them; the last two can be four bytes. -/
def pieces? (bytesAllowed : Bool) (text : List Char) : Option (List Nat) :=
  if text = [] then some []
  else go (Text.splitOn ':' text)
where
  /-- Reads the pieces of the given texts. -/
  go : List (List Char) → Option (List Nat)
    | [] => some []
    | [last] =>
        if bytesAllowed ∧ last.contains '.' then dotted? last else (piece? last).map ([·])
    | text :: rest => do return (← piece? text) :: (← go rest)

/-- The texts before and after the first two colons in a row. -/
def splitGap? : List Char → Option (List Char × List Char)
  | ':' :: ':' :: rest => some ([], rest)
  | c :: rest => (splitGap? rest).map fun (before, after) => (c :: before, after)
  | [] => none

/-- Reads a number of the sixth version. Two colons in a row stand for zeros. -/
def ipv6? (text : List Char) : Option (List Nat) := do
  match splitGap? text with
  | none =>
      let pieces ← pieces? true text
      if pieces.length = 8 then return pieces else none
  | some (before, after) =>
      let left ← pieces? false before
      let right ← pieces? true after
      let count := left.length + right.length
      if count < 8 then return left ++ List.replicate (8 - count) 0 ++ right else none

/-- The characters that no name has. -/
def forbidden : List Char :=
  " #/:<>?@[\\]^|%".toList

/-- The place and the length of the first longest run of zeros, counted from a position. -/
def zeroRun (position : Nat) : List Nat → Nat × Nat
  | [] => (position, 0)
  | piece :: rest =>
      let here := ((piece :: rest).takeWhile (· = 0)).length
      let later := zeroRun (position + 1) rest
      if here < later.2 then later else (position, here)

/-- Pieces in hexadecimal digits with colons between them. -/
def renderPieces (pieces : List Nat) : List Char :=
  Text.joinWith ':' (pieces.map hexDigits)

/-- The written form of a host. -/
def render : Host → List Char
  | .name text => text
  | .ipv4 value =>
      Text.joinWith '.'
        ([16777216, 65536, 256, 1].map fun unit => Text.Decimal.digits (value / unit % 256))
  | .ipv6 pieces =>
      let (start, length) := zeroRun 0 pieces
      let inner :=
        if length < 2 then renderPieces pieces
        else renderPieces (pieces.take start) ++ [':', ':']
          ++ renderPieces (pieces.drop (start + length))
      '[' :: inner ++ [']']

/-- The code points that a name is read without: the soft hyphen, joiners of width zero, and
the selectors of variants.
-/
def idleRanges : List (Nat × Nat) :=
  [(0x00AD, 0x00AD), (0x034F, 0x034F), (0x180B, 0x180D), (0x180F, 0x180F), (0x200B, 0x200B),
    (0x2060, 0x2060), (0x2064, 0x2064), (0xFE00, 0xFE0F), (0xFEFF, 0xFEFF),
    (0x1BCA0, 0x1BCA3), (0xE0100, 0xE01EF)]

/-- What a character of a name is compared as, whatever stands around it: in lower case, every
kind of full stop as a dot, and the wide forms as the plain characters. The other forms that
are kept for compatibility, such as ligatures and letters in circles, stay as they are here,
and marks are not composed with their letters.
-/
def foldChar (c : Char) : List Char :=
  if Text.LetterCase.isIn idleRanges c.toNat then []
  else if c = '\u3002' ∨ c = '\uff61' then ['.']
  else if 0xFF01 ≤ c.toNat ∧ c.toNat ≤ 0xFF5E then
    Text.LetterCase.lowerChar (Char.ofNat (c.toNat - 0xFEE0))
  else Text.LetterCase.lowerChar c

/-- The form in which names are compared. -/
def foldName (text : List Char) : List Char :=
  text.flatMap foldChar

/-- Reads a host. -/
def parse? (text : List Char) : Option Host := do
  match text with
  | '[' :: rest =>
      if rest.getLast? = some ']' then return .ipv6 (← ipv6? rest.dropLast) else none
  | _ =>
      let decoded ← String.fromUTF8? ⟨(Percent.decode text).toArray⟩
      let folded := foldName decoded.toList
      if folded = [] ∨ folded.any fun c => c.toNat < 0x20 ∨ c.toNat = 0x7F ∨ forbidden.contains c
      then none
      let name := Text.joinWith '.' ((Text.splitOn '.' folded).map Punycode.label)
      if endsInNumber name then return .ipv4 (← ipv4? name) else return .name name

end Host

end NodeDevices.Http
