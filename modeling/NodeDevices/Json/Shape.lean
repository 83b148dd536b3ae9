import NodeDevices.Dictionary
import NodeDevices.Record
import NodeDevices.Json.Basic
/-! Reading documents as values of a known shape. -/

namespace NodeDevices.Json

variable {α : Type}

/-- Reads a truth value. -/
def bool? : Json → Option Bool
  | .bool value => some value
  | _ => none

/-- Reads a text. -/
def text? : Json → Option String
  | .str text => text
  | _ => none

/-- Reads an integer between two bounds. -/
def int? (least greatest : Int) : Json → Option Int
  | .num number => do
      let n ← number.int?
      if least ≤ n ∧ n ≤ greatest then some n else none
  | _ => none

/-- Reads an integer of eight bits. -/
def int8? (document : Json) : Option Int8 :=
  (document.int? (-0x80) 0x7F).map Int8.ofInt

/-- Reads an integer of thirty-two bits. -/
def int32? (document : Json) : Option Int32 :=
  (document.int? (-0x80000000) 0x7FFFFFFF).map Int32.ofInt

/-- Reads an integer of sixty-four bits. -/
def int64? (document : Json) : Option Int64 :=
  (document.int? (-0x8000000000000000) 0x7FFFFFFFFFFFFFFF).map Int64.ofInt

/-- Reads a natural number of sixty-four bits. -/
def uint64? (document : Json) : Option UInt64 :=
  (document.int? 0 0xFFFFFFFFFFFFFFFF).map (fun n => UInt64.ofNat n.toNat)

/-- Reads a list. -/
def list? (item? : Json → Option α) : Json → Option (List α)
  | .arr items => items.mapM item?
  | _ => none

/-- Reads the members of an object whose names can all be kept. -/
def members? : Json → Option (List (String × Json))
  | .obj members => members.mapM fun member => member.1.map (·, member.2)
  | _ => none

/-- Reads a map. The last member with a name counts. -/
def dictionary? (value? : Json → Option α) (document : Json) : Option (Dictionary α) := do
  let members ← document.members?
  let entries ← members.mapM fun member => (value? member.2).map (member.1, ·)
  return .ofList entries

/-- Reads a value or `null`. -/
def optional? (value? : Json → Option α) : Json → Option (Option α)
  | .null => some none
  | document => (value? document).map some

/-- Reads a record with the given fields, written by name or by position. -/
def record? (names : List String) : Json → Option (Record Json)
  | .arr values => Record.ofValues? names values
  | document => document.members? >>= Record.ofMembers? names

/-- The document that is a list. -/
def list (write : α → Json) (items : List α) : Json :=
  .arr (items.map write)

/-- The document that is a map. -/
def dictionary (write : α → Json) (map : Dictionary α) : Json :=
  record (map.entries.map fun entry => (entry.1, write entry.2))

end NodeDevices.Json
