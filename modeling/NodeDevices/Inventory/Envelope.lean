import NodeDevices.Json.Shape
/-! The envelope that every answer of the inventory comes in. -/

namespace NodeDevices.Inventory

/-- An answer of the inventory: a return code, two messages and perhaps a payload. -/
structure Envelope (α : Type) where
  code : Int32 := 0
  errMsg : String := ""
  errUserMsg : String := ""
  data : Option α
  deriving DecidableEq

namespace Envelope

variable {α : Type}

/-- The return code of a call that succeeded. -/
def successCode : Int32 := 0

/-- The envelope of a payload. -/
def success (payload : α) : Envelope α :=
  { code := successCode, data := some payload }

/-- The envelope of a call that failed. -/
def failure (code : Int32) (message : String) : Envelope α :=
  { code, errMsg := message, data := none }

/-- Says whether the call succeeded. -/
def isSuccess (envelope : Envelope α) : Bool :=
  envelope.code = successCode

/-- Reads an envelope, given how its payload is read. -/
def ofJson? (payload? : Json → Option α) (document : Json) : Option (Envelope α) := do
  let record ← document.record? ["code", "err_msg", "err_user_msg", "data"]
  return {
    code := ← record.default? "code" 0 Json.int32?
    errMsg := ← record.default? "err_msg" "" Json.text?
    errUserMsg := ← record.default? "err_user_msg" "" Json.text?
    data := ← record.nullable? "data" (Json.optional? payload?)
  }

/-- The document of an envelope, given how its payload is written. -/
def toJson (payload : α → Json) (envelope : Envelope α) : Json :=
  .record [
    ("code", .int envelope.code.toInt),
    ("err_msg", .text envelope.errMsg),
    ("err_user_msg", .text envelope.errUserMsg),
    ("data", Json.optional payload envelope.data)
  ]

end Envelope

end NodeDevices.Inventory
