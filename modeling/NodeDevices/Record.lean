/-! Values at the named positions of a record. A document writes a record either by name or
by position; the rules for absent and repeated positions are the same for every record.
-/

namespace NodeDevices

/-- The fields of a record that a document gives, by name. A record written by position
gives its first fields.
-/
structure Record (α : Type) where
  keyed : Bool
  fields : List (String × α)

namespace Record

variable {α β : Type}

/-- The record that named members give: members with a foreign name count for nothing, and
no field is given twice.
-/
def ofMembers? (names : List String) (members : List (String × α)) : Option (Record α) :=
  let known := members.filter (fun member => names.contains member.1)
  if (known.map Prod.fst).Nodup then some ⟨true, known⟩ else none

/-- The record that a list of values gives: there are no more values than fields. -/
def ofValues? (names : List String) (values : List α) : Option (Record α) :=
  if values.length ≤ names.length then some ⟨false, names.zip values⟩ else none

/-- The value given for a field. -/
def get? (record : Record α) (name : String) : Option α :=
  record.fields.lookup name

/-- Reads a field that must be given. -/
def required? (record : Record α) (name : String) (read? : α → Option β) : Option β :=
  record.get? name >>= read?

/-- Reads a field that has a value when it is not given. -/
def default? (record : Record α) (name : String) (absent : β) (read? : α → Option β)
    : Option β :=
  match record.get? name with
  | none => some absent
  | some given => read? given

/-- Reads a field that only a record written by position must give. -/
def nullable? (record : Record α) (name : String) (read? : α → Option (Option β))
    : Option (Option β) :=
  match record.get? name with
  | none => if record.keyed then some none else none
  | some given => read? given

end Record

end NodeDevices
