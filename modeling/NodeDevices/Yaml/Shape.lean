import NodeDevices.Record
import NodeDevices.Yaml.Node
/-! Reading YAML nodes as values of a known shape. A text may be any scalar; an empty plain
scalar also stands for an empty list and for a record without fields.
-/

namespace NodeDevices.Yaml

variable {α : Type}

/-- The node that a node stands for: itself, or the one that it is an alias of. -/
def Document.resolve? (document : Document) : Node → Option Node
  | .alias anchor => document.anchored.lookup anchor
  | node => some node

namespace Document

/-- Reads a text. -/
def text? (document : Document) (node : Node) : Option String :=
  match document.resolve? node with
  | some (.scalar _ _ text) => some text
  | _ => none

/-- Reads a list. -/
def list? (document : Document) (item? : Node → Option α) (node : Node) : Option (List α) :=
  match document.resolve? node with
  | some (.sequence _ items) => items.mapM item?
  | some (.scalar _ true "") => some []
  | _ => none

/-- Reads a record with the given fields. All its keys are scalars. -/
def record? (document : Document) (names : List String) (node : Node) : Option (Record Node) :=
  match document.resolve? node with
  | some (.mapping _ pairs) => do
      let members ← pairs.mapM fun pair => (document.text? pair.1).map (·, pair.2)
      Record.ofMembers? names members
  | some (.scalar _ true "") => Record.ofMembers? names []
  | _ => none

/-- The spellings of a plain scalar that stand for no value. -/
def nullWords : List String :=
  ["", "null", "Null", "NULL", "~"]

/-- The name of a local tag. -/
def localName? (tag : String) : Option String :=
  match tag.toList with
  | '!' :: name => some (String.ofList name)
  | _ => none

/-- Reads the name of a choice: a scalar, or a tag on a scalar that stands for no value. -/
def choice? (document : Document) (node : Node) : Option String :=
  match document.resolve? node with
  | some (.scalar tag plain text) =>
      match tag.bind localName? with
      | some name => if plain ∧ nullWords.contains text then some name else none
      | none => some text
  | _ => none

end Document

end NodeDevices.Yaml
