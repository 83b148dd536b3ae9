import NodeDevices.DeviceClass
import NodeDevices.Files
import NodeDevices.Inventory.Endpoints
import NodeDevices.Text.Blank
import NodeDevices.Text.Substring
import NodeDevices.Yaml.Shape
/-! The configuration of device classes. Names count without the blanks around them: none
is empty or has a slash, and no two are the same.
-/

namespace NodeDevices

/-- A configured device class. -/
structure Configuration.Entry where
  name : String
  addressing : AddressingMode := .none
  deriving DecidableEq, Repr

/-- A configuration. -/
structure Configuration where
  resources : List Configuration.Entry := []
  endpoints : Inventory.Endpoints := {}
  deriving DecidableEq, Repr

/-- Why a configuration is refused. -/
inductive ConfigurationError where
  | unreadable (path : String)
  | malformed (path : String)
  | badName (name : String)
  | listedTwice (name : String)
  deriving DecidableEq, Repr

/-- The text of an error. -/
def ConfigurationError.message : ConfigurationError → String
  | .unreadable path => "Failed to read resource config " ++ path
  | .malformed path => "Failed to parse resource config " ++ path
  | .badName name => "Invalid resource config: bad resource name '" ++ name ++ "'"
  | .listedTwice name => "Invalid resource config: resource '" ++ name ++ "' listed twice"

namespace Configuration

open Yaml

/-- Reads an entry. -/
def Entry.ofYaml? (document : Document) (node : Yaml.Node) : Option Entry := do
  let record ← document.record? ["resource_name", "addressing"] node
  return {
    name := ← record.required? "resource_name" document.text?
    addressing := ← record.default? "addressing" .none fun node =>
      document.choice? node >>= AddressingMode.ofName?
  }

/-- Reads a configuration from a document; an empty one leaves everything as it is. -/
def ofYaml? (document : Document) : Option Configuration :=
  match document.root with
  | none => some {}
  | some root => do
      let record ← document.record? ["resource_device_plugin", "inventory"] root
      return {
        resources := ← record.default? "resource_device_plugin" []
          (document.list? (Entry.ofYaml? document))
        endpoints := ← record.default? "inventory" {} fun node =>
          document.record? Inventory.Endpoints.fieldNames node >>=
            Inventory.Endpoints.ofRecord? document.text?
      }

/-- Checks entries in order, given the names that came before them. -/
def checkNames (seen : List String) : List Entry → Except ConfigurationError Unit
  | [] => .ok ()
  | entry :: rest =>
      let name := Text.trim entry.name
      if name = "" ∨ '/' ∈ name.toList then .error (.badName entry.name)
      else if name ∈ seen then .error (.listedTwice name)
      else checkNames (name :: seen) rest

/-- Checks the names of all entries. -/
def validate (configuration : Configuration) : Except ConfigurationError Unit :=
  checkNames [] configuration.resources

/-- Reads a configuration from a text that comes from a named place. -/
def parse (source text : String) : Except ConfigurationError Configuration :=
  match Document.parse? text >>= ofYaml? with
  | none => .error (.malformed source)
  | some configuration => configuration.validate.map fun _ => configuration

/-- The name of a text that comes from no file. -/
def inlineSource : String := "<inline>"

/-- Reads a configuration from a file. -/
def load (files : Files) (path : String) : Except ConfigurationError Configuration :=
  match files.text? path with
  | none => .error (.unreadable path)
  | some text => parse path text

/-- The configured classes of a vendor, in order. -/
def classes (configuration : Configuration) (vendor : String) : List DeviceClass :=
  configuration.resources.map fun entry => ⟨vendor, Text.trim entry.name, entry.addressing⟩

end Configuration

end NodeDevices
