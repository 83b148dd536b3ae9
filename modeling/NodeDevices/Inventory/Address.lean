import NodeDevices.Text.Blank
import NodeDevices.Text.LetterCase
import NodeDevices.Text.Substring
/-! The address of the inventory's server in its normal form: lower case, with a scheme, and
without blanks around it or slashes at its end.
-/

namespace NodeDevices.Inventory

/-- Gives an address a scheme: the one of plain connections is replaced, and a missing one
added.
-/
def withScheme (address : List Char) : List Char :=
  match Text.dropStart? "tcp://".toList address with
  | some rest => "http://".toList ++ rest
  | none =>
      if "http://".toList.isPrefixOf address ∨ "https://".toList.isPrefixOf address then address
      else "http://".toList ++ address

/-- The normal form of an address. -/
def normalizeAddress (raw : String) : String :=
  let address := withScheme (Text.LetterCase.lower (Text.trim raw).toList)
  String.ofList (Text.dropEndWhile (· = '/') address)

end NodeDevices.Inventory
