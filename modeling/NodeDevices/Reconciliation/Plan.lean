import NodeDevices.Assignment
import NodeDevices.Text.Substring
/-! The reports that tell the inventory which devices are assigned: one for each resource
that is reported by itself, and one for all others.
-/

namespace NodeDevices.Reconciliation

/-- The reports made for some assignments. -/
structure Plan where
  individual : List (String × List String)
  batch : List String
  deriving DecidableEq, Repr

/-- Says whether a resource is reported by itself: its name contains the marker, which is
not empty.
-/
def isIndividual (marker resource : String) : Bool :=
  marker ≠ "" && Text.contains marker.toList resource.toList

/-- The plan for some assignments. -/
def plan (assignments : Assignments) (marker : String) : Plan where
  individual := assignments.entries.filter (isIndividual marker ·.1)
  batch := (assignments.entries.filter (!isIndividual marker ·.1)).flatMap Prod.snd

/-- The lists of devices that a plan reports, in their order. -/
def Plan.reports (plan : Plan) : List (List String) :=
  plan.individual.map Prod.snd ++ if plan.batch = [] then [] else [plan.batch]

/-- The plan of one round, if the assignments are known. -/
def round (source : Option Assignments) (marker : String) : Option Plan :=
  source.map (plan · marker)

/-- The marker of resources reported by themselves, when none is given. -/
def defaultMarker : String := "4J5"

end NodeDevices.Reconciliation
