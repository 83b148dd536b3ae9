import NodeDevices.Proofs.Assignment
import NodeDevices.Proofs.Text.ByteOrder
import NodeDevices.Proofs.Text.Substring
import NodeDevices.Reconciliation.Plan

/-! The reports of one round. Each resource with the marker in its name has a report of its own,
all others share one, and together they report every assigned id as often as it is assigned.
-/

namespace NodeDevices.Reconciliation

open Assignments

/-- The resource is reported by itself. -/
def Marked (marker resource : String) : Prop :=
  marker ≠ "" ∧ marker.toList <:+: resource.toList

theorem isIndividual_iff {marker resource : String}
    : isIndividual marker resource = true ↔ Marked marker resource := by
  simp [isIndividual, Marked, Text.contains_iff_infix]

instance (marker resource : String) : Decidable (Marked marker resource) :=
  decidable_of_iff _ isIndividual_iff

/-- The reports of a round, given the assignments that its source gave. -/
def reportsOf (marker : String) (source : Option Assignments) : List (List String) :=
  ((round source marker).map Plan.reports).getD []

/-- Reports are those that are due for some device entries. -/
structure AreDue (marker : String) (entries : List Entry) (reports : List (List String)) : Prop
    where
  /-- Each id is reported as often as it occurs. -/
  conserved : reports.flatten.Perm (entries.flatMap Prod.snd)
  /-- The resources are taken in the order of their bytes. Those with the marker have a report
  each, and the others one together, which is left out when it is empty.
  -/
  ordered
    : ∃ resources : List String,
        resources.Pairwise (fun first second => Text.bytes first < Text.bytes second)
        ∧ (∀ resource, resource ∈ resources ↔ resource ∈ entries.map Prod.fst)
        ∧ reports
          = (resources.filter (Marked marker ·)).map (idsOf entries)
            ++ [(resources.filter (¬ Marked marker ·)).flatMap (idsOf entries)].filter (· ≠ [])

variable {marker : String}

/-- A plan reports what it lists, resource by resource and then together. -/
theorem flatten_reports (plan : Plan)
    : plan.reports.flatten = plan.individual.flatMap Prod.snd ++ plan.batch := by
  rw [Plan.reports, List.flatten_append, ← List.flatMap_def]
  split
  · next empty => rw [empty, List.flatten_nil]
  · rw [List.flatten_cons, List.flatten_nil, List.append_nil]

theorem reports_eq (plan : Plan)
    : plan.reports = plan.individual.map Prod.snd ++ [plan.batch].filter (· ≠ []) := by
  rw [Plan.reports]
  by_cases empty : plan.batch = [] <;> simp [empty]

/-- No id of some assignments is left out of their plan or put into it twice. -/
theorem flatten_reports_plan_perm (assignments : Assignments) (marker : String)
    : (plan assignments marker).reports.flatten.Perm (assignments.entries.flatMap Prod.snd) := by
  rw [flatten_reports, plan, ← List.flatMap_append]
  exact (List.filter_append_perm _ assignments.entries).flatMap_right Prod.snd

/-- A plan of joined entries goes through their resources. -/
theorem plan_aggregate (entries : List Entry) (marker : String)
    : plan (aggregate entries) marker = {
        individual := ((aggregate entries).names.filter (Marked marker ·)).map fun resource =>
          (resource, idsOf entries resource)
        batch := ((aggregate entries).names.filter (¬ Marked marker ·)).flatMap (idsOf entries)
      } := by
  have alone (resource : String) : isIndividual marker resource = decide (Marked marker resource) :=
    Bool.eq_iff_iff.mpr (isIndividual_iff.trans decide_eq_true_iff.symm)
  rw [plan, entries_aggregate]
  simp only [List.filter_map, List.flatMap_map, Function.comp_def, alone, decide_not]

/-- The reports of a round whose source shows some entries are those that are due. -/
theorem areDue_aggregate (entries : List Entry)
    : AreDue marker entries (reportsOf marker (some (aggregate entries))) := by
  have planned : reportsOf marker (some (aggregate entries))
      = (plan (aggregate entries) marker).reports := rfl
  rw [planned]
  constructor
  · exact (flatten_reports_plan_perm _ marker).trans (flatMap_aggregate_perm entries)
  · refine ⟨(aggregate entries).names, ?_, fun _ => mem_names_aggregate, ?_⟩
    · exact (aggregate entries).sorted_names.imp Text.bytes_lt
    · rw [reports_eq, plan_aggregate, List.map_map]
      rfl

end NodeDevices.Reconciliation
