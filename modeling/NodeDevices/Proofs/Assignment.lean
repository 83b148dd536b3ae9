import NodeDevices.Assignment
import NodeDevices.Proofs.Dictionary

/-! What joining device entries by resource comes to: the resources that occur, each with the
ids of its entries in their order, and no id more or less often than before.
-/

namespace NodeDevices.Assignments

/-- The ids of the entries of a resource, in the order of the entries. -/
def idsOf (entries : List Entry) (resource : String) : List String :=
  (entries.filter (·.1 = resource)).flatMap Prod.snd

@[simp]
theorem idsOf_nil (resource : String) : idsOf [] resource = [] :=
  rfl

@[simp]
theorem idsOf_cons (entry : Entry) (rest : List Entry) (resource : String)
    : idsOf (entry :: rest) resource
      = (if entry.1 = resource then entry.2 else []) ++ idsOf rest resource := by
  by_cases same : entry.1 = resource <;> simp [idsOf, same]

/-- What entries add to a map, one after another. -/
def appendAll (map : Assignments) (entries : List Entry) : Assignments :=
  entries.foldl (fun map entry => map.append entry.1 entry.2) map

@[simp]
theorem appendAll_cons (map : Assignments) (entry : Entry) (rest : List Entry)
    : map.appendAll (entry :: rest) = (map.append entry.1 entry.2).appendAll rest :=
  rfl

-----------------------------------------------------------------------------------------
-- Resources
-----------------------------------------------------------------------------------------

/-- Exactly the resources of the entries are added. -/
theorem mem_names_appendAll {map : Assignments} {entries : List Entry} {resource : String}
    : resource ∈ (map.appendAll entries).names
      ↔ resource ∈ map.names ∨ resource ∈ entries.map Prod.fst := by
  induction entries generalizing map with
  | nil => simp [appendAll]
  | cons entry rest ih =>
      rw [appendAll_cons, ih, append, Dictionary.mem_names_alter, List.map_cons, List.mem_cons,
        or_assoc]
      exact or_left_comm

theorem mem_names_aggregate {entries : List Entry} {resource : String}
    : resource ∈ (aggregate entries).names ↔ resource ∈ entries.map Prod.fst :=
  mem_names_appendAll.trans (or_iff_right (List.not_mem_nil (a := resource)))

/-- The ids of the entries of a resource are added behind those that it has. -/
theorem getD_find?_appendAll (map : Assignments) (entries : List Entry) (resource : String)
    : ((map.appendAll entries).find? resource).getD []
      = (map.find? resource).getD [] ++ idsOf entries resource := by
  induction entries generalizing map with
  | nil => simp [appendAll]
  | cons entry rest ih =>
      rw [appendAll_cons, ih, append, Dictionary.find?_alter, idsOf_cons]
      by_cases same : entry.1 = resource
      · simp [same]
      · simp [same, Ne.symm same]

/-- Each resource that occurs has the ids of its entries in their order. -/
theorem find?_aggregate (entries : List Entry) (resource : String)
    : (aggregate entries).find? resource
      = if resource ∈ entries.map Prod.fst then some (idsOf entries resource) else none := by
  have ids : ((aggregate entries).find? resource).getD [] = idsOf entries resource :=
    getD_find?_appendAll .empty entries resource
  have occurs : ((aggregate entries).find? resource).isSome
      ↔ resource ∈ entries.map Prod.fst :=
    Dictionary.find?_isSome_iff.trans mem_names_aggregate
  cases found : (aggregate entries).find? resource with
  | none =>
      rw [found] at occurs
      rw [if_neg fun member => Bool.false_ne_true (occurs.mpr member)]
  | some known =>
      rw [found] at ids occurs
      rw [if_pos (occurs.mp rfl), ← ids]
      rfl

theorem entries_aggregate (entries : List Entry)
    : (aggregate entries).entries
      = (aggregate entries).names.map fun resource => (resource, idsOf entries resource) := by
  refine Dictionary.entries_eq_map_names fun resource member => ?_
  rw [find?_aggregate, if_pos (mem_names_aggregate.mp member)]

-----------------------------------------------------------------------------------------
-- Ids
-----------------------------------------------------------------------------------------

/-- Ids that are added to a resource come to those that were there. -/
theorem flatMap_append_perm (map : Assignments) (resource : String) (ids : List String)
    : ((map.append resource ids).entries.flatMap Prod.snd).Perm
        (map.entries.flatMap Prod.snd ++ ids) := by
  change ((Dictionary.alterEntries resource (fun known => known.getD [] ++ ids)
    map.entries).flatMap Prod.snd).Perm _
  induction map.entries with
  | nil => simp [Dictionary.alterEntries]
  | cons entry rest ih =>
      rw [Dictionary.alterEntries]
      split
      · exact List.perm_append_comm
      · split
        · simp only [List.flatMap_cons, Option.getD_some, List.append_assoc]
          exact List.perm_append_comm.append_left entry.2
        · simp only [List.flatMap_cons, List.append_assoc]
          exact ih.append_left entry.2

/-- Joining entries keeps all their ids, each as often as it occurs. -/
theorem flatMap_aggregate_perm (entries : List Entry)
    : ((aggregate entries).entries.flatMap Prod.snd).Perm (entries.flatMap Prod.snd) := by
  -- for the induction, on top of any map
  have all (map : Assignments) : ((map.appendAll entries).entries.flatMap Prod.snd).Perm
      (map.entries.flatMap Prod.snd ++ entries.flatMap Prod.snd) := by
    induction entries generalizing map with
    | nil => simp [appendAll]
    | cons entry rest ih =>
        refine (ih (map.append entry.1 entry.2)).trans ?_
        rw [List.flatMap_cons, ← List.append_assoc]
        exact (flatMap_append_perm map entry.1 entry.2).append_right _
  exact all .empty

end NodeDevices.Assignments
