import Mathlib.Data.List.Induction
import NodeDevices.Proofs.Assignment

/-! Joining device entries is a homomorphism: of entries behind one another, each resource gets the
ids behind one another. So it matters in which order the entries of one resource come, but not
how they are mixed with those of others, nor which containers and pods they are listed in.
-/

namespace NodeDevices.Assignments

/-- The ids of two maps, at each resource those of the second one behind those of the first. -/
def concat (first second : Assignments) : Assignments :=
  first.appendAll second.entries

/-- The ids of some maps, at each resource those of a map behind those of the maps before it. -/
def concatAll (maps : List Assignments) : Assignments :=
  maps.foldl concat .empty

-----------------------------------------------------------------------------------------
-- Entries that are added to a map
-----------------------------------------------------------------------------------------

/-- A resource of which an entry is added has its ids behind those that it had. -/
theorem find?_append (map : Assignments) (entry : Entry) (resource : String)
    : (map.append entry.1 entry.2).find? resource
      = (map.find? resource).merge (· ++ ·)
          (if resource = entry.1 then some entry.2 else none) := by
  rw [append, Dictionary.find?_alter]
  by_cases same : resource = entry.1
  · rw [if_pos same, if_pos same, same]
    cases map.find? entry.1 <;> rfl
  · rw [if_neg same, if_neg same, Option.merge_none_right]

/-- Lists that may be missing are put behind one another in any grouping. -/
theorem merge_assoc (first second third : Option (List String))
    : (first.merge (· ++ ·) second).merge (· ++ ·) third
      = first.merge (· ++ ·) (second.merge (· ++ ·) third) :=
  Std.Associative.assoc first second third

/-- What is added to a map is found behind what was there, as it is joined by itself. -/
theorem find?_appendAll (map : Assignments) (entries : List Entry) (resource : String)
    : (map.appendAll entries).find? resource
      = (map.find? resource).merge (· ++ ·) ((aggregate entries).find? resource) := by
  induction entries generalizing map with
  | nil => exact Option.merge_none_right.symm
  | cons entry rest ih =>
      have alone : (aggregate (entry :: rest)).find? resource
          = Option.merge (· ++ ·) (if resource = entry.1 then some entry.2 else none)
              ((aggregate rest).find? resource) := by
        refine (ih (append .empty entry.1 entry.2)).trans ?_
        rw [find?_append]
        exact congrArg (Option.merge (· ++ ·) · _) Option.merge_none_left
      rw [appendAll_cons, ih, alone, find?_append, merge_assoc]

/-- Of entries with distinct resources, each one has its own ids. -/
theorem idsOf_eq_of_mem {entries : List Entry} (distinct : (entries.map Prod.fst).Nodup)
    {entry : Entry} (member : entry ∈ entries)
    : idsOf entries entry.1 = entry.2 := by
  induction entries with
  | nil => cases member
  | cons first rest ih =>
      obtain ⟨fresh, tail⟩ := List.nodup_cons.mp distinct
      rw [idsOf_cons]
      rcases List.mem_cons.mp member with rfl | later
      · have none : rest.filter (·.1 = entry.1) = [] := by
          rw [List.filter_eq_nil_iff]
          intro other among same
          exact fresh (List.mem_map.mpr ⟨other, among, of_decide_eq_true same⟩)
        rw [if_pos rfl, idsOf, none, List.flatMap_nil, List.append_nil]
      · have other : first.1 ≠ entry.1 := fun same =>
          fresh (List.mem_map.mpr ⟨entry, later, same.symm⟩)
        rw [if_neg other, ih tail later, List.nil_append]

/-- The entries of a map are joined to the map again. -/
theorem aggregate_entries (map : Assignments) : aggregate map.entries = map := by
  refine Dictionary.ext_find? fun resource => ?_
  rw [find?_aggregate]
  cases found : map.find? resource with
  | none =>
      refine if_neg fun occurs => ?_
      have known := Dictionary.find?_isSome_iff.mpr occurs
      rw [found] at known
      cases known
  | some ids =>
      have member : (resource, ids) ∈ map.entries :=
        (Dictionary.lookup_eq_some_iff map.nodup_names).mp found
      rw [if_pos (List.mem_map_of_mem member), idsOf_eq_of_mem map.nodup_names member]

-----------------------------------------------------------------------------------------
-- Maps behind one another
-----------------------------------------------------------------------------------------

/-- Of two maps behind one another, each resource has the ids of the two behind one another. -/
theorem find?_concat (first second : Assignments) (resource : String)
    : (first.concat second).find? resource
      = (first.find? resource).merge (· ++ ·) (second.find? resource) := by
  rw [concat, find?_appendAll, aggregate_entries]

/-- Entries behind one another are joined to maps behind one another. -/
theorem aggregate_append (first second : List Entry)
    : aggregate (first ++ second) = (aggregate first).concat (aggregate second) := by
  refine Dictionary.ext_find? fun resource => ?_
  have both : aggregate (first ++ second) = (aggregate first).appendAll second :=
    List.foldl_append
  rw [both, find?_appendAll, find?_concat]

/-- Lists of entries behind one another are joined to their maps behind one another. -/
theorem aggregate_flatten (lists : List (List Entry))
    : aggregate lists.flatten = concatAll (lists.map aggregate) := by
  induction lists using List.reverseRecOn with
  | nil => rfl
  | append_singleton lists last ih =>
      rw [List.flatten_append, List.flatten_singleton, aggregate_append, ih, List.map_append,
        concatAll, concatAll, List.foldl_append]
      rfl

/-- The map of some pods is that of their containers behind one another. -/
theorem ofPods_eq_concatAll (pods : List (List (List Entry)))
    : ofPods pods
      = concatAll (pods.map fun containers => concatAll (containers.map aggregate)) := by
  have one (containers : List (List Entry))
      : concatAll (containers.map aggregate) = aggregate containers.flatten :=
    (aggregate_flatten containers).symm
  simp only [one]
  rw [ofPods, List.flatten_flatten, aggregate_flatten, List.map_map]
  rfl

-----------------------------------------------------------------------------------------
-- Entries in another order
-----------------------------------------------------------------------------------------

/-- A map depends on the entries of each resource and their order alone. -/
theorem aggregate_eq_of_filter_eq {entries others : List Entry}
    (same : ∀ resource, entries.filter (·.1 = resource) = others.filter (·.1 = resource))
    : aggregate entries = aggregate others := by
  refine Dictionary.ext_find? fun resource => ?_
  have occurs (some : List Entry)
      : resource ∈ some.map Prod.fst ↔ some.filter (·.1 = resource) ≠ [] := by
    simp [List.filter_eq_nil_iff]
  simp only [find?_aggregate, occurs, idsOf, same]

/-- Joined entries have exactly the resources that occur, also those without ids, each with the
ids of its entries in their order. Of entries behind one another, each resource has the ids of
the first ones and then those of the second ones. A reordering that leaves the entries of each
resource in their order changes nothing, nor does another grouping of the same entries into
containers and pods, which may as well be joined one by one.
-/
theorem aggregate_isHomomorphism (entries others : List Entry)
    : (∀ resource,
        resource ∈ (aggregate entries).names ↔ ∃ ids, (resource, ids) ∈ entries)
      ∧ (∀ resource ∈ (aggregate entries).names,
          (aggregate entries).find? resource = some (idsOf entries resource))
      ∧ aggregate (entries ++ others) = (aggregate entries).concat (aggregate others)
      ∧ (∀ resource,
          (aggregate (entries ++ others)).find? resource
            = ((aggregate entries).find? resource).merge (· ++ ·)
                ((aggregate others).find? resource))
      ∧ ((∀ resource, entries.filter (·.1 = resource) = others.filter (·.1 = resource))
          → aggregate entries = aggregate others)
      ∧ ∀ pods : List (List (List Entry)),
          pods.flatten.flatten = entries
          → ofPods pods = aggregate entries
            ∧ ofPods pods
              = concatAll (pods.map fun containers => concatAll (containers.map aggregate))
            ∧ ∀ regrouped : List (List (List Entry)),
                regrouped.flatten.flatten = entries → ofPods regrouped = ofPods pods := by
  refine ⟨?_, ?_, aggregate_append entries others, ?_, aggregate_eq_of_filter_eq, ?_⟩
  · intro resource
    rw [mem_names_aggregate]
    simp
  · intro resource member
    rw [find?_aggregate, if_pos (mem_names_aggregate.mp member)]
  · intro resource
    rw [aggregate_append, find?_concat]
  · intro pods listed
    refine ⟨congrArg aggregate listed, ofPods_eq_concatAll pods, fun regrouped again => ?_⟩
    exact congrArg aggregate (again.trans listed.symm)

/-- Two entries of one resource with one of another between them, which may as well come first,
in two pods or in two containers of one pod.
-/
theorem aggregate_isHomomorphism_of_regrouped
    : let entries : List Entry := [("r", ["a"]), ("s", []), ("r", ["b"])]
      let others : List Entry := [("s", []), ("r", ["a"]), ("r", ["b"])]
      let pods : List (List (List Entry)) := [[[("r", ["a"]), ("s", [])]], [[("r", ["b"])]]]
      let regrouped : List (List (List Entry)) :=
        [[[("r", ["a"])], [("s", []), ("r", ["b"])]], []]
      (∀ resource, entries.filter (·.1 = resource) = others.filter (·.1 = resource))
      ∧ pods.flatten.flatten = entries
      ∧ regrouped.flatten.flatten = entries
      ∧ (aggregate entries).entries = [("r", ["a", "b"]), ("s", [])]
      ∧ aggregate entries = aggregate others
      ∧ ofPods regrouped = ofPods pods := by
  intro entries others pods regrouped
  have law := aggregate_isHomomorphism entries others
  have order (resource : String)
      : entries.filter (·.1 = resource) = others.filter (·.1 = resource) := by
    by_cases first : "r" = resource
    · subst first
      rfl
    · simp [entries, others, List.filter_cons, first]
  exact ⟨order, rfl, rfl, by decide, law.2.2.2.2.1 order,
    (law.2.2.2.2.2 pods rfl).2.2 regrouped rfl⟩

end NodeDevices.Assignments
