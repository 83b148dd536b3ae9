/-! Maps from names to values, kept in the order of the names, which is the order of their
UTF-8 bytes. Every operation is one change at one name.
-/

namespace NodeDevices

/-- A finite map whose entries stand in strictly increasing order of their names. -/
structure Dictionary (α : Type) where
  entries : List (String × α) := []
  sorted : entries.Pairwise (fun first second => first.1 < second.1) := by simp

namespace Dictionary

variable {α β : Type}

/-- Replaces the value at a name in an ordered list of entries. -/
def alterEntries (name : String) (change : Option α → α)
    : List (String × α) → List (String × α)
  | [] => [(name, change none)]
  | entry :: rest =>
      if name < entry.1 then (name, change none) :: entry :: rest
      else if name = entry.1 then (name, change (some entry.2)) :: rest
      else entry :: alterEntries name change rest

theorem mem_alterEntries {name : String} {change : Option α → α}
    {entries : List (String × α)} {entry : String × α}
    (h : entry ∈ alterEntries name change entries)
    : entry.1 = name ∨ entry ∈ entries := by
  induction entries with
  | nil => simp_all [alterEntries]
  | cons head rest ih =>
      rw [alterEntries] at h
      split at h
      · rcases List.mem_cons.mp h with rfl | h
        · exact Or.inl rfl
        · exact Or.inr h
      · split at h
        · rcases List.mem_cons.mp h with rfl | h
          · exact Or.inl rfl
          · exact Or.inr (List.mem_cons_of_mem _ h)
        · rcases List.mem_cons.mp h with rfl | h
          · exact Or.inr List.mem_cons_self
          · exact (ih h).imp id (List.mem_cons_of_mem _)

theorem sorted_alterEntries {name : String} {change : Option α → α}
    {entries : List (String × α)}
    (h : entries.Pairwise (fun first second => first.1 < second.1))
    : (alterEntries name change entries).Pairwise
        (fun first second => first.1 < second.1) := by
  induction entries with
  | nil => simp [alterEntries]
  | cons head rest ih =>
      rw [List.pairwise_cons] at h
      rw [alterEntries]
      split
      · next before =>
          refine List.pairwise_cons.mpr ⟨?_, List.pairwise_cons.mpr h⟩
          intro entry member
          rcases List.mem_cons.mp member with rfl | member
          · exact before
          · exact String.lt_trans before (h.1 entry member)
      · next notBefore =>
          split
          · next same =>
              exact List.pairwise_cons.mpr ⟨fun entry member => same ▸ h.1 entry member, h.2⟩
          · next different =>
              refine List.pairwise_cons.mpr ⟨?_, ih h.2⟩
              intro entry member
              rcases mem_alterEntries member with same | member
              · rw [same]
                exact Std.lt_of_le_of_ne notBefore (Ne.symm different)
              · exact h.1 entry member

/-- The map without entries. -/
def empty : Dictionary α := {}

instance : EmptyCollection (Dictionary α) := ⟨empty⟩
instance : Inhabited (Dictionary α) := ⟨empty⟩

/-- Computes the value at a name anew from the value that is there. -/
def alter (map : Dictionary α) (name : String) (change : Option α → α) : Dictionary α :=
  ⟨alterEntries name change map.entries, sorted_alterEntries map.sorted⟩

/-- Sets the value at a name. -/
def insert (map : Dictionary α) (name : String) (value : α) : Dictionary α :=
  map.alter name (fun _ => value)

/-- The value at a name. -/
def find? (map : Dictionary α) (name : String) : Option α :=
  map.entries.lookup name

/-- The names in their order. -/
def names (map : Dictionary α) : List String :=
  map.entries.map Prod.fst

/-- The map that a list of entries sets one after another: the last one at a name stays. -/
def ofList (entries : List (String × α)) : Dictionary α :=
  entries.foldl (fun map entry => map.insert entry.1 entry.2) empty

/-- Two maps with the same entries are the same map. -/
theorem ext_entries {first second : Dictionary α} (h : first.entries = second.entries)
    : first = second := by
  cases first
  cases second
  cases h
  rfl

instance [DecidableEq α] : DecidableEq (Dictionary α) := fun first second =>
  if h : first.entries = second.entries then isTrue (ext_entries h)
  else isFalse (fun same => h (congrArg entries same))

instance [Repr α] : Repr (Dictionary α) := ⟨fun map depth => reprPrec map.entries depth⟩

end Dictionary

end NodeDevices
