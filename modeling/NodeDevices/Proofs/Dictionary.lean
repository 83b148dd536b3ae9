import NodeDevices.Dictionary

/-! Look-ups in dictionaries: a change is seen at its own name only, a list of entries with
distinct names is read back as it is, and a dictionary is what is found at its names.
-/

namespace NodeDevices.Dictionary

variable {α : Type}

/-- A look-up compares names, from the first entry on. -/
theorem lookup_cons_eq_ite (entry : String × α) (rest : List (String × α)) (name : String)
    : (entry :: rest).lookup name
      = if name = entry.1 then some entry.2 else rest.lookup name := by
  obtain ⟨first, value⟩ := entry
  by_cases same : name = first
  · simp [same]
  · have different : (name == first) = false := beq_eq_false_iff_ne.mpr same
    simp only [List.lookup_cons, different, if_neg same]

/-- Nothing is found at a name that no entry has. -/
theorem lookup_eq_none_of_ne {name : String} {entries : List (String × α)}
    (absent : ∀ entry ∈ entries, name ≠ entry.1)
    : entries.lookup name = none :=
  List.lookup_eq_none_iff.mpr fun entry member => by simpa using absent entry member

/-- A change at one name is found there, and every other name is found as before. -/
theorem lookup_alterEntries {entries : List (String × α)}
    (sorted : entries.Pairwise (fun first second => first.1 < second.1))
    (name other : String) (change : Option α → α)
    : (alterEntries name change entries).lookup other
      = if other = name then some (change (entries.lookup name))
        else entries.lookup other := by
  induction entries with
  | nil => simp [alterEntries, lookup_cons_eq_ite]
  | cons entry rest ih =>
      obtain ⟨above, tail⟩ := List.pairwise_cons.mp sorted
      rw [alterEntries]
      split
      · next before =>
          have absent : (entry :: rest).lookup name = none := by
            apply lookup_eq_none_of_ne
            intro later member
            rcases List.mem_cons.mp member with rfl | member
            · exact Std.ne_of_lt before
            · exact Std.ne_of_lt (String.lt_trans before (above later member))
          rw [lookup_cons_eq_ite, absent]
      · split
        · next same =>
            subst same
            simp only [lookup_cons_eq_ite, if_pos]
            split <;> rfl
        · next different =>
            simp only [lookup_cons_eq_ite, ih tail, if_neg different]
            by_cases equal : other = entry.1
            · simp [equal, Ne.symm different]
            · simp [equal]

/-- What was computed anew at one name is found there, and nowhere else. -/
theorem find?_alter (map : Dictionary α) (name other : String) (change : Option α → α)
    : (map.alter name change).find? other
      = if other = name then some (change (map.find? name)) else map.find? other :=
  lookup_alterEntries map.sorted name other change

/-- An insertion is found at its own name only. -/
@[simp]
theorem find?_insert (map : Dictionary α) (name other : String) (value : α)
    : (map.insert name value).find? other
      = if other = name then some value else map.find? other :=
  find?_alter map name other _

/-- Entries with distinct names are all found after they were inserted one by one. -/
theorem find?_foldl_insert {entries : List (String × α)}
    (distinct : (entries.map Prod.fst).Nodup) (map : Dictionary α) (name : String)
    : (entries.foldl (fun map entry => map.insert entry.1 entry.2) map).find? name
      = (entries.lookup name).or (map.find? name) := by
  induction entries generalizing map with
  | nil => rfl
  | cons entry rest ih =>
      obtain ⟨fresh, tail⟩ := List.nodup_cons.mp distinct
      rw [List.foldl_cons, ih tail, find?_insert, lookup_cons_eq_ite]
      by_cases same : name = entry.1
      · have absent : rest.lookup name = none := by
          apply lookup_eq_none_of_ne
          intro later member equal
          exact fresh (List.mem_map.mpr ⟨later, member, equal.symm.trans same⟩)
        rw [absent, if_pos same, if_pos same]
        rfl
      · rw [if_neg same, if_neg same]

/-- A list of entries with distinct names is read back as it is. -/
theorem find?_ofList {entries : List (String × α)} (distinct : (entries.map Prod.fst).Nodup)
    (name : String)
    : (ofList entries).find? name = entries.lookup name := by
  rw [ofList, find?_foldl_insert distinct]
  exact Option.or_none

theorem sorted_names (map : Dictionary α) : map.names.Pairwise (· < ·) :=
  List.pairwise_map.mpr map.sorted

theorem nodup_names (map : Dictionary α) : map.names.Nodup :=
  map.sorted_names.imp fun less => Std.ne_of_lt less

/-- Dictionaries with the same names have them in the same order. -/
theorem names_eq_of_mem_iff {β : Type} {first : Dictionary α} {second : Dictionary β}
    (same : ∀ name, name ∈ first.names ↔ name ∈ second.names)
    : first.names = second.names := by
  -- two ordered lists without repetitions are equal once their members are
  have permuted := (List.perm_ext_iff_of_nodup first.nodup_names second.nodup_names).mpr same
  refine permuted.eq_of_pairwise ?_ first.sorted_names second.sorted_names
  intro name other _ _ less greater
  exact absurd (String.lt_trans less greater) (String.lt_irrefl name)

theorem find?_isSome_iff {map : Dictionary α} {name : String}
    : (map.find? name).isSome ↔ name ∈ map.names := by
  rw [find?, names]
  induction map.entries with
  | nil => simp
  | cons entry rest ih =>
      rw [lookup_cons_eq_ite, List.map_cons, List.mem_cons]
      by_cases same : name = entry.1 <;> simp [same, ih]

theorem mem_names_alter {map : Dictionary α} {name other : String} {change : Option α → α}
    : other ∈ (map.alter name change).names ↔ other = name ∨ other ∈ map.names := by
  rw [← find?_isSome_iff, find?_alter, ← find?_isSome_iff]
  by_cases same : other = name <;> simp [same]

/-- An entry among others in order is what a look-up of its name gives. -/
theorem lookup_of_mem {entries : List (String × α)}
    (sorted : entries.Pairwise (fun first second => first.1 < second.1))
    {entry : String × α} (member : entry ∈ entries)
    : entries.lookup entry.1 = some entry.2 := by
  induction entries with
  | nil => cases member
  | cons first rest ih =>
      obtain ⟨above, tail⟩ := List.pairwise_cons.mp sorted
      rw [lookup_cons_eq_ite]
      rcases List.mem_cons.mp member with rfl | later
      · exact if_pos rfl
      · rw [if_neg (Std.ne_of_lt (above entry later)).symm]
        exact ih tail later

/-- A dictionary consists of what is found at its names. -/
theorem entries_eq_map_names {map : Dictionary α} {value : String → α}
    (known : ∀ name ∈ map.names, map.find? name = some (value name))
    : map.entries = map.names.map fun name => (name, value name) := by
  rw [names, List.map_map]
  refine (List.map_id _).symm.trans (List.map_congr_left fun entry member => ?_)
  have found := known entry.1 (List.mem_map_of_mem member)
  rw [find?, lookup_of_mem map.sorted member] at found
  exact Prod.ext rfl (Option.some.inj found)

/-- Of entries with distinct names, a look-up finds the one with the name. -/
theorem lookup_eq_some_iff {entries : List (String × α)}
    (distinct : (entries.map Prod.fst).Nodup) {name : String} {value : α}
    : entries.lookup name = some value ↔ (name, value) ∈ entries := by
  induction entries with
  | nil => simp
  | cons entry rest ih =>
      obtain ⟨fresh, tail⟩ := List.nodup_cons.mp distinct
      rw [lookup_cons_eq_ite, List.mem_cons]
      split
      · next same =>
          subst same
          have absent : (entry.1, value) ∉ rest := fun later =>
            fresh (List.mem_map.mpr ⟨_, later, rfl⟩)
          simp only [absent, or_false, Option.some.injEq]
          exact ⟨fun found => by rw [← found], fun found => (congrArg Prod.snd found).symm⟩
      · next different =>
          have other : (name, value) ≠ entry := fun found => different (congrArg Prod.fst found)
          simp only [other, false_or]
          exact ih tail

/-- Dictionaries in which the same is found everywhere are the same. -/
theorem ext_find? {first second : Dictionary α}
    (same : ∀ name, first.find? name = second.find? name)
    : first = second := by
  have distinct (map : Dictionary α) : map.entries.Nodup :=
    map.sorted.imp fun less same => Std.ne_of_lt less (congrArg Prod.fst same)
  have members (entry : String × α) : entry ∈ first.entries ↔ entry ∈ second.entries := by
    rw [← lookup_eq_some_iff first.nodup_names, ← lookup_eq_some_iff second.nodup_names]
    exact iff_of_eq (congrArg (· = some entry.2) (same entry.1))
  apply ext_entries
  have permuted := (List.perm_ext_iff_of_nodup (distinct first) (distinct second)).mpr members
  refine permuted.eq_of_pairwise ?_ first.sorted second.sorted
  intro entry other _ _ less greater
  exact absurd (String.lt_trans less greater) (String.lt_irrefl entry.1)

/-- A dictionary is made again of its entries, in whatever order they are set. -/
theorem ofList_of_perm {entries : List (String × α)} {map : Dictionary α}
    (same : entries.Perm map.entries)
    : ofList entries = map := by
  have distinct : (entries.map Prod.fst).Nodup :=
    (same.map Prod.fst).nodup_iff.mpr map.nodup_names
  apply ext_find?
  intro name
  apply Option.ext
  intro value
  rw [find?_ofList distinct, lookup_eq_some_iff distinct, same.mem_iff,
    ← lookup_eq_some_iff map.nodup_names, find?]

end NodeDevices.Dictionary
