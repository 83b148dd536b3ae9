import Mathlib.Data.List.Nodup
import NodeDevices.Json.Shape

/-! Documents with a gap. How a record is read depends on what stands in the gap only at the name
of its field.
-/

namespace NodeDevices

namespace Record

variable {α : Type} {name : String} {before after : List (String × α)}

theorem lookup_eq_none {entries : List (String × α)} (absent : name ∉ entries.map Prod.fst)
    : entries.lookup name = none := by
  rw [List.lookup_eq_none_iff]
  intro entry member
  have different : name ≠ entry.1 := by
    rintro rfl
    exact absent (List.mem_map_of_mem member)
  simpa using different

/-- The value in the gap is found at its name. -/
theorem get?_gap (absent : name ∉ before.map Prod.fst) (keyed : Bool) (value : α)
    : get? ⟨keyed, before ++ (name, value) :: after⟩ name = some value := by
  rw [get?, List.lookup_append, lookup_eq_none absent, Option.none_or, List.lookup_cons_self]

/-- At other names the gap makes no difference. -/
theorem get?_beside (before after : List (String × α)) {other : String} (different : other ≠ name)
    (keyed : Bool) (value : α)
    : get? ⟨keyed, before ++ (name, value) :: after⟩ other
      = get? ⟨keyed, before ++ after⟩ other := by
  have passes : (other == name) = false := beq_eq_false_iff_ne.mpr different
  simp only [get?, List.lookup_append, List.lookup_cons, passes]

/-- Nothing is found at the name of a gap that is closed. -/
theorem get?_closed (absent : name ∉ before.map Prod.fst) (absent' : name ∉ after.map Prod.fst)
    (keyed : Bool)
    : get? ⟨keyed, before ++ after⟩ name = none := by
  rw [get?, List.lookup_append, lookup_eq_none absent, lookup_eq_none absent']
  rfl

/-- Foreign members around a known one are left out, and no other has its name. -/
theorem ofMembers?_gap {names : List String} {name : String} (known : name ∈ names)
    {filler : α} {record : Record α}
    (h : ofMembers? names (before ++ (name, filler) :: after) = some record)
    : ∃ first rest, name ∉ first.map Prod.fst ∧ name ∉ rest.map Prod.fst
      ∧ (∀ value, ofMembers? names (before ++ (name, value) :: after)
          = some ⟨true, first ++ (name, value) :: rest⟩)
      ∧ ofMembers? names (before ++ after) = some ⟨true, first ++ rest⟩ := by
  have kept (value : α) : (before ++ (name, value) :: after).filter (names.contains ·.1)
      = before.filter (names.contains ·.1)
        ++ (name, value) :: after.filter (names.contains ·.1) := by
    simp [known]
  rw [ofMembers?, kept] at h
  split at h
  · next distinct =>
      simp only [List.map_append, List.map_cons] at distinct
      have around := List.nodup_middle.mp distinct
      obtain ⟨absent, others⟩ := List.nodup_cons.mp around
      rw [List.mem_append, not_or] at absent
      refine ⟨_, _, absent.1, absent.2, ?_, ?_⟩
      · intro value
        rw [ofMembers?, kept, if_pos (by simpa using distinct)]
      · rw [ofMembers?, List.filter_append, if_pos (by simpa using others)]
  · cases h

/-- The values around a gap have the other names. -/
theorem ofValues?_gap {names : List String} {name : String} (distinct : names.Nodup)
    {before after : List α} (here : names[before.length]? = some name) {filler : α}
    {record : Record α} (h : ofValues? names (before ++ filler :: after) = some record)
    : ∃ first rest, name ∉ first.map Prod.fst ∧ name ∉ rest.map Prod.fst
      ∧ (∀ value, ofValues? names (before ++ value :: after)
          = some ⟨false, first ++ (name, value) :: rest⟩)
      ∧ (after = [] → ofValues? names before = some ⟨false, first ++ rest⟩) := by
  obtain ⟨inside, rfl⟩ := List.getElem?_eq_some_iff.mp here
  have fits : (before ++ filler :: after).length ≤ names.length := by
    rw [ofValues?] at h
    split at h
    · assumption
    · cases h
  rw [List.length_append, List.length_cons] at fits
  have split : names = names.take before.length
      ++ names[before.length] :: names.drop (before.length + 1) := by
    rw [← List.drop_eq_getElem_cons inside, List.take_append_drop]
  have filled : (names.take before.length).length = before.length := by
    rw [List.length_take]
    omega
  generalize names[before.length] = name at split
  generalize names.take before.length = first at split filled
  generalize names.drop (before.length + 1) = rest at split
  subst split
  have around := List.nodup_cons.mp (List.nodup_middle.mp distinct)
  rw [List.mem_append, not_or] at around
  have firstNames : (first.zip before).map Prod.fst = first :=
    List.map_fst_zip (Nat.le_of_eq filled)
  have restNames : name ∉ (rest.zip after).map Prod.fst := by
    intro among
    obtain ⟨entry, member, rfl⟩ := List.mem_map.mp among
    exact around.1.2 (List.of_mem_zip member).1
  rw [← firstNames] at around
  simp only [List.length_append, List.length_cons] at fits
  refine ⟨first.zip before, rest.zip after, around.1.1, restNames, ?_, ?_⟩
  · intro value
    have within : (before ++ value :: after).length ≤ (first ++ name :: rest).length := by
      simp only [List.length_append, List.length_cons]
      omega
    rw [ofValues?, if_pos within, List.zip_append filled, List.zip_cons_cons]
  · rintro rfl
    have within : before.length ≤ (first ++ name :: rest).length := by
      simp only [List.length_append, List.length_cons]
      omega
    have trimmed : (first ++ name :: rest).zip (before ++ []) = first.zip before ++ [] :=
      List.zip_append filled
    rw [List.append_nil] at trimmed
    rw [ofValues?, if_pos within, trimmed, List.zip_nil_right]

end Record

namespace Json

/-- An object or an array that lacks one value. -/
inductive Layer where
  | member (before : List (Text × Json)) (name : String) (after : List (Text × Json))
  | item (before after : List Json)

namespace Layer

/-- Puts a value into the gap. -/
def fill : Layer → Json → Json
  | member before name after, value => .obj (before ++ (some name, value) :: after)
  | item before after, value => .arr (before ++ value :: after)

/-- The document that does not mention what is missing, if its other values keep their places. -/
def without? : Layer → Option Json
  | member before _ after => some (.obj (before ++ after))
  | item before [] => some (.arr before)
  | item _ (_ :: _) => none

/-- The gap is the field of a record with that name, given by name or by position. -/
def IsField (names : List String) (name : String) : Layer → Prop
  | member _ given _ => given = name
  | item before _ => names[before.length]? = some name

end Layer

-----------------------------------------------------------------------------------------
-- Fields around a gap
-----------------------------------------------------------------------------------------

theorem members?_append (before after : List (Text × Json))
    : members? (.obj (before ++ after))
      = (members? (.obj before)).bind fun first => (members? (.obj after)).map (first ++ ·) := by
  simp only [members?, List.mapM_append, Option.bind_eq_bind, Option.pure_def,
    Option.map_eq_bind, Function.comp_def]

theorem members?_cons (name : String) (value : Json) (members : List (Text × Json))
    : members? (.obj ((some name, value) :: members))
      = (members? (.obj members)).map ((name, value) :: ·) := by
  simp only [members?, List.mapM_cons, Option.bind_eq_bind, Option.bind_some,
    Option.pure_def, Option.map_eq_bind, Function.comp_def]

/-- The fields around a gap do not depend on what is in it. -/
theorem Layer.exists_fields {names : List String} {name : String} {layer : Layer}
    (field : layer.IsField names name) (known : name ∈ names) (distinct : names.Nodup)
    {filler : Json} {record : Record Json}
    (h : record? names (layer.fill filler) = some record)
    : ∃ keyed before after, name ∉ before.map Prod.fst ∧ name ∉ after.map Prod.fst
      ∧ (∀ value, record? names (layer.fill value)
          = some ⟨keyed, before ++ (name, value) :: after⟩)
      ∧ ∀ document ∈ layer.without?, record? names document = some ⟨keyed, before ++ after⟩ := by
  cases layer with
  | member before given after =>
      obtain rfl : given = name := field
      have read (value : Json)
          : record? names (Layer.fill (.member before given after) value)
          = (members? (.obj before)).bind fun first => (members? (.obj after)).bind fun rest =>
              Record.ofMembers? names (first ++ (given, value) :: rest) := by
        simp only [Layer.fill, record?, members?_append, members?_cons, Option.bind_eq_bind]
        cases members? (.obj before) <;> cases members? (.obj after) <;> rfl
      rw [read] at h
      obtain ⟨first, begins, h⟩ := Option.bind_eq_some_iff.mp h
      obtain ⟨rest, ends, h⟩ := Option.bind_eq_some_iff.mp h
      obtain ⟨before', after', absent, absent', fills, without⟩ := Record.ofMembers?_gap known h
      refine ⟨true, before', after', absent, absent', ?_, ?_⟩
      · intro value
        rw [read, begins, Option.bind_some, ends, Option.bind_some, fills]
      · rintro document ⟨⟩
        simp only [record?, members?_append, begins, ends, Option.bind_eq_bind, Option.bind_some,
          Option.map_some, without]
  | item before after =>
      have here : names[before.length]? = some name := field
      obtain ⟨before', after', absent, absent', fills, without⟩ :=
        Record.ofValues?_gap distinct here h
      refine ⟨false, before', after', absent, absent', fills, ?_⟩
      cases after with
      | nil =>
          rintro document ⟨⟩
          exact without rfl
      | cons => rintro document ⟨⟩

end Json

end NodeDevices
