import Mathlib.Data.List.Duplicate
import Mathlib.Data.List.Perm.Basic
import NodeDevices.Proofs.Json.Gap
import NodeDevices.Proofs.Json.Shape
import NodeDevices.Proofs.Json.Spelling

/-! Objects that grow, as newer programs write them: members in another order, and members with
names that a reader does not know. What is read as a record does not change, since only the value
at each name counts; that there is one such value is what a reader insists on.
-/

namespace NodeDevices

namespace Record

variable {α β : Type} {names : List String}

/-- The records give the same value, if any, at every name. -/
structure Same (first second : Record α) : Prop where
  keyed : first.keyed = second.keyed
  get? : ∀ name, first.get? name = second.get? name

namespace Same

variable {first second : Record α}

theorem required? (same : first.Same second) (name : String) (read? : α → Option β)
    : first.required? name read? = second.required? name read? := by
  rw [Record.required?, Record.required?, same.get?]

theorem default? (same : first.Same second) (name : String) (absent : β) (read? : α → Option β)
    : first.default? name absent read? = second.default? name absent read? := by
  rw [Record.default?, Record.default?, same.get?]

end Same

/-- The order of members does not count. -/
theorem ofMembers?_perm {members others : List (String × α)} (permuted : members.Perm others)
    {record : Record α} (h : ofMembers? names members = some record)
    : ∃ other, ofMembers? names others = some other ∧ record.Same other := by
  have known := permuted.filter fun member => names.contains member.1
  rw [ofMembers?] at h ⊢
  split at h
  · next distinct =>
      have distinct' := (known.map Prod.fst).nodup_iff.mp distinct
      cases h
      refine ⟨_, if_pos distinct', rfl, ?_⟩
      intro name
      apply Option.ext
      intro value
      rw [Record.get?, Record.get?, Dictionary.lookup_eq_some_iff distinct,
        Dictionary.lookup_eq_some_iff distinct', known.mem_iff]
  · cases h

/-- A member with a foreign name does not count. -/
theorem ofMembers?_foreign {name : String} (foreign : name ∉ names)
    (before after : List (String × α)) (value : α)
    : ofMembers? names (before ++ (name, value) :: after) = ofMembers? names (before ++ after) := by
  have passed : (before ++ (name, value) :: after).filter (names.contains ·.1)
      = (before ++ after).filter (names.contains ·.1) := by
    simp [foreign]
  rw [ofMembers?, ofMembers?, passed]

/-- No record is read from members of which two have the same known name. -/
theorem ofMembers?_of_duplicate {name : String} (known : name ∈ names)
    {members : List (String × α)} (twice : (members.map Prod.fst).Duplicate name)
    : ofMembers? names members = none := by
  rw [ofMembers?]
  refine if_neg fun distinct => ?_
  have kept : (members.filter (names.contains ·.1)).map Prod.fst
      = (members.map Prod.fst).filter names.contains := by
    rw [List.filter_map]
    rfl
  rw [kept] at distinct
  have fits : List.Sublist [name, name] ((members.map Prod.fst).filter names.contains) := by
    have sublist := (List.duplicate_iff_sublist.mp twice).filter names.contains
    simpa [known] using sublist
  exact (List.duplicate_iff_sublist.mpr fits).not_nodup distinct

end Record

namespace Json

variable {names : List String}

/-- What the one document gives as a record, the other gives as well. -/
def KeepsRecord (names : List String) (older newer : Json) : Prop :=
  ∀ record, older.record? names = some record
    → ∃ other, newer.record? names = some other ∧ record.Same other

/-- What is read from a record by the values at its names is read from what keeps the record. -/
theorem KeepsRecord.read {α : Type} {older newer : Json} (keeps : KeepsRecord names older newer)
    {read? : Record Json → Option α}
    (respects : ∀ first second, first.Same second → read? first = read? second) {value : α}
    (h : (older.record? names >>= read?) = some value)
    : (newer.record? names >>= read?) = some value := by
  obtain ⟨record, known, found⟩ := Option.bind_eq_some_iff.mp h
  obtain ⟨other, known', same⟩ := keeps record known
  rw [known', Option.bind_eq_bind, Option.bind_some, ← respects record other same, found]

/-- One change of an object that does not touch what is known of it. Its members are put in some
other order, or it gets one more, at any place and with any value, whose name is none of those that
are known.
-/
inductive Grows (names : List String) (admits : Text → Prop) : Json → Json → Prop
  | reorder {members others : List (Text × Json)} (permuted : members.Perm others) :
      Grows names admits (.obj members) (.obj others)
  | insert (before after : List (Text × Json)) {name : Text} {value : Json}
      (foreign : name ∉ names.map some) (admitted : admits name) (spelled : value.IsSpelled) :
      Grows names admits (.obj (before ++ after)) (.obj (before ++ (name, value) :: after))

-----------------------------------------------------------------------------------------
-- Growing keeps the record
-----------------------------------------------------------------------------------------

theorem record?_obj (members : List (Text × Json))
    : record? names (.obj members) = (members? (.obj members)).bind (Record.ofMembers? names) :=
  rfl

/-- Reading the names of members keeps their order. -/
theorem members?_perm {members others : List (Text × Json)} (permuted : members.Perm others)
    {named : List (String × Json)} (h : members? (.obj members) = some named)
    : ∃ renamed, members? (.obj others) = some renamed ∧ named.Perm renamed := by
  obtain rfl : members = named.map fun member => (some member.1, member.2) :=
    Json.obj.inj (members?_eq_some_iff.mp h)
  obtain ⟨renamed, rfl, same⟩ :=
    (iff_of_eq (congrFun₂ (List.eq_map_comp_perm _) others named)).mpr permuted.symm
  exact ⟨renamed, members?_record renamed, same.symm⟩

/-- Growing by names that are texts keeps what is read as a record. -/
theorem Grows.keepsRecord {older newer : Json} (grows : Grows names (·.isSome) older newer)
    : KeepsRecord names older newer := by
  intro record h
  cases grows with
  | reorder permuted =>
      rw [record?_obj] at h
      obtain ⟨named, whole, h⟩ := Option.bind_eq_some_iff.mp h
      obtain ⟨renamed, whole', same⟩ := members?_perm permuted whole
      rw [record?_obj, whole', Option.bind_some]
      exact Record.ofMembers?_perm same h
  | @insert before after name value foreign admitted spelled =>
      obtain ⟨key, rfl⟩ := Option.isSome_iff_exists.mp admitted
      have unknown : key ∉ names := fun known => foreign (List.mem_map_of_mem known)
      refine ⟨record, ?_, rfl, fun _ => rfl⟩
      simp only [record?_obj, members?_append, members?_cons] at h ⊢
      cases begins : members? (.obj before) with
      | none => simp [begins] at h
      | some first =>
          cases ends : members? (.obj after) with
          | none => simp [begins, ends] at h
          | some rest => simpa [begins, ends, Record.ofMembers?_foreign unknown] using h

/-- Growing does not make a document one that cannot be written. -/
theorem Grows.isSpelled {admits : Text → Prop} {older newer : Json}
    (grows : Grows names admits older newer) (spelled : older.IsSpelled)
    : newer.IsSpelled := by
  cases grows with
  | reorder permuted =>
      rw [isSpelled_obj] at spelled ⊢
      exact fun member among => spelled member (permuted.mem_iff.mpr among)
  | insert before after _ _ value =>
      rw [isSpelled_obj, List.forall_mem_append] at spelled ⊢
      exact ⟨spelled.1, List.forall_mem_cons.mpr ⟨value, spelled.2⟩⟩

/-- What stands in a gap can be written with all around it, and so can anything else that can be
written alone.
-/
theorem Layer.isSpelled_fill {layer : Layer} {older : Json} (h : (layer.fill older).IsSpelled)
    : older.IsSpelled ∧ ∀ newer, newer.IsSpelled → (layer.fill newer).IsSpelled := by
  cases layer with
  | member before name after =>
      rw [fill, isSpelled_obj, List.forall_mem_append, List.forall_mem_cons] at h
      refine ⟨h.2.1, ?_⟩
      intro newer spelled
      rw [fill, isSpelled_obj, List.forall_mem_append, List.forall_mem_cons]
      exact ⟨h.1, spelled, h.2.2⟩
  | item before after =>
      rw [fill, isSpelled_arr, List.forall_mem_append, List.forall_mem_cons] at h
      refine ⟨h.2.1, ?_⟩
      intro newer spelled
      rw [fill, isSpelled_arr, List.forall_mem_append, List.forall_mem_cons]
      exact ⟨h.1, spelled, h.2.2⟩

-----------------------------------------------------------------------------------------
-- Objects that are no records
-----------------------------------------------------------------------------------------

/-- No record is read from an object with a name that is no text. -/
theorem record?_of_none_mem {members : List (Text × Json)} (unnamed : none ∈ members.map Prod.fst)
    : record? names (.obj members) = none := by
  have unread : members? (.obj members) = none := by
    rw [Option.eq_none_iff_forall_ne_some]
    intro named h
    rw [Json.obj.inj (members?_eq_some_iff.mp h)] at unnamed
    simp at unnamed
  rw [record?_obj, unread]
  rfl

/-- No record is read from an object in which a known name is repeated. -/
theorem record?_of_duplicate {name : String} (known : name ∈ names)
    {members : List (Text × Json)} (twice : (members.map Prod.fst).Duplicate (some name))
    : record? names (.obj members) = none := by
  rw [record?_obj, Option.bind_eq_none_iff]
  intro named h
  apply Record.ofMembers?_of_duplicate known
  rw [Json.obj.inj (members?_eq_some_iff.mp h), List.map_map] at twice
  have texts : named.map (Prod.fst ∘ fun member => (some member.1, member.2))
      = (named.map Prod.fst).map some := by
    simp
  rw [texts, List.duplicate_iff_sublist, List.sublist_map_iff] at twice
  obtain ⟨pair, within, same⟩ := twice
  obtain rfl : [name, name] = pair :=
    List.map_injective_iff.mpr (fun _ _ => Option.some.inj) same
  exact List.duplicate_iff_sublist.mpr within

end Json

end NodeDevices
