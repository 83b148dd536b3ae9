import NodeDevices.Json.Shape
import NodeDevices.Proofs.Dictionary
import NodeDevices.Proofs.Json.Parsing

/-! Values that are read back from the documents they are written as, and from the texts of those.
Each shape of a document keeps this law of its parts.
-/

namespace NodeDevices.Json

variable {α : Type}

/-- Reading undoes writing. -/
structure Inverse (read? : Json → Option α) (write : α → Json) : Prop where
  plain : ∀ value, (write value).IsPlain
  reads : ∀ value, read? (write value) = some value

/-- Reads a text as a value. -/
def decode? (read? : Json → Option α) (text : String) : Option α :=
  parse? text.toList >>= read?

/-- Writes a value as a text. -/
def encode (write : α → Json) (value : α) : String :=
  (write value).render

/-- A text is read and written again. -/
def recode (read? : Json → Option α) (write : α → Json) (text : String) : Option String :=
  (decode? read? text).map (encode write)

/-- Every value is read back from its text, and every text that is read is written in a form that
stands for the same value and is its own rewriting.
-/
structure RoundTrips (read? : Json → Option α) (write : α → Json) : Prop where
  value : ∀ value, decode? read? (encode write value) = some value
  text
    : ∀ text value,
        decode? read? text = some value
        → decode? read? (encode write value) = some value
          ∧ recode read? write text = some (encode write value)
          ∧ recode read? write (encode write value) = some (encode write value)

/-- A value is read back from its text. -/
theorem Inverse.decode?_encode {read? : Json → Option α} {write : α → Json}
    (inverse : Inverse read? write) (value : α)
    : decode? read? (encode write value) = some value := by
  rw [decode?, encode, parse?_render (inverse.plain value)]
  exact inverse.reads value

theorem Inverse.roundTrips {read? : Json → Option α} {write : α → Json}
    (inverse : Inverse read? write)
    : RoundTrips read? write where
  value := inverse.decode?_encode
  text text value read := by
    have back := inverse.decode?_encode value
    refine ⟨back, ?_, ?_⟩
    · rw [recode, read, Option.map_some]
    · rw [recode, back, Option.map_some]

-----------------------------------------------------------------------------------------
-- Plain documents by their shape
-----------------------------------------------------------------------------------------

@[simp]
theorem isPlain_null : IsPlain .null := by
  simp [IsPlain, tokens, Token.IsPlain]

@[simp]
theorem isPlain_bool (value : Bool) : IsPlain (.bool value) := by
  simp [IsPlain, tokens, Token.IsPlain]

@[simp]
theorem isPlain_int (n : Int) : (int n).IsPlain := by
  simp [IsPlain, int, tokens, Token.IsPlain, Number.ofInt]

@[simp]
theorem isPlain_text (s : String) : (text s).IsPlain := by
  simp [IsPlain, text, tokens, Token.IsPlain]

theorem isPlain_arr {items : List Json} (plain : ∀ item ∈ items, item.IsPlain)
    : IsPlain (.arr items) := by
  have among : ∀ token ∈ itemTokens items, token.IsPlain :=
    (forall_mem_itemTokens trivial).mpr plain
  simpa [IsPlain, tokens, Token.IsPlain, or_imp, forall_and] using among

theorem isPlain_record {members : List (String × Json)}
    (plain : ∀ member ∈ members, member.2.IsPlain)
    : (record members).IsPlain := by
  have among : ∀ token ∈ memberTokens (members.map fun member => (some member.1, member.2)),
      token.IsPlain := by
    rw [forall_mem_memberTokens trivial trivial, List.forall_mem_map]
    exact fun member among => ⟨rfl, plain member among⟩
  simpa [IsPlain, record, tokens, Token.IsPlain, or_imp, forall_and] using among

-----------------------------------------------------------------------------------------
-- Simple values
-----------------------------------------------------------------------------------------

theorem inverse_bool : Inverse bool? .bool where
  plain := isPlain_bool
  reads _ := rfl

theorem inverse_text : Inverse text? text where
  plain := isPlain_text
  reads _ := rfl

/-- An integer within the bounds is read as it was written. -/
theorem int?_int {least greatest n : Int} (low : least ≤ n) (high : n ≤ greatest)
    : (int n).int? least greatest = some n := by
  simp [int?, int, Number.int?_ofInt, low, high]

theorem inverse_int8 : Inverse int8? fun n => int n.toInt where
  plain n := isPlain_int n.toInt
  reads n := by
    have low := n.le_toInt
    have high := n.toInt_lt
    rw [int8?, int?_int (by omega) (by omega), Option.map_some, Int8.ofInt_toInt]

theorem inverse_int32 : Inverse int32? fun n => int n.toInt where
  plain n := isPlain_int n.toInt
  reads n := by
    have low := n.le_toInt
    have high := n.toInt_lt
    rw [int32?, int?_int (by omega) (by omega), Option.map_some, Int32.ofInt_toInt]

theorem inverse_int64 : Inverse int64? fun n => int n.toInt where
  plain n := isPlain_int n.toInt
  reads n := by
    have low := n.le_toInt
    have high := n.toInt_lt
    rw [int64?, int?_int (by omega) (by omega), Option.map_some, Int64.ofInt_toInt]

theorem inverse_uint64 : Inverse uint64? fun n => int n.toNat where
  plain n := isPlain_int n.toNat
  reads n := by
    have high := n.toNat_lt
    rw [uint64?, int?_int (by omega) (by omega), Option.map_some, Int.toNat_natCast,
      UInt64.ofNat_toNat]

-----------------------------------------------------------------------------------------
-- Values that contain others
-----------------------------------------------------------------------------------------

theorem optional?_of_ne_null (read? : Json → Option α) {document : Json}
    (present : document ≠ .null)
    : optional? read? document = (read? document).map some := by
  cases document with
  | null => exact absurd rfl present
  | _ => rfl

namespace Inverse

variable {read? : Json → Option α} {write : α → Json}

theorem list (inverse : Inverse read? write) : Inverse (list? read?) (Json.list write) where
  plain items := isPlain_arr fun document member => by
    obtain ⟨item, _, rfl⟩ := List.mem_map.mp member
    exact inverse.plain item
  reads items := by
    have each : read? ∘ write = fun item => pure item := funext inverse.reads
    rw [Json.list, list?, List.mapM_map, each, List.mapM_pure]
    simp

theorem optional (inverse : Inverse read? write) (present : ∀ value, write value ≠ .null)
    : Inverse (optional? read?) (Json.optional write) where
  plain
    | none => isPlain_null
    | some value => inverse.plain value
  reads
    | none => rfl
    | some value => by
        rw [Json.optional, optional?_of_ne_null read? (present value), inverse.reads,
          Option.map_some]

end Inverse

/-- The members of an object with whole names are all read. -/
theorem members?_record (members : List (String × Json))
    : (record members).members? = some members := by
  rw [record, members?, List.mapM_map]
  exact (List.mapM_pure (f := id)).trans (by simp)

/-- A map is read from entries in any order, the last one at a name counting. -/
theorem dictionary?_record {read? : Json → Option α} {write : α → Json}
    (inverse : Inverse read? write) (entries : List (String × α))
    : dictionary? read? (record (entries.map fun entry => (entry.1, write entry.2)))
      = some (.ofList entries) := by
  have each
      : (fun member : String × Json => (read? member.2).map (member.1, ·))
          ∘ (fun entry : String × α => (entry.1, write entry.2))
        = fun entry => pure entry := by
    funext entry
    simp [inverse.reads]
  rw [dictionary?, members?_record]
  simp only [Option.bind_eq_bind, Option.bind_some, List.mapM_map, each]
  rw [List.mapM_pure]
  simp

/-- An order in which the names of a map can be written. -/
structure KeyOrder (α : Type) where
  entries : Dictionary α → List (String × α)
  same : ∀ map, (entries map).Perm map.entries

/-- The document that is a map, with its names in some order. -/
def dictionaryIn (order : KeyOrder α) (write : α → Json) (map : Dictionary α) : Json :=
  record ((order.entries map).map fun entry => (entry.1, write entry.2))

/-- A map is read back in whatever order its entries are written. -/
theorem Inverse.dictionaryIn {read? : Json → Option α} {write : α → Json}
    (inverse : Inverse read? write) (order : KeyOrder α)
    : Inverse (dictionary? read?) (dictionaryIn order write) where
  plain map := isPlain_record fun member among => by
    obtain ⟨entry, _, rfl⟩ := List.mem_map.mp among
    exact inverse.plain entry.2
  reads map := by
    rw [Json.dictionaryIn, dictionary?_record inverse, Dictionary.ofList_of_perm (order.same map)]

theorem Inverse.dictionary {read? : Json → Option α} {write : α → Json}
    (inverse : Inverse read? write)
    : Inverse (dictionary? read?) (Json.dictionary write) :=
  inverse.dictionaryIn ⟨Dictionary.entries, fun _ => .refl _⟩

-----------------------------------------------------------------------------------------
-- Readers of one written form
-----------------------------------------------------------------------------------------

/-- A value is read from the document it is written as and from no other. -/
def Exact (read? : Json → Option α) (write : α → Json) : Prop :=
  ∀ document value, read? document = some value ↔ document = write value

theorem exact_text : Exact text? text := by
  intro document value
  cases document <;> simp [text?, text]

/-- What reads each item in one form only reads the items in one form only. -/
theorem mapM_eq_some_iff {β γ : Type} {read? : β → Option γ} {write : γ → β}
    (each : ∀ item value, read? item = some value ↔ item = write value) {items : List β}
    {values : List γ}
    : items.mapM read? = some values ↔ items = values.map write := by
  induction items generalizing values with
  | nil => cases values <;> simp
  | cons item items ih =>
      simp only [List.mapM_cons, Option.bind_eq_bind, Option.bind_eq_some_iff, Option.pure_def,
        each, ih]
      cases values with
      | nil => simp
      | cons value values => simp

/-- The members of an object are read exactly when their names are whole. -/
theorem members?_eq_some_iff {document : Json} {members : List (String × Json)}
    : document.members? = some members ↔ document = record members := by
  have each (member : Text × Json) (named : String × Json)
      : member.1.map (·, member.2) = some named ↔ member = (some named.1, named.2) := by
    obtain ⟨name, value⟩ := member
    cases name <;> simp [Prod.ext_iff]
  cases document with
  | obj given => simp [members?, record, mapM_eq_some_iff each]
  | _ => simp [members?, record]

namespace Exact

variable {read? : Json → Option α} {write : α → Json}

theorem list (precise : Exact read? write) : Exact (list? read?) (Json.list write) := by
  intro document values
  cases document with
  | arr items => simp [list?, Json.list, mapM_eq_some_iff precise]
  | _ => simp [list?, Json.list]

/-- A map is read exactly from the objects that list its entries and perhaps others before them
at the same names.
-/
theorem dictionary?_eq_some_iff (precise : Exact read? write) {document : Json}
    {map : Dictionary α}
    : dictionary? read? document = some map
      ↔ ∃ entries, map = .ofList entries
        ∧ document = record (entries.map fun entry => (entry.1, write entry.2)) := by
  have each (member : String × Json) (entry : String × α)
      : (read? member.2).map (member.1, ·) = some entry
        ↔ member = (entry.1, write entry.2) := by
    obtain ⟨name, value⟩ := member
    simp [Prod.ext_iff, precise value, and_comm]
  simp only [dictionary?, Option.bind_eq_bind, Option.bind_eq_some_iff, members?_eq_some_iff,
    mapM_eq_some_iff each, Option.pure_def, Option.some.injEq]
  constructor
  · rintro ⟨_, rfl, entries, rfl, rfl⟩
    exact ⟨entries, rfl, rfl⟩
  · rintro ⟨entries, rfl, rfl⟩
    exact ⟨_, rfl, entries, rfl, rfl⟩

end Exact

-----------------------------------------------------------------------------------------
-- Records
-----------------------------------------------------------------------------------------

/-- A record is read by name when it has its fields and no others. -/
theorem record?_record {names : List String} {members : List (String × Json)}
    (named : members.map Prod.fst = names) (distinct : names.Nodup)
    : record? names (record members) = some ⟨true, members⟩ := by
  have known : ∀ member ∈ members, names.contains member.1 = true := by
    intro member among
    rw [List.contains_iff_mem, ← named]
    exact List.mem_map_of_mem among
  have read
      : record? names (record members)
        = (record members).members? >>= Record.ofMembers? names :=
    rfl
  rw [read, members?_record, Option.bind_eq_bind, Option.bind_some]
  simp only [Record.ofMembers?, List.filter_eq_self.mpr known, named, if_pos distinct]

/-- A record is read back when its fields are read back from their names. -/
theorem inverse_record {names : List String} {fields : α → List (String × Json)}
    {read? : Record Json → Option α} (named : ∀ value, (fields value).map Prod.fst = names)
    (distinct : names.Nodup) (plain : ∀ value, ∀ field ∈ fields value, field.2.IsPlain)
    (reads : ∀ value, read? ⟨true, fields value⟩ = some value)
    : Inverse (fun document => document.record? names >>= read?)
        fun value => record (fields value) where
  plain value := isPlain_record (plain value)
  reads value := by
    simp only [record?_record (named value) distinct, Option.bind_eq_bind, Option.bind_some,
      reads]

end NodeDevices.Json
