import Mathlib.Logic.Relation
import NodeDevices.Proofs.Assignment.Shown
import NodeDevices.Proofs.Checkpoint
import NodeDevices.Proofs.Json.Growth

/-! Checkpoints of newer kubelets, whose records list their fields in other orders and have fields
that are not known here. They are read as before, whatever the unknown fields hold, while a record
with a known field given twice makes the whole document refused.
-/

namespace NodeDevices.Checkpoint

open Json

-----------------------------------------------------------------------------------------
-- Readers of the records
-----------------------------------------------------------------------------------------

theorem Entry.ofJson?_of_keeps {older newer : Json}
    (keeps : KeepsRecord ["PodUID", "ContainerName", "ResourceName", "DeviceIDs", "AllocResp"]
      older newer)
    {entry : Entry} (h : ofJson? older = some entry)
    : ofJson? newer = some entry :=
  keeps.read (fun _ _ same => by simp only [same.required?, same.default?]) h

theorem data?_of_keeps {older newer : Json}
    (keeps : KeepsRecord ["PodDeviceEntries", "RegisteredDevices"] older newer)
    {data : Option (List Entry) × Option (Dictionary (List String))}
    (h : data? older = some data)
    : data? newer = some data :=
  keeps.read (fun _ _ same => by simp only [same.default?]) h

theorem ofJson?_of_keeps {older newer : Json} (keeps : KeepsRecord ["Data", "Checksum"] older newer)
    {checkpoint : Checkpoint} (h : ofJson? older = some checkpoint)
    : ofJson? newer = some checkpoint :=
  keeps.read (fun _ _ same => by simp only [same.required?, same.default?]) h

-----------------------------------------------------------------------------------------
-- Places of records
-----------------------------------------------------------------------------------------

/-- A place of a record in a checkpoint document: that of the document itself, of its data, or of
one of its entries.
-/
inductive Place where
  | top
  | data (outer : Layer) (inDocument : outer.IsField ["Data", "Checksum"] "Data")
  | entry (outer inner : Layer) (before after : List Json)
      (inDocument : outer.IsField ["Data", "Checksum"] "Data")
      (inData : inner.IsField ["PodDeviceEntries", "RegisteredDevices"] "PodDeviceEntries")

namespace Place

/-- The fields that the record at a place is known to have. -/
def names : Place → List String
  | top => ["Data", "Checksum"]
  | data .. => ["PodDeviceEntries", "RegisteredDevices"]
  | entry .. => ["PodUID", "ContainerName", "ResourceName", "DeviceIDs", "AllocResp"]

/-- Puts a record at a place. -/
def around : Place → Json → Json
  | top, record => record
  | data outer _, record => outer.fill record
  | entry outer inner before after _ _, record =>
      outer.fill (inner.fill (Layer.fill (.item before after) record))

/-- Something is read as a record at each place of a document that reads, and the document goes on
to read the same way when that is kept.
-/
theorem ofJson?_around {place : Place} {older : Json} {checkpoint : Checkpoint}
    (h : ofJson? (place.around older) = some checkpoint)
    : (∃ record, older.record? place.names = some record)
      ∧ ∀ newer, KeepsRecord place.names older newer
        → ofJson? (place.around newer) = some checkpoint := by
  cases place with
  | top =>
      obtain ⟨record, known, _⟩ := Option.bind_eq_some_iff.mp h
      exact ⟨⟨record, known⟩, fun newer keeps => ofJson?_of_keeps keeps h⟩
  | data outer inDocument =>
      obtain ⟨readData, document⟩ := ofJson?_fill inDocument h
      obtain ⟨record, known, _⟩ := Option.bind_eq_some_iff.mp readData
      refine ⟨⟨record, known⟩, ?_⟩
      intro newer keeps
      rw [around, document, data?_of_keeps keeps readData, Option.map_some]
  | entry outer inner before after inDocument inData =>
      obtain ⟨readData, document⟩ := ofJson?_fill inDocument h
      obtain ⟨entries, held, readEntries, data⟩ := data?_fill inData readData
      obtain ⟨first, entry, rest, rfl, _, readEntry, item⟩ := list?_ofJson?_gap readEntries
      obtain ⟨record, known, _⟩ := Option.bind_eq_some_iff.mp readEntry
      refine ⟨⟨record, known⟩, ?_⟩
      intro newer keeps
      rw [around, document, Layer.fill, data, item, Entry.ofJson?_of_keeps keeps readEntry,
        Option.map_some, Option.map_some, Option.map_some, ← held]

/-- What stands at a place of a document that can be written can be written, and anything else
that can may stand there.
-/
theorem isSpelled_around {place : Place} {older : Json} (h : (place.around older).IsSpelled)
    : older.IsSpelled ∧ ∀ newer, newer.IsSpelled → (place.around newer).IsSpelled := by
  cases place with
  | top => exact ⟨h, fun newer spelled => spelled⟩
  | data outer => exact Layer.isSpelled_fill h
  | entry outer inner before after =>
      obtain ⟨inside, document⟩ := Layer.isSpelled_fill h
      obtain ⟨inside, data⟩ := Layer.isSpelled_fill inside
      obtain ⟨inside, item⟩ := Layer.isSpelled_fill inside
      exact ⟨inside, fun newer spelled => document _ (data _ (item _ spelled))⟩

end Place

-----------------------------------------------------------------------------------------
-- Newer documents
-----------------------------------------------------------------------------------------

/-- One of the records in a checkpoint document grows. -/
inductive Step (admits : Text → Prop) : Json → Json → Prop
  | grow (place : Place) {older newer : Json} (grows : Grows place.names admits older newer) :
      Step admits (place.around older) (place.around newer)

/-- The records in a checkpoint document grow, any number of times. -/
def Newer (admits : Text → Prop) : Json → Json → Prop :=
  Relation.ReflTransGen (Step admits)

theorem Step.ofJson? {older newer : Json} (step : Step (·.isSome) older newer)
    {checkpoint : Checkpoint} (h : ofJson? older = some checkpoint)
    : ofJson? newer = some checkpoint := by
  cases step with
  | grow place grows => exact (Place.ofJson?_around h).2 _ grows.keepsRecord

theorem Step.isSpelled {admits : Text → Prop} {older newer : Json}
    (step : Step admits older newer) (h : older.IsSpelled)
    : newer.IsSpelled := by
  cases step with
  | grow place grows =>
      obtain ⟨inside, fills⟩ := Place.isSpelled_around h
      exact fills _ (grows.isSpelled inside)

/-- A newer document is read as the older one was. -/
theorem Newer.ofJson? {older newer : Json} (grown : Newer (·.isSome) older newer)
    {checkpoint : Checkpoint} (h : ofJson? older = some checkpoint)
    : ofJson? newer = some checkpoint := by
  induction grown with
  | refl => exact h
  | tail _ step ih => exact step.ofJson? ih

/-- A newer document can be written if the older one can. -/
theorem Newer.isSpelled {admits : Text → Prop} {older newer : Json}
    (grown : Newer admits older newer) (h : older.IsSpelled)
    : newer.IsSpelled := by
  induction grown with
  | refl => exact h
  | tail _ step ih => exact step.isSpelled ih

/-- The file at a path holds a text of a document. -/
def Holds (files : Files) (path : String) (document : Json) : Prop :=
  ∃ text, files.text? path = some text ∧ parse? text.toList = some document

/-- A file with the written form of a document holds the document. -/
theorem holds_of_at? {files : Files} {path : String} {document : Json}
    (spelled : document.IsSpelled)
    (written : files.at? path = some (.regular document.render.toUTF8.data.toList))
    : Holds files path document := by
  refine ⟨document.render, ?_, parse?_render_of_isSpelled spelled⟩
  have bytes : (⟨document.render.toUTF8.data.toList.toArray⟩ : ByteArray)
      = document.render.toUTF8 := by
    rw [Array.toArray_toList]
  rw [Files.text?, written]
  simp only [bytes]
  exact dif_pos document.render.isValidUTF8

theorem ofFile?_of_holds {files : Files} {path : String} {document : Json}
    (holds : Holds files path document)
    : ofFile? files path = Checkpoint.ofJson? document := by
  obtain ⟨text, found, parsed⟩ := holds
  rw [ofFile?, found, Option.bind_eq_bind, Option.bind_some, parsed]
  rfl

theorem ofCheckpoint_of_holds {files : Files} {path : String} {document : Json}
    (holds : Holds files path document)
    : Assignments.ofCheckpoint files path
      = (Checkpoint.ofJson? document).elim (.error (.malformed path))
          fun checkpoint => .ok checkpoint.assignments := by
  obtain ⟨text, found, parsed⟩ := holds
  rw [Assignments.ofCheckpoint, found]
  simp only [parsed, Option.bind_eq_bind, Option.bind_some]
  cases Checkpoint.ofJson? document <;> rfl

/-- When a file is read as a checkpoint, every newer document can be written, and each of its texts
is read as the same checkpoint and gives the same assignments. A text is refused in which a record
gives a known field twice, or has a field whose name is no text.
-/
theorem readsNewer_and_refusesRepeated
    : (∀ files path document checkpoint,
        Holds files path document
        → ofFile? files path = some checkpoint
        → ∀ newer, Newer (·.isSome) document newer
          → parse? newer.render.toList = some newer
            ∧ ∀ files path, Holds files path newer
              → ofFile? files path = some checkpoint
                ∧ Assignments.ofCheckpoint files path = .ok checkpoint.assignments)
      ∧ ∀ (place : Place) (members : List (Text × Json)),
          (none ∈ members.map Prod.fst
            ∨ ∃ name ∈ place.names, (members.map Prod.fst).Duplicate (some name))
          → ∀ files path, Holds files path (place.around (.obj members))
            → ofFile? files path = none
              ∧ Assignments.ofCheckpoint files path = .error (.malformed path) := by
  constructor
  · intro files path document checkpoint holds read newer grown
    have spelled : document.IsSpelled := isSpelled_of_parse? holds.choose_spec.2
    rw [ofFile?_of_holds holds] at read
    refine ⟨parse?_render_of_isSpelled (grown.isSpelled spelled), ?_⟩
    intro files path holds
    rw [ofFile?_of_holds holds, ofCheckpoint_of_holds holds, grown.ofJson? read]
    exact ⟨rfl, rfl⟩
  · intro place members malformed files path holds
    have noRecord : record? place.names (.obj members) = none := by
      rcases malformed with unnamed | ⟨name, known, twice⟩
      · exact record?_of_none_mem unnamed
      · exact record?_of_duplicate known twice
    have unread : Checkpoint.ofJson? (place.around (.obj members)) = none := by
      rw [Option.eq_none_iff_forall_ne_some]
      intro checkpoint read
      obtain ⟨⟨record, known⟩, _⟩ := Place.ofJson?_around read
      rw [noRecord] at known
      cases known
    rw [ofFile?_of_holds holds, ofCheckpoint_of_holds holds, unread]
    exact ⟨rfl, rfl⟩

/-- A newer kubelet writes its version first, with a number beyond all bounds and half of a
surrogate pair in it, and the checksum before the data. A third file has the data twice.
-/
theorem readsNewer_version
    : let checkpoint : Checkpoint := {
        entries := some [{
          podUid := "1"
          containerName := "m"
          resourceName := "r"
          deviceIds := some (.flat ["a", "b"])
        }]
      }
      let data := dataIn ⟨Dictionary.entries, fun _ => .refl _⟩ (checkpoint.entries, none)
      let version : Json := .arr [.num ⟨false, 1, "e999".toList⟩, .str none]
      let older : Json := .obj [(some "Data", data), (some "Checksum", .int 0)]
      let newer : Json := .obj [
        (some "Version", version), (some "Checksum", .int 0), (some "Data", data)]
      let twice : Json := .obj [(some "Data", data), (some "Data", data)]
      let files : Files := {
        kinds := [.directory, .regular older.render.toUTF8.data.toList,
          .regular newer.render.toUTF8.data.toList, .regular twice.render.toUTF8.data.toList]
        entries := [⟨0, "a", 1⟩, ⟨0, "b", 2⟩, ⟨0, "c", 3⟩]
      }
      Holds files "a" older
      ∧ ofFile? files "a" = some checkpoint
      ∧ Newer (·.isSome) older newer
      ∧ Holds files "b" newer
      ∧ Assignments.ofCheckpoint files "b" = .ok checkpoint.assignments
      ∧ Holds files "c" twice
      ∧ Assignments.ofCheckpoint files "c" = .error (.malformed "c") := by
  intro checkpoint data version older newer twice files
  have plain : data.IsSpelled := fun token member =>
    ((inverse_data _).plain (checkpoint.entries, none) token member).isSpelled
  have number : IsSpelled (.int 0) := fun token member => (isPlain_int 0 token member).isSpelled
  have holdsOlder : Holds files "a" older :=
    holds_of_at? (isSpelled_obj.mpr (by simp [plain, number])) rfl
  have holdsTwice : Holds files "c" twice :=
    holds_of_at? (isSpelled_obj.mpr (by simp [plain])) rfl
  have read : ofFile? files "a" = some checkpoint :=
    (ofFile?_of_holds holdsOlder).trans rfl
  have spelled : version.IsSpelled := by
    have large : Number.IsSpelled ⟨false, 1, "e999".toList⟩ :=
      ⟨[], _, Or.inl rfl,
        Or.inr ⟨'e', [], ['9', '9', '9'], Or.inl rfl, Or.inl rfl, by simp, by simp, rfl⟩, rfl⟩
    rw [isSpelled_arr]
    simpa [IsSpelled, tokens, Token.IsSpelled] using large
  have reordered : Newer (·.isSome) older (.obj [(some "Checksum", .int 0), (some "Data", data)]) :=
    .single (.grow .top (.reorder (.swap ..)))
  have grown : Newer (·.isSome) older newer :=
    reordered.tail (.grow .top (.insert [] _ (by decide) rfl spelled))
  have holdsNewer : Holds files "b" newer :=
    holds_of_at? (grown.isSpelled (isSpelled_obj.mpr (by simp [plain, number]))) rfl
  have tolerated :=
    readsNewer_and_refusesRepeated.1 files "a" older checkpoint holdsOlder read newer grown
  have refused :=
    readsNewer_and_refusesRepeated.2 .top [(some "Data", data), (some "Data", data)]
      (Or.inr ⟨"Data", by decide, by simp⟩) files "c" holdsTwice
  exact ⟨holdsOlder, read, grown, holdsNewer, (tolerated.2 files "b" holdsNewer).2,
    holdsTwice, refused.2⟩

/-- A document that is newer by a name that is no text is refused, though it can be written. -/
theorem ofJson?_newer_of_unnamed
    : let older : Json := .obj [(some "Data", .obj [])]
      let newer : Json := .obj [(some "Data", .obj []), (none, .null)]
      Checkpoint.ofJson? older = some {}
      ∧ Newer (fun _ => True) older newer
      ∧ parse? newer.render.toList = some newer
      ∧ Checkpoint.ofJson? newer = none := by
  intro older newer
  have spelled : newer.IsSpelled := by
    simp [newer, IsSpelled, tokens, memberTokens, Token.IsSpelled]
  have grows : Grows Place.top.names (fun _ => True) older newer :=
    .insert [(some "Data", .obj [])] [] (by decide) trivial
      (by simp [IsSpelled, tokens, Token.IsSpelled])
  exact ⟨rfl, .single (.grow .top grows), parse?_render_of_isSpelled spelled, rfl⟩

end NodeDevices.Checkpoint
