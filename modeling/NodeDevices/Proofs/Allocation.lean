import Mathlib.Data.List.Forall2
import NodeDevices.Proofs.Allocation.Encoding
import NodeDevices.Proofs.Roster

/-! How requests for devices end. A request is refused as a whole before anything is done, or
its containers are served one after another up to the first lookup that fails. How it ends also
settles which calls were made.
-/

namespace NodeDevices.Allocation

open Inventory

/-- How the devices of a container are looked up, by the position of the container. -/
abbrev Lookup := Nat → List String → Option (List PcieAddress)

/-- The calls for a container whose devices are looked up and then reported. -/
def exchange (ids : List String) : List Call :=
  [.lookup ids, .report ids]

/-- The lookups for some containers, which stand from a position on, all succeed. -/
def Answers (lookup? : Lookup) (position : Nat) (requests : List (List String))
    (found : List (List PcieAddress)) : Prop :=
  List.Forall₂ (fun request addresses => lookup? request.2 request.1 = some addresses)
    (requests.zipIdx position) found

/-- The ways in which a request can end, with what the client gets over its connection. -/
inductive Course (cls : DeviceClass) (roster : Roster) (lookup? : Lookup)
    (requests : List (List String)) : Outcome → Except Status (List Environment) → Prop
  /-- The first id that is not in the roster is named, and nothing was done. -/
  | refused {before after : List String} {id : String}
    (split : requests.flatten = before ++ id :: after)
    (known : ∀ earlier ∈ before, earlier ∈ roster.ids) (unknown : id ∉ roster.ids)
    : Course cls roster lookup? requests
        { result := .error (.unknownDevice cls.resourceName id), calls := [] }
        (.error {
          code := .invalidArgument
          message := "Invalid allocation request for " ++ cls.resourceName ++ ": unknown device "
            ++ id
        })
  /-- No class but one that fetches addresses looks anything up. -/
  | plain (known : ∀ id ∈ requests.flatten, id ∈ roster.ids) (mode : cls.addressing ≠ .fetch)
    : Course cls roster lookup? requests
        { result := .ok (requests.map (environment cls · [])), calls := requests.map .report }
        (.ok (requests.map (environment cls · [])))
  | fetched {found : List (List PcieAddress)}
    (known : ∀ id ∈ requests.flatten, id ∈ roster.ids) (mode : cls.addressing = .fetch)
    (answers : Answers lookup? 0 requests found)
    : Course cls roster lookup? requests
        { result := .ok (List.zipWith (environment cls) requests found)
          calls := requests.flatMap exchange }
        (.ok (List.zipWith (environment cls) requests found))
  /-- The containers before the first whose lookup fails are reported, and no others. -/
  | failed {before after : List (List String)} {ids : List String}
    {found : List (List PcieAddress)}
    (known : ∀ id ∈ requests.flatten, id ∈ roster.ids) (mode : cls.addressing = .fetch)
    (split : requests = before ++ ids :: after) (answers : Answers lookup? 0 before found)
    (silent : lookup? before.length ids = none)
    : Course cls roster lookup? requests
        { result := .error (.addressingInfo cls.resourceName)
          calls := before.flatMap exchange ++ [.lookup ids] }
        (.error {
          code := .internal
          message := "Failed to fetch addressing info for " ++ cls.resourceName
        })

variable {cls : DeviceClass} {roster : Roster} {lookup? : Lookup}
  {requests : List (List String)}

-----------------------------------------------------------------------------------------
-- The check of a request
-----------------------------------------------------------------------------------------

/-- A request with an id that is not in the roster is refused for the first such id. -/
theorem validate_of_unknown {before after : List String} {id : String}
    (split : requests.flatten = before ++ id :: after)
    (known : ∀ earlier ∈ before, earlier ∈ roster.ids) (unknown : id ∉ roster.ids)
    : validate cls roster requests = .error (.unknownDevice cls.resourceName id) := by
  have first : firstUnknown? roster requests = some id := by
    rw [firstUnknown?, split, List.find?_eq_some_iff_append]
    refine ⟨by simpa [← Roster.contains_iff] using unknown, before, after, rfl, ?_⟩
    intro earlier member
    simpa using Roster.contains_iff.mpr (known earlier member)
  rw [validate, first]

theorem firstUnknown?_eq_none
    : firstUnknown? roster requests = none
      ↔ ∀ id ∈ requests.flatten, id ∈ roster.ids := by
  simp only [firstUnknown?, List.find?_eq_none, Bool.not_eq_true', Bool.not_eq_false,
    Roster.contains_iff]

/-- A request passes the check if all its ids are in the roster. -/
theorem validate_of_known (known : ∀ id ∈ requests.flatten, id ∈ roster.ids)
    : validate cls roster requests = .ok () := by
  rw [validate, firstUnknown?_eq_none.mpr known]

/-- All ids of a request are in the roster, or there is a first one that is not. -/
theorem known_or_refused (roster : Roster) (requests : List (List String))
    : (∀ id ∈ requests.flatten, id ∈ roster.ids)
      ∨ ∃ before id after,
          requests.flatten = before ++ id :: after
          ∧ (∀ earlier ∈ before, earlier ∈ roster.ids)
          ∧ id ∉ roster.ids := by
  cases first : firstUnknown? roster requests with
  | none => exact Or.inl (firstUnknown?_eq_none.mp first)
  | some id =>
      obtain ⟨unknown, before, after, split, known⟩ := List.find?_eq_some_iff_append.mp first
      refine Or.inr ⟨before, id, after, split, ?_, ?_⟩
      · intro earlier member
        exact Roster.contains_iff.mp (by simpa using known earlier member)
      · rw [← Roster.contains_iff]
        simpa using unknown

-----------------------------------------------------------------------------------------
-- The service of the containers
-----------------------------------------------------------------------------------------

/-- Containers whose class fetches no addresses are all reported. -/
theorem serve_of_plain (mode : cls.addressing ≠ .fetch) (lookup? : Lookup) (position : Nat)
    (requests : List (List String))
    : serve cls lookup? position requests
      = { result := .ok (requests.map (environment cls · [])), calls := requests.map .report } := by
  induction requests generalizing position with
  | nil => rfl
  | cons ids rest ih => simp [serve, mode, makeEnvironment_eq, ih, Except.map]

/-- Containers whose lookups all succeed are all looked up and reported. -/
theorem serve_of_answers (mode : cls.addressing = .fetch) {position : Nat}
    {found : List (List PcieAddress)} (answers : Answers lookup? position requests found)
    : serve cls lookup? position requests
      = { result := .ok (List.zipWith (environment cls) requests found)
          calls := requests.flatMap exchange } := by
  induction requests generalizing position found with
  | nil =>
      cases answers
      rfl
  | cons ids rest ih =>
      rw [Answers, List.zipIdx_cons] at answers
      cases answers with
      | cons answer others =>
          simp [serve, mode, answer, makeEnvironment_eq, ih others, Except.map, exchange]

/-- The first lookup that fails ends the service: what was done for the containers before it
stays done.
-/
theorem serve_of_failure (mode : cls.addressing = .fetch) {position : Nat}
    {before : List (List String)} {found : List (List PcieAddress)}
    (answers : Answers lookup? position before found) {ids : List String}
    (silent : lookup? (position + before.length) ids = none) (after : List (List String))
    : serve cls lookup? position (before ++ ids :: after)
      = { result := .error (.addressingInfo cls.resourceName)
          calls := before.flatMap exchange ++ [.lookup ids] } := by
  induction before generalizing position found with
  | nil =>
      have here : lookup? position ids = none := silent
      simp [serve, mode, here]
  | cons first rest ih =>
      rw [Answers, List.zipIdx_cons] at answers
      rw [List.length_cons, Nat.add_comm rest.length, ← Nat.add_assoc] at silent
      cases answers with
      | cons answer others =>
          simp [serve, mode, answer, makeEnvironment_eq, ih others silent, Except.map, exchange]

/-- The lookups for some containers all succeed, or there is a first one that fails. -/
theorem answers_or_fails (lookup? : Lookup) (position : Nat) (requests : List (List String))
    : (∃ found, Answers lookup? position requests found)
      ∨ ∃ before ids after found,
          requests = before ++ ids :: after
          ∧ Answers lookup? position before found
          ∧ lookup? (position + before.length) ids = none := by
  induction requests generalizing position with
  | nil => exact Or.inl ⟨[], .nil⟩
  | cons first rest ih =>
      cases answer : lookup? position first with
      | none => exact Or.inr ⟨[], first, rest, [], rfl, .nil, answer⟩
      | some addresses =>
          rcases ih (position + 1) with ⟨found, answers⟩ | failure
          · exact Or.inl ⟨addresses :: found, .cons answer answers⟩
          · obtain ⟨before, ids, after, found, rfl, answers, silent⟩ := failure
            refine Or.inr ⟨first :: before, ids, after, addresses :: found, rfl,
              .cons answer answers, ?_⟩
            rwa [List.length_cons, Nat.add_comm before.length, ← Nat.add_assoc]

-----------------------------------------------------------------------------------------
-- Requests
-----------------------------------------------------------------------------------------

/-- What a course ends with is what the allocation comes to. -/
theorem Course.eq_allocate {outcome : Outcome} {reply : Except Status (List Environment)}
    (course : Course cls roster lookup? requests outcome reply)
    : outcome = allocate cls roster lookup? requests ∧ reply = outcome.reply := by
  cases course with
  | refused split known unknown =>
      rw [allocate, validate_of_unknown split known unknown]
      exact ⟨rfl, rfl⟩
  | plain known mode =>
      rw [allocate, validate_of_known known]
      exact ⟨(serve_of_plain mode lookup? 0 requests).symm, rfl⟩
  | fetched known mode answers =>
      rw [allocate, validate_of_known known]
      exact ⟨(serve_of_answers mode answers).symm, rfl⟩
  | failed known mode split answers silent =>
      rw [allocate, validate_of_known known, split]
      refine ⟨(serve_of_failure mode answers ?_ _).symm, rfl⟩
      rwa [Nat.zero_add]

/-- Every request takes some course. -/
theorem exists_course (cls : DeviceClass) (roster : Roster) (lookup? : Lookup)
    (requests : List (List String))
    : ∃ outcome reply, Course cls roster lookup? requests outcome reply := by
  rcases known_or_refused roster requests with known | ⟨before, id, after, split, known, unknown⟩
  · by_cases mode : cls.addressing = .fetch
    · rcases answers_or_fails lookup? 0 requests with ⟨found, answers⟩ | failure
      · exact ⟨_, _, .fetched known mode answers⟩
      · obtain ⟨before, ids, after, found, split, answers, silent⟩ := failure
        rw [Nat.zero_add] at silent
        exact ⟨_, _, .failed known mode split answers silent⟩
    · exact ⟨_, _, .plain known mode⟩
  · exact ⟨_, _, .refused split known unknown⟩

/-- A request is not refused for an unknown device exactly if the roster has all its ids. -/
theorem accepts_iff
    : (∀ resource id,
        (allocate cls roster lookup? requests).result ≠ .error (.unknownDevice resource id))
      ↔ ∀ id ∈ requests.flatten, id ∈ roster.ids := by
  obtain ⟨outcome, reply, course⟩ := exists_course cls roster lookup? requests
  rw [← course.eq_allocate.1]
  cases course with
  | refused split known unknown =>
      refine ⟨fun accepted => absurd rfl (accepted _ _), fun all => absurd (all _ ?_) unknown⟩
      simp [split]
  | plain known | fetched known | failed known =>
      exact ⟨fun _ => known, fun _ _ _ refused => by cases refused⟩

/-- A request ends in exactly one way, which depends on the class, the ids of the roster and the
answers to its lookups. The health of the devices does not matter.
-/
theorem allocate_followsCourse (cls : DeviceClass) (roster : Roster) (lookup? : Lookup)
    (requests : List (List String))
    : (∀ outcome reply,
        Course cls roster lookup? requests outcome reply
        ↔ outcome = allocate cls roster lookup? requests ∧ reply = outcome.reply)
      ∧ ∀ health : Device → Health,
          allocate cls ⟨roster.devices.map fun device => { device with health := health device }⟩
            lookup? requests
          = allocate cls roster lookup? requests := by
  constructor
  · intro outcome reply
    refine ⟨Course.eq_allocate, ?_⟩
    rintro ⟨rfl, rfl⟩
    obtain ⟨outcome, reply, course⟩ := exists_course cls roster lookup? requests
    obtain ⟨rfl, rfl⟩ := course.eq_allocate
    exact course
  · intro health
    have same : ∀ id,
        Roster.contains
          ⟨roster.devices.map fun device => { device with health := health device }⟩ id
        = roster.contains id := by
      intro id
      simp [Roster.contains, Function.comp_def]
    simp only [allocate, validate, firstUnknown?, same]

/-- When the second lookup fails, the first container stays reported, and the third is not
reached.
-/
example
    : (allocate { vendor := "v", deviceType := "t", addressing := .fetch }
        ⟨[{ id := "a", uuid := 1 }, { id := "b", uuid := 2 }]⟩
        (fun position _ => if position = 0 then some [] else none) [["a"], ["b"], []]).calls
      = [.lookup ["a"], .report ["a"], .lookup ["b"]] :=
  rfl

end NodeDevices.Allocation
