import Mathlib.Data.List.Forall2
import Mathlib.Data.List.Perm.Basic
import NodeDevices.Proofs.Assignment.Shown
import NodeDevices.Proofs.Reconciliation.Reports

/-! The kubelet's list of its pods and its checkpoint are two forms of the same knowledge. A
checkpoint that deals the ids of an entry out to NUMA nodes changes their order and nothing else,
so that the same is reported whichever of them is used.
-/

namespace NodeDevices

open Assignments

/-- An entry of a checkpoint holds what a device entry says: for the same resource the same ids,
in a flat list or dealt out to NUMA nodes in some way.
-/
structure Checkpoint.Entry.Holds (held : Checkpoint.Entry) (entry : Assignments.Entry) : Prop
    where
  resource : held.resourceName = entry.1
  ids
    : held.deviceIds = some (.flat entry.2)
      ∨ ∃ nodes,
          held.deviceIds = some (.byNumaNode nodes)
          ∧ (nodes.entries.flatMap Prod.snd).Perm entry.2

/-- A checkpoint has one entry for each device entry of some pods, in the same order. -/
def Checkpoint.Keeps (checkpoint : Checkpoint) (pods : List (List (List Assignments.Entry)))
    : Prop :=
  List.Forall₂ Entry.Holds (checkpoint.entries.getD []) pods.flatten.flatten

/-- A kubelet shows nothing but some pods and a checkpoint, at a time when it may or may not list
its pods.
-/
structure KubeletState.Shows (state : KubeletState) (files : Files) (listing : PodListing)
    (pods : List (List (List Assignments.Entry))) (checkpoint : Checkpoint) : Prop where
  file : Checkpoint.ofFile? files state.checkpointPath = some checkpoint
  listed : ∀ others, listing = .listed others → others = pods

/-- Two lists of device entries differ at most in the order of the ids within each entry. -/
def Assignments.Agree : List Assignments.Entry → List Assignments.Entry → Prop :=
  List.Forall₂ fun first second => first.1 = second.1 ∧ first.2.Perm second.2

-----------------------------------------------------------------------------------------
-- Entries that agree
-----------------------------------------------------------------------------------------

namespace Assignments

variable {first second : List Entry}

theorem Agree.refl (entries : List Entry) : Agree entries entries :=
  List.forall₂_same.mpr fun _ _ => ⟨rfl, .rfl⟩

theorem Agree.symm (agree : Agree first second) : Agree second first :=
  List.Forall₂.flip (agree.imp fun _ _ same => ⟨same.1.symm, same.2.symm⟩)

theorem Agree.trans {third : List Entry} (agree : Agree first second)
    (further : Agree second third)
    : Agree first third := by
  induction agree generalizing third with
  | nil => exact further
  | cons same _ ih =>
      cases further with
      | cons next rest => exact .cons ⟨same.1.trans next.1, same.2.trans next.2⟩ (ih rest)

theorem Agree.map_fst (agree : Agree first second)
    : first.map Prod.fst = second.map Prod.fst := by
  induction agree with
  | nil => rfl
  | cons same _ ih => rw [List.map_cons, List.map_cons, same.1, ih]

/-- Entries that agree give a resource the same ids. -/
theorem Agree.idsOf_perm (agree : Agree first second) (resource : String)
    : (idsOf first resource).Perm (idsOf second resource) := by
  induction agree with
  | nil => exact .rfl
  | cons same _ ih =>
      rw [idsOf_cons, idsOf_cons, same.1]
      refine List.Perm.append ?_ ih
      split
      · exact same.2
      · exact .rfl

theorem Agree.names_aggregate (agree : Agree first second)
    : (aggregate first).names = (aggregate second).names := by
  refine Dictionary.names_eq_of_mem_iff fun resource => ?_
  rw [mem_names_aggregate, mem_names_aggregate, agree.map_fst]

/-- Entries that agree give each resource the same ids when they are joined. -/
theorem Agree.find?_perm (agree : Agree first second) (resource : String)
    : (((aggregate first).find? resource).getD []).Perm
        (((aggregate second).find? resource).getD []) := by
  rw [find?_aggregate, find?_aggregate, agree.map_fst]
  split
  · exact agree.idsOf_perm resource
  · exact .rfl

/-- A flat checkpoint lists what its entries hold, and any other agrees with it. -/
theorem listing_agree {checkpoint : Checkpoint} {pods : List (List (List Entry))}
    (keeps : checkpoint.Keeps pods)
    : Agree checkpoint.listing pods.flatten.flatten := by
  rw [Agree, Checkpoint.listing, List.forall₂_map_left_iff]
  refine keeps.imp fun held entry holds => ⟨holds.resource, ?_⟩
  rcases holds.ids with flat | ⟨nodes, dealt, perm⟩
  · rw [flat]
    exact .rfl
  · rw [dealt]
    exact perm

theorem listing_eq_of_flat {checkpoint : Checkpoint} {pods : List (List (List Entry))}
    (keeps : checkpoint.Keeps pods)
    (flat : ∀ held ∈ checkpoint.entries.getD [], ∃ ids, held.deviceIds = some (.flat ids))
    : checkpoint.listing = pods.flatten.flatten := by
  rw [Checkpoint.Keeps] at keeps
  rw [Checkpoint.listing]
  generalize checkpoint.entries.getD [] = kept at keeps flat ⊢
  generalize pods.flatten.flatten = entries at keeps ⊢
  induction keeps with
  | nil => rfl
  | cons holds _ ih =>
      obtain ⟨⟨ids, own⟩, others⟩ := List.forall_mem_cons.mp flat
      rw [List.map_cons, ih others]
      rcases holds.ids with same | ⟨nodes, dealt, _⟩
      · rw [same, holds.resource]
        rfl
      · cases own.symm.trans dealt

/-- What a kubelet publishes agrees with the pods, whichever of its sources is used. -/
theorem exists_agree_of_shows {state : KubeletState} {files : Files} {listing : PodListing}
    {pods : List (List (List Entry))} {checkpoint : Checkpoint}
    (keeps : checkpoint.Keeps pods) (shows : state.Shows files listing pods checkpoint)
    : ∃ entries,
        state.assignments files listing = .ok (aggregate entries)
        ∧ Agree entries pods.flatten.flatten := by
  have used : state.entries? files listing = some pods.flatten.flatten
      ∨ state.entries? files listing = some checkpoint.listing := by
    unfold KubeletState.entries?
    split
    · next others _ => exact Or.inl (by rw [shows.listed others rfl])
    · exact Or.inr (by rw [shows.file]; rfl)
  have given (entries : List Entry) (shown : state.entries? files listing = some entries)
      : state.assignments files listing = .ok (aggregate entries) := by
    have published := state.toOption_assignments files listing
    rw [shown] at published
    cases source : state.assignments files listing with
    | ok assignments =>
        rw [source] at published
        exact congrArg Except.ok (Option.some.inj published)
    | error reason =>
        rw [source] at published
        cases published
  rcases used with shown | shown
  · exact ⟨_, given _ shown, .refl _⟩
  · exact ⟨_, given _ shown, listing_agree keeps⟩

-----------------------------------------------------------------------------------------
-- Plans of entries that agree
-----------------------------------------------------------------------------------------

/-- Entries that agree have the same resources reported by themselves. -/
theorem Agree.individual (agree : Agree first second) (marker : String)
    : (Reconciliation.plan (aggregate first) marker).individual.map Prod.fst
      = (Reconciliation.plan (aggregate second) marker).individual.map Prod.fst := by
  rw [Reconciliation.plan_aggregate, Reconciliation.plan_aggregate, agree.names_aggregate]
  simp only [List.map_map, Function.comp_def]

/-- Entries that agree lead to as many reports, each with the same ids. -/
theorem Agree.reports (agree : Agree first second) (marker : String)
    : List.Forall₂ List.Perm (Reconciliation.plan (aggregate first) marker).reports
        (Reconciliation.plan (aggregate second) marker).reports := by
  have batch (resources : List String)
      : (resources.flatMap (idsOf first)).Perm (resources.flatMap (idsOf second)) :=
    List.Perm.flatMap_left resources fun resource _ => agree.idsOf_perm resource
  rw [Reconciliation.reports_eq, Reconciliation.reports_eq, Reconciliation.plan_aggregate,
    Reconciliation.plan_aggregate, agree.names_aggregate]
  refine List.rel_append ?_ ?_
  · simp only [List.map_map, Function.comp_def]
    rw [List.forall₂_map_left_iff, List.forall₂_map_right_iff]
    exact List.forall₂_same.mpr fun resource _ => agree.idsOf_perm resource
  · dsimp only
    generalize (aggregate second).names.filter (¬ Reconciliation.Marked marker ·) = others
    have same := batch others
    by_cases empty : others.flatMap (idsOf first) = []
    · have none : others.flatMap (idsOf second) = [] := by
        rw [empty] at same
        exact same.nil_eq.symm
      simp [empty, none]
    · have some : others.flatMap (idsOf second) ≠ [] := by
        intro none
        rw [none] at same
        exact empty same.eq_nil
      simp [empty, some, same]

/-- A checkpoint that keeps the entries of some pods gives the same resources as they do, with
the same ids in the same order if its lists are flat, and in some order otherwise. Whichever of
the two a round uses, the same resources are reported by themselves, and the same ids in each
report.
-/
theorem checkpoint_agreesWithPods {pods : List (List (List Entry))} {checkpoint : Checkpoint}
    (keeps : checkpoint.Keeps pods)
    : checkpoint.assignments.names = (ofPods pods).names
      ∧ (∀ resource,
          ((checkpoint.assignments.find? resource).getD []).Perm
            (((ofPods pods).find? resource).getD []))
      ∧ ((∀ held ∈ checkpoint.entries.getD [], ∃ ids, held.deviceIds = some (.flat ids))
          → checkpoint.assignments = ofPods pods)
      ∧ ∀ (marker : String) (state : KubeletState) (files later : Files)
          (listing afterwards : PodListing),
          state.Shows files listing pods checkpoint
          → state.Shows later afterwards pods checkpoint
          → ∃ given other,
              state.assignments files listing = .ok given
              ∧ state.assignments later afterwards = .ok other
              ∧ (Reconciliation.plan given marker).individual.map Prod.fst
                = (Reconciliation.plan other marker).individual.map Prod.fst
              ∧ List.Forall₂ List.Perm (Reconciliation.plan given marker).reports
                  (Reconciliation.plan other marker).reports := by
  have agree : Agree checkpoint.listing pods.flatten.flatten := listing_agree keeps
  refine ⟨agree.names_aggregate, agree.find?_perm, ?_, ?_⟩
  · intro flat
    exact congrArg aggregate (listing_eq_of_flat keeps flat)
  · intro marker state files later listing afterwards shows showsLater
    obtain ⟨entries, given, near⟩ := exists_agree_of_shows keeps shows
    obtain ⟨others, other, far⟩ := exists_agree_of_shows keeps showsLater
    have both : Agree entries others := near.trans far.symm
    exact ⟨_, _, given, other, both.individual marker, both.reports marker⟩

/-- A container holds two devices, of which the checkpoint names the second one first, since its
node comes first. The kubelet lists its pods at one time and does not answer at another.
-/
theorem checkpoint_agreesWithPods_of_numaNodes
    : let pods : List (List (List Entry)) := [[[("r", ["a", "b"])]]]
      let checkpoint : Checkpoint := {
        entries := some [{
          podUid := "1"
          containerName := "m"
          resourceName := "r"
          deviceIds := some (.byNumaNode (.ofList [("1", ["a"]), ("0", ["b"])]))
        }]
      }
      let state : KubeletState := { podResourcesSocket := "s", checkpointPath := "c" }
      let files : Files := {
        kinds := [.directory, .socket, .regular checkpoint.toJson.render.toUTF8.data.toList]
        entries := [⟨0, "s", 1⟩, ⟨0, "c", 2⟩]
      }
      checkpoint.Keeps pods
      ∧ state.Shows files (.listed pods) pods checkpoint
      ∧ state.Shows files .silent pods checkpoint
      ∧ ∃ given other,
          state.assignments files (.listed pods) = .ok given
          ∧ state.assignments files .silent = .ok other
          ∧ (Reconciliation.plan given "4J5").individual.map Prod.fst
            = (Reconciliation.plan other "4J5").individual.map Prod.fst
          ∧ List.Forall₂ List.Perm (Reconciliation.plan given "4J5").reports
              (Reconciliation.plan other "4J5").reports := by
  intro pods checkpoint state files
  have read : Checkpoint.ofFile? files "c" = some checkpoint := by decide +kernel
  have keeps : checkpoint.Keeps pods :=
    .cons ⟨rfl, Or.inr ⟨_, rfl, by decide⟩⟩ .nil
  have listed : state.Shows files (.listed pods) pods checkpoint :=
    ⟨read, fun _ same => (PodListing.listed.inj same).symm⟩
  have silent : state.Shows files .silent pods checkpoint := ⟨read, fun _ same => nomatch same⟩
  exact ⟨keeps, listed, silent,
    (checkpoint_agreesWithPods keeps).2.2.2 "4J5" state files files _ _ listed silent⟩

end Assignments

end NodeDevices
