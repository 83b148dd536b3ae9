import Mathlib.Data.List.Destutter
import NodeDevices.Proofs.Roster

/-! What a monitor makes of the answers to its probes. For each device the events are its results
without those that repeat the one before, and all events come in the order of the probes.
-/

namespace NodeDevices.Health

/-- What the answer to a device's probe says, as the event that it is if it is a change. -/
def resultOf (answer : String × Bool) : Event :=
  ⟨answer.1, ofProbe answer.2⟩

/-- The healths that events bring to a device, one after another. -/
def healthsOf (id : String) (events : List Event) : List Health :=
  (events.filter (·.id = id)).map Event.health

theorem healthsOf_cons_of_eq {id : String} {event : Event} (same : event.id = id)
    (rest : List Event)
    : healthsOf id (event :: rest) = event.health :: healthsOf id rest := by
  simp [healthsOf, same]

theorem healthsOf_cons_of_ne {id : String} {event : Event} (other : event.id ≠ id)
    (rest : List Event)
    : healthsOf id (event :: rest) = healthsOf id rest := by
  simp [healthsOf, other]

namespace Monitor

/-- What a monitor takes the health of a device for. -/
def known (monitor : Monitor) (id : String) : Health :=
  (monitor.lastObserved.find? id).getD .healthy

/-- The answers to probes that are changes to what a monitor knew before any of them. -/
def changesAmong (monitor : Monitor) (answers : List (String × Bool)) : List Event :=
  (answers.map resultOf).filter fun result => monitor.known result.id ≠ result.health

variable {monitor : Monitor} {roster : Roster} {id : String} {health : Health}

-----------------------------------------------------------------------------------------
-- One probe
-----------------------------------------------------------------------------------------

/-- An event is sent for a result that is not known. -/
theorem toList_observe
    : (monitor.observe id health).1.toList
      = if monitor.known id = health then [] else [⟨id, health⟩] := by
  change (if monitor.known id = health then none else some (⟨id, health⟩ : Event)).toList = _
  split <;> rfl

/-- A result is known afterwards, and the other devices are known as before. -/
theorem known_observe (other : String)
    : (monitor.observe id health).2.known other
      = if other = id then health else monitor.known other := by
  simp only [known, observe, Dictionary.find?_insert]
  split <;> rfl

theorem mem_names_observe {other : String}
    : other ∈ (monitor.observe id health).2.lastObserved.names
      ↔ other = id ∨ other ∈ monitor.lastObserved.names :=
  Dictionary.mem_names_alter

/-- The monitor has observed the health that a roster has. -/
def Knows (monitor : Monitor) (roster : Roster) : Prop :=
  ∀ id, monitor.lastObserved.find? id = roster.health? id

/-- A new monitor knows its roster. -/
theorem ofRoster_knows (distinct : roster.ids.Nodup) : (ofRoster roster).Knows roster := by
  intro id
  rw [Roster.health?_eq_lookup]
  exact Dictionary.find?_ofList (by rwa [Roster.map_fst_healthView]) id

/-- A monitor that knows a roster sends no event but for a change, and then knows what the
event leaves.
-/
theorem Knows.observe (knows : monitor.Knows roster) {id : String} (member : id ∈ roster.ids)
    (health : Health)
    : roster.AllChange (monitor.observe id health).1.toList
      ∧ (monitor.observe id health).2.Knows
          (roster.replay (monitor.observe id health).1.toList) := by
  obtain ⟨before, known⟩ := Option.isSome_iff_exists.mp (Roster.health?_isSome_iff.mpr member)
  have previous : (monitor.lastObserved.find? id).getD .healthy = before := by
    rw [knows, known]
    rfl
  by_cases same : before = health
  · have silent : (monitor.observe id health).1 = none := by
      simp [Monitor.observe, previous, same]
    rw [silent]
    refine ⟨trivial, ?_⟩
    intro other
    simp only [Monitor.observe, Dictionary.find?_insert, Option.toList_none, Roster.replay_nil]
    split
    · next equal => rw [equal, known, same]
    · exact knows other
  · have told : (monitor.observe id health).1 = some ⟨id, health⟩ := by
      simp [Monitor.observe, previous, same]
    have change : roster.ChangedBy ⟨id, health⟩ := ⟨before, known, same⟩
    rw [told]
    refine ⟨⟨change, trivial⟩, ?_⟩
    intro other
    simp only [Monitor.observe, Dictionary.find?_insert, Option.toList_some, Roster.replay_cons,
      Roster.replay_nil, change.setHealth]
    split
    · rfl
    · exact knows other

/-- A new monitor takes a device's health for what it is. -/
theorem known_ofRoster (distinct : roster.ids.Nodup) {device : Device}
    (member : device ∈ roster.devices)
    : (ofRoster roster).known device.id = device.health := by
  rw [known, ofRoster_knows distinct, Roster.health?_of_mem distinct member, Option.getD_some]

/-- A new monitor has observed the devices of its roster, and no others. -/
theorem mem_names_ofRoster (distinct : roster.ids.Nodup) (id : String)
    : id ∈ (ofRoster roster).lastObserved.names ↔ id ∈ roster.ids := by
  rw [← Dictionary.find?_isSome_iff, ofRoster_knows distinct, Roster.health?_isSome_iff]

-----------------------------------------------------------------------------------------
-- One probe after another
-----------------------------------------------------------------------------------------

theorem poll_cons (answer : String × Bool) (rest : List (String × Bool))
    : monitor.poll (answer :: rest)
      = let (event, observed) := monitor.observe answer.1 (ofProbe answer.2)
        (event.toList ++ (observed.poll rest).1, (observed.poll rest).2) :=
  rfl

/-- Further answers are taken in by the monitor that the first ones leave. -/
theorem poll_append (first second : List (String × Bool))
    : monitor.poll (first ++ second)
      = ((monitor.poll first).1 ++ ((monitor.poll first).2.poll second).1,
          ((monitor.poll first).2.poll second).2) := by
  induction first generalizing monitor with
  | nil => rfl
  | cons answer rest ih => simp only [List.cons_append, poll_cons, ih, List.append_assoc]

/-- The events of a device are its results without those that repeat the one before, where what
was known of it stands before all.
-/
theorem healthsOf_poll (id : String) (answers : List (String × Bool))
    : monitor.known id :: healthsOf id (monitor.poll answers).1
      = (healthsOf id (answers.map resultOf)).destutter' (· ≠ ·) (monitor.known id) := by
  induction answers generalizing monitor with
  | nil => rfl
  | cons answer rest ih =>
      have later := @ih (monitor.observe answer.1 (ofProbe answer.2)).2
      rw [known_observe] at later
      rw [poll_cons, List.map_cons]
      dsimp only
      rw [toList_observe]
      by_cases mine : answer.1 = id
      · subst mine
        rw [if_pos rfl] at later
        have first : healthsOf answer.1 (resultOf answer :: rest.map resultOf)
            = ofProbe answer.2 :: healthsOf answer.1 (rest.map resultOf) :=
          healthsOf_cons_of_eq rfl _
        rw [first]
        by_cases same : monitor.known answer.1 = ofProbe answer.2
        · rw [if_pos same, List.nil_append, List.destutter'_cons_neg _ (not_not.mpr same), same]
          exact later
        · have sent : (⟨answer.1, ofProbe answer.2⟩ : Event).id = answer.1 := rfl
          rw [if_neg same, List.singleton_append, healthsOf_cons_of_eq sent,
            List.destutter'_cons_pos _ same]
          exact congrArg _ later
      · rw [if_neg (Ne.symm mine)] at later
        rw [healthsOf_cons_of_ne mine]
        split
        · exact later
        · rwa [List.singleton_append, healthsOf_cons_of_ne mine]

/-- The events are among the results, in their order. -/
theorem poll_sublist (answers : List (String × Bool))
    : (monitor.poll answers).1.Sublist (answers.map resultOf) := by
  induction answers generalizing monitor with
  | nil => exact List.Sublist.slnil
  | cons answer rest ih =>
      rw [poll_cons, List.map_cons, ← List.singleton_append]
      refine List.Sublist.append ?_ ih
      rw [toList_observe]
      split
      · exact List.nil_sublist _
      · exact List.Sublist.refl _

/-- When each device is probed once, the events are the changes to what was known before. -/
theorem poll_fst_of_nodup {answers : List (String × Bool)}
    (distinct : (answers.map Prod.fst).Nodup)
    : (monitor.poll answers).1 = monitor.changesAmong answers := by
  induction answers generalizing monitor with
  | nil => rfl
  | cons answer rest ih =>
      obtain ⟨fresh, tail⟩ := List.nodup_cons.mp distinct
      have unmoved : (monitor.observe answer.1 (ofProbe answer.2)).2.changesAmong rest
          = monitor.changesAmong rest := by
        refine List.filter_congr fun result member => ?_
        obtain ⟨later, among, rfl⟩ := List.mem_map.mp member
        have other : later.1 ≠ answer.1 := fun same => fresh (same ▸ List.mem_map_of_mem among)
        rw [known_observe, resultOf, if_neg other]
      rw [poll_cons]
      dsimp only
      rw [ih tail, unmoved, toList_observe, changesAmong, changesAmong, List.map_cons,
        List.filter_cons]
      simp only [resultOf]
      by_cases same : monitor.known answer.1 = ofProbe answer.2 <;> simp [same]

/-- A monitor that has observed some devices goes on observing no others. -/
theorem mem_names_poll {ids : List String} {answers : List (String × Bool)}
    (probed : ∀ answer ∈ answers, answer.1 ∈ ids)
    (covers : ∀ id, id ∈ monitor.lastObserved.names ↔ id ∈ ids)
    : ∀ id, id ∈ (monitor.poll answers).2.lastObserved.names ↔ id ∈ ids := by
  induction answers generalizing monitor with
  | nil => exact covers
  | cons answer rest ih =>
      rw [poll_cons]
      apply ih fun later member => probed later (List.mem_cons_of_mem _ member)
      intro id
      rw [mem_names_observe, covers]
      refine or_iff_right_of_imp ?_
      rintro rfl
      exact probed answer List.mem_cons_self

end Monitor

end NodeDevices.Health
