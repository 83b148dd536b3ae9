import Mathlib.Algebra.Group.Nat.Even
import NodeDevices.Proofs.Session.Monitored

/-! Where stored health comes to when a session with a monitor has received everything that is
left in its channel. A monitor tells of changes only, and never twice: stored health is what the
monitor observed last unless an odd number of a device's changes was lost in a row.
-/

namespace NodeDevices

open Health (Event Channel)

/-- A health that changed is a certain one exactly if it was not before, as there are two. -/
theorem Health.eq_iff_ne_of_ne {before after : Health} (change : before ≠ after)
    {health : Health}
    : after = health ↔ ¬ before = health := by
  cases before <;> cases after <;> cases health <;> simp_all

namespace Session

/-- The number of a device's events that were overwritten since one of them was received. -/
def lostSince (id : String) (departed : List (Event × Channel.Departure)) : Nat :=
  departed.foldl (fun lost entry =>
    if entry.1.id = id then
      match entry.2 with
      | .received => 0
      | .overwritten => lost + 1
    else lost) 0

/-- The last departure decides whether the lost events are counted anew, on or not at all. -/
theorem lostSince_append (id : String) (departed : List (Event × Channel.Departure)) (event : Event)
    (departure : Channel.Departure)
    : lostSince id (departed ++ [(event, departure)])
      = if event.id = id then
          match departure with
          | .received => 0
          | .overwritten => lostSince id departed + 1
        else lostSince id departed := by
  simp [lostSince]

/-- Nothing is lost where nothing was overwritten. -/
theorem lostSince_of_received (id : String) {departed : List (Event × Channel.Departure)}
    (kept : ∀ entry ∈ departed, entry.2 = .received)
    : lostSince id departed = 0 := by
  induction departed using List.reverseRecOn with
  | nil => rfl
  | append_singleton departed entry ih =>
      obtain ⟨event, departure⟩ := entry
      have last : departure = .received := kept (event, departure) (by simp)
      have before := ih fun entry member => kept entry (List.mem_append_left _ member)
      rw [lostSince_append, last, before]
      split <;> rfl

/-- When each event brings a change, leaving out those that were lost comes to the same health
at an id exactly if an even number was lost since one was received. Each loss is a change, and
of two healths the second change goes back to the first.
-/
theorem health?_replay_received_iff {roster : Roster} {id : String} (member : id ∈ roster.ids)
    {departed : List (Event × Channel.Departure)}
    (changes : roster.AllChange (departed.map Prod.fst))
    : (roster.replay (departed.map Prod.fst)).health? id
        = (roster.replay ((departed.filter (·.2 = .received)).map Prod.fst)).health? id
      ↔ Even (lostSince id departed) := by
  induction departed using List.reverseRecOn with
  | nil => simp [lostSince]
  | append_singleton departed entry ih =>
      obtain ⟨event, departure⟩ := entry
      rw [List.map_append, Roster.allChange_append] at changes
      obtain ⟨before, change, _⟩ := changes
      have ih := ih before
      have told := change.setHealth id
      obtain ⟨old, known, other⟩ := change
      obtain ⟨stored, holds⟩ : ∃ stored,
          (roster.replay ((departed.filter (·.2 = .received)).map Prod.fst)).health? id
          = some stored := by
        rw [← Option.isSome_iff_exists, Roster.health?_isSome_iff, Roster.ids_replay]
        exact member
      rw [lostSince_append, List.map_append, Roster.replay_append, List.filter_append,
        List.map_append, Roster.replay_append]
      simp only [List.map_cons, List.map_nil, Roster.replay_cons, Roster.replay_nil, told]
      cases departure with
      | received =>
          simp only [List.filter_cons, List.filter_nil, decide_true, if_true, List.map_cons,
            List.map_nil, Roster.replay_cons, Roster.replay_nil, Roster.health?_setHealth]
          by_cases same : id = event.id
          · subst same
            rw [if_pos rfl, if_pos rfl, if_pos rfl, holds]
            exact iff_of_true rfl Even.zero
          · simpa only [if_neg same, if_neg (Ne.symm same)] using ih
      | overwritten =>
          simp only [List.filter_cons, List.filter_nil, reduceCtorEq, decide_false,
            Bool.false_eq_true, if_false, List.map_nil, Roster.replay_nil]
          by_cases same : id = event.id
          · subst same
            rw [known, holds, Option.some.injEq] at ih
            rw [if_pos rfl, if_pos rfl, holds, Option.some.injEq, Nat.even_add_one, ← ih]
            exact Health.eq_iff_ne_of_ne other
          · simpa only [if_neg same, if_neg (Ne.symm same)] using ih

namespace Monitored

/-- What may happen to two devices: a change of one is followed by as many changes of the other
as the channel holds, before a stream is opened and receives them.
-/
def flood : List Action :=
  .probe 1 false :: (List.range Channel.capacity).map (fun time => .probe 0 (time % 2 = 1))
    ++ [.act .watch, .act (.look 0), .act (.look 0), .act (.begin 0), .act (.take 0),
      .act (.receive 0)]
    ++ (List.replicate Channel.capacity
      [.act (.receive 0), .act (.store 0), .act (.push 0), .act (.read 0)]).flatten

/-- Once everything left in the channel has been received and stored, the list that the holder
of the reader pushed last, or is about to push, is the current one, and the health of a device
is what the monitor observed last exactly if an even number of its events was overwritten since
one was received. That is so for every device if the channel never came to more events than it
holds.
-/
theorem run_convergesIffEvenlyLost (devices : List Device) (actions : List Action)
    : let monitored := run (.ofList devices) actions
      let session := monitored.chronicle.session
      let history := monitored.chronicle.history
      session.Drained
      → (∀ number stream,
          session.streams[number]? = some stream
          → (stream.phase = .reading
              → (history.pushedOn number).getLast? = some session.roster.healthView)
            ∧ ∀ list, stream.phase = .pushing list → list = session.roster.healthView)
        ∧ (∀ device ∈ session.roster.devices,
            monitored.monitor.lastObserved.find? device.id = some device.health
            ↔ Even (lostSince device.id history.departed))
        ∧ (history.peak ≤ Channel.capacity
          → ∀ device ∈ session.roster.devices,
              monitored.monitor.lastObserved.find? device.id = some device.health) := by
  intro monitored session history drained
  have distinct := Roster.nodup_ids_ofList devices
  have faithful := run_faithful distinct actions
  obtain ⟨taken, followed⟩ := exists_run (.ofList devices) actions
  have truthful := followed ▸ Chronicle.run_truthful (.ofList devices) taken
  have accounts := followed ▸ Chronicle.run_accounted (.ofList devices) taken
  obtain ⟨stored, sent, _⟩ := accounts.drained drained
  have parity : ∀ device ∈ session.roster.devices,
      monitored.monitor.lastObserved.find? device.id = some device.health
      ↔ Even (lostSince device.id history.departed) := by
    intro device member
    have own : session.roster.health? device.id = some device.health :=
      Roster.health?_of_mem (truthful.ids_eq ▸ distinct) member
    have known : device.id ∈ (Roster.ofList devices).ids := by
      rw [← truthful.ids_eq]
      exact List.mem_map_of_mem member
    have changes := faithful.changes
    rw [sent] at changes
    rw [← health?_replay_received_iff known changes, ← sent, faithful.knows, ← own,
      truthful.replayed, stored]
    rfl
  refine ⟨?_, parity, ?_⟩
  · intro number stream found
    exact ⟨truthful.pushed_of_reading found, fun list => truthful.eq_of_pushing found⟩
  · intro room device member
    have kept : history.overwritten = [] := accounts.peak.mpr room
    rw [parity device member, lostSince_of_received device.id
      (Channel.Traffic.departure_of_not_overwritten kept)]
    exact Even.zero

/-- Of the two devices the one whose change was lost is the one with an odd number. -/
theorem run_convergesIffEvenlyLost_of_flood
    : let monitored := run (.ofList [{ id := "a", uuid := 1 }, { id := "b", uuid := 2 }]) flood
      let session := monitored.chronicle.session
      session.Drained
      ∧ ∀ device ∈ session.roster.devices,
          monitored.monitor.lastObserved.find? device.id = some device.health
          ↔ Even (lostSince device.id monitored.chronicle.history.departed) := by
  have drained : (run (.ofList [{ id := "a", uuid := 1 }, { id := "b", uuid := 2 }])
      flood).chronicle.session.Drained := by decide +kernel
  exact ⟨drained, (run_convergesIffEvenlyLost _ flood drained).2.1⟩

/-- A change that was overwritten may never be made up for: a stream that has received all that
is left, and waits, can have a device that the monitor found to be something else.
-/
theorem not_run_converges
    : ¬ ∀ (devices : List Device) (actions : List Action),
        let monitored := run (.ofList devices) actions
        let session := monitored.chronicle.session
        session.Drained
        → (∃ stream ∈ session.streams, stream.phase = .reading)
        → ∀ device ∈ session.roster.devices,
            monitored.monitor.lastObserved.find? device.id = some device.health := by
  intro converges
  have drained : (run (.ofList [{ id := "a", uuid := 1 }, { id := "b", uuid := 2 }])
      flood).chronicle.session.Drained := by decide +kernel
  have agrees := converges _ flood drained (by decide +kernel)
  revert agrees
  decide +kernel

end Monitored

end Session

end NodeDevices
