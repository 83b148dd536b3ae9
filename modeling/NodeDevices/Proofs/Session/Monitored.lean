import NodeDevices.Proofs.Health.Observation
import NodeDevices.Proofs.Session.Changes
import NodeDevices.Proofs.Session.Clients

/-! Sessions whose events come from a monitor that probes one device after another, while the
streams go on in between. What the monitor observed last is what its events come to.
-/

namespace NodeDevices

open Health (Event Monitor)

namespace Session

/-- The action is not to send an event. -/
def Action.Silent (action : Action) : Prop :=
  ∀ event, action ≠ .send event

/-- A session with its history, and the monitor of its devices. -/
structure Monitored where
  chronicle : Chronicle
  monitor : Monitor
  deriving DecidableEq

/-- Something that happens in a session with a monitor. -/
inductive Monitored.Action where
  /-- A probe of the device at a position is answered. -/
  | probe (position : Nat) (answer : Bool)
  /-- Something else happens. -/
  | act (action : Session.Action)
  deriving DecidableEq, Repr

namespace Monitored

/-- Performs an action, if it can happen. The monitor sends the event of a probe at once, and
nobody else sends any.
-/
def perform (monitored : Monitored) : Action → Monitored
  | .probe position answer =>
      let session := monitored.chronicle.session
      match session.roster.devices[position]? with
      | some device =>
          if session.channel.closed then monitored
          else
            let (event, monitor) := monitored.monitor.observe device.id (.ofProbe answer)
            { chronicle := (event.toList.map .send).foldl Chronicle.perform monitored.chronicle
              monitor }
      | none => monitored
  | .act (.send _) => monitored
  | .act action => { monitored with chronicle := monitored.chronicle.perform action }

/-- What is not sent happens in the session as it would without a monitor. -/
theorem perform_silent {action : Session.Action} (silent : action.Silent) (monitored : Monitored)
    : monitored.perform (.act action)
      = { monitored with chronicle := monitored.chronicle.perform action } := by
  cases action with
  | send event => exact absurd rfl (silent event)
  | _ => rfl

/-- A monitored session of a roster from its beginning, after the actions that could happen. -/
def run (roster : Roster) (actions : List Action) : Monitored :=
  actions.foldl perform {
    chronicle := { session := { roster } }
    monitor := .ofRoster roster
  }

/-- A monitored run goes on from where it is. -/
theorem run_append (roster : Roster) (actions later : List Action)
    : run roster (actions ++ later) = later.foldl perform (run roster actions) :=
  List.foldl_append

/-- To its session a monitor is somebody who sends events. -/
theorem exists_foldl_perform (monitored : Monitored) (actions : List Action)
    : ∃ taken : List Session.Action,
        (actions.foldl perform monitored).chronicle
        = taken.foldl Chronicle.perform monitored.chronicle := by
  induction actions generalizing monitored with
  | nil => exact ⟨[], rfl⟩
  | cons action rest ih =>
      obtain ⟨later, followed⟩ := ih (monitored.perform action)
      have first : ∃ taken : List Session.Action,
          (monitored.perform action).chronicle
          = taken.foldl Chronicle.perform monitored.chronicle := by
        unfold perform
        split
        · dsimp only
          split
          · split
            · exact ⟨[], rfl⟩
            · exact ⟨_, rfl⟩
          · exact ⟨[], rfl⟩
        · exact ⟨[], rfl⟩
        · next action _ => exact ⟨[action], rfl⟩
      obtain ⟨taken, step⟩ := first
      refine ⟨taken ++ later, ?_⟩
      rw [List.foldl_cons, followed, step, List.foldl_append]

/-- The session of a monitored run has run by itself. -/
theorem exists_run (roster : Roster) (actions : List Action)
    : ∃ taken, (run roster actions).chronicle = Chronicle.run roster taken :=
  exists_foldl_perform _ actions

-----------------------------------------------------------------------------------------
-- What a monitor knows
-----------------------------------------------------------------------------------------

/-- The monitor has observed what its events come to, and sent them for changes only. -/
structure Faithful (roster : Roster) (monitored : Monitored) : Prop where
  knows : monitored.monitor.Knows (roster.replay monitored.chronicle.history.sent)
  changes : roster.AllChange monitored.chronicle.history.sent

variable {roster : Roster} {monitored : Monitored}

/-- Events that are sent one after another are added to those sent before, and nothing else
comes of it to the roster or to the end of the channel.
-/
theorem foldl_send {chronicle : Chronicle}
    (accepted : chronicle.session.channel.closed = false) (events : List Event)
    : let after := (events.map Session.Action.send).foldl Chronicle.perform chronicle
      after.history.sent = chronicle.history.sent ++ events
      ∧ after.session.roster = chronicle.session.roster
      ∧ after.session.channel.closed = false := by
  induction events generalizing chronicle with
  | nil => exact ⟨(List.append_nil _).symm, rfl, accepted⟩
  | cons event rest ih =>
      have stays : (chronicle.session.channel.send event).closed = false := by
        rw [← accepted, Health.Channel.send]
        split <;> rfl
      rw [List.map_cons, List.foldl_cons]
      simp only [Chronicle.perform, step?, accepted, Bool.false_eq_true, if_false]
      refine ⟨(ih stays).1.trans ?_, (ih stays).2⟩
      simp [History.record, Health.Channel.Traffic.send]

/-- Nothing is sent but by the monitor. -/
theorem sent_perform {chronicle : Chronicle} {action : Session.Action} (silent : action.Silent)
    : (chronicle.perform action).history.sent = chronicle.history.sent := by
  unfold Chronicle.perform
  split
  · cases action with
    | send event => exact absurd rfl (silent event)
    | receive => exact Health.Channel.Traffic.sent_receive _ _
    | _ => rfl
  · rfl

/-- A monitor stays faithful, as its events are exactly the changes that it observes. -/
theorem Faithful.perform (h : monitored.Faithful roster)
    (ids : monitored.chronicle.session.roster.ids = roster.ids) (action : Action)
    : (monitored.perform action).Faithful roster := by
  cases action with
  | act action =>
      by_cases silent : action.Silent
      · have same : (monitored.chronicle.perform action).history.sent
            = monitored.chronicle.history.sent := sent_perform silent
        rw [perform_silent silent]
        exact { knows := same ▸ h.knows, changes := same ▸ h.changes }
      · obtain ⟨event, sends⟩ := not_forall.mp silent
        rw [not_not.mp sends]
        exact h
  | probe position answer =>
      unfold Monitored.perform
      dsimp only
      split
      · next device found =>
          split
          · exact h
          · next accepted =>
              have member : device.id ∈ (roster.replay monitored.chronicle.history.sent).ids := by
                rw [Roster.ids_replay, ← ids]
                exact List.mem_map_of_mem (List.mem_of_getElem? found)
              obtain ⟨changes, knows⟩ := h.knows.observe member (.ofProbe answer)
              have sent := (foldl_send (Bool.eq_false_iff.mpr accepted)
                (monitored.monitor.observe device.id (.ofProbe answer)).1.toList).1
              constructor
              · rw [sent, Roster.replay_append]
                exact knows
              · rw [sent, Roster.allChange_append]
                exact ⟨h.changes, changes⟩
      · exact h

/-- In every monitored run the monitor is faithful. -/
theorem run_faithful (distinct : roster.ids.Nodup) (actions : List Action)
    : (run roster actions).Faithful roster := by
  induction actions using List.reverseRecOn with
  | nil => exact { knows := Monitor.ofRoster_knows distinct, changes := trivial }
  | append_singleton actions action ih =>
      obtain ⟨taken, followed⟩ := exists_run roster actions
      rw [run_append]
      have ids := (Chronicle.run_truthful roster taken).ids_eq
      exact ih.perform (followed ▸ ids) action

/-- Every list that is pushed names the devices of the roster in order, and the holder of the
reader has pushed the current list before it waits for an event; a client takes the lists that
are pushed on its stream in their order, up to those that are left for it. While a monitor sends
the events, and none is lost, no list is pushed twice in a row on a stream, and the next list
after an event is what was true before but for the event's device.
-/
theorem run_pushesEachChange (devices : List Device)
    : (∀ actions,
        let chronicle := Chronicle.run (.ofList devices) actions
        (∀ number, ∀ list ∈ chronicle.history.pushedOn number,
          list.map Prod.fst = (Roster.ofList devices).ids)
        ∧ (∀ number stream,
            chronicle.session.streams[number]? = some stream
            → stream.phase = .reading
            → (chronicle.history.pushedOn number).getLast?
              = some chronicle.session.roster.healthView)
        ∧ ∀ number stream,
            chronicle.session.streams[number]? = some stream
            → chronicle.history.pushedOn number
                = chronicle.history.takenOn number ++ stream.buffer
              ∧ stream.buffer.length ≤ Stream.capacity)
      ∧ ∀ actions,
          let chronicle := (run (.ofList devices) actions).chronicle
          chronicle.history.overwritten = []
          → (∀ number, (chronicle.history.pushedOn number).IsChain (· ≠ ·))
            ∧ ∀ number stream event,
                chronicle.session.streams[number]? = some stream
                → stream.phase = .storing event
                → let before := chronicle.session.roster.healthView
                  let list :=
                    (chronicle.session.roster.setHealth event.id event.health).healthView
                  (chronicle.history.pushedOn number).getLast? = some before
                  ∧ View.DiffersOnlyAt event.id before list
                  ∧ ∀ later,
                      (run (.ofList devices)
                        (actions ++ .act (.store number) :: later)).chronicle.Delivers number
                        (chronicle.history.pushedOn number) list := by
  refine ⟨?_, ?_⟩
  · intro actions chronicle
    have truthful := Chronicle.run_truthful (.ofList devices) actions
    exact ⟨truthful.named, fun number stream found => truthful.pushed_of_reading found,
      (Chronicle.run_conveyed (.ofList devices) actions).conveyed⟩
  · intro actions chronicle kept
    have distinct := Roster.nodup_ids_ofList devices
    have changes := (run_faithful distinct actions).changes
    obtain ⟨taken, followed⟩ := exists_run (.ofList devices) actions
    have truthful := followed ▸ Chronicle.run_truthful (.ofList devices) taken
    refine ⟨?_, ?_⟩
    · have varying := Chronicle.run_varying (.ofList devices) taken (followed ▸ changes)
        (followed ▸ kept)
      rw [← followed] at varying
      exact varying.chain
    · intro number stream event found phase before list
      have change := Chronicle.changedBy_of_storing
        (followed ▸ Chronicle.run_accounted (.ofList devices) taken) truthful
        (followed ▸ Chronicle.run_readerUnique (.ofList devices) taken) changes kept found phase
      refine ⟨truthful.pushed_of_storing found phase, change.differsOnlyAt ?_, ?_⟩
      · rwa [truthful.ids_eq]
      · intro later
        obtain ⟨after, goesOn⟩ := exists_foldl_perform
          ((run (.ofList devices) actions).perform (.act (.store number))) later
        rw [run_append, List.foldl_cons, goesOn]
        exact (Chronicle.delivers_of_storing found phase).foldl_perform after

end Monitored

end Session

end NodeDevices
