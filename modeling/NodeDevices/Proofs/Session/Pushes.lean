import NodeDevices.Proofs.Roster
import NodeDevices.Proofs.Session.Reader

/-! What the lists that are pushed on the streams of a session show. Every list names the
devices of the roster, and the holder of the reader has pushed what is true before it waits
for an event.
-/

namespace NodeDevices.Session

open Health (Event)

/-- What the feeder of a stream is doing agrees with the lists that were pushed on it and with
the roster. Only the holder of the reader knows the health that is stored.
-/
def Stream.Agrees (stream : Stream) (roster : Roster) (pushed : List View) : Prop :=
  match stream.phase with
  | .opening seen => pushed = [] ∧ seen.map Prod.fst = roster.ids.take seen.length
  | .waiting => pushed.getLast? = some stream.sent
  | .reading | .storing _ =>
      pushed.getLast? = some stream.sent ∧ stream.sent = roster.healthView
  | .pushing list => stream.sent = list ∧ list = roster.healthView
  | .ended => True

/-- The lists that were pushed in a session of a roster are right about it. -/
structure Chronicle.Truthful (roster : Roster) (chronicle : Chronicle) : Prop where
  /-- Only events change the roster. -/
  replayed : chronicle.session.roster = roster.replay chronicle.history.stored
  agrees
    : ∀ (number : Nat) (stream : Stream),
        chronicle.session.streams[number]? = some stream
        → stream.Agrees chronicle.session.roster (chronicle.history.pushedOn number)
  /-- Nothing was pushed on streams to come. -/
  fresh
    : ∀ number,
        chronicle.session.streams[number]? = none → chronicle.history.pushedOn number = []
  named
    : ∀ number, ∀ list ∈ chronicle.history.pushedOn number, list.map Prod.fst = roster.ids

-----------------------------------------------------------------------------------------
-- Changes of one stream
-----------------------------------------------------------------------------------------

/-- A feeder without the reader is not concerned when health is stored. -/
theorem Stream.Agrees.setHealth {stream : Stream} {roster : Roster} {pushed : List View}
    (h : stream.Agrees roster pushed) (free : stream.holdsReader = false)
    (id : String) (health : Health)
    : stream.Agrees (roster.setHealth id health) pushed := by
  unfold Agrees at h ⊢
  cases phase : stream.phase with
  | opening => rwa [phase, ← Roster.ids_setHealth roster id health] at h
  | waiting => rwa [phase] at h
  | ended => trivial
  | reading | storing | pushing => simp [Stream.holdsReader, phase] at free

namespace Chronicle

variable {roster : Roster} {chronicle next : Chronicle} {number : Nat}
  {stream changed : Stream}

/-- The ids never change. -/
theorem Truthful.ids_eq (h : chronicle.Truthful roster)
    : chronicle.session.roster.ids = roster.ids := by
  rw [h.replayed, Roster.ids_replay]

/-- The current list names the devices of the roster. -/
theorem Truthful.map_fst_healthView (h : chronicle.Truthful roster)
    : chronicle.session.roster.healthView.map Prod.fst = roster.ids := by
  rw [Roster.map_fst_healthView, h.ids_eq]

/-- Nothing becomes wrong when a stream is opened: it has seen nothing yet. -/
theorem Truthful.watch (h : chronicle.Truthful roster)
    : Truthful roster {
        chronicle with
        session := {
          chronicle.session with streams := chronicle.session.streams ++ [({} : Stream)] }
      } := by
  refine { replayed := h.replayed, agrees := ?_, fresh := ?_, named := h.named }
  · intro number stream found
    rcases getElem?_append_fresh found with found | ⟨absent, rfl⟩
    · exact h.agrees number stream found
    · exact ⟨h.fresh number absent, rfl⟩
  · intro number absent
    rw [List.getElem?_eq_none_iff, List.length_append] at absent
    exact h.fresh number (List.getElem?_eq_none (by omega))

/-- Nothing becomes wrong when one feeder goes on without pushing anything. -/
theorem Truthful.replace (h : chronicle.Truthful roster)
    (found : chronicle.session.streams[number]? = some stream)
    (streams : next.session.streams = chronicle.session.streams.set number changed)
    (kept : next.session.roster = chronicle.session.roster)
    (stored : next.history.stored = chronicle.history.stored)
    (pushed : next.history.pushed = chronicle.history.pushed)
    (agrees : changed.Agrees chronicle.session.roster (chronicle.history.pushedOn number))
    : next.Truthful roster := by
  have samePushed := History.pushedOn_congr pushed
  refine { replayed := ?_, agrees := ?_, fresh := ?_, named := ?_ }
  · rw [kept, stored, h.replayed]
  · intro other held foundHeld
    rw [samePushed, kept]
    rw [streams, getElem?_set_of_found found] at foundHeld
    split at foundHeld
    · next same =>
        cases foundHeld
        exact same ▸ agrees
    · exact h.agrees other held foundHeld
  · intro other absent
    rw [streams, getElem?_set_of_found found] at absent
    split at absent
    · cases absent
    · exact (samePushed other).trans (h.fresh other absent)
  · intro other list member
    rw [samePushed] at member
    exact h.named other list member

/-- Nothing becomes wrong when one feeder pushes a list that names all devices. -/
theorem Truthful.push (h : chronicle.Truthful roster)
    (found : chronicle.session.streams[number]? = some stream) {list : View}
    (named : list.map Prod.fst = roster.ids)
    (agrees
      : changed.Agrees chronicle.session.roster (chronicle.history.pushedOn number ++ [list]))
    : Truthful roster {
        session := chronicle.session.replace number changed
        history := {
          chronicle.history with pushed := chronicle.history.pushed ++ [(number, list)] }
      } := by
  refine { replayed := h.replayed, agrees := ?_, fresh := ?_, named := ?_ }
  · intro other held foundHeld
    simp only [Session.replace, getElem?_set_of_found found] at foundHeld
    rw [History.pushedOn_append]
    split at foundHeld
    · next same =>
        cases foundHeld
        rw [if_pos same.symm, same]
        exact agrees
    · next different =>
        rw [if_neg (Ne.symm different)]
        exact h.agrees other held foundHeld
  · intro other absent
    simp only [Session.replace, getElem?_set_of_found found] at absent
    rw [History.pushedOn_append]
    split at absent
    · cases absent
    · next different =>
        rw [if_neg (Ne.symm different)]
        exact h.fresh other absent
  · intro other pushed member
    rw [History.pushedOn_append] at member
    split at member
    · rcases List.mem_append.mp member with member | member
      · exact h.named other pushed member
      · rw [List.mem_singleton.mp member]
        exact named
    · exact h.named other pushed member

/-- Nothing becomes wrong when the holder of the reader stores the health of its event. -/
theorem Truthful.store (h : chronicle.Truthful roster)
    (unique : ReaderUnique chronicle.session.streams)
    (found : chronicle.session.streams[number]? = some stream) {event : Event}
    (phase : stream.phase = .storing event)
    : Truthful roster {
        session := {
          chronicle.session.replace number (stream.announce
            (chronicle.session.roster.setHealth event.id event.health).healthView) with
          roster := chronicle.session.roster.setHealth event.id event.health }
        history := { chronicle.history with stored := chronicle.history.stored ++ [event] }
      } := by
  have holds : stream.holdsReader = true := by simp [Stream.holdsReader, phase]
  refine { replayed := ?_, agrees := ?_, fresh := ?_, named := h.named }
  · simp [h.replayed]
  · intro other held foundHeld
    simp only [Session.replace, getElem?_set_of_found found] at foundHeld
    split at foundHeld
    · cases foundHeld
      exact ⟨rfl, rfl⟩
    · next different =>
        refine (h.agrees other held foundHeld).setHealth ?_ _ _
        exact Bool.eq_false_iff.mpr fun second =>
          different (unique other number held stream foundHeld found second holds)
  · intro other absent
    simp only [Session.replace, getElem?_set_of_found found] at absent
    split at absent
    · cases absent
    · exact h.fresh other absent

-----------------------------------------------------------------------------------------
-- Steps and runs
-----------------------------------------------------------------------------------------

/-- A first list goes on with the next device of the roster. -/
theorem map_fst_seen {seen : View} {entry : String × Health}
    (before : seen.map Prod.fst = roster.ids.take seen.length)
    (upcoming : roster.healthView[seen.length]? = some entry)
    : (seen ++ [entry]).map Prod.fst = roster.ids.take (seen ++ [entry]).length := by
  have id : roster.ids[seen.length]? = some entry.1 := by
    rw [← Roster.map_fst_healthView, List.getElem?_map, upcoming, Option.map_some]
  rw [List.length_append, List.length_singleton, List.take_add_one, id, List.map_append, before]
  rfl

/-- No step of a session makes a list wrong. -/
theorem Truthful.step (h : chronicle.Truthful roster)
    (unique : ReaderUnique chronicle.session.streams) {action : Action} {session : Session}
    (step : Step chronicle.session action session)
    : Truthful roster {
        session, history := chronicle.history.record chronicle.session action } := by
  -- an action of a feeder is told apart by what its stream says before it
  have known : ∀ {number : Nat} {stream : Stream},
      chronicle.session.streams[number]? = some stream
      → stream.Agrees chronicle.session.roster (chronicle.history.pushedOn number) :=
    fun found => h.agrees _ _ found
  cases step with
  | watch => exact h.watch
  | send => exact ⟨h.replayed, h.agrees, h.fresh, h.named⟩
  | closeEvents => exact ⟨h.replayed, h.agrees, h.fresh, h.named⟩
  | stop => exact ⟨h.replayed, h.agrees, h.fresh, h.named⟩
  | lag _ _ missed =>
      rw [History.record_lag missed]
      exact ⟨h.replayed, h.agrees, h.fresh, h.named⟩
  | hangUp found =>
      have agrees := known found
      exact h.replace found rfl rfl rfl rfl agrees
  | read found =>
      refine h.replace found rfl rfl rfl rfl ?_
      simpa [Stream.Agrees] using known found
  | look found phase upcoming =>
      have agrees := known found
      simp only [Stream.Agrees, phase] at agrees
      refine h.replace found rfl rfl rfl rfl ⟨agrees.1, ?_⟩
      exact map_fst_seen agrees.2 upcoming
  | @begin number stream seen found phase complete connected =>
      have agrees := known found
      simp only [Stream.Agrees, phase] at agrees
      rw [History.record_begin found phase connected]
      refine h.push found ?_ (by simp [Stream.Agrees])
      rw [agrees.2, h.ids_eq, List.take_of_length_le]
      rwa [← h.ids_eq, Roster.length_ids]
  | beginAlone found phase alone =>
      rw [History.record_beginAlone found alone]
      exact h.replace found rfl rfl rfl rfl trivial
  | take found phase free current =>
      have agrees := known found
      simp only [Stream.Agrees, phase] at agrees
      exact h.replace found rfl rfl rfl rfl ⟨agrees, current.symm⟩
  | takeStale found => exact h.replace found rfl rfl rfl rfl ⟨rfl, rfl⟩
  | closed found _ missed empty =>
      rw [History.record_closed missed empty]
      exact h.replace found rfl rfl rfl rfl trivial
  | receive found phase missed unread =>
      have agrees := known found
      simp only [Stream.Agrees, phase] at agrees
      rw [History.record_receive missed unread]
      exact h.replace found rfl rfl rfl rfl agrees
  | store found phase =>
      rw [History.record_store found phase]
      exact h.store unique found phase
  | push found phase connected =>
      have agrees := known found
      simp only [Stream.Agrees, phase] at agrees
      rw [History.record_push found phase connected]
      refine h.push found (agrees.2 ▸ h.map_fst_healthView) ⟨?_, agrees.1.trans agrees.2⟩
      rw [List.getLast?_concat]
      exact congrArg some agrees.1.symm
  | pushAlone found phase alone =>
      rw [History.record_pushAlone found alone]
      exact h.replace found rfl rfl rfl rfl trivial
  | quit found => exact h.replace found rfl rfl rfl rfl trivial

/-- The lists of every run are right. -/
theorem run_truthful (roster : Roster) (actions : List Action)
    : (run roster actions).Truthful roster := by
  refine run_induction (motive := Truthful roster) ?_ ?_ actions
  · refine { replayed := rfl, agrees := ?_, fresh := fun _ _ => rfl, named := ?_ }
    · intro number stream found
      simp at found
    · intro number list member
      simp [History.pushedOn] at member
  · intro before _ _ truthful step
    exact truthful.step (run_readerUnique roster before) step

/-- A holder of the reader that waits for an event has pushed the current list last. -/
theorem Truthful.pushed_of_reading (h : chronicle.Truthful roster)
    (found : chronicle.session.streams[number]? = some stream)
    (phase : stream.phase = .reading)
    : (chronicle.history.pushedOn number).getLast?
      = some chronicle.session.roster.healthView := by
  have agrees := h.agrees number stream found
  simp only [Stream.Agrees, phase] at agrees
  rw [agrees.1, agrees.2]

/-- A holder of the reader with an event in its hand has pushed the current list last. -/
theorem Truthful.pushed_of_storing (h : chronicle.Truthful roster)
    (found : chronicle.session.streams[number]? = some stream) {event : Event}
    (phase : stream.phase = .storing event)
    : (chronicle.history.pushedOn number).getLast?
      = some chronicle.session.roster.healthView := by
  have agrees := h.agrees number stream found
  simp only [Stream.Agrees, phase] at agrees
  rw [agrees.1, agrees.2]

/-- What the holder of the reader is about to push is the current list. -/
theorem Truthful.eq_of_pushing (h : chronicle.Truthful roster)
    (found : chronicle.session.streams[number]? = some stream) {list : View}
    (phase : stream.phase = .pushing list)
    : list = chronicle.session.roster.healthView := by
  have agrees := h.agrees number stream found
  simp only [Stream.Agrees, phase] at agrees
  exact agrees.2

end Chronicle

end NodeDevices.Session
