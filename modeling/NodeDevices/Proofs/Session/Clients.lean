import NodeDevices.Proofs.Session.Pushes

/-! What the clients of streams get. The lists that were pushed on a stream are those that its
client took, and after them those that are left for it, of which there are never more than a stream
holds.
-/

namespace NodeDevices.Session

/-- What was pushed on a stream has reached its client, or is left for it. -/
structure Chronicle.Conveyed (chronicle : Chronicle) : Prop where
  conveyed
    : ∀ (number : Nat) (stream : Stream),
        chronicle.session.streams[number]? = some stream
        → chronicle.history.pushedOn number
            = chronicle.history.takenOn number ++ stream.buffer
          ∧ stream.buffer.length ≤ Stream.capacity
  /-- Nobody took anything from streams to come. -/
  fresh
    : ∀ number,
        chronicle.session.streams[number]? = none → chronicle.history.takenOn number = []

-----------------------------------------------------------------------------------------
-- What a client takes
-----------------------------------------------------------------------------------------

/-- A client takes what is left for it in its order. -/
theorem Stream.buffer_eq_next (stream : Stream)
    : stream.buffer = stream.next.1.list?.toList ++ stream.next.2.buffer := by
  rw [next]
  split
  · next view rest upcoming => exact upcoming
  · next empty =>
      rw [empty]
      split <;> rfl

namespace History

variable {history : History} {session : Session} {number : Nat} {stream : Stream}

theorem record_read (found : session.streams[number]? = some stream)
    : history.record session (.read number)
      = { history with
          taken := history.taken ++ stream.next.1.list?.toList.map (number, ·) } := by
  simp [record, found]

/-- Of lists that were taken before, each stream has its own. -/
theorem takenOn_congr {next : History} (taken : next.taken = history.taken) (number : Nat)
    : next.takenOn number = history.takenOn number := by
  rw [takenOn, taken, takenOn]

theorem takenOn_append (number other : Nat) (lists : List View)
    : { history with taken := history.taken ++ lists.map (number, ·) }.takenOn other
      = history.takenOn other ++ if number = other then lists else [] := by
  by_cases same : number = other <;> simp [takenOn, List.filter_map, Function.comp_def, same]

end History

-----------------------------------------------------------------------------------------
-- Steps and runs
-----------------------------------------------------------------------------------------

namespace Chronicle

variable {roster : Roster} {chronicle next : Chronicle} {number : Nat} {stream changed : Stream}

/-- A step on one stream leaves what was pushed and taken on the others. -/
theorem Conveyed.replace (h : chronicle.Conveyed)
    (found : chronicle.session.streams[number]? = some stream)
    (streams : next.session.streams = chronicle.session.streams.set number changed)
    (others
      : ∀ other,
          other ≠ number
          → next.history.pushedOn other = chronicle.history.pushedOn other
            ∧ next.history.takenOn other = chronicle.history.takenOn other)
    (own
      : next.history.pushedOn number = next.history.takenOn number ++ changed.buffer
        ∧ changed.buffer.length ≤ Stream.capacity)
    : next.Conveyed := by
  constructor
  · intro other held foundHeld
    rw [streams, getElem?_set_of_found found] at foundHeld
    split at foundHeld
    · next same =>
        cases foundHeld
        exact same ▸ own
    · next different =>
        obtain ⟨pushed, taken⟩ := others other different
        rw [pushed, taken]
        exact h.conveyed other held foundHeld
  · intro other absent
    rw [streams, getElem?_set_of_found found] at absent
    split at absent
    · cases absent
    · next different => exact (others other different).2.trans (h.fresh other absent)

/-- A feeder that pushes nothing leaves what its client has. -/
theorem Conveyed.keep (h : chronicle.Conveyed)
    (found : chronicle.session.streams[number]? = some stream)
    (streams : next.session.streams = chronicle.session.streams.set number changed)
    (pushed : next.history.pushed = chronicle.history.pushed)
    (taken : next.history.taken = chronicle.history.taken)
    (buffer : changed.buffer = stream.buffer)
    : next.Conveyed := by
  refine h.replace found streams
    (fun other _ => ⟨History.pushedOn_congr pushed other, History.takenOn_congr taken other⟩) ?_
  rw [History.pushedOn_congr pushed, History.takenOn_congr taken, buffer]
  exact h.conveyed number stream found

/-- A list that is pushed while there is room for it comes after all the others. -/
theorem Conveyed.push (h : chronicle.Conveyed)
    (found : chronicle.session.streams[number]? = some stream) {list : View}
    (buffer : changed.buffer = stream.buffer ++ [list])
    (room : stream.buffer.length < Stream.capacity)
    : Conveyed {
        session := chronicle.session.replace number changed
        history := {
          chronicle.history with pushed := chronicle.history.pushed ++ [(number, list)] }
      } := by
  refine h.replace found rfl (fun other different => ⟨?_, rfl⟩) ⟨?_, ?_⟩
  · rw [History.pushedOn_append, if_neg (Ne.symm different)]
  · rw [History.pushedOn_append, if_pos rfl, (h.conveyed number stream found).1, buffer,
      List.append_assoc]
    rfl
  · rw [buffer, List.length_append]
    exact room

/-- What a client takes is the first of what is left for it. -/
theorem Conveyed.read (h : chronicle.Conveyed)
    (found : chronicle.session.streams[number]? = some stream)
    : Conveyed {
        session := chronicle.session.replace number stream.next.2
        history := chronicle.history.record chronicle.session (.read number)
      } := by
  obtain ⟨conveyed, within⟩ := h.conveyed number stream found
  have parts := stream.buffer_eq_next
  rw [History.record_read found]
  refine h.replace found rfl (fun other different => ⟨rfl, ?_⟩) ⟨?_, ?_⟩
  · rw [History.takenOn_append, if_neg (Ne.symm different), List.append_nil]
  · rw [History.takenOn_append, if_pos rfl, List.append_assoc, ← parts]
    exact conveyed
  · have lengths := congrArg List.length parts
    rw [List.length_append] at lengths
    omega

/-- No step of a session loses a list on its way to a client. -/
theorem Conveyed.step (h : chronicle.Conveyed) (truthful : chronicle.Truthful roster)
    {action : Action} {session : Session} (step : Step chronicle.session action session)
    : Conveyed {
        session, history := chronicle.history.record chronicle.session action } := by
  cases step with
  | watch =>
      constructor
      · intro number stream found
        rcases getElem?_append_fresh found with found | ⟨absent, rfl⟩
        · exact h.conveyed number stream found
        · have pushed := truthful.fresh number absent
          have taken := h.fresh number absent
          exact ⟨pushed.trans (congrArg (· ++ []) taken).symm, Nat.zero_le _⟩
      · intro number absent
        rw [List.getElem?_eq_none_iff, List.length_append] at absent
        exact h.fresh number (List.getElem?_eq_none (by omega))
  | send | closeEvents | stop | lag => exact ⟨h.conveyed, h.fresh⟩
  | hangUp found | look found | take found | takeStale found | closed found | receive found
  | quit found => exact h.keep found rfl rfl rfl rfl
  | store found phase =>
      rw [History.record_store found phase]
      exact h.keep found rfl rfl rfl rfl
  | read found => exact h.read found
  | begin found phase _ connected =>
      -- nothing was pushed before the first list
      have first := truthful.agrees _ _ found
      simp only [Stream.Agrees, phase] at first
      have empty := (h.conveyed _ _ found).1
      rw [first.1, List.nil_eq_append_iff] at empty
      rw [History.record_begin found phase connected]
      refine h.push found rfl ?_
      rw [empty.2]
      decide
  | beginAlone found phase alone =>
      rw [History.record_beginAlone found alone]
      exact h.keep found rfl rfl rfl rfl
  | push found phase connected room =>
      rw [History.record_push found phase connected]
      exact h.push found rfl room
  | pushAlone found phase alone =>
      rw [History.record_pushAlone found alone]
      exact h.keep found rfl rfl rfl rfl

/-- In every run the lists that were pushed on a stream are those that its client took and those
that are left for it.
-/
theorem run_conveyed (roster : Roster) (actions : List Action)
    : (run roster actions).Conveyed := by
  refine run_induction (motive := Conveyed) ?_ ?_ actions
  · exact ⟨fun _ _ found => by simp at found, fun _ _ => rfl⟩
  · intro before _ _ conveyed step
    exact conveyed.step (run_truthful roster before) step

end Chronicle

end NodeDevices.Session
