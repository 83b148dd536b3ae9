import NodeDevices.Proofs.Session.Chronicle

/-! One stream at a time holds the event reader. So at most one event is in a hand, and
whoever holds the reader knows what is.
-/

namespace NodeDevices.Session

open Health (Event)

/-- No two of the streams hold the event reader. -/
def ReaderUnique (streams : List Stream) : Prop :=
  ∀ (i j : Nat) (first second : Stream),
    streams[i]? = some first → streams[j]? = some second
    → first.holdsReader = true → second.holdsReader = true → i = j

variable {streams : List Stream} {number : Nat} {stream changed : Stream}

/-- A replaced stream is found at its number, and the others where they were. -/
theorem getElem?_set_of_found (found : streams[number]? = some stream) (changed : Stream)
    (other : Nat)
    : (streams.set number changed)[other]?
      = if other = number then some changed else streams[other]? := by
  obtain ⟨bound, _⟩ := List.getElem?_eq_some_iff.mp found
  rw [List.getElem?_set]
  by_cases same : number = other
  · simp [← same, bound]
  · simp [same, Ne.symm same]

/-- While the reader is free nobody holds it. -/
theorem holdsReader_eq_false_of_free {session : Session} (free : session.readerFree = true)
    (found : session.streams[number]? = some stream)
    : stream.holdsReader = false := by
  have all := List.all_eq_true.mp free stream (List.mem_of_getElem? found)
  simpa using all

/-- A stream that takes the reader only while it is free, or holds it already, is no second
holder.
-/
theorem ReaderUnique.set (unique : ReaderUnique streams)
    (found : streams[number]? = some stream)
    (kept
      : changed.holdsReader = true
        → stream.holdsReader = true
          ∨ ∀ (other : Nat) (held : Stream),
              streams[other]? = some held → held.holdsReader = false)
    : ReaderUnique (streams.set number changed) := by
  -- a second holder would have to be an old one, beside the old stream or a free reader
  have alone : ∀ (other : Nat) (held : Stream), streams[other]? = some held
      → held.holdsReader = true → changed.holdsReader = true → other = number := by
    intro other held foundHeld holds changedHolds
    rcases kept changedHolds with before | free
    · exact unique other number held stream foundHeld found holds before
    · rw [free other held foundHeld] at holds
      cases holds
  intro i j first second foundFirst foundSecond holdsFirst holdsSecond
  rw [getElem?_set_of_found found] at foundFirst foundSecond
  split at foundFirst <;> split at foundSecond
  · next same other => exact same.trans other.symm
  · next same _ =>
      cases foundFirst
      exact same.trans (alone j second foundSecond holdsSecond holdsFirst).symm
  · next _ same =>
      cases foundSecond
      exact (alone i first foundFirst holdsFirst holdsSecond).trans same.symm
  · exact unique i j first second foundFirst foundSecond holdsFirst holdsSecond

/-- When a stream is opened, the others stay where they are. -/
theorem getElem?_append_fresh {held : Stream}
    (found : (streams ++ [({} : Stream)])[number]? = some held)
    : streams[number]? = some held ∨ streams[number]? = none ∧ held = {} := by
  rcases Nat.lt_or_ge number streams.length with bound | bound
  · rw [List.getElem?_append_left bound] at found
    exact Or.inl found
  · rw [List.getElem?_append_right bound, List.getElem?_singleton] at found
    split at found
    · exact Or.inr ⟨List.getElem?_eq_none bound, (Option.some.inj found).symm⟩
    · cases found

/-- A new stream does not hold the reader. -/
theorem ReaderUnique.append_fresh (unique : ReaderUnique streams)
    : ReaderUnique (streams ++ [({} : Stream)]) := by
  have old : ∀ (i : Nat) (held : Stream), (streams ++ [({} : Stream)])[i]? = some held
      → held.holdsReader = true → streams[i]? = some held := by
    intro i held found holds
    rcases getElem?_append_fresh found with found | ⟨_, rfl⟩
    · exact found
    · simp [Stream.holdsReader] at holds
  intro i j first second foundFirst foundSecond holdsFirst holdsSecond
  exact unique i j first second (old i first foundFirst holdsFirst)
    (old j second foundSecond holdsSecond) holdsFirst holdsSecond

/-- Taking what comes next leaves the feeder alone. -/
@[simp]
theorem Stream.next_phase (stream : Stream) : stream.next.2.phase = stream.phase := by
  unfold next
  split <;> rfl

@[simp]
theorem Stream.next_sent (stream : Stream) : stream.next.2.sent = stream.sent := by
  unfold next
  split <;> rfl

@[simp]
theorem Stream.next_connected (stream : Stream)
    : stream.next.2.connected = stream.connected := by
  unfold next
  split <;> rfl

/-- No action makes a second holder of the reader. -/
theorem Step.readerUnique {session next : Session} {action : Action}
    (step : Step session action next) (unique : ReaderUnique session.streams)
    : ReaderUnique next.streams := by
  cases step with
  | watch => exact unique.append_fresh
  | send | closeEvents | stop | lag => exact unique
  | hangUp found => exact unique.set found fun holds => Or.inl holds
  | read found =>
      refine unique.set found fun holds => Or.inl ?_
      simpa [Stream.holdsReader] using holds
  | look found | begin found | beginAlone found | closed found | pushAlone found | quit found =>
      refine unique.set found fun holds => ?_
      simp [Stream.holdsReader] at holds
  | take found _ free | takeStale found _ free =>
      exact unique.set found fun _ =>
        Or.inr fun _ _ foundHeld => holdsReader_eq_false_of_free free foundHeld
  | receive found phase | store found phase | push found phase =>
      exact unique.set found fun _ => Or.inl (by simp [Stream.holdsReader, phase])

/-- In every run one stream at a time holds the reader. -/
theorem Chronicle.run_readerUnique (roster : Roster) (actions : List Action)
    : ReaderUnique (run roster actions).session.streams := by
  refine run_induction (motive := fun chronicle => ReaderUnique chronicle.session.streams)
    ?_ ?_ actions
  · intro i j first second found
    simp at found
  · intro _ _ _ unique step
    exact step.readerUnique unique

-----------------------------------------------------------------------------------------
-- The event in the hand of the holder
-----------------------------------------------------------------------------------------

/-- Only the holder of the reader has an event in its hand. -/
theorem Stream.holdsReader_of_inHand? {event : Event} (held : stream.inHand? = some event)
    : stream.holdsReader = true := by
  simp [holdsReader, inHand?_eq_some.mp held]

/-- What a list of streams has in hand does not change with a stream that keeps its own. -/
theorem filterMap_inHand?_set (found : streams[number]? = some stream)
    (same : changed.inHand? = stream.inHand?)
    : (streams.set number changed).filterMap Stream.inHand?
      = streams.filterMap Stream.inHand? := by
  induction streams generalizing number with
  | nil => rfl
  | cons head rest ih =>
      cases number with
      | zero =>
          cases found
          simp [List.filterMap_cons, same]
      | succ number => simp [List.filterMap_cons, ih found]

/-- When the holder of the reader is replaced, the events in hand are what is put in its hand.
-/
theorem filterMap_inHand?_set_of_holder (unique : ReaderUnique streams)
    (found : streams[number]? = some stream) (holds : stream.holdsReader = true)
    (changed : Stream)
    : (streams.set number changed).filterMap Stream.inHand? = changed.inHand?.toList := by
  obtain ⟨bound, _⟩ := List.getElem?_eq_some_iff.mp found
  have others : ∀ (other : Nat) (held : Stream), other ≠ number
      → streams[other]? = some held → held.inHand? = none := by
    intro other held different foundHeld
    rw [Option.eq_none_iff_forall_ne_some]
    intro event inHand
    exact different (unique other number held stream foundHeld found
      (Stream.holdsReader_of_inHand? inHand) holds)
  have before : (streams.take number).filterMap Stream.inHand? = [] := by
    rw [List.filterMap_eq_nil_iff]
    intro held member
    obtain ⟨i, small, rfl⟩ := List.mem_take_iff_getElem.mp member
    exact others i _ (by omega) (List.getElem?_eq_getElem (by omega))
  have after : (streams.drop (number + 1)).filterMap Stream.inHand? = [] := by
    rw [List.filterMap_eq_nil_iff]
    intro held member
    obtain ⟨i, small, rfl⟩ := List.mem_drop_iff_getElem.mp member
    have placed : number + 1 + i < streams.length := by omega
    exact others _ _ (by omega) (List.getElem?_eq_getElem placed)
  rw [List.set_eq_take_append_cons_drop, if_pos bound, List.filterMap_append, before,
    List.filterMap_cons, after, List.nil_append]
  cases changed.inHand? <;> rfl

/-- The events in hand are what the holder of the reader has in its hand. -/
theorem filterMap_inHand?_of_holder (unique : ReaderUnique streams)
    (found : streams[number]? = some stream) (holds : stream.holdsReader = true)
    : streams.filterMap Stream.inHand? = stream.inHand?.toList := by
  rw [← filterMap_inHand?_set found (rfl : stream.inHand? = stream.inHand?)]
  exact filterMap_inHand?_set_of_holder unique found holds stream

/-- While the holder of the reader waits for an event, none is in a hand. -/
theorem inHand_of_reading {session : Session} (unique : ReaderUnique session.streams)
    (found : session.streams[number]? = some stream) (phase : stream.phase = .reading)
    : session.inHand = [] := by
  have holds : stream.holdsReader = true := by simp [Stream.holdsReader, phase]
  rw [inHand, filterMap_inHand?_of_holder unique found holds]
  simp [Stream.inHand?, phase]

/-- While the holder of the reader has an event to store, it is the only one in a hand. -/
theorem inHand_of_storing {session : Session} (unique : ReaderUnique session.streams)
    (found : session.streams[number]? = some stream) {event : Event}
    (phase : stream.phase = .storing event)
    : session.inHand = [event] := by
  have holds : stream.holdsReader = true := by simp [Stream.holdsReader, phase]
  rw [inHand, filterMap_inHand?_of_holder unique found holds]
  simp [Stream.inHand?, phase]

end NodeDevices.Session
