import NodeDevices.Proofs.Health.Traffic
import NodeDevices.Session.Basic

/-! Everything that one action can do to a session, case by case. A feeder moves alone: it
changes its own stream, and at most the channel or the roster with it.
-/

namespace NodeDevices.Session

open Health (Event Channel)

/-- A proof view of the actions that can happen, with what each of them finds and leaves. -/
inductive Step (session : Session) : Action → Session → Prop
  | watch : Step session .watch { session with streams := session.streams ++ [{}] }
  | hangUp {number stream} (found : session.streams[number]? = some stream)
    : Step session (.hangUp number) (session.replace number { stream with connected := false })
  | read {number stream} (found : session.streams[number]? = some stream)
    : Step session (.read number) (session.replace number stream.next.2)
  | send {event} (accepted : session.channel.closed = false)
    : Step session (.send event) { session with channel := session.channel.send event }
  | closeEvents
    : Step session .closeEvents
        { session with channel := { session.channel with closed := true } }
  | stop : Step session .stop { session with stopped := true }
  | look {number stream seen entry} (found : session.streams[number]? = some stream)
    (phase : stream.phase = .opening seen)
    (upcoming : session.roster.healthView[seen.length]? = some entry)
    : Step session (.look number)
        (session.replace number { stream with phase := .opening (seen ++ [entry]) })
  | begin {number stream seen} (found : session.streams[number]? = some stream)
    (phase : stream.phase = .opening seen) (complete : session.roster.size ≤ seen.length)
    (connected : stream.connected = true)
    : Step session (.begin number)
        (session.replace number
          { stream with phase := .waiting, sent := seen, buffer := stream.buffer ++ [seen] })
  | beginAlone {number stream seen} (found : session.streams[number]? = some stream)
    (phase : stream.phase = .opening seen) (alone : stream.connected = false)
    : Step session (.begin number)
        (session.replace number { stream with phase := .ended, sent := seen })
  | take {number stream} (found : session.streams[number]? = some stream)
    (phase : stream.phase = .waiting) (free : session.readerFree = true)
    (current : session.roster.healthView = stream.sent)
    : Step session (.take number) (session.replace number { stream with phase := .reading })
  | takeStale {number stream} (found : session.streams[number]? = some stream)
    (phase : stream.phase = .waiting) (free : session.readerFree = true)
    (stale : session.roster.healthView ≠ stream.sent)
    : Step session (.take number)
        (session.replace number
          { stream with
            phase := .pushing session.roster.healthView
            sent := session.roster.healthView })
  | lag {number stream} (found : session.streams[number]? = some stream)
    (phase : stream.phase = .reading) (missed : session.channel.missed ≠ 0)
    : Step session (.receive number)
        { session with channel := { session.channel with missed := 0 } }
  | closed {number stream} (found : session.streams[number]? = some stream)
    (phase : stream.phase = .reading) (missed : session.channel.missed = 0)
    (empty : session.channel.unread = [])
    : Step session (.receive number) (session.replace number { stream with phase := .ended })
  | receive {number stream event rest} (found : session.streams[number]? = some stream)
    (phase : stream.phase = .reading) (missed : session.channel.missed = 0)
    (upcoming : session.channel.unread = event :: rest)
    : Step session (.receive number)
        { session.replace number { stream with phase := .storing event } with
          channel := { session.channel with unread := rest } }
  | store {number stream event} (found : session.streams[number]? = some stream)
    (phase : stream.phase = .storing event)
    : Step session (.store number)
        { session.replace number
            (stream.announce (session.roster.setHealth event.id event.health).healthView) with
          roster := session.roster.setHealth event.id event.health }
  | push {number stream list} (found : session.streams[number]? = some stream)
    (phase : stream.phase = .pushing list) (connected : stream.connected = true)
    (room : stream.buffer.length < Stream.capacity)
    : Step session (.push number)
        (session.replace number
          { stream with phase := .reading, buffer := stream.buffer ++ [list] })
  | pushAlone {number stream list} (found : session.streams[number]? = some stream)
    (phase : stream.phase = .pushing list) (alone : stream.connected = false)
    : Step session (.push number) (session.replace number { stream with phase := .ended })
  | quit {number stream} (found : session.streams[number]? = some stream)
    (phase : stream.phase = .waiting ∨ stream.phase = .reading)
    : Step session (.quit number) (session.replace number { stream with phase := .ended })

/-- A changed session is the old one with one stream replaced by what it was changed to. -/
theorem change?_eq_some {session next : Session} {number : Nat}
    {change : Stream → Option Stream}
    : session.change? number change = some next
      ↔ ∃ stream changed,
          session.streams[number]? = some stream
          ∧ change stream = some changed
          ∧ session.replace number changed = next := by
  simp only [change?, bind, Option.bind_eq_some_iff, pure, Option.some.injEq]
  exact ⟨
    fun ⟨stream, found, changed, can, same⟩ => ⟨stream, changed, found, can, same⟩,
    fun ⟨stream, changed, found, can, same⟩ => ⟨stream, found, changed, can, same⟩
  ⟩

/-- A stream with an event in its hand is about to store it. -/
theorem Stream.inHand?_eq_some {stream : Stream} {event : Event}
    : stream.inHand? = some event ↔ stream.phase = .storing event := by
  unfold inHand?
  split <;> simp_all

/-- Reception looks for missed events first, then for unread ones, and last for an end. -/
theorem Step.of_receive? {session next : Session} {number : Nat}
    (h : session.receive? number = some next)
    : Step session (.receive number) next := by
  simp only [receive?, bind, Option.bind_eq_some_iff] at h
  obtain ⟨stream, found, h⟩ := h
  split at h
  · cases h
  · next phase =>
      simp only [ne_eq, Decidable.not_not] at phase
      by_cases missed : session.channel.missed = 0
      · cases unread : session.channel.unread with
        | nil =>
            rw [Channel.receive_of_empty missed unread] at h
            by_cases ended : session.channel.closed = true
            · simp only [ended, if_true] at h
              cases h
              exact .closed found phase missed unread
            · simp [ended] at h
        | cons event rest =>
            rw [Channel.receive_of_unread missed unread] at h
            cases h
            exact .receive found phase missed unread
      · rw [Channel.receive_of_missed missed] at h
        cases h
        exact .lag found phase missed

/-- Storing takes the event out of the hand of its holder. -/
theorem Step.of_store? {session next : Session} {number : Nat}
    (h : session.store? number = some next)
    : Step session (.store number) next := by
  simp only [store?, bind, Option.bind_eq_some_iff] at h
  obtain ⟨stream, found, event, held, h⟩ := h
  cases h
  exact .store found (Stream.inHand?_eq_some.mp held)

/-- The view covers every action that can happen. -/
theorem Step.of_step? {session next : Session} {action : Action}
    (h : session.step? action = some next)
    : Step session action next := by
  cases action with
  | watch => cases h; exact .watch
  | closeEvents => cases h; exact .closeEvents
  | stop => cases h; exact .stop
  | send event =>
      simp only [step?] at h
      split at h
      · cases h
      · next accepted => cases h; exact .send (Bool.eq_false_iff.mpr accepted)
  | receive number => exact .of_receive? h
  | store number => exact .of_store? h
  | hangUp number =>
      obtain ⟨stream, changed, found, can, rfl⟩ := change?_eq_some.mp h
      cases can
      exact .hangUp found
  | read number =>
      obtain ⟨stream, changed, found, can, rfl⟩ := change?_eq_some.mp h
      cases can
      exact .read found
  | look number =>
      obtain ⟨stream, changed, found, can, rfl⟩ := change?_eq_some.mp h
      simp only [Stream.look?] at can
      split at can
      · next seen phase =>
          obtain ⟨entry, upcoming, rfl⟩ := Option.map_eq_some_iff.mp can
          exact .look found phase upcoming
      · cases can
  | begin number =>
      obtain ⟨stream, changed, found, can, rfl⟩ := change?_eq_some.mp h
      simp only [Stream.begin?] at can
      split at can
      · next seen phase =>
          split at can
          · cases can
          · next complete =>
              split at can
              · next connected =>
                  cases can
                  exact .begin found phase (Nat.le_of_not_lt complete) connected
              · next alone =>
                  cases can
                  exact .beginAlone found phase (Bool.eq_false_iff.mpr alone)
      · cases can
  | take number =>
      simp only [step?] at h
      split at h
      · next free =>
          obtain ⟨stream, changed, found, can, rfl⟩ := change?_eq_some.mp h
          simp only [Stream.take?] at can
          split at can
          · next phase =>
              split at can
              · next current => cases can; exact .take found phase free current
              · next stale => cases can; exact .takeStale found phase free stale
          · cases can
      · cases h
  | push number =>
      obtain ⟨stream, changed, found, can, rfl⟩ := change?_eq_some.mp h
      simp only [Stream.push?] at can
      split at can
      · next list phase =>
          split at can
          · next alone => cases can; exact .pushAlone found phase (by simpa using alone)
          · next connected =>
              split at can
              · next room => cases can; exact .push found phase (by simpa using connected) room
              · cases can
      · cases can
  | quit number =>
      obtain ⟨stream, changed, found, can, rfl⟩ := change?_eq_some.mp h
      split at can
      · simp only [Stream.quit?] at can
        split at can
        · next phase => cases can; exact .quit found (Or.inl phase)
        · next phase => cases can; exact .quit found (Or.inr phase)
        · cases can
      · cases can

end NodeDevices.Session
