import NodeDevices.Proofs.Session.Pushes

/-! What becomes of the events of a session, whichever streams receive them: each is stored
once, in the order of sending, unless a full channel gave its place to a further one, of
which some feeder is told.
-/

namespace NodeDevices.Session

open Health (Event Channel)

/-- Nothing is left to be received, and everything that was received has been stored. -/
def Drained (session : Session) : Prop :=
  session.channel.unread = [] ∧ session.inHand = []

instance (session : Session) : Decidable session.Drained :=
  inferInstanceAs (Decidable (_ ∧ _))

/-- The accounts of events in a history agree with the session that it has led to. -/
structure Chronicle.Accounted (chronicle : Chronicle) : Prop
    extends chronicle.history.Accounts chronicle.session.channel where
  /-- What was received is stored in the same order, but for what is still in a hand. -/
  hands : chronicle.history.received = chronicle.history.stored ++ chronicle.session.inHand

namespace Chronicle

variable {chronicle next : Chronicle} {number : Nat} {stream : Stream} {event : Event}
  {rest : List Event}

/-- Accounts stay right when neither the channel nor a hand changes, whatever is pushed or read. -/
theorem Accounted.pushing (h : chronicle.Accounted)
    (channel : next.session.channel = chronicle.session.channel)
    (hands : next.session.inHand = chronicle.session.inHand)
    (traffic : next.history.toTraffic = chronicle.history.toTraffic)
    (stored : next.history.stored = chronicle.history.stored)
    : next.Accounted where
  toAccounts := by
    rw [channel, traffic]
    exact h.toAccounts
  hands := by
    rw [hands, traffic, stored]
    exact h.hands

/-- A send keeps the accounts: nothing is received. -/
theorem Accounted.send (h : chronicle.Accounted) (event : Event)
    : Accounted {
        session := { chronicle.session with channel := chronicle.session.channel.send event }
        history := chronicle.history.record chronicle.session (.send event)
      } where
  toAccounts := h.toAccounts.send event
  hands := (Channel.Traffic.received_send _ _ _).trans h.hands

/-- Reception keeps the accounts: the oldest event goes from the channel into a hand. -/
theorem Accounted.receive (h : chronicle.Accounted)
    (unique : ReaderUnique chronicle.session.streams)
    (found : chronicle.session.streams[number]? = some stream) (phase : stream.phase = .reading)
    (missed : chronicle.session.channel.missed = 0)
    (unread : chronicle.session.channel.unread = event :: rest)
    : Accounted {
        session := {
          chronicle.session.replace number { stream with phase := .storing event } with
          channel := { chronicle.session.channel with unread := rest } }
        history := chronicle.history.record chronicle.session (.receive number)
      } where
  toAccounts := by
    have accounts := h.toAccounts.receive
    rwa [Channel.receive_of_unread missed unread] at accounts
  hands := by
    have holds : stream.holdsReader = true := by simp [Stream.holdsReader, phase]
    have hands := h.hands
    rw [inHand_of_reading unique found phase, List.append_nil] at hands
    rw [History.record_receive missed unread, inHand]
    change Channel.Traffic.received _ = chronicle.history.stored
      ++ (chronicle.session.streams.set number _).filterMap Stream.inHand?
    rw [filterMap_inHand?_set_of_holder unique found holds, ← hands]
    simp [Channel.Traffic.received, Channel.Traffic.leaving, Stream.inHand?]

/-- Storing keeps the accounts: the event in the hand is stored after all the others. -/
theorem Accounted.store (h : chronicle.Accounted)
    (unique : ReaderUnique chronicle.session.streams)
    (found : chronicle.session.streams[number]? = some stream)
    (phase : stream.phase = .storing event)
    : Accounted {
        session := {
          chronicle.session.replace number (stream.announce
            (chronicle.session.roster.setHealth event.id event.health).healthView) with
          roster := chronicle.session.roster.setHealth event.id event.health }
        history := { chronicle.history with stored := chronicle.history.stored ++ [event] }
      } := by
  have holds : stream.holdsReader = true := by simp [Stream.holdsReader, phase]
  refine { h with hands := ?_ }
  rw [inHand]
  change chronicle.history.received = (chronicle.history.stored ++ [event])
    ++ (chronicle.session.streams.set number _).filterMap Stream.inHand?
  rw [filterMap_inHand?_set_of_holder unique found holds, h.hands,
    inHand_of_storing unique found phase]
  simp [Stream.inHand?, Stream.announce]

/-- No step of a session gets the accounts wrong. -/
theorem Accounted.step (h : chronicle.Accounted)
    (unique : ReaderUnique chronicle.session.streams) {action : Action} {session : Session}
    (step : Step chronicle.session action session)
    : Accounted {
        session, history := chronicle.history.record chronicle.session action } := by
  cases step with
  | watch => exact h.pushing rfl (by simp [inHand]; rfl) rfl rfl
  | send => exact h.send _
  | stop => exact h.pushing rfl rfl rfl rfl
  | closeEvents => exact ⟨⟨h.order, h.told, h.bounded, h.full, h.peak⟩, h.hands⟩
  | hangUp found | read found | look found phase | take found phase | takeStale found phase
  | begin found phase | push found phase | beginAlone found phase | pushAlone found phase =>
      refine h.pushing rfl (filterMap_inHand?_set found ?_) rfl rfl
      simp [Stream.inHand?, *]
  | closed found phase missed empty =>
      rw [History.record_closed missed empty]
      refine h.pushing rfl (filterMap_inHand?_set found ?_) rfl rfl
      simp [Stream.inHand?, phase]
  | quit found phase =>
      refine h.pushing rfl (filterMap_inHand?_set found ?_) rfl rfl
      rcases phase with phase | phase <;> simp [Stream.inHand?, phase]
  | lag _ _ missed =>
      have accounts := h.toAccounts.receive
      rw [Channel.receive_of_missed missed] at accounts
      refine ⟨accounts, ?_⟩
      rw [History.record_lag missed]
      exact h.hands
  | receive found phase missed unread => exact h.receive unique found phase missed unread
  | store found phase =>
      rw [History.record_store found phase]
      exact h.store unique found phase

/-- The accounts of every run are right. -/
theorem run_accounted (roster : Roster) (actions : List Action)
    : (run roster actions).Accounted := by
  refine run_induction (motive := Accounted) ?_ ?_ actions
  · exact ⟨.start, rfl⟩
  · intro before _ _ accounted step
    exact accounted.step (run_readerUnique roster before) step

-----------------------------------------------------------------------------------------
-- What the accounts come to
-----------------------------------------------------------------------------------------

/-- Stored events are among those sent, in the same order. -/
theorem Accounted.stored_sublist (h : chronicle.Accounted)
    : chronicle.history.stored.Sublist chronicle.history.sent := by
  have stored : chronicle.history.stored.Sublist chronicle.history.received := by
    rw [h.hands]
    exact List.sublist_append_left _ _
  rw [h.order]
  exact (stored.trans (Channel.Traffic.leaving_sublist _ _)).trans
    (List.sublist_append_left _ _)

/-- While nothing was overwritten, what was sent is stored, in a hand or unread. -/
theorem Accounted.sent_of_not_overwritten (h : chronicle.Accounted)
    (kept : chronicle.history.overwritten = [])
    : chronicle.history.sent
      = chronicle.history.stored ++ chronicle.session.inHand
        ++ chronicle.session.channel.unread := by
  rw [h.order, ← Channel.Traffic.received_of_not_overwritten kept, h.hands]

/-- A drained channel has told of everything that it lost. -/
theorem Accounted.drained (h : chronicle.Accounted) (drained : chronicle.session.Drained)
    : chronicle.history.stored = chronicle.history.received
      ∧ chronicle.history.sent = chronicle.history.departed.map Prod.fst
      ∧ chronicle.history.lags.sum = chronicle.history.overwritten.length := by
  obtain ⟨unread, hands⟩ := drained
  have missed := h.missed_of_read unread
  have received := h.hands
  have order := h.order
  have told := h.told
  rw [hands, List.append_nil] at received
  rw [unread, List.append_nil] at order
  rw [missed, Nat.add_zero] at told
  exact ⟨received.symm, order, told⟩

/-- Whatever the streams do, events are stored in the order of sending and at most once, and the
roster is what the stored events make of it: each event sent was received and is stored or in a
hand, was overwritten in a full channel, or is unread. Once the channel is drained, feeders were
told of exactly the events that are not stored, and there are none if the channel never came to
more events than it holds.
-/
theorem run_storesOnceInOrder (roster : Roster) (actions : List Action)
    : let chronicle := run roster actions
      let history := chronicle.history
      history.stored.Sublist history.sent
      ∧ chronicle.session.roster = roster.replay history.stored
      ∧ history.sent = history.departed.map Prod.fst ++ chronicle.session.channel.unread
      ∧ history.received = history.stored ++ chronicle.session.inHand
      ∧ (history.overwritten = [] ↔ history.peak ≤ Channel.capacity)
      ∧ (history.peak ≤ Channel.capacity
          → history.sent
            = history.stored ++ chronicle.session.inHand ++ chronicle.session.channel.unread)
      ∧ (chronicle.session.Drained
          → history.sent = history.departed.map Prod.fst
            ∧ history.received = history.stored
            ∧ history.lags.sum = history.overwritten.length
            ∧ history.stored.length + history.lags.sum = history.sent.length
            ∧ (history.peak ≤ Channel.capacity → history.stored = history.sent)) := by
  intro chronicle history
  have accounts := run_accounted roster actions
  refine ⟨accounts.stored_sublist, (run_truthful roster actions).replayed, accounts.order,
    accounts.hands, accounts.peak, ?_, ?_⟩
  · intro room
    exact accounts.sent_of_not_overwritten (accounts.peak.mpr room)
  · intro drained
    obtain ⟨stored, sent, told⟩ := accounts.drained drained
    refine ⟨sent, stored.symm, told, ?_, ?_⟩
    · have total := Channel.Traffic.length_received_add_overwritten history.toTraffic
      have same := congrArg List.length sent
      rw [List.length_map] at same
      rw [stored, told, total, same]
    · intro room
      have kept := accounts.sent_of_not_overwritten (accounts.peak.mpr room)
      rw [drained.1, drained.2, List.append_nil, List.append_nil] at kept
      exact kept.symm

end Chronicle

end NodeDevices.Session
