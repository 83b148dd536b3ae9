import Mathlib.Data.List.Chain
import NodeDevices.Proofs.Session.Delivery
import NodeDevices.Proofs.Session.Pushes

/-! How the lists that are pushed on a stream follow one another. When every event brings a
change, and none is lost, no list is pushed twice in a row, and the list that is pushed for an
event differs from what was true before at the event's device only.
-/

namespace NodeDevices

open Health (Event)

/-- The views name the same devices, and show another health at exactly one id. -/
def Session.View.DiffersOnlyAt (id : String) (before after : Session.View) : Prop :=
  id ∈ before.map Prod.fst
  ∧ before.Forall₂ (fun old new => old.1 = new.1 ∧ (old.2 ≠ new.2 ↔ old.1 = id)) after

/-- Storing a change makes the view differ at its device only, when ids are distinct. -/
theorem Roster.ChangedBy.differsOnlyAt {roster : Roster} {event : Event}
    (h : roster.ChangedBy event) (distinct : roster.ids.Nodup)
    : Session.View.DiffersOnlyAt event.id roster.healthView
        (roster.setHealth event.id event.health).healthView := by
  obtain ⟨health, known, other⟩ := h
  refine ⟨?_, ?_⟩
  · rw [map_fst_healthView, ← health?_isSome_iff, known]
    rfl
  · rw [healthView_setHealth, List.forall₂_map_right_iff, List.forall₂_same]
    intro entry member
    obtain ⟨device, advertised, rfl⟩ := List.mem_map.mp member
    by_cases same : device.id = event.id
    · have shown := health?_of_mem distinct advertised
      rw [same, known] at shown
      simp [same, ← Option.some.inj shown, other]
    · simp [same]

namespace Session

-----------------------------------------------------------------------------------------
-- Histories grow
-----------------------------------------------------------------------------------------

/-- What was sent stays sent. -/
theorem History.sent_prefix_record (history : History) (session : Session) (action : Action)
    : history.sent <+: (history.record session action).sent := by
  cases action with
  | send => exact List.prefix_append _ _
  | receive => simp [record]
  | _ => exact List.prefix_rfl

/-- What was overwritten stays lost. -/
theorem History.overwritten_prefix_record (history : History) (session : Session)
    (action : Action)
    : history.overwritten <+: (history.record session action).overwritten := by
  cases action with
  | send => exact Health.Channel.Traffic.overwritten_prefix_send _ _ _
  | receive => simp [record]
  | _ => exact List.prefix_rfl

-----------------------------------------------------------------------------------------
-- No list twice in a row
-----------------------------------------------------------------------------------------

namespace Chronicle

variable {roster : Roster} {chronicle next : Chronicle} {number : Nat}
  {stream changed : Stream}

/-- Each list that is pushed on a stream, or about to be, is another than the one before. -/
structure Varying (chronicle : Chronicle) : Prop where
  chain : ∀ number, (chronicle.history.pushedOn number).IsChain (· ≠ ·)
  coming
    : ∀ (number : Nat) (stream : Stream) (list : View),
        chronicle.session.streams[number]? = some stream
        → stream.phase = .pushing list
        → (chronicle.history.pushedOn number).getLast? ≠ some list

/-- A feeder that pushes nothing may only get another list to push than the last. -/
theorem Varying.replace (h : chronicle.Varying)
    (found : chronicle.session.streams[number]? = some stream)
    (streams : next.session.streams = chronicle.session.streams.set number changed)
    (pushed : next.history.pushed = chronicle.history.pushed)
    (other
      : ∀ list,
          changed.phase = .pushing list
          → (chronicle.history.pushedOn number).getLast? ≠ some list)
    : next.Varying := by
  have samePushed := History.pushedOn_congr pushed
  refine { chain := ?_, coming := ?_ }
  · intro number
    rw [samePushed]
    exact h.chain number
  · intro position held list foundHeld phase
    rw [samePushed]
    rw [streams, getElem?_set_of_found found] at foundHeld
    split at foundHeld
    · next same =>
        cases foundHeld
        exact same ▸ other list phase
    · exact h.coming position held list foundHeld phase

/-- A feeder may push another list than the last. -/
theorem Varying.push (h : chronicle.Varying)
    (found : chronicle.session.streams[number]? = some stream) {list : View}
    (other : (chronicle.history.pushedOn number).getLast? ≠ some list)
    (done : ∀ list, changed.phase ≠ .pushing list)
    : Varying {
        session := chronicle.session.replace number changed
        history := {
          chronicle.history with pushed := chronicle.history.pushed ++ [(number, list)] }
      } := by
  refine { chain := ?_, coming := ?_ }
  · intro position
    rw [History.pushedOn_append]
    split
    · next same =>
        subst same
        refine (h.chain number).append (.singleton _) ?_
        intro last atEnd first atStart same
        cases Option.some.inj atStart
        exact other (same ▸ atEnd)
    · exact h.chain position
  · intro position held pending foundHeld phase
    simp only [Session.replace, getElem?_set_of_found found] at foundHeld
    rw [History.pushedOn_append]
    split at foundHeld
    · cases foundHeld
      exact absurd phase (done pending)
    · next different =>
        rw [if_neg (Ne.symm different)]
        exact h.coming position held pending foundHeld phase

/-- While every event brings a change and none is lost, the event in a hand brings a change. -/
theorem changedBy_of_storing (accounts : chronicle.Accounted)
    (truthful : chronicle.Truthful roster)
    (unique : ReaderUnique chronicle.session.streams)
    (changes : roster.AllChange chronicle.history.sent)
    (kept : chronicle.history.overwritten = [])
    (found : chronicle.session.streams[number]? = some stream) {event : Event}
    (phase : stream.phase = .storing event)
    : chronicle.session.roster.ChangedBy event := by
  rw [accounts.sent_of_not_overwritten kept, inHand_of_storing unique found phase,
    Roster.allChange_append, Roster.allChange_append, ← truthful.replayed] at changes
  exact changes.1.2.1

/-- While every event brings a change and none is lost, no step pushes a list again. -/
theorem Varying.step (h : chronicle.Varying) (accounts : chronicle.Accounted)
    (truthful : chronicle.Truthful roster)
    (unique : ReaderUnique chronicle.session.streams)
    (changes : roster.AllChange chronicle.history.sent)
    (kept : chronicle.history.overwritten = []) {action : Action} {session : Session}
    (step : Step chronicle.session action session)
    : Varying { session, history := chronicle.history.record chronicle.session action } := by
  cases step with
  | watch =>
      refine { chain := h.chain, coming := ?_ }
      intro number stream list found phase
      rcases getElem?_append_fresh found with found | ⟨_, rfl⟩
      · exact h.coming number stream list found phase
      · cases phase
  | send => exact ⟨h.chain, h.coming⟩
  | closeEvents => exact ⟨h.chain, h.coming⟩
  | stop => exact ⟨h.chain, h.coming⟩
  | lag _ _ missed =>
      rw [History.record_lag missed]
      exact ⟨h.chain, h.coming⟩
  | @hangUp number stream found =>
      exact h.replace found rfl rfl fun list phase => h.coming number stream list found phase
  | read found =>
      refine h.replace found rfl rfl fun list phase => h.coming _ _ list found ?_
      rwa [Stream.next_phase] at phase
  | look found => exact h.replace found rfl rfl (by simp)
  | begin found phase complete connected =>
      have agrees := truthful.agrees _ _ found
      simp only [Stream.Agrees, phase] at agrees
      rw [History.record_begin found phase connected]
      refine h.push found ?_ (by simp)
      simp [agrees.1]
  | beginAlone found phase alone =>
      rw [History.record_beginAlone found alone]
      exact h.replace found rfl rfl (by simp)
  | take found => exact h.replace found rfl rfl (by simp)
  | takeStale found phase free stale =>
      have agrees := truthful.agrees _ _ found
      simp only [Stream.Agrees, phase] at agrees
      refine h.replace found rfl rfl ?_
      intro list pushing last
      cases pushing
      exact stale (Option.some.inj (last.symm.trans agrees))
  | closed found _ missed empty =>
      rw [History.record_closed missed empty]
      exact h.replace found rfl rfl (by simp)
  | receive found phase missed unread =>
      rw [History.record_receive missed unread]
      exact h.replace found rfl rfl (by simp)
  | store found phase =>
      have change := changedBy_of_storing accounts truthful unique changes kept found phase
      rw [History.record_store found phase]
      refine h.replace found rfl rfl ?_
      intro list pushing last
      cases pushing
      rw [truthful.pushed_of_storing found phase] at last
      exact change.healthView_ne (Option.some.inj last).symm
  | push found phase connected =>
      rw [History.record_push found phase connected]
      exact h.push found (h.coming _ _ _ found phase) (by simp)
  | pushAlone found phase alone =>
      rw [History.record_pushAlone found alone]
      exact h.replace found rfl rfl (by simp)
  | quit found => exact h.replace found rfl rfl (by simp)

/-- In a run whose events all bring changes, and none is lost, no list is pushed again. -/
theorem run_varying (roster : Roster) (actions : List Action)
    (changes : roster.AllChange (run roster actions).history.sent)
    (kept : (run roster actions).history.overwritten = [])
    : (run roster actions).Varying := by
  -- both conditions go back to the beginnings of a run, as histories only grow
  refine run_induction (motive := fun chronicle =>
    roster.AllChange chronicle.history.sent → chronicle.history.overwritten = []
      → chronicle.Varying) ?_ ?_ actions changes kept
  · intro _ _
    exact ⟨fun _ => .nil, fun number stream list found => by simp at found⟩
  · intro before action session ih step changes kept
    obtain ⟨later, sent⟩ := (run roster before).history.sent_prefix_record
      (run roster before).session action
    have changesBefore : roster.AllChange (run roster before).history.sent := by
      rw [← sent, Roster.allChange_append] at changes
      exact changes.1
    have keptBefore : (run roster before).history.overwritten = [] :=
      List.prefix_nil.mp (kept ▸ History.overwritten_prefix_record _ _ _)
    exact (ih changesBefore keptBefore).step (run_accounted roster before)
      (run_truthful roster before) (run_readerUnique roster before) changesBefore keptBefore
      step

end Chronicle

-----------------------------------------------------------------------------------------
-- The list that comes next
-----------------------------------------------------------------------------------------

/-- The feeder has nothing else to push than a list, unless it ended for want of a client. -/
def Stream.Owes (stream : Stream) (list : View) : Prop :=
  stream.phase = .pushing list ∨ stream.phase = .ended ∧ stream.connected = false

/-- After some earlier lists a given one comes next on a stream: it was pushed right after
them, or nothing was and its feeder owes it.
-/
def Chronicle.Delivers (chronicle : Chronicle) (number : Nat) (earlier : List View)
    (list : View) : Prop :=
  earlier ++ [list] <+: chronicle.history.pushedOn number
  ∨ chronicle.history.pushedOn number = earlier
    ∧ ∃ stream, chronicle.session.streams[number]? = some stream ∧ stream.Owes list

namespace Chronicle

variable {chronicle next : Chronicle} {number other : Nat} {stream changed : Stream}
  {earlier : List View} {list : View}

/-- A list stays the next one when a feeder goes on that pushes nothing. -/
theorem Delivers.replace (h : chronicle.Delivers number earlier list)
    (found : chronicle.session.streams[other]? = some stream)
    (streams : next.session.streams = chronicle.session.streams.set other changed)
    (pushed : next.history.pushed = chronicle.history.pushed)
    (owes : stream.Owes list → changed.Owes list)
    : next.Delivers number earlier list := by
  unfold Delivers
  rw [History.pushedOn_congr pushed, streams, getElem?_set_of_found found]
  rcases h with done | ⟨nothing, held, foundHeld, heldOwes⟩
  · exact Or.inl done
  · refine Or.inr ⟨nothing, ?_⟩
    split
    · next same =>
        subst same
        cases found.symm.trans foundHeld
        exact ⟨changed, rfl, owes heldOwes⟩
    · exact ⟨held, foundHeld, heldOwes⟩

/-- A list stays the next one when a feeder pushes what it owes, or another feeder pushes. -/
theorem Delivers.push (h : chronicle.Delivers number earlier list)
    (found : chronicle.session.streams[other]? = some stream) {pushed : View}
    (owes : stream.Owes list → pushed = list)
    : Delivers {
        session := chronicle.session.replace other changed
        history := {
          chronicle.history with pushed := chronicle.history.pushed ++ [(other, pushed)] }
      } number earlier list := by
  unfold Delivers
  rw [History.pushedOn_append, Session.replace, getElem?_set_of_found found]
  rcases h with done | ⟨nothing, held, foundHeld, heldOwes⟩
  · refine Or.inl ?_
    split
    · exact done.trans (List.prefix_append _ _)
    · exact done
  · by_cases same : other = number
    · subst same
      cases found.symm.trans foundHeld
      rw [if_pos rfl, nothing, owes heldOwes]
      exact Or.inl List.prefix_rfl
    · rw [if_neg same, if_neg (Ne.symm same)]
      exact Or.inr ⟨nothing, held, foundHeld, heldOwes⟩

/-- No step puts another list before the one that comes next. -/
theorem Delivers.step (h : chronicle.Delivers number earlier list) {action : Action}
    {session : Session} (step : Step chronicle.session action session)
    : Delivers {
        session, history := chronicle.history.record chronicle.session action
      } number earlier list := by
  cases step with
  | watch =>
      refine h.imp_right fun ⟨nothing, held, found, owes⟩ => ⟨nothing, held, ?_, owes⟩
      rwa [List.getElem?_append_left (List.getElem?_eq_some_iff.mp found).1]
  | send => exact h
  | closeEvents => exact h
  | stop => exact h
  | lag _ _ missed =>
      rw [History.record_lag missed]
      exact h
  | hangUp found =>
      exact h.replace found rfl rfl (Or.imp_right fun ended => ⟨ended.1, rfl⟩)
  | read found =>
      exact h.replace found rfl rfl fun owes => by simpa [Stream.Owes] using owes
  | look found phase | take found phase | takeStale found phase =>
      exact h.replace found rfl rfl fun owes => by simp [Stream.Owes, phase] at owes
  | quit found phase =>
      refine h.replace found rfl rfl fun owes => ?_
      rcases phase with phase | phase <;> simp [Stream.Owes, phase] at owes
  | closed found phase missed empty =>
      rw [History.record_closed missed empty]
      exact h.replace found rfl rfl fun owes => by simp [Stream.Owes, phase] at owes
  | receive found phase missed unread =>
      rw [History.record_receive missed unread]
      exact h.replace found rfl rfl fun owes => by simp [Stream.Owes, phase] at owes
  | store found phase =>
      rw [History.record_store found phase]
      exact h.replace found rfl rfl fun owes => by simp [Stream.Owes, phase] at owes
  | begin found phase complete connected =>
      rw [History.record_begin found phase connected]
      exact h.push found fun owes => by simp [Stream.Owes, phase] at owes
  | beginAlone found phase alone =>
      rw [History.record_beginAlone found alone]
      exact h.replace found rfl rfl fun owes => by simp [Stream.Owes, phase] at owes
  | push found phase connected =>
      rw [History.record_push found phase connected]
      exact h.push found fun owes => by simpa [Stream.Owes, phase] using owes
  | pushAlone found phase alone =>
      rw [History.record_pushAlone found alone]
      exact h.replace found rfl rfl fun _ => Or.inr ⟨rfl, alone⟩

/-- However a session goes on, no other list comes before the one that comes next. -/
theorem Delivers.foldl_perform (h : chronicle.Delivers number earlier list)
    (actions : List Action)
    : (actions.foldl perform chronicle).Delivers number earlier list :=
  foldl_perform_induction (motive := fun chronicle => chronicle.Delivers number earlier list)
    h (fun _ _ _ h step => h.step step) actions

/-- Storing the event in a hand makes the list of what is true then the next one. -/
theorem delivers_of_storing (found : chronicle.session.streams[number]? = some stream)
    {event : Event} (phase : stream.phase = .storing event)
    : (chronicle.perform (.store number)).Delivers number (chronicle.history.pushedOn number)
        (chronicle.session.roster.setHealth event.id event.health).healthView := by
  have stored : chronicle.session.step? (.store number)
      = some { chronicle.session.replace number (stream.announce
            (chronicle.session.roster.setHealth event.id event.health).healthView) with
          roster := chronicle.session.roster.setHealth event.id event.health } := by
    simp [step?, store?, found, Stream.inHand?_eq_some.mpr phase]
  rw [perform, stored]
  refine Or.inr ⟨rfl, stream.announce _, ?_, Or.inl rfl⟩
  simp [Session.replace, getElem?_set_of_found found]

end Chronicle

end Session

end NodeDevices
