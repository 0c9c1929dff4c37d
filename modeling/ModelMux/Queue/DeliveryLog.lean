/-
The log of the broker and the stories of its deliveries.

Filtered by one delivery, the log is the story of that delivery, which is a function
of the phase of its task.  Read as a whole it keeps the handlers, the cancellation of
the consumer and the close of the connection in order.
-/

import Mathlib.Data.List.Count
import ModelMux.Foundation.LabelledRun
import ModelMux.Queue.RabbitMqBroker

namespace ModelMux.Queue

variable {Error : Type}

/-! ### Entries about a delivery -/

namespace BrokerEntry

def tag? : BrokerEntry Error → Option ℕ
  | .arrived tag _ => some tag
  | .started tag => some tag
  | .returned tag _ => some tag
  | .acked tag => some tag
  | .rejected tag => some tag
  | _ => none

def isAbout (tag : ℕ) (entry : BrokerEntry Error) : Bool := entry.tag? = some tag

def answers (tag : ℕ) : BrokerEntry Error → Bool
  | .acked answered => answered = tag
  | .rejected answered => answered = tag
  | _ => false

theorem isAbout_of_answers {tag : ℕ} {entry : BrokerEntry Error}
    (answered : entry.answers tag = true) : entry.isAbout tag = true := by
  cases entry with
  | acked other => simpa [answers, isAbout, tag?] using answered
  | rejected other => simpa [answers, isAbout, tag?] using answered
  | _ => cases answered

end BrokerEntry

open BrokerEntry (isAbout)

theorem filter_about {tag : ℕ} {entry : BrokerEntry Error} (tagged : entry.tag? = some tag)
    (log : List (BrokerEntry Error)) :
    (log ++ [entry]).filter (isAbout tag) = log.filter (isAbout tag) ++ [entry] := by
  simp [isAbout, tagged]

theorem filter_silent {tag : ℕ} {entry : BrokerEntry Error} (other : entry.tag? ≠ some tag)
    (log : List (BrokerEntry Error)) :
    (log ++ [entry]).filter (isAbout tag) = log.filter (isAbout tag) := by
  simp [isAbout, other]

/-! ### Rules of the log -/

/-- Every handler that has been started has returned or thrown. -/
def NoneRunning (log : List (BrokerEntry Error)) : Prop :=
  ∀ tag, .started tag ∈ log → ∃ result, .returned tag result ∈ log

def JustMalformed (tag : ℕ) (log : List (BrokerEntry Error)) : Prop :=
  ∃ content, log.getLast? = some (.arrived tag content) ∧ readEnvelope content = none

def MayBeCalled (before : List (BrokerEntry Error)) : BrokerEntry Error → Prop
  | .started _ => .stopped ∉ before
  | .acked tag => .returned tag (.ok .ack) ∈ before
  | .rejected tag => .returned tag (.ok .deadLetter) ∈ before ∨ JustMalformed tag before
  | .cancelled _ => NoneRunning before
  | .closed => NoneRunning before
  | _ => True

/-! ### Stories -/

def TaskPhase.isOver : TaskPhase Error → Bool
  | .leaving _ => true
  | .settled => true
  | _ => false

/-- The entries about a delivery, by the phase of its task. -/
inductive Story (arrived tag : ℕ) : Option (TaskPhase Error) → List (BrokerEntry Error) → Prop
  | unseen (ahead : arrived ≤ tag) : Story arrived tag none []
  | leftAlone (seen : tag < arrived) (content : JsString) :
      Story arrived tag none [.arrived tag content]
  | handling (seen : tag < arrived) (content : JsString) :
      Story arrived tag (some .handling) [.arrived tag content, .started tag]
  | returned (seen : tag < arrived) (content : JsString)
      (result : Except (Option Error) Action) :
      Story arrived tag (some (.returned result))
        [.arrived tag content, .started tag, .returned tag result]
  | malformed (seen : tag < arrived) (content : JsString) {phase : TaskPhase Error}
      (ended : phase.isOver = true) :
      Story arrived tag (some phase) [.arrived tag content, .rejected tag]
  | acked (seen : tag < arrived) (content : JsString) {phase : TaskPhase Error}
      (ended : phase.isOver = true) :
      Story arrived tag (some phase)
        [.arrived tag content, .started tag, .returned tag (.ok .ack), .acked tag]
  | deadLettered (seen : tag < arrived) (content : JsString) {phase : TaskPhase Error}
      (ended : phase.isOver = true) :
      Story arrived tag (some phase)
        [.arrived tag content, .started tag, .returned tag (.ok .deadLetter), .rejected tag]
  | threw (seen : tag < arrived) (content : JsString) (error : Option Error)
      {phase : TaskPhase Error} (ended : phase.isOver = true) :
      Story arrived tag (some phase)
        [.arrived tag content, .started tag, .returned tag (.error error)]

namespace Story

variable {arrived tag : ℕ} {phase : Option (TaskPhase Error)} {entries : List (BrokerEntry Error)}

theorem later (story : Story arrived tag phase entries) (other : tag ≠ arrived) :
    Story (arrived + 1) tag phase entries := by
  cases story with
  | unseen ahead => exact .unseen (by omega)
  | leftAlone seen content => exact .leftAlone (by omega) content
  | handling seen content => exact .handling (by omega) content
  | returned seen content result => exact .returned (by omega) content result
  | malformed seen content ended => exact .malformed (by omega) content ended
  | acked seen content ended => exact .acked (by omega) content ended
  | deadLettered seen content ended => exact .deadLettered (by omega) content ended
  | threw seen content error ended => exact .threw (by omega) content error ended

theorem empty (story : Story arrived arrived phase entries) : phase = none ∧ entries = [] := by
  cases story with
  | unseen ahead => exact ⟨rfl, rfl⟩
  | _ => omega

theorem returns (story : Story arrived tag (some .handling) entries)
    (result : Except (Option Error) Action) :
    Story arrived tag (some (.returned result)) (entries ++ [.returned tag result]) := by
  cases story with
  | handling seen content => exact .returned seen content result
  | _ => contradiction

theorem returned_mem {result : Except (Option Error) Action}
    (story : Story arrived tag (some (.returned result)) entries) :
    .returned tag result ∈ entries := by
  cases story with
  | returned seen content => simp
  | _ => contradiction

theorem ack (story : Story arrived tag (some (.returned (.ok .ack))) entries)
    {next : TaskPhase Error} (ended : next.isOver = true) :
    Story arrived tag (some next) (entries ++ [.acked tag]) := by
  cases story with
  | returned seen content => exact .acked seen content ended
  | _ => contradiction

theorem deadLetter (story : Story arrived tag (some (.returned (.ok .deadLetter))) entries)
    {next : TaskPhase Error} (ended : next.isOver = true) :
    Story arrived tag (some next) (entries ++ [.rejected tag]) := by
  cases story with
  | returned seen content => exact .deadLettered seen content ended
  | _ => contradiction

theorem throw {error : Option Error}
    (story : Story arrived tag (some (.returned (.error error))) entries)
    {next : TaskPhase Error} (ended : next.isOver = true) :
    Story arrived tag (some next) entries := by
  cases story with
  | returned seen content => exact .threw seen content error ended
  | _ => contradiction

theorem settle {failure : Option (BrokerError Error)}
    (story : Story arrived tag (some (.leaving failure)) entries) :
    Story arrived tag (some .settled) entries := by
  cases story with
  | malformed seen content ended => exact .malformed seen content rfl
  | acked seen content ended => exact .acked seen content rfl
  | deadLettered seen content ended => exact .deadLettered seen content rfl
  | threw seen content error ended => exact .threw seen content error rfl

theorem handler_returned (story : Story arrived tag phase entries)
    (idle : phase ≠ some .handling) (started : .started tag ∈ entries) :
    ∃ result, .returned tag result ∈ entries := by
  cases story with
  | handling seen content => exact absurd rfl idle
  | returned seen content result => exact ⟨result, by simp⟩
  | acked seen content ended => exact ⟨.ok .ack, by simp⟩
  | deadLettered seen content ended => exact ⟨.ok .deadLetter, by simp⟩
  | threw seen content error ended => exact ⟨.error error, by simp⟩
  | _ => simp at started

theorem answered_once (story : Story arrived tag phase entries) :
    entries.countP (BrokerEntry.answers tag) ≤ 1 := by
  cases story <;> simp [BrokerEntry.answers]

theorem thrown_unanswered (story : Story arrived tag phase entries) {error : Option Error}
    (threw : .returned tag (.error error) ∈ entries) :
    ∀ entry ∈ entries, entry.answers tag = false := by
  cases story with
  | returned seen content result => simp [BrokerEntry.answers]
  | threw seen content error ended => simp [BrokerEntry.answers]
  | _ => simp at threw

theorem answered_task (story : Story arrived tag phase entries) {entry : BrokerEntry Error}
    (member : entry ∈ entries) (answered : entry.answers tag = true) : phase ≠ none := by
  cases story with
  | unseen ahead => simp at member
  | leftAlone seen content =>
      rw [List.mem_singleton] at member
      rw [member] at answered
      cases answered
  | _ => simp

end Story

/-! ### The log of the broker -/

/-- How the log explains the state of the broker. -/
structure LogInvariant (broker : BrokerState Error) (log : List (BrokerEntry Error)) : Prop where
  rules : Throughout MayBeCalled log
  stories : ∀ tag, Story broker.arrived tag (broker.tasks tag) (log.filter (isAbout tag))
  stopped : .stopped ∈ log → broker.draining = true
  active : ∀ tag, broker.tasks tag = some .handling → tag ∈ broker.active
  undrained : ∀ tag, broker.tasks tag ≠ none →
    ∀ before content after, log = before ++ .arrived tag content :: after → .stopped ∉ before

namespace LogInvariant

variable {broker next : BrokerState Error} {log : List (BrokerEntry Error)}

theorem initial (Error : Type) : LogInvariant (.initial Error) [] where
  rules := throughout_nil _
  stories := fun tag => .unseen (Nat.zero_le tag)
  stopped := by simp
  active := by simp [BrokerState.initial]
  undrained := by simp [BrokerState.initial]

theorem filter_arrived (held : LogInvariant broker log) : log.filter (isAbout broker.arrived) = [] :=
  (held.stories broker.arrived).empty.2

theorem task_arrived (held : LogInvariant broker log) : broker.tasks broker.arrived = none :=
  (held.stories broker.arrived).empty.1

theorem keep (held : LogInvariant broker log) (tasks : next.tasks = broker.tasks)
    (arrived : next.arrived = broker.arrived) (active : next.active = broker.active)
    (draining : broker.draining = true → next.draining = true) : LogInvariant next log where
  rules := held.rules
  stories := by
    rw [tasks, arrived]
    exact held.stories
  stopped := fun member => draining (held.stopped member)
  active := by
    rw [tasks, active]
    exact held.active
  undrained := by
    rw [tasks]
    exact held.undrained

theorem other (held : LogInvariant broker log) {entry : BrokerEntry Error}
    (untagged : entry.tag? = none)
    (allowed : MayBeCalled log entry) (drains : entry = .stopped → broker.draining = true) :
    LogInvariant broker (log ++ [entry]) where
  rules := throughout_snoc.mpr ⟨held.rules, allowed⟩
  stories := by
    intro tag
    rw [filter_silent (by simp [untagged])]
    exact held.stories tag
  stopped := by
    intro member
    rcases List.mem_append.mp member with earlier | now
    · exact held.stopped earlier
    · exact drains (List.mem_singleton.mp now).symm
  active := held.active
  undrained := by
    intro tag tasked before content after split
    rcases split_snoc split with ⟨_, rfl, _⟩ | ⟨rest, _, earlier⟩
    · cases untagged
    · exact held.undrained tag tasked before content rest earlier

theorem move (held : LogInvariant broker log) {tag : ℕ} {phase : TaskPhase Error}
    (tasked : broker.tasks tag ≠ none) (moved : phase ≠ .handling)
    (story : Story broker.arrived tag (some phase) (log.filter (isAbout tag))) :
    LogInvariant (broker.setTask tag phase) log where
  rules := held.rules
  stories := by
    intro other
    by_cases same : other = tag
    · subst same
      simpa [BrokerState.setTask] using story
    · simpa [BrokerState.setTask, same] using held.stories other
  stopped := held.stopped
  active := by
    intro other handled
    by_cases same : other = tag
    · subst same
      simp [BrokerState.setTask, moved] at handled
    · exact held.active other (by simpa [BrokerState.setTask, same] using handled)
  undrained := by
    intro other otherTasked
    by_cases same : other = tag
    · rw [same]
      exact held.undrained tag tasked
    · exact held.undrained other (by simpa [BrokerState.setTask, same] using otherTasked)

/-- The task of a delivery moves on with an entry about it. -/
theorem tell (held : LogInvariant broker log) {tag : ℕ} {phase : TaskPhase Error}
    {entry : BrokerEntry Error} (tasked : broker.tasks tag ≠ none) (moved : phase ≠ .handling)
    (tagged : entry.tag? = some tag) (here : ∀ other content, entry ≠ .arrived other content)
    (allowed : MayBeCalled log entry)
    (story : Story broker.arrived tag (some phase) (log.filter (isAbout tag) ++ [entry])) :
    LogInvariant (broker.setTask tag phase) (log ++ [entry]) where
  rules := throughout_snoc.mpr ⟨held.rules, allowed⟩
  stories := by
    intro other
    by_cases same : other = tag
    · subst same
      rw [filter_about tagged]
      simpa [BrokerState.setTask] using story
    · rw [filter_silent (by simpa [tagged] using Ne.symm same)]
      simpa [BrokerState.setTask, same] using held.stories other
  stopped := by
    intro member
    rcases List.mem_append.mp member with earlier | now
    · exact held.stopped earlier
    · rw [← List.mem_singleton.mp now] at tagged
      cases tagged
  active := by
    intro other handled
    by_cases same : other = tag
    · subst same
      simp [BrokerState.setTask, moved] at handled
    · exact held.active other (by simpa [BrokerState.setTask, same] using handled)
  undrained := by
    intro other otherTasked before content after split
    have wasTasked : broker.tasks other ≠ none := by
      by_cases same : other = tag
      · rw [same]
        exact tasked
      · simpa [BrokerState.setTask, same] using otherTasked
    rcases split_snoc split with ⟨_, now, _⟩ | ⟨rest, _, earlier⟩
    · exact absurd now (here other content)
    · exact held.undrained other wasTasked before content rest earlier

/-! ### Deliveries -/

theorem leaveAlone (held : LogInvariant broker log) (draining : broker.draining = true)
    (content : JsString) :
    LogInvariant { broker with arrived := broker.arrived + 1 }
      (log ++ [.arrived broker.arrived content]) where
  rules := throughout_snoc.mpr ⟨held.rules, trivial⟩
  stories := by
    intro tag
    by_cases same : tag = broker.arrived
    · subst same
      rw [filter_about rfl, held.filter_arrived, held.task_arrived]
      exact .leftAlone (Nat.lt_succ_self _) content
    · rw [filter_silent (by simpa [BrokerEntry.tag?] using Ne.symm same)]
      exact (held.stories tag).later same
  stopped := fun _ => draining
  active := held.active
  undrained := by
    intro tag tasked before content' after split
    rcases split_snoc split with ⟨_, now, _⟩ | ⟨rest, _, earlier⟩
    · cases now
      exact absurd held.task_arrived tasked
    · exact held.undrained tag tasked before content' rest earlier

/-- A delivery with a task; `entry` is the call of its handler or of `reject`. -/
theorem begin (held : LogInvariant broker log) (running : broker.draining = false)
    (content : JsString)
    {phase : TaskPhase Error} {entry : BrokerEntry Error}
    (tagged : entry.tag? = some broker.arrived)
    (here : ∀ other content, entry ≠ .arrived other content)
    (allowed : MayBeCalled (log ++ [.arrived broker.arrived content]) entry)
    (story : Story (broker.arrived + 1) broker.arrived (some phase)
      [.arrived broker.arrived content, entry]) :
    LogInvariant (broker.addTask phase) (log ++ [.arrived broker.arrived content, entry]) := by
  have unstopped : .stopped ∉ log := fun member => by simp [held.stopped member] at running
  have regrouped : log ++ [.arrived broker.arrived content, entry] =
      (log ++ [.arrived broker.arrived content]) ++ [entry] := by simp
  refine ⟨?_, ?_, ?_, ?_, ?_⟩
  · rw [regrouped]
    exact throughout_snoc.mpr ⟨throughout_snoc.mpr ⟨held.rules, trivial⟩, allowed⟩
  · intro tag
    rw [regrouped]
    by_cases same : tag = broker.arrived
    · subst same
      rw [filter_about tagged, filter_about rfl, held.filter_arrived]
      simpa [BrokerState.addTask, BrokerState.setTask] using story
    · rw [filter_silent (by simpa [tagged] using Ne.symm same),
        filter_silent (by simpa [BrokerEntry.tag?] using Ne.symm same)]
      simpa [BrokerState.addTask, BrokerState.setTask, same] using (held.stories tag).later same
  · intro member
    rw [regrouped] at member
    rcases List.mem_append.mp member with earlier | now
    · rcases List.mem_append.mp earlier with evenEarlier | before
      · exact absurd evenEarlier unstopped
      · simp at before
    · rw [← List.mem_singleton.mp now] at tagged
      cases tagged
  · intro tag handled
    by_cases same : tag = broker.arrived
    · simp [BrokerState.addTask, same]
    · have earlier := held.active tag
        (by simpa [BrokerState.addTask, BrokerState.setTask, same] using handled)
      simp [BrokerState.addTask, earlier]
  · intro tag tasked before content' after split member
    rw [regrouped] at split
    rcases split_snoc split with ⟨_, now, _⟩ | ⟨rest, _, earlier⟩
    · exact here tag content' now
    · rcases split_snoc earlier with ⟨rfl, _, _⟩ | ⟨_, _, evenEarlier⟩
      · exact unstopped member
      · exact unstopped (evenEarlier ▸ List.mem_append_left _ member)

theorem deliver (held : LogInvariant broker log) {content : JsString} {thrown : Option (Option Error)}
    {added : List (BrokerEntry Error)}
    (delivered : broker.deliver content thrown = some (next, added)) :
    LogInvariant next (log ++ added) := by
  unfold BrokerState.deliver at delivered
  split_ifs at delivered with subscribed draining
  · cases delivered
    exact held.leaveAlone draining content
  · have running : broker.draining = false := by simpa using draining
    split at delivered
    · rename_i malformed
      cases delivered
      refine held.begin running content rfl (by simp) (Or.inr ⟨content, by simp, malformed⟩) ?_
      exact .malformed (Nat.lt_succ_self _) content rfl
    · cases delivered
      refine held.begin running content rfl (by simp) ?_ (.handling (Nat.lt_succ_self _) content)
      intro member
      rcases List.mem_append.mp member with earlier | now
      · exact draining (held.stopped earlier)
      · simp at now

theorem handlerReturns (held : LogInvariant broker log) {tag : ℕ}
    {result : Except (Option Error) Action} {added : List (BrokerEntry Error)}
    (returned : broker.handlerReturns tag result = some (next, added)) :
    LogInvariant next (log ++ added) := by
  unfold BrokerState.handlerReturns at returned
  split at returned
  · rename_i handling
    cases returned
    have story := held.stories tag
    rw [handling] at story
    exact held.tell (by simp [handling]) (by simp) rfl (by simp) trivial (story.returns result)
  · cases returned

theorem handle (held : LogInvariant broker log) {tag : ℕ} {thrown : Option (Option Error)}
    {added : List (BrokerEntry Error)}
    (handled : broker.handle tag thrown = some (next, added)) : LogInvariant next (log ++ added) := by
  have returned {result : Except (Option Error) Action}
      (phase : broker.tasks tag = some (.returned result)) : .returned tag result ∈ log := by
    have story := held.stories tag
    rw [phase] at story
    exact List.mem_of_mem_filter story.returned_mem
  have story := held.stories tag
  unfold BrokerState.handle at handled
  split at handled
  · rename_i phase
    cases handled
    rw [phase] at story
    exact held.tell (by simp [phase]) (by simp) rfl (by simp) (returned phase) (story.ack rfl)
  · rename_i phase
    cases handled
    rw [phase] at story
    exact held.tell (by simp [phase]) (by simp) rfl (by simp) (Or.inl (returned phase))
      (story.deadLetter rfl)
  · rename_i error phase
    cases handled
    rw [phase] at story
    rw [List.append_nil]
    exact held.move (by simp [phase]) (by simp) (story.throw rfl)
  · cases handled

theorem settleTask (held : LogInvariant broker log) {tag : ℕ}
    (settled : broker.settleTask tag = some next) : LogInvariant next log := by
  unfold BrokerState.settleTask at settled
  split at settled
  · rename_i failure phase
    cases settled
    have story := held.stories tag
    rw [phase] at story
    exact (held.move (by simp [phase]) (by simp) story.settle).keep rfl rfl rfl id
  · cases settled

theorem deleteTask (held : LogInvariant broker log) {tag : ℕ}
    (deleted : broker.deleteTask tag = some next) : LogInvariant next log := by
  unfold BrokerState.deleteTask at deleted
  split_ifs at deleted with settled
  cases deleted
  refine ⟨held.rules, held.stories, held.stopped, ?_, held.undrained⟩
  intro other (handling : broker.tasks other = some .handling)
  have different : other ≠ tag := by
    rintro rfl
    simp [BrokerState.isSettled, handling] at settled
  exact (List.mem_erase_of_ne different).mpr (held.active other handling)

end LogInvariant

end ModelMux.Queue
