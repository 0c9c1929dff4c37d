/-
Commands of the cache to Redis, with their deadline and their cancellation.

A command races the reply of Redis against a timer and against the signal of
the request.  Only the signal makes it throw `RequestAbortedError`.
-/

import ModelMux.Cache.RedisChatCache

namespace ModelMux.Cache

/-- What a call of the cache can throw; `redis` is an error of the client. -/
inductive CacheError (Failure : Type) where
  | requestAbortedError
  | timedOut
  | redis (failure : Failure)
deriving DecidableEq

variable {Reply Failure : Type}

/-- What happens to a command: Redis answers or fails, the timer fires, the signal
of the request is aborted, and the code after the await runs. -/
inductive CommandEvent (Reply Failure : Type) where
  | replied (reply : Reply)
  | failed (failure : Failure)
  | timeout
  | parentAborted
  | resumed

/-- The reason of the controller's abort, the promise made by `abortable` and the
result of the command. -/
structure CacheCommand (Reply Failure : Type) where
  reason : Option (CacheError Failure)
  operation : Option (Except (CacheError Failure) Reply)
  result : Option (Except (CacheError Failure) Reply)

namespace CacheCommand

def initial : CacheCommand Reply Failure := ⟨none, none, none⟩

def settle (command : CacheCommand Reply Failure) (outcome : Except (CacheError Failure) Reply) :
    CacheCommand Reply Failure :=
  match command.operation with
  | none => { command with operation := some outcome }
  | some _ => command

/-- `controller.abort(reason)`; once the command has a result, the timer is cleared
and the listener removed. -/
def abort (command : CacheCommand Reply Failure) (reason : CacheError Failure) :
    CacheCommand Reply Failure :=
  match command.result, command.reason with
  | none, none => { command with reason := some reason }.settle (.error reason)
  | _, _ => command

def resume (command : CacheCommand Reply Failure) : CacheCommand Reply Failure :=
  match command.result, command.operation with
  | none, some (.ok reply) =>
      match command.reason with
      | none => { command with result := some (.ok reply) }
      | some reason => { command with result := some (.error reason) }
  | none, some (.error error) => { command with result := some (.error error) }
  | _, _ => command

def receive (command : CacheCommand Reply Failure) :
    CommandEvent Reply Failure → CacheCommand Reply Failure
  | .replied reply => command.settle (.ok reply)
  | .failed failure => command.settle (.error (.redis failure))
  | .timeout => command.abort .timedOut
  | .parentAborted => command.abort .requestAbortedError
  | .resumed => command.resume

end CacheCommand

def command (aborted : Bool) (events : List (CommandEvent Reply Failure)) :
    Option (Except (CacheError Failure) Reply) :=
  if aborted then some (.error .requestAbortedError)
  else (events.foldl CacheCommand.receive CacheCommand.initial).result

def getResult (limits : CacheLimits) (aborted : Bool)
    (events : List (CommandEvent (List UInt8) Failure)) :
    Option (Except (CacheError Failure) (Option ChatResponse)) :=
  (command aborted events).map (Except.map (readEntry limits))

def putResult (limits : CacheLimits) (aborted : Bool) (response : Json)
    (events : List (CommandEvent Reply Failure)) : Option (Except (CacheError Failure) Unit) :=
  if aborted then some (.error .requestAbortedError)
  else
    match entryText limits response with
    | none => some (.ok ())
    | some _ => (command aborted events).map (Except.map (fun _ => ()))

structure Uncancelled (command : CacheCommand Reply Failure) : Prop where
  reason : command.reason ≠ some .requestAbortedError
  operation : command.operation ≠ some (.error .requestAbortedError)
  result : command.result ≠ some (.error .requestAbortedError)

theorem Uncancelled.settle {command : CacheCommand Reply Failure}
    {outcome : Except (CacheError Failure) Reply} (uncancelled : Uncancelled command)
    (other : outcome ≠ .error .requestAbortedError) : Uncancelled (command.settle outcome) := by
  unfold CacheCommand.settle
  split
  · exact ⟨uncancelled.reason, by simpa using other, uncancelled.result⟩
  · exact uncancelled

theorem Uncancelled.receive {command : CacheCommand Reply Failure}
    {event : CommandEvent Reply Failure} (uncancelled : Uncancelled command)
    (other : event ≠ .parentAborted) : Uncancelled (command.receive event) := by
  cases event with
  | replied reply => exact uncancelled.settle (by simp)
  | failed failure => exact uncancelled.settle (by simp)
  | timeout =>
      simp only [CacheCommand.receive, CacheCommand.abort]
      split
      · have armed : Uncancelled { command with reason := some .timedOut } :=
          ⟨by simp, uncancelled.operation, uncancelled.result⟩
        exact armed.settle (by simp)
      · exact uncancelled
  | parentAborted => exact absurd rfl other
  | resumed =>
      have reason := uncancelled.reason
      have operation := uncancelled.operation
      simp only [CacheCommand.receive, CacheCommand.resume]
      split
      · split
        · exact ⟨uncancelled.reason, uncancelled.operation, by simp⟩
        · next found =>
            refine ⟨uncancelled.reason, uncancelled.operation, ?_⟩
            rw [found] at reason
            simpa using reason
      · next settled =>
          refine ⟨uncancelled.reason, uncancelled.operation, ?_⟩
          rw [settled] at operation
          simpa using operation
      · exact uncancelled

theorem uncancelled_foldl {events : List (CommandEvent Reply Failure)}
    {command : CacheCommand Reply Failure} (uncancelled : Uncancelled command)
    (others : .parentAborted ∉ events) : Uncancelled (events.foldl CacheCommand.receive command) := by
  induction events generalizing command with
  | nil => exact uncancelled
  | cons event rest ih =>
      rw [List.mem_cons, not_or] at others
      exact ih (uncancelled.receive (Ne.symm others.1)) others.2

/-- A command of a request that is not cancelled never throws `RequestAbortedError`. -/
theorem command_not_aborted {events : List (CommandEvent Reply Failure)}
    (others : .parentAborted ∉ events) :
    command false events ≠ some (.error .requestAbortedError) :=
  (uncancelled_foldl ⟨by simp [CacheCommand.initial], by simp [CacheCommand.initial],
    by simp [CacheCommand.initial]⟩ others).result

theorem map_ne_error {Value : Type} {result : Option (Except (CacheError Failure) Reply)}
    {error : CacheError Failure} (other : result ≠ some (.error error)) (visit : Reply → Value) :
    result.map (Except.map visit) ≠ some (.error error) := by
  rcases result with _ | thrown | reply
  · simp
  · simpa [Except.map] using other
  · simp [Except.map]

theorem getResult_not_aborted {limits : CacheLimits}
    {events : List (CommandEvent (List UInt8) Failure)} (others : .parentAborted ∉ events) :
    getResult limits false events ≠ some (.error .requestAbortedError) :=
  map_ne_error (command_not_aborted others) _

theorem putResult_not_aborted {limits : CacheLimits} {response : Json}
    {events : List (CommandEvent Reply Failure)} (others : .parentAborted ∉ events) :
    putResult limits false response events ≠ some (.error .requestAbortedError) := by
  simp only [putResult, Bool.false_eq_true, if_false]
  cases entryText limits response with
  | none => simp
  | some text => exact map_ne_error (command_not_aborted others) _

end ModelMux.Cache
