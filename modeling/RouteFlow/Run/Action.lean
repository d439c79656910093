import RouteFlow.Run.Failure

/-!
# What a step does

A step does nothing by itself: it is a program that calls other servers, hands scripts to an
evaluator, sleeps, and looks at the clock and at random numbers, and in the end has a result, unless
it crashes. `Action.run` carries such a program out against collaborators that answer. Time passes
only in waits. A wait that would end after the deadline is cut there, and with it the program.

* `Ending`: how something ends that may fail or crash.
* `Action.run`: how a program ends, and the world after it.
-/

namespace RouteFlow.Run

/-! ### Endings -/

/-- How something ends that may fail, and that may crash. -/
inductive Ending (ε α : Type) where
  | ok (a : α)
  | error (e : ε)
  /-- It breaks off, and nothing comes of it. -/
  | crash

namespace Ending

variable {ε ε' α β : Type}

/-- An ending that is no crash. -/
def ofExcept : Except ε α → Ending ε α
  | .ok a => .ok a
  | .error e => .error e

/-- The value, if there is one. -/
def toOption : Ending ε α → Option α
  | .ok a => some a
  | .error _ | .crash => none

/-- Changes a value. -/
def map (f : α → β) : Ending ε α → Ending ε β
  | .ok a => .ok (f a)
  | .error e => .error e
  | .crash => .crash

/-- Changes an error. -/
def mapError (f : ε → ε') : Ending ε α → Ending ε' α
  | .ok a => .ok a
  | .error e => .error (f e)
  | .crash => .crash

end Ending

/-! ### Programs -/

/-- A program with a result of type `α`. -/
inductive Action (α : Type) where
  /-- Ends with a result. -/
  | done (a : α)
  /-- Crashes. -/
  | crash
  /-- Calls another server. -/
  | send (call : Http.Call) (andThen : Except Http.CallError Http.Response → Action α)
  /-- Hands a script with its input to the evaluator. -/
  | evaluate (source : String) (input : Json) (andThen : Except ScriptError Json → Action α)
  /-- Waits. -/
  | sleep (time : Nanos) (andThen : Action α)
  /-- Asks for the moment and a random word. -/
  | consult (andThen : Nanos → Nat → Action α)

namespace Action

/-- Goes on with the result of a program. -/
def bind {α β : Type} : Action α → (α → Action β) → Action β
  | .done a, f => f a
  | .crash, _ => .crash
  | .send call k, f => .send call fun r => bind (k r) f
  | .evaluate source input k, f => .evaluate source input fun r => bind (k r) f
  | .sleep time k, f => .sleep time (bind k f)
  | .consult k, f => .consult fun now word => bind (k now word) f

@[simp] theorem bind_done {α β : Type} (a : α) (f : α → Action β) : bind (.done a) f = f a := rfl

/-- The program that ends with an error or goes on with a value. -/
def ofExcept {ε α β : Type} (e : Except ε α) (f : α → Action (Except ε β)) :
    Action (Except ε β) :=
  match e with
  | .error x => .done (.error x)
  | .ok a => f a

end Action

/-! ### The world -/

/-- A call or a script that left the run, with the time at which it did. -/
inductive Outbound where
  | http (call : Http.Call) (time : Nanos)
  | script (source : String) (input : Json) (time : Nanos)

/-- Those who answer, with states of type `σ`: what they answer, after which time, and their next
state. -/
structure Collaborators (σ : Type) where
  /-- The identity of the next run. -/
  identify : σ → String × σ
  send : σ → Http.Call → Except Http.CallError Http.Response × Nanos × σ
  evaluate : σ → String → Json → Except ScriptError Json × Nanos × σ
  consult : σ → Nanos → Nanos × Nat × σ

/-- The time since the start of all, the state of those who answer, and what has left so far. -/
structure World (σ : Type) where
  clock : Nanos
  state : σ
  sent : List Outbound

namespace World

variable {σ : Type}

/-- The world after a wait; `false` if the deadline cut it. -/
def wait (deadline? : Option Nanos) (time : Nanos) (w : World σ) : Bool × World σ :=
  match deadline? with
  | none => (true, { w with clock := w.clock + time })
  | some d =>
    if d < w.clock + time then (false, { w with clock := max w.clock d })
    else (true, { w with clock := w.clock + time })

/-- The world after something has left. -/
def record (w : World σ) (o : Outbound) (state : σ) : World σ :=
  { w with state, sent := w.sent ++ [o] }

@[simp] theorem wait_none (time : Nanos) (w : World σ) :
    w.wait none time = (true, { w with clock := w.clock + time }) := rfl

end World

/-- What keeps a program from its end. -/
inductive Cut where
  /-- The deadline passes. -/
  | deadline
  deriving DecidableEq

/-- Carries a program out. -/
def Action.run {σ α : Type} (c : Collaborators σ) (deadline? : Option Nanos) :
    Action α → World σ → Ending Cut α × World σ
  | .done a, w => (.ok a, w)
  | .crash, w => (.crash, w)
  | .send call k, w =>
    let (reply, time, state) := c.send w.state call
    match (w.record (.http call w.clock) state).wait deadline? time with
    | (true, w) => run c deadline? (k reply) w
    | (false, w) => (.error .deadline, w)
  | .evaluate source input k, w =>
    let (reply, time, state) := c.evaluate w.state source input
    match (w.record (.script source input w.clock) state).wait deadline? time with
    | (true, w) => run c deadline? (k reply) w
    | (false, w) => (.error .deadline, w)
  | .sleep time k, w =>
    match w.wait deadline? time with
    | (true, w) => run c deadline? k w
    | (false, w) => (.error .deadline, w)
  | .consult k, w =>
    let (now, word, state) := c.consult w.state w.clock
    run c deadline? (k now word) { w with state }

end RouteFlow.Run
