import RouteFlow.Pipeline.Basic
import RouteFlow.Run.Event
import RouteFlow.Run.Request

/-!
# Running a pipeline

`run` walks through the steps of a pipeline. A step that succeeds says how to go on: to the next
step in order or the one that it names, to a step of its choice, or not at all. The run is
complete when a step stops it, when it goes to `end`, and when it runs past the last step; it
fails when a step fails, when a jump names no step, and when a step is reached but no more may be
invoked. A run crashes where a step does. It goes under an identity of its own, and whatever it
tells on its way it tells under this identity.

* `walk`: the run from a step on, with what it tells.
* `Report`: which steps were invoked, and how the run ended.
* `runUntil`: the whole run.
-/

namespace RouteFlow.Run

open Pipeline (BoundStep)

/-- Limits of a run. -/
structure Settings where
  /-- How many steps may be invoked. -/
  maxSteps : Nat
  /-- How long a run may take. -/
  timeout? : Option Nanos

/-- A thousand steps and all the time there is. -/
def Settings.standard : Settings := ⟨1000, none⟩

/-- What a completed run answers; `terminated` if a step stopped it. -/
structure Output where
  body : Json
  terminated : Bool

/-- What is known of a run after its end. -/
structure Report where
  visited : List String
  outcome : Ending RunError Output

/-- The state in which a run ended. One that crashed still counts as running. -/
def Report.state (r : Report) : State :=
  match r.outcome with
  | .ok _ => .completed
  | .error _ => .failed
  | .crash => .running

/-- The last that a run tells, if it comes to its end. -/
def Report.farewell (r : Report) : List Event :=
  match r.outcome with
  | .ok _ | .error _ => [.runFinished r.state r.visited.length]
  | .crash => []

/-- A run: its identity, its report, what it tells and the world after it. -/
structure Trace (σ : Type) where
  runId : String
  report : Report
  notices : List Notice
  world : World σ

namespace Trace

variable {σ : Type}

/-- What a run tells, without its identity. -/
def events (t : Trace σ) : List Event := t.notices.map (·.event)

variable (runId : String)

/-- The end of a walk. -/
def ofOutput (output : Output) (w : World σ) : Trace σ := ⟨runId, ⟨[], .ok output⟩, [], w⟩

/-- The end of a walk that fails. -/
def ofError (e : RunError) (w : World σ) : Trace σ :=
  ⟨runId, ⟨[], .error e⟩, [⟨runId, .stepFailed e.step e.cause⟩], w⟩

/-- The end of a walk that crashes. -/
def ofCrash (w : World σ) : Trace σ := ⟨runId, ⟨[], .crash⟩, [], w⟩

/-- A walk that tells of events before it. -/
def after (events : List Event) (t : Trace σ) : Trace σ :=
  { t with notices := events.map (⟨runId, ·⟩) ++ t.notices }

/-- A walk that begins with the invocation of a step. -/
def visit (step : String) (t : Trace σ) : Trace σ :=
  { t with
    report := { t.report with visited := step :: t.report.visited }
    notices := ⟨runId, .stepStarted step⟩ :: t.notices }

end Trace

/-! ### The walk -/

/-- Where a run goes after a step. -/
inductive Move where
  /-- The run is complete. -/
  | finish (output : Output)
  /-- To the next step in order. -/
  | following (vars : Entries Json)
  /-- To the step with a name. -/
  | named (target : String) (vars : Entries Json)

/-- Where a signal leads. -/
def Signal.move (next? : Option String) : Signal → Move
  | .stop value => .finish ⟨value, true⟩
  | .branch target vars => .named target vars
  | .proceed vars =>
    match next? with
    | some target => .named target vars
    | none => .following vars

/-- The events of a step that succeeded. -/
def Signal.events (step : String) : Signal → List Event
  | .branch target _ => [.stepSucceeded step, .branched step target]
  | _ => [.stepSucceeded step]

/-- Performs the task of a step; the deadline makes a failure of it. -/
def invoke {σ : Type} (c : Collaborators σ) (deadline? : Option Nanos) (step : BoundStep)
    (vars : Entries Json) (w : World σ) : Ending Failure Signal × World σ :=
  match (step.task.perform vars).run c deadline? w with
  | (.ok result, w) => (.ofExcept result, w)
  | (.error .deadline, w) => (.error (.deadline step.task.isNetworkBound), w)
  | (.crash, w) => (.crash, w)

/-- Walks on from the step at place `cursor`, where `left` more steps may be invoked. -/
def walk {σ : Type} (c : Collaborators σ) (p : Pipeline) (settings : Settings)
    (deadline? : Option Nanos) (runId : String) :
    Nat → Nat → Entries Json → World σ → Trace σ
  | left, cursor, vars, w =>
    match p.stepAt? cursor with
    | none => .ofOutput runId ⟨.object vars, false⟩ w
    | some step =>
      let failed (f : Failure) (w : World σ) : Trace σ := .ofError runId ⟨p.name, step.name, f⟩ w
      match left with
      | 0 => failed (.budgetSpent settings.maxSteps) w
      | left + 1 =>
        Trace.visit runId step.name <|
          match invoke c deadline? step vars w with
          | (.crash, w) => .ofCrash runId w
          | (.error f, w) => failed f w
          | (.ok signal, w) =>
            Trace.after runId (signal.events step.name) <|
              match signal.move step.next? with
              | .finish output => .ofOutput runId output w
              | .following vars => walk c p settings deadline? runId left (cursor + 1) vars w
              | .named target vars =>
                if target = Document.endTarget then .ofOutput runId ⟨.object vars, false⟩ w
                else
                  match p.position? target with
                  | some i => walk c p settings deadline? runId left i vars w
                  | none => failed (.unknownStep target) w

/-- A walk framed by the start and the end of the run. -/
def Trace.framed {σ : Type} (runId : String) (p : Pipeline) (t : Trace σ) : Trace σ :=
  { t with
    notices := ⟨runId, .runStarted p.name⟩ :: t.notices ++ t.report.farewell.map (⟨runId, ·⟩) }

/-- Runs a pipeline for a request, with a deadline on the clock of the world. -/
def runUntil {σ : Type} (c : Collaborators σ) (settings : Settings) (deadline? : Option Nanos)
    (p : Pipeline) (r : Request) (w : World σ) : Trace σ :=
  let (runId, state) := c.identify w.state
  let vars := initialVariables p.declaration r
  (walk c p settings deadline? runId settings.maxSteps 0 vars { w with state }).framed runId p

/-- Runs a pipeline for a request. -/
def run {σ : Type} (c : Collaborators σ) (settings : Settings) (p : Pipeline) (r : Request)
    (w : World σ) : Trace σ :=
  runUntil c settings (settings.timeout?.map (w.clock + ·)) p r w

end RouteFlow.Run
