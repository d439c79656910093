import RouteFlow.Retry.Decision
import RouteFlow.Run.Action

/-!
# Tasks

A task is what a bound step does with the variables: it assigns some, ends the run with a value,
chooses where to go on, calls another server, or runs a script. A task of a kind of its own brings
its program along. Each ends with a signal that tells how the run goes on, or with a failure.

* `Task.perform`: the program of a task.
* `sendAgain_eq`: what follows a reply to a call.
-/

namespace RouteFlow.Run

/-! ### Signals -/

/-- How a run goes on after a step. -/
inductive Signal where
  /-- To the step after this one, or the one that it names. -/
  | proceed (vars : Entries Json)
  /-- To a step chosen by this one. -/
  | branch (target : String) (vars : Entries Json)
  /-- Not at all: the run ends with a value. -/
  | stop (value : Json)

/-- How a task ends. -/
abbrev Result := Except Failure Signal

/-! ### Kinds of tasks -/

/-- A case of a choice. -/
structure Case where
  condition : Json
  next : String

/-- The way in which calls are made. -/
structure CallSettings where
  timeout : Nanos
  limit : Nat
  retry : Retry.Policy

/-- Half a minute, ten mebibytes and the standard policy. -/
def CallSettings.standard : CallSettings := ⟨Nanos.ofSeconds 30, 10 * 1024 * 1024, .standard⟩

/-- A call to another server. -/
structure CallTask where
  method : Http.Method
  args : Json
  result? : Option String
  settings : CallSettings

/-- A script. -/
structure ScriptTask where
  source : String
  input : Json
  result? : Option String

/-- What a step does. -/
inductive Task where
  | assign (entries : Entries Json)
  | reply (value : Json)
  | choose (cases : List Case)
  | call (spec : CallTask)
  | script (spec : ScriptTask)
  | custom (inCall : Bool) (program : Entries Json → Action Result)

/-- Whether a task waits for other servers. -/
def Task.isNetworkBound : Task → Bool
  | .call _ => true
  | .custom inCall _ => inCall
  | _ => false

/-- The value of a value, with the failure that evaluation means. -/
def evaluate (vars : Entries Json) (value : Json) : Except Failure Json :=
  (Template.evaluate vars value).mapError .evaluation

/-- The variables with a result put under its name, if it has one. -/
def store (vars : Entries Json) (result? : Option String) (value : Json) : Entries Json :=
  match result? with
  | none => vars
  | some name => vars.insert name value

/-! ### Assigning and choosing -/

/-- Assigns entries in order; each sees what those before it assigned. -/
def assignAll (vars : Entries Json) : Entries Json → Except Failure (Entries Json)
  | [] => .ok vars
  | (name, value) :: rest => do
    let v ← evaluate vars value
    assignAll (vars.insert name v) rest

/-- Goes where the first case leads whose condition holds, and on if there is none. -/
def chooseFrom (vars : Entries Json) : List Case → Result
  | [] => .ok (.proceed vars)
  | c :: rest => do
    let v ← evaluate vars c.condition
    if v.isTruthy then .ok (.branch c.next vars) else chooseFrom vars rest

/-! ### Calling -/

/-- The address of a call with its query. -/
def callAddress (args : Json) : Except Failure Url := do
  match (args.get? "url").bind Json.text? with
  | none => .error .addressNotString
  | some text =>
    let url ← (Url.parse text).mapError (.badAddress text)
    match (args.get? "query").bind Json.members? with
    | none | some [] => .ok url
    | some query => .ok (url.withPairs (query.map fun (k, v) => (k, v.asText)))

/-- The headers that the arguments of a call give. -/
def callHeaders (args : Json) : Entries String :=
  Entries.ofListSorted
    ((((args.get? "headers").bind Json.members?).getD []).map fun (k, v) => (k, v.asText))

/-- Headers with a content type for a JSON body, unless they have one. -/
def withContentType (headers : Entries String) : Entries String :=
  if headers.any fun h => Text.sameLetters h.1 "content-type" then headers
  else headers.insertSorted "content-type" "application/json"

/-- The request that evaluated arguments describe. -/
def callRequest (method : Http.Method) (args : Json) : Except Failure Http.Request := do
  let url ← callAddress args
  let headers := callHeaders args
  match args.get? "body" with
  | none | some .null => .ok ⟨method, url, headers, []⟩
  | some body => .ok ⟨method, url, withContentType headers, Text.octets body.compact⟩

/-- What came of an attempt, as far as it may be worth another one. -/
def outcome? : Except Http.CallError Http.Response → Option Retry.Outcome
  | .ok r => some (.status r.status r.headers)
  | .error .timeout => some .networkFailure
  | .error (.network _) => some .networkFailure
  | .error _ => none

/-- Sends a call for attempt number `attempt`, and again as long as it is decided for another
attempt. Where there is no decision the program crashes. -/
def sendAgain (policy : Retry.Policy) (call : Http.Call) (attempt : Nat) :
    Action (Except Http.CallError Http.Response) :=
  .send call fun reply =>
    match outcome? reply with
    | none => .done reply
    | some outcome =>
      .consult fun now word =>
        match h : Retry.decide? policy attempt outcome now word with
        | none => .crash
        | some (.stop _) => .done reply
        | some (.retry delay _) => .sleep delay (sendAgain policy call (attempt + 1))
termination_by policy.maxAttempts - attempt
decreasing_by
  -- a decision for another attempt is taken only while there are attempts left
  have := Retry.lt_maxAttempts_of_retry h
  omega

theorem sendAgain_eq (policy : Retry.Policy) (call : Http.Call) (attempt : Nat) :
    sendAgain policy call attempt =
      .send call fun reply =>
        match outcome? reply with
        | none => .done reply
        | some outcome =>
          .consult fun now word =>
            match Retry.decide? policy attempt outcome now word with
            | none => .crash
            | some (.stop _) => .done reply
            | some (.retry delay _) => .sleep delay (sendAgain policy call (attempt + 1)) := by
  rw [sendAgain]
  refine congrArg _ (funext fun reply => ?_)
  cases outcome? reply with
  | none => rfl
  | some outcome =>
    refine congrArg _ (funext fun now => funext fun word => ?_)
    split <;> next hd => simp only [hd]

/-- Sends a call as often as the policy has it. -/
def sendCall (policy : Retry.Policy) (call : Http.Call) :
    Action (Except Http.CallError Http.Response) :=
  if policy.mayRepeat call.request.method then sendAgain policy call 1
  else .send call .done

/-- Whether headers declare a JSON body. -/
def declaresJson (headers : Entries String) : Bool :=
  (Http.header? headers "content-type").any fun t => Text.contains "json" (Text.lower t)

/-- The body of an answer as a value: none is null, JSON is read, all else is text. -/
def bodyValue (r : Http.Response) : Except Failure Json :=
  if r.body.isEmpty then .ok .null
  else if declaresJson r.headers then (Json.ofOctets r.body).mapError .badBody
  else .ok (.string (Text.Utf8.decodeLossy r.body))

/-- An answer as a value. -/
def responseValue (r : Http.Response) : Except Failure Json := do
  let body ← bodyValue r
  .ok (.object [
    ("status", Json.nat r.status),
    ("headers", .object (r.headers.map fun (k, v) => (k, .string v))),
    ("body", body)])

/-- How a call that brought `reply` ends. -/
def CallTask.finish (spec : CallTask) (vars : Entries Json)
    (reply : Except Http.CallError Http.Response) : Result := do
  let r ← reply.mapError .call
  let value ← responseValue r
  .ok (.proceed (store vars spec.result? (.object [("response", value)])))

/-- The program of a call. -/
def CallTask.perform (spec : CallTask) (vars : Entries Json) : Action Result :=
  Action.ofExcept (evaluate vars spec.args) fun args =>
    Action.ofExcept (callRequest spec.method args) fun request =>
      (sendCall spec.settings.retry ⟨request, spec.settings.timeout, spec.settings.limit⟩).bind
        fun reply => .done (spec.finish vars reply)

/-! ### Scripts -/

/-- How a script that brought `reply` ends. -/
def ScriptTask.finish (spec : ScriptTask) (vars : Entries Json)
    (reply : Except ScriptError Json) : Result := do
  let value ← reply.mapError .script
  .ok (.proceed (store vars spec.result? value))

/-- The program of a script. -/
def ScriptTask.perform (spec : ScriptTask) (vars : Entries Json) : Action Result :=
  Action.ofExcept (evaluate vars spec.input) fun input =>
    .evaluate spec.source input fun reply => .done (spec.finish vars reply)

/-! ### Tasks -/

/-- The program of a task. -/
def Task.perform (vars : Entries Json) : Task → Action Result
  | .assign entries => .done ((assignAll vars entries).map .proceed)
  | .reply value => .done ((evaluate vars value).map .stop)
  | .choose cases => .done (chooseFrom vars cases)
  | .call spec => spec.perform vars
  | .script spec => spec.perform vars
  | .custom _ program => program vars

end RouteFlow.Run
