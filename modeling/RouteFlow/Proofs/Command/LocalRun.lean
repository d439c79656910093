import RouteFlow.Proofs.Command.Output
import RouteFlow.Proofs.Command.Serving
import RouteFlow.Proofs.Files.Loading
import RouteFlow.Proofs.Run.Naming
import RouteFlow.Proofs.Run.Survival
import RouteFlow.Proofs.Service.Dispatch

/-!
# A run from the command line and a run of the server

The two ways to run the pipeline of a file differ in what they make of it. The command line knows
the file by its own name, takes the body as text and the parameters as a list; the server knows it
by the way to it from its directory, takes the body as octets and the parameters as a query. With
the same limits both come to the same run but for the name (`run_named`), and tell its end in their
own way (`local_run_agrees`).
-/

namespace RouteFlow.Command

open Files (Disk Loaded SameFile)
open Service (Answer Carries failureObject)

variable {σ : Type} {d : Disk} {s : Serve} {startedAt : Int} {srv : Service.Server} {l : Loaded}
variable {p : Pipeline}

/-! ### What is asked for -/

/-- **The same body** on the command line and in a request: none, or a text and its octets. -/
inductive SameBody : Option String → List UInt8 → Prop
  | none : SameBody none []
  | text {text : String} (hne : text ≠ "") : SameBody (some text) (Text.octets text)

/-- A parameter as it is written on the command line. -/
def paramText (pair : String × String) : String := pair.1 ++ "=" ++ pair.2

/-- **The same is asked of the command line and of a server**: the run of a file that the server
loaded, under the same limits, with the same body and the same parameters. -/
structure SameRun (d : Disk) (s : Serve) (l : Loaded) (pairs : List (String × String))
    (r : RunOnce) (req : Service.Request) : Prop where
  file : SameFile d l.file r.file
  limits : r.limits = s.limits
  calls : r.calls = s.calls
  body : SameBody r.body? req.body
  names : ∀ pair ∈ pairs, '=' ∉ pair.1.toList
  params : r.params = pairs.map paramText
  query : Carries req.target.query (Service.Server.parameters pairs)

theorem cut?_of_notMem {c : Char} {cs : List Char} (h : c ∉ cs) (rest : List Char) :
    Text.cut? [c] (cs ++ c :: rest) = some (cs, rest) := by
  induction cs with
  | nil => simp [Text.cut?]
  | cons c' cs ih =>
    obtain ⟨hne, hcs⟩ := not_or.mp (mt List.mem_cons.mpr h)
    rw [List.cons_append, Text.cut?, ih hcs]
    simp [hne]

/-- A parameter is read as it was written. -/
theorem readParam_paramText {pair : String × String} (h : '=' ∉ pair.1.toList) :
    readParam (paramText pair) = .ok pair := by
  have htext : (paramText pair).toList = pair.1.toList ++ '=' :: pair.2.toList := by
    rw [paramText, String.toList_append, String.toList_append, List.append_assoc]
    rfl
  rw [readParam, htext, cut?_of_notMem h]
  simp

theorem mapM_readParam {pairs : List (String × String)} (h : ∀ pair ∈ pairs, '=' ∉ pair.1.toList) :
    (pairs.map paramText).mapM readParam = .ok pairs := by
  induction pairs with
  | nil => rfl
  | cons pair pairs ih =>
    obtain ⟨hpair, hpairs⟩ := List.forall_mem_cons.mp h
    rw [List.map_cons, List.mapM_cons, readParam_paramText hpair, ih hpairs]
    rfl

/-- **Both read the same body**, or cannot read it for the same reason. -/
theorem readBody_eq {body? : Option String} {octets : List UInt8} (h : SameBody body? octets) :
    readBody body? = (Service.Server.bodyValue octets).mapError .badBody := by
  cases h with
  | none => rfl
  | @text text hne =>
    have hoctets : Text.octets text ≠ [] := Text.octets_ne_nil hne
    rw [readBody, Service.Server.bodyValue, if_neg (by simpa using hoctets)]
    rfl

/-- **What the command line runs** is the pipeline that the server has, under the name of the
file. -/
theorem prepare_eq {root : List Files.Component} {pairs : List (String × String)} {r : RunOnce}
    {req : Service.Request} (h : SameRun d s l pairs r req)
    (hload : Files.load d root l.file = .ok l)
    (hbind : Files.bindLoaded (.standard s.calls.settings) l = .ok p) :
    prepare d r = ((Service.Server.bodyValue req.body).mapError RunRefusal.badBody).map fun body =>
      ({ p with name := Files.Path.ownName r.file },
        ⟨p.declaration.method, body, Service.Server.parameters pairs⟩) := by
  have hload' := Files.load_of_sameFile hload h.file
  obtain ⟨hvalid, hpipeline⟩ := Files.bindLoaded_eq_ok_iff.mp hbind
  have hbind' : Files.bindLoaded (.standard r.calls.settings)
      ⟨Files.Path.ownName r.file, r.file,
        { l.document with name := Files.Path.ownName r.file }, l.format⟩ =
      .ok { p with name := Files.Path.ownName r.file } := by
    rw [h.calls]
    exact Files.bindLoaded_eq_ok_iff.mpr ⟨hvalid, Pipeline.bind_of_bind hpipeline _⟩
  rw [prepare, readBody_eq h.body, h.params, mapM_readParam h.names, hload']
  cases Service.Server.bodyValue req.body with
  | error e => rfl
  | ok body =>
    simp only [Fallible.mapError_ok, bind, Except.bind, hbind']
    rfl

/-! ### How both end -/

/-- **The command line and the server tell the same end.** A body that cannot be read is refused,
with one reason for both. A run that completes has one result for both, which the server answers
with and the command line shows. A run that fails has one step, cause and message for both, and the
server tells of them under the way to the file, the command line under the name of the file. -/
inductive EndAlike (l : Loaded) (r : RunOnce) : Printed → Answer → Prop
  | refused {e : Json.TextError} {lines : List String}
      (tells : r.style.Tells ("invalid --body JSON: " ++ e.message) lines) :
      EndAlike l r ⟨.cannotRun, [], lines⟩
        (.refusal 400 ("request body is not valid JSON: " ++ e.message))
  | completed {notices : List Run.Notice} {result : Json} {lines : List String}
      (shows : r.style.Shows result lines) :
      EndAlike l r ⟨.success, eventLines r.events notices ++ lines, []⟩ (.json 200 result)
  | failed {notices : List Run.Notice} {step : String} {cause : Run.CauseCode}
      {message? : Option String} {lines : List String}
      (shows : r.style.Shows
        (failureObject (Files.Path.ownName r.file) step cause.name message?) lines) :
      EndAlike l r ⟨.failed, eventLines r.events notices ++ lines, []⟩
        (.json cause.status (failureObject l.routePath step cause.name message?))

section Ends

variable {r : RunOnce} {printed : Printed} {answer : Answer}

theorem EndAlike.success_iff (h : EndAlike l r printed answer) :
    printed.exit.status = 0 ↔ answer.status = 200 := by
  cases h with
  | refused tells =>
    exact iff_of_false (by decide : Exit.cannotRun.status ≠ 0) (by decide : (400 : Nat) ≠ 200)
  | completed shows => exact iff_of_true rfl rfl
  | @failed _ _ cause _ _ shows =>
    refine iff_of_false (by decide : Exit.failed.status ≠ 0) fun hstatus => ?_
    have hcause : cause.status = 200 := hstatus
    have hcases := Service.status_cause_cases cause
    omega

theorem EndAlike.failed_iff (h : EndAlike l r printed answer) :
    printed.exit.status = 3 ↔ ∃ (step : String) (cause : Run.CauseCode) (message? : Option String),
      answer = .json cause.status (failureObject l.routePath step cause.name message?) := by
  cases h with
  | refused tells =>
    refine iff_of_false (by decide : Exit.cannotRun.status ≠ 3) ?_
    rintro ⟨step, cause, message?, h⟩
    exact Service.refusal_ne_failure _ _ _ _ _ _ _ h
  | completed shows =>
    refine iff_of_false (by decide : Exit.success.status ≠ 3) ?_
    rintro ⟨step, cause, message?, h⟩
    have hcause : 200 = cause.status := congrArg Answer.status h
    have hcases := Service.status_cause_cases cause
    omega
  | failed shows => exact iff_of_true rfl ⟨_, _, _, rfl⟩

/-- **A result is printed as it is answered**, but for blanks outside of its strings. -/
theorem EndAlike.text_of_success (h : EndAlike l r printed answer) (hquiet : r.style.quiet = false)
    (hs : printed.exit.status = 0) :
    ∃ text, printed.out.getLast? = some text ∧ Json.unspaced text = answer.body ∧
      (r.style.format = .json → text = answer.body) := by
  cases h with
  | refused tells => exact absurd hs (by decide : Exit.cannotRun.status ≠ 0)
  | completed shows =>
    obtain ⟨text, rfl, hunspaced, hjson⟩ := shows.text hquiet
    exact ⟨text, List.getLast?_concat, hunspaced, hjson⟩
  | failed shows => exact absurd hs (by decide : Exit.failed.status ≠ 0)

/-- **A failure is printed as it is answered**, but for the name: both objects are read from their
texts. -/
theorem EndAlike.text_of_failure (h : EndAlike l r printed answer) (hquiet : r.style.quiet = false)
    (hs : printed.exit.status = 3) :
    ∃ text step code message?, printed.out.getLast? = some text ∧
      Json.ofText text = .ok (failureObject (Files.Path.ownName r.file) step code message?) ∧
      Json.ofText answer.body = .ok (failureObject l.routePath step code message?) := by
  cases h with
  | refused tells => exact absurd hs (by decide : Exit.cannotRun.status ≠ 3)
  | completed shows => exact absurd hs (by decide : Exit.success.status ≠ 3)
  | @failed _ step cause message? _ shows =>
    have hplain := Service.plain_failureObject (Files.Path.ownName r.file) step cause.name message?
    obtain ⟨text, rfl, hread⟩ := shows.exists_text hquiet hplain (by decide)
    have hplain' := Service.plain_failureObject l.routePath step cause.name message?
    exact ⟨text, step, cause.name, message?, List.getLast?_concat, hread,
      Json.ofText_compact hplain' (by decide)⟩

/-- A quiet command prints events only. -/
theorem EndAlike.out_of_quiet (h : EndAlike l r printed answer) (hquiet : r.style.quiet = true) :
    ∃ notices, printed.out = eventLines r.events notices := by
  cases h with
  | refused tells => exact ⟨[], by cases r.events <;> rfl⟩
  | @completed notices _ _ shows =>
    refine ⟨notices, ?_⟩
    rw [shows.nothing hquiet, List.append_nil]
  | @failed notices _ _ _ _ shows =>
    refine ⟨notices, ?_⟩
    rw [shows.nothing hquiet, List.append_nil]

end Ends

/-- A run that fails attributes its error to its pipeline. -/
theorem pipeline_of_run {c : Run.Collaborators σ} {settings : Run.Settings} {request : Run.Request}
    {w : Run.World σ} {e : Run.RunError}
    (h : (Run.run c settings p request w).report.outcome = .error e) : e.pipeline = p.name := by
  -- told under the name that the pipeline has, the run is the same
  have hnamed : Run.run c settings p request w = (Run.run c settings p request w).named p.name :=
    Run.run_named rfl rfl rfl c settings request w
  have houtcome : (Run.run c settings p request w).report.outcome =
      (Run.run c settings p request w).report.outcome.mapError (Run.RunError.named p.name) :=
    congrArg (fun t => t.report.outcome) hnamed
  rw [h] at houtcome
  exact congrArg Run.RunError.pipeline (Run.Ending.error.inj houtcome)

/-- What is printed of a run and what is answered tell the same end, unless it is a crash. -/
theorem exists_endAlike_of_trace {r : RunOnce} {t : Run.Trace σ}
    (h : ∀ e, t.report.outcome = .error e → e.pipeline = l.routePath)
    (hends : (∃ output, t.report.outcome = .ok output) ∨ ∃ e, t.report.outcome = .error e) :
    let told := t.named (Files.Path.ownName r.file)
    let printed := report r.style told.report.outcome
    ∃ answer, Service.Server.outcomeAnswer? t.report.outcome = some answer ∧
      EndAlike l r { printed with out := eventLines r.events told.notices ++ printed.out }
        answer := by
  obtain ⟨runId, ⟨visited, outcome⟩, notices, w⟩ := t
  rcases hends with ⟨output, rfl⟩ | ⟨e, rfl⟩
  · exact ⟨_, rfl, .completed (r.style.shows_result output.body)⟩
  · refine ⟨_, rfl, ?_⟩
    rw [show e.toJson = failureObject l.routePath e.step e.cause.name e.failure.message? by
      rw [← h e rfl]
      rfl]
    exact .failed (r.style.shows_result _)

/-- Calls of the command line are made under a patient policy. -/
theorem CallLimits.patient (limits : CallLimits) : limits.settings.retry.Patient where
  vendor := rfl
  room := by
    have hroom : Retry.roundToDouble Retry.Policy.standard.maxDelay.millis + 1 < UInt64.size := by
      decide +kernel
    exact hroom

/-- **The command line and the server run a pipeline alike**: the world is the same after both, the
server answers, and they tell the same end. -/
theorem runOnce_dispatch (hsrv : server d s startedAt = .ok srv) {root : List Files.Component}
    (hload : Files.load d root l.file = .ok l)
    (hbind : Files.bindLoaded (.standard s.calls.settings) l = .ok p)
    {pairs : List (String × String)} {r : RunOnce} {req : Service.Request}
    (h : SameRun d s l pairs r req) (hp : srv.pipeline? req = some p) (c : Run.Collaborators σ)
    (w : Run.World σ) :
    (runOnce c d r w).2 = (srv.dispatch c req w).2 ∧
      ∃ answer, (srv.dispatch c req w).1 = some answer ∧
        EndAlike l r (runOnce c d r w).1 answer := by
  obtain ⟨package, ps, -, -, rfl⟩ := server_eq_ok_iff.mp hsrv
  have hs : (Service.Server.ofPipelines s.limits.settings s.app (.of s.app package startedAt)
      ps).routes = .ofPipelines ps := rfl
  have hlatest := (Service.Server.pipeline?_eq_some_iff hs).mp hp
  have hprepare := prepare_eq h hload hbind
  cases hbody : Service.Server.bodyValue req.body with
  | error e =>
    rw [hbody] at hprepare
    have hresolve := Service.Server.resolve_of_unreadable hs hlatest hbody
    rw [Service.Server.dispatch_of_refused hresolve, runOnce, hprepare]
    exact ⟨rfl, _, rfl, .refused (r.style.tells_fail .cannotRun _)⟩
  | ok body =>
    rw [hbody] at hprepare
    have hreads := Service.Server.bodyValue_eq_ok_iff.mp hbody
    obtain ⟨-, hpipeline⟩ := Files.bindLoaded_eq_ok_iff.mp hbind
    have hname : p.name = l.routePath := by
      rw [← (Pipeline.bind_eq_ok_iff.mp hpipeline).name, Files.name_of_load hload]
    let request : Run.Request := ⟨p.declaration.method, body, Service.Server.parameters pairs⟩
    let own : Pipeline := { p with name := Files.Path.ownName r.file }
    have hdeclaration : own.declaration = p.declaration := rfl
    have hsteps : own.steps = p.steps := rfl
    have hindex : own.index = p.index := rfl
    -- the run of the command line is that of the server under the name of the file
    have hrun := Run.run_named hdeclaration hsteps hindex c r.limits.settings request w
    have hends := Run.exists_outcome_of_patient s.calls.patient hpipeline c s.limits.settings
      request w
    rw [Service.Server.dispatch_of_reads hs hlatest hreads h.query, runOnce, hprepare]
    change (Run.run c r.limits.settings own request w).world = _ ∧ _
    dsimp only [Except.map, Except.mapError]
    rw [hrun, h.limits]
    refine ⟨rfl, exists_endAlike_of_trace (fun e he => ?_) hends⟩
    rw [pipeline_of_run he, hname]

/-- **A run from the command line and a run of the server agree.** Pipelines that differ in their
name only have runs that differ in this name only. And once a server has started, each document of
its directory has been made a pipeline of, and whenever the same run is asked of the command line
and of the server, and the server dispatches the request to this pipeline, it answers, and

* the world is the same after both, and both tell the same end;
* the command line ends with status 0 exactly if the server answers with status 200;
* it ends with status 3 exactly if the server answers with the error of a run;
* unless it is quiet, the last text that it prints is the result in the one case, with blanks that
  do not matter, and in the other case is read as the object that the server answers with, but for
  the name; if it is quiet it prints events only;
* the name that it attributes errors to is that of the file up to its last point. -/
theorem local_run_agrees :
    (∀ p p' : Pipeline, p'.declaration = p.declaration → p'.steps = p.steps → p'.index = p.index →
      ∀ (σ : Type) (c : Run.Collaborators σ) (settings : Run.Settings) (request : Run.Request)
        (w : Run.World σ),
        Run.run c settings p' request w = (Run.run c settings p request w).named p'.name) ∧
      ∀ (d : Disk) (s : Serve) (startedAt : Int) (srv : Service.Server),
        server d s startedAt = .ok srv →
        ∃ ls, Files.loadAll d s.directory = .ok ls ∧ ∀ l ∈ ls,
          ∃ p, Files.bindLoaded (.standard s.calls.settings) l = .ok p ∧
            ∀ pairs r req, SameRun d s l pairs r req → srv.pipeline? req = some p →
              ∀ (σ : Type) (c : Run.Collaborators σ) (w : Run.World σ),
                let printed := (runOnce c d r w).1
                let ownName := Files.Path.ownName r.file
                ∃ answer, (srv.dispatch c req w).1 = some answer ∧
                  (runOnce c d r w).2 = (srv.dispatch c req w).2 ∧
                  EndAlike l r printed answer ∧
                  (printed.exit.status = 0 ↔ answer.status = 200) ∧
                  (printed.exit.status = 3 ↔
                    ∃ (step : String) (cause : Run.CauseCode) (message? : Option String),
                      answer = .json cause.status
                        (failureObject l.routePath step cause.name message?)) ∧
                  (r.style.quiet = false → printed.exit.status = 0 →
                    ∃ text, printed.out.getLast? = some text ∧
                      Json.unspaced text = answer.body ∧
                      (r.style.format = .json → text = answer.body)) ∧
                  (r.style.quiet = false → printed.exit.status = 3 →
                    ∃ text step code message?, printed.out.getLast? = some text ∧
                      Json.ofText text = .ok (failureObject ownName step code message?) ∧
                      Json.ofText answer.body =
                        .ok (failureObject l.routePath step code message?)) ∧
                  (r.style.quiet = true → ∃ notices, printed.out = eventLines r.events notices) ∧
                  ∀ name, Files.Path.fileName? r.file = some name →
                    (Files.Path.splitName name).1 ∉ ["", ".", ".."] →
                    ownName = (Files.Path.splitName name).1 := by
  constructor
  · intro p p' hd hs hi σ c settings request w
    exact Run.run_named hd hs hi c settings request w
  · intro d s startedAt srv hsrv
    obtain ⟨package, ps, -, hps, -⟩ := server_eq_ok_iff.mp hsrv
    obtain ⟨ls, hls, hbinds⟩ := Files.bindAll_eq_ok_iff.mp hps
    refine ⟨ls, hls, fun l hl => ?_⟩
    obtain ⟨p, -, hp⟩ := Fallible.exists_mem_of_forall₂ hbinds.flip hl
    refine ⟨p, hp, fun pairs r req h hreq σ c w => ?_⟩
    have hload := Files.exists_load_of_loadAll hls hl
    obtain ⟨hworld, answer, hanswer, hend⟩ := runOnce_dispatch hsrv hload hp h hreq c w
    exact ⟨answer, hanswer, hworld, hend, hend.success_iff, hend.failed_iff, hend.text_of_success,
      hend.text_of_failure, hend.out_of_quiet,
      fun name hname hstem => Files.Path.ownName_eq hname hstem⟩

/-- A run of the file `c.json` on the shelf, which leads there by another path. -/
def localRun : RunOnce where
  file := "/dsl//c.json"
  body? := some "true"
  params := ["q=1", "q=2"]
  events := .nowhere
  limits := shelfServe.limits
  calls := shelfServe.calls
  style := ⟨.json, false⟩

/-- The request for the same run. -/
def servedRun : Service.Request := ⟨"get", ⟨"/ns/c", "q=1&q=2"⟩, Text.octets "true"⟩

theorem sameRun_shelf :
    SameRun (shelf "c.json") shelfServe ⟨"c", "/dsl/c.json", noteDocument "c", .json⟩
      [("q", "1"), ("q", "2")] localRun servedRun where
  file := ⟨by decide +kernel, by decide +kernel⟩
  limits := rfl
  calls := rfl
  body := .text (by decide)
  names := by decide +kernel
  params := by decide +kernel
  query := by
    have hpairs : [("q", "1"), ("q", "2")] = Url.formDecode "q=1&q=2" := by decide +kernel
    rw [hpairs]
    exact Service.carries_parameters _

/-- The server answers it. -/
theorem dispatch_shelf :
    (shelfServer "c").pipeline? servedRun = some (note "c") ∧
      ((shelfServer "c").dispatch .mute servedRun .initial).1 =
        some (.json 200 (.string "ok")) := by
  have hroutes : (shelfServer "c").routes = .ofPipelines [note "c"] := rfl
  have hlatest : Service.Latest [note "c"] servedRun.method servedRun.target.path (note "c") :=
    ⟨[], [], rfl, ⟨by decide +kernel, by decide +kernel⟩, List.forall_mem_nil _⟩
  have htrue : Json.ofText (Json.bool true).compact = .ok (.bool true) :=
    Json.ofText_compact (.bool (n := 0)) (by decide)
  have hbody : Service.Reads servedRun.body (.bool true) := .json (by decide +kernel) htrue
  have hdispatch := Service.Server.dispatch_of_reads hroutes hlatest hbody
    (Service.carries_parameters _) .mute .initial
  exact ⟨(Service.Server.pipeline?_eq_some_iff hroutes).mpr hlatest, congrArg Prod.fst hdispatch⟩

/-- Both runs end well, and what the one prints is what the other answers. -/
theorem local_run_agrees_shelf :
    let printed := (runOnce .mute (shelf "c.json") localRun .initial).1
    let answer? := ((shelfServer "c").dispatch .mute servedRun .initial).1
    answer? = some (.json 200 (.string "ok")) ∧ printed.exit.status = 0 ∧
      printed.out.getLast? = some (Json.string "ok").compact := by
  intro printed answer?
  have hmem : ("c.json", "c") ∈ shelfNames := by decide
  obtain ⟨hpipeline, hanswer?⟩ := dispatch_shelf
  obtain ⟨ls, hls, hall⟩ := local_run_agrees.2 _ _ _ _ (server_shelf hmem)
  obtain rfl := Except.ok.inj ((loadAll_shelf hmem).symm.trans hls)
  obtain ⟨p, hp, hruns⟩ := hall _ (List.mem_singleton_self _)
  have hnote : Files.bindLoaded (.standard shelfServe.calls.settings)
      ⟨"c", "/dsl/c.json", noteDocument "c", .json⟩ = .ok (note "c") :=
    Files.bindLoaded_eq_ok_iff.mpr ⟨rfl, rfl⟩
  obtain rfl := Except.ok.inj (hnote.symm.trans hp)
  obtain ⟨answer, hanswer, -, -, hsuccess, -, htext, -⟩ :=
    hruns _ _ _ sameRun_shelf hpipeline Unit .mute .initial
  obtain rfl : Answer.json 200 (.string "ok") = answer :=
    Option.some.inj (hanswer?.symm.trans hanswer)
  have hstatus : printed.exit.status = 0 := hsuccess.mpr rfl
  obtain ⟨text, hlast, -, hjson⟩ := htext rfl hstatus
  obtain rfl := hjson rfl
  exact ⟨hanswer?, hstatus, hlast⟩

end RouteFlow.Command
