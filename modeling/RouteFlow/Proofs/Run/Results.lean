import RouteFlow.Proofs.Run.Variables

/-!
# Results that are kept

A call and a script may name a variable for what they bring (`Yields`). Where `result` is a text, no
result is lost: a step that does not fail goes on, and hands on the variables with its output under
that name and all else as it was (`StoresResult`).

A `result` that is no text is refused for a call. A script, though, takes it for none at all, and
what the evaluator returns is dropped without a word (`Unnamed`).

* `exists_buildTask_iff` — which calls and scripts are built;
* `stored_unless_unnamed` — unless the step is a script whose `result` is no text, it is refused or
  stores its result.
-/

namespace RouteFlow.Run

open Pipeline (Makes Registry buildTask callKind callKind_ne callMethods callTask scriptTask)
open Document (Step)
open Fallible

variable {σ : Type} {settings : CallSettings} {s : Step}

/-! ### Which steps are built -/

/-- **A step is to bring something**: its kind is that of a call, or `script`. -/
inductive Brings (s : Step) : Prop
  | call {verb : String} (hk : s.kind? = some ("http." ++ verb))
  | script (hk : s.kind? = some "script")

/-- A `result` is a text, if there is one. -/
def Named (s : Step) : Prop :=
  ∀ value, s.param? "result" = some value → ∃ name, value = .string name

/-- **A call or a script is well specified**: a call has a known method, arguments with an address
and a text for its result, if any; a script has a source. -/
inductive Specified (s : Step) : Prop
  | call {m : Http.Method} {args : Entries Json} (hm : m ∈ callMethods)
      (hk : s.kind? = some (callKind m)) (hp : s.param? "args" = some (.object args))
      (hu : Entries.has args "url" = true) (hr : Named s) : Specified s
  | script {body : Json} {source : String} (hk : s.kind? = some "script")
      (hp : s.param? "script" = some body)
      (hs : (body.get? "source").bind Json.text? = some source) : Specified s

theorem httpKind_ne (verb : String) :
    "http." ++ verb ≠ "assign" ∧ "http." ++ verb ≠ "return" ∧ "http." ++ verb ≠ "switch" := by
  -- the first letters differ
  have hfirst : ("http." ++ verb).toList.head? = some 'h' := by simp
  refine ⟨?_, ?_, ?_⟩ <;>
  · intro h
    rw [h] at hfirst
    exact absurd hfirst (by decide)

theorem Brings.kind_ne (hs : Brings s) {kind : String} (hk : s.kind? = some kind) :
    kind ≠ "assign" ∧ kind ≠ "return" ∧ kind ≠ "switch" := by
  cases hs with
  | @call verb hk' =>
    obtain rfl := Option.some.inj (hk'.symm.trans hk)
    exact httpKind_ne verb
  | script hk' =>
    obtain rfl := Option.some.inj (hk'.symm.trans hk)
    decide

theorem exists_callResult?_iff : (∃ result?, Pipeline.callResult? s = .ok result?) ↔ Named s := by
  simp only [Pipeline.callResult?_eq_ok_iff, Named]
  cases s.param? "result" with
  | none => exact ⟨fun _ _ h => absurd h nofun, fun _ => ⟨none, rfl⟩⟩
  | some value =>
    constructor
    · rintro ⟨result?, h⟩ _ ⟨⟩
      obtain ⟨name, -, rfl⟩ := Option.map_eq_some_iff.mp h.symm
      exact ⟨name, rfl⟩
    · intro h
      obtain ⟨name, rfl⟩ := h value rfl
      exact ⟨some name, rfl⟩

theorem exists_callTask_iff {m : Http.Method} :
    (∃ task, callTask settings m s = .ok task) ↔
      ∃ args, s.param? "args" = some (.object args) ∧ Entries.has args "url" = true ∧ Named s := by
  rw [← exists_callResult?_iff]
  unfold callTask
  split
  · next args hp =>
    split
    · next hu =>
      simp only [bind_eq_ok_iff, hp]
      constructor
      · rintro ⟨_, result?, hr, -⟩
        exact ⟨args, rfl, hu, result?, hr⟩
      · rintro ⟨_, -, -, result?, hr⟩
        exact ⟨_, result?, hr, rfl⟩
    · next hu =>
      refine ⟨fun ⟨_, h⟩ => absurd h nofun, ?_⟩
      rintro ⟨_, hp', hu', -⟩
      obtain rfl := Json.object.inj (Option.some.inj (hp.symm.trans hp'))
      exact absurd hu' hu
  · next hne =>
    refine ⟨fun ⟨_, h⟩ => absurd h nofun, ?_⟩
    rintro ⟨args, hp, -⟩
    exact absurd hp (hne args)

theorem exists_scriptTask_iff :
    (∃ task, scriptTask s = .ok task) ↔
      ∃ body source, s.param? "script" = some body ∧
        (body.get? "source").bind Json.text? = some source := by
  unfold scriptTask
  cases hp : s.param? "script" with
  | none => simp
  | some body => cases hs : (body.get? "source").bind Json.text? <;> simp [hs]

@[simp] theorem get?_full_script : (Registry.full settings).get? "script" = some scriptTask := by
  simp [Registry.full, Registry.withScript, Entries.get?_insert]

theorem get?_full_callKind {m : Http.Method} (hm : m ∈ callMethods) :
    (Registry.full settings).get? (callKind m) = some (callTask settings m) := by
  rw [Registry.full, Registry.withScript, Entries.get?_insert, if_neg (callKind_ne m).2.2.2.symm]
  have hnames : Entries.names (Registry.standard settings) =
    ["assign", "return", "switch"] ++ callMethods.map callKind := rfl
  refine Entries.get?_of_mem ?_ (List.mem_append_right _ (List.mem_map_of_mem hm))
  rw [hnames]
  decide +kernel

/-- **Calls and scripts are built** if they are well specified. -/
theorem exists_buildTask_iff (hs : Brings s) :
    (∃ task, buildTask (.full settings) s = .ok task) ↔ Specified s := by
  simp only [Pipeline.buildTask_eq_ok_iff]
  constructor
  · rintro ⟨task, kind, factory, hk, -, hf, ht⟩
    obtain ⟨hassign, hreturn, hswitch⟩ := hs.kind_ne hk
    rcases Pipeline.get?_full_cases hf with
      ⟨rfl, -⟩ | ⟨rfl, -⟩ | ⟨rfl, -⟩ | ⟨rfl, rfl⟩ | ⟨m, hm, rfl, rfl⟩
    · exact absurd rfl hassign
    · exact absurd rfl hreturn
    · exact absurd rfl hswitch
    · obtain ⟨body, source, hp, hsource⟩ := exists_scriptTask_iff.mp ⟨task, ht⟩
      exact .script hk hp hsource
    · obtain ⟨args, hp, hu, hr⟩ := exists_callTask_iff.mp ⟨task, ht⟩
      exact .call hm hk hp hu hr
  · intro h
    cases h with
    | @call m args hm hk hp hu hr =>
      obtain ⟨task, ht⟩ := exists_callTask_iff.mpr ⟨args, hp, hu, hr⟩
      have hne : callKind m ≠ "" := by simp [callKind, ← String.toList_inj]
      exact ⟨task, _, _, hk, hne, get?_full_callKind hm, ht⟩
    | @script body source hk hp hsource =>
      obtain ⟨task, ht⟩ := exists_scriptTask_iff.mpr ⟨body, source, hp, hsource⟩
      exact ⟨task, _, _, hk, by decide, get?_full_script, ht⟩

/-! ### What a step brings -/

/-- **The body of an answer** as a value: null for none, what it says if it is JSON, and else its
text. -/
inductive Body (r : Http.Response) : Json → Prop
  | none (hb : r.body = []) : Body r .null
  | json {value : Json} (hb : r.body ≠ []) (hd : declaresJson r.headers = true)
      (h : Json.ofOctets r.body = .ok value) : Body r value
  | text (hb : r.body ≠ []) (hd : declaresJson r.headers = false) :
      Body r (.string (Text.Utf8.decodeLossy r.body))

/-- **The output of a call** that was answered. -/
def answered (r : Http.Response) (body : Json) : Json :=
  .object [("response", .object [
    ("status", Json.nat r.status),
    ("headers", .object (r.headers.map fun h => (h.1, .string h.2))),
    ("body", body)])]

theorem bodyValue_eq_ok_iff {r : Http.Response} {body : Json} :
    bodyValue r = .ok body ↔ Body r body := by
  unfold bodyValue
  constructor
  · intro h
    split at h
    · next hb =>
      obtain rfl := Except.ok.inj h
      exact .none (List.isEmpty_iff.mp hb)
    · next hb =>
      have hne : r.body ≠ [] := by simpa using hb
      split at h
      · next hd => exact .json hne hd (mapError_eq_ok_iff.mp h)
      · next hd =>
        obtain rfl := Except.ok.inj h
        exact .text hne (by simpa using hd)
  · rintro (hb | ⟨hb, hd, h⟩ | ⟨hb, hd⟩)
    · simp [hb]
    · simp [hb, hd, h, Except.mapError]
    · simp [hb, hd]

theorem responseValue_eq_ok_iff {r : Http.Response} {value : Json} :
    responseValue r = .ok value ↔ ∃ body, Body r body ∧
      .object [("response", value)] = answered r body := by
  unfold responseValue
  rw [bind_eq_ok_iff]
  simp only [bodyValue_eq_ok_iff]
  refine exists_congr fun body => and_congr_right fun _ => ?_
  simp [answered, eq_comm]

section Outputs

variable (c : Collaborators σ) (deadline? : Option Nanos) (vars : Entries Json) (w : World σ)

/-- **What a task brings** that is given `vars` in the world `w`: a call the answer to its last
attempt, a script what the evaluator returned. -/
inductive Yields : Task → Json → Prop
  | call {spec : CallTask} {call : Http.Call} {r : Http.Response} {body : Json}
      (h : (Task.exchanges c deadline? vars w (.call spec)).getLast? = some (.call call (.ok r)))
      (hb : Body r body) : Yields (.call spec) (answered r body)
  | script {spec : ScriptTask} {input value : Json}
      (h : Task.exchanges c deadline? vars w (.script spec) =
        [.script spec.source input (.ok value)]) : Yields (.script spec) value

end Outputs

/-- **A task stores its result** under a name: whenever it succeeds, it goes on, with its output
under the name and all other variables as they were. -/
def StoresResult (task : Task) (name : String) : Prop :=
  ∀ (σ : Type) (c : Collaborators σ) (deadline? : Option Nanos) (vars : Entries Json)
    (w w' : World σ) (signal : Signal),
    (task.perform vars).run c deadline? w = (.ok (.ok signal), w') →
      ∃ vars' output, signal = .proceed vars' ∧ Yields c deadline? vars w task output ∧
        vars'.get? name = some output ∧ Keeps (· = name) vars vars'

/-- **A task drops its result**: whenever it succeeds, it goes on with the variables as they
were. -/
def DropsResult (task : Task) : Prop :=
  ∀ (σ : Type) (c : Collaborators σ) (deadline? : Option Nanos) (vars : Entries Json)
    (w w' : World σ) (signal : Signal),
    (task.perform vars).run c deadline? w = (.ok (.ok signal), w') → signal = .proceed vars

theorem CallTask.storesResult {spec : CallTask} {name : String} (h : spec.result? = some name) :
    StoresResult (.call spec) name := by
  intro σ c deadline? vars w w' signal hrun
  cases CallTask.succeeds_of_run hrun with
  | @call _ _ r value hlast hvalue =>
    obtain ⟨body, hbody, houtput⟩ := responseValue_eq_ok_iff.mp hvalue
    refine ⟨_, answered r body, rfl, .call hlast hbody, ?_, .store ?_ _⟩
    · rw [h, houtput]
      simp [store, Entries.get?_insert]
    · intro other hother
      exact Option.some.inj (hother.symm.trans h)

theorem ScriptTask.storesResult {spec : ScriptTask} {name : String} (h : spec.result? = some name) :
    StoresResult (.script spec) name := by
  intro σ c deadline? vars w w' signal hrun
  cases ScriptTask.succeeds_of_run hrun with
  | @script _ input value hx =>
    refine ⟨_, value, rfl, .script hx, ?_, .store ?_ _⟩
    · simp [h, store, Entries.get?_insert]
    · intro other hother
      exact Option.some.inj (hother.symm.trans h)

theorem ScriptTask.dropsResult {spec : ScriptTask} (h : spec.result? = none) :
    DropsResult (.script spec) := by
  intro σ c deadline? vars w w' signal hrun
  cases ScriptTask.succeeds_of_run hrun with
  | script _ => rw [h, store]

/-! ### Results -/

/-- **A script's `result` names nothing**, since it is no text. -/
structure Unnamed (s : Step) : Prop where
  kind : s.kind? = some "script"
  unnamed : ¬ Named s

/-- **What is made of a step that is to bring something** is a call, whose result is as it says, or
a script, whose result is none if it is no text. -/
theorem brings_cases {task : Task} (hs : Brings s) (hm : Makes settings s task) :
    (∃ spec, task = .call spec ∧ s.param? "result" = spec.result?.map .string) ∨
      (s.kind? = some "script" ∧ ∃ spec, task = .script spec ∧
        spec.result? = (s.param? "result").bind Json.text?) := by
  cases hm with
  | assign hk _ => exact absurd rfl (hs.kind_ne hk).1
  | reply hk _ => exact absurd rfl (hs.kind_ne hk).2.1
  | choose hk _ _ => exact absurd rfl (hs.kind_ne hk).2.2
  | call _ _ hr => exact .inl ⟨_, rfl, Pipeline.callResult?_eq_ok_iff.mp hr⟩
  | script hk _ _ => exact .inr ⟨hk, _, rfl, rfl⟩

/-- **No result is dropped, but that of a script whose `result` is no text.** Take a call or a
script with a `result`. It is built if it is well specified, and refused if not. Unless it is such a
script, a step that was built stores its result under the text, whatever the variables and whatever
is answered. Such a script is built all the same, and drops its result. -/
theorem stored_unless_unnamed (settings : CallSettings) {value : Json} (hs : Brings s)
    (hr : s.param? "result" = some value) :
    ((∃ e, buildTask (.full settings) s = .error e) ↔ ¬ Specified s) ∧
      (¬ Unnamed s → ∀ task, buildTask (.full settings) s = .ok task →
        ∃ name, value = .string name ∧ StoresResult task name) ∧
      (Unnamed s → ∀ task, buildTask (.full settings) s = .ok task → DropsResult task) := by
  refine ⟨?_, fun hnamed task htask => ?_, fun hunnamed task htask => ?_⟩
  · rw [← exists_buildTask_iff hs]
    cases buildTask (.full settings) s <;> simp
  · rcases brings_cases hs (Pipeline.makes_of_buildTask htask) with
      ⟨spec, rfl, hresult⟩ | ⟨hk, spec, rfl, hresult⟩
    · obtain ⟨name, hname, rfl⟩ := Option.map_eq_some_iff.mp (hresult.symm.trans hr)
      exact ⟨name, rfl, CallTask.storesResult hname⟩
    · have hn : Named s := by
        by_contra hn
        exact hnamed ⟨hk, hn⟩
      obtain ⟨name, rfl⟩ := hn value hr
      rw [hr] at hresult
      exact ⟨name, rfl, ScriptTask.storesResult hresult⟩
  · have hvalue : ∀ name, value ≠ .string name := by
      rintro name rfl
      exact hunnamed.unnamed fun other hother => ⟨name, Option.some.inj (hother.symm.trans hr)⟩
    rcases brings_cases hs (Pipeline.makes_of_buildTask htask) with
      ⟨spec, rfl, hresult⟩ | ⟨-, spec, rfl, hresult⟩
    · obtain ⟨name, -, hname⟩ := Option.map_eq_some_iff.mp (hresult.symm.trans hr)
      exact absurd hname.symm (hvalue name)
    · rw [hr] at hresult
      refine ScriptTask.dropsResult (hresult.trans ?_)
      cases value with
      | string name => exact absurd rfl (hvalue name)
      | _ => rfl

/-- An evaluator that returns what it is given, and a server that greets. -/
def Collaborators.obliging : Collaborators Unit where
  identify _ := ("run", ())
  send _ _ := (.ok ⟨200, [("content-type", "text/plain")], Text.octets "hello"⟩, 0, ())
  evaluate _ _ input := (.ok input, 0, ())
  consult _ now := (now, 0, ())

/-- A script that is given the variable `n`, with its `result`. -/
def echo (result : Json) : Step where
  name := "echo"
  kind? := some "script"
  next? := none
  parameters := [
    ("script", .object [("source", .string "n"), ("input", .string "$\x7bn\x7d")]),
    ("result", result)]

theorem stored_unless_unnamed_echo :
    ∃ task, buildTask (.full .standard) (echo (.string "copy")) = .ok task ∧
      StoresResult task "copy" ∧ ∃ vars' w',
        (task.perform [("n", .bool true)]).run .obliging none .initial =
          (.ok (.ok (.proceed vars')), w') ∧ vars'.get? "copy" = some (.bool true) := by
  have hresult : (echo (.string "copy")).param? "result" = some (.string "copy") := by rfl
  have hnamed : ¬ Unnamed (echo (.string "copy")) := by
    rintro ⟨-, hnone⟩
    exact hnone fun value hvalue => ⟨"copy", Option.some.inj (hvalue.symm.trans hresult)⟩
  obtain ⟨-, hstores, -⟩ := stored_unless_unnamed .standard (.script rfl) hresult
  obtain ⟨_, hname, hstored⟩ := hstores hnamed _ rfl
  obtain rfl := Json.string.inj hname
  exact ⟨_, rfl, hstored, _, _, rfl, rfl⟩

/-- **A `result` that is no text is dropped**: the script is built, it succeeds, and the variables
are as they were. -/
theorem result_dropped_echo :
    (echo (Json.nat 5)).param? "result" = some (Json.nat 5) ∧
      ∃ task, buildTask (.full .standard) (echo (Json.nat 5)) = .ok task ∧ ∃ w',
        (task.perform [("n", .bool true)]).run .obliging none .initial =
          (.ok (.ok (.proceed [("n", .bool true)])), w') :=
  ⟨by rfl, _, by rfl, _, rfl⟩

end RouteFlow.Run
