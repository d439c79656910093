import RouteFlow.Proofs.Entries
import RouteFlow.Run.Engine

/-!
# What counts of a request

Of a request a run is given the fields that the declaration names, in the order of the declaration,
and nothing else. So it cannot depend on anything else: not on other fields, not on the method, and
not on the order in which the fields of a body or the parameters of a query came.

* `get?_keepFields` — what is kept has the accepted names and the values of the request;
* `initialVariables_eq_iff` — two requests begin alike exactly if they agree on what is accepted;
* `runs_alike_of_agrees` — and then their runs are the same in every respect.
-/

namespace RouteFlow.Run

open Document (Declaration AllowedField)

/-! ### What is kept -/

/-- The names of accepted fields. An entry of the allowlist may lack a name. -/
def acceptedNames (fs : List AllowedField) : List String := fs.filterMap (·.field?)

theorem acceptedNames_cons (f : AllowedField) (rest : List AllowedField) :
    acceptedNames (f :: rest) = f.field?.toList ++ acceptedNames rest := by
  unfold acceptedNames
  cases hf : f.field? with
  | none => rw [List.filterMap_cons_none hf]; rfl
  | some name => rw [List.filterMap_cons_some hf]; rfl

/-- What a look-up finds among what is kept: the value of an accepted name, if there is one, and
otherwise what was there before. -/
theorem get?_keepFields (source acc : Entries Json) (fs : List AllowedField) (k : String) :
    (keepFields source acc fs).get? k =
      if k ∈ acceptedNames fs then (source.get? k).or (acc.get? k) else acc.get? k := by
  induction fs generalizing acc with
  | nil => rfl
  | cons f rest ih =>
    rw [acceptedNames_cons, keepFields]
    cases f.field? with
    | none => exact ih acc
    | some name =>
      dsimp only
      cases hv : source.get? name with
      | none =>
        -- the request lacks this field, so nothing changes for its name
        rw [ih acc]
        by_cases hk : k = name
        · subst hk
          simp [hv]
        · simp [hk]
      | some v =>
        rw [ih, Entries.get?_insert]
        by_cases hk : k = name
        · subst hk
          simp [hv]
        · have hk' : name ≠ k := fun h => hk h.symm
          simp [hk, hk']

/-- What is kept is determined by the values under the accepted names. -/
theorem keepFields_congr {source source' : Entries Json} {fs : List AllowedField}
    (h : ∀ name ∈ acceptedNames fs, source.get? name = source'.get? name) (acc : Entries Json) :
    keepFields source acc fs = keepFields source' acc fs := by
  induction fs generalizing acc with
  | nil => rfl
  | cons f rest ih =>
    rw [acceptedNames_cons] at h
    rw [keepFields, keepFields]
    cases hf : f.field? with
    | none =>
      rw [hf] at h
      exact ih h acc
    | some name =>
      rw [hf] at h
      have hname := h name List.mem_cons_self
      have hrest : ∀ n ∈ acceptedNames rest, source.get? n = source'.get? n :=
        fun n hn => h n (List.mem_cons_of_mem _ hn)
      dsimp only
      rw [hname]
      -- both sides put in the same value, or none
      cases source'.get? name with
      | none => exact ih hrest acc
      | some v => exact ih hrest _

/-- **The same is kept exactly if the values under the accepted names are the same.** -/
theorem keepFields_eq_iff {source source' : Entries Json} {fs : List AllowedField} :
    keepFields source [] fs = keepFields source' [] fs ↔
      ∀ name ∈ acceptedNames fs, source.get? name = source'.get? name := by
  refine ⟨fun h name hn => ?_, fun h => keepFields_congr h []⟩
  have hget := congrArg (Entries.get? · name) h
  simpa [get?_keepFields, hn] using hget

/-! ### Requests that agree -/

/-- **Two requests agree on what is accepted**: under each accepted name both bodies hold the same
value or both hold none, and so do the query parameters. A body that is no object holds none. A
value that is an object has its fields in an order, since an answer may repeat it as it came. -/
structure Agrees (d : Declaration) (r r' : Request) : Prop where
  body : ∀ name ∈ acceptedNames d.bodyFields, r.body.get? name = r'.body.get? name
  params : ∀ name ∈ acceptedNames d.paramFields, r.params.get? name = r'.params.get? name

theorem get?_members_getD (j : Json) (k : String) : (j.members?.getD []).get? k = j.get? k := by
  cases j <;> rfl

/-- **Two requests begin alike exactly if they agree.** -/
theorem initialVariables_eq_iff {d : Declaration} {r r' : Request} :
    initialVariables d r = initialVariables d r' ↔ Agrees d r r' := by
  have hbody : keptBody d r.body = keptBody d r'.body ↔
      ∀ name ∈ acceptedNames d.bodyFields, r.body.get? name = r'.body.get? name := by
    unfold keptBody
    simp only [keepFields_eq_iff, get?_members_getD]
  have hparams : keptParams d r.params = keptParams d r'.params ↔
      ∀ name ∈ acceptedNames d.paramFields, r.params.get? name = r'.params.get? name :=
    keepFields_eq_iff
  constructor
  · intro h
    simp only [initialVariables, List.cons.injEq, Prod.mk.injEq, Json.object.injEq, true_and,
      and_true] at h
    exact ⟨hbody.mp h.1, hparams.mp h.2⟩
  · intro h
    simp only [initialVariables, hbody.mpr h.body, hparams.mpr h.params]

/-- **A change of a request that does not touch what is accepted.** -/
inductive Harmless (d : Declaration) : Request → Request → Prop
  /-- Another method. -/
  | method (r : Request) (m : Http.Method) : Harmless d r { r with method := m }
  /-- Another field in the body, or another value for it. -/
  | bodyField {r : Request} {ms : Entries Json} (h : r.body = .object ms) {name : String}
      (v : Json) (hn : name ∉ acceptedNames d.bodyFields) :
      Harmless d r { r with body := .object (ms.insert name v) }
  /-- Another order of the fields in the body. -/
  | bodyOrder {r : Request} {ms ms' : Entries Json} (h : r.body = .object ms)
      (hn : ms.names.Nodup) (hp : ms.Perm ms') : Harmless d r { r with body := .object ms' }
  /-- Another query parameter, or another value for it. -/
  | param (r : Request) {name : String} (v : Json) (hn : name ∉ acceptedNames d.paramFields) :
      Harmless d r { r with params := r.params.insert name v }
  /-- Another order in which the query parameters are put in. -/
  | paramOrder {m : Http.Method} {body : Json} {ps ps' : List (String × Json)}
      (hn : (ps.map (·.1)).Nodup) (hp : ps.Perm ps') :
      Harmless d ⟨m, body, .ofList ps⟩ ⟨m, body, .ofList ps'⟩

/-- Putting in a name does not change what is found under another one. -/
theorem get?_insert_of_mem {es : Entries Json} {names : List String} {name k : String} (v : Json)
    (hn : name ∉ names) (hk : k ∈ names) : es.get? k = (es.insert name v).get? k := by
  have hne : name ≠ k := by
    rintro rfl
    exact hn hk
  rw [Entries.get?_insert, if_neg hne]

/-- Requests that differ by a harmless change agree. -/
theorem Harmless.agrees {d : Declaration} {r r' : Request} (h : Harmless d r r') :
    Agrees d r r' := by
  cases h with
  | method _ _ => exact ⟨fun _ _ => rfl, fun _ _ => rfl⟩
  | bodyField h v hn =>
    refine ⟨fun k hk => ?_, fun _ _ => rfl⟩
    rw [h]
    exact get?_insert_of_mem v hn hk
  | bodyOrder h hn hp =>
    refine ⟨fun k _ => ?_, fun _ _ => rfl⟩
    rw [h]
    exact Entries.get?_eq_of_perm hp hn k
  | param _ v hn => exact ⟨fun _ _ => rfl, fun k hk => get?_insert_of_mem v hn hk⟩
  | @paramOrder m body ps ps' hn hp =>
    refine ⟨fun _ _ => rfl, fun k _ => ?_⟩
    have hnames : (Entries.names ps).Perm (Entries.names ps') := hp.map _
    have hn' : (ps'.map (·.1)).Nodup := hnames.nodup_iff.mp hn
    dsimp only
    rw [Entries.ofList_of_nodup hn, Entries.ofList_of_nodup hn']
    exact Entries.get?_eq_of_perm hp hn k

/-! ### Runs -/

/-- **Two requests make no difference** to a pipeline: for all settings, from every world and
whatever the collaborators answer, the runs have the same report, the same events and the same
world after them, with all that left; with the timeout of the settings and with every deadline. -/
def SameRuns (p : Pipeline) (r r' : Request) : Prop :=
  ∀ (σ : Type) (c : Collaborators σ) (settings : Settings) (w : World σ),
    run c settings p r w = run c settings p r' w ∧
      ∀ deadline?, runUntil c settings deadline? p r w = runUntil c settings deadline? p r' w

theorem sameRuns_of_initialVariables {p : Pipeline} {r r' : Request}
    (h : initialVariables p.declaration r = initialVariables p.declaration r') :
    SameRuns p r r' := by
  intro σ c settings w
  have hrun : ∀ deadline?,
      runUntil c settings deadline? p r w = runUntil c settings deadline? p r' w := by
    intro deadline?
    unfold runUntil
    rw [h]
  exact ⟨hrun _, hrun⟩

/-- **Only what is accepted counts.** Requests that agree on what the declaration accepts run
alike. In particular other fields and parameters, the method of the request and the order of fields
and of parameters make no difference. -/
theorem runs_alike_of_agrees (p : Pipeline) (r r' : Request) :
    (Agrees p.declaration r r' → SameRuns p r r') ∧
      (Harmless p.declaration r r' → SameRuns p r r') := by
  have hagrees : Agrees p.declaration r r' → SameRuns p r r' := fun h =>
    sameRuns_of_initialVariables (initialVariables_eq_iff.mpr h)
  exact ⟨hagrees, fun h => hagrees h.agrees⟩

/-- Greets who is named in the body. -/
def greeter : Pipeline where
  name := "greeter"
  declaration := ⟨none, none, none, .post, none, none, "ns",
    some ⟨some [⟨some "name", none, none⟩], none⟩⟩
  steps := [⟨"greet", "return", none, .reply (.string "hello $\x7bincoming.body.name\x7d")⟩]
  index := [("greet", 0)]

/-- Whoever asks for more than to be greeted is greeted and no more. -/
theorem runs_alike_of_agrees_greeter :
    let r : Request := ⟨.post, .object [("name", .string "Mari")], []⟩
    let r' : Request :=
      ⟨.get, .object [("admin", .bool true), ("name", .string "Mari")], [("debug", .string "1")]⟩
    Agrees greeter.declaration r r' ∧ SameRuns greeter r r' ∧
      Harmless greeter.declaration r { r with method := .get } ∧
      SameRuns greeter r { r with method := .get } := by
  intro r r'
  have hagrees : Agrees greeter.declaration r r' := by
    constructor
    · intro name hname
      obtain rfl := List.mem_singleton.mp hname
      rfl
    · intro name hname
      simp [greeter, acceptedNames, Declaration.paramFields] at hname
  have hharmless : Harmless greeter.declaration r { r with method := .get } := .method r .get
  exact ⟨hagrees, (runs_alike_of_agrees greeter r r').1 hagrees, hharmless,
    (runs_alike_of_agrees greeter r _).2 hharmless⟩

end RouteFlow.Run
