import RouteFlow.Proofs.OpenApi.Projection
import RouteFlow.Proofs.Run.Acceptance

/-!
# Documented inputs are accepted inputs

The description of a route and the start of a run both go through the allowlist of a declaration.
The one collects properties or parameters, the other looks up what a request has to offer; entries
without a name, and names that repeat, mean the same to both. So what is kept of a request is the
part of it that is documented, in the order of the documentation (`KeepsDocumented`).

* `names_keepFields` — the names that are kept;
* `propertyNames_bodySchema`, `parameterNames_queryOperation` — the names that are documented;
* `accepts_what_is_documented` — they are the same.
-/

namespace RouteFlow.OpenApi

open Document (Declaration AllowedField)
open Run (acceptedNames keepFields)

/-! ### What is documented -/

/-- The names of the properties, in order. -/
def Schema.propertyNames (s : Schema) : List String := Entries.names s.properties

/-- The schema of the JSON body that an operation takes. -/
def Operation.bodySchema? (o : Operation) : Option Schema :=
  (o.requestBody?.bind (·.content.get? jsonMediaType)).map (·.schema)

/-- The names of the parameters, each where it is listed first. -/
def Operation.parameterNames (o : Operation) : List String :=
  (o.parameters.map (·.name)).eraseDups

theorem propertyNames_bodySchema (d : Declaration) :
    (bodySchema d).propertyNames = (acceptedNames d.bodyFields).eraseDups := by
  have hnames : (d.bodyFields.filterMap fun f => f.field?.map (·, fieldSchema f)).map (·.1) =
      acceptedNames d.bodyFields := by
    rw [List.map_filterMap]
    simp [acceptedNames, Option.map_map, Function.comp_def]
  rw [Schema.propertyNames, bodySchema, Entries.names_ofList, hnames]

theorem parameterNames_queryOperation (d : Declaration) :
    (queryOperation d).parameterNames = (acceptedNames d.paramFields).eraseDups := by
  have hnames : (d.paramFields.filterMap queryParameter?).map (·.name) =
      acceptedNames d.paramFields := by
    rw [List.map_filterMap]
    simp [acceptedNames, queryParameter?, Option.map_map, Function.comp_def]
  rw [Operation.parameterNames, queryOperation, hnames]

/-! ### What is kept -/

/-- Fields are kept by putting in, one after the other, the accepted names that there are. -/
theorem keepFields_eq_foldl (source acc : Entries Json) (fs : List AllowedField) :
    keepFields source acc fs =
      ((acceptedNames fs).filterMap fun k => (source.get? k).map (k, ·)).foldl
        (fun es p => Entries.insert es p.1 p.2) acc := by
  induction fs generalizing acc with
  | nil => rfl
  | cons f rest ih =>
    rw [Run.acceptedNames_cons, keepFields]
    cases f.field? with
    | none => exact ih acc
    | some name =>
      simp only [Option.toList_some, List.singleton_append, List.filterMap_cons]
      -- a name that the source lacks is passed over on both sides
      cases source.get? name with
      | none => exact ih acc
      | some v => exact ih _

theorem names_keepFields (source : Entries Json) (fs : List AllowedField) :
    Entries.names (keepFields source [] fs) =
      (acceptedNames fs).eraseDups.filter (Entries.has source) := by
  let kept := (acceptedNames fs).filterMap fun k => (source.get? k).map (k, ·)
  have hnames : kept.map (·.1) = (acceptedNames fs).filter (Entries.has source) := by
    rw [List.map_filterMap, ← List.filterMap_eq_filter]
    congr
    funext k
    cases h : source.get? k <;> simp [Option.guard, Entries.has, h]
  calc Entries.names (keepFields source [] fs)
      = Entries.names (Entries.ofList kept) := by rw [keepFields_eq_foldl]; rfl
    _ = (kept.map (·.1)).eraseDups := Entries.names_ofList kept
    _ = (acceptedNames fs).eraseDups.filter (Entries.has source) := by
        rw [hnames, Entries.eraseDups_filter]

/-- **What is kept of what was sent is what is documented**: the documented names that were sent,
in their order, with the values that were sent. -/
structure KeepsDocumented (documented : List String) (sent kept : Entries Json) : Prop where
  names : Entries.names kept = documented.filter (Entries.has sent)
  values : ∀ k v, kept.get? k = some v ↔ k ∈ documented ∧ sent.get? k = some v

/-- Of the accepted fields all that was sent is kept. -/
theorem keepsDocumented_keepFields (sent : Entries Json) (fs : List AllowedField) :
    KeepsDocumented (acceptedNames fs).eraseDups sent (keepFields sent [] fs) where
  names := names_keepFields sent fs
  values k v := by
    rw [Run.get?_keepFields, List.mem_eraseDups]
    by_cases hk : k ∈ acceptedNames fs <;> simp [hk]

/-! ### Agreement -/

/-- A part of what a run begins with. -/
def keptPart? (d : Declaration) (r : Run.Request) (part : String) : Option Json :=
  ((Run.initialVariables d r).get? Run.incoming).bind (·.get? part)

theorem keptPart?_body (d : Declaration) (r : Run.Request) :
    keptPart? d r "body" = some (.object (Run.keptBody d r.body)) := rfl

theorem keptPart?_params (d : Declaration) (r : Run.Request) :
    keptPart? d r "params" = some (.object (Run.keptParams d r.params)) := by
  simp [keptPart?, Run.initialVariables, Entries.get?_cons]

/-- The operation of a route that takes a body has its schema. -/
theorem exists_bodySchema? {d : Declaration} (h : d.method = .post ∨ d.method = .put)
    (name : String) :
    ∃ item op, projectRoute d name = some (d.route name, item) ∧
      item.operation? d.method = some op ∧ op.bodySchema? = some (bodySchema d) := by
  -- both methods stand for the same operation
  rcases h with h | h <;>
    exact ⟨_, bodyOperation d, by rw [projectRoute, pathItem?, h]; rfl, by rw [h]; rfl, rfl⟩

/-- **Documented inputs are accepted inputs.** A route that takes a body keeps of a body that is an
object what the properties of its schema name, and a route with `GET` keeps of the parameters what
its query parameters name. -/
theorem accepts_what_is_documented (d : Declaration) (name : String) (r : Run.Request) :
    (d.method = .post ∨ d.method = .put → ∀ sent, r.body = .object sent →
        ∃ item op schema kept, projectRoute d name = some (d.route name, item) ∧
          item.operation? d.method = some op ∧ op.bodySchema? = some schema ∧
          keptPart? d r "body" = some (.object kept) ∧
          KeepsDocumented schema.propertyNames sent kept) ∧
      (d.method = .get →
        ∃ item op kept, projectRoute d name = some (d.route name, item) ∧
          item.operation? .get = some op ∧ keptPart? d r "params" = some (.object kept) ∧
          KeepsDocumented op.parameterNames r.params kept) := by
  constructor
  · intro hm sent hbody
    obtain ⟨item, op, hroute, hop, hschema⟩ := exists_bodySchema? hm name
    refine ⟨item, op, bodySchema d, Run.keptBody d r.body, hroute, hop, hschema,
      keptPart?_body d r, ?_⟩
    rw [propertyNames_bodySchema, Run.keptBody, hbody]
    exact keepsDocumented_keepFields sent d.bodyFields
  · intro hm
    refine ⟨_, queryOperation d, Run.keptParams d r.params,
      by rw [projectRoute, pathItem?, hm]; rfl, rfl, keptPart?_params d r, ?_⟩
    rw [parameterNames_queryOperation]
    exact keepsDocumented_keepFields r.params d.paramFields

/-- Asks for some fields, in a body or in a query: one is listed twice, one lacks a name, and one
has an empty name. -/
def enquiry (m : Http.Method) : Declaration :=
  let fields : List AllowedField :=
    [⟨some "b", none, none⟩, ⟨none, some "string", none⟩, ⟨some "a", none, none⟩,
      ⟨some "b", some "string", none⟩, ⟨some "", none, none⟩, ⟨some "c", none, none⟩]
  ⟨none, none, none, m, none, none, "desk", some ⟨some fields, some fields⟩⟩

/-- What is sent: all but one of the fields in another order, and one that was not asked for. -/
def sentFields : Entries Json :=
  [("", .string "?"), ("x", .bool true), ("a", .null), ("b", .string "yes")]

/-- What is kept has the order in which it is asked for, and a null that was sent is kept. -/
theorem accepts_what_is_documented_enquiry :
    let kept : Entries Json := [("b", .string "yes"), ("a", .null), ("", .string "?")]
    (∃ item op schema,
        projectRoute (enquiry .put) "ask" = some ((enquiry .put).route "ask", item) ∧
          item.operation? .put = some op ∧ op.bodySchema? = some schema ∧
          KeepsDocumented schema.propertyNames sentFields kept) ∧
      ∃ item op, projectRoute (enquiry .get) "ask" = some ((enquiry .get).route "ask", item) ∧
        item.operation? .get = some op ∧ KeepsDocumented op.parameterNames sentFields kept := by
  intro kept
  constructor
  · obtain ⟨item, op, schema, kept', hroute, hop, hschema, hkept, h⟩ :=
      (accepts_what_is_documented (enquiry .put) "ask" ⟨.put, .object sentFields, []⟩).1
        (.inr rfl) sentFields rfl
    obtain rfl : kept = kept' := Json.object.inj (Option.some.inj hkept)
    exact ⟨item, op, schema, hroute, hop, hschema, h⟩
  · obtain ⟨item, op, kept', hroute, hop, hkept, h⟩ :=
      (accepts_what_is_documented (enquiry .get) "ask" ⟨.get, .null, sentFields⟩).2 rfl
    obtain rfl : kept = kept' := Json.object.inj (Option.some.inj hkept)
    exact ⟨item, op, hroute, hop, h⟩

end RouteFlow.OpenApi
