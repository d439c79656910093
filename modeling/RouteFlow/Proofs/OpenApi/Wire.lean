import RouteFlow.Proofs.Json.Records
import RouteFlow.Proofs.OpenApi.Paths

/-!
# Descriptions on the wire

A description is served as an object and read back from one. `Description.OnWire` says what stands
there, record by record: absent options are left out, and so are empty lists of parameters and empty
properties; everything else is there, however little it holds. What was left out reads back as
absent or empty, so that nothing is lost (`description_survives_wire`).

The mappings of a description keep their names in order, paths, answers and media types by their
names, properties as they were put in. `Description.WellFormed` says so. It is no restriction: all
that describes routes is well formed (`wellFormed_project`), and so is all that is read
(`Description.wellFormed_of_read`).

A schema is read with as much room as the whole of it nests, so that its properties have room enough
(`Schema.readsBackWithin`).
-/

namespace RouteFlow.OpenApi

open Json (IsObject IsText LaidOut Lists Maps unlessEmpty Follows lists_map maps_ofEntries)
open Json (read_of_optional exists_read_of_list nodup_of_entries ascending_of_sorted)
open Json.Field (keeps_plain keeps_needed)
open Json (Writes ReadsBack readsBack_string readsBack_list readsBack_entries readsBack_sorted)
open Document (member?)

variable {α : Type}

/-! ### What stands on the wire -/

def Info.OnWire (i : Info) : Json → Prop := LaidOut [
  ("title", some (IsText i.title)),
  ("version", some (IsText i.version))]

mutual

/-- **A schema on the wire.** Its properties are written likewise. -/
def Schema.OnWire : Schema → Json → Prop
  | ⟨type?, description?, properties⟩ => LaidOut [
    ("type", type?.map IsText),
    ("description", description?.map IsText),
    ("properties", unlessEmpty properties (IsObject (PropertiesOnWire properties)))]

/-- Properties on the wire, in their order. -/
def PropertiesOnWire : List (String × Schema) → List (String × Json) → Prop
  | [], ms => ms = []
  | (k, s) :: rest, ms => ∃ j others, ms = (k, j) :: others ∧ s.OnWire j ∧
    PropertiesOnWire rest others

end

def Parameter.OnWire (p : Parameter) : Json → Prop := LaidOut [
  ("name", some (IsText p.name)),
  ("in", some (IsText p.location)),
  ("description", p.description?.map IsText),
  ("schema", p.schema?.map Schema.OnWire)]

def MediaType.OnWire (m : MediaType) : Json → Prop := LaidOut [
  ("schema", some m.schema.OnWire)]

def RequestBody.OnWire (b : RequestBody) : Json → Prop := LaidOut [
  ("content", some (Maps MediaType.OnWire b.content))]

def Response.OnWire (r : Response) : Json → Prop := LaidOut [
  ("description", some (IsText r.description))]

def Operation.OnWire (o : Operation) : Json → Prop := LaidOut [
  ("parameters", unlessEmpty o.parameters (Lists Parameter.OnWire o.parameters)),
  ("requestBody", o.requestBody?.map RequestBody.OnWire),
  ("responses", some (Maps Response.OnWire o.responses))]

def PathItem.OnWire (i : PathItem) : Json → Prop := LaidOut [
  ("description", i.description?.map IsText),
  ("get", i.get?.map Operation.OnWire),
  ("post", i.post?.map Operation.OnWire),
  ("put", i.put?.map Operation.OnWire)]

/-- **A description on the wire.** -/
def Description.OnWire (d : Description) : Json → Prop := LaidOut [
  ("openapi", some (IsText d.openapi)),
  ("info", some d.info.OnWire),
  ("paths", some (Maps PathItem.OnWire d.paths))]

/-! ### Writing -/

section Members

variable {β : Type} {name : String} {write : List β → Json} {l : List β}
  {ms : List (String × Json)}

theorem follows_filledMember {layout : Json.Layout} {P : Json → Prop} (h : P (write l))
    (rest : Follows layout ms) :
    Follows ((name, unlessEmpty l P) :: layout) (filledMember name write l ++ ms) := by
  cases l with
  | nil => exact .omitted rest
  | cons b others => exact .written h rest

/-- A member that is left out for an empty list, in a record with an empty list there to begin
with. -/
theorem writes_filledMember {r : Json.Reader (List β)} {set : α → List β → α}
    {fs : List (Json.Field α)} {a b : α} (hnil : set a [] = a) (h : ReadsBack r write l)
    (rest : Writes fs ms (set a l) b) :
    Writes (.plain name r set :: fs) (filledMember name write l ++ ms) a b := by
  cases l with
  | nil =>
    rw [hnil] at rest
    exact .omitted rfl rest
  | cons c others => exact .plain h rest

end Members

theorem propertiesToMembers_eq_map (ps : List (String × Schema)) :
    propertiesToMembers ps = ps.map fun p => (p.1, p.2.toJson) := by
  induction ps with
  | nil => rfl
  | cons p rest ih => rw [propertiesToMembers, ih, List.map_cons]

theorem Schema.toJson_eq (s : Schema) :
    s.toJson = .object (member? "type" .string s.type? ++
      (member? "description" .string s.description? ++
      (filledMember "properties" (Json.ofEntries Schema.toJson) s.properties ++ []))) := by
  obtain ⟨type?, description?, properties⟩ := s
  rw [toJson, propertiesToMembers_eq_map]
  cases properties <;> simp [filledMember]

theorem Parameter.toJson_eq (p : Parameter) :
    p.toJson = .object (("name", .string p.name) :: ("in", .string p.location) ::
      (member? "description" .string p.description? ++
      (member? "schema" Schema.toJson p.schema? ++ []))) := by
  simp [toJson]

theorem Operation.toJson_eq (o : Operation) :
    o.toJson = .object (
      filledMember "parameters" (fun ps : List Parameter => .array (ps.map Parameter.toJson))
        o.parameters ++
      (member? "requestBody" RequestBody.toJson o.requestBody? ++
      [("responses", objectOf Response.toJson o.responses)])) := by
  rw [toJson, List.append_assoc]

theorem PathItem.toJson_eq (i : PathItem) :
    i.toJson = .object (member? "description" .string i.description? ++
      (member? "get" Operation.toJson i.get? ++
      (member? "post" Operation.toJson i.post? ++
      (member? "put" Operation.toJson i.put? ++ [])))) := by
  simp [toJson]

theorem Info.onWire_toJson (i : Info) : i.OnWire i.toJson :=
  .intro (.written .intro (.written .intro .nil))

mutual

theorem Schema.onWire_toJson : ∀ s : Schema, s.OnWire s.toJson
  | ⟨type?, description?, properties⟩ => by
    rw [Schema.OnWire, Schema.toJson_eq]
    refine .intro (.text? type? (.text? description? ?_))
    exact follows_filledMember (.intro (onWire_properties properties)) .nil

theorem onWire_properties : ∀ ps : List (String × Schema),
    PropertiesOnWire ps (ps.map fun p => (p.1, p.2.toJson))
  | [] => rfl
  | (_, s) :: rest => ⟨_, _, rfl, s.onWire_toJson, onWire_properties rest⟩

end

theorem Parameter.onWire_toJson (p : Parameter) : p.OnWire p.toJson := by
  rw [toJson_eq]
  refine .intro (.written .intro (.written .intro (.text? p.description? ?_)))
  exact .member? Schema.onWire_toJson p.schema? .nil

theorem MediaType.onWire_toJson (m : MediaType) : m.OnWire m.toJson :=
  .intro (.written m.schema.onWire_toJson .nil)

theorem RequestBody.onWire_toJson (b : RequestBody) : b.OnWire b.toJson :=
  .intro (.written (maps_ofEntries MediaType.onWire_toJson b.content) .nil)

theorem Response.onWire_toJson (r : Response) : r.OnWire r.toJson :=
  .intro (.written .intro .nil)

theorem Operation.onWire_toJson (o : Operation) : o.OnWire o.toJson := by
  rw [toJson_eq]
  refine .intro (follows_filledMember (lists_map Parameter.onWire_toJson o.parameters) ?_)
  refine .member? RequestBody.onWire_toJson o.requestBody? ?_
  exact .written (maps_ofEntries Response.onWire_toJson o.responses) .nil

theorem PathItem.onWire_toJson (i : PathItem) : i.OnWire i.toJson := by
  rw [toJson_eq]
  refine .intro (.text? i.description? ?_)
  refine .member? Operation.onWire_toJson i.get? ?_
  refine .member? Operation.onWire_toJson i.post? ?_
  exact .member? Operation.onWire_toJson i.put? .nil

theorem Description.onWire_toJson (d : Description) : d.OnWire d.toJson := by
  refine .intro (.written .intro (.written d.info.onWire_toJson ?_))
  exact .written (maps_ofEntries PathItem.onWire_toJson d.paths) .nil

/-! ### Mappings in order -/

/-- **Each property has a name of its own**, and so on inside. -/
inductive Schema.WellFormed : Schema → Prop
  | intro {type? description? : Option String} {properties : List (String × Schema)}
      (distinct : (Entries.names properties).Nodup)
      (inside : ∀ p ∈ properties, WellFormed p.2) : WellFormed ⟨type?, description?, properties⟩

def Parameter.WellFormed (p : Parameter) : Prop := ∀ s, p.schema? = some s → s.WellFormed

structure RequestBody.WellFormed (b : RequestBody) : Prop where
  ascending : b.content.Ascending
  schemas : ∀ e ∈ b.content, e.2.schema.WellFormed

structure Operation.WellFormed (o : Operation) : Prop where
  parameters : ∀ p ∈ o.parameters, p.WellFormed
  body : ∀ b, o.requestBody? = some b → b.WellFormed
  responses : o.responses.Ascending

structure PathItem.WellFormed (i : PathItem) : Prop where
  get : ∀ o, i.get? = some o → o.WellFormed
  post : ∀ o, i.post? = some o → o.WellFormed
  put : ∀ o, i.put? = some o → o.WellFormed

/-- **The mappings of a description are in order.** -/
structure Description.WellFormed (d : Description) : Prop where
  ascending : d.paths.Ascending
  items : ∀ e ∈ d.paths, e.2.WellFormed

theorem Schema.wellFormed_iff {type? description? : Option String}
    {properties : List (String × Schema)} :
    Schema.WellFormed ⟨type?, description?, properties⟩ ↔
      (Entries.names properties).Nodup ∧ ∀ p ∈ properties, p.2.WellFormed := by
  constructor
  · rintro ⟨distinct, inside⟩
    exact ⟨distinct, inside⟩
  · rintro ⟨distinct, inside⟩
    exact .intro distinct inside

theorem Schema.wellFormed_of_nil (type? description? : Option String) :
    Schema.WellFormed ⟨type?, description?, []⟩ :=
  .intro List.nodup_nil (List.forall_mem_nil _)

/-! ### Descriptions of routes -/

section Routes

open Document (Declaration)

variable {d : Declaration}

theorem wellFormed_bodySchema (d : Declaration) : (bodySchema d).WellFormed := by
  refine .intro (Entries.nodup_ofList _) fun p hp => ?_
  obtain ⟨f, -, hf⟩ := List.mem_filterMap.mp (Entries.mem_of_mem_ofList hp)
  obtain ⟨name, -, rfl⟩ := Option.map_eq_some_iff.mp hf
  exact Schema.wellFormed_of_nil _ _

theorem ascending_responses (d : Declaration) : (responses d).Ascending :=
  List.pairwise_singleton _ _

theorem wellFormed_bodyOperation (d : Declaration) : (bodyOperation d).WellFormed where
  parameters := List.forall_mem_nil _
  body := by
    rintro _ ⟨⟩
    exact ⟨List.pairwise_singleton _ _, List.forall_mem_singleton.mpr (wellFormed_bodySchema d)⟩
  responses := ascending_responses d

theorem wellFormed_queryOperation (d : Declaration) : (queryOperation d).WellFormed where
  parameters := by
    intro p hp s hs
    obtain ⟨f, -, hf⟩ := List.mem_filterMap.mp hp
    obtain ⟨name, -, rfl⟩ := Option.map_eq_some_iff.mp hf
    obtain ⟨t, -, rfl⟩ := Option.map_eq_some_iff.mp hs
    exact Schema.wellFormed_of_nil _ _
  body := nofun
  responses := ascending_responses d

theorem routeOperation?_cases {o : Operation} (h : routeOperation? d = some o) :
    o = bodyOperation d ∨ o = queryOperation d := by
  unfold routeOperation? pathItem? at h
  cases hm : d.method <;> simp_all [PathItem.operation?]

/-- Each operation of a description of routes is that of some route. -/
theorem exists_routeOperation? {info : Info} {routes : List (Declaration × String)}
    {path : String} {item : PathItem} (hitem : (path, item) ∈ (project info routes).paths)
    {m : Http.Method} (hm : m ∈ describedMethods) {o : Operation}
    (ho : item.operation? m = some o) : ∃ d, routeOperation? d = some o := by
  have hproject : (project info routes).operation? m path = some o := by
    rw [Description.operation?, operationAt?,
      Entries.get?_of_mem (ascending_project info).nodup hitem]
    exact ho
  rw [operation?_project hm] at hproject
  obtain ⟨r, -, hr⟩ := Option.bind_eq_some_iff.mp hproject
  exact ⟨r.1, hr⟩

theorem wellFormed_of_routeOperation? {o : Operation} (h : routeOperation? d = some o) :
    o.WellFormed := by
  rcases routeOperation?_cases h with rfl | rfl
  · exact wellFormed_bodyOperation d
  · exact wellFormed_queryOperation d

/-- **What describes routes is well formed.** -/
theorem wellFormed_project (info : Info) (routes : List (Declaration × String)) :
    (project info routes).WellFormed where
  ascending := ascending_project info
  items := by
    rintro ⟨path, item⟩ hitem
    have hoperations : ∀ m ∈ describedMethods, ∀ o, item.operation? m = some o → o.WellFormed := by
      intro m hm o ho
      obtain ⟨d, hd⟩ := exists_routeOperation? hitem hm ho
      exact wellFormed_of_routeOperation? hd
    exact {
      get := hoperations .get (by decide)
      post := hoperations .post (by decide)
      put := hoperations .put (by decide) }

end Routes

/-! ### Descriptions that were read -/

theorem Schema.wellFormed_of_readWithin {n : Nat} {source : Json.Source} {schema : Schema}
    (h : readerWithin n source = .ok schema) : schema.WellFormed := by
  induction n generalizing source schema with
  | zero => obtain ⟨⟩ := h
  | succ n ih =>
    refine Json.Shape.holds_of_read (wellFormed_of_nil none none) ?_ h
    -- texts have no say in it
    refine ⟨keeps_plain fun _ _ s _ hs => ?_, keeps_plain fun _ _ s _ hs => ?_,
      keeps_plain fun _ properties s hread _ => ?_⟩
    · obtain ⟨_, _, _⟩ := s
      exact wellFormed_iff.mpr (wellFormed_iff.mp hs)
    · obtain ⟨_, _, _⟩ := s
      exact wellFormed_iff.mpr (wellFormed_iff.mp hs)
    · obtain ⟨hdistinct, hvalues⟩ := nodup_of_entries hread
      refine .intro hdistinct fun p hp => ?_
      obtain ⟨inner, hinner⟩ := hvalues p hp
      exact ih hinner

theorem Schema.wellFormed_of_read {source : Json.Source} {schema : Schema}
    (h : reader source = .ok schema) : schema.WellFormed :=
  wellFormed_of_readWithin h

theorem Parameter.wellFormed_of_read {source : Json.Source} {p : Parameter}
    (h : shape.read source = .ok p) : p.WellFormed := by
  refine Json.Shape.holds_of_read (P := WellFormed) ?_ ?_ h
  · exact fun s hs => absurd hs.symm (Option.some_ne_none s)
  refine ⟨keeps_needed fun _ _ _ _ hp => hp, keeps_needed fun _ _ _ _ hp => hp,
    keeps_plain fun _ _ _ _ hp => hp, keeps_plain fun _ schema? _ hread _ s hs => ?_⟩
  exact Schema.wellFormed_of_read (read_of_optional hread hs)

theorem MediaType.wellFormed_of_read {source : Json.Source} {m : MediaType}
    (h : shape.read source = .ok m) : m.schema.WellFormed := by
  refine Json.Shape.holds_of_read (P := fun m : MediaType => m.schema.WellFormed)
    (Schema.wellFormed_of_nil none none) ?_ h
  exact keeps_needed fun _ _ _ hread _ => Schema.wellFormed_of_read hread

theorem RequestBody.wellFormed_of_read {source : Json.Source} {b : RequestBody}
    (h : shape.read source = .ok b) : b.WellFormed := by
  refine Json.Shape.holds_of_read ⟨Entries.ascending_nil, List.forall_mem_nil _⟩ ?_ h
  refine keeps_plain fun _ content _ hread _ => ?_
  obtain ⟨hascending, hvalues⟩ := ascending_of_sorted hread
  refine ⟨hascending, fun e he => ?_⟩
  obtain ⟨inner, hinner⟩ := hvalues e he
  exact MediaType.wellFormed_of_read hinner

theorem Operation.wellFormed_of_read {source : Json.Source} {o : Operation}
    (h : reader source = .ok o) : o.WellFormed := by
  refine Json.Shape.holds_of_read
    ⟨List.forall_mem_nil _, fun _ hb => absurd hb nofun, Entries.ascending_nil⟩ ?_ h
  refine ⟨keeps_plain fun _ parameters o hread ho => ?_,
    keeps_plain fun _ body? o hread ho => ?_, keeps_plain fun _ responses o hread ho => ?_⟩
  · refine ⟨fun p hp => ?_, ho.body, ho.responses⟩
    obtain ⟨inner, hinner⟩ := exists_read_of_list hread p hp
    exact Parameter.wellFormed_of_read hinner
  · refine ⟨ho.parameters, fun b hb => ?_, ho.responses⟩
    exact RequestBody.wellFormed_of_read (read_of_optional hread hb)
  · exact ⟨ho.parameters, ho.body, (ascending_of_sorted hread).1⟩

theorem PathItem.wellFormed_of_read {source : Json.Source} {i : PathItem}
    (h : shape.read source = .ok i) : i.WellFormed := by
  refine Json.Shape.holds_of_read ⟨nofun, nofun, nofun⟩ ?_ h
  refine ⟨keeps_plain fun _ _ _ _ hi => ⟨hi.get, hi.post, hi.put⟩,
    keeps_plain fun _ _ _ hread hi => ⟨fun o ho => ?_, hi.post, hi.put⟩,
    keeps_plain fun _ _ _ hread hi => ⟨hi.get, fun o ho => ?_, hi.put⟩,
    keeps_plain fun _ _ _ hread hi => ⟨hi.get, hi.post, fun o ho => ?_⟩⟩
  all_goals exact Operation.wellFormed_of_read (read_of_optional hread ho)

theorem Description.wellFormed_of_read {source : Json.Source} {d : Description}
    (h : reader source = .ok d) : d.WellFormed := by
  refine Json.Shape.holds_of_read ⟨Entries.ascending_nil, List.forall_mem_nil _⟩ ?_ h
  refine ⟨keeps_needed fun _ _ _ _ hd => ⟨hd.ascending, hd.items⟩,
    keeps_needed fun _ _ _ _ hd => ⟨hd.ascending, hd.items⟩,
    keeps_plain fun _ paths _ hread _ => ?_⟩
  obtain ⟨hascending, hvalues⟩ := ascending_of_sorted hread
  refine ⟨hascending, fun e he => ?_⟩
  obtain ⟨inner, hinner⟩ := hvalues e he
  exact PathItem.wellFormed_of_read hinner

/-! ### Reading back -/

theorem Info.readsBack (i : Info) : ReadsBack shape.read toJson i := by
  refine Json.Shape.read_of_writes (by decide) ?_ rfl
  refine .needed (readsBack_string i.title) ?_
  exact .needed (readsBack_string i.version) .nil

/-- Properties nest at least two deep less than the schema that has them. -/
theorem Schema.depth_property_lt {s : Schema} {p : String × Schema} (hp : p ∈ s.properties) :
    (Json.Source.ofJson p.2.toJson).depth + 1 < (Json.Source.ofJson s.toJson).depth := by
  have hinner := Json.Source.depth_lt_of_mem
    (List.mem_map_of_mem (f := fun p : String × Schema => (p.1, p.2.toJson)) hp)
  have houter : ("properties", Json.ofEntries Schema.toJson s.properties) ∈
      filledMember "properties" (Json.ofEntries Schema.toJson) s.properties := by
    cases hs : s.properties with
    | nil => exact absurd (hs ▸ hp) List.not_mem_nil
    | cons p' rest => exact List.mem_cons_self
  have hlt := Json.Source.depth_lt_of_mem
    (List.mem_append_right (member? "type" .string s.type?)
      (List.mem_append_right (member? "description" .string s.description?)
        (List.mem_append_left [] houter)))
  rw [s.toJson_eq]
  exact (Nat.succ_le_of_lt hinner).trans_lt hlt

/-- **A schema reads back** where there is room enough for what it nests. -/
theorem Schema.readsBackWithin {n : Nat} {s : Schema} (hs : s.WellFormed)
    (hn : (Json.Source.ofJson s.toJson).depth < n) : ReadsBack (readerWithin n) toJson s := by
  induction n generalizing s with
  | zero => exact absurd hn (Nat.not_lt_zero _)
  | succ n ih =>
    obtain @⟨type?, description?, properties, distinct, inside⟩ := hs
    have hproperties : ReadsBack (.entries (readerWithin n)) (Json.ofEntries toJson) properties :=
      readsBack_entries distinct fun p hp => by
        have hdepth := depth_property_lt (s := ⟨type?, description?, properties⟩) hp
        exact ih (inside p hp) (by omega)
    have hnames : ((shape (readerWithin n)).fields.map (·.name)).Nodup :=
      (by decide : ["type", "description", "properties"].Nodup)
    refine Json.Shape.read_of_writes hnames ?_ (toJson_eq _)
    refine .text? type? rfl (.text? description? rfl ?_)
    exact writes_filledMember rfl hproperties .nil

theorem Schema.readsBack {s : Schema} (hs : s.WellFormed) : ReadsBack reader toJson s :=
  readsBackWithin hs (Nat.lt_succ_self _)

theorem Parameter.readsBack {p : Parameter} (hp : p.WellFormed) :
    ReadsBack shape.read toJson p := by
  have hne : ∀ s : Schema, s.toJson ≠ .null := fun s => by
    rw [s.toJson_eq]
    exact nofun
  refine Json.Shape.read_of_writes (by decide) ?_ p.toJson_eq
  refine .needed (readsBack_string p.name) (.needed (readsBack_string p.location) ?_)
  refine .text? p.description? rfl ?_
  exact .member? p.schema? rfl (fun s hs => Schema.readsBack (hp s hs)) (fun s _ => hne s) .nil

theorem MediaType.readsBack {m : MediaType} (hm : m.schema.WellFormed) :
    ReadsBack shape.read toJson m := by
  refine Json.Shape.read_of_writes (by decide) ?_ rfl
  exact .needed (Schema.readsBack hm) .nil

theorem RequestBody.readsBack {b : RequestBody} (hb : b.WellFormed) :
    ReadsBack shape.read toJson b := by
  have hcontent : ReadsBack (.sorted MediaType.shape.read) (objectOf MediaType.toJson) b.content :=
    readsBack_sorted hb.ascending fun e he => MediaType.readsBack (hb.schemas e he)
  refine Json.Shape.read_of_writes (by decide) ?_ rfl
  exact .plain hcontent .nil

theorem Response.readsBack (r : Response) : ReadsBack shape.read toJson r := by
  refine Json.Shape.read_of_writes (by decide) ?_ rfl
  exact .plain (readsBack_string r.description) .nil

theorem Operation.readsBack {o : Operation} (ho : o.WellFormed) :
    ReadsBack reader toJson o := by
  have hparameters : ReadsBack (.list Parameter.shape.read)
      (fun ps : List Parameter => .array (ps.map Parameter.toJson)) o.parameters :=
    readsBack_list fun p hp => Parameter.readsBack (ho.parameters p hp)
  have hresponses : ReadsBack (.sorted Response.shape.read) (objectOf Response.toJson)
      o.responses :=
    readsBack_sorted ho.responses fun e _ => e.2.readsBack
  refine Json.Shape.read_of_writes (by decide) ?_ o.toJson_eq
  refine writes_filledMember rfl hparameters ?_
  refine .member? o.requestBody? rfl (fun b hb => RequestBody.readsBack (ho.body b hb)) nofun ?_
  exact .plain hresponses .nil

theorem PathItem.readsBack {i : PathItem} (hi : i.WellFormed) : ReadsBack shape.read toJson i := by
  refine Json.Shape.read_of_writes (by decide) ?_ i.toJson_eq
  refine .text? i.description? rfl ?_
  refine .member? i.get? rfl (fun o ho => Operation.readsBack (hi.get o ho)) nofun ?_
  refine .member? i.post? rfl (fun o ho => Operation.readsBack (hi.post o ho)) nofun ?_
  exact .member? i.put? rfl (fun o ho => Operation.readsBack (hi.put o ho)) nofun .nil

theorem Description.readsBack {d : Description} (hd : d.WellFormed) :
    ReadsBack reader toJson d := by
  have hpaths : ReadsBack (.sorted PathItem.shape.read) (objectOf PathItem.toJson) d.paths :=
    readsBack_sorted hd.ascending fun e he => PathItem.readsBack (hd.items e he)
  refine Json.Shape.read_of_writes (by decide) ?_ rfl
  refine .needed (readsBack_string d.openapi) (.needed d.info.readsBack ?_)
  exact .plain hpaths .nil

/-- **A description survives its wire form.** What stands on the wire is what `OnWire` says: nothing
is left out but absent options, empty lists of parameters and empty properties. It reads back as the
description, properties in their order. This goes for every description whose mappings are in order,
and they are in all that describes routes and in all that is read, from a value or from a text. -/
theorem description_survives_wire :
    (∀ d : Description, d.WellFormed →
        d.OnWire d.toJson ∧ Description.reader.ofJson d.toJson = .ok d) ∧
      (∀ info routes, (project info routes).WellFormed) ∧
      ∀ (source : Json.Source) (d : Description),
        Description.reader source = .ok d → d.WellFormed := by
  refine ⟨fun d hd => ?_, wellFormed_project, fun source d h => ?_⟩
  · exact ⟨d.onWire_toJson, Description.readsBack hd⟩
  · exact Description.wellFormed_of_read h

/-- A schema that nests, with properties that do not ascend. -/
def catSchema : Schema := ⟨some "object", none, [
  ("name", ⟨some "string", some "what it answers to", []⟩),
  ("home", ⟨some "object", none, [("street", ⟨none, none, []⟩), ("city", ⟨none, none, []⟩)]⟩)]⟩

theorem wellFormed_catSchema : catSchema.WellFormed := by
  simp [catSchema, Schema.wellFormed_iff, Entries.names]

/-- What may be left out is there in one operation and not in the other. -/
def shelter : Description where
  openapi := standardVersion
  info := ⟨"shelter", "2"⟩
  paths := [
    ("/cats/adopt", ⟨some "takes a cat home", none, some {
      parameters := []
      requestBody? := some ⟨[(jsonMediaType, ⟨catSchema⟩)]⟩
      responses := [("200", ⟨"adopted"⟩), ("404", ⟨""⟩)] }, none⟩),
    ("/cats/list", ⟨none, some {
      parameters := [⟨"colour", "query", none, some ⟨some "string", none, []⟩⟩,
        ⟨"age", "query", some "in years", none⟩]
      requestBody? := none
      responses := [] }, none, none⟩)]

theorem description_survives_wire_shelter :
    shelter.WellFormed ∧ shelter.OnWire shelter.toJson ∧
      Description.reader.ofJson shelter.toJson = .ok shelter := by
  have hwell : shelter.WellFormed := by
    refine ⟨by unfold Entries.Ascending; decide +kernel,
      List.forall_mem_cons.mpr ⟨?_, List.forall_mem_singleton.mpr ?_⟩⟩
    · refine ⟨nofun, ?_, nofun⟩
      rintro _ ⟨⟩
      refine ⟨List.forall_mem_nil _, ?_, by unfold Entries.Ascending; decide +kernel⟩
      rintro _ ⟨⟩
      exact ⟨List.pairwise_singleton _ _, List.forall_mem_singleton.mpr wellFormed_catSchema⟩
    · refine ⟨?_, nofun, nofun⟩
      rintro _ ⟨⟩
      refine ⟨?_, nofun, Entries.ascending_nil⟩
      simp [Parameter.WellFormed, Schema.wellFormed_of_nil]
  obtain ⟨hwire, hread⟩ := description_survives_wire.1 shelter hwell
  exact ⟨description_survives_wire.2.2 _ shelter hread, hwire, hread⟩

end RouteFlow.OpenApi
