import RouteFlow.Proofs.Json.Spelling

/-!
# Declarations in normal form

A declaration may be spelled in many ways: with members in any order and some that it does not know,
with null for what is left out, with the method in any letter case between blanks, or as a list
without any names. `Declaration.ReadOff` says what is read off members, part by part, with no regard
to how the reader goes about it.

Written out, a declaration has one form (`Declaration.OnWire`), and that form reads back as the
declaration it was written for. The one thing that could be lost is a version of null, which would
come back as none, and no declaration that was read has one (`Declaration.Normal`). So reading
normalizes once and for all.

* `Declaration.read_iff_spelledBy` — which values are read, and as which declaration;
* `Declaration.readsBack_iff` — the declarations that read back are those that can be read at all;
* `reading_normalizes` — what was read, written and read again is the same.
-/

namespace RouteFlow.Document

open Fallible
open Json (Gives IsText LaidOut Lists MayBe Reader Shape Spelled WellFormed ReadsBack)
open Json (gives_iff gives_and_mem_names_iff gives_optional_iff map_map_of_inverse)
open Json (ofJson_string_iff ofJson_list_iff ofJson_json_iff)
open Json (readsBack_string readsBack_list lists_map)
open Json.Field (plain needed keeps_plain keeps_needed)

/-! ### What is read -/

/-- **What is read off members as an allowed field.** -/
structure AllowedField.ReadOff (ms : Entries Json) (f : AllowedField) : Prop where
  field : MayBe IsText (ms.get? "field") f.field?
  type : MayBe IsText (ms.get? "type") f.type?
  description : MayBe IsText (ms.get? "description") f.description?

/-- A value spells an allowed field. -/
def AllowedField.SpelledBy (f : AllowedField) : Json → Prop :=
  Spelled ["field", "type", "description"] (ReadOff · f)

/-- **What is read off members as an allowlist.** -/
structure Allowlist.ReadOff (ms : Entries Json) (a : Allowlist) : Prop where
  body : MayBe (Lists AllowedField.SpelledBy) (ms.get? "body") a.body?
  params : MayBe (Lists AllowedField.SpelledBy) (ms.get? "params") a.params?

/-- A value spells an allowlist. -/
def Allowlist.SpelledBy (a : Allowlist) : Json → Prop :=
  Spelled ["body", "params"] (ReadOff · a)

/-- **What is read off members as a declaration.** The method has to be there, in any letter case
and with blanks on either side; the namespace is empty if it is not there; a version is any value
but null. -/
structure Declaration.ReadOff (ms : Entries Json) (d : Declaration) : Prop where
  call : MayBe IsText (ms.get? "call") d.call?
  version : MayBe Eq (ms.get? "version") d.version?
  description : MayBe IsText (ms.get? "description") d.description?
  method : ∃ text, ms.get? "method" = some (.string text) ∧
    d.method.name = Text.upper (Text.trimmed text)
  accepts : MayBe IsText (ms.get? "accepts") d.accepts?
  returns : MayBe IsText (ms.get? "returns") d.returns?
  namespacePath : (ms.get? "namespace" = none ∧ d.namespacePath = "") ∨
    ms.get? "namespace" = some (.string d.namespacePath)
  allowlist : MayBe Allowlist.SpelledBy (ms.get? "allowlist") d.allowlist?

/-- A value spells a declaration. -/
def Declaration.SpelledBy (d : Declaration) : Json → Prop :=
  Spelled ["call", "version", "description", "method", "accepts", "returns", "namespace",
    "allowlist"] (ReadOff · d)

/-- The text of a part that may be left out. -/
theorem gives_text_iff {j? : Option Json} {s? : Option String} :
    Gives (.optional .string) none j? s? ↔ MayBe IsText j? s? :=
  gives_optional_iff fun _ _ _ => ofJson_string_iff

section Reading

variable {ms : Entries Json} {j : Json}

/-! #### Allowed fields -/

/-- The parts of an allowed field. -/
def AllowedField.parts : List (Shape.Part AllowedField) := [
  ⟨"field", .optional .string, (·.field?)⟩,
  ⟨"type", .optional .string, (·.type?)⟩,
  ⟨"description", .optional .string, (·.description?)⟩]

theorem AllowedField.consistsOf_parts : shape.ConsistsOf parts where
  names := rfl
  fills := by
    refine ⟨?_, ?_, ?_⟩ <;> constructor <;>
      simp +contextual [shape, plain, map_eq_ok_iff, map_map_of_inverse]
  ext := by
    rintro ⟨⟩ ⟨⟩ h
    simpa [parts] using h

theorem AllowedField.read_object_iff {f : AllowedField} (h : WellFormed (.object ms)) :
    Reader.ofJson shape.read (.object ms) = .ok f ↔ ReadOff ms f := by
  obtain ⟨hms, -⟩ := Json.wellFormed_object_iff.mp h
  rw [Shape.read_object_iff_gives (by decide) consistsOf_parts hms]
  constructor
  · rintro ⟨⟨field, type, description⟩, -⟩
    exact ⟨gives_text_iff.mp field, gives_text_iff.mp type, gives_text_iff.mp description⟩
  · rintro ⟨field, type, description⟩
    refine ⟨⟨?_, ?_, ?_⟩, by simp [shape, plain]⟩
    · exact gives_text_iff.mpr field
    · exact gives_text_iff.mpr type
    · exact gives_text_iff.mpr description

theorem AllowedField.read_iff_spelledBy {f : AllowedField} (hj : WellFormed j) :
    reader.ofJson j = .ok f ↔ f.SpelledBy j :=
  Shape.read_iff_spelled (by decide) (fun _ h => read_object_iff h) hj

/-! #### Allowlists -/

/-- The parts of an allowlist. -/
def Allowlist.parts : List (Shape.Part Allowlist) := [
  ⟨"body", .optional (.list AllowedField.reader), (·.body?)⟩,
  ⟨"params", .optional (.list AllowedField.reader), (·.params?)⟩]

theorem Allowlist.consistsOf_parts : shape.ConsistsOf parts where
  names := rfl
  fills := by
    refine ⟨?_, ?_⟩ <;> constructor <;>
      simp +contextual [shape, plain, map_eq_ok_iff, map_map_of_inverse]
  ext := by
    rintro ⟨⟩ ⟨⟩ h
    simpa [parts] using h

theorem Allowlist.gives_section_iff (h : WellFormed (.object ms)) {name : String}
    {fields? : Option (List AllowedField)} :
    Gives (.optional (.list AllowedField.reader)) none (ms.get? name) fields? ↔
      MayBe (Lists AllowedField.SpelledBy) (ms.get? name) fields? := by
  refine gives_optional_iff fun j hj fields => ?_
  have hmem : (name, j) ∈ ms := Entries.mem_of_get? hj
  have hwell : WellFormed j := (Json.wellFormed_object_iff.mp h).2 _ hmem
  exact ofJson_list_iff hwell fun _ hj _ => AllowedField.read_iff_spelledBy hj

theorem Allowlist.read_object_iff {a : Allowlist} (h : WellFormed (.object ms)) :
    Reader.ofJson shape.read (.object ms) = .ok a ↔ ReadOff ms a := by
  obtain ⟨hms, -⟩ := Json.wellFormed_object_iff.mp h
  rw [Shape.read_object_iff_gives (by decide) consistsOf_parts hms]
  constructor
  · rintro ⟨⟨body, params⟩, -⟩
    exact ⟨(gives_section_iff h).mp body, (gives_section_iff h).mp params⟩
  · rintro ⟨body, params⟩
    refine ⟨⟨?_, ?_⟩, by simp [shape, plain]⟩
    · exact (gives_section_iff h).mpr body
    · exact (gives_section_iff h).mpr params

theorem Allowlist.read_iff_spelledBy {a : Allowlist} (hj : WellFormed j) :
    reader.ofJson j = .ok a ↔ a.SpelledBy j :=
  Shape.read_iff_spelled (by decide) (fun _ h => read_object_iff h) hj

/-! #### Declarations -/

theorem readMethod_eq_ok_iff {m : Http.Method} :
    readMethod.ofJson j = .ok m ↔
      ∃ text, j = .string text ∧ m.name = Text.upper (Text.trimmed text) := by
  have htext : readMethod.ofJson j = .ok m ↔
      ∃ text, Reader.string.ofJson j = .ok text ∧ Http.Method.ofText? text = some m := by
    unfold Reader.ofJson readMethod
    rw [bind_eq_ok_iff]
    refine exists_congr fun text => and_congr_right fun _ => ?_
    cases Http.Method.ofText? text <;> simp
  rw [htext]
  refine exists_congr fun text => and_congr ?_ Http.Method.ofText?_eq_some_iff
  rw [ofJson_string_iff]
  exact ⟨fun h => by cases h with | intro => rfl, fun h => h ▸ .intro⟩

/-- The parts of a declaration. -/
def Declaration.parts : List (Shape.Part Declaration) := [
  ⟨"call", .optional .string, (·.call?)⟩,
  ⟨"version", .optional .json, (·.version?)⟩,
  ⟨"description", .optional .string, (·.description?)⟩,
  ⟨"method", readMethod, (·.method)⟩,
  ⟨"accepts", .optional .string, (·.accepts?)⟩,
  ⟨"returns", .optional .string, (·.returns?)⟩,
  ⟨"namespace", .string, (·.namespacePath)⟩,
  ⟨"allowlist", .optional Allowlist.reader, (·.allowlist?)⟩]

theorem Declaration.consistsOf_parts : shape.ConsistsOf parts where
  names := rfl
  fills := by
    refine ⟨?_, ?_, ?_, ?_, ?_, ?_, ?_, ?_⟩ <;> constructor <;>
      simp +contextual [shape, plain, needed, map_eq_ok_iff, map_map_of_inverse]
  ext := by
    rintro ⟨⟩ ⟨⟩ h
    simpa [parts] using h

theorem Declaration.read_object_iff {d : Declaration} (h : WellFormed (.object ms)) :
    Reader.ofJson shape.read (.object ms) = .ok d ↔ ReadOff ms d := by
  obtain ⟨hms, hinside⟩ := Json.wellFormed_object_iff.mp h
  have hwell {name : String} {j : Json} (hj : ms.get? name = some j) : WellFormed j :=
    hinside _ (Entries.mem_of_get? hj)
  have hversion : Gives (.optional .json) none (ms.get? "version") d.version? ↔
      MayBe Eq (ms.get? "version") d.version? :=
    gives_optional_iff fun j hj _ => ofJson_json_iff (hwell hj)
  have hallowlist : Gives (.optional Allowlist.reader) none (ms.get? "allowlist") d.allowlist? ↔
      MayBe Allowlist.SpelledBy (ms.get? "allowlist") d.allowlist? :=
    gives_optional_iff fun j hj _ => Allowlist.read_iff_spelledBy (hwell hj)
  have hmethod : Gives readMethod .get (ms.get? "method") d.method ∧ "method" ∈ ms.names ↔
      ∃ text, ms.get? "method" = some (.string text) ∧
        d.method.name = Text.upper (Text.trimmed text) := by
    rw [gives_and_mem_names_iff]
    simp only [readMethod_eq_ok_iff]
    constructor
    · rintro ⟨j, hj, text, rfl, hname⟩
      exact ⟨text, hj, hname⟩
    · rintro ⟨text, hj, hname⟩
      exact ⟨_, hj, text, rfl, hname⟩
  have hnamespace : Gives .string "" (ms.get? "namespace") d.namespacePath ↔
      (ms.get? "namespace" = none ∧ d.namespacePath = "") ∨
        ms.get? "namespace" = some (.string d.namespacePath) := by
    rw [gives_iff]
    simp only [ofJson_string_iff]
    refine or_congr_right ⟨?_, fun h => ⟨_, h, .intro⟩⟩
    rintro ⟨_, hj, ⟨⟩⟩
    exact hj
  -- the method is the one member that has to be there
  have hrequired : (∀ f ∈ shape.fields, f.required = true → f.name ∈ ms.names) ↔
      "method" ∈ ms.names := by
    simp [shape, plain, needed]
  rw [Shape.read_object_iff_gives (by decide) consistsOf_parts hms, hrequired]
  constructor
  · rintro ⟨⟨call, version, description, method, accepts, returns, namespacePath, allowlist⟩,
      hgiven⟩
    exact {
      call := gives_text_iff.mp call
      version := hversion.mp version
      description := gives_text_iff.mp description
      method := hmethod.mp ⟨method, hgiven⟩
      accepts := gives_text_iff.mp accepts
      returns := gives_text_iff.mp returns
      namespacePath := hnamespace.mp namespacePath
      allowlist := hallowlist.mp allowlist }
  · rintro ⟨call, version, description, method, accepts, returns, namespacePath, allowlist⟩
    obtain ⟨method, hgiven⟩ := hmethod.mpr method
    refine ⟨⟨?_, ?_, ?_, method, ?_, ?_, ?_, ?_⟩, hgiven⟩
    · exact gives_text_iff.mpr call
    · exact hversion.mpr version
    · exact gives_text_iff.mpr description
    · exact gives_text_iff.mpr accepts
    · exact gives_text_iff.mpr returns
    · exact hnamespace.mpr namespacePath
    · exact hallowlist.mpr allowlist

theorem Declaration.read_iff_spelledBy {d : Declaration} (hj : WellFormed j) :
    reader.ofJson j = .ok d ↔ d.SpelledBy j :=
  Shape.read_iff_spelled (by decide) (fun _ h => read_object_iff h) hj

end Reading

/-! ### What is written -/

def AllowedField.OnWire (f : AllowedField) : Json → Prop := LaidOut [
  ("field", f.field?.map IsText),
  ("type", f.type?.map IsText),
  ("description", f.description?.map IsText)]

def Allowlist.OnWire (a : Allowlist) : Json → Prop := LaidOut [
  ("body", a.body?.map (Lists AllowedField.OnWire)),
  ("params", a.params?.map (Lists AllowedField.OnWire))]

/-- **A declaration on the wire.** The method is written in one way only, and the namespace always
is there. -/
def Declaration.OnWire (d : Declaration) : Json → Prop := LaidOut [
  ("call", d.call?.map IsText),
  ("version", d.version?.map Eq),
  ("description", d.description?.map IsText),
  ("method", some (IsText d.method.name)),
  ("accepts", d.accepts?.map IsText),
  ("returns", d.returns?.map IsText),
  ("namespace", some (IsText d.namespacePath)),
  ("allowlist", d.allowlist?.map Allowlist.OnWire)]

/-- The list that describes allowed fields. -/
abbrev fieldsToJson (fields : List AllowedField) : Json :=
  .array (fields.map AllowedField.toJson)

theorem AllowedField.toJson_eq (f : AllowedField) :
    f.toJson = .object (member? "field" .string f.field? ++
      (member? "type" .string f.type? ++
      (member? "description" .string f.description? ++ []))) := by
  simp [toJson]

theorem Allowlist.toJson_eq (a : Allowlist) :
    a.toJson = .object (member? "body" fieldsToJson a.body? ++
      (member? "params" fieldsToJson a.params? ++ [])) := by
  rw [List.append_nil]
  rfl

theorem Declaration.toJson_eq (d : Declaration) :
    d.toJson = .object (member? "call" .string d.call? ++
      (member? "version" id d.version? ++
      (member? "description" .string d.description? ++
      ("method", .string d.method.name) ::
      (member? "accepts" .string d.accepts? ++
      (member? "returns" .string d.returns? ++
      ("namespace", .string d.namespacePath) ::
      (member? "allowlist" Allowlist.toJson d.allowlist? ++ [])))))) := by
  simp [toJson]

theorem AllowedField.onWire_toJson (f : AllowedField) : f.OnWire f.toJson := by
  rw [toJson_eq]
  exact .intro (.text? f.field? (.text? f.type? (.text? f.description? .nil)))

theorem Allowlist.onWire_toJson (a : Allowlist) : a.OnWire a.toJson := by
  rw [toJson_eq]
  refine .intro (.member? (lists_map AllowedField.onWire_toJson) a.body? ?_)
  exact .member? (lists_map AllowedField.onWire_toJson) a.params? .nil

theorem Declaration.onWire_toJson (d : Declaration) : d.OnWire d.toJson := by
  rw [toJson_eq]
  refine .intro (.text? d.call? (.member? (fun _ => rfl) d.version? ?_))
  refine .text? d.description? (.written .intro ?_)
  refine .text? d.accepts? (.text? d.returns? (.written .intro ?_))
  exact .member? Allowlist.onWire_toJson d.allowlist? .nil

/-! ### Reading back -/

/-- **A declaration is in normal form** if its version is no null and its objects have names of
their own. -/
def Declaration.Normal (d : Declaration) : Prop :=
  ∀ v, d.version? = some v → v ≠ .null ∧ WellFormed v

theorem AllowedField.readsBack (f : AllowedField) : ReadsBack reader toJson f := by
  refine Json.Shape.read_of_writes (by decide) ?_ f.toJson_eq
  exact .text? f.field? rfl (.text? f.type? rfl (.text? f.description? rfl .nil))

theorem Allowlist.readsBack (a : Allowlist) : ReadsBack reader toJson a := by
  have hfields (fields : List AllowedField) :
      ReadsBack (.list AllowedField.reader) fieldsToJson fields :=
    readsBack_list fun f _ => f.readsBack
  refine Json.Shape.read_of_writes (by decide) ?_ a.toJson_eq
  refine .member? a.body? rfl (fun fields _ => hfields fields) nofun ?_
  exact .member? a.params? rfl (fun fields _ => hfields fields) nofun .nil

theorem readMethod_name (m : Http.Method) : readMethod.ofJson (.string m.name) = .ok m := by
  rw [readMethod_eq_ok_iff]
  exact ⟨m.name, rfl, Http.Method.ofText?_eq_some_iff.mp (Http.Method.ofText?_name m)⟩

/-- **A declaration in normal form reads back.** -/
theorem Declaration.readsBack {d : Declaration} (hd : d.Normal) : ReadsBack reader toJson d := by
  refine Json.Shape.read_of_writes (by decide) ?_ d.toJson_eq
  refine .text? d.call? rfl ?_
  have hversion : ∀ v, d.version? = some v → ReadsBack .json id v :=
    fun v hv => (ofJson_json_iff (hd v hv).2).mpr rfl
  refine .member? d.version? rfl hversion (fun v hv => (hd v hv).1) ?_
  refine .text? d.description? rfl (.needed (readMethod_name d.method) ?_)
  refine .text? d.accepts? rfl (.text? d.returns? rfl ?_)
  refine .plain (readsBack_string d.namespacePath) ?_
  exact .member? d.allowlist? rfl (fun a _ => a.readsBack) nofun .nil

/-- A version that was read is a value of its own. -/
theorem ne_null_of_optional {source : Json.Source} {v : Json}
    (h : Reader.optional .json source = .ok (some v)) : v ≠ .null := by
  cases source with
  | null => obtain ⟨⟩ := h
  | bool b span =>
    obtain ⟨⟩ := h
    exact nofun
  | deep inside => obtain ⟨⟩ := h
  | broken b => obtain ⟨⟩ := h
  | _ =>
    have hread := Json.read_of_optional h rfl
    rw [Reader.json, mapError_eq_ok_iff, Json.Source.toJson, map_eq_ok_iff] at hread
    obtain ⟨_, -, rfl⟩ := hread
    exact nofun

/-- **A declaration that was read is in normal form.** -/
theorem Declaration.normal_of_read {source : Json.Source} {d : Declaration}
    (h : reader source = .ok d) : d.Normal := by
  refine Json.Shape.holds_of_read (P := Normal) ?_ ?_ h
  · exact fun v hv => absurd hv.symm (Option.some_ne_none v)
  refine ⟨keeps_plain fun _ _ _ _ hd => hd, keeps_plain fun s version? _ hread _ v hv => ?_,
    keeps_plain fun _ _ _ _ hd => hd, keeps_needed fun _ _ _ _ hd => hd,
    keeps_plain fun _ _ _ _ hd => hd, keeps_plain fun _ _ _ _ hd => hd,
    keeps_plain fun _ _ _ _ hd => hd, keeps_plain fun _ _ _ _ hd => hd⟩
  obtain rfl : version? = some v := hv
  have hvalue : Reader.json s = .ok v := Json.read_of_optional hread rfl
  exact ⟨ne_null_of_optional hread, Json.wellFormed_of_toJson (mapError_eq_ok_iff.mp hvalue)⟩

/-- **The declarations that read back** are those in normal form, and they are all that can be
read. -/
theorem Declaration.readsBack_iff {d : Declaration} :
    ReadsBack reader toJson d ↔ ∃ source, reader source = .ok d :=
  ⟨fun h => ⟨_, h⟩, fun ⟨_, h⟩ => readsBack (normal_of_read h)⟩

/-- **Reading a declaration normalizes it once and for all.** Whatever value or text a declaration
was read from, it is written in its one form, and that form is read as the same declaration. The
values that a declaration is read from are those that spell it: objects, with what members they may
have besides, and lists. -/
theorem reading_normalizes :
    (∀ (j : Json) (d : Declaration), Declaration.reader.ofJson j = .ok d →
        Declaration.reader.ofJson d.toJson = .ok d ∧ d.OnWire d.toJson) ∧
      (∀ (text : String) (d : Declaration), Declaration.reader.ofText text = .ok d →
        Declaration.reader.ofJson d.toJson = .ok d ∧ d.OnWire d.toJson) ∧
      ∀ (j : Json) (d : Declaration), j.WellFormed →
        (Declaration.reader.ofJson j = .ok d ↔ d.SpelledBy j) := by
  refine ⟨fun j d h => ?_, fun text d h => ?_, fun j d hj => ?_⟩
  · exact ⟨Declaration.readsBack (Declaration.normal_of_read h), d.onWire_toJson⟩
  · obtain ⟨source, hread⟩ := Json.exists_source_of_ofText h
    exact ⟨Declaration.readsBack (Declaration.normal_of_read hread), d.onWire_toJson⟩
  · exact Declaration.read_iff_spelledBy hj

/-- A declaration as a person might write it: with a member that it does not know, with null for
what is not there, and with entries of both kinds in the allowlist. -/
def spelledFreely : Json := .object [
  ("allowlist", .object [
    ("params", .array []),
    ("body", .array [
      .object [("type", .string "string"), ("field", .string "name"), ("least", .bool true)],
      .array [.string "age", .null],
      .object []])]),
  ("author", .string "someone"),
  ("method", .string " pOsT\t"),
  ("accepts", .null),
  ("version", .array [.null, .object []])]

/-- The same, as far as it goes, without names: a version, no namespace and no allowlist. -/
def spelledInOrder : Json := .array [
  .null, .array [.null, .object []], .null, .string "post"]

/-- A text with no more than a method. -/
def spelledAsText : String := "[null, null, null, \"get\"]"

/-- What the first two are read as, the one with its allowlist. -/
def freely : Declaration where
  call? := none
  version? := some (.array [.null, .object []])
  description? := none
  method := .post
  accepts? := none
  returns? := none
  namespacePath := ""
  allowlist? := some {
    body? := some [⟨some "name", some "string", none⟩, ⟨some "age", none, none⟩, ⟨none, none, none⟩]
    params? := some [] }

theorem reading_normalizes_freely :
    Declaration.reader.ofJson spelledFreely = .ok freely ∧
      Declaration.reader.ofJson freely.toJson = .ok freely ∧
      freely.OnWire freely.toJson ∧
      Declaration.SpelledBy { freely with allowlist? := none } spelledInOrder ∧
      ∃ d, Declaration.reader.ofText spelledAsText = .ok d ∧
        Declaration.reader.ofJson d.toJson = .ok d := by
  have hread : Declaration.reader.ofJson spelledFreely = .ok freely := rfl
  have horder : Declaration.reader.ofJson spelledInOrder =
    .ok { freely with allowlist? := none } := rfl
  have hwell : spelledInOrder.WellFormed := Json.toJson_ofJson_iff.mp rfl
  obtain ⟨hback, hwire⟩ := reading_normalizes.1 _ _ hread
  refine ⟨hread, hback, hwire, (reading_normalizes.2.2 _ _ hwell).mp horder, ?_⟩
  have hok : (Declaration.reader.ofText spelledAsText).isOk = true := by decide +kernel
  cases hd : Declaration.reader.ofText spelledAsText with
  | error e =>
    rw [hd] at hok
    exact absurd hok Bool.false_ne_true
  | ok d => exact ⟨d, rfl, (reading_normalizes.2.1 _ _ hd).1⟩

end RouteFlow.Document
