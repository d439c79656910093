import RouteFlow.Proofs.Command.Output
import RouteFlow.Proofs.Command.Serving
import RouteFlow.Proofs.OpenApi.Printing
import RouteFlow.Proofs.Pipeline.Refusals

/-!
# What the commands say of one directory

Checking, describing and serving a directory load the same documents and judge each of them in a way
of their own: the check collects what is wrong with all of them, the description collects the names
of those that it cannot use, and the server stops at the first that it cannot bind. The judgements
agree (`commands_agree`), because a valid document declares and keeps its name, and because nothing
but a valid document is bound. What the description prints is read back as the description, and so
the paths in it are compared with those of the server as they stand in the text (`PrintsPaths`).
-/

namespace RouteFlow.Command

open Files (Disk Loaded)

variable {d : Disk} {directory : String} {l : Loaded} {ls : List Loaded} {ps : List Pipeline}
variable {registry : Pipeline.Registry}

/-- **The documents of a directory, all of them valid.** -/
structure ValidDocuments (d : Disk) (directory : String) (ls : List Loaded) : Prop where
  loaded : Files.loadAll d directory = .ok ls
  valid : ∀ l ∈ ls, l.document.isValid = true

theorem isValid_eq (l : Loaded) : isValid l = l.document.isValid := by
  unfold isValid findings Document.isValid
  cases l.document.violations <;> rfl

/-- A document can be described exactly if it is valid, since a valid document declares. -/
theorem describable?_isNone_iff : (describable? l).isNone = true ↔ l.document.isValid = false := by
  rw [describable?, isValid_eq]
  cases hvalid : l.document.isValid with
  | false => exact iff_of_true rfl rfl
  | true =>
    obtain ⟨declaration, hdeclaration, -⟩ := (Document.isValid_iff.mp hvalid).declaration
    rw [if_pos rfl, hdeclaration]
    exact iff_of_false Bool.false_ne_true nofun

theorem describable?_eq_some {declaration : Document.Declaration} (h : l.document.isValid = true)
    (hdeclaration : l.document.declaration? = some declaration) :
    describable? l = some (declaration, l.routePath) := by
  rw [describable?, isValid_eq, if_pos h, hdeclaration]
  rfl

/-! ### Each command -/

/-- **A description is printed**: the command succeeds without an error, and shows the description.
A value is read from what it prints, and the description from this value. -/
structure PrintsDescription (style : Style) (printed : Printed)
    (description : OpenApi.Description) : Prop where
  success : printed.exit = .success
  silent : printed.err = []
  shows : style.Shows description.toJson printed.out
  read : ∀ text ∈ printed.out, Json.ofText text = .ok description.toJson
  readBack : OpenApi.Description.reader.ofJson description.toJson = .ok description

theorem printsDescription_project (style : Style) (info : OpenApi.Info)
    (routes : List (Document.Declaration × String)) :
    PrintsDescription style
      (style.succeed .success (OpenApi.project info routes).toJson)
      (OpenApi.project info routes) where
  success := rfl
  silent := rfl
  shows := style.shows_result _
  read := (style.shows_result _).readsBack (OpenApi.plain_project info routes) (by decide)
  readBack := OpenApi.Description.readsBack (OpenApi.wellFormed_project info routes)

/-- **The paths that are written** are those of the description, whatever else it says. -/
theorem get?_paths_toJson (description : OpenApi.Description) :
    description.toJson.get? "paths" =
      some (OpenApi.objectOf OpenApi.PathItem.toJson description.paths) := by
  simp [OpenApi.Description.toJson, Entries.get?]

/-- **Paths are printed**: one text, from which a value is read that has the paths as a member, and
from the value a description with just these paths. -/
def PrintsPaths (printed : Printed) (paths : Entries OpenApi.PathItem) : Prop :=
  ∃ text value description, printed.out = [text] ∧ Json.ofText text = .ok value ∧
    value.get? "paths" = some (OpenApi.objectOf OpenApi.PathItem.toJson paths) ∧
    OpenApi.Description.reader.ofJson value = .ok description ∧ description.paths = paths

/-- A printed description is printed with the paths of any other that has the same. -/
theorem PrintsDescription.paths {style : Style} {printed : Printed}
    {description other : OpenApi.Description} (h : PrintsDescription style printed description)
    (hpaths : other.paths = description.paths) (hquiet : style.quiet = false) :
    PrintsPaths printed other.paths := by
  obtain ⟨text, hout, -⟩ := h.shows.text hquiet
  have hread := h.read text (hout ▸ List.mem_singleton_self text)
  refine ⟨text, _, description, hout, hread, ?_, h.readBack, hpaths.symm⟩
  rw [get?_paths_toJson, hpaths]

/-- The check of a directory succeeds or finds it invalid. -/
theorem exit_checkPath (hdir : d.isDirectory directory = true) (style : Style) :
    (checkPath d directory style).exit = .success ∧ (∃ ls, ValidDocuments d directory ls) ∨
      (checkPath d directory style).exit = .invalid ∧ ¬ ∃ ls, ValidDocuments d directory ls := by
  rw [checkPath, documentsAt, if_pos hdir]
  cases hload : Files.loadAll d directory with
  | error e =>
    refine .inr ⟨rfl, ?_⟩
    rintro ⟨ls, hls⟩
    exact absurd (hls.loaded.symm.trans hload) nofun
  | ok ls =>
    have hall : ls.all isValid = true ↔ ∀ l ∈ ls, l.document.isValid = true := by
      rw [List.all_eq_true]
      simp only [isValid_eq]
    -- lines for people and a value for programs end alike
    have hexit : ∀ (b : Prop) [Decidable b] (exit : Exit) (out err : List String) (j : Json),
        (if b then ⟨exit, out, err⟩ else style.succeed exit j : Printed).exit = exit := by
      intro b _ exit out err j
      rw [apply_ite Printed.exit]
      exact ite_self exit
    dsimp only
    rw [hexit]
    by_cases hvalid : ∀ l ∈ ls, l.document.isValid = true
    · exact .inl ⟨if_pos (hall.mpr hvalid), ls, hload, hvalid⟩
    · refine .inr ⟨if_neg (mt hall.mp hvalid), ?_⟩
      rintro ⟨ls', hls'⟩
      obtain rfl := Except.ok.inj (hload.symm.trans hls'.loaded)
      exact hvalid hls'.valid

/-- The description of a directory is printed, or the directory is found invalid. -/
theorem describeDirectory_cases (d : Disk) (directory title version : String) (style : Style) :
    (∃ ls, ValidDocuments d directory ls ∧
        PrintsDescription style (describeDirectory d directory title version style)
          (OpenApi.project ⟨title, version⟩ (ls.filterMap describable?))) ∨
      (describeDirectory d directory title version style).exit = .invalid ∧
        ¬ ∃ ls, ValidDocuments d directory ls := by
  rw [describeDirectory]
  cases hload : Files.loadAll d directory with
  | error e =>
    refine .inr ⟨rfl, ?_⟩
    rintro ⟨ls, hls⟩
    exact absurd (hls.loaded.symm.trans hload) nofun
  | ok ls =>
    have hnil : (ls.filter fun l => (describable? l).isNone) = [] ↔
        ∀ l ∈ ls, l.document.isValid = true := by
      simp only [List.filter_eq_nil_iff, describable?_isNone_iff, Bool.not_eq_false]
    dsimp only
    cases hinvalid : ls.filter fun l => (describable? l).isNone with
    | nil => exact .inl ⟨ls, ⟨hload, hnil.mp hinvalid⟩, printsDescription_project style _ _⟩
    | cons l rest =>
      refine .inr ⟨rfl, ?_⟩
      rintro ⟨ls', hls'⟩
      obtain rfl := Except.ok.inj (hload.symm.trans hls'.loaded)
      rw [hnil.mpr hls'.valid] at hinvalid
      exact absurd hinvalid nofun

/-- **Checking and describing end alike**: both succeed on documents that are all valid, and both
find any others invalid. -/
theorem checkPath_and_describeDirectory (hdir : d.isDirectory directory = true)
    (style style' : Style) (title version : String) :
    (∃ ls, ValidDocuments d directory ls ∧ (checkPath d directory style).exit = .success ∧
        PrintsDescription style' (describeDirectory d directory title version style')
          (OpenApi.project ⟨title, version⟩ (ls.filterMap describable?))) ∨
      (¬ ∃ ls, ValidDocuments d directory ls) ∧ (checkPath d directory style).exit = .invalid ∧
        (describeDirectory d directory title version style').exit = .invalid := by
  rcases describeDirectory_cases d directory title version style' with
    ⟨ls, hls, hprinted⟩ | ⟨hdescribed, hinvalid⟩
  · rcases exit_checkPath hdir style with ⟨hchecked, -⟩ | ⟨-, hinvalid⟩
    · exact .inl ⟨ls, hls, hchecked, hprinted⟩
    · exact absurd ⟨ls, hls⟩ hinvalid
  · rcases exit_checkPath hdir style with ⟨-, hvalid⟩ | ⟨hchecked, -⟩
    · exact absurd hvalid hinvalid
    · exact .inr ⟨hinvalid, hchecked, hdescribed⟩

/-! ### Binding -/

/-- **Nothing but valid documents is bound.** -/
theorem validDocuments_of_bindAll (h : Files.bindAll d registry directory = .ok ps) :
    ∃ ls, ValidDocuments d directory ls ∧
      List.Forall₂ (fun l p => Files.bindLoaded registry l = .ok p) ls ps := by
  obtain ⟨ls, hls, hbinds⟩ := Files.bindAll_eq_ok_iff.mp h
  refine ⟨ls, ⟨hls, fun l hl => ?_⟩, hbinds⟩
  obtain ⟨p, -, hp⟩ := Fallible.exists_mem_of_forall₂ hbinds.flip hl
  exact (Files.bindLoaded_eq_ok_iff.mp hp).1

/-- **What the server describes is what the command describes**: declarations and names survive
binding. -/
theorem filterMap_describable? (hload : Files.loadAll d directory = .ok ls)
    (hbinds : List.Forall₂ (fun l p => Files.bindLoaded registry l = .ok p) ls ps) :
    ls.filterMap describable? = ps.map fun p => (p.declaration, p.name) := by
  have hname : ∀ l ∈ ls, l.document.name = l.routePath := fun l hl =>
    Files.name_of_load (Files.exists_load_of_loadAll hload hl)
  clear hload
  induction hbinds with
  | nil => rfl
  | @cons l p ls ps hp _ ih =>
    obtain ⟨hl, hls⟩ := List.forall_mem_cons.mp hname
    obtain ⟨hvalid, hbind⟩ := Files.bindLoaded_eq_ok_iff.mp hp
    have hbound := Pipeline.bind_eq_ok_iff.mp hbind
    rw [List.filterMap_cons, describable?_eq_some hvalid hbound.declaration, List.map_cons, ih hls,
      ← hbound.name, hl]

/-- A server of a directory publishes the paths of the description of its documents. -/
theorem paths_of_server {s : Serve} {startedAt : Int} {srv : Service.Server}
    (hls : ValidDocuments d s.directory ls) (h : server d s startedAt = .ok srv)
    (info : OpenApi.Info) :
    srv.description.paths = (OpenApi.project info (ls.filterMap describable?)).paths := by
  obtain ⟨package, ps, -, hps, rfl⟩ := server_eq_ok_iff.mp h
  obtain ⟨ls', hls', hbinds⟩ := validDocuments_of_bindAll hps
  obtain rfl := Except.ok.inj (hls.loaded.symm.trans hls'.loaded)
  -- both descriptions come from the same declarations under the same names
  rw [filterMap_describable? hls.loaded hbinds]
  rfl

/-- **Valid documents are bound, or one of their steps is refused.** -/
theorem exists_refuses_of_bindAll (hls : ValidDocuments d directory ls) {e : Files.SetError}
    (h : Files.bindAll d registry directory = .error e) :
    ∃ l ∈ ls, ∃ s ∈ l.document.steps, ∃ fault, Pipeline.Refuses registry s fault ∧
      e = .bind l.routePath fault := by
  have heach : Files.bindEach registry ls = .error e := by
    rw [Files.bindAll, hls.loaded] at h
    exact h
  obtain ⟨earlier, l, later, hls', -, herror⟩ := Files.bindEach_eq_error_iff.mp heach
  have hl : l ∈ ls := by
    rw [hls']
    exact List.mem_append_right _ List.mem_cons_self
  have hvalid := hls.valid l hl
  rcases Files.bindLoaded_eq_error_iff.mp herror with ⟨hinvalid, -⟩ | ⟨-, fault, hbind, rfl⟩
  · rw [hvalid] at hinvalid
    exact absurd hinvalid.symm Bool.false_ne_true
  · obtain ⟨before, s, after, hsplit, -, hbuild⟩ :=
      (Pipeline.bind_eq_error_iff_of_isValid hvalid).mp hbind
    have hs : s ∈ l.document.steps := by
      rw [hsplit]
      exact List.mem_append_right _ List.mem_cons_self
    exact ⟨l, hl, s, hs, fault,
      (Pipeline.buildTask_eq_error_iff_of_isValid hvalid hs).mp hbuild, rfl⟩

/-- **The commands agree on a directory**, whatever is in it:

* it is checked with success exactly if it is described with success, and otherwise both commands
  end as for an invalid document;
* if its pipelines can be bound then both succeed, a description is printed, and every server of the
  directory has the paths that are described: those that are read from the text that is printed;
* if both succeed and the pipelines cannot be bound, then this is for a step of one of the documents
  whose kind is unknown or makes no task of it. -/
theorem commands_agree (hdir : d.isDirectory directory = true) (settings : Run.CallSettings)
    (style style' : Style) (title version : String) :
    let checked := checkPath d directory style
    let described := describeDirectory d directory title version style'
    let bound := Files.bindAll d (.standard settings) directory
    (checked.exit = .success ↔ described.exit = .success) ∧
      (checked.exit ≠ .success → checked.exit = .invalid ∧ described.exit = .invalid) ∧
      (∀ ps, bound = .ok ps → checked.exit = .success ∧ described.exit = .success ∧
        ∃ description, PrintsDescription style' described description ∧
          ∀ s startedAt srv, s.directory = directory → server d s startedAt = .ok srv →
            srv.description.paths = description.paths ∧
              (style'.quiet = false → PrintsPaths described srv.description.paths)) ∧
      (checked.exit = .success → described.exit = .success → ∀ e, bound = .error e →
        ∃ ls, Files.loadAll d directory = .ok ls ∧ ∃ l ∈ ls, ∃ s ∈ l.document.steps, ∃ fault,
          Pipeline.Refuses (.standard settings) s fault ∧ e = .bind l.routePath fault) := by
  intro checked described bound
  rcases checkPath_and_describeDirectory hdir style style' title version with
    ⟨ls, hls, hchecked, hprinted⟩ | ⟨hnone, hchecked, hdescribed⟩
  · have hboth : checked.exit = .success ∧ described.exit = .success :=
      ⟨hchecked, hprinted.success⟩
    refine ⟨iff_of_true hboth.1 hboth.2, fun h => absurd hboth.1 h, fun ps hps => ?_,
      fun _ _ e he => ⟨ls, hls.loaded, exists_refuses_of_bindAll hls he⟩⟩
    refine ⟨hboth.1, hboth.2, _, hprinted, fun s startedAt srv hs hsrv => ?_⟩
    have hpaths := paths_of_server (hs ▸ hls) hsrv ⟨title, version⟩
    exact ⟨hpaths, hprinted.paths hpaths⟩
  · have hne : ∀ {exit : Exit}, exit = .invalid → exit ≠ .success := by
      rintro _ rfl
      decide
    refine ⟨iff_of_false (hne hchecked) (hne hdescribed), fun _ => ⟨hchecked, hdescribed⟩,
      fun ps hps => ?_, fun h => absurd h (hne hchecked)⟩
    obtain ⟨ls, hls, -⟩ := validDocuments_of_bindAll hps
    exact absurd ⟨ls, hls⟩ hnone

/-- The shelf can be served, so it is valid, and the paths that are printed are served. -/
theorem commands_agree_shelf :
    (checkPath (shelf "c.json") "/dsl" ⟨.text, true⟩).exit = .success ∧
      PrintsPaths (describeDirectory (shelf "c.json") "/dsl" "shelf" "1" ⟨.text, false⟩)
        (shelfServer "c").description.paths := by
  have hdir : (shelf "c.json").isDirectory "/dsl" = true := by decide +kernel
  have hmem : ("c.json", "c") ∈ shelfNames := by decide
  obtain ⟨-, -, hbound, -⟩ :=
    commands_agree hdir shelfServe.calls.settings ⟨.text, true⟩ ⟨.text, false⟩ "shelf" "1"
  obtain ⟨hchecked, -, description, -, hserved⟩ := hbound _ (bindAll_shelf hmem)
  exact ⟨hchecked, (hserved shelfServe 0 _ rfl (server_shelf hmem)).2 rfl⟩

end RouteFlow.Command
