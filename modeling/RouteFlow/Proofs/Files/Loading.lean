import RouteFlow.Files.Load
import RouteFlow.Proofs.Pipeline.Binding

/-!
# Files, documents and pipelines

Loading gives a document the name of its file, and nothing else of a document depends on this name:
not what the text says, not what is found wrong with it and not what it is bound to. So a file that
is loaded under another name, from another directory or by another path, is the same document and
the same pipeline under that name (`load_of_sameFile`, `bind_of_bind`).

A directory is loaded and bound file by file and document by document, in order, and fails where the
first of them does (`loadEach_eq_ok_iff`, `bindEach_eq_ok_iff`, `bindEach_eq_error_iff`).
-/

namespace RouteFlow

open Fallible

/-! ### Names -/

/-- What a value says does not depend on the name. -/
theorem Document.ofJson_eq_map (name name' : String) (j : Json) :
    ofJson name j = (ofJson name' j).map fun doc => { doc with name := name } := by
  cases j with
  | object entries =>
    rw [ofJson, ofJson]
    cases readEntries (declaringKey? entries) entries <;> rfl
  | _ => rfl

/-- What a text says does not depend on the name. -/
theorem Document.ofText_eq_map (format : Format) (name name' text : String) :
    ofText format name text =
      (ofText format name' text).map fun r => ({ r.1 with name := name }, r.2) := by
  rw [ofText, ofText]
  cases format.readValue text with
  | error e => rfl
  | ok value =>
    have hjson := ofJson_eq_map name name' value.1
    cases hread : ofJson name' value.1 with
    | error fault =>
      rw [hread] at hjson
      simp [bind, Except.bind, Except.map, hread, hjson]
    | ok doc =>
      rw [hread] at hjson
      simp [bind, Except.bind, Except.map, hread, hjson]

theorem Document.name_of_ofText {format format' : Format} {name text : String} {doc : Document}
    (h : ofText format name text = .ok (doc, format')) : doc.name = name := by
  rw [ofText_eq_map format name name, map_eq_ok_iff] at h
  obtain ⟨r, -, heq⟩ := h
  rw [Prod.mk.injEq] at heq
  rw [← heq.1]

/-- **A bound document under another name is bound to the same pipeline under that name.** -/
theorem Pipeline.bind_of_bind {registry : Registry} {doc : Document} {p : Pipeline}
    (h : bind registry doc = .ok p) (name : String) :
    bind registry { doc with name := name } = .ok { p with name := name } := by
  have hbound := bind_eq_ok_iff.mp h
  exact bind_eq_ok_iff.mpr { hbound with name := rfl }

namespace Files

variable {d : Disk} {root : List Component} {file file' : String} {l : Loaded}
variable {registry : Pipeline.Registry}

/-! ### Paths -/

theorem Path.inside?_append (dir rest : List Component) :
    inside? dir (dir ++ rest) = some rest := by
  induction dir with
  | nil => rfl
  | cons c dir ih => rw [List.cons_append, inside?, if_pos rfl, ih]

/-- A part between slashes is a name unless it is empty or made of one or two points alone. -/
theorem Path.component?_eq_name_iff {part : List Char} {s : String} :
    component? part = some (.name s) ↔ part = s.toList ∧ s ∉ ["", ".", ".."] := by
  have hsame : ∀ t : String, s = t ↔ s.toList = t.toList := fun t => String.toList_inj.symm
  simp only [List.mem_cons, List.not_mem_nil, or_false, not_or, hsame]
  unfold component?
  split
  · exact ⟨nofun, fun ⟨hs, hempty, _⟩ => absurd hs.symm hempty⟩
  · exact ⟨nofun, fun ⟨hs, _, hhere, _⟩ => absurd hs.symm hhere⟩
  · exact ⟨nofun, fun ⟨hs, _, _, habove⟩ => absurd hs.symm habove⟩
  · next hempty hhere habove =>
    rw [Option.some.injEq, Component.name.injEq, ← String.toList_inj, String.toList_ofList]
    exact ⟨fun hs => ⟨hs, hs ▸ hempty, hs ▸ hhere, hs ▸ habove⟩, And.left⟩

/-- **The name of a file in the directory that holds it.** -/
def Path.ownName (file : String) : String :=
  String.intercalate "/" (names (withoutExtension (components file).getLast?.toList))

theorem Path.routePath?_parent (file : String) :
    routePath? (parent file) file = some (ownName file) := by
  have hinside : inside? (parent file) (components file) =
      some (components file).getLast?.toList := by
    unfold parent
    cases hlast : (components file).getLast? with
    | none => rw [List.getLast?_eq_none_iff.mp hlast]; rfl
    | some c =>
      have hsplit := List.dropLast_append_getLast? c hlast
      conv => lhs; rw [← hsplit]
      rw [List.dropLast_concat, inside?_append]
      rfl
  rw [routePath?, hinside]
  rfl

/-- This name is the name of the file up to its last point. -/
theorem Path.ownName_eq {name : String} (h : fileName? file = some name)
    (hstem : (splitName name).1 ∉ ["", ".", ".."]) : ownName file = (splitName name).1 := by
  have hlast : (components file).getLast? = some (.name name) := by
    unfold fileName? at h
    split at h
    · next hname => rw [hname, Option.some.inj h]
    · exact absurd h nofun
  have hcomponent : component? (splitName name).1.toList = some (.name (splitName name).1) :=
    component?_eq_name_iff.mpr ⟨rfl, hstem⟩
  rw [ownName, hlast]
  change String.intercalate "/" (names ([] ++ (component? (splitName name).1.toList).toList)) = _
  rw [hcomponent]
  simp [names]

/-! ### Loading -/

theorem routePath_eq_ok_iff {name : String} :
    routePath root file = .ok name ↔ Path.routePath? root file = some name := by
  unfold routePath
  cases Path.routePath? root file <;> simp

/-- **A document is loaded** from a file that is inside the directory and holds the text of one. -/
theorem load_eq_ok_iff :
    load d root file = .ok l ↔
      Path.routePath? root file = some l.routePath ∧ l.file = file ∧
        ∃ text, d.readText file = .ok text ∧
          Document.ofText (.ofExtension (Path.extension? file)) l.routePath text =
            .ok (l.document, l.format) := by
  obtain ⟨name, file', document, format⟩ := l
  simp only [load, bind_eq_ok_iff, mapError_eq_ok_iff, routePath_eq_ok_iff, Except.ok.injEq,
    Loaded.mk.injEq, Prod.exists]
  constructor
  · rintro ⟨name, hname, text, htext, document, format, hread, rfl, rfl, rfl, rfl⟩
    exact ⟨hname, rfl, text, htext, hread⟩
  · rintro ⟨hname, rfl, text, htext, hread⟩
    exact ⟨name, hname, text, htext, document, format, hread, rfl, rfl, rfl, rfl⟩

theorem name_of_load (h : load d root file = .ok l) : l.document.name = l.routePath := by
  obtain ⟨-, -, text, -, hread⟩ := load_eq_ok_iff.mp h
  exact Document.name_of_ofText hread

/-- **Two paths of one file**: the same text is found there, under the same file name. -/
structure SameFile (d : Disk) (file file' : String) : Prop where
  text : d.readText file' = d.readText file
  name : Path.fileName? file' = Path.fileName? file

/-- **A file can be loaded from the directory that holds it**, and the document is the same one,
under the name of the file. -/
theorem load_of_sameFile (h : load d root file = .ok l) (hfile : SameFile d file file') :
    load d (Path.parent file') file' =
      .ok ⟨Path.ownName file', file', { l.document with name := Path.ownName file' },
        l.format⟩ := by
  obtain ⟨-, -, text, htext, hread⟩ := load_eq_ok_iff.mp h
  have hextension : Path.extension? file' = Path.extension? file := by
    rw [Path.extension?, hfile.name, Path.extension?]
  refine load_eq_ok_iff.mpr
    ⟨Path.routePath?_parent file', rfl, text, hfile.text.trans htext, ?_⟩
  rw [hextension, Document.ofText_eq_map _ _ l.routePath, hread]
  rfl

theorem loadEach_eq_ok_iff {files : List String} {ls : List Loaded} :
    loadEach d root files = .ok ls ↔
      List.Forall₂ (fun file l => load d root file = .ok l) files ls :=
  each_eq_ok_iff (g := loadEach d root) rfl fun _ _ => rfl

/-- What is loaded from a directory is loaded from its files. -/
theorem exists_load_of_loadAll {directory : String} {ls : List Loaded}
    (h : loadAll d directory = .ok ls) (hl : l ∈ ls) :
    load d (Path.components directory) l.file = .ok l := by
  simp only [loadAll, bind_eq_ok_iff, loadEach_eq_ok_iff] at h
  obtain ⟨files, -, hfiles⟩ := h
  obtain ⟨file, -, hload⟩ := Fallible.exists_mem_of_forall₂ hfiles hl
  obtain ⟨-, rfl, -⟩ := load_eq_ok_iff.mp hload
  exact hload

/-! ### Binding -/

/-- **A document is bound** if nothing is wrong with it and a pipeline can be made of it. -/
theorem bindLoaded_eq_ok_iff {p : Pipeline} :
    bindLoaded registry l = .ok p ↔
      l.document.isValid = true ∧ Pipeline.bind registry l.document = .ok p := by
  unfold bindLoaded Document.isValid
  cases l.document.violations with
  | nil => simp [mapError_eq_ok_iff]
  | cons v vs => simp

/-- A document that is not bound is invalid, or no pipeline can be made of it. -/
theorem bindLoaded_eq_error_iff {e : SetError} :
    bindLoaded registry l = .error e ↔
      (l.document.isValid = false ∧ e = .invalid l.routePath l.document.violations) ∨
        (l.document.isValid = true ∧ ∃ fault, Pipeline.bind registry l.document = .error fault ∧
          .bind l.routePath fault = e) := by
  unfold bindLoaded Document.isValid
  cases l.document.violations with
  | nil => simp [mapError_eq_error_iff]
  | cons v vs => simp [eq_comm]

theorem bindEach_eq_ok_iff {ls : List Loaded} {ps : List Pipeline} :
    bindEach registry ls = .ok ps ↔
      List.Forall₂ (fun l p => bindLoaded registry l = .ok p) ls ps :=
  each_eq_ok_iff (g := bindEach registry) rfl fun _ _ => rfl

/-- **Documents are refused for the first of them that cannot be bound.** -/
theorem bindEach_eq_error_iff {ls : List Loaded} {e : SetError} :
    bindEach registry ls = .error e ↔
      ∃ before l after, ls = before ++ l :: after ∧
        (∀ l' ∈ before, ∃ p, bindLoaded registry l' = .ok p) ∧ bindLoaded registry l = .error e :=
  each_eq_error_iff (g := bindEach registry) rfl fun _ _ => rfl

/-- **The pipelines of a directory** are those of its documents, one for one. -/
theorem bindAll_eq_ok_iff {directory : String} {ps : List Pipeline} :
    bindAll d registry directory = .ok ps ↔
      ∃ ls, loadAll d directory = .ok ls ∧
        List.Forall₂ (fun l p => bindLoaded registry l = .ok p) ls ps := by
  simp only [bindAll, bind_eq_ok_iff, mapError_eq_ok_iff, bindEach_eq_ok_iff]

end Files
end RouteFlow
