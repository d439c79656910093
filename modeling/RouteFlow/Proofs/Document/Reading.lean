import RouteFlow.Document.Format
import RouteFlow.Document.Validation
import RouteFlow.Proofs.Json.WellFormed

/-!
# What reading a document keeps

A document is read from the entries of an object, one after the other: the entry that declares makes
the declaration and each other entry makes a step, so reading is one step lemma for an entry that is
read (`readEntries_cons_of_step`, `readEntries_cons_of_declaration`), one for an entry that is amiss
(`readEntries_cons_of_bad`), and inductions over the entries from them. Taking `next` out of a body
may move another parameter into its place, so the parameters of a step are those of its entry as a
mapping, not as a list.

* `declaringKey?_eq_iff` — which entry declares;
* `readEntries_eq_error_iff` — reading fails for the first entry that is amiss;
* `reads_every_entry` — what is read of a value;
* `wellFormed_of_ofText` — in a document that was read, no object has two members of one name.
-/

namespace RouteFlow.Document

open Fallible

/-! ### The entry that declares -/

/-- A body says that it declares. -/
def Declares (body : Json) : Prop := body.get? "call" = some (.string "declare")

/-- **The entry that declares**: the one named `declaration`, else the first that says so. -/
inductive DeclaringKey (entries : Entries Json) : Option String → Prop
  | named (h : "declaration" ∈ entries.names) : DeclaringKey entries (some "declaration")
  | called {before after : Entries Json} {key : String} {body : Json}
      (h : "declaration" ∉ entries.names) (hsplit : entries = before ++ (key, body) :: after)
      (hbefore : ∀ e ∈ before, ¬ Declares e.2) (hbody : Declares body) :
      DeclaringKey entries (some key)
  | absent (h : "declaration" ∉ entries.names) (hall : ∀ e ∈ entries, ¬ Declares e.2) :
      DeclaringKey entries none

theorem declares_iff {body : Json} : declares body = true ↔ Declares body := by
  unfold declares Declares
  rw [beq_iff_eq, Option.bind_eq_some_iff]
  constructor
  · rintro ⟨j, hj, htext⟩
    rw [hj]
    cases j <;> simp_all [Json.text?, declareCall]
  · intro h
    exact ⟨_, h, rfl⟩

theorem find?_declares_eq_some_iff {entries : Entries Json} {e : String × Json} :
    entries.find? (fun e => declares e.2) = some e ↔
      ∃ before after, entries = before ++ e :: after ∧ (∀ e' ∈ before, ¬ Declares e'.2) ∧
        Declares e.2 := by
  rw [List.find?_eq_some_iff_append, declares_iff]
  constructor
  · rintro ⟨hbody, before, after, hsplit, hbefore⟩
    exact ⟨before, after, hsplit, by simpa [← declares_iff] using hbefore, hbody⟩
  · rintro ⟨before, after, hsplit, hbefore, hbody⟩
    exact ⟨hbody, before, after, hsplit, by simpa [← declares_iff] using hbefore⟩

/-- **Which entry declares.** -/
theorem declaringKey?_eq_iff {entries : Entries Json} {k? : Option String} :
    declaringKey? entries = k? ↔ DeclaringKey entries k? := by
  unfold declaringKey?
  split
  · next h =>
    rw [Entries.has_iff_mem] at h
    constructor
    · rintro rfl
      exact .named h
    · rintro (_ | ⟨h', -, -, -⟩ | ⟨h', -⟩)
      · rfl
      · exact absurd h h'
      · exact absurd h h'
  · next h =>
    rw [Entries.has_iff_mem] at h
    cases hf : entries.find? fun e => declares e.2 with
    | none =>
      have hall : ∀ e ∈ entries, ¬ Declares e.2 := by
        simpa [declares_iff] using List.find?_eq_none.mp hf
      constructor
      · rintro rfl
        exact .absent h hall
      · rintro (h' | ⟨-, rfl, -, hbody⟩ | _)
        · exact absurd h' h
        · exact absurd hbody (hall _ (List.mem_append_right _ List.mem_cons_self))
        · rfl
    | some e =>
      obtain ⟨before, after, hsplit, hbefore, hbody⟩ := find?_declares_eq_some_iff.mp hf
      constructor
      · rintro rfl
        exact .called h hsplit hbefore hbody
      · rintro (h' | ⟨-, hsplit', hbefore', hbody'⟩ | ⟨-, hall⟩)
        · exact absurd h' h
        · -- both are the first that says so
          have hf' := find?_declares_eq_some_iff.mpr ⟨_, _, hsplit', hbefore', hbody'⟩
          rw [Option.some.inj (hf.symm.trans hf')]
          rfl
        · exact absurd hbody (hall e (by simp [hsplit]))

/-! ### Steps -/

/-- **The kind that a body stands for**: what `call` says if there is one, else the first telling
name among those of the body. -/
inductive KindOf (body : Entries Json) : Option String → Prop
  | called {text : String} (h : body.get? "call" = some (.string text)) :
      KindOf body (some (Text.trimmed text))
  | calledOtherwise {j : Json} (h : body.get? "call" = some j) (hj : ∀ text, j ≠ .string text) :
      KindOf body none
  | told {key : String} {before after : List String} (h : body.get? "call" = none)
      (hsplit : ["assign", "switch", "return", "script"] = before ++ key :: after)
      (hbefore : ∀ k ∈ before, k ∉ body.names) (hkey : key ∈ body.names) :
      KindOf body (some key)
  | untold (h : body.get? "call" = none)
      (hall : ∀ k ∈ ["assign", "switch", "return", "script"], k ∉ body.names) :
      KindOf body none

theorem kindOf_kindOf? (body : Entries Json) : KindOf body (Step.kindOf? body) := by
  unfold Step.kindOf?
  cases hc : body.get? "call" with
  | some j =>
    cases j with
    | string text => exact .called hc
    | _ => exact .calledOtherwise hc nofun
  | none =>
    cases hf : tellingKeys.find? body.has with
    | none =>
      refine .untold hc fun k hk hmem => ?_
      exact absurd (Entries.has_iff_mem.mpr hmem) (List.find?_eq_none.mp hf k hk)
    | some key =>
      obtain ⟨hkey, before, after, hsplit, hbefore⟩ := List.find?_eq_some_iff_append.mp hf
      refine .told hc hsplit (fun k hk hmem => ?_) (Entries.has_iff_mem.mp hkey)
      simpa [Entries.has_iff_mem.mpr hmem] using hbefore k hk

/-- **A step says what its entry says**: it has the name of the entry, the members of the body but
`next` as parameters, what stands under `next` as target, and the kind that the body stands for. -/
structure StepOf (key : String) (body : Entries Json) (s : Step) : Prop where
  name : s.name = key
  parameters : s.parameters.Perm (body.filter (·.1 ≠ "next"))
  next : body.get? "next" = s.next?.map .string
  kind : KindOf body s.kind?

/-- An entry makes a step. -/
def MakesStep (e : String × Json) (s : Step) : Prop :=
  ∃ body, e.2 = .object body ∧ StepOf e.1 body s

/-- `next` is no name that tells a kind. -/
theorem kindOf?_remove {body : Entries Json} (hn : body.names.Nodup) :
    Step.kindOf? (body.remove "next") = Step.kindOf? body := by
  have hget : ∀ k, k ≠ "next" → (body.remove "next").get? k = body.get? k := fun k hk => by
    rw [Entries.get?_remove hn, if_neg hk.symm]
  unfold Step.kindOf?
  rw [hget "call" (by decide)]
  simp [tellingKeys, List.find?_cons, Entries.has, hget]

theorem stepOf_of_ofBody {key : String} {body : Entries Json} (hn : body.names.Nodup) {s : Step}
    (h : Step.ofBody key body = .ok s) : StepOf key body s := by
  unfold Step.ofBody at h
  dsimp only at h
  split at h
  · next hnext =>
    obtain rfl := Except.ok.inj h
    -- without `next` the body is taken as it is
    have hothers : body.filter (·.1 ≠ "next") = body := by
      refine List.filter_eq_self.mpr fun e he => ?_
      have hne : e.1 ≠ "next" := fun heq =>
        (Entries.get?_eq_none_iff body "next").mp hnext (heq ▸ List.mem_map_of_mem he)
      simpa using hne
    exact ⟨rfl, .of_eq hothers.symm, hnext, kindOf_kindOf? body⟩
  · next text hnext =>
    obtain rfl := Except.ok.inj h
    refine ⟨rfl, Entries.remove_perm hn "next", hnext, ?_⟩
    dsimp only
    rw [kindOf?_remove hn]
    exact kindOf_kindOf? body
  · obtain ⟨⟩ := h

theorem makesStep_of_readStep {key : String} {body : Json} (hbody : body.WellFormed) {s : Step}
    (h : readStep key body = .ok s) : MakesStep (key, body) s := by
  cases body with
  | object ms =>
    have hn := (Json.wellFormed_object_iff.mp hbody).1
    exact ⟨ms, rfl, stepOf_of_ofBody hn (mapError_eq_ok_iff.mp h)⟩
  | _ => obtain ⟨⟩ := h

/-! ### Entries -/

/-- **An entry is amiss**: it declares and is no declaration, or it is to be a step and has no body
or a `next` that is not a string. -/
inductive Bad (k? : Option String) : String × Json → Fault → Prop
  | declaration {key : String} {body : Json} {e : Json.ShapeError} (hk : k? = some key)
      (h : Declaration.reader.ofJson body = .error e) : Bad k? (key, body) (.badDeclaration e)
  | notMapping {key : String} {body : Json} (hk : k? ≠ some key) (h : ∀ ms, body ≠ .object ms) :
      Bad k? (key, body) (.badStep key .notMapping)
  | badNext {key : String} {ms : Entries Json} {j : Json} (hk : k? ≠ some key)
      (hnext : ms.get? "next" = some j) (hj : ∀ text, j ≠ .string text) :
      Bad k? (key, .object ms) (.badStep key (.badNext j))

variable {k? : Option String} {key : String} {body : Json} {rest : Entries Json} {fault : Fault}

/-- **An entry that is amiss** is what reading fails for. -/
theorem readEntries_cons_of_bad (h : Bad k? (key, body) fault) :
    readEntries k? ((key, body) :: rest) = .error fault := by
  cases h with
  | declaration hk h =>
    rw [readEntries, if_pos hk, h]
    rfl
  | notMapping hk h =>
    rw [readEntries, if_neg hk]
    cases body with
    | object ms => exact absurd rfl (h ms)
    | _ => rfl
  | @badNext _ ms j hk hnext hj =>
    have hbody : Step.ofBody key ms = .error j := by
      rw [Step.ofBody, hnext]
      cases j with
      | string text => exact absurd rfl (hj text)
      | _ => rfl
    rw [readEntries, if_neg hk, readStep, hbody]
    rfl

/-- An entry that declares goes into the declaration. -/
theorem readEntries_cons_of_declaration (hk : k? = some key) {d : Declaration}
    (hd : Declaration.reader.ofJson body = .ok d) :
    readEntries k? ((key, body) :: rest) = (readEntries k? rest).map fun p => (some d, p.2) := by
  rw [readEntries, if_pos hk, hd]
  cases readEntries k? rest <;> rfl

/-- An entry that makes a step goes before the steps of the rest. -/
theorem readEntries_cons_of_step (hk : k? ≠ some key) {s : Step}
    (hs : readStep key body = .ok s) :
    readEntries k? ((key, body) :: rest) = (readEntries k? rest).map fun p => (p.1, s :: p.2) := by
  rw [readEntries, if_neg hk, hs]
  cases readEntries k? rest <;> rfl

/-- **An entry that is not amiss is read.** -/
theorem declaration_or_step_of_forall_not_bad (h : ∀ fault, ¬ Bad k? (key, body) fault) :
    (k? = some key ∧ ∃ d, Declaration.reader.ofJson body = .ok d) ∨
      (k? ≠ some key ∧ ∃ s, readStep key body = .ok s) := by
  by_cases hk : k? = some key
  · refine .inl ⟨hk, ?_⟩
    cases hd : Declaration.reader.ofJson body with
    | ok d => exact ⟨d, rfl⟩
    | error e => exact absurd (.declaration hk hd) (h _)
  · refine .inr ⟨hk, ?_⟩
    cases body with
    | object ms =>
      have hbody : ∃ s, Step.ofBody key ms = .ok s := by
        unfold Step.ofBody
        dsimp only
        split
        · exact ⟨_, rfl⟩
        · exact ⟨_, rfl⟩
        · next j hne hnext => exact absurd (.badNext hk hnext hne) (h _)
      obtain ⟨s, hs⟩ := hbody
      exact ⟨s, by rw [readStep, hs]; rfl⟩
    | _ => exact absurd (.notMapping hk nofun) (h _)

/-- What reads the rest also decides whether all is read, unless the first entry is amiss. -/
theorem readEntries_cons_eq_error_iff (h : ∀ fault, ¬ Bad k? (key, body) fault) :
    readEntries k? ((key, body) :: rest) = .error fault ↔ readEntries k? rest = .error fault := by
  rcases declaration_or_step_of_forall_not_bad h with ⟨hk, d, hd⟩ | ⟨hk, s, hs⟩
  · rw [readEntries_cons_of_declaration hk hd, map_eq_error_iff]
  · rw [readEntries_cons_of_step hk hs, map_eq_error_iff]

/-- **Reading fails for the first entry that is amiss.** -/
theorem readEntries_eq_error_iff {entries : Entries Json} :
    readEntries k? entries = .error fault ↔
      ∃ before e after, entries = before ++ e :: after ∧ (∀ e' ∈ before, ∀ f, ¬ Bad k? e' f) ∧
        Bad k? e fault := by
  induction entries with
  | nil => simp [readEntries]
  | cons e rest ih =>
    by_cases hbad : ∃ f, Bad k? e f
    · -- the first entry is amiss, so no other can be the first that is
      obtain ⟨f, hf⟩ := hbad
      rw [readEntries_cons_of_bad hf]
      constructor
      · rintro ⟨⟩
        exact ⟨[], e, rest, rfl, by simp, hf⟩
      · rintro ⟨_ | ⟨e', before⟩, e'', after, hsplit, hbefore, h⟩
        · obtain ⟨rfl, rfl⟩ := List.cons.inj hsplit
          have hfault : readEntries k? (e :: rest) = .error fault := readEntries_cons_of_bad h
          rw [← readEntries_cons_of_bad hf, hfault]
        · obtain ⟨rfl, -⟩ := List.cons.inj hsplit
          exact absurd hf (hbefore e List.mem_cons_self f)
    · -- the first entry is read, so what is amiss stands further on
      have hgood : ∀ f, ¬ Bad k? e f := fun f hf => hbad ⟨f, hf⟩
      rw [readEntries_cons_eq_error_iff hgood, ih]
      constructor
      · rintro ⟨before, e', after, rfl, hbefore, h⟩
        exact ⟨e :: before, e', after, rfl, List.forall_mem_cons.mpr ⟨hgood, hbefore⟩, h⟩
      · rintro ⟨_ | ⟨e', before⟩, e'', after, hsplit, hbefore, h⟩
        · obtain ⟨rfl, rfl⟩ := List.cons.inj hsplit
          exact absurd h (hgood fault)
        · obtain ⟨rfl, rfl⟩ := List.cons.inj hsplit
          exact ⟨before, e'', after, rfl, (List.forall_mem_cons.mp hbefore).2, h⟩

/-- Reading fails exactly if some entry is amiss. -/
theorem exists_readEntries_error_iff {entries : Entries Json} :
    (∃ fault, readEntries k? entries = .error fault) ↔ ∃ e ∈ entries, ∃ fault, Bad k? e fault := by
  induction entries with
  | nil => simp [readEntries]
  | cons e rest ih =>
    by_cases hbad : ∃ f, Bad k? e f
    · obtain ⟨f, hf⟩ := hbad
      exact iff_of_true ⟨f, readEntries_cons_of_bad hf⟩ ⟨e, List.mem_cons_self, f, hf⟩
    · have hgood : ∀ f, ¬ Bad k? e f := fun f hf => hbad ⟨f, hf⟩
      simp only [readEntries_cons_eq_error_iff hgood, ih, List.exists_mem_cons_iff, hbad, false_or]

/-- **Entries are read**: each but the one that declares makes a step, in order, and the declaration
is what stands in that one. -/
theorem makes_of_readEntries {entries : Entries Json} {d? : Option Declaration}
    {steps : List Step} (hwell : ∀ e ∈ entries, e.2.WellFormed)
    (h : readEntries k? entries = .ok (d?, steps)) :
    List.Forall₂ MakesStep (entries.filter (some ·.1 ≠ k?)) steps ∧
      (∀ d, d? = some d → ∃ key body, k? = some key ∧ (key, body) ∈ entries ∧
        Declaration.reader.ofJson body = .ok d) ∧
      (d? = none → ∀ e ∈ entries, k? ≠ some e.1) := by
  induction entries generalizing d? steps with
  | nil =>
    obtain ⟨⟩ := h
    exact ⟨.nil, by simp, by simp⟩
  | cons e rest ih =>
    obtain ⟨key, body⟩ := e
    obtain ⟨hbody, hrest⟩ := List.forall_mem_cons.mp hwell
    -- entries were read, so the first one is not amiss
    have hgood : ∀ f, ¬ Bad k? (key, body) f := fun f hf => by
      rw [readEntries_cons_of_bad hf] at h
      obtain ⟨⟩ := h
    rcases declaration_or_step_of_forall_not_bad hgood with ⟨hk, d, hd⟩ | ⟨hk, s, hs⟩
    · rw [readEntries_cons_of_declaration hk hd] at h
      obtain ⟨⟨d'?, steps'⟩, hread, h⟩ := map_eq_ok_iff.mp h
      obtain ⟨rfl, rfl⟩ := Prod.mk.inj h
      obtain ⟨hall, -, -⟩ := ih hrest hread
      refine ⟨?_, ?_, nofun⟩
      · rw [List.filter_cons_of_neg (by simp [hk])]
        exact hall
      · rintro _ ⟨⟩
        exact ⟨key, body, hk, List.mem_cons_self, hd⟩
    · rw [readEntries_cons_of_step hk hs] at h
      obtain ⟨⟨d'?, steps'⟩, hread, h⟩ := map_eq_ok_iff.mp h
      obtain ⟨rfl, rfl⟩ := Prod.mk.inj h
      obtain ⟨hall, hsome, hnone⟩ := ih hrest hread
      refine ⟨?_, fun d hd => ?_, fun hd => List.forall_mem_cons.mpr ⟨hk, hnone hd⟩⟩
      · rw [List.filter_cons_of_pos (by simpa using Ne.symm hk)]
        exact .cons (makesStep_of_readStep hbody hs) hall
      · obtain ⟨key', body', hk', he, hd'⟩ := hsome d hd
        exact ⟨key', body', hk', List.mem_cons_of_mem _ he, hd'⟩

/-! ### Documents -/

/-- **What is read of the entries of an object**, of which `k?` declares. -/
structure ReadsDocument (name : String) (entries : Entries Json) (k? : Option String)
    (doc : Document) : Prop where
  name : doc.name = name
  names : doc.stepNames = entries.names.filter (some · ≠ k?)
  distinct : doc.stepNames.Nodup
  steps : List.Forall₂ MakesStep (entries.filter (some ·.1 ≠ k?)) doc.steps
  declared : ∀ key, k? = some key → ∃ body d, entries.get? key = some body ∧
    Declaration.reader.ofJson body = .ok d ∧ doc.declaration? = some d
  undeclared : k? = none → doc.declaration? = none

theorem names_of_makesStep {entries : Entries Json} {steps : List Step}
    (h : List.Forall₂ MakesStep entries steps) : steps.map (·.name) = entries.names := by
  induction h with
  | nil => rfl
  | cons hstep _ ih =>
    obtain ⟨body, -, hs⟩ := hstep
    rw [List.map_cons, hs.name, ih]
    rfl

theorem DeclaringKey.mem_names {entries : Entries Json} {key : String}
    (h : DeclaringKey entries (some key)) : key ∈ entries.names := by
  cases h with
  | named h => exact h
  | called _ hsplit _ _ => simp [hsplit, Entries.names]

theorem ofJson_object (name : String) (entries : Entries Json) :
    ofJson name (.object entries) =
      (readEntries (declaringKey? entries) entries).map fun p => ⟨name, p.1, p.2⟩ := by
  rw [ofJson]
  cases readEntries (declaringKey? entries) entries <;> rfl

theorem readsDocument_of_readEntries {name : String} {entries : Entries Json}
    (hwell : (Json.object entries).WellFormed) (hk : DeclaringKey entries k?)
    {d? : Option Declaration} {steps : List Step}
    (h : readEntries k? entries = .ok (d?, steps)) :
    ReadsDocument name entries k? ⟨name, d?, steps⟩ := by
  obtain ⟨hn, hbodies⟩ := Json.wellFormed_object_iff.mp hwell
  obtain ⟨hall, hsome, hnone⟩ := makes_of_readEntries hbodies h
  have hnames : steps.map (·.name) = entries.names.filter (some · ≠ k?) := by
    rw [names_of_makesStep hall, Entries.names, Entries.names, List.filter_map]
    rfl
  refine ⟨rfl, hnames, ?_, hall, ?_, ?_⟩
  · rw [stepNames, hnames]
    exact hn.filter _
  · rintro key rfl
    cases d? with
    | none =>
      -- the entry that declares is there, so it was read
      obtain ⟨e, he, hkey⟩ := List.mem_map.mp hk.mem_names
      exact absurd (congrArg some hkey.symm) (hnone rfl e he)
    | some d =>
      obtain ⟨key', body, hk', he, hd⟩ := hsome d rfl
      obtain rfl := Option.some.inj hk'
      exact ⟨body, d, Entries.get?_of_mem hn he, hd, rfl⟩
  · rintro rfl
    cases d? with
    | none => rfl
    | some d =>
      obtain ⟨_, _, hk', -⟩ := hsome d rfl
      obtain ⟨⟩ := hk'

theorem readsDocument_of_ofJson {name : String} {entries : Entries Json} {doc : Document}
    (hwell : (Json.object entries).WellFormed) (h : ofJson name (.object entries) = .ok doc) :
    ReadsDocument name entries (declaringKey? entries) doc := by
  rw [ofJson_object] at h
  obtain ⟨⟨d?, steps⟩, hread, rfl⟩ := map_eq_ok_iff.mp h
  exact readsDocument_of_readEntries hwell (declaringKey?_eq_iff.mp rfl) hread

/-- **Reading loses and doubles nothing.** A value that is not an object is no document. Of the
entries of an object one declares, or none. If it is read, each other entry makes a step, in order,
and there is a declaration exactly if an entry declares. It is not read exactly if some entry is
amiss, and then for the first that is. The members of every value that is read from a text have
names of their own. -/
theorem reads_every_entry (name : String) (j : Json) (hj : j.WellFormed) :
    ((∀ entries, j ≠ .object entries) → ofJson name j = .error .notMapping) ∧
      ∀ entries, j = .object entries → ∃ k?, DeclaringKey entries k? ∧
        (∀ doc, ofJson name j = .ok doc → ReadsDocument name entries k? doc) ∧
        ((∃ fault, ofJson name j = .error fault) ↔ ∃ e ∈ entries, ∃ fault, Bad k? e fault) ∧
        ∀ fault, ofJson name j = .error fault ↔
          ∃ before e after, entries = before ++ e :: after ∧
            (∀ e' ∈ before, ∀ f, ¬ Bad k? e' f) ∧ Bad k? e fault := by
  constructor
  · intro hne
    cases j with
    | object entries => exact absurd rfl (hne entries)
    | _ => rfl
  · rintro entries rfl
    have hk : DeclaringKey entries (declaringKey? entries) := declaringKey?_eq_iff.mp rfl
    refine ⟨declaringKey? entries, hk, fun doc hdoc => ?_, ?_, fun fault => ?_⟩
    · exact readsDocument_of_ofJson hj hdoc
    · simp only [ofJson_object, map_eq_error_iff, exists_readEntries_error_iff]
    · rw [ofJson_object, map_eq_error_iff, readEntries_eq_error_iff]

/-- Its second entry declares, and in its first one `next` stands before what tells the kind. -/
def rota : Json := .object [
  ("begin", .object [("next", .string "finish"), ("return", .null), ("assign", .object [])]),
  ("shift", .object [("call", .string "declare"), ("method", .string "GET")]),
  ("finish", .object [("call", .string " return "), ("return", .string "done")])]

theorem reads_every_entry_rota :
    rota.WellFormed ∧ ∃ doc, ofJson "rota" rota = .ok doc ∧ doc.stepNames = ["begin", "finish"] ∧
      ∃ d, doc.declaration? = some d := by
  have hwell : rota.WellFormed := by
    simp [rota, Json.wellFormed_object_iff, Json.WellFormed.string, Json.WellFormed.null,
      Entries.names]
  obtain ⟨k?, hk, hok, -⟩ := (reads_every_entry "rota" rota hwell).2 _ rfl
  obtain rfl : some "shift" = k? := declaringKey?_eq_iff.mpr hk
  obtain ⟨doc, hdoc⟩ : ∃ doc, ofJson "rota" rota = .ok doc := ⟨_, rfl⟩
  have hreads := hok doc hdoc
  obtain ⟨_, d, -, -, hd⟩ := hreads.declared "shift" rfl
  exact ⟨hwell, doc, hdoc, hreads.names.trans rfl, d, hd⟩

/-! ### Documents that were read -/

theorem MakesStep.wellFormed {e : String × Json} {s : Step} (h : MakesStep e s)
    (he : e.2.WellFormed) : (Json.object s.parameters).WellFormed := by
  obtain ⟨body, hbody, hs⟩ := h
  rw [hbody, Json.wellFormed_object_iff] at he
  obtain ⟨hn, hmembers⟩ := he
  refine .object ?_ fun m hm => ?_
  · exact ((hs.parameters.map _).nodup_iff).mpr (hn.sublist (List.filter_sublist.map _))
  · exact hmembers m (List.mem_filter.mp (hs.parameters.mem_iff.mp hm)).1

theorem wellFormed_of_readAny {format : Format} {text : String} {j : Json}
    (h : readAny text = .ok (j, format)) : j.WellFormed := by
  unfold readAny at h
  dsimp only at h
  split at h
  · obtain ⟨⟩ := h
  · -- whichever of the two readers is tried first, the value is from one of them
    split at h <;> split at h <;> obtain ⟨⟩ := h <;> rename_i hread
    all_goals first
      | exact Json.wellFormed_of_ofText hread
      | exact Yaml.wellFormed_of_ofText? hread

/-- A value that was read as a document is well formed, in whichever format it was written. -/
theorem wellFormed_of_readValue {format format' : Format} {text : String} {j : Json}
    (h : format.readValue text = .ok (j, format')) : j.WellFormed := by
  cases format with
  | json =>
    obtain ⟨value, hvalue, heq⟩ := map_eq_ok_iff.mp (mapError_eq_ok_iff.mp h)
    obtain ⟨rfl, -⟩ := Prod.mk.inj heq
    exact Json.wellFormed_of_ofText hvalue
  | yaml =>
    obtain ⟨value, hvalue, heq⟩ := map_eq_ok_iff.mp (mapError_eq_ok_iff.mp h)
    obtain ⟨rfl, -⟩ := Prod.mk.inj heq
    exact Yaml.wellFormed_of_ofText? hvalue
  | auto => exact wellFormed_of_readAny h

theorem wellFormed_of_ofJson {name : String} {j : Json} (hj : j.WellFormed) {doc : Document}
    (h : ofJson name j = .ok doc) : ∀ s ∈ doc.steps, (Json.object s.parameters).WellFormed := by
  intro s hs
  cases j with
  | object entries =>
    rw [ofJson_object] at h
    obtain ⟨⟨d?, steps⟩, hread, rfl⟩ := map_eq_ok_iff.mp h
    have hbodies := (Json.wellFormed_object_iff.mp hj).2
    have hall := (makes_of_readEntries hbodies hread).1
    obtain ⟨e, he, hstep⟩ := exists_mem_of_forall₂ hall hs
    exact hstep.wellFormed (hbodies e (List.mem_of_mem_filter he))
  | _ => obtain ⟨⟩ := h

/-- **The parameters of a document that was read are well formed.** -/
theorem wellFormed_of_ofText {format format' : Format} {name text : String} {doc : Document}
    (h : ofText format name text = .ok (doc, format')) :
    ∀ s ∈ doc.steps, (Json.object s.parameters).WellFormed := by
  obtain ⟨⟨j, _⟩, hread, h⟩ := bind_eq_ok_iff.mp h
  obtain ⟨doc', hdoc, h⟩ := bind_eq_ok_iff.mp h
  obtain ⟨rfl, -⟩ := Prod.mk.inj (Except.ok.inj h)
  exact wellFormed_of_ofJson (wellFormed_of_readValue hread) (mapError_eq_ok_iff.mp hdoc)

end RouteFlow.Document
