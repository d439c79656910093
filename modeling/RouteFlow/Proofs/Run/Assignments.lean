import RouteFlow.Proofs.Run.Variables
import RouteFlow.Proofs.Template.Substitution

/-!
# Assignments

An assignment works its entries off one after another: cut in two, its list of entries makes two
assignments of which the second is given what the first one wrote (`assignAll_append`), and it fails
where the first entry fails (`assignAll_eq_error_iff`).

What the value of an entry evaluates to depends on the variables that its paths start at and on no
others (`evaluate_insert`). If none of these is written by the same assignment, each entry has the
value that it has among the variables before the assignment, wherever it stands in the list
(`exists_assignAll_iff`, `exists_get?_assignAll`). Then the order of the entries has no say.

* `assigns_in_turn` — the laws of assignments together.
-/

namespace RouteFlow.Run

open Fallible

variable {vars vars' entries : Entries Json} {name : String} {value : Json} {f : Failure}

/-! ### One after another -/

/-- The assignment of entries hands on the variables `after`. -/
def Assigns (entries before after : Entries Json) : Prop :=
  Task.perform before (.assign entries) = .done (.ok (.proceed after))

/-- Goes on to a task with the variables that a result hands on to the next step. With any other
result the task is not reached. -/
def goOnTo (task : Task) : Result → Action Result
  | .ok (.proceed vars) => task.perform vars
  | result => .done result

theorem perform_assign (vars entries : Entries Json) :
    Task.perform vars (.assign entries) = .done ((assignAll vars entries).map .proceed) := rfl

theorem assigns_iff : Assigns entries vars vars' ↔ assignAll vars entries = .ok vars' := by
  rw [Assigns, perform_assign, Action.done.injEq, map_eq_ok_iff]
  simp

/-- **One entry is assigned** exactly if its value can be evaluated, and then this is what its name
holds. -/
theorem assignAll_singleton_iff :
    assignAll vars [(name, value)] = .ok vars' ↔
      ∃ v, evaluate vars value = .ok v ∧ vars' = vars.insert name v := by
  rw [assignAll, bind_eq_ok_iff]
  refine exists_congr fun v => and_congr_right fun _ => ?_
  rw [assignAll, Except.ok.injEq, eq_comm]

/-- **The entries of a list cut in two** are assigned part by part. -/
theorem assignAll_append (vars before after : Entries Json) :
    assignAll vars (before ++ after) =
      assignAll vars before >>= fun vars' => assignAll vars' after := by
  induction before generalizing vars with
  | nil => rfl
  | cons entry rest ih =>
    obtain ⟨name, value⟩ := entry
    rw [List.cons_append, assignAll, assignAll]
    cases evaluate vars value with
    | error f => rfl
    | ok v => exact ih (vars.insert name v)

/-- **An assignment fails where the first of its entries fails**, which sees what was assigned
before it. -/
theorem assignAll_eq_error_iff :
    assignAll vars entries = .error f ↔
      ∃ before name value after ctx, entries = before ++ (name, value) :: after ∧
        assignAll vars before = .ok ctx ∧ evaluate ctx value = .error f := by
  constructor
  · intro h
    obtain ⟨ctx, value, hv, hf⟩ := exists_of_assignAll_error h
    cases hv with
    | assign hctx => exact ⟨_, _, value, _, ctx, rfl, hctx, hf⟩
  · rintro ⟨before, name, value, after, ctx, rfl, hctx, hf⟩
    rw [assignAll_append, hctx]
    change assignAll ctx ((name, value) :: after) = .error f
    rw [assignAll, hf]
    rfl

/-! ### What a value depends on -/

/-- A path leads to the same value if the variable that it starts at is the same. -/
theorem lookupIn_congr {p : Template.Path} (h : vars.get? p.root = vars'.get? p.root) :
    p.lookupIn vars = p.lookupIn vars' := by
  unfold Template.Path.root at h
  unfold Template.Path.lookupIn
  split
  · next hp =>
    rw [hp] at h
    rw [h]
  · rfl

/-- **A variable that no path starts at** makes no difference to a value. -/
theorem evaluate_insert (h : ∀ p, Template.Mentions value p → p.root ≠ name) (v : Json) :
    evaluate (vars.insert name v) value = evaluate vars value := by
  unfold evaluate
  -- every path in the value starts at a variable that is as it was
  rw [Template.evaluate_congr fun p hp => lookupIn_congr ?_]
  rw [Entries.get?_insert, if_neg (h p hp).symm]

/-- **No entry reads what the entries write**: no path in the value of an entry starts at a variable
that is assigned along with it. -/
def Independent (entries : Entries Json) : Prop :=
  ∀ e ∈ entries, ∀ p, Template.Mentions e.2 p → p.root ∉ entries.names

/-- The paths in the strings of a value, in order. -/
def pathsIn (j : Json) : List Template.Path :=
  (Template.strings j).flatMap fun s => ((Template.parse s).toOption.map (·.paths)).getD []

theorem mem_pathsIn_iff {j : Json} {p : Template.Path} :
    p ∈ pathsIn j ↔ Template.Mentions j p := by
  rw [pathsIn, List.mem_flatMap]
  refine exists_congr fun s => and_congr_right fun _ => ?_
  cases Template.parse s <;> simp [Except.toOption]

instance : Decidable (Independent entries) :=
  decidable_of_iff (∀ e ∈ entries, ∀ p ∈ pathsIn e.2, p.root ∉ entries.names)
    (forall₂_congr fun _ _ => forall_congr' fun _ => imp_congr_left mem_pathsIn_iff)

namespace Independent

theorem tail {e : String × Json} (h : Independent (e :: entries)) : Independent entries :=
  fun e' he p hp hroot => h e' (List.mem_cons_of_mem _ he) p hp (List.mem_cons_of_mem _ hroot)

/-- The entries after the first one have the values that they have without it. -/
theorem evaluate_insert (h : Independent ((name, value) :: entries)) (v : Json)
    {e : String × Json} (he : e ∈ entries) :
    evaluate (vars.insert name v) e.2 = evaluate vars e.2 := by
  refine Run.evaluate_insert (fun p hp hroot => ?_) v
  have hnot := h e (List.mem_cons_of_mem _ he) p hp
  exact hnot (hroot ▸ List.mem_cons_self)

theorem perm {entries' : Entries Json} (h : Independent entries) (hp : entries.Perm entries') :
    Independent entries' := by
  intro e he p hm hroot
  have hnames : entries.names.Perm entries'.names := hp.map _
  exact h e (hp.mem_iff.mpr he) p hm (hnames.mem_iff.mpr hroot)

end Independent

/-! ### Independent entries -/

/-- **Independent entries can be assigned** exactly if each of them has a value to begin with. -/
theorem exists_assignAll_iff (hi : Independent entries) :
    (∃ vars', assignAll vars entries = .ok vars') ↔
      ∀ e ∈ entries, ∃ v, evaluate vars e.2 = .ok v := by
  induction entries generalizing vars with
  | nil => simp [assignAll]
  | cons entry rest ih =>
    obtain ⟨name, value⟩ := entry
    simp only [assignAll, bind_eq_ok_iff, List.forall_mem_cons]
    constructor
    · rintro ⟨vars', v, hv, hrest⟩
      refine ⟨⟨v, hv⟩, fun e he => ?_⟩
      rw [← hi.evaluate_insert v he]
      exact ih hi.tail |>.mp ⟨vars', hrest⟩ e he
    · rintro ⟨⟨v, hv⟩, hrest⟩
      -- what the first entry writes does not change the values of the others
      have hothers : ∀ e ∈ rest, ∃ v', evaluate (vars.insert name v) e.2 = .ok v' := by
        intro e he
        rw [hi.evaluate_insert v he]
        exact hrest e he
      obtain ⟨vars', hvars'⟩ := (ih hi.tail).mpr hothers
      exact ⟨vars', v, hv, hvars'⟩

/-- **Each of independent entries leaves its own value**, the one that it has to begin with. -/
theorem exists_get?_assignAll (hn : entries.names.Nodup) (hi : Independent entries)
    (h : assignAll vars entries = .ok vars') (he : (name, value) ∈ entries) :
    ∃ v, evaluate vars value = .ok v ∧ vars'.get? name = some v := by
  induction entries generalizing vars with
  | nil => simp at he
  | cons entry rest ih =>
    obtain ⟨first, template⟩ := entry
    obtain ⟨hfresh, hnodup⟩ := List.nodup_cons.mp hn
    obtain ⟨v, hv, hrest⟩ := bind_eq_ok_iff.mp h
    rcases List.mem_cons.mp he with heq | he
    · obtain ⟨rfl, rfl⟩ := Prod.mk.inj heq
      -- no later entry has the name, so the value stays
      have hkeeps : Keeps (· ∈ Entries.names rest) (vars.insert name v) vars' :=
        .assignAll (fun _ hn => hn) hrest
      refine ⟨v, hv, ?_⟩
      rw [hkeeps.value name hfresh, Entries.get?_insert, if_pos rfl]
    · rw [← hi.evaluate_insert v he]
      exact ih hnodup hi.tail hrest he

/-- **The order of independent entries** has no say in what any variable holds in the end. -/
theorem get?_assignAll_of_perm {entries' vars₁ vars₂ : Entries Json} (hn : entries.names.Nodup)
    (hi : Independent entries) (hp : entries.Perm entries')
    (h₁ : assignAll vars entries = .ok vars₁) (h₂ : assignAll vars entries' = .ok vars₂)
    (name : String) : vars₁.get? name = vars₂.get? name := by
  have hnames : entries.names.Perm entries'.names := hp.map _
  by_cases hname : name ∈ entries.names
  · obtain ⟨e, he, rfl⟩ := List.mem_map.mp hname
    obtain ⟨v₁, hv₁, hget₁⟩ := exists_get?_assignAll hn hi h₁ he
    obtain ⟨v₂, hv₂, hget₂⟩ :=
      exists_get?_assignAll (hnames.nodup_iff.mp hn) (hi.perm hp) h₂ (hp.mem_iff.mp he)
    -- both are what the same value evaluates to
    have hsame : v₁ = v₂ := Except.ok.inj (hv₁.symm.trans hv₂)
    calc
      vars₁.get? e.1 = some v₁ := hget₁
      _ = some v₂ := congrArg some hsame
      _ = vars₂.get? e.1 := hget₂.symm
  · -- neither order writes the name
    have hkeeps₁ : Keeps (· ∈ entries.names) vars vars₁ := .assignAll (fun _ hn => hn) h₁
    have hkeeps₂ : Keeps (· ∈ entries'.names) vars vars₂ := .assignAll (fun _ hn => hn) h₂
    calc
      vars₁.get? name = vars.get? name := hkeeps₁.value name hname
      _ = vars₂.get? name := (hkeeps₂.value name (mt hnames.mem_iff.mpr hname)).symm

/-! ### The laws together -/

/-- **An assignment is its entries one after another, and independent entries commute.** For all
variables: one entry puts what its value evaluates to under its name; the entries of a list cut in
two are assigned part by part, the second part with what the first one hands on and only if it does;
an assignment fails with the failure of the first of its entries that fails among what was assigned
before it; and where the entries, whose names are those of a mapping and so distinct, are
independent, any other order of them succeeds if this one does and leaves the same value under every
name. -/
theorem assigns_in_turn (vars : Entries Json) :
    (∀ name value vars', Assigns [(name, value)] vars vars' ↔
      ∃ v, evaluate vars value = .ok v ∧ vars' = vars.insert name v) ∧
    (∀ before after, Task.perform vars (.assign (before ++ after)) =
      (Task.perform vars (.assign before)).bind (goOnTo (.assign after))) ∧
    (∀ entries f, Task.perform vars (.assign entries) = .done (.error f) ↔
      ∃ before name value after ctx, entries = before ++ (name, value) :: after ∧
        Assigns before vars ctx ∧ evaluate ctx value = .error f) ∧
    ∀ entries entries' : Entries Json, entries.names.Nodup → Independent entries →
      entries.Perm entries' →
        ((∃ vars', Assigns entries' vars vars') ↔ ∃ vars', Assigns entries vars vars') ∧
        ∀ vars₁ vars₂, Assigns entries vars vars₁ → Assigns entries' vars vars₂ →
          ∀ name, vars₁.get? name = vars₂.get? name := by
  refine ⟨fun name value vars' => assigns_iff.trans assignAll_singleton_iff, fun before after => ?_,
    fun entries f => ?_, fun entries entries' hn hi hp => ?_⟩
  · rw [perform_assign, perform_assign, assignAll_append]
    cases assignAll vars before <;> rfl
  · simp only [perform_assign, Action.done.injEq, map_eq_error_iff, assigns_iff]
    exact assignAll_eq_error_iff
  · simp only [assigns_iff]
    constructor
    · rw [exists_assignAll_iff hi, exists_assignAll_iff (hi.perm hp)]
      exact forall_congr' fun e => imp_congr_left hp.mem_iff.symm
    · exact fun vars₁ vars₂ h₁ h₂ => get?_assignAll_of_perm hn hi hp h₁ h₂

/-- Those who come. -/
def guests : Entries Json := [("host", .string "Mari"), ("guest", .string "Jaan")]

/-- What is prepared for them: a greeting and the order of the seats. -/
def party : Entries Json :=
  [("greeting", .string "Tere, $\x7bguest\x7d and $\x7bhost\x7d!"),
    ("seats", .array [.string "$\x7bhost\x7d", .string "$\x7bguest\x7d"])]

theorem evaluate_greeting :
    evaluate guests (.string "Tere, $\x7bguest\x7d and $\x7bhost\x7d!") =
      .ok (.string "Tere, Jaan and Mari!") := by
  have hparse : Template.parse "Tere, $\x7bguest\x7d and $\x7bhost\x7d!" = .ok
      ⟨[.literal "Tere, ", .reference ⟨"guest", [.key "guest"]⟩, .literal " and ",
        .reference ⟨"host", [.key "host"]⟩, .literal "!"]⟩ := by
    decide +kernel
  rw [evaluate, Template.evaluate, Template.evaluateString, hparse]
  rfl

theorem evaluate_seats :
    evaluate guests (.array [.string "$\x7bhost\x7d", .string "$\x7bguest\x7d"]) =
      .ok (.array [.string "Mari", .string "Jaan"]) := by
  rfl

/-- Another guest, who is to be greeted. -/
def change : Entries Json := [("guest", .string "Liis")]

def welcome : Entries Json := [("greeting", .string "Tere, $\x7bguest\x7d!")]

theorem evaluate_welcome :
    evaluate (guests.insert "guest" (.string "Liis")) (.string "Tere, $\x7bguest\x7d!") =
      .ok (.string "Tere, Liis!") := by
  have hparse : Template.parse "Tere, $\x7bguest\x7d!" = .ok
      ⟨[.literal "Tere, ", .reference ⟨"guest", [.key "guest"]⟩, .literal "!"]⟩ := by
    decide +kernel
  rw [evaluate, Template.evaluate, Template.evaluateString, hparse]
  rfl

/-- The seats may come before the greeting. A welcome that comes after a change of guests is for the
new one. -/
theorem assigns_in_turn_party :
    party.names.Nodup ∧ Independent party ∧ party.Perm party.reverse ∧
      ∃ vars₁ vars₂, Assigns party guests vars₁ ∧ Assigns party.reverse guests vars₂ ∧
        vars₂.get? "greeting" = some (.string "Tere, Jaan and Mari!") ∧
        (∀ name, vars₁.get? name = vars₂.get? name) ∧
      ∃ vars₃, Assigns (change ++ welcome) guests vars₃ ∧
        vars₃.get? "greeting" = some (.string "Tere, Liis!") := by
  have hn : party.names.Nodup := by decide
  have hi : Independent party := by decide +kernel
  have hp : party.Perm party.reverse := (List.reverse_perm party).symm
  obtain ⟨hboth, hsame⟩ := (assigns_in_turn guests).2.2.2 party party.reverse hn hi hp
  -- both entries have a value among the guests, so they can be assigned
  have hvalues : ∀ e ∈ party, ∃ v, evaluate guests e.2 = .ok v :=
    List.forall_mem_cons.mpr ⟨⟨_, evaluate_greeting⟩,
      List.forall_mem_singleton.mpr ⟨_, evaluate_seats⟩⟩
  obtain ⟨vars₁, h₁⟩ := (exists_assignAll_iff hi).mpr hvalues
  obtain ⟨vars₂, h₂⟩ := hboth.mpr ⟨vars₁, assigns_iff.mpr h₁⟩
  obtain ⟨v, hv, hget⟩ := exists_get?_assignAll hn hi h₁ (List.mem_cons_self : _ ∈ party)
  obtain rfl : .string "Tere, Jaan and Mari!" = v := Except.ok.inj (evaluate_greeting.symm.trans hv)
  have hall := hsame vars₁ vars₂ (assigns_iff.mpr h₁) h₂
  let changed := guests.insert "guest" (.string "Liis")
  -- the welcome sees what the change has put in
  have hchange : Assigns change guests changed :=
    ((assigns_in_turn guests).1 _ _ _).mpr ⟨_, rfl, rfl⟩
  have hwelcome : Assigns welcome changed (changed.insert "greeting" (.string "Tere, Liis!")) :=
    ((assigns_in_turn changed).1 _ _ _).mpr ⟨_, evaluate_welcome, rfl⟩
  refine ⟨hn, hi, hp, vars₁, vars₂, assigns_iff.mpr h₁, h₂, hall _ ▸ hget, hall,
    changed.insert "greeting" (.string "Tere, Liis!"), ?_, rfl⟩
  rw [Assigns, (assigns_in_turn guests).2.1, hchange]
  exact hwelcome

/-- An entry that reads what the one before it writes has to come after it. -/
example :
    ¬ Independent [("host", .string "Mari"), ("greeting", .string "Tere, $\x7bhost\x7d!")] := by
  decide +kernel

end RouteFlow.Run
