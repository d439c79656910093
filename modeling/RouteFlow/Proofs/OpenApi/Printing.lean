import RouteFlow.Proofs.Json.ReadBack
import RouteFlow.Proofs.OpenApi.Wire

/-!
# Descriptions of routes are printed

A description of routes holds texts in containers that nest to a fixed depth: the properties of a
body are the deepest, and have no properties of their own. Each name comes once in its container.
So the text that is printed for such a description reads back (`plain_project`). What a record is on
the wire tells as much (`Plain.of_laidOut`), from the inside out.
-/

namespace RouteFlow

namespace Json

variable {α : Type} {n : Nat} {j : Json} {P : Json → Prop}

/-! ### Records -/

/-- A member may be there only with a plain value. -/
def Allows (n : Nat) (member? : Option (Json → Prop)) : Prop :=
  ∀ P ∈ member?, ∀ j, P j → Plain n j

theorem allows_none : Allows n none := nofun

theorem allows_some (h : ∀ j, P j → Plain n j) : Allows n (some P) := by
  rintro _ ⟨⟩
  exact h

theorem allows_map {Q : α → Json → Prop} {a? : Option α} (h : ∀ a ∈ a?, ∀ j, Q a j → Plain n j) :
    Allows n (a?.map Q) := by
  intro P hP
  obtain ⟨a, ha, rfl⟩ := Option.map_eq_some_iff.mp hP
  exact h a ha

theorem allows_unlessEmpty {l : List α} (h : ∀ j, P j → Plain n j) :
    Allows n (unlessEmpty l P) := by
  cases l with
  | nil => exact nofun
  | cons a l => exact allows_some h

theorem plain_of_isText {s : String} : ∀ j, IsText s j → Plain n j := by
  rintro j ⟨⟩
  exact .string

theorem allows_text? {s? : Option String} : Allows n (s?.map IsText) :=
  allows_map fun _ _ => plain_of_isText

/-- The members that follow a layout have its names, or some of them, and are what it says. -/
theorem Follows.plain {l : Layout} {ms : List (String × Json)} (h : Follows l ms)
    (hl : l.Forall fun e => Allows n e.2) :
    List.Sublist (ms.map (·.1)) (l.map (·.1)) ∧ ∀ m ∈ ms, Plain n m.2 := by
  induction h with
  | nil => exact ⟨.slnil, List.forall_mem_nil _⟩
  | written h _ ih =>
    obtain ⟨hfirst, hrest⟩ := (List.forall_cons _ _ _).mp hl
    obtain ⟨hnames, hms⟩ := ih hrest
    exact ⟨hnames.cons_cons _, List.forall_mem_cons.mpr ⟨hfirst _ rfl _ h, hms⟩⟩
  | omitted _ ih =>
    obtain ⟨hnames, hms⟩ := ih ((List.forall_cons _ _ _).mp hl).2
    exact ⟨hnames.cons _, hms⟩

/-- **A record is plain** if its members are. -/
theorem Plain.of_laidOut {l : Layout} (h : LaidOut l j) (hn : (l.map (·.1)).Nodup)
    (hl : l.Forall fun e => Allows n e.2) : Plain (n + 1) j := by
  cases h with
  | intro h =>
    obtain ⟨hnames, hms⟩ := h.plain hl
    exact .object (hnames.nodup hn) hms

theorem Plain.of_lists {Q : α → Json → Prop} {l : List α} (h : Lists Q l j)
    (hl : ∀ a ∈ l, ∀ j, Q a j → Plain n j) : Plain (n + 1) j := by
  cases h with
  | intro h =>
    refine .array fun item hitem => ?_
    obtain ⟨a, ha, hq⟩ := Fallible.exists_mem_of_forall₂ h hitem
    exact hl a ha item hq

theorem Plain.of_maps {Q : α → Json → Prop} {es : Entries α} (h : Maps Q es j)
    (hn : es.names.Nodup) (hl : ∀ e ∈ es, ∀ j, Q e.2 j → Plain n j) : Plain (n + 1) j := by
  cases h with
  | @intro ms h =>
    have hnames : Entries.names ms = es.names := by
      clear hn hl
      induction h with
      | nil => rfl
      | cons hem _ ih => exact List.cons_eq_cons.mpr ⟨hem.1, ih⟩
    refine .object (hnames ▸ hn) fun m hm => ?_
    obtain ⟨e, he, -, hq⟩ := Fallible.exists_mem_of_forall₂ h hm
    exact hl e he m.2 hq

end Json

namespace OpenApi

open Json (Plain IsText plain_of_isText)
open Json (allows_none allows_some allows_map allows_unlessEmpty allows_text?)
open Document (Declaration)

variable {n : Nat} {j : Json}

theorem Info.plain {i : Info} (h : i.OnWire j) : Plain (n + 1) j :=
  .of_laidOut h (by simp) ⟨allows_some plain_of_isText, allows_some plain_of_isText⟩

/-- A schema without properties is an object of texts. -/
theorem Schema.plain_of_nil {type? description? : Option String}
    (h : Schema.OnWire ⟨type?, description?, []⟩ j) : Plain (n + 1) j := by
  rw [OnWire] at h
  exact .of_laidOut h (by simp) ⟨allows_text?, allows_text?, allows_none⟩

/-- A schema whose properties have no properties of their own. -/
theorem Schema.plain_of_flat {type? description? : Option String}
    {properties : List (String × Schema)} (hn : (Entries.names properties).Nodup)
    (hflat : ∀ p ∈ properties, p.2.properties = [])
    (h : Schema.OnWire ⟨type?, description?, properties⟩ j) : Plain (n + 3) j := by
  have hproperties : ∀ {ps : List (String × Schema)} {ms : List (String × Json)},
      PropertiesOnWire ps ms → (∀ p ∈ ps, p.2.properties = []) →
        Entries.names ms = Entries.names ps ∧ ∀ m ∈ ms, Plain (n + 1) m.2 := by
    intro ps
    induction ps with
    | nil =>
      rintro ms rfl -
      exact ⟨rfl, List.forall_mem_nil _⟩
    | cons p ps ih =>
      obtain ⟨k, type?, description?, inside⟩ := p
      rintro ms ⟨j, others, rfl, hj, hothers⟩ hflat
      obtain ⟨hp, hps⟩ := List.forall_mem_cons.mp hflat
      obtain rfl : inside = [] := hp
      obtain ⟨hnames, hms⟩ := ih hothers hps
      exact ⟨congrArg (k :: ·) hnames, List.forall_mem_cons.mpr ⟨plain_of_nil hj, hms⟩⟩
  rw [OnWire] at h
  refine .of_laidOut h (by simp) ⟨allows_text?, allows_text?, allows_unlessEmpty ?_⟩
  rintro _ ⟨h⟩
  obtain ⟨hnames, hms⟩ := hproperties h hflat
  exact .object (hnames ▸ hn) hms

/-- The schema of a body that a route takes. -/
theorem plain_bodySchema (d : Declaration) (h : (bodySchema d).OnWire j) : Plain (n + 3) j := by
  refine Schema.plain_of_flat (Entries.nodup_ofList _) (fun p hp => ?_) h
  obtain ⟨f, -, hf⟩ := List.mem_filterMap.mp (Entries.mem_of_mem_ofList hp)
  obtain ⟨name, -, rfl⟩ := Option.map_eq_some_iff.mp hf
  rfl

theorem Response.plain {r : Response} (h : r.OnWire j) : Plain (n + 1) j :=
  .of_laidOut h (by simp) (allows_some plain_of_isText)

theorem plain_responses (d : Declaration) :
    ∀ j, Json.Maps Response.OnWire (responses d) j → Plain (n + 2) j :=
  fun _ h => .of_maps h (ascending_responses d).nodup fun _ _ _ => Response.plain

theorem plain_bodyOperation (d : Declaration) (h : (bodyOperation d).OnWire j) :
    Plain (n + 7) j := by
  have hmedia : ∀ j, MediaType.OnWire ⟨bodySchema d⟩ j → Plain (n + 4) j := fun _ h =>
    .of_laidOut h (by simp) (allows_some fun _ => plain_bodySchema d)
  have hbody : ∀ j, RequestBody.OnWire ⟨[(jsonMediaType, ⟨bodySchema d⟩)]⟩ j → Plain (n + 6) j :=
    fun _ h => .of_laidOut h (by simp) (allows_some fun _ hcontent =>
      .of_maps hcontent (List.pairwise_singleton _ _) (List.forall_mem_singleton.mpr hmedia))
  exact .of_laidOut h (by simp)
    ⟨allows_none, allows_some hbody, allows_some (plain_responses d)⟩

theorem plain_queryOperation (d : Declaration) (h : (queryOperation d).OnWire j) :
    Plain (n + 7) j := by
  refine .of_laidOut h (by simp)
    ⟨allows_unlessEmpty fun _ hparameters => ?_, allows_none, allows_some (plain_responses d)⟩
  refine .of_lists hparameters fun p hp j hparameter => ?_
  obtain ⟨f, -, hf⟩ := List.mem_filterMap.mp hp
  obtain ⟨name, -, rfl⟩ := Option.map_eq_some_iff.mp hf
  refine .of_laidOut hparameter (by simp) ⟨allows_some plain_of_isText,
    allows_some plain_of_isText, allows_text?, allows_map fun s hs j hschema => ?_⟩
  obtain ⟨t, -, rfl⟩ := Option.map_eq_some_iff.mp hs
  exact Schema.plain_of_nil hschema

theorem plain_of_routeOperation? {d : Declaration} {o : Operation}
    (ho : routeOperation? d = some o) (h : o.OnWire j) : Plain (n + 7) j := by
  rcases routeOperation?_cases ho with rfl | rfl
  · exact plain_bodyOperation d h
  · exact plain_queryOperation d h

/-- **The description of routes is a plain value.** -/
theorem plain_project (info : Info) (routes : List (Declaration × String)) :
    Plain 10 (project info routes).toJson := by
  have hpath : ∀ e ∈ (project info routes).paths, ∀ j, e.2.OnWire j → Plain 8 j := by
    rintro ⟨path, item⟩ hitem j hj
    have hoperations : ∀ m ∈ describedMethods, ∀ o, item.operation? m = some o →
        ∀ j, o.OnWire j → Plain 7 j := by
      intro m hm o ho j h
      obtain ⟨d, hd⟩ := exists_routeOperation? hitem hm ho
      exact plain_of_routeOperation? hd h
    exact .of_laidOut hj (by simp) ⟨allows_text?, allows_map (hoperations .get (by decide)),
      allows_map (hoperations .post (by decide)), allows_map (hoperations .put (by decide))⟩
  refine .of_laidOut (Description.onWire_toJson _) (by simp) ⟨allows_some plain_of_isText,
    allows_some fun _ => Info.plain, allows_some fun _ hpaths => ?_⟩
  exact .of_maps hpaths (ascending_project info).nodup hpath

end OpenApi
end RouteFlow
