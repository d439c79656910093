/-!
# Entries: a mapping that keeps its order

`Entries α` lists pairs of a name and a value. `insert` keeps the place of a name that is already
there and appends a new one, so names stand in the order in which they first came; `insertSorted`
keeps the names ascending instead. `remove` fills the gap with the last pair.

* `get?_insert`: what a look-up finds after an insertion.
* `keys_insert`: a known name keeps its place and a new one goes last.
-/

namespace RouteFlow

universe u

/-- Named values in order. -/
abbrev Entries (α : Type u) := List (String × α)

namespace Entries

variable {α : Type u}

/-- The value of the first pair named `k`. -/
def get? (es : Entries α) (k : String) : Option α :=
  match es with
  | [] => none
  | (k', v) :: rest => if k' = k then some v else get? rest k

/-- Whether some pair is named `k`. -/
def has (es : Entries α) (k : String) : Bool := (get? es k).isSome

/-- The names, in order. -/
def names (es : Entries α) : List String := es.map (·.1)

/-- Puts `v` under `k`: in the place of the first pair with that name, else at the end. -/
def insert (es : Entries α) (k : String) (v : α) : Entries α :=
  match es with
  | [] => [(k, v)]
  | (k', v') :: rest => if k' = k then (k', v) :: rest else (k', v') :: insert rest k v

/-- Applies `f` to the value of the first pair named `k`. -/
def adjust (es : Entries α) (k : String) (f : α → α) : Entries α :=
  match es with
  | [] => []
  | (k', v) :: rest => if k' = k then (k', f v) :: rest else (k', v) :: adjust rest k f

/-- Takes the first pair named `k` out and moves the last pair into its place. -/
def remove (es : Entries α) (k : String) : Entries α :=
  match es with
  | [] => []
  | (k', v') :: rest =>
    if k' = k then
      match rest.getLast? with
      | none => []
      | some last => last :: rest.dropLast
    else (k', v') :: remove rest k

/-- Puts `v` under `k` in a mapping whose names ascend. -/
def insertSorted (es : Entries α) (k : String) (v : α) : Entries α :=
  match es with
  | [] => [(k, v)]
  | (k', v') :: rest =>
    if k' = k then (k', v) :: rest
    else if k < k' then (k, v) :: (k', v') :: rest
    else (k', v') :: insertSorted rest k v

/-- The mapping that holds the pairs of `ps`; of equal names the first place and the last value
count. -/
def ofList (ps : List (String × α)) : Entries α := ps.foldl (fun es p => insert es p.1 p.2) []

/-- As `ofList`, with ascending names. -/
def ofListSorted (ps : List (String × α)) : Entries α :=
  ps.foldl (fun es p => insertSorted es p.1 p.2) []

/-! ### Look-ups -/

@[simp] theorem get?_nil (k : String) : get? ([] : Entries α) k = none := rfl

theorem get?_cons (k' : String) (v : α) (es : Entries α) (k : String) :
    get? ((k', v) :: es) k = if k' = k then some v else get? es k := rfl

theorem get?_insert (es : Entries α) (k : String) (v : α) (k' : String) :
    get? (insert es k v) k' = if k = k' then some v else get? es k' := by
  induction es with
  | nil => rfl
  | cons e es ih =>
    obtain ⟨n, w⟩ := e
    by_cases h : n = k
    · subst h
      by_cases h' : n = k' <;> simp [insert, get?_cons, h']
    · by_cases h' : n = k'
      · subst h'
        simp [insert, get?_cons, h, Ne.symm h]
      · simp [insert, get?_cons, h, h', ih]

theorem get?_eq_none_iff (es : Entries α) (k : String) : get? es k = none ↔ k ∉ names es := by
  induction es with
  | nil => simp [names]
  | cons e es ih =>
    obtain ⟨n, w⟩ := e
    by_cases h : n = k
    · simp [get?_cons, names, h]
    · have h' : ¬ k = n := fun e => h e.symm
      simpa [get?_cons, names, h, h'] using ih

theorem names_insert (es : Entries α) (k : String) (v : α) :
    names (insert es k v) = if k ∈ names es then names es else names es ++ [k] := by
  induction es with
  | nil => simp [names, insert]
  | cons e es ih =>
    obtain ⟨n, w⟩ := e
    by_cases h : n = k
    · simp [insert, names, h]
    · have h' : ¬ k = n := fun e => h e.symm
      simp only [insert, h, if_false]
      have : names ((n, w) :: insert es k v) = n :: names (insert es k v) := rfl
      rw [this, ih]
      by_cases hk : k ∈ names es <;> simp_all [names]

end Entries
end RouteFlow
