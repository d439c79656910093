import Mathlib.Data.List.Forall2

/-!
# Inversion of computations that may fail

What is known of the parts of a computation in `Except` once its result is known. Every proof that
takes such a computation apart goes through these equivalences:

* `bind_eq_ok_iff`, `bind_eq_error_iff`: one computation after another;
* `map_eq_ok_iff`, `map_eq_error_iff`: a changed value;
* `mapError_eq_ok_iff`, `mapError_eq_error_iff`: a changed error;
* `each_eq_ok_iff`, `each_eq_error_iff`: one computation for each element of a list, in order;
* `error?`: the error of a computation as a view of it.
-/

namespace RouteFlow.Fallible

variable {ε ε' α β : Type}

theorem bind_eq_ok_iff {x : Except ε α} {f : α → Except ε β} {b : β} :
    (x >>= f) = .ok b ↔ ∃ a, x = .ok a ∧ f a = .ok b := by
  cases x <;> simp [bind, Except.bind]

/-- A sequence fails where its first part fails, or where the second part does. -/
theorem bind_eq_error_iff {x : Except ε α} {f : α → Except ε β} {e : ε} :
    (x >>= f) = .error e ↔ x = .error e ∨ ∃ a, x = .ok a ∧ f a = .error e := by
  cases x <;> simp [bind, Except.bind]

theorem map_eq_ok_iff {x : Except ε α} {f : α → β} {b : β} :
    x.map f = .ok b ↔ ∃ a, x = .ok a ∧ f a = b := by
  cases x <;> simp [Except.map]

theorem map_eq_error_iff {x : Except ε α} {f : α → β} {e : ε} :
    x.map f = .error e ↔ x = .error e := by
  cases x <;> simp [Except.map]

@[simp] theorem mapError_ok (a : α) (f : ε → ε') :
    (.ok a : Except ε α).mapError f = .ok a := rfl

@[simp] theorem mapError_error (e : ε) (f : ε → ε') :
    (.error e : Except ε α).mapError f = .error (f e) := rfl

theorem mapError_eq_ok_iff {x : Except ε α} {f : ε → ε'} {a : α} :
    x.mapError f = .ok a ↔ x = .ok a := by
  cases x <;> simp

theorem mapError_eq_error_iff {x : Except ε α} {f : ε → ε'} {e : ε'} :
    x.mapError f = .error e ↔ ∃ e₀, x = .error e₀ ∧ f e₀ = e := by
  cases x <;> simp

/-! ### One after another -/

section Each

variable {f : α → Except ε β} {g : List α → Except ε (List β)}

/-- **A list is worked off element by element**: the whole succeeds exactly if each element does,
and the results stand one for one. -/
theorem each_eq_ok_iff (hnil : g [] = .ok [])
    (hcons : ∀ x xs, g (x :: xs) = do
      let y ← f x
      let ys ← g xs
      .ok (y :: ys)) {xs : List α} {ys : List β} :
    g xs = .ok ys ↔ List.Forall₂ (fun x y => f x = .ok y) xs ys := by
  induction xs generalizing ys with
  | nil => simp [hnil, eq_comm]
  | cons x xs ih =>
    simp only [hcons, bind_eq_ok_iff, ih, List.forall₂_cons_left_iff]
    constructor
    · rintro ⟨y, hy, others, ho, h⟩
      exact ⟨y, others, hy, ho, (Except.ok.inj h).symm⟩
    · rintro ⟨y, others, hy, ho, rfl⟩
      exact ⟨y, hy, others, ho, rfl⟩

/-- **The whole fails for the first element that fails.** -/
theorem each_eq_error_iff (hnil : g [] = .ok [])
    (hcons : ∀ x xs, g (x :: xs) = do
      let y ← f x
      let ys ← g xs
      .ok (y :: ys)) {xs : List α} {e : ε} :
    g xs = .error e ↔
      ∃ before x after, xs = before ++ x :: after ∧ (∀ x' ∈ before, ∃ y, f x' = .ok y) ∧
        f x = .error e := by
  induction xs with
  | nil => simp [hnil]
  | cons x xs ih =>
    rw [hcons, bind_eq_error_iff]
    constructor
    · rintro (h | ⟨y, hy, h⟩)
      · exact ⟨[], x, xs, rfl, by simp, h⟩
      · -- `x` succeeds, so the first element that fails stands further on
        rcases bind_eq_error_iff.mp h with h | ⟨others, -, h⟩
        · obtain ⟨before, x', after, rfl, hbefore, hx'⟩ := ih.mp h
          exact ⟨x :: before, x', after, rfl, List.forall_mem_cons.mpr ⟨⟨y, hy⟩, hbefore⟩, hx'⟩
        · exact absurd h nofun
    · rintro ⟨before, x', after, hsplit, hbefore, hx'⟩
      cases before with
      | nil =>
        obtain ⟨rfl, rfl⟩ := List.cons.inj hsplit
        exact .inl hx'
      | cons x₀ before =>
        obtain ⟨rfl, rfl⟩ := List.cons.inj hsplit
        obtain ⟨⟨y, hy⟩, hbefore⟩ := List.forall_mem_cons.mp hbefore
        exact .inr ⟨y, hy,
          bind_eq_error_iff.mpr (.inl (ih.mpr ⟨before, x', after, rfl, hbefore, hx'⟩))⟩

end Each

/-- What is read one for one comes from something. -/
theorem exists_mem_of_forall₂ {R : α → β → Prop} {xs : List α} {ys : List β}
    (h : List.Forall₂ R xs ys) {y : β} (hy : y ∈ ys) : ∃ x ∈ xs, R x y := by
  induction h with
  | nil => simp at hy
  | @cons x y' rest others hR _ ih =>
    rcases List.mem_cons.mp hy with rfl | hy
    · exact ⟨x, List.mem_cons_self, hR⟩
    · obtain ⟨x', hx', hR'⟩ := ih hy
      exact ⟨x', List.mem_cons_of_mem _ hx', hR'⟩

/-! ### The error as a view -/

/-- The error of a computation, none if it succeeds. -/
def error? : Except ε α → Option ε
  | .ok _ => none
  | .error e => some e

@[simp] theorem error?_ok (a : α) : error? (.ok a : Except ε α) = none := rfl

@[simp] theorem error?_error (e : ε) : error? (.error e : Except ε α) = some e := rfl

theorem error?_eq_some_iff {x : Except ε α} {e : ε} : error? x = some e ↔ x = .error e := by
  cases x <;> simp

@[simp] theorem error?_map (x : Except ε α) (f : α → β) : error? (x.map f) = error? x := by
  cases x <;> rfl

/-- Of two computations whose values are put together, the error of the first comes first. -/
theorem error?_bind_bind {γ : Type} (x : Except ε α) (y : Except ε β) (f : α → β → γ) :
    error? (x >>= fun a => y >>= fun b => .ok (f a b)) = (error? x).or (error? y) := by
  cases x <;> cases y <;> rfl

end RouteFlow.Fallible
