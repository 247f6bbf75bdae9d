import Mathlib.Data.List.Forall2

/-! Computations that give a value or an error, one after another and one for each element of a list. -/

namespace Gradebook

variable {ε ε' α β : Type}

theorem except_bind_eq_ok {r : Except ε α} {f : α → Except ε β} {y : β} :
    (r >>= f) = .ok y ↔ ∃ x, r = .ok x ∧ f x = .ok y := by
  cases r <;> simp [bind, Except.bind]

theorem except_bind_of_ok {r : Except ε α} {f : α → Except ε β} {x : α} {y : β} (first : r = .ok x)
    (after : f x = .ok y) : (r >>= f) = .ok y :=
  except_bind_eq_ok.mpr ⟨x, first, after⟩

theorem except_mapError_eq_ok {r : Except ε α} {g : ε → ε'} {x : α} :
    r.mapError g = .ok x ↔ r = .ok x := by
  cases r with
  | error e => exact ⟨nofun, nofun⟩
  | ok a =>
      constructor
      · intro h
        cases h
        rfl
      · intro h
        cases h
        rfl

theorem exists_of_toOption_map {r : Except ε α} {g : α → β} {y : β} (told : r.toOption.map g = some y) :
    ∃ x, r = .ok x ∧ g x = y := by
  cases r with
  | error e => cases told
  | ok x => exact ⟨x, rfl, Option.some.inj told⟩

/-- Computations that give the same under a view fail alike, or both succeed with what looks the same. -/
theorem except_map_eq_map {r q : Except ε α} {g : α → β} (same : r.map g = q.map g) :
    (∃ e, r = .error e ∧ q = .error e) ∨ ∃ a b, r = .ok a ∧ q = .ok b ∧ g a = g b := by
  cases r with
  | error e =>
      cases q with
      | error e' =>
          cases same
          exact .inl ⟨e, rfl, rfl⟩
      | ok b => cases same
  | ok a =>
      cases q with
      | error e' => cases same
      | ok b => exact .inr ⟨a, b, rfl, rfl, Except.ok.inj same⟩

/-- A list of computations succeeds when each does. -/
theorem mapM_eq_ok {f : α → Except ε β} {xs : List α} {ys : List β} :
    xs.mapM f = .ok ys ↔ List.Forall₂ (fun x y => f x = .ok y) xs ys := by
  induction xs generalizing ys with
  | nil =>
      rw [List.mapM_nil, List.forall₂_nil_left_iff]
      simp [pure, Except.pure, eq_comm]
  | cons x rest ih =>
      rw [List.mapM_cons, except_bind_eq_ok]
      constructor
      · rintro ⟨y, hy, hrest⟩
        obtain ⟨zs, hzs, heq⟩ := except_bind_eq_ok.mp hrest
        cases heq
        exact .cons hy (ih.mp hzs)
      · rintro (_ | ⟨hy, hrest⟩)
        refine ⟨_, hy, ?_⟩
        rw [ih.mpr hrest]
        rfl

/-- A list of computations fails as one of them does. -/
theorem exists_of_mapM_error {f : α → Except ε β} {xs : List α} {e : ε} (fails : xs.mapM f = .error e) :
    ∃ x ∈ xs, f x = .error e := by
  induction xs with
  | nil => cases fails
  | cons x rest ih =>
      rw [List.mapM_cons] at fails
      cases first : f x with
      | error e' =>
          rw [first] at fails
          cases fails
          exact ⟨x, List.mem_cons_self, first⟩
      | ok y =>
          rw [first] at fails
          cases others : rest.mapM f with
          | error e' =>
              rw [others] at fails
              cases fails
              obtain ⟨z, hz, failed⟩ := ih others
              exact ⟨z, List.mem_cons_of_mem _ hz, failed⟩
          | ok ys =>
              rw [others] at fails
              cases fails

theorem exists_of_forall₂ {R : α → β → Prop} {xs : List α} {ys : List β} (h : List.Forall₂ R xs ys) {x : α}
    (hx : x ∈ xs) : ∃ y ∈ ys, R x y := by
  induction h with
  | nil => cases hx
  | cons first _ ih =>
      rcases List.mem_cons.mp hx with rfl | hx
      · exact ⟨_, List.mem_cons_self, first⟩
      · obtain ⟨y, hy, related⟩ := ih hx
        exact ⟨y, List.mem_cons_of_mem _ hy, related⟩

/-- An order of one list that its elements carry over to those of the other. -/
theorem pairwise_of_forall₂ {R : α → β → Prop} {S : α → α → Prop} {T : β → β → Prop} {xs : List α} {ys : List β}
    (h : List.Forall₂ R xs ys) (ordered : xs.Pairwise S)
    (carries : ∀ a x b y, a ∈ xs → b ∈ xs → R a x → R b y → S a b → T x y) : ys.Pairwise T := by
  induction h with
  | nil => exact .nil
  | @cons a x xs ys first rest ih =>
      obtain ⟨before, ordered⟩ := List.pairwise_cons.mp ordered
      refine .cons ?_ (ih ordered fun b y c z hb hc =>
        carries b y c z (List.mem_cons_of_mem _ hb) (List.mem_cons_of_mem _ hc))
      intro y hy
      obtain ⟨b, hb, related⟩ := exists_of_forall₂ rest.flip hy
      exact carries a x b y List.mem_cons_self (List.mem_cons_of_mem _ hb) first related (before b hb)

theorem exists_mapM_eq_ok {f : α → Except ε β} {xs : List α} :
    (∃ ys, xs.mapM f = .ok ys) ↔ ∀ x ∈ xs, ∃ y, f x = .ok y := by
  simp only [mapM_eq_ok]
  induction xs with
  | nil => simp
  | cons x rest ih => simp [List.forall₂_cons_left_iff, ← ih]

theorem mapM_congr {f f' : α → Except ε β} {xs : List α} (same : ∀ x ∈ xs, f x = f' x) :
    xs.mapM f = xs.mapM f' := by
  induction xs with
  | nil => rfl
  | cons x rest ih =>
      rw [List.mapM_cons, List.mapM_cons, same x List.mem_cons_self,
        ih fun y hy => same y (List.mem_cons_of_mem _ hy)]

/-- Computations that differ in what they give, not in whether they succeed. -/
theorem mapM_map_ok {γ : Type} {f : α → Except ε β} {f' : α → Except ε γ} {g : β → γ} {xs : List α}
    (same : ∀ x ∈ xs, f' x = (f x).map g) : xs.mapM f' = (xs.mapM f).map (List.map g) := by
  rw [mapM_congr same]
  induction xs with
  | nil => rfl
  | cons x rest ih =>
      rw [List.mapM_cons, List.mapM_cons, ih fun y hy => same y (List.mem_cons_of_mem _ hy)]
      cases f x with
      | error e => rfl
      | ok y => cases rest.mapM f <;> rfl

end Gradebook
