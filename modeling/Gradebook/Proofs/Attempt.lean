import Gradebook.Attempt
import Mathlib.Order.Defs.Unbundled

/-! What comes of attempts put together, and where they lead whatever comes of them. An attempt is uniform when
states that are alike make no difference to it. An attempt moves along a relation when the state it starts from and
the state it reaches stand in that relation, also where it fails; a preorder that each part of an attempt moves along
is one that the whole moves along. -/

namespace Gradebook.Attempt

variable {σ ε ε' α β : Type} {s t : σ} {x : α} {y : β} {e : ε}
variable {a : Attempt σ ε α} {f : α → Attempt σ ε β}

@[simp] theorem change_apply (g : σ → σ) (s : σ) : (change g : Attempt σ ε Unit) s = (.ok (), g s) := rfl

@[simp] theorem reading_apply (g : σ → Except ε α) (s : σ) : reading g s = (g s, s) := rfl

theorem pure_bind (x : α) (f : α → Attempt σ ε β) : (pure x >>= f) = f x := rfl

theorem fail_bind (e : ε) (f : α → Attempt σ ε β) : (fail e >>= f) = fail e := rfl

theorem bind_of_ok (h : a s = (.ok x, t)) : (a >>= f) s = f x t := by rw [bind_apply, h]

theorem bind_of_error (h : a s = (.error e, t)) : (a >>= f) s = (.error e, t) := by rw [bind_apply, h]

theorem bind_eq_ok : (a >>= f) s = (.ok y, t) ↔ ∃ x u, a s = (.ok x, u) ∧ f x u = (.ok y, t) := by
  rw [bind_apply]
  rcases a s with ⟨e | x, u⟩
  · simp
  · constructor
    · intro h
      exact ⟨x, u, rfl, h⟩
    · rintro ⟨_, _, ⟨⟩, h⟩
      exact h

theorem bind_assoc {γ : Type} (a : Attempt σ ε α) (f : α → Attempt σ ε β) (g : β → Attempt σ ε γ) :
    (a >>= f >>= g) = (a >>= fun x => f x >>= g) := by
  funext s
  rw [bind_apply, bind_apply, bind_apply]
  rcases a s with ⟨e | x, u⟩ <;> rfl

theorem outcome_apply (a : Attempt σ ε α) (s : σ) :
    (a.outcome : Attempt σ ε' (Except ε α)) s = (.ok (a s).1, (a s).2) := rfl

theorem forEach_cons (g : β → Attempt σ ε Unit) (y : β) (rest : List β) :
    forEach g (y :: rest) = (g y >>= fun _ => forEach g rest) := rfl

theorem forEachGive_cons (g : β → Attempt σ ε α) (y : β) (rest : List β) :
    forEachGive g (y :: rest) = (g y >>= fun x => forEachGive g rest >>= fun xs => pure (x :: xs)) := rfl

theorem atomically_of_ok (h : a s = (.ok x, t)) : a.atomically s = (.ok x, t) := by
  unfold atomically
  rw [h]

theorem atomically_of_error (h : a s = (.error e, t)) : a.atomically s = (.error e, s) := by
  unfold atomically
  rw [h]

/-! ### Attempts that do not look at all of the state -/

/-- From states that are alike the attempt gives the same and reaches states that are alike. -/
def Uniform (R : σ → σ → Prop) (a : Attempt σ ε α) : Prop :=
  ∀ s t, R s t → (a s).1 = (a t).1 ∧ R (a s).2 (a t).2

namespace Uniform

variable {R : σ → σ → Prop}

theorem pure (x : α) : (Pure.pure x : Attempt σ ε α).Uniform R := fun _ _ alike => ⟨rfl, alike⟩

theorem fail (e : ε) : (Attempt.fail e : Attempt σ ε α).Uniform R := fun _ _ alike => ⟨rfl, alike⟩

theorem bind (ha : a.Uniform R) (hf : ∀ x, (f x).Uniform R) : (a >>= f).Uniform R := by
  intro s t alike
  obtain ⟨same, next⟩ := ha s t alike
  rw [bind_apply, bind_apply]
  rcases has : a s with ⟨e | x, u⟩ <;> rcases hat : a t with ⟨e' | x', u'⟩ <;> rw [has, hat] at same next <;>
    cases same
  · exact ⟨rfl, next⟩
  · exact hf x u u' next

theorem outcome (ha : a.Uniform R) : (a.outcome : Attempt σ ε' (Except ε α)).Uniform R := by
  intro s t alike
  obtain ⟨same, next⟩ := ha s t alike
  rw [outcome_apply, outcome_apply, same]
  exact ⟨rfl, next⟩

theorem forEach {g : β → Attempt σ ε Unit} (hg : ∀ y, (g y).Uniform R) (ys : List β) :
    (Attempt.forEach g ys).Uniform R := by
  induction ys with
  | nil => exact pure ()
  | cons y rest ih =>
      rw [forEach_cons]
      exact (hg y).bind fun _ => ih

theorem forEachGive {g : β → Attempt σ ε α} (hg : ∀ y, (g y).Uniform R) (ys : List β) :
    (Attempt.forEachGive g ys).Uniform R := by
  induction ys with
  | nil => exact pure []
  | cons y rest ih =>
      rw [forEachGive_cons]
      exact (hg y).bind fun x => ih.bind fun xs => pure (x :: xs)

/-- What succeeds from a state succeeds from a like one. -/
theorem ok (ha : a.Uniform R) {s t u : σ} (alike : R s t) (succeeds : a s = (.ok x, u)) :
    ∃ v, a t = (.ok x, v) ∧ R u v := by
  obtain ⟨same, next⟩ := ha s t alike
  rw [succeeds] at same next
  exact ⟨(a t).2, Prod.ext same.symm rfl, next⟩

end Uniform

/-- What comes of the attempt does not depend on the state it starts from. -/
def Constant (a : Attempt σ ε α) : Prop := ∀ s t, (a s).1 = (a t).1

namespace Constant

theorem uniform_iff : a.Constant ↔ a.Uniform fun _ _ => True := by
  simp [Constant, Uniform]

theorem pure (x : α) : (Pure.pure x : Attempt σ ε α).Constant := fun _ _ => rfl

theorem bind (ha : a.Constant) (hf : ∀ x, (f x).Constant) : (a >>= f).Constant :=
  uniform_iff.mpr ((uniform_iff.mp ha).bind fun x => uniform_iff.mp (hf x))

end Constant

/-! ### Where attempts lead -/

/-- Whatever comes of the attempt, it leads from a state to one that is related to it. -/
def Moves (R : σ → σ → Prop) (a : Attempt σ ε α) : Prop := ∀ s, R s (a s).2

/-- A step that keeps to a rule. -/
def Upholds (P : σ → Prop) (s t : σ) : Prop := P s → P t

instance (P : σ → Prop) : IsPreorder σ (Upholds P) where
  refl _ := id
  trans _ _ _ hst htu := htu ∘ hst

variable {R : σ → σ → Prop}

namespace Moves

/-- Wherever the attempt was seen to lead, it moved along the relation. -/
theorem leads {r : Except ε α} (h : a.Moves R) (does : a s = (r, t)) : R s t := by
  have moved := h s
  rwa [does] at moved

/-- Two attempts that move along different relations move along what those make together. The second counts
only where the first has led. -/
theorem chain_of {S T : σ → σ → Prop} (ha : a.Moves R) (hf : ∀ s x t, a s = (.ok x, t) → S t (f x t).2)
    (stop : ∀ s t, R s t → T s t) (go : ∀ s t u, R s t → S t u → T s u) : (a >>= f).Moves T := by
  intro s
  have hs := ha s
  rw [bind_apply]
  split
  · next x t hx =>
    rw [hx] at hs
    exact go s t _ hs (hf s x t hx)
  · next e t he =>
    rw [he] at hs
    exact stop s t hs

theorem chain {S T : σ → σ → Prop} (ha : a.Moves R) (hf : ∀ x, (f x).Moves S)
    (stop : ∀ s t, R s t → T s t) (go : ∀ s t u, R s t → S t u → T s u) : (a >>= f).Moves T :=
  ha.chain_of (fun _ x t _ => hf x t) stop go

section
variable [IsPreorder σ R]

theorem pure (x : α) : (Pure.pure x : Attempt σ ε α).Moves R := fun s => refl_of R s

theorem fail (e : ε) : (Attempt.fail e : Attempt σ ε α).Moves R := fun s => refl_of R s

theorem reading (g : σ → Except ε α) : (Attempt.reading g).Moves R := fun s => refl_of R s

theorem bind_of (ha : a.Moves R) (hf : ∀ s x t, a s = (.ok x, t) → R t (f x t).2) :
    (a >>= f).Moves R :=
  ha.chain_of hf (fun _ _ h => h) fun _ _ _ => trans_of R

theorem bind (ha : a.Moves R) (hf : ∀ x, (f x).Moves R) : (a >>= f).Moves R :=
  ha.bind_of fun _ x t _ => hf x t

theorem forEach {g : β → Attempt σ ε Unit} (ys : List β) (h : ∀ y ∈ ys, (g y).Moves R) :
    (Attempt.forEach g ys).Moves R := by
  induction ys with
  | nil => exact pure ()
  | cons y rest ih =>
      rw [forEach_cons]
      apply bind (h y List.mem_cons_self)
      intro _
      exact ih fun y hy => h y (List.mem_cons_of_mem _ hy)

end

theorem mono {S : σ → σ → Prop} (h : a.Moves R) (imp : ∀ s t, R s t → S s t) : a.Moves S :=
  fun s => imp _ _ (h s)

end Moves

end Gradebook.Attempt
