import Mathlib.Tactic.Lemma
import Mathlib.Logic.Basic

/-!
# Operations that throw

An operation changes a state and may throw. What it has changed before it throws stays changed, so
that an exception comes with the state it leaves behind.
-/

namespace Core

universe u

variable {ε σ α β : Type u} {x : EStateM ε σ α} {f : α → EStateM ε σ β} {s s' : σ} {a : α}

/-- The operation returns a value and leaves the state `s'`. -/
def Returns (x : EStateM ε σ α) (s : σ) (a : α) (s' : σ) : Prop := x s = .ok a s'

/-- The operation throws and leaves the state `s'`. -/
def Fails (x : EStateM ε σ α) (s s' : σ) : Prop := ∃ e, x s = .error e s'

/-- The state that is left behind when the exception is caught and ignored. -/
def caught (x : EStateM ε σ α) (s : σ) : σ :=
  match x s with
  | .ok _ s'    => s'
  | .error _ s' => s'

lemma Fails.caught (h : Fails x s s') : caught x s = s' := by
  obtain ⟨e, he⟩ := h
  rw [Core.caught, he]

@[simp] lemma modify_bind_apply (g : σ → σ) (f : PUnit → EStateM ε σ β) (s : σ) :
    (modify g >>= f) s = f ⟨⟩ (g s) := rfl

@[simp] lemma get_bind_apply (f : σ → EStateM ε σ β) (s : σ) : (get >>= f) s = f s s := rfl

lemma bind_of_ok {s₁ : σ} (h : x s = .ok a s₁) : (x >>= f) s = f a s₁ := by
  simp only [bind, EStateM.bind, h]

lemma bind_of_error {e : ε} {s₁ : σ} (h : x s = .error e s₁) : (x >>= f) s = .error e s₁ := by
  simp only [bind, EStateM.bind, h]

@[simp] lemma caught_modify (g : σ → σ) : caught (modify g : EStateM ε σ PUnit) s = g s := rfl

@[simp] lemma caught_modify_bind (g : σ → σ) (f : PUnit → EStateM ε σ β) :
    caught (modify g >>= f) s = caught (f ⟨⟩) (g s) := rfl

@[simp] lemma caught_get_bind (f : σ → EStateM ε σ β) :
    caught (get >>= f) s = caught (f s) s := rfl

lemma caught_bind_of_ok {s₁ : σ} (h : x s = .ok a s₁) :
    caught (x >>= f) s = caught (f a) s₁ := by
  rw [Core.caught, bind_of_ok h, ← Core.caught]

/-- What both parts of a sequence keep, the sequence keeps, be it with an exception. -/
lemma caught_bind_keeps {P : σ → Prop} (hx : P (caught x s))
    (hf : ∀ a s₁, P s₁ → P (caught (f a) s₁)) : P (caught (x >>= f) s) := by
  cases h : x s with
  | ok a s₁ =>
    rw [caught_bind_of_ok h]
    exact hf a s₁ (by rwa [Core.caught, h] at hx)
  | error e s₁ =>
    rw [Core.caught, h] at hx
    rwa [Core.caught, bind_of_error h]

/-- Where the operation throws, what is left behind is what the exception left. -/
lemma caught_of_fails {P : σ → Prop} :
    ((∃ s', Fails x s s') → P (Core.caught x s)) ↔ ∀ s', Fails x s s' → P s' := by
  rw [forall_exists_index]
  exact forall_congr' fun s' => forall_congr' fun h => by rw [h.caught]

/-- A sequence throws in its first part or in its second. -/
lemma fails_bind : Fails (x >>= f) s s' ↔
    Fails x s s' ∨ ∃ a s₁, Returns x s a s₁ ∧ Fails (f a) s₁ s' := by
  simp only [Fails, Returns, bind, EStateM.bind]
  cases x s with
  | ok a s₁ =>
    constructor
    · exact fun h => Or.inr ⟨a, s₁, rfl, h⟩
    · rintro (⟨e, ⟨⟩⟩ | ⟨a, s₁, ⟨⟩, h⟩)
      exact h
  | error e s₁ => simp

lemma not_fails_pure : ¬Fails (pure a : EStateM ε σ α) s s' := by
  rintro ⟨e, ⟨⟩⟩

lemma not_fails_modify (g : σ → σ) : ¬Fails (modify g : EStateM ε σ PUnit) s s' := by
  rintro ⟨e, ⟨⟩⟩

/-- A change of the state comes first. -/
@[simp] lemma fails_modify_bind {g : σ → σ} {f : PUnit → EStateM ε σ β} :
    Fails (modify g >>= f) s s' ↔ Fails (f ⟨⟩) (g s) s' := by
  rw [fails_bind, or_iff_right (not_fails_modify g)]
  constructor
  · rintro ⟨a, s₁, ⟨⟩, h⟩
    exact h
  · exact fun h => ⟨⟨⟩, g s, rfl, h⟩

@[simp] lemma fails_get_bind {f : σ → EStateM ε σ β} :
    Fails (get >>= f) s s' ↔ Fails (f s) s s' := by
  rw [fails_bind]
  constructor
  · rintro (⟨e, ⟨⟩⟩ | ⟨a, s₁, ⟨⟩, h⟩)
    exact h
  · exact fun h => Or.inr ⟨s, s, rfl, h⟩

/-- A computation on the side leaves the state alone. -/
lemma fails_ofExcept {r : Except ε α} :
    Fails (ofExcept r : EStateM ε σ α) s s' ↔ s' = s ∧ ∃ e, r = .error e := by
  cases r with
  | ok a =>
    constructor
    · rintro ⟨e, ⟨⟩⟩
    · rintro ⟨-, e, ⟨⟩⟩
  | error e =>
    constructor
    · rintro ⟨e, ⟨⟩⟩
      exact ⟨rfl, e, rfl⟩
    · rintro ⟨rfl, -⟩
      exact ⟨e, rfl⟩

lemma fails_ofExcept_bind {r : Except ε α} :
    Fails (ofExcept r >>= f : EStateM ε σ β) s s' ↔
      (s' = s ∧ ∃ e, r = .error e) ∨ ∃ a, r = .ok a ∧ Fails (f a) s s' := by
  rw [fails_bind, fails_ofExcept]
  refine or_congr Iff.rfl ?_
  cases r with
  | ok a =>
    constructor
    · rintro ⟨a, s₁, ⟨⟩, h⟩
      exact ⟨a, rfl, h⟩
    · rintro ⟨a, ⟨⟩, h⟩
      exact ⟨a, s, rfl, h⟩
  | error e =>
    constructor
    · rintro ⟨a, s₁, ⟨⟩, h⟩
    · rintro ⟨a, ⟨⟩, h⟩

end Core
