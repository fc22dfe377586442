import Mathlib.Tactic.Lemma
import Mathlib.Data.List.Basic

/-!
# Runs of a partial step function

`step s e = none` says that the event `e` is not enabled in the state `s`. A run is a list of
events, so that a statement about every list of events is a statement about every interleaving.
A guard is a condition on a step that is read off the state before the step.
-/

namespace Core

variable {σ ε : Type*} {step : σ → ε → Option σ} {G : σ → ε → Prop}

/-- Take the events one after the other; `none` when one of them is not enabled. -/
def run (step : σ → ε → Option σ) : σ → List ε → Option σ
  | s, []      => some s
  | s, e :: es => (step s e).bind fun s' => run step s' es

/-- Every step of the run meets `G` in the state in which it is taken. -/
def Guarded (step : σ → ε → Option σ) (G : σ → ε → Prop) : σ → List ε → Prop
  | _, []      => True
  | s, e :: es => G s e ∧ ∀ s' ∈ step s e, Guarded step G s' es

instance decidableGuarded [∀ s e, Decidable (G s e)] :
    ∀ (s : σ) (es : List ε), Decidable (Guarded step G s es)
  | _, []      => isTrue trivial
  | s, e :: es =>
    have : ∀ s', Decidable (Guarded step G s' es) := fun s' => decidableGuarded s' es
    inferInstanceAs (Decidable (G s e ∧ ∀ s' ∈ step s e, Guarded step G s' es))

@[simp] lemma run_nil (s : σ) : run step s [] = some s := rfl

@[simp] lemma run_cons (s : σ) (e : ε) (es : List ε) :
    run step s (e :: es) = (step s e).bind fun s' => run step s' es := rfl

/-- An invariant that every guarded step keeps holds at the end of every guarded run. -/
lemma run_invariant {I : σ → Prop}
    (hstep : ∀ s e s', I s → G s e → step s e = some s' → I s') :
    ∀ {s s' : σ} {es : List ε}, I s → Guarded step G s es → run step s es = some s' → I s'
  | _, _, [], hi, _, hr => by
    cases hr
    exact hi
  | s, s', e :: es, hi, hg, hr => by
    obtain ⟨s₁, h₁, hr⟩ := Option.bind_eq_some_iff.mp hr
    exact run_invariant hstep (hstep s e s₁ hi hg.1 h₁) (hg.2 s₁ h₁) hr

/-- A run that goes on. -/
lemma run_append (s : σ) (es fs : List ε) :
    run step s (es ++ fs) = (run step s es).bind fun s' => run step s' fs := by
  induction es generalizing s with
  | nil => rfl
  | cons e es ih => simp only [List.cons_append, run_cons, ih, Option.bind_assoc]

lemma run_concat (s : σ) (es : List ε) (e : ε) :
    run step s (es ++ [e]) = (run step s es).bind fun s' => step s' e := by
  simp [run_append]

/-- A guarded run that goes on. -/
lemma guarded_append (s : σ) (es fs : List ε) :
    Guarded step G s (es ++ fs) ↔
      Guarded step G s es ∧ ∀ s' ∈ run step s es, Guarded step G s' fs := by
  induction es generalizing s with
  | nil => simp [Guarded]
  | cons e es ih =>
    simp only [List.cons_append, Guarded, ih, run_cons, Option.mem_def, Option.bind_eq_some_iff]
    constructor
    · rintro ⟨hhead, htail⟩
      refine ⟨⟨hhead, fun s₁ h₁ => (htail s₁ h₁).1⟩, ?_⟩
      rintro s' ⟨s₁, h₁, hr⟩
      exact (htail s₁ h₁).2 s' hr
    · rintro ⟨⟨hhead, htail⟩, hrest⟩
      exact ⟨hhead, fun s₁ h₁ => ⟨htail s₁ h₁, fun s' hr => hrest s' ⟨s₁, h₁, hr⟩⟩⟩

/-- What holds after every step of a run is a guard on its steps. -/
lemma forall_prefix_iff_guarded {P : ε → σ → Prop} (s : σ) (es : List ε) :
    (∀ pre e s', pre ++ [e] <+: es → run step s (pre ++ [e]) = some s' → P e s') ↔
      Guarded step (fun s e => ∀ s' ∈ step s e, P e s') s es := by
  induction es generalizing s with
  | nil => simp [Guarded]
  | cons e es ih =>
    constructor
    · intro h
      refine ⟨fun s' hs => h [] e s' (by simp) (by simpa using hs), fun s₁ h₁ => ?_⟩
      refine (ih s₁).mp fun pre e' s' hpre hr => h (e :: pre) e' s' (by simpa using hpre) ?_
      simpa [Option.mem_def.mp h₁] using hr
    · rintro ⟨hhead, htail⟩ pre e' s' hpre hr
      cases pre with
      | nil =>
        obtain rfl : e' = e := by simpa using hpre
        exact hhead s' (by simpa using hr)
      | cons a pre =>
        rw [List.cons_append, List.cons_prefix_cons] at hpre
        obtain ⟨rfl, hpre⟩ := hpre
        obtain ⟨s₁, h₁, hr⟩ := Option.bind_eq_some_iff.mp hr
        exact (ih s₁).mpr (htail s₁ h₁) pre e' s' hpre hr

/-- A measure that never falls and grows in every unguarded step: a run in which it does not grow
meets the guard. -/
lemma guarded_of_measure {I : σ → Prop} (μ : σ → Int)
    (hstep : ∀ s e s', I s → step s e = some s' → I s')
    (hmono : ∀ s e s', I s → step s e = some s' → μ s ≤ μ s')
    (hgrow : ∀ s e s', I s → step s e = some s' → ¬G s e → μ s < μ s')
    {s s' : σ} {es : List ε} (hi : I s) (hr : run step s es = some s') (hle : μ s' ≤ μ s) :
    Guarded step G s es ∧ μ s ≤ μ s' := by
  induction es generalizing s with
  | nil =>
    cases hr
    exact ⟨trivial, Int.le_refl _⟩
  | cons e es ih =>
    obtain ⟨s₁, h₁, hr⟩ := Option.bind_eq_some_iff.mp hr
    have hfirst := hmono s e s₁ hi h₁
    obtain ⟨hguard, hrest⟩ := ih (hstep s e s₁ hi h₁) hr (Int.le_trans hle hfirst)
    refine ⟨⟨?_, fun s₂ h₂ => ?_⟩, Int.le_trans hfirst hrest⟩
    · by_contra hnot
      have := hgrow s e s₁ hi h₁ hnot
      omega
    · obtain rfl : s₁ = s₂ := Option.some.inj (h₁.symm.trans h₂)
      exact hguard

/-- Two guards that agree wherever an invariant holds. -/
lemma guarded_congr {I : σ → Prop} {H : σ → ε → Prop}
    (hstep : ∀ s e s', I s → step s e = some s' → I s')
    (hiff : ∀ s e, I s → (G s e ↔ H s e)) {s : σ} (hi : I s) (es : List ε) :
    Guarded step G s es ↔ Guarded step H s es := by
  induction es generalizing s with
  | nil => rfl
  | cons e es ih =>
    exact and_congr (hiff s e hi)
      (forall_congr' fun s' => forall_congr' fun hs => ih (hstep s e s' hi hs))

/-- Every run meets the guard that asks for nothing. -/
lemma guarded_true (s : σ) (es : List ε) : Guarded step (fun _ _ => True) s es := by
  induction es generalizing s with
  | nil => trivial
  | cons e es ih => exact ⟨trivial, fun s' _ => ih s'⟩

lemma Guarded.and {H : σ → ε → Prop} {s : σ} {es : List ε} (hg : Guarded step G s es)
    (hh : Guarded step H s es) : Guarded step (fun s e => G s e ∧ H s e) s es := by
  induction es generalizing s with
  | nil => trivial
  | cons e es ih => exact ⟨⟨hg.1, hh.1⟩, fun s' hs => ih (hg.2 s' hs) (hh.2 s' hs)⟩

/-- An invariant that every step keeps holds at the end of every run. -/
lemma run_invariant' {I : σ → Prop}
    (hstep : ∀ s e s', I s → step s e = some s' → I s')
    {s s' : σ} {es : List ε} (hi : I s) (hr : run step s es = some s') : I s' :=
  run_invariant (G := fun _ _ => True) (fun s e s' hi _ h => hstep s e s' hi h) hi
    (guarded_true s es) hr

/-- A property that a step keeps if and only if it meets the guard: it holds in all states of a run
if and only if the run meets the guard. -/
lemma forall_states_iff_guarded {I P : σ → Prop}
    (hinv : ∀ s e s', I s → step s e = some s' → I s')
    (hiff : ∀ s e s', I s → P s → step s e = some s' → (P s' ↔ G s e)) {s s' : σ} {es : List ε}
    (hi : I s) (hp : P s) (hr : run step s es = some s') :
    (∀ pre s₁, pre <+: es → run step s pre = some s₁ → P s₁) ↔ Guarded step G s es := by
  induction es generalizing s with
  | nil =>
    refine iff_of_true (fun pre s₁ hpre hs => ?_) trivial
    obtain rfl := List.prefix_nil.mp hpre
    cases hs
    exact hp
  | cons e es ih =>
    obtain ⟨s₂, h₂, hrest⟩ := Option.bind_eq_some_iff.mp hr
    constructor
    · intro hall
      have hp₂ : P s₂ := hall [e] s₂ (by simp) (by simpa using h₂)
      refine ⟨(hiff s e s₂ hi hp h₂).mp hp₂, fun s₁ h₁ => ?_⟩
      obtain rfl : s₂ = s₁ := Option.some.inj (h₂.symm.trans h₁)
      refine (ih (hinv s e s₂ hi h₂) hp₂ hrest).mp fun pre s₁ hpre hs => ?_
      refine hall (e :: pre) s₁ (List.cons_prefix_cons.mpr ⟨rfl, hpre⟩) ?_
      rw [run_cons, h₂, Option.bind_some, hs]
    · rintro ⟨hhead, htail⟩ pre s₁ hpre hs
      have hp₂ : P s₂ := (hiff s e s₂ hi hp h₂).mpr hhead
      cases pre with
      | nil =>
        cases hs
        exact hp
      | cons e' pre =>
        obtain ⟨rfl, hlater⟩ := List.cons_prefix_cons.mp hpre
        rw [run_cons, h₂, Option.bind_some] at hs
        exact (ih (hinv s e' s₂ hi h₂) hp₂ hrest).mpr (htail s₂ h₂) pre s₁ hlater hs

/-- A property that a step keeps if and only if it meets the guard, and that never comes back: it
holds at the end of a run if and only if the run meets the guard. -/
lemma run_iff_guarded {I P : σ → Prop}
    (hinv : ∀ s e s', I s → step s e = some s' → I s')
    (hiff : ∀ s e s', I s → P s → step s e = some s' → (P s' ↔ G s e))
    (hlost : ∀ s e s', I s → ¬P s → step s e = some s' → ¬P s') {s s' : σ} {es : List ε}
    (hi : I s) (hp : P s) (hr : run step s es = some s') : P s' ↔ Guarded step G s es := by
  rw [← forall_states_iff_guarded hinv hiff hi hp hr]
  constructor
  · rintro hend pre s₁ ⟨rest, rfl⟩ hs
    rw [run_append, hs, Option.bind_some] at hr
    by_contra hnot
    have hi₁ : I s₁ := run_invariant' hinv hi hs
    have hlast := run_invariant' (I := fun s => I s ∧ ¬P s)
      (fun s e s' hs h => ⟨hinv s e s' hs.1 h, hlost s e s' hs.1 hs.2 h⟩) ⟨hi₁, hnot⟩ hr
    exact hlast.2 hend
  · intro hall
    exact hall es s' List.prefix_rfl hr

/-- Steps that correspond to runs of another system give runs that correspond. -/
lemma run_rel {τ δ : Type*} {step' : τ → δ → Option τ} {R : τ → σ → Prop} {f : δ → List ε}
    (hstep : ∀ t s d, R t s → Option.Rel R (step' t d) (run step s (f d))) :
    ∀ {t : τ} {s : σ} (ds : List δ), R t s →
      Option.Rel R (run step' t ds) (run step s (ds.flatMap f))
  | _, _, [], h => .some h
  | t, s, d :: ds, h => by
    have hd := hstep t s d h
    rw [run_cons, List.flatMap_cons, run_append]
    generalize step' t d = x, run step s (f d) = y at hd ⊢
    cases hd with
    | some h' => exact run_rel hstep ds h'
    | none => exact .none

end Core
