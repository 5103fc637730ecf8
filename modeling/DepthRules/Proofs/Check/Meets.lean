import DepthRules.Proofs.Check.Ensures

/-!
# What a computation meets

`Meets x P Q` says of a computation that an error with which it fails has the property `P`, and a
value with which it succeeds the property `Q`. `Holds I P x` says of a computation on a state that
from a state with the property `I` it fails only with `P`, and else comes to a state with `I` again;
`Yields I x Q` that it succeeds only with a value that has the property `Q`, in a state with `I`
again. All of them are kept by computations in a row, so that they are proved of a computation step
by step.
-/

namespace DepthRules

variable {ε ε' α β σ : Type}

/-- An error has one property, a value the other. -/
def Meets (x : Except ε α) (P : ε → Prop) (Q : α → Prop) : Prop :=
  match x with
  | .error e => P e
  | .ok a => Q a

namespace Meets

variable {P : ε → Prop} {Q R : α → Prop} {S : β → Prop}

theorem ok {a : α} (h : Q a) : Meets (.ok a : Except ε α) P Q := h

theorem error {e : ε} (h : P e) : Meets (.error e : Except ε α) P Q := h

theorem of_error {x : Except ε α} (h : Meets x P Q) {e : ε} (he : x = .error e) : P e := by
  rw [he] at h
  exact h

theorem of_ok {x : Except ε α} (h : Meets x P Q) {a : α} (ha : x = .ok a) : Q a := by
  rw [ha] at h
  exact h

theorem mono {x : Except ε α} {P' : ε → Prop} (h : Meets x P Q) (hP : ∀ e, P e → P' e)
    (hQ : ∀ a, Q a → R a) : Meets x P' R := by
  cases x with
  | error e => exact hP e h
  | ok a => exact hQ a h

theorem bind {x : Except ε α} {f : α → Except ε β} (hx : Meets x P Q)
    (hf : ∀ a, Q a → Meets (f a) P S) : Meets (x >>= f) P S := by
  cases x with
  | error e => exact hx
  | ok a => exact hf a hx

theorem map {x : Except ε α} {f : α → β} (hx : Meets x P Q) (hf : ∀ a, Q a → S (f a)) :
    Meets (x.map f) P S := by
  cases x with
  | error e => exact hx
  | ok a => exact hf a hx

/-- A condition under which a computation breaks off. -/
theorem guard {c : Prop} [Decidable c] {e : ε} {x : Except ε α} (he : c → P e)
    (hx : ¬ c → Meets x P Q) : Meets (if c then .error e else x) P Q := by
  split
  · exact he ‹c›
  · exact hx ‹¬ c›

theorem ite {c : Prop} [Decidable c] {x y : Except ε α} (hx : c → Meets x P Q)
    (hy : ¬ c → Meets y P Q) : Meets (if c then x else y) P Q := by
  split
  · exact hx ‹c›
  · exact hy ‹¬ c›

/-- Of a list each item of which is dealt with in turn. -/
theorem foldlM {f : β → α → Except ε β} (hf : ∀ b a, S b → Meets (f b a) P S) (items : List α)
    {b : β} (hb : S b) : Meets (items.foldlM f b) P S := by
  induction items generalizing b with
  | nil => exact hb
  | cons a rest ih =>
      rw [List.foldlM_cons]
      exact (hf b a hb).bind fun next hnext => ih hnext

theorem mapM {f : α → Except ε β} (hf : ∀ a, Meets (f a) P fun _ => True) (items : List α) :
    Meets (items.mapM f) P fun _ => True := by
  induction items with
  | nil => exact trivial
  | cons a rest ih =>
      rw [List.mapM_cons]
      exact (hf a).bind fun b _ => ih.bind fun bs _ => trivial

end Meets

/-- From a state with the property `I` a computation fails only with `P` and keeps `I`. -/
def Holds (I : σ → Prop) (P : ε → Prop) (x : StateT σ (Except ε) α) : Prop :=
  ∀ s, I s → Meets (x s) P fun r => I r.2

namespace Holds

variable {I : σ → Prop} {P : ε → Prop}

theorem pure (a : α) : Holds I P (Pure.pure a : StateT σ (Except ε) α) := fun _ hs => hs

theorem throw {e : ε} (h : P e) : Holds I P (throw e : StateT σ (Except ε) α) := fun _ _ => h

theorem get : Holds I P (get : StateT σ (Except ε) σ) := fun _ hs => hs

theorem set {s : σ} (h : I s) : Holds I P (set s : StateT σ (Except ε) PUnit) := fun _ _ => h

theorem modify {f : σ → σ} (h : ∀ s, I s → I (f s)) :
    Holds I P (modify f : StateT σ (Except ε) PUnit) := fun s hs => h s hs

/-- Of a computation that does not look at the state. -/
theorem lift {x : Except ε α} {Q : α → Prop} (h : Meets x P Q) :
    Holds I P (liftM x : StateT σ (Except ε) α) := fun _ hs => h.bind fun _ _ => hs

theorem bind {x : StateT σ (Except ε) α} {f : α → StateT σ (Except ε) β} (hx : Holds I P x)
    (hf : ∀ a, Holds I P (f a)) : Holds I P (x >>= f) := fun s hs =>
  (hx s hs).bind fun r hr => hf r.1 r.2 hr

/-- Of a computation that goes on by the state it starts from. -/
theorem ofState {f : σ → StateT σ (Except ε) α} (hf : ∀ s, I s → Holds I P (f s)) :
    Holds I P (MonadState.get >>= f) := fun s hs => hf s hs s hs

theorem ite {c : Prop} [Decidable c] {x y : StateT σ (Except ε) α} (hx : Holds I P x)
    (hy : Holds I P y) : Holds I P (if c then x else y) := by
  split
  · exact hx
  · exact hy

end Holds

/-- From a state with the property `I` a computation that succeeds has a value with the property `Q`
and comes to a state with `I` again. -/
def Yields (I : σ → Prop) (x : StateT σ (Except ε) α) (Q : α → Prop) : Prop :=
  ∀ s, I s → Ensures (x s) fun r => Q r.1 ∧ I r.2

/-- From a state with the property `I` a computation that succeeds comes to one again. -/
abbrev Keeps (I : σ → Prop) (x : StateT σ (Except ε) α) : Prop := Yields I x fun _ => True

namespace Yields

variable {I : σ → Prop} {x : StateT σ (Except ε) α} {f : α → StateT σ (Except ε) β} {P : α → Prop}
  {Q : β → Prop}

theorem pure {a : α} (h : P a) : Yields I (Pure.pure a : StateT σ (Except ε) α) P := by
  intro s hs
  exact .ok ⟨h, hs⟩

theorem throw (e : ε) : Yields I (throw e : StateT σ (Except ε) α) P := by
  intro s _
  exact .error e

theorem get : Keeps I (MonadState.get : StateT σ (Except ε) σ) := by
  intro s hs
  exact .ok ⟨trivial, hs⟩

theorem set {s : σ} (h : I s) : Keeps I (MonadState.set s : StateT σ (Except ε) PUnit) := by
  intro _ _
  exact .ok ⟨trivial, h⟩

theorem modify {g : σ → σ} (h : ∀ s, I s → I (g s)) :
    Keeps I (modify g : StateT σ (Except ε) PUnit) := by
  intro s hs
  exact .ok ⟨trivial, h s hs⟩

/-- Of a computation that does not look at the state. -/
theorem lift {c : Except ε α} (h : Ensures c P) :
    Yields I (liftM c : StateT σ (Except ε) α) P := by
  intro s hs
  exact h.bind fun a ha => .ok ⟨ha, hs⟩

theorem mono {R : α → Prop} (h : Yields I x P) (hPR : ∀ a, P a → R a) : Yields I x R := by
  intro s hs
  exact (h s hs).mono fun r hr => ⟨hPR r.1 hr.1, hr.2⟩

theorem bind (hx : Yields I x P) (hf : ∀ a, P a → Yields I (f a) Q) : Yields I (x >>= f) Q := by
  intro s hs
  exact (hx s hs).bind fun r hr => hf r.1 hr.1 r.2 hr.2

end Yields

/-- Of a computation that goes on by a value of which nothing is known. -/
theorem Keeps.bind {I : σ → Prop} {x : StateT σ (Except ε) α} {f : α → StateT σ (Except ε) β}
    {Q : β → Prop} (hx : Keeps I x) (hf : ∀ a, Yields I (f a) Q) : Yields I (x >>= f) Q :=
  Yields.bind hx fun a _ => hf a

namespace Yields

variable {I : σ → Prop} {x y : StateT σ (Except ε) α} {f : α → StateT σ (Except ε) β}
  {P : α → Prop} {Q : β → Prop}

/-- Of a computation that goes on by the state it starts from. -/
theorem ofState {f : σ → StateT σ (Except ε) β} (hf : ∀ s, I s → Yields I (f s) Q) :
    Yields I (MonadState.get >>= f) Q := by
  intro s hs
  exact hf s hs s hs

theorem ite {c : Prop} [Decidable c] (hx : Yields I x P) (hy : Yields I y P) :
    Yields I (if c then x else y) P := by
  split
  · exact hx
  · exact hy

/-- A step that is made where a condition holds, before others. -/
theorem afterIf {c : Prop} [Decidable c] {step : StateT σ (Except ε) PUnit}
    (hstep : Keeps I step) (hx : Yields I x P) :
    Yields I (if c then step >>= fun _ => x else x) P := .ite (hstep.bind fun _ => hx) hx

/-- A step that is made where a condition does not hold, before others. -/
theorem afterUnless {c : Prop} [Decidable c] {step : StateT σ (Except ε) PUnit}
    (hstep : Keeps I step) (hx : Yields I x P) :
    Yields I (if c then x else step >>= fun _ => x) P := .ite hx (hstep.bind fun _ => hx)

theorem mapM {items : List α} (hf : ∀ a ∈ items, Yields I (f a) Q) :
    Yields I (items.mapM f) fun bs => ∀ b ∈ bs, Q b := by
  induction items with
  | nil => exact .pure fun b hb => absurd hb List.not_mem_nil
  | cons a rest ih =>
      rw [List.mapM_cons]
      refine (hf a List.mem_cons_self).bind fun b hb => ?_
      refine (ih fun a ha => hf a (List.mem_cons_of_mem _ ha)).bind fun bs hbs => .pure ?_
      exact List.forall_mem_cons.2 ⟨hb, hbs⟩

theorem forM {f : α → StateT σ (Except ε) PUnit} (hf : ∀ a, Keeps I (f a)) (items : List α) :
    Keeps I (items.forM f) := by
  induction items with
  | nil => exact .pure trivial
  | cons a rest ih => exact (hf a).bind fun _ => ih

end Yields

end DepthRules
