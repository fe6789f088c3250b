import Mathlib.Data.List.Forall2

/-!
# Results that may be faults

What is known of the stages of a computation from what it comes to as a whole, and of the whole from
its stages: which results it yields (`Yields`), which faults it has (`Faults`), or both (`Ends`).
-/

namespace BuildSpec

variable {ε δ α β σ : Type}

theorem ok_bind (a : α) (f : α → Except ε β) : .ok a >>= f = f a := rfl

/-- Where only one side of a result counts, the same is made of two results that are the same on
this side. -/
theorem bind_congr_of_map {γ : Type} {x y : Except ε α} {g : α → β} {f f' : α → Except ε γ}
    (h : g <$> x = g <$> y) (hf : ∀ a b, g a = g b → f a = f' b) : x >>= f = y >>= f' := by
  cases x with
  | error e =>
      cases y with
      | error e' =>
          cases h
          rfl
      | ok b => cases h
  | ok a =>
      cases y with
      | error e' => cases h
      | ok b => exact hf a b (Except.ok.inj h)

theorem bind_eq_ok_iff {x : Except ε α} {f : α → Except ε β} {b : β} :
    x >>= f = .ok b ↔ ∃ a, x = .ok a ∧ f a = .ok b := by
  cases x <;> simp [bind, Except.bind]

theorem bind_eq_error_iff {x : Except ε α} {f : α → Except ε β} {e : ε} :
    x >>= f = .error e ↔ x = .error e ∨ ∃ a, x = .ok a ∧ f a = .error e := by
  cases x <;> simp [bind, Except.bind]

theorem bind_eq_error {x : Except ε α} {f : α → Except ε β} {e : ε} (h : x >>= f = .error e) :
    x = .error e ∨ ∃ a, x = .ok a ∧ f a = .error e :=
  bind_eq_error_iff.mp h

theorem map_eq_ok_iff {x : Except ε α} {f : α → β} {b : β} :
    f <$> x = .ok b ↔ ∃ a, x = .ok a ∧ f a = b := by
  cases x <;> simp [Functor.map, Except.map]

theorem mapError_eq_error_iff {x : Except δ α} {f : δ → ε} {e : ε} :
    x.mapError f = .error e ↔ ∃ cause, x = .error cause ∧ f cause = e := by
  cases x <;> simp [Except.mapError]

theorem mapError_eq_error {x : Except δ α} {f : δ → ε} {e : ε} (h : x.mapError f = .error e) :
    ∃ cause, f cause = e := by
  obtain ⟨cause, -, hcause⟩ := mapError_eq_error_iff.mp h
  exact ⟨cause, hcause⟩

theorem mapError_eq_ok_iff {x : Except δ α} {f : δ → ε} {a : α} :
    x.mapError f = .ok a ↔ x = .ok a := by
  cases x with
  | error cause => constructor <;> intro h <;> cases h
  | ok b => constructor <;> (intro h; cases h; rfl)

theorem toOption_eq_some_iff {x : Except ε α} {a : α} : x.toOption = some a ↔ x = .ok a := by
  cases x with
  | error e => constructor <;> intro h <;> cases h
  | ok b => constructor <;> (intro h; cases h; rfl)

/-- The results are what the things come to one by one. -/
theorem forall₂_of_mapM_eq_ok {f : α → Except ε β} {l : List α} {bs : List β}
    (h : l.mapM f = .ok bs) : List.Forall₂ (fun a b => f a = .ok b) l bs := by
  induction l generalizing bs with
  | nil =>
      cases h
      exact .nil
  | cons a rest ih =>
      rw [List.mapM_cons] at h
      obtain ⟨first, hfirst, h⟩ := bind_eq_ok_iff.mp h
      obtain ⟨others, hothers, h⟩ := bind_eq_ok_iff.mp h
      cases h
      exact .cons hfirst (ih hothers)

/-- Each of some results comes of one of the things that were gone through. -/
theorem exists_of_mem_mapM {f : α → Except ε β} {l : List α} {bs : List β}
    (h : l.mapM f = .ok bs) {b : β} (hb : b ∈ bs) : ∃ a ∈ l, f a = .ok b := by
  have hall := forall₂_of_mapM_eq_ok h
  clear h
  induction hall with
  | nil => cases hb
  | @cons a first rest others hfirst _ ih =>
      rcases List.mem_cons.mp hb with rfl | hb
      · exact ⟨a, List.mem_cons_self, hfirst⟩
      · obtain ⟨a', ha', hf⟩ := ih hb
        exact ⟨a', List.mem_cons_of_mem _ ha', hf⟩

/-- What is gone through without a fault comes to something at each of the things. -/
theorem exists_of_mapM_eq_ok {f : α → Except ε β} {l : List α} {bs : List β}
    (h : l.mapM f = .ok bs) {a : α} (ha : a ∈ l) : ∃ b ∈ bs, f a = .ok b := by
  have hall := forall₂_of_mapM_eq_ok h
  clear h
  induction hall with
  | nil => cases ha
  | @cons a' first rest others hfirst _ ih =>
      rcases List.mem_cons.mp ha with rfl | ha
      · exact ⟨first, List.mem_cons_self, hfirst⟩
      · obtain ⟨b, hb, hf⟩ := ih ha
        exact ⟨b, List.mem_cons_of_mem _ hb, hf⟩

/-- Steps one after another keep what each of them keeps. -/
theorem foldlM_keeps {P : σ → Prop} {f : σ → α → Except ε σ} {l : List α}
    (h : ∀ a ∈ l, ∀ s s', P s → f s a = .ok s' → P s') {s s' : σ} (hs : P s)
    (hrun : l.foldlM f s = .ok s') : P s' := by
  induction l generalizing s with
  | nil =>
      cases hrun
      exact hs
  | cons a rest ih =>
      rw [List.foldlM_cons] at hrun
      obtain ⟨next, hstep, hrun⟩ := bind_eq_ok_iff.mp hrun
      exact ih (fun b hb => h b (List.mem_cons_of_mem _ hb))
        (h a List.mem_cons_self s next hs hstep) hrun

/-- Whatever a computation comes to, if it is no fault, has a property. -/
def Yields (P : β → Prop) (x : Except ε β) : Prop := ∀ b, x = .ok b → P b

namespace Yields

variable {P : β → Prop}

theorem fault (e : ε) : Yields P (.error e : Except ε β) := nofun

theorem pure {b : β} (h : P b) : Yields P (Pure.pure b : Except ε β) := by
  intro b' hb
  cases hb
  exact h

theorem bind {x : Except ε α} {f : α → Except ε β} (h : ∀ a, Yields P (f a)) :
    Yields P (x >>= f) := by
  intro b hb
  obtain ⟨a, -, hf⟩ := bind_eq_ok_iff.mp hb
  exact h a b hf

end Yields

/-- Whatever fault a computation comes to, if it comes to one, has a property. -/
def Faults (P : ε → Prop) (x : Except ε α) : Prop := ∀ e, x = .error e → P e

namespace Faults

variable {P : ε → Prop}

theorem ok (a : α) : Faults P (.ok a : Except ε α) := nofun

theorem error {e : ε} (h : P e) : Faults P (.error e : Except ε α) := by
  intro e' he
  cases he
  exact h

/-- Stages one after another. -/
theorem bind {x : Except ε α} {f : α → Except ε β} (hx : Faults P x)
    (hf : ∀ a, x = .ok a → Faults P (f a)) : Faults P (x >>= f) := by
  intro e he
  rcases bind_eq_error he with hfault | ⟨a, ha, hfault⟩
  · exact hx e hfault
  · exact hf a ha e hfault

theorem ite {c : Prop} [Decidable c] {x y : Except ε α} (hx : Faults P x) (hy : Faults P y) :
    Faults P (if c then x else y) := by
  split
  · exact hx
  · exact hy

/-- A stage that has two forms, with the same stage after either. -/
theorem bind_ite {c : Prop} [Decidable c] {x y : Except ε α} {f : α → Except ε β}
    (h : Faults P (if c then x else y)) (hf : ∀ a, Faults P (f a)) :
    Faults P (if c then x >>= f else y >>= f) := by
  split
  · next hc =>
      rw [if_pos hc] at h
      exact h.bind fun a _ => hf a
  · next hc =>
      rw [if_neg hc] at h
      exact h.bind fun a _ => hf a

theorem map {x : Except ε α} (f : α → β) (hx : Faults P x) : Faults P (f <$> x) := by
  cases x with
  | error e => exact error (hx e rfl)
  | ok a => exact ok (f a)

/-- A stage for each of several things. -/
theorem mapM {f : α → Except ε β} {l : List α} (h : ∀ a ∈ l, Faults P (f a)) :
    Faults P (l.mapM f) := by
  induction l with
  | nil => exact ok []
  | cons a rest ih =>
      rw [List.mapM_cons]
      refine (h a List.mem_cons_self).bind fun b _ => ?_
      refine (ih fun other hother => h other (List.mem_cons_of_mem _ hother)).bind fun bs _ => ?_
      exact ok (b :: bs)

end Faults

/-- Whatever a computation comes to has a property: one of faults, or one of results. -/
def Ends (P : ε → Prop) (Q : α → Prop) : Except ε α → Prop
  | .error e => P e
  | .ok a => Q a

namespace Ends

variable {P : ε → Prop} {Q : α → Prop} {x : Except ε α}

theorem faults (h : Ends P Q x) : Faults P x := by
  rintro e rfl
  exact h

theorem yields (h : Ends P Q x) : Yields Q x := by
  rintro a rfl
  exact h

theorem mono {P' : ε → Prop} {Q' : α → Prop} (hP : ∀ e, P e → P' e) (hQ : ∀ a, Q a → Q' a)
    (h : Ends P Q x) : Ends P' Q' x := by
  cases x with
  | error e => exact hP e h
  | ok a => exact hQ a h

theorem bind {R : β → Prop} {f : α → Except ε β} (hx : Ends P Q x)
    (hf : ∀ a, Q a → Ends P R (f a)) : Ends P R (x >>= f) := by
  cases x with
  | error e => exact hx
  | ok a => exact hf a hx

theorem ite {c : Prop} [Decidable c] {y : Except ε α} (hx : Ends P Q x) (hy : Ends P Q y) :
    Ends P Q (if c then x else y) := by
  split
  · exact hx
  · exact hy

/-- Steps one after another, each of which keeps a property. -/
theorem foldlM {f : σ → α → Except ε σ} {Q : σ → Prop} {l : List α}
    (h : ∀ a ∈ l, ∀ s, Q s → Ends P Q (f s a)) {s : σ} (hs : Q s) : Ends P Q (l.foldlM f s) := by
  induction l generalizing s with
  | nil => exact hs
  | cons a rest ih =>
      rw [List.foldlM_cons]
      refine (h a List.mem_cons_self s hs).bind fun s' hs' => ?_
      exact ih (fun other hother => h other (List.mem_cons_of_mem a hother)) hs'

end Ends

theorem Faults.ends {P : ε → Prop} {x : Except ε α} (h : Faults P x) :
    Ends P (fun _ => True) x := by
  cases x with
  | error e => exact h e rfl
  | ok a => exact trivial

/-- What is found by running a computation is what it comes to. -/
theorem exists_of_any {ε α : Type} {e : Except ε (Option α)} {p : α → Bool}
    (h : (e.toOption.getD none).any p = true) : ∃ a, e = .ok (some a) ∧ p a = true := by
  cases e with
  | error fault => cases h
  | ok found =>
      cases found with
      | none => cases h
      | some a => exact ⟨a, rfl, h⟩

end BuildSpec
