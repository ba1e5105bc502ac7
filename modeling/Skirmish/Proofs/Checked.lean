import Skirmish.Fault

/-!
# Outcomes of checked operations

A checked operation gives a result or a fault.  The lemmas of the first section take a sequence of
operations apart, those of the second one compare two sequences, and the third section names the
promise that most operations of the index make.

## Main definitions

* `Checked.Related R x y` — `x` and `y` give results that `R` relates, or the same fault.
* `Fault.IsArithmetic` — the faults of a result outside the coordinate range.
* `Delivers atEdge post x` — `x` gives a result with `post`; only if `atEdge` it may give an
  arithmetic fault instead.

## Main results

* `Checked.bind_eq_ok_iff` — a sequence succeeds when both of its parts do.
* `Checked.of_map_eq_ok` — a result that is made into a pair.
* `Checked.foldlM_induction`, `Checked.exists_foldlM` — what every step of a fold keeps, the fold
  keeps; and if every step gives a result, the fold does.
* `Checked.foldlM_count`, `Checked.exists_foldlM_count` — the same for what is counted on the way.
* `Checked.Related.bind`, `Checked.Related.foldlM` — sequences and folds whose steps are related.
* `Delivers.bind` — promises in a row.
-/

namespace Skirmish

namespace Checked

variable {ε α β : Type}

@[simp] theorem ok_bind (a : α) (f : α → Except ε β) : (Except.ok a >>= f) = f a := rfl

@[simp] theorem error_bind (e : ε) (f : α → Except ε β) :
    ((Except.error e : Except ε α) >>= f) = .error e := rfl

@[simp] theorem map_ok (f : α → β) (a : α) : (Except.ok a : Except ε α).map f = .ok (f a) := rfl

@[simp] theorem map_error (f : α → β) (e : ε) :
    (Except.error e : Except ε α).map f = .error e := rfl

theorem bind_eq_ok_iff {x : Except ε α} {f : α → Except ε β} {b : β} :
    (x >>= f) = .ok b ↔ ∃ a, x = .ok a ∧ f a = .ok b := by
  cases x with
  | ok a => simp
  | error e => simp

theorem map_eq_ok_iff {x : Except ε α} {f : α → β} {b : β} :
    x.map f = .ok b ↔ ∃ a, x = .ok a ∧ f a = b := by
  cases x with
  | ok a => simp
  | error e => simp

/-- A result that is made into a pair gives both components. -/
theorem of_map_eq_ok {γ : Type} {x : Except ε α} {f : α → β × γ} {b : β} {c : γ}
    (h : x.map f = .ok (b, c)) : ∃ a, x = .ok a ∧ (f a).1 = b ∧ (f a).2 = c := by
  obtain ⟨a, ha, result⟩ := map_eq_ok_iff.mp h
  exact ⟨a, ha, congrArg Prod.fst result, congrArg Prod.snd result⟩

/-- What every step of a fold keeps, the fold keeps. -/
theorem foldlM_induction {f : β → α → Except ε β} {P : β → Prop}
    (step : ∀ {b a b'}, P b → f b a = .ok b' → P b') {l : List α} {b b' : β} (hb : P b)
    (h : l.foldlM f b = .ok b') : P b' := by
  induction l generalizing b with
  | nil =>
    obtain rfl := Except.ok.inj h
    exact hb
  | cons a l ih =>
    rw [List.foldlM_cons, bind_eq_ok_iff] at h
    obtain ⟨b₁, first, rest⟩ := h
    exact ih (step hb first) rest

/-- A fold whose steps give results gives a result. -/
theorem exists_foldlM {f : β → α → Except ε β} {P : β → Prop} {l : List α}
    (step : ∀ b, ∀ a ∈ l, P b → ∃ b', f b a = .ok b' ∧ P b') {b : β} (hb : P b) :
    ∃ b', l.foldlM f b = .ok b' ∧ P b' := by
  induction l generalizing b with
  | nil => exact ⟨b, rfl, hb⟩
  | cons a l ih =>
    obtain ⟨b₁, first, hb₁⟩ := step b a List.mem_cons_self hb
    obtain ⟨b', rest, hb'⟩ := ih (fun b a mem => step b a (List.mem_cons_of_mem _ mem)) hb₁
    refine ⟨b', ?_, hb'⟩
    rw [List.foldlM_cons, first, ok_bind, rest]

/-- What a step carries from one number to the next, a fold carries on by its length. -/
theorem foldlM_count {f : β → α → Except ε β} {P : Nat → β → Prop}
    (step : ∀ {n b a b'}, P n b → f b a = .ok b' → P (n + 1) b') {l : List α} {n : Nat} {b b' : β}
    (hb : P n b) (h : l.foldlM f b = .ok b') : P (n + l.length) b' := by
  induction l generalizing n b with
  | nil =>
    obtain rfl := Except.ok.inj h
    exact hb
  | cons a l ih =>
    rw [List.foldlM_cons, bind_eq_ok_iff] at h
    obtain ⟨b₁, first, rest⟩ := h
    rw [List.length_cons, Nat.add_comm l.length, ← Nat.add_assoc]
    exact ih (step hb first) rest

/-- The same for a fold whose steps give results. -/
theorem exists_foldlM_count {f : β → α → Except ε β} {P : Nat → β → Prop} {l : List α} {n : Nat}
    (step : ∀ m b, ∀ a ∈ l, m < n + l.length → P m b → ∃ b', f b a = .ok b' ∧ P (m + 1) b') {b : β}
    (hb : P n b) : ∃ b', l.foldlM f b = .ok b' ∧ P (n + l.length) b' := by
  induction l generalizing n b with
  | nil => exact ⟨b, rfl, hb⟩
  | cons a l ih =>
    have length : n + (a :: l).length = n + 1 + l.length := by
      rw [List.length_cons, Nat.add_comm l.length, ← Nat.add_assoc]
    rw [length] at step ⊢
    obtain ⟨b₁, first, hb₁⟩ := step n b a List.mem_cons_self (by omega) hb
    obtain ⟨b', rest, hb'⟩ := ih (fun m b a mem => step m b a (List.mem_cons_of_mem _ mem)) hb₁
    refine ⟨b', ?_, hb'⟩
    rw [List.foldlM_cons, first, ok_bind, rest]

/-! ### Two sequences -/

/-- Two operations give related results, or the same fault. -/
def Related {α' : Type} (R : α → α' → Prop) : Except ε α → Except ε α' → Prop
  | .ok a, .ok a' => R a a'
  | .error e, .error e' => e = e'
  | _, _ => False

namespace Related

variable {α' β' : Type} {R : α → α' → Prop} {S : β → β' → Prop} {x : Except ε α}
  {x' : Except ε α'}

theorem refl (x : Except ε α) : Related Eq x x := by
  cases x with
  | ok a => exact Eq.refl a
  | error e => exact Eq.refl e

theorem mono {R' : α → α' → Prop} (h : Related R x x') (imp : ∀ a a', R a a' → R' a a') :
    Related R' x x' := by
  cases x <;> cases x'
  case ok.ok a a' => exact imp a a' h
  all_goals exact h

/-- Results that are related have the properties that each side grants. -/
theorem and {P : α → Prop} {P' : α' → Prop} (h : Related R x x') (hx : ∀ a, x = .ok a → P a)
    (hx' : ∀ a', x' = .ok a' → P' a') : Related (fun a a' => R a a' ∧ P a ∧ P' a') x x' := by
  cases x <;> cases x'
  case ok.ok a a' => exact ⟨h, hx a rfl, hx' a' rfl⟩
  all_goals exact h

theorem bind {f : α → Except ε β} {f' : α' → Except ε β'} (h : Related R x x')
    (hf : ∀ a a', R a a' → Related S (f a) (f' a')) : Related S (x >>= f) (x' >>= f') := by
  cases x <;> cases x'
  case ok.ok a a' => exact hf a a' h
  case error.error e e' => exact h
  all_goals exact False.elim h

/-- Two sequences with the same first part. -/
theorem bind_self {f : α → Except ε β} {f' : α → Except ε β'}
    (hf : ∀ a, Related S (f a) (f' a)) : Related S (x >>= f) (x >>= f') := by
  refine (refl x).bind ?_
  intro a a' h
  rw [← h]
  exact hf a

theorem map {f : α → β} {f' : α' → β'} (h : Related R x x')
    (hf : ∀ a a', R a a' → S (f a) (f' a')) : Related S (x.map f) (x'.map f') := by
  cases x <;> cases x'
  case ok.ok a a' => exact hf a a' h
  all_goals exact h

/-- Operations with equal views have results with equal views. -/
theorem of_map_eq {f : α → β} {f' : α' → β} (h : x.map f = x'.map f') :
    Related (fun a a' => f a = f' a') x x' := by
  cases x <;> cases x'
  case ok.ok a a' => exact Except.ok.inj h
  case error.error e e' => exact Except.error.inj h
  all_goals cases h

theorem map_eq {f : α → β} {f' : α' → β} (h : Related (fun a a' => f a = f' a') x x') :
    x.map f = x'.map f' := by
  cases x <;> cases x'
  case ok.ok a a' => exact congrArg Except.ok h
  case error.error e e' => exact congrArg Except.error h
  all_goals exact h.elim

/-- Two folds over the same list whose steps are related. -/
theorem foldlM {γ : Type} {f : α → γ → Except ε α} {f' : α' → γ → Except ε α'}
    (step : ∀ a a' c, R a a' → Related R (f a c) (f' a' c)) {l : List γ} {a : α} {a' : α'}
    (h : R a a') : Related R (l.foldlM f a) (l.foldlM f' a') := by
  induction l generalizing a a' with
  | nil => exact h
  | cons c l ih =>
    rw [List.foldlM_cons, List.foldlM_cons]
    exact (step a a' c h).bind fun b b' hb => ih hb

end Related

end Checked

/-- The faults of a result outside the coordinate range. -/
def Fault.IsArithmetic (f : Fault) : Prop := f = .addition ∨ f = .subtraction

/-- The promise that an operation gives a result with a property; only at the edge it may give an
arithmetic fault instead. -/
def Delivers {α : Type} (atEdge : Prop) (post : α → Prop) : Except Fault α → Prop
  | .ok a => post a
  | .error f => atEdge ∧ f.IsArithmetic

namespace Delivers

variable {α β : Type} {atEdge : Prop} {post : α → Prop} {post' : β → Prop}

theorem of_eq_ok {x : Except Fault α} (h : Delivers atEdge post x) {a : α} (eq : x = .ok a) :
    post a := by
  rw [eq] at h
  exact h

theorem bind {x : Except Fault α} {f : α → Except Fault β} (hx : Delivers atEdge post x)
    (hf : ∀ a, post a → Delivers atEdge post' (f a)) : Delivers atEdge post' (x >>= f) := by
  cases x with
  | ok a => exact hf a hx
  | error fault => exact hx

theorem map {x : Except Fault α} {f : α → β} (hx : Delivers atEdge post x)
    (hf : ∀ a, post a → post' (f a)) : Delivers atEdge post' (x.map f) := by
  cases x with
  | ok a => exact hf a hx
  | error fault => exact hx

theorem mono {post₁ : α → Prop} {x : Except Fault α} (hx : Delivers atEdge post x)
    (h : ∀ a, post a → post₁ a) : Delivers atEdge post₁ x := by
  cases x with
  | ok a => exact h a hx
  | error fault => exact hx

theorem weaken {atEdge' : Prop} {x : Except Fault α} (hx : Delivers atEdge post x)
    (h : atEdge → atEdge') : Delivers atEdge' post x := by
  cases x with
  | ok a => exact hx
  | error fault => exact ⟨h hx.1, hx.2⟩

/-- Away from the edge there is a result. -/
theorem exists_ok {x : Except Fault α} (hx : Delivers atEdge post x) (h : ¬ atEdge) :
    ∃ a, x = .ok a ∧ post a := by
  cases x with
  | ok a => exact ⟨a, rfl, hx⟩
  | error fault => exact absurd hx.1 h

end Delivers

end Skirmish
