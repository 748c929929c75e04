set_option autoImplicit false

namespace LintServer

variable {ε α β σ : Type}

theorem ok_of_bind_eq_ok {x : Except ε α} {f : α → Except ε β} {b : β}
    (done : x >>= f = .ok b) : ∃ a, x = .ok a ∧ f a = .ok b := by
  cases x with
  | error e => cases done
  | ok a => exact ⟨a, rfl, done⟩

theorem of_bind_eq_error {x : Except ε α} {f : α → Except ε β} {P : ε → Prop}
    (first : ∀ e, x = .error e → P e) (later : ∀ a e, f a = .error e → P e) {e : ε}
    (failed : x >>= f = .error e) : P e := by
  cases x with
  | error _ =>
    obtain rfl := Except.error.inj failed
    exact first _ rfl
  | ok a => exact later a e failed

theorem of_pure_eq_error {P : Prop} {a : α} {e : ε} (failed : (pure a : Except ε α) = .error e) :
    P := by
  cases failed

theorem mapM_eq_ok_iff {f : α → Except ε β} {g : α → β} (only : ∀ a b, f a = .ok b → b = g a)
    (items : List α) (out : List β) :
    items.mapM f = .ok out ↔ out = items.map g ∧ ∀ a ∈ items, f a = .ok (g a) := by
  induction items generalizing out with
  | nil => simp [pure, Except.pure, eq_comm]
  | cons a items ih =>
    rw [List.mapM_cons]
    constructor
    · intro done
      obtain ⟨b, here, done⟩ := ok_of_bind_eq_ok done
      obtain ⟨rest, later, done⟩ := ok_of_bind_eq_ok done
      obtain rfl := Except.ok.inj done
      obtain rfl := only a b here
      obtain ⟨rfl, each⟩ := (ih rest).mp later
      exact ⟨rfl, List.forall_mem_cons.mpr ⟨here, each⟩⟩
    · rintro ⟨rfl, each⟩
      obtain ⟨here, each⟩ := List.forall_mem_cons.mp each
      rw [here, (ih _).mpr ⟨rfl, each⟩]
      rfl

theorem mapM_eq_error {f : α → Except ε β} {P : ε → Prop} (step : ∀ a e, f a = .error e → P e)
    {items : List α} {e : ε} (failed : items.mapM f = .error e) : P e := by
  induction items generalizing e with
  | nil => cases failed
  | cons a items ih =>
    rw [List.mapM_cons] at failed
    exact of_bind_eq_error (step a)
      (fun b e => of_bind_eq_error (fun e => ih) fun _ _ => of_pure_eq_error) failed

theorem foldlM_preserves {read : α → σ → Except ε α} {P : α → Prop}
    (step : ∀ old item new, read old item = .ok new → P old → P new)
    {items : List σ} {old new : α} (done : items.foldlM read old = .ok new) (start : P old) : P new := by
  induction items generalizing old with
  | nil =>
    obtain rfl := Except.ok.inj done
    exact start
  | cons item items ih =>
    rw [List.foldlM_cons] at done
    obtain ⟨next, first, later⟩ := ok_of_bind_eq_ok done
    exact ih later (step old item next first start)

theorem foldlM_project {read : α → σ → Except ε α} (readPart : β → σ → Except ε β) (get : α → β)
    (step : ∀ old item new, read old item = .ok new → readPart (get old) item = .ok (get new))
    {items : List σ} {old new : α} (done : items.foldlM read old = .ok new) :
    items.foldlM readPart (get old) = .ok (get new) := by
  induction items generalizing old with
  | nil =>
    obtain rfl := Except.ok.inj done
    rfl
  | cons item items ih =>
    rw [List.foldlM_cons] at done
    obtain ⟨next, first, later⟩ := ok_of_bind_eq_ok done
    rw [List.foldlM_cons, step old item next first]
    exact ih later

theorem foldlM_flatMap (readPart : β → σ → Except ε β) (give : α → List σ) (items : List α) (old : β) :
    (items.flatMap give).foldlM readPart old =
      items.foldlM (fun old item => (give item).foldlM readPart old) old := by
  induction items generalizing old with
  | nil => rfl
  | cons item items ih =>
    rw [List.flatMap_cons, List.foldlM_append, List.foldlM_cons]
    simp only [ih]

theorem foldlM_succeeds {read : α → σ → Except ε α}
    (step : ∀ old other item new, read old item = .ok new → ∃ next, read other item = .ok next)
    {items : List σ} {old new : α} (done : items.foldlM read old = .ok new) (other : α) :
    ∃ last, items.foldlM read other = .ok last := by
  induction items generalizing old other with
  | nil => exact ⟨other, rfl⟩
  | cons item items ih =>
    rw [List.foldlM_cons] at done
    obtain ⟨reached, first, later⟩ := ok_of_bind_eq_ok done
    obtain ⟨next, here⟩ := step old other item reached first
    rw [List.foldlM_cons, here]
    exact ih later next

theorem foldlM_last {read : α → σ → Except ε α} {items : List σ} {item : σ} {old new : α}
    (done : items.foldlM read old = .ok new) (last : items.getLast? = some item) :
    ∃ before, read before item = .ok new := by
  obtain ⟨earlier, rfl⟩ := List.getLast?_eq_some_iff.mp last
  rw [List.foldlM_append] at done
  obtain ⟨before, -, done⟩ := ok_of_bind_eq_ok done
  rw [List.foldlM_cons] at done
  obtain ⟨after, step, done⟩ := ok_of_bind_eq_ok done
  obtain rfl := Except.ok.inj done
  exact ⟨before, step⟩

end LintServer
