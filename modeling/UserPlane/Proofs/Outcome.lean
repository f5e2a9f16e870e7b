/-! # Outcomes

The translations are chains of steps that each give a value or say why there is none. The lemmas
here take such a chain apart: it gives a value exactly if every step does, with the value of each
step going into the next; and if no step fails in a certain way, the chain does not either
(`FailsOnly`). -/

namespace UserPlane

variable {ε ε' α β : Type}

/-- A chain of two steps gives a value exactly if both steps do. -/
theorem bind_eq_ok_iff {x : Except ε α} {f : α → Except ε β} {b : β} :
    x >>= f = .ok b ↔ ∃ a, x = .ok a ∧ f a = .ok b := by
  cases x with
  | error e =>
    constructor
    · intro h
      cases h
    · rintro ⟨a, ha, -⟩
      cases ha
  | ok a =>
    constructor
    · intro h
      exact ⟨a, rfl, h⟩
    · rintro ⟨a', ha, hf⟩
      cases ha
      exact hf

/-- A renaming of the value leaves alone whether there is one. -/
theorem map_eq_ok_iff {x : Except ε α} {f : α → β} {b : β} :
    f <$> x = .ok b ↔ ∃ a, x = .ok a ∧ f a = b := by
  cases x with
  | error e => simp [Functor.map, Except.map]
  | ok a => simp [Functor.map, Except.map]

/-- If different values get different names, the value is known from its name. -/
theorem map_eq_ok_iff_of_injective {x : Except ε α} {f : α → β}
    (hf : ∀ ⦃a a'⦄, f a = f a' → a = a') {a : α} : f <$> x = .ok (f a) ↔ x = .ok a := by
  rw [map_eq_ok_iff]
  constructor
  · rintro ⟨a', hx, ha⟩
    rw [hx, hf ha]
  · intro hx
    exact ⟨a, hx, rfl⟩

/-- A renaming of the failure leaves the value alone. -/
theorem mapError_eq_ok_iff {x : Except ε α} {f : ε → ε'} {a : α} :
    x.mapError f = .ok a ↔ x = .ok a := by
  cases x with
  | error e =>
    constructor
    · intro h
      cases h
    · intro h
      cases h
  | ok a' =>
    constructor
    · intro h
      exact congrArg Except.ok (Except.ok.inj h)
    · intro h
      cases h
      rfl

/-- A renaming of the failure of a chain renames those of its steps. -/
theorem mapError_bind (x : Except ε α) (f : α → Except ε β) (g : ε → ε') :
    (x >>= f).mapError g = x.mapError g >>= fun a => (f a).mapError g := by
  cases x with
  | error e => rfl
  | ok a => rfl

/-- A step that only gives a value gives no other. -/
theorem pure_eq_ok_iff {a b : α} : (pure a : Except ε α) = .ok b ↔ b = a := by
  constructor
  · intro h
    exact (Except.ok.inj h).symm
  · rintro rfl
    rfl

/-! ## Failures -/

/-- Why a step fails, if it does. -/
def failure? : Except ε α → Option ε
  | .ok _ => none
  | .error e => some e

/-- Whatever a step fails with is of some sort. -/
def FailsOnly (P : ε → Prop) (x : Except ε α) : Prop := ∀ e, x = .error e → P e

namespace FailsOnly

variable {P Q : ε → Prop} {x : Except ε α}

/-- A step that gives a value does not fail. -/
theorem ok (a : α) : FailsOnly P (.ok a : Except ε α) := nofun

/-- A step that fails does so in one way. -/
theorem error {e : ε} (he : P e) : FailsOnly P (.error e : Except ε α) := by
  rintro _ ⟨⟩
  exact he

/-- A sort that takes in another one takes in its failures. -/
theorem imp (h : FailsOnly P x) (hPQ : ∀ e, P e → Q e) : FailsOnly Q x :=
  fun e he => hPQ e (h e he)

/-- A chain of two steps fails as one of them does. -/
theorem bind {f : α → Except ε β} (hx : FailsOnly P x) (hf : ∀ a, FailsOnly P (f a)) :
    FailsOnly P (x >>= f) := by
  cases x with
  | ok a => exact hf a
  | error e => exact error (hx e rfl)

/-- A renaming of the value leaves the failures alone. -/
theorem map (hx : FailsOnly P x) (f : α → β) : FailsOnly P (f <$> x) := by
  cases x with
  | ok a => exact ok (f a)
  | error e => exact error (hx e rfl)

/-- A renaming of the failure fails with the new names only. -/
theorem mapError {x : Except ε' α} {f : ε' → ε} (hf : ∀ e, P (f e)) :
    FailsOnly P (x.mapError f) := by
  cases x with
  | ok a => exact ok a
  | error e => exact error (hf e)

end FailsOnly

end UserPlane
