import BadgeLink.Error

/-!
# Outcomes of fallible steps

A chain of fallible steps succeeds exactly when every step does, and fails with the fault of the first
step that does not.  The lemmas take such a chain apart, also where its steps have a state.  A chain
whose steps only ever refuse arguments is itself one that only refuses arguments.
-/

namespace Except

variable {ε α β : Type} {x : Except ε α} {p : Prop} [Decidable p]

@[simp]
theorem ok_bind (a : α) (f : α → Except ε β) : (.ok a : Except ε α) >>= f = f a :=
  rfl

@[simp]
theorem error_bind (e : ε) (f : α → Except ε β) : (.error e : Except ε α) >>= f = .error e :=
  rfl

@[simp]
theorem ok_map (f : α → β) (a : α) : (.ok a : Except ε α).map f = .ok (f a) :=
  rfl

@[simp]
theorem error_map (f : α → β) (e : ε) : (.error e : Except ε α).map f = .error e :=
  rfl

@[simp]
theorem pure_eq_ok (a : α) : (pure a : Except ε α) = .ok a :=
  rfl

theorem map_eq_ok_iff {f : α → β} {b : β} : x.map f = .ok b ↔ ∃ a, x = .ok a ∧ f a = b := by
  cases x with
  | error e => simp
  | ok a => simp

theorem map_eq_error_iff {f : α → β} {e : ε} : x.map f = .error e ↔ x = .error e := by
  cases x with
  | error e => simp
  | ok a => simp

theorem mapError_eq_ok_iff {ε' : Type} {f : ε → ε'} {a : α} :
    x.mapError f = .ok a ↔ x = .ok a := by
  cases x with
  | error e => exact iff_of_false nofun nofun
  | ok value => exact ⟨fun h => by cases h; rfl, fun h => by cases h; rfl⟩

theorem mapError_eq_error_iff {ε' : Type} {f : ε → ε'} {e : ε'} :
    x.mapError f = .error e ↔ ∃ cause, x = .error cause ∧ f cause = e := by
  cases x with
  | error cause =>
      constructor
      · intro h
        cases h
        exact ⟨cause, rfl, rfl⟩
      · rintro ⟨_, ⟨⟩, rfl⟩
        rfl
  | ok a => exact iff_of_false nofun nofun

theorem toOption_eq_some_iff {a : α} : x.toOption = some a ↔ x = .ok a := by
  cases x with
  | error e => simp [Except.toOption]
  | ok a => simp [Except.toOption]

theorem exists_eq_ok_iff : (∃ a, x = .ok a) ↔ ∀ e, x ≠ .error e := by
  cases x with
  | error e => simp
  | ok a => simp

theorem bind_eq_ok_iff {f : α → Except ε β} {b : β} :
    x >>= f = .ok b ↔ ∃ a, x = .ok a ∧ f a = .ok b := by
  cases x with
  | error e => simp
  | ok a => simp

theorem bind_eq_error_iff {f : α → Except ε β} {e : ε} :
    x >>= f = .error e ↔ x = .error e ∨ ∃ a, x = .ok a ∧ f a = .error e := by
  cases x with
  | error e => simp
  | ok a => simp

theorem mapM_cons_eq_ok_iff {f : α → Except ε β} {a : α} {rest : List α} {bs : List β} :
    (a :: rest).mapM f = .ok bs ↔
      ∃ b others, f a = .ok b ∧ rest.mapM f = .ok others ∧ bs = b :: others := by
  rw [List.mapM_cons, bind_eq_ok_iff]
  constructor
  · rintro ⟨b, hb, hrest⟩
    obtain ⟨others, hothers, hbs⟩ := bind_eq_ok_iff.mp hrest
    cases hbs
    exact ⟨b, others, hb, hothers, rfl⟩
  · rintro ⟨b, others, hb, hothers, rfl⟩
    exact ⟨b, hb, bind_eq_ok_iff.mpr ⟨others, hothers, rfl⟩⟩

theorem ite_eq_ok_iff {e : ε} {b : α} : (if p then x else .error e) = .ok b ↔ p ∧ x = .ok b := by
  by_cases hp : p
  · rw [if_pos hp]
    exact (and_iff_right hp).symm
  · rw [if_neg hp]
    exact iff_of_false nofun fun h => hp h.1

theorem ite_error_eq_ok_iff {e : ε} {b : α} :
    (if p then .error e else x) = .ok b ↔ ¬p ∧ x = .ok b := by
  by_cases hp : p
  · rw [if_pos hp]
    exact iff_of_false nofun fun h => h.1 hp
  · rw [if_neg hp]
    exact (and_iff_right hp).symm

/-- A check that is followed by nothing fails exactly when it is met, and with its own fault. -/
theorem ite_error_ok_eq_error_iff {e e' : ε} {b : α} :
    (if p then .error e else .ok b : Except ε α) = .error e' ↔ p ∧ e' = e := by
  by_cases hp : p
  · simp [hp, eq_comm]
  · simp [hp]

end Except

/-- A step with a state is followed by the next one in the state where it ends. -/
theorem StateT.bind_apply
    {σ α β : Type} {x : StateM σ α} {f : α → StateM σ β} {s : σ} {result : β × σ}
    (h : (x >>= f) s = result) : f (x s).1 (x s).2 = result :=
  h

namespace ExceptT

variable {ε ε' σ α β : Type} {x : ExceptT ε (StateM σ) α} {s s' : σ}

theorem run_bind_of_ok
    {a : α} (hx : x.run s = (.ok a, s')) (f : α → ExceptT ε (StateM σ) β) :
    (x >>= f).run s = (f a).run s' := by
  show ExceptT.bindCont f (x.run s).1 (x.run s).2 = _
  rw [hx]
  rfl

/-- A chain of steps with a state succeeds when every step does, each from where the last one ends. -/
theorem run_bind_eq_ok_iff {f : α → ExceptT ε (StateM σ) β} {b : β} :
    (x >>= f).run s = (.ok b, s') ↔
      ∃ a between, x.run s = (.ok a, between) ∧ (f a).run between = (.ok b, s') := by
  have hbind : (x >>= f).run s = ExceptT.bindCont f (x.run s).1 (x.run s).2 := rfl
  rw [hbind]
  rcases x.run s with ⟨_ | a, between⟩
  · exact iff_of_false nofun fun ⟨_, _, hx, _⟩ => nomatch hx
  · constructor
    · intro hf
      exact ⟨a, between, rfl, hf⟩
    · rintro ⟨a, between, ⟨⟩, hf⟩
      exact hf

theorem run_adapt_eq_ok_iff {rename : ε → ε'} {a : α} :
    (x.adapt rename).run s = (.ok a, s') ↔ x.run s = (.ok a, s') := by
  have hadapt : (x.adapt rename).run s = ((x.run s).1.mapError rename, (x.run s).2) := rfl
  rw [hadapt]
  rcases x.run s with ⟨_ | value, after⟩
  · exact iff_of_false nofun nofun
  · constructor
    · rintro ⟨⟩
      rfl
    · rintro ⟨⟩
      rfl

/-! ## Renamed errors -/

section Adapt

variable {m : Type → Type} [Monad m] [LawfulMonad m]

theorem adapt_pure (a : α) (rename : ε → ε') :
    (pure a : ExceptT ε m α).adapt rename = pure a :=
  map_pure (Except.mapError rename) (Except.ok a)

theorem adapt_bind (x : ExceptT ε m α) (f : α → ExceptT ε m β) (rename : ε → ε') :
    (x >>= f).adapt rename = x.adapt rename >>= fun a => (f a).adapt rename := by
  show ExceptT.mk (Except.mapError rename <$> (x.run >>= ExceptT.bindCont f)) =
    ExceptT.mk ((Except.mapError rename <$> x.run) >>= ExceptT.bindCont _)
  congr 1
  rw [map_bind, bind_map_left]
  apply bind_congr
  intro outcome
  cases outcome with
  | error e => exact map_pure (Except.mapError rename) (Except.error e)
  | ok a => rfl

end Adapt
end ExceptT

namespace BadgeLink

/-- The only faults of a step are refused arguments. -/
def RefusesOnly {α : Type} (x : Except Error α) : Prop :=
  ∀ e, x = .error e → ∃ cause, e = .argument cause

namespace RefusesOnly

variable {α β : Type} {x y : Except Error α}

theorem ok (a : α) : RefusesOnly (.ok a : Except Error α) := by
  intro e he
  cases he

theorem argument (cause : ArgumentFault) :
    RefusesOnly (.error (.argument cause) : Except Error α) := by
  intro e he
  exact ⟨cause, (Except.error.inj he).symm⟩

theorem ite {p : Prop} [Decidable p] (hx : RefusesOnly x) (hy : RefusesOnly y) :
    RefusesOnly (if p then x else y) := by
  by_cases hp : p
  · rwa [if_pos hp]
  · rwa [if_neg hp]

theorem map (hx : RefusesOnly x) (f : α → β) : RefusesOnly (x.map f) := by
  intro e he
  exact hx e (Except.map_eq_error_iff.mp he)

theorem bind (hx : RefusesOnly x) {f : α → Except Error β} (hf : ∀ a, RefusesOnly (f a)) :
    RefusesOnly (x >>= f) := by
  intro e he
  rcases Except.bind_eq_error_iff.mp he with hfirst | ⟨a, -, hsecond⟩
  · exact hx e hfirst
  · exact hf a e hsecond

end RefusesOnly
end BadgeLink
