import Mathlib.Data.List.Forall2

/-!
# Steps of computations

What is known of the first step of a computation, with state or with faults, tells
how the whole goes on.
-/

namespace HintFuzz

section State

variable {σ α β : Type} {before after : σ} {answer : α}

/-- Once it is known what an action does, what follows goes on from there. -/
theorem run_bind_of_run {action : StateM σ α} {next : α → StateM σ β}
    (ran : action.run before = (answer, after)) :
    (action >>= next).run before = (next answer).run after := by
  rw [StateT.run_bind, ran]
  rfl

/-- Two computations that answer the same from related states and keep these related. -/
def Tracks {τ : Type} (related : σ → τ → Prop) (action : StateM σ α) (other : StateM τ α) : Prop :=
  ∀ state state', related state state' →
    (action.run state).1 = (other.run state').1 ∧
      related (action.run state).2 (other.run state').2

/-- Answers that need no state keep track of each other. -/
theorem Tracks.pure {τ : Type} {related : σ → τ → Prop} (answer : α) :
    Tracks related (pure answer) (pure answer) :=
  fun _ _ start => ⟨rfl, start⟩

/-- Computations keep track of each other step by step. -/
theorem Tracks.bind {τ : Type} {related : σ → τ → Prop} {action : StateM σ α} {other : StateM τ α}
    {next : α → StateM σ β} {otherNext : α → StateM τ β} (first : Tracks related action other)
    (rest : ∀ answer, Tracks related (next answer) (otherNext answer)) :
    Tracks related (action >>= next) (other >>= otherNext) := by
  intro state state' start
  obtain ⟨same, kept⟩ := first state state' start
  rcases ran : action.run state with ⟨answer, between⟩
  rcases otherRan : other.run state' with ⟨otherAnswer, otherBetween⟩
  rw [ran, otherRan] at same kept
  cases same
  rw [run_bind_of_run ran, run_bind_of_run otherRan]
  exact rest answer between otherBetween kept

/-- A computation that does not end a property of its state. -/
def Keeps (kept : σ → Prop) (action : StateM σ α) : Prop :=
  ∀ state, kept state → kept (action.run state).2

/-- What keeps a property tracks itself where the property holds. -/
theorem keeps_iff_tracks {kept : σ → Prop} {action : StateM σ α} :
    Keeps kept action ↔
      Tracks (fun state state' => state = state' ∧ kept state) action action := by
  constructor
  · rintro keeps state _ ⟨rfl, start⟩
    exact ⟨rfl, rfl, keeps state start⟩
  · intro tracks state start
    exact (tracks state state ⟨rfl, start⟩).2.2

/-- A computation whose answer is known leaves some state. -/
theorem exists_run_eq {action : StateM σ α} (answers : (action.run before).1 = answer) :
    ∃ after, action.run before = (answer, after) :=
  ⟨(action.run before).2, Prod.ext answers rfl⟩

end State

section Faults

variable {ε ε' α β : Type}

/-- A computation succeeds if both steps do. -/
theorem bind_eq_ok_iff {action : Except ε α} {next : α → Except ε β} {result : β} :
    (action >>= next) = .ok result ↔ ∃ answer, action = .ok answer ∧ next answer = .ok result := by
  cases action with
  | error fault => exact ⟨nofun, nofun⟩
  | ok answer =>
      constructor
      · intro succeeds
        exact ⟨answer, rfl, succeeds⟩
      · rintro ⟨_, ⟨⟩, succeeds⟩
        exact succeeds

/-- It fails if the first step does, or else the second one. -/
theorem bind_eq_error_iff {action : Except ε α} {next : α → Except ε β} {fault : ε} :
    (action >>= next) = .error fault ↔
      action = .error fault ∨ ∃ answer, action = .ok answer ∧ next answer = .error fault := by
  cases action with
  | error other =>
      constructor
      · rintro ⟨⟩
        exact .inl rfl
      · rintro (fails | ⟨_, ⟨⟩, _⟩)
        cases fails
        rfl
  | ok answer =>
      constructor
      · intro fails
        exact .inr ⟨answer, rfl, fails⟩
      · rintro (fails | ⟨_, ⟨⟩, fails⟩)
        · cases fails
        · exact fails

/-- Rewording faults makes nothing succeed. -/
theorem mapError_eq_ok_iff {action : Except ε α} {reword : ε → ε'} {result : α} :
    action.mapError reword = .ok result ↔ action = .ok result := by
  cases action with
  | error fault => exact ⟨nofun, nofun⟩
  | ok answer =>
      constructor
      · rintro ⟨⟩
        rfl
      · rintro ⟨⟩
        rfl

/-- A reworded fault is a fault in other words. -/
theorem mapError_eq_error_iff {action : Except ε α} {reword : ε → ε'} {fault : ε'} :
    action.mapError reword = .error fault ↔ ∃ found, action = .error found ∧ reword found = fault := by
  cases action with
  | error found =>
      constructor
      · rintro ⟨⟩
        exact ⟨found, rfl, rfl⟩
      · rintro ⟨_, ⟨⟩, rfl⟩
        rfl
  | ok answer => exact ⟨nofun, nofun⟩

/-- What is made of an answer does not keep it from being given. -/
theorem map_eq_error_iff {action : Except ε α} {make : α → β} {fault : ε} :
    action.map make = .error fault ↔ action = .error fault := by
  cases action with
  | error found =>
      constructor
      · rintro ⟨⟩
        rfl
      · rintro ⟨⟩
        rfl
  | ok answer => exact ⟨nofun, nofun⟩

/-- A computation gives an answer with a property that has been seen to hold. -/
theorem exists_ok_of_any {action : Except ε α} {p : α → Bool}
    (seen : action.toOption.any p = true) : ∃ answer, action = .ok answer ∧ p answer = true := by
  cases action with
  | error fault => cases seen
  | ok answer => exact ⟨answer, rfl, seen⟩

/-- A computation that succeeds gives an answer. -/
theorem exists_ok_of_isOk {action : Except ε α} (succeeds : action.isOk = true) :
    ∃ answer, action = .ok answer := by
  cases action with
  | error fault => cases succeeds
  | ok answer => exact ⟨answer, rfl⟩

/-- A list of computations succeeds if each of them does. -/
theorem mapM_eq_ok_iff {f : α → Except ε β} {xs : List α} {ys : List β} :
    xs.mapM f = .ok ys ↔ List.Forall₂ (fun x y => f x = .ok y) xs ys := by
  induction xs generalizing ys with
  | nil =>
      rw [List.mapM_nil, List.forall₂_nil_left_iff]
      exact ⟨fun same => (Except.ok.inj same).symm, fun same => congrArg Except.ok same.symm⟩
  | cons x xs ih =>
      simp only [List.mapM_cons, bind_eq_ok_iff, ih, List.forall₂_cons_left_iff]
      constructor
      · rintro ⟨y, first, rest, later, ⟨⟩⟩
        exact ⟨y, rest, first, later, rfl⟩
      · rintro ⟨y, rest, first, later, rfl⟩
        exact ⟨y, first, rest, later, rfl⟩

/-- It fails where the first of them does. -/
theorem mapM_eq_error_iff {f : α → Except ε β} {xs : List α} {fault : ε} :
    xs.mapM f = .error fault ↔ ∃ before x after, xs = before ++ x :: after ∧
      (∀ earlier ∈ before, ∃ y, f earlier = .ok y) ∧ f x = .error fault := by
  induction xs with
  | nil =>
      refine iff_of_false nofun ?_
      rintro ⟨before, x, after, split, -⟩
      exact absurd split.symm (List.append_ne_nil_of_right_ne_nil _ (List.cons_ne_nil _ _))
  | cons x xs ih =>
      rw [List.mapM_cons, bind_eq_error_iff]
      constructor
      · rintro (fails | ⟨y, first, fails⟩)
        · exact ⟨[], x, xs, rfl, nofun, fails⟩
        · rcases bind_eq_error_iff.mp fails with later | ⟨_, _, ⟨⟩⟩
          obtain ⟨before, z, after, rfl, fine, fails⟩ := ih.mp later
          exact ⟨x :: before, z, after, rfl, List.forall_mem_cons.mpr ⟨⟨y, first⟩, fine⟩, fails⟩
      · rintro ⟨before, z, after, split, fine, fails⟩
        cases before with
        | nil =>
            cases split
            exact .inl fails
        | cons earlier before =>
            obtain ⟨rfl, rfl⟩ := List.cons.inj split
            obtain ⟨⟨y, first⟩, later⟩ := List.forall_mem_cons.mp fine
            have rest := ih.mpr ⟨before, z, after, rfl, later, fails⟩
            exact .inr ⟨y, first, bind_eq_error_iff.mpr (.inl rest)⟩

end Faults

end HintFuzz
