/-! Computations that pass a state along and may fail: what a sequence of two of them comes to. -/
namespace Proctor.State

variable {σ ε α β : Type}

theorem bind_ok (p : StateT σ (Except ε) α) (f : α → StateT σ (Except ε) β) (state : σ)
    (result : β × σ) :
    (p >>= f) state = .ok result ↔ ∃ a after, p state = .ok (a, after) ∧ f a after = .ok result := by
  change (p state).bind (fun pair => f pair.1 pair.2) = .ok result ↔ _
  cases p state with
  | error fault => simp [Except.bind]
  | ok pair =>
    obtain ⟨a, after⟩ := pair
    constructor
    · exact fun next => ⟨a,after,rfl,next⟩
    · rintro ⟨_,_,same,next⟩
      cases same
      exact next

theorem bind_of_ok (p : StateT σ (Except ε) α) (f : α → StateT σ (Except ε) β) (state after : σ)
    (a : α) (taken : p state = .ok (a, after)) : (p >>= f) state = f a after := by
  change (p state).bind (fun pair => f pair.1 pair.2) = _
  rw [taken]
  rfl

theorem bind_of_error (p : StateT σ (Except ε) α) (f : α → StateT σ (Except ε) β) (state : σ)
    (fault : ε) (failed : p state = .error fault) : (p >>= f) state = .error fault := by
  change (p state).bind (fun pair => f pair.1 pair.2) = _
  rw [failed]
  rfl

theorem map_ok (p : StateT σ (Except ε) α) (f : α → β) (state after : σ) (b : β) :
    (do return f (← p) : StateT σ (Except ε) β) state = .ok (b, after) ↔
      ∃ a, p state = .ok (a, after) ∧ f a = b := by
  rw [bind_ok]
  constructor
  · rintro ⟨a,_,taken,returned⟩
    cases returned
    exact ⟨a,taken,rfl⟩
  · rintro ⟨a,taken,rfl⟩
    exact ⟨a,after,taken,rfl⟩

theorem branch_true (p : StateT σ (Except ε) Bool) (yes no : StateT σ (Except ε) β) (state after : σ)
    (taken : p state = .ok (true, after)) :
    (do if ← p then yes else no : StateT σ (Except ε) β) state = yes after := by
  rw [bind_of_ok _ _ _ _ _ taken,if_pos rfl]

theorem branch_false (p : StateT σ (Except ε) Bool) (yes no : StateT σ (Except ε) β) (state after : σ)
    (taken : p state = .ok (false, after)) :
    (do if ← p then yes else no : StateT σ (Except ε) β) state = no after := by
  rw [bind_of_ok _ _ _ _ _ taken,if_neg (by simp)]

@[simp] theorem pure_run (a : α) (state : σ) :
    (pure a : StateT σ (Except ε) α) state = .ok (a, state) := rfl

@[simp] theorem throw_run (fault : ε) (state : σ) :
    (throw fault : StateT σ (Except ε) α) state = .error fault := rfl

end Proctor.State
