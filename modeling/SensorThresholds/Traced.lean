/-!
Computations that keep a state, may fail, and leave a trace of what they did. What was done before a
failure stays in the trace, and nothing is done after it.
-/

namespace SensorThresholds

structure Outcome (ε φ σ α : Type) where
  trace : List ε
  state : σ
  result : Except φ α

/-- A computation with events `ε`, failures `φ`, a state `σ` and a result `α`. -/
def Traced (ε φ σ α : Type) : Type := σ → Outcome ε φ σ α

namespace Traced

variable {ε ε' φ φ' σ α β : Type}

protected def pure (a : α) : Traced ε φ σ α := fun s => ⟨[], s, .ok a⟩

protected def bind (x : Traced ε φ σ α) (f : α → Traced ε φ σ β) : Traced ε φ σ β := fun s =>
  match x s with
  | ⟨trace, s, .ok a⟩ =>
    let rest := f a s
    ⟨trace ++ rest.trace, rest.state, rest.result⟩
  | ⟨trace, s, .error failure⟩ => ⟨trace, s, .error failure⟩

instance : Monad (Traced ε φ σ) where
  pure := Traced.pure
  bind := Traced.bind

theorem pure_apply (a : α) (s : σ) : (pure a : Traced ε φ σ α) s = ⟨[], s, .ok a⟩ := rfl

theorem bind_of_ok {x : Traced ε φ σ α} {f : α → Traced ε φ σ β} {s s' : σ} {trace : List ε} {a : α}
    (h : x s = ⟨trace, s', .ok a⟩) :
    (x >>= f) s = ⟨trace ++ (f a s').trace, (f a s').state, (f a s').result⟩ := by
  change Traced.bind x f s = _
  simp [Traced.bind, h]

theorem bind_of_error {x : Traced ε φ σ α} {f : α → Traced ε φ σ β} {s s' : σ} {trace : List ε}
    {failure : φ} (h : x s = ⟨trace, s', .error failure⟩) :
    (x >>= f) s = ⟨trace, s', .error failure⟩ := by
  change Traced.bind x f s = _
  simp [Traced.bind, h]

theorem trace_bind_of_ok {x : Traced ε φ σ α} {f : α → Traced ε φ σ β} {s : σ} {a : α}
    (h : (x s).result = .ok a) :
    ((x >>= f) s).trace = (x s).trace ++ (f a (x s).state).trace := by
  rw [bind_of_ok (show x s = ⟨(x s).trace, (x s).state, .ok a⟩ by rw [← h])]

theorem trace_bind_of_error {x : Traced ε φ σ α} {f : α → Traced ε φ σ β} {s : σ} {failure : φ}
    (h : (x s).result = .error failure) : ((x >>= f) s).trace = (x s).trace := by
  rw [bind_of_error (show x s = ⟨(x s).trace, (x s).state, .error failure⟩ by rw [← h])]

theorem bind_result_eq_ok_iff {x : Traced ε φ σ α} {f : α → Traced ε φ σ β} {s : σ} {b : β} :
    ((x >>= f) s).result = .ok b ↔
      ∃ a, (x s).result = .ok a ∧ (f a (x s).state).result = .ok b := by
  rcases ran : x s with ⟨trace, s', failure | a⟩
  · simp [bind_of_error ran]
  · simp [bind_of_ok ran]

theorem map_id_apply (x : Traced ε φ σ α) : id <$> x = x := by
  funext s
  change Traced.bind x (fun a => Traced.pure a) s = x s
  rcases h : x s with ⟨trace, s', _ | a⟩ <;> simp [Traced.bind, Traced.pure, h]

theorem pure_bind_apply (a : α) (f : α → Traced ε φ σ β) : pure a >>= f = f a := by
  funext s
  change Traced.bind (Traced.pure a) f s = f a s
  simp [Traced.bind, Traced.pure]

theorem bind_bind {γ : Type} (x : Traced ε φ σ α) (f : α → Traced ε φ σ β)
    (g : β → Traced ε φ σ γ) : x >>= f >>= g = x >>= fun a => f a >>= g := by
  funext s
  change Traced.bind (Traced.bind x f) g s = Traced.bind x (fun a => Traced.bind (f a) g) s
  rcases hx : x s with ⟨trace, s', _ | a⟩
  · simp [Traced.bind, hx]
  · rcases hf : f a s' with ⟨trace', s'', _ | b⟩ <;> simp [Traced.bind, hx, hf]

instance : LawfulMonad (Traced ε φ σ) :=
  LawfulMonad.mk' _ map_id_apply pure_bind_apply bind_bind

def emit (event : ε) : Traced ε φ σ Unit := fun s => ⟨[event], s, .ok ()⟩

def fail (failure : φ) : Traced ε φ σ α := fun s => ⟨[], s, .error failure⟩

def ofExcept : Except φ α → Traced ε φ σ α
  | .ok a => pure a
  | .error failure => fail failure

/-- The same computation with other words for its events and failures. -/
def relabel (event : ε → ε') (failure : φ → φ') (x : Traced ε φ σ α) : Traced ε' φ' σ α := fun s =>
  match x s with
  | ⟨trace, s, result⟩ => ⟨trace.map event, s, result.mapError failure⟩

theorem emit_apply (event : ε) (s : σ) :
    (emit event : Traced ε φ σ Unit) s = ⟨[event], s, .ok ()⟩ := rfl

theorem ofExcept_apply (result : Except φ α) (s : σ) :
    (ofExcept result : Traced ε φ σ α) s = ⟨[], s, result⟩ := by
  cases result <;> rfl

theorem relabel_apply (event : ε → ε') (failure : φ → φ') (x : Traced ε φ σ α) (s : σ) :
    x.relabel event failure s =
      ⟨(x s).trace.map event, (x s).state, (x s).result.mapError failure⟩ := rfl

/-- The same failures, with other words for the events. -/
theorem relabel_id_apply (event : ε → ε') (x : Traced ε φ σ α) (s : σ) :
    x.relabel event id s = ⟨(x s).trace.map event, (x s).state, (x s).result⟩ := by
  rw [relabel_apply]
  cases (x s).result <;> rfl

theorem relabel_bind (event : ε → ε') (failure : φ → φ') (x : Traced ε φ σ α)
    (f : α → Traced ε φ σ β) :
    (x >>= f).relabel event failure =
      x.relabel event failure >>= fun a => (f a).relabel event failure := by
  funext s
  rcases h : x s with ⟨trace, s', fault | a⟩
  · rw [relabel_apply, bind_of_error h, bind_of_error (by rw [relabel_apply, h]; rfl)]
    rfl
  · rw [relabel_apply, bind_of_ok h, bind_of_ok (by rw [relabel_apply, h]; rfl), relabel_apply]
    simp only [List.map_append]

theorem relabel_relabel {ε'' φ'' : Type} (event : ε → ε') (event' : ε' → ε'') (failure : φ → φ')
    (failure' : φ' → φ'') (x : Traced ε φ σ α) :
    (x.relabel event failure).relabel event' failure' =
      x.relabel (event' ∘ event) (failure' ∘ failure) := by
  funext s
  simp only [relabel_apply, List.map_map]
  cases (x s).result <;> rfl

/-- A computation without a state of its own, carried out beside one. -/
def beside (x : Traced ε φ Unit α) : Traced ε φ σ α := fun s =>
  match x () with
  | ⟨trace, _, result⟩ => ⟨trace, s, result⟩

end Traced
end SensorThresholds
