import ServingOperator.Pass

namespace ServingOperator

/-- What surrounds a pass: how the state may move between two requests, and how each request may
    be answered, with the state that it leaves. -/
structure Surroundings (σ : Type) where
  meanwhile : σ → σ → Prop
  facts : σ → FactAnswers → Prop
  change : Change → σ → Except ApiFailure Unit → σ → Prop
  routesOf : Route.Owner → σ → Except ApiFailure (List Route) → σ → Prop

variable {σ α β : Type} {E : Surroundings σ} {always : σ → Prop}

/-- After each request `always` holds, and at the end `post` does. -/
def Pass.Ensures (E : Surroundings σ) (always : σ → Prop) (post : α → σ → Prop) :
    Pass α → σ → Prop
  | done a, s => post a s
  | facts next, s => ∀ s', E.meanwhile s s' → ∀ answers, E.facts s' answers →
    (next answers).Ensures E always post s'
  | change c next, s => ∀ s', E.meanwhile s s' → ∀ answer s'', E.change c s' answer s'' →
    always s'' ∧ (next answer).Ensures E always post s''
  | routesOf owner next, s => ∀ s', E.meanwhile s s' → ∀ answer s'',
    E.routesOf owner s' answer s'' → always s'' ∧ (next answer).Ensures E always post s''

namespace Pass.Ensures

theorem mono {post post' : α → σ → Prop} (weaker : ∀ a s, post a s → post' a s) {p : Pass α} {s : σ}
    (h : p.Ensures E always post s) : p.Ensures E always post' s := by
  induction p generalizing s with
  | done a => exact weaker a s h
  | facts next ih => exact fun s' moved answers given => ih _ (h s' moved answers given)
  | change c next ih =>
    intro s' moved answer s'' given
    obtain ⟨kept, rest⟩ := h s' moved answer s'' given
    exact ⟨kept, ih _ rest⟩
  | routesOf owner next ih =>
    intro s' moved answer s'' given
    obtain ⟨kept, rest⟩ := h s' moved answer s'' given
    exact ⟨kept, ih _ rest⟩

theorem bind {post : β → σ → Prop} {p : Pass α} {f : α → Pass β} {s : σ}
    (h : p.Ensures E always (fun a => (f a).Ensures E always post) s) :
    (p.bind f).Ensures E always post s := by
  induction p generalizing s with
  | done a => exact h
  | facts next ih => exact fun s' moved answers given => ih _ (h s' moved answers given)
  | change c next ih =>
    intro s' moved answer s'' given
    obtain ⟨kept, rest⟩ := h s' moved answer s'' given
    exact ⟨kept, ih _ rest⟩
  | routesOf owner next ih =>
    intro s' moved answer s'' given
    obtain ⟨kept, rest⟩ := h s' moved answer s'' given
    exact ⟨kept, ih _ rest⟩

theorem moved {post : α → σ → Prop}
    (trans : ∀ {s s' s''}, E.meanwhile s s' → E.meanwhile s' s'' → E.meanwhile s s'')
    (stable : ∀ {a s s'}, E.meanwhile s s' → post a s → post a s') {p : Pass α} {s s' : σ}
    (first : E.meanwhile s s') (h : p.Ensures E always post s) : p.Ensures E always post s' := by
  cases p with
  | done a => exact stable first h
  | facts next => exact fun s'' later => h s'' (trans first later)
  | change c next => exact fun s'' later => h s'' (trans first later)
  | routesOf owner next => exact fun s'' later => h s'' (trans first later)

end Pass.Ensures

namespace Attempt

def Ensures (E : Surroundings σ) (always : σ → Prop) (mayGiveUp : Prop) (post : α → σ → Prop)
    (x : Attempt α) (s : σ) : Prop :=
  Pass.Ensures E always
    (fun result s => match result with
      | .ok a => post a s
      | .error _ => mayGiveUp)
    x.run s

namespace Ensures

variable {mayGiveUp : Prop} {s : σ}

theorem pure {post : α → σ → Prop} {a : α} (h : post a s) :
    Ensures E always mayGiveUp post (pure a) s := h

theorem throw {post : α → σ → Prop} (e : PassError) (h : mayGiveUp) :
    Ensures E always mayGiveUp post (throw e) s := h

theorem mono {post post' : α → σ → Prop} (weaker : ∀ a s, post a s → post' a s) {x : Attempt α}
    (h : x.Ensures E always mayGiveUp post s) : x.Ensures E always mayGiveUp post' s := by
  refine Pass.Ensures.mono ?_ h
  intro result s h
  cases result with
  | ok a => exact weaker a s h
  | error e => exact h

theorem bind {post : β → σ → Prop} {x : Attempt α} {f : α → Attempt β}
    (h : x.Ensures E always mayGiveUp (fun a => (f a).Ensures E always mayGiveUp post) s) :
    (x >>= f).Ensures E always mayGiveUp post s := by
  refine Pass.Ensures.bind (Pass.Ensures.mono ?_ h)
  intro result s h
  cases result with
  | ok a => exact h
  | error e => exact h

theorem facts {post : Facts → σ → Prop}
    (h : ∀ s', E.meanwhile s s' → ∀ answers, E.facts s' answers →
      (∀ facts, answers.gather = .ok facts → post facts s') ∧
        (∀ e, answers.gather = .error e → mayGiveUp)) :
    Attempt.facts.Ensures E always mayGiveUp post s := by
  intro s' moved answers given
  obtain ⟨known, refused⟩ := h s' moved answers given
  cases gathered : answers.gather with
  | ok facts =>
    show Pass.Ensures E always _ (.done (answers.gather.mapError PassError.facts)) s'
    rw [gathered]
    exact known facts gathered
  | error e =>
    show Pass.Ensures E always _ (.done (answers.gather.mapError PassError.facts)) s'
    rw [gathered]
    exact refused e gathered

theorem change {post : Unit → σ → Prop} {c : Change}
    (h : ∀ s', E.meanwhile s s' → ∀ answer s'', E.change c s' answer s'' →
      always s'' ∧ (answer = .ok () → post () s'') ∧ (answer ≠ .ok () → mayGiveUp)) :
    (Attempt.change c).Ensures E always mayGiveUp post s := by
  intro s' moved answer s'' given
  obtain ⟨kept, done, refused⟩ := h s' moved answer s'' given
  refine ⟨kept, ?_⟩
  cases answer with
  | ok u => exact done rfl
  | error e => exact refused (by simp)

theorem delete {post : Unit → σ → Prop} {inNamespace name : String}
    (h : ∀ s', E.meanwhile s s' → ∀ answer s'',
      E.change (.deleteRoute inNamespace name) s' answer s'' →
      always s'' ∧ (answer = .ok () ∨ answer = .error .notFound → post () s'') ∧
        (¬(answer = .ok () ∨ answer = .error .notFound) → mayGiveUp)) :
    (Attempt.delete inNamespace name).Ensures E always mayGiveUp post s := by
  intro s' moved answer s'' given
  obtain ⟨kept, done, refused⟩ := h s' moved answer s'' given
  refine ⟨kept, ?_⟩
  cases answer with
  | ok u => exact done (.inl rfl)
  | error e =>
    by_cases absent : e = .notFound
    · subst absent
      exact done (.inr rfl)
    · have gone : ¬((.error e : Except ApiFailure Unit) = .ok () ∨
          (.error e : Except ApiFailure Unit) = .error .notFound) := by simp [absent]
      show Pass.Ensures E always _ ((if e = .notFound then Pure.pure () else
        MonadExcept.throw (PassError.request e) : Attempt Unit).run) s''
      rw [if_neg absent]
      exact refused gone

theorem routesOf {post : List Route → σ → Prop} {owner : Route.Owner}
    (h : ∀ s', E.meanwhile s s' → ∀ answer s'', E.routesOf owner s' answer s'' →
      always s'' ∧ (∀ existing, answer = .ok existing → post existing s'') ∧
        (∀ e, answer = .error e → mayGiveUp)) :
    (Attempt.routesOf owner).Ensures E always mayGiveUp post s := by
  intro s' moved answer s'' given
  obtain ⟨kept, listed, refused⟩ := h s' moved answer s'' given
  refine ⟨kept, ?_⟩
  cases answer with
  | ok existing => exact listed existing rfl
  | error e => exact refused e rfl

theorem forM {γ : Type} {f : γ → Attempt PUnit} (inv : List γ → σ → Prop)
    (step : ∀ x xs s, inv (x :: xs) s →
      (f x).Ensures E always mayGiveUp (fun _ => inv xs) s)
    (xs : List γ) (h : inv xs s) :
    (xs.forM f).Ensures E always mayGiveUp (fun _ => inv []) s := by
  induction xs generalizing s with
  | nil => exact h
  | cons x xs ih => exact bind ((step x xs s h).mono fun _ _ rest => ih rest)

end Ensures

/-- What doing nothing satisfies and doing one thing after another keeps, a loop satisfies. -/
theorem forM_closed {P : Attempt PUnit → Prop} (nothing : P (Pure.pure ()))
    (both : ∀ x rest, P x → P rest → P (x >>= fun _ => rest)) {γ : Type} {f : γ → Attempt PUnit}
    {xs : List γ} (each : ∀ x ∈ xs, P (f x)) : P (xs.forM f) := by
  induction xs with
  | nil => exact nothing
  | cons x xs ih =>
    have rest := ih fun y later => each y (List.mem_cons_of_mem _ later)
    exact both _ _ (each x List.mem_cons_self) rest

end Attempt

end ServingOperator
