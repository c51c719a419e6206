import ServingOperator.Proofs.Pass.Ensures

namespace ServingOperator

inductive Exchange where
  | facts (answers : FactAnswers)
  | change (c : Change) (answer : Except ApiFailure Unit)
  | routesOf (owner : Route.Owner) (answer : Except ApiFailure (List Route))

/-- A request is granted if it succeeds. A deletion is as well if there is nothing to delete. -/
def Exchange.Granted : Exchange → Prop
  | facts _ => True
  | change (.deleteRoute _ _) answer => answer = .ok () ∨ answer = .error .notFound
  | change _ answer => answer = .ok ()
  | routesOf _ answer => ∃ existing, answer = .ok existing

variable {σ α : Type}

def Pass.trace (server : ApiServer σ) : Pass α → σ → List Exchange
  | done _, _ => []
  | facts next, s => .facts (server.facts s) :: (next (server.facts s)).trace server s
  | change c next, s =>
    let (answer, s) := server.change c s
    .change c answer :: (next answer).trace server s
  | routesOf owner next, s =>
    let (answer, s) := server.routesOf owner s
    .routesOf owner answer :: (next answer).trace server s

def ApiServer.surroundings (server : ApiServer σ) (allowed : Exchange → Prop) : Surroundings σ where
  meanwhile s s' := s = s'
  facts s answers := answers = server.facts s
  change c s answer s' := server.change c s = (answer, s') ∧ allowed (.change c answer)
  routesOf owner s answer s' :=
    server.routesOf owner s = (answer, s') ∧ allowed (.routesOf owner answer)

/-- What a pass ensures holds after each of its runs in which all answers are allowed. -/
theorem Pass.Ensures.run {server : ApiServer σ} {allowed : Exchange → Prop} {always : σ → Prop}
    {post : α → σ → Prop} {p : Pass α} {s : σ}
    (h : p.Ensures (server.surroundings allowed) always post s)
    (trace : ∀ x ∈ p.trace server s, allowed x) :
    post (p.run server s).1 (p.run server s).2 := by
  induction p generalizing s with
  | done a => exact h
  | facts next ih =>
    have rest := h s rfl (server.facts s) rfl
    exact ih _ rest fun x member => trace x (List.mem_cons_of_mem _ member)
  | change c next ih =>
    have granted := trace (.change c (server.change c s).1) List.mem_cons_self
    obtain ⟨-, rest⟩ := h s rfl (server.change c s).1 (server.change c s).2 ⟨rfl, granted⟩
    exact ih _ rest fun x member => trace x (List.mem_cons_of_mem _ member)
  | routesOf owner next ih =>
    have granted := trace (.routesOf owner (server.routesOf owner s).1) List.mem_cons_self
    obtain ⟨-, rest⟩ := h s rfl (server.routesOf owner s).1 (server.routesOf owner s).2
      ⟨rfl, granted⟩
    exact ih _ rest fun x member => trace x (List.mem_cons_of_mem _ member)

namespace Attempt

theorem trace_facts {server : ApiServer σ} {facts : Facts} {s : σ}
    (known : (server.facts s).gather = .ok facts) (f : Facts → Attempt α) :
    (Attempt.facts >>= f).run.trace server s =
      .facts (server.facts s) :: (f facts).run.trace server s := by
  show Exchange.facts (server.facts s) :: Pass.trace server (Pass.bind (.done
    ((server.facts s).gather.mapError PassError.facts)) _) s = _
  rw [known]
  rfl

theorem trace_facts_of_error {server : ApiServer σ} {failure : ApiFailure} {s : σ}
    (unknown : (server.facts s).gather = .error failure) (f : Facts → Attempt α) :
    (Attempt.facts >>= f).run.trace server s = [.facts (server.facts s)] := by
  show Exchange.facts (server.facts s) :: Pass.trace server (Pass.bind (.done
    ((server.facts s).gather.mapError PassError.facts)) _) s = _
  rw [unknown]
  rfl

theorem trace_change (server : ApiServer σ) (c : Change) (f : Unit → Attempt α) (s : σ) :
    (Attempt.change c >>= f).run.trace server s =
      .change c (server.change c s).1 :: match (server.change c s).1 with
        | .ok () => (f ()).run.trace server (server.change c s).2
        | .error _ => [] := by
  show Exchange.change c (server.change c s).1 :: Pass.trace server _ _ = _
  cases (server.change c s).1 with
  | ok u => rfl
  | error e => rfl

end Attempt

abbrev granting (server : ApiServer σ) : Surroundings σ := server.surroundings Exchange.Granted

theorem Attempt.Ensures.run {server : ApiServer σ} {x : Attempt α} {post : α → σ → Prop} {s : σ}
    (h : x.Ensures (granting server) (fun _ => True) False post s)
    (granted : ∀ exchange ∈ x.run.trace server s, exchange.Granted) :
    ∃ a, (x.run.run server s).1 = .ok a ∧ post a (x.run.run server s).2 := by
  have ended := Pass.Ensures.run h granted
  cases result : (x.run.run server s).1 with
  | ok a =>
    rw [result] at ended
    exact ⟨a, rfl, ended⟩
  | error e =>
    rw [result] at ended
    exact ended.elim

theorem Pass.granted_trace {server : ApiServer σ}
    (change : ∀ c s, (Exchange.change c (server.change c s).1).Granted)
    (routesOf : ∀ owner s, (Exchange.routesOf owner (server.routesOf owner s).1).Granted)
    (p : Pass α) (s : σ) : ∀ x ∈ p.trace server s, x.Granted := by
  induction p generalizing s with
  | done a => exact fun x member => nomatch member
  | facts next ih =>
    intro x member
    rcases List.mem_cons.mp member with rfl | member
    · exact trivial
    · exact ih _ _ x member
  | change c next ih =>
    intro x member
    rcases List.mem_cons.mp member with rfl | member
    · exact change c s
    · exact ih _ _ x member
  | routesOf owner next ih =>
    intro x member
    rcases List.mem_cons.mp member with rfl | member
    · exact routesOf owner s
    · exact ih _ _ x member

end ServingOperator
