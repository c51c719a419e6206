import ServingOperator.Proofs.Pass.Trace

namespace ServingOperator

inductive Ask where
  | change (c : Change)
  | list (owner : Route.Owner) (shown : List Route)

namespace Exchange

def Meets : Exchange → Ask → Prop
  | change c _, .change asked => c = asked
  | routesOf owner answer, .list asked shown =>
    owner = asked ∧ ∀ existing, answer = .ok existing → existing = shown
  | _, _ => False

def failure? : Exchange → Option ApiFailure
  | change _ (.error failure) | routesOf _ (.error failure) => some failure
  | _ => none

theorem granted_ok (c : Change) : (change c (.ok ())).Granted := by
  cases c with
  | merge target patch => rfl
  | applyRoute inNamespace name route => rfl
  | deleteRoute inNamespace name => exact .inl rfl

theorem merge_refused (target : Target) (patch : Json) (failure : ApiFailure) :
    ¬(change (.merge target patch) (.error failure)).Granted :=
  fun granted => nomatch (show Except.error failure = Except.ok () from granted)

theorem applyRoute_refused (inNamespace name : String) (route : Route) (failure : ApiFailure) :
    ¬(change (.applyRoute inNamespace name route) (.error failure)).Granted :=
  fun granted => nomatch (show Except.error failure = Except.ok () from granted)

end Exchange

/-- The agenda is gone through in order. It is cut right after the first request that is not
    granted; otherwise all of it is done, and then `a` is the result. -/
inductive Follows {α : Type} (a : α) : List Ask → List Exchange → Except PassError α → Prop where
  | completed : Follows a [] [] (.ok a)
  | granted {ask : Ask} {asks : List Ask} {x : Exchange} {xs : List Exchange}
      {result : Except PassError α} (meets : x.Meets ask) (good : x.Granted)
      (rest : Follows a asks xs result) : Follows a (ask :: asks) (x :: xs) result
  | refused {ask : Ask} {asks : List Ask} {x : Exchange} {failure : ApiFailure}
      (meets : x.Meets ask) (bad : ¬x.Granted) (said : x.failure? = some failure) :
      Follows a (ask :: asks) [x] (.error (.request failure))

namespace Follows

variable {α β : Type} {a : α} {b : β} {asks more : List Ask} {xs ys : List Exchange}
  {result : Except PassError α} {result' : Except PassError β}

theorem append (first : Follows a asks xs result)
    (goesOn : result = .ok a → Follows b more ys result')
    (givesUp : ∀ e, result = .error e → ys = [] ∧ result' = .error e) :
    Follows b (asks ++ more) (xs ++ ys) result' := by
  induction first with
  | completed => exact goesOn rfl
  | granted meets good rest ih => exact .granted meets good (ih goesOn givesUp)
  | refused meets bad said =>
    obtain ⟨rfl, rfl⟩ := givesUp _ rfl
    exact .refused meets bad said

theorem head {ask : Ask} (h : Follows a (ask :: asks) xs result) :
    ∃ x rest, xs = x :: rest ∧ x.Meets ask := by
  cases h with
  | granted meets good rest => exact ⟨_, _, rfl, meets⟩
  | refused meets bad said => exact ⟨_, _, rfl, meets⟩

theorem mem_agenda (h : Follows a asks xs result) {x : Exchange} (member : x ∈ xs) :
    ∃ ask ∈ asks, x.Meets ask := by
  induction h with
  | completed => cases member
  | granted meets good rest ih =>
    rcases List.mem_cons.mp member with rfl | later
    · exact ⟨_, List.mem_cons_self, meets⟩
    · obtain ⟨ask, onAgenda, met⟩ := ih later
      exact ⟨ask, List.mem_cons_of_mem _ onAgenda, met⟩
  | refused meets bad said =>
    obtain rfl := List.mem_singleton.mp member
    exact ⟨_, List.mem_cons_self, meets⟩

theorem granted_of_ok (h : Follows a asks xs result) {b : α} (ended : result = .ok b) :
    b = a ∧ ∀ x ∈ xs, x.Granted := by
  induction h with
  | completed => exact ⟨(Except.ok.inj ended).symm, fun x member => nomatch member⟩
  | granted meets good rest ih =>
    obtain ⟨same, others⟩ := ih ended
    exact ⟨same, List.forall_mem_cons.mpr ⟨good, others⟩⟩
  | refused meets bad said => cases ended

theorem ok_of_granted (h : Follows a asks xs result) (granted : ∀ x ∈ xs, x.Granted) :
    result = .ok a := by
  induction h with
  | completed => rfl
  | granted meets good rest ih => exact ih (List.forall_mem_cons.mp granted).2
  | refused meets bad said => exact absurd (granted _ (List.mem_singleton_self _)) bad

theorem error_of_refused (h : Follows a asks xs result) {x : Exchange} (member : x ∈ xs)
    (bad : ¬x.Granted) : ∃ e, result = .error e := by
  cases ended : result with
  | error e => exact ⟨e, rfl⟩
  | ok b => exact absurd ((h.granted_of_ok ended).2 x member) bad

theorem change_mem_agenda (h : Follows a asks xs result) {c : Change}
    {answer : Except ApiFailure Unit} (member : .change c answer ∈ xs) : .change c ∈ asks := by
  obtain ⟨ask, onAgenda, met⟩ := h.mem_agenda member
  cases ask with
  | change asked =>
    have same : c = asked := met
    exact same ▸ onAgenda
  | list owner shown => exact met.elim

end Follows

variable {σ α β : Type} {server : ApiServer σ}

theorem Pass.trace_bind (p : Pass α) (f : α → Pass β) (s : σ) :
    (p.bind f).trace server s =
      p.trace server s ++ (f (p.run server s).1).trace server (p.run server s).2 := by
  induction p generalizing s with
  | done a => rfl
  | facts next ih => exact congrArg (Exchange.facts (server.facts s) :: ·) (ih _ s)
  | change c next ih => exact congrArg (Exchange.change c (server.change c s).1 :: ·) (ih _ _)
  | routesOf owner next ih =>
    exact congrArg (Exchange.routesOf owner (server.routesOf owner s).1 :: ·) (ih _ _)

namespace Attempt

theorem run_bind (server : ApiServer σ) (x : Attempt α) (f : α → Attempt β) (s : σ) :
    (x >>= f).run.run server s =
      match x.run.run server s with
      | (.ok a, s') => (f a).run.run server s'
      | (.error e, s') => (.error e, s') := by
  show (Pass.bind x.run (ExceptT.bindCont f)).run server s = _
  rw [Pass.run_bind]
  rcases x.run.run server s with ⟨result, s'⟩
  cases result <;> rfl

theorem trace_bind (server : ApiServer σ) (x : Attempt α) (f : α → Attempt β) (s : σ) :
    (x >>= f).run.trace server s = x.run.trace server s ++
      match x.run.run server s with
      | (.ok a, s') => (f a).run.trace server s'
      | (.error _, _) => [] := by
  show (Pass.bind x.run (ExceptT.bindCont f)).trace server s = _
  rw [Pass.trace_bind]
  rcases x.run.run server s with ⟨result, s'⟩
  cases result <;> rfl

/-- An attempt goes through an agenda, and comes to `a` if all of it is granted. -/
def Follows (server : ApiServer σ) (x : Attempt α) (asks : List Ask) (a : α) (s : σ) : Prop :=
  ServingOperator.Follows a asks (x.run.trace server s) (x.run.run server s).1

namespace Follows

variable {f : α → Attempt β} {x : Attempt α} {a : α} {b : β} {asks more : List Ask} {s : σ}

theorem pure (a : α) (s : σ) : (Pure.pure a : Attempt α).Follows server [] a s := .completed

theorem bind (first : x.Follows server asks a s)
    (rest : (f a).Follows server more b (x.run.run server s).2) :
    (x >>= f).Follows server (asks ++ more) b s := by
  unfold Attempt.Follows at first
  rw [Attempt.Follows, trace_bind, run_bind]
  rcases ran : x.run.run server s with ⟨result, s'⟩
  rw [ran] at first rest
  refine first.append ?_ ?_
  · rintro rfl
    exact rest
  · rintro e rfl
    exact ⟨rfl, rfl⟩

theorem ofAnswer {c : Change} {f : Except ApiFailure Unit → Attempt α}
    (good : ∀ answer, (Exchange.change c answer).Granted → f answer = Pure.pure a)
    (bad : ∀ failure, ¬(Exchange.change c (.error failure)).Granted →
      f (.error failure) = throw (.request failure)) (s : σ) :
    (tryChange c >>= f).Follows server [.change c] a s := by
  have trace : (tryChange c >>= f).run.trace server s =
      .change c (server.change c s).1 ::
        (f (server.change c s).1).run.trace server (server.change c s).2 := rfl
  have run : (tryChange c >>= f).run.run server s =
      (f (server.change c s).1).run.run server (server.change c s).2 := rfl
  rw [Attempt.Follows, trace, run]
  by_cases granted : (Exchange.change c (server.change c s).1).Granted
  · rw [good _ granted]
    exact .granted rfl granted .completed
  · cases answered : (server.change c s).1 with
    | ok u =>
      rw [answered] at granted
      exact absurd (Exchange.granted_ok c) granted
    | error failure =>
      rw [answered] at granted
      rw [bad failure granted]
      exact .refused rfl granted rfl

theorem change {c : Change}
    (strict : ∀ failure, ¬(Exchange.change c (.error failure)).Granted) (s : σ) :
    (Attempt.change c).Follows server [.change c] () s := by
  refine ofAnswer ?_ ?_ s
  · intro answer granted
    cases answer with
    | ok u => rfl
    | error failure => exact absurd granted (strict failure)
  · exact fun failure _ => rfl

theorem delete (inNamespace name : String) (s : σ) :
    (Attempt.delete inNamespace name).Follows server [.change (.deleteRoute inNamespace name)] ()
      s := by
  refine ofAnswer ?_ ?_ s
  · intro answer granted
    rcases granted with rfl | rfl
    · rfl
    · exact if_pos rfl
  · intro failure refused
    have found : failure ≠ .notFound := fun absent => refused (.inr (congrArg _ absent))
    exact if_neg found

theorem routesOf (server : ApiServer σ) (owner : Route.Owner) (s : σ) : ∃ existing,
    (Attempt.routesOf owner).Follows server [.list owner existing] existing s := by
  have single (existing : List Route) : (Attempt.routesOf owner).Follows server
      [.list owner existing] existing s = ServingOperator.Follows existing [.list owner existing]
        [.routesOf owner (server.routesOf owner s).1]
        ((server.routesOf owner s).1.mapError PassError.request) := rfl
  cases answered : (server.routesOf owner s).1 with
  | ok shown =>
    refine ⟨shown, ?_⟩
    rw [single, answered]
    exact .granted ⟨rfl, fun existing same => (Except.ok.inj same).symm⟩ ⟨shown, rfl⟩ .completed
  | error failure =>
    refine ⟨[], ?_⟩
    rw [single, answered]
    exact .refused ⟨rfl, nofun⟩ (fun ⟨_, shown⟩ => nomatch shown) rfl

theorem forM {γ : Type} {f : γ → Attempt PUnit} {ask : γ → Ask}
    {xs : List γ} (each : ∀ x ∈ xs, ∀ s, (f x).Follows server [ask x] () s) (s : σ) :
    (xs.forM f).Follows server (xs.map ask) () s := by
  induction xs generalizing s with
  | nil => exact .pure () s
  | cons x xs ih =>
    have first := each x List.mem_cons_self s
    exact first.bind (ih (fun y later => each y (List.mem_cons_of_mem _ later)) _)

end Follows

end Attempt

end ServingOperator
