import ServingOperator.Proofs.Pass.Trace

namespace ServingOperator

variable {σ α : Type}

def ApiServer.send (server : ApiServer σ) : List Change → σ → List Exchange × σ
  | [], s => ([], s)
  | c :: cs, s =>
    match server.change c s with
    | (.ok (), s') => (.change c (.ok ()) :: (server.send cs s').1, (server.send cs s').2)
    | (.error failure, s') => ([.change c (.error failure)], s')

namespace ApiServer

variable {server : ApiServer σ} {cs : List Change} {s : σ}

theorem mem_send {x : Exchange} (h : x ∈ (server.send cs s).1) :
    ∃ c ∈ cs, ∃ answer, x = .change c answer := by
  fun_induction server.send cs s with
  | case1 s => cases h
  | case2 c cs s s' answered ih =>
    rcases List.mem_cons.mp h with rfl | later
    · exact ⟨c, List.mem_cons_self, _, rfl⟩
    · obtain ⟨d, member, given⟩ := ih later
      exact ⟨d, List.mem_cons_of_mem _ member, given⟩
  | case3 c cs s failure s' answered => exact ⟨c, List.mem_cons_self, _, List.mem_singleton.mp h⟩

theorem last_of_refused {c : Change} {failure : ApiFailure} {front back : List Exchange}
    (h : (server.send cs s).1 = front ++ .change c (.error failure) :: back) : back = [] := by
  fun_induction server.send cs s generalizing front with
  | case1 s => simp at h
  | case2 d cs s s' answered ih =>
    cases front with
    | nil => cases (List.cons.inj h).1
    | cons x front => exact ih (List.cons.inj h).2
  | case3 d cs s failure' s' answered =>
    cases front with
    | nil => exact (List.cons.inj h).2.symm
    | cons x front => simp at h

/-- A server that applies each change to what it keeps as a whole or not at all. A change that is
    refused may have been applied nevertheless, where only the answer was lost. -/
def AppliesWhole {κ : Type} (server : ApiServer σ) (kept : σ → κ) (apply : κ → Change → κ) : Prop :=
  ∀ c s answer s', server.change c s = (answer, s') →
    kept s' = apply (kept s) c ∨ answer ≠ .ok () ∧ kept s' = kept s

/-- Wherever changes break off, the first ones are applied, and among them all that are granted. -/
theorem AppliesWhole.send {κ : Type} {kept : σ → κ} {apply : κ → Change → κ}
    (whole : server.AppliesWhole kept apply) (cs : List Change) (s : σ) :
    ∃ done, done <+: cs ∧ kept (server.send cs s).2 = done.foldl apply (kept s) ∧
      (∀ c, .change c (.ok ()) ∈ (server.send cs s).1 → c ∈ done) ∧
      ((∀ c failure, .change c (.error failure) ∉ (server.send cs s).1) → done = cs) := by
  fun_induction server.send cs s with
  | case1 s =>
    exact ⟨[], List.nil_prefix, rfl, fun _ found => absurd found List.not_mem_nil, fun _ => rfl⟩
  | case2 c cs s s' answered ih =>
    obtain ⟨done, first, left, granted, complete⟩ := ih
    have applied : kept s' = apply (kept s) c := by
      rcases whole _ _ _ _ answered with applied | ⟨refused, -⟩
      · exact applied
      · exact absurd rfl refused
    refine ⟨c :: done, (List.prefix_cons_inj c).mpr first, ?_, ?_, ?_⟩
    · rw [left, applied, List.foldl_cons]
    · intro d member
      rcases List.mem_cons.mp member with same | later
      · cases same
        exact List.mem_cons_self
      · exact List.mem_cons_of_mem _ (granted d later)
    · intro unrefused
      rw [complete fun d failure later => unrefused d failure (List.mem_cons_of_mem _ later)]
  | case3 c cs s failure s' answered =>
    obtain ⟨done, first, left⟩ :
        ∃ done, done <+: c :: cs ∧ kept s' = done.foldl apply (kept s) := by
      rcases whole _ _ _ _ answered with applied | ⟨-, unchanged⟩
      · exact ⟨[c], (List.prefix_cons_inj c).mpr List.nil_prefix, applied⟩
      · exact ⟨[], List.nil_prefix, unchanged⟩
    refine ⟨done, first, left, ?_, ?_⟩
    · intro d granted
      cases List.mem_singleton.mp granted
    · exact fun unrefused => absurd List.mem_cons_self (unrefused c failure)

end ApiServer

namespace Attempt

theorem run_facts {server : ApiServer σ} {facts : Facts} {s : σ}
    (known : (server.facts s).gather = .ok facts) (f : Facts → Attempt α) :
    (Attempt.facts >>= f).run.run server s = (f facts).run.run server s := by
  show Pass.run server (Pass.bind (.done ((server.facts s).gather.mapError PassError.facts)) _)
    s = _
  rw [known]
  rfl

theorem run_facts_of_error {server : ApiServer σ} {failure : ApiFailure}
    {s : σ} (unknown : (server.facts s).gather = .error failure) (f : Facts → Attempt α) :
    (Attempt.facts >>= f).run.run server s = (.error (.facts failure), s) := by
  show Pass.run server (Pass.bind (.done ((server.facts s).gather.mapError PassError.facts)) _)
    s = _
  rw [unknown]
  rfl

theorem run_change (server : ApiServer σ) (c : Change) (f : Unit → Attempt α) (s : σ) :
    ((Attempt.change c >>= f).run.run server s).2 =
      match server.change c s with
      | (.ok (), s') => ((f ()).run.run server s').2
      | (.error _, s') => s' := by
  show (Pass.run server (.change c _) s).2 = _
  rw [Pass.run]
  rcases server.change c s with ⟨answer, s'⟩
  cases answer <;> rfl

theorem run_forM (server : ApiServer σ) (cs : List Change) (a : α) (s : σ) :
    let p := (cs.forM Attempt.change >>= fun _ => (pure a : Attempt α)).run
    p.trace server s = (server.send cs s).1 ∧ (p.run server s).2 = (server.send cs s).2 := by
  intro p
  simp only [p, List.forM_eq_forM]
  fun_induction server.send cs s with
  | case1 s => exact ⟨rfl, rfl⟩
  | case2 c cs s s' answered ih =>
    rw [List.forM_cons, bind_assoc, trace_change, run_change, answered]
    exact ⟨congrArg _ ih.1, ih.2⟩
  | case3 c cs s failure s' answered =>
    rw [List.forM_cons, bind_assoc, trace_change, run_change, answered]
    exact ⟨rfl, rfl⟩

end Attempt

end ServingOperator
