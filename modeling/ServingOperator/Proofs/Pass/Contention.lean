import ServingOperator.Proofs.Json.MergePatch
import ServingOperator.Proofs.Pass.Ensures

namespace ServingOperator

structure Contended where
  stored : Json
  landings : List (Json × Json) := []

namespace Contended

def land (s : Contended) (patch : Json) : Contended :=
  ⟨patch.mergeInto s.stored, (s.stored, patch.mergeInto s.stored) :: s.landings⟩

/-- What a change does to the document of a target. A patch that landed may be answered with a
    failure, where only the answer was lost. -/
inductive Effect (target : Target) :
    Change → Contended → Except ApiFailure Unit → Contended → Prop where
  | elsewhere {c : Change} {s : Contended} {answer : Except ApiFailure Unit}
      (other : ∀ patch, c ≠ .merge target patch) : Effect target c s answer s
  | refused {patch : Json} {s : Contended} (failure : ApiFailure) :
      Effect target (.merge target patch) s (.error failure) s
  | landed {patch : Json} {s : Contended} (answer : Except ApiFailure Unit) :
      Effect target (.merge target patch) s answer (s.land patch)

def surroundings (target : Target) (answers : FactAnswers) : Surroundings Contended where
  meanwhile s s' := s'.landings = s.landings
  facts _ given := given = answers
  change := Effect target
  routesOf _ s _ s' := s' = s

def All (P : Json → Json → Prop) (s : Contended) : Prop :=
  ∀ landing ∈ s.landings, P landing.1 landing.2

theorem All.of_landings {P : Json → Json → Prop} {s s' : Contended}
    (same : s'.landings = s.landings) (h : s.All P) : s'.All P := by
  unfold All
  rw [same]
  exact h

theorem All.land {P : Json → Json → Prop} {s : Contended} (h : s.All P) {patch : Json}
    (good : ∀ found, P found (patch.mergeInto found)) : (s.land patch).All P := by
  intro landing member
  rcases List.mem_cons.mp member with rfl | earlier
  · exact good s.stored
  · exact h landing earlier

end Contended

namespace Attempt

open Contended

variable {α β : Type} {target : Target} {answers : FactAnswers} {P : Json → Json → Prop}

def LeavesAlone (target : Target) (answers : FactAnswers) (x : Attempt α) : Prop :=
  ∀ P s, s.All P → x.Ensures (surroundings target answers) (All P) True
    (fun _ s' => s'.landings = s.landings) s

namespace LeavesAlone

theorem pure (a : α) : (Pure.pure a : Attempt α).LeavesAlone target answers :=
  fun _ _ _ => .pure rfl

theorem bind {x : Attempt α} {f : α → Attempt β} (first : x.LeavesAlone target answers)
    (rest : ∀ a, (f a).LeavesAlone target answers) : (x >>= f).LeavesAlone target answers := by
  intro P s kept
  refine .bind ((first P s kept).mono fun a s' same => ?_)
  exact (rest a P s' (kept.of_landings same)).mono fun b s'' same' => same'.trans same

theorem change {c : Change} (other : ∀ patch, c ≠ .merge target patch) :
    (Attempt.change c).LeavesAlone target answers := by
  intro P s kept
  refine .change fun s' moved answer s'' effect => ?_
  cases effect with
  | elsewhere => exact ⟨kept.of_landings moved, fun _ => moved, fun _ => trivial⟩
  | refused | landed => exact absurd rfl (other _)

theorem delete (inNamespace name : String) :
    (Attempt.delete inNamespace name).LeavesAlone target answers := by
  intro P s kept
  refine .delete fun s' moved answer s'' effect => ?_
  cases effect with
  | elsewhere => exact ⟨kept.of_landings moved, fun _ => moved, fun _ => trivial⟩

theorem routesOf (owner : Route.Owner) :
    (Attempt.routesOf owner).LeavesAlone target answers := by
  intro P s kept
  refine .routesOf fun s' moved answer s'' same => ?_
  have still : s''.landings = s.landings := (congrArg landings same).trans moved
  exact ⟨kept.of_landings still, fun _ _ => still, fun _ _ => trivial⟩

theorem forM {γ : Type} {f : γ → Attempt PUnit} {xs : List γ}
    (each : ∀ x ∈ xs, (f x).LeavesAlone target answers) :
    (xs.forM f).LeavesAlone target answers :=
  forM_closed (.pure _) (fun _ _ first rest => first.bind fun _ => rest) each

end LeavesAlone

theorem Ensures.landing {patch : Json} {s : Contended} (kept : s.All P)
    (good : ∀ found, P found (patch.mergeInto found)) :
    (Attempt.change (.merge target patch)).Ensures (surroundings target answers) (All P) True
      (fun _ s' => s'.All P ∧ s'.landings ≠ []) s := by
  refine .change fun s' moved answer s'' effect => ?_
  have kept := kept.of_landings moved
  cases effect with
  | elsewhere other => exact absurd rfl (other patch)
  | refused failure => exact ⟨kept, nofun, fun _ => trivial⟩
  | landed => exact ⟨kept.land good, fun _ => ⟨kept.land good, nofun⟩, fun _ => trivial⟩

end Attempt

end ServingOperator
