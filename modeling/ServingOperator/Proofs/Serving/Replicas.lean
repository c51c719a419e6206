import ServingOperator.Proofs.Serving.PassHistory
import ServingOperator.Wire.ServingFormat

namespace ServingOperator

def ServingSpec.askedReplicas (spec : ServingSpec) : Int32 :=
  (spec.highAvailability.getD {}).replicas

theorem one_le_iff_of_ne_zero {n : Int32} (given : n ≠ 0) : 1 ≤ n ↔ 0 ≤ n := by
  have apart : n.toInt ≠ 0 := fun same => given (Int32.toInt_inj.mp same)
  have one : (1 : Int32).toInt = 1 := rfl
  have zero : (0 : Int32).toInt = 0 := rfl
  rw [Int32.le_iff_toInt_le, Int32.le_iff_toInt_le, one, zero]
  omega

namespace HighAvailability

theorem replicas_filled (block : Option HighAvailability) :
    let asked := (block.getD {}).replicas
    (filled block).replicas = if asked = 0 then 2 else asked := by
  intro asked
  unfold filled
  exact apply_ite replicas _ _ _

theorem one_le_replicas_filled_iff (block : Option HighAvailability) :
    1 ≤ (filled block).replicas ↔ 0 ≤ (block.getD {}).replicas := by
  rw [replicas_filled]
  by_cases none_ : (block.getD {}).replicas = 0
  · rw [if_pos none_, none_]
    decide
  · rw [if_neg none_]
    exact one_le_iff_of_ne_zero none_

end HighAvailability

namespace KnativeServing

theorem highAvailability_resolve_passes (serving : KnativeServing) (earlier : List Occasion)
    (last : Occasion) :
    ((serving.passes earlier).resolve last.facts last.config last.now).spec.highAvailability =
      some (HighAvailability.filled serving.spec.highAvailability) := by
  have resolved := congrArg (·.spec.highAvailability) (ServingSpec.resolve_eq
    (serving.passes earlier).spec last.config.images last.facts.domain last.facts.loggingHost
    last.config.monitoring)
  exact resolved.trans (congrArg some (settlesAlike_passes serving earlier).availability)

/-- After any passes the replicas are those that were asked for at first, or two where none were;
    so there is at least one unless fewer than none were asked for. -/
theorem replicas_resolved (serving : KnativeServing) (earlier : List Occasion) (last : Occasion) :
    let asked := serving.spec.askedReplicas
    ∃ block : HighAvailability,
      ((serving.passes earlier).resolve last.facts last.config last.now).spec.highAvailability =
        some block ∧
      block.replicas = (if asked = 0 then 2 else asked) ∧ (1 ≤ block.replicas ↔ 0 ≤ asked) :=
  ⟨_, highAvailability_resolve_passes serving earlier last, HighAvailability.replicas_filled _,
    HighAvailability.one_le_replicas_filled_iff _⟩

/-- A document that asks for minus one replica is read, and gets them. -/
theorem replicas_resolved_negative :
    ∃ spec : ServingSpec,
      ServingSpec.format.decode
        (.obj [("high-availability", .obj [("replicas", .int (-1))])]) = some spec ∧
      let serving : KnativeServing := { metadata := {}, spec }
      ∃ block : HighAvailability,
        (serving.resolve { version := "v1.28.3" } {} ⟨0, 0⟩).spec.highAvailability = some block ∧
          ¬1 ≤ block.replicas := by
  refine ⟨{ highAvailability := some ⟨-1⟩ }, by decide, ⟨-1⟩, ?_, by decide⟩
  decide

end KnativeServing

end ServingOperator
