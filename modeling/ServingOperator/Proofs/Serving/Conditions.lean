import Mathlib.Data.List.Nodup
import ServingOperator.Serving

namespace ServingOperator

namespace Condition

def recorded (type : String) (f : Finding) (now : Instant) : Option Condition → Condition
  | some c => c.update f now
  | none => ofFinding type f now

/-- A condition that says what a finding says, whenever it came to that. -/
structure States (c : Condition) (f : Finding) : Prop where
  status : c.status = f.status
  reason : c.reason = f.reason
  message : c.message = f.message

theorem recorded_states (type : String) (f : Finding) (now : Instant) (old : Option Condition) :
    (recorded type f now old).States f := by
  cases old <;> exact ⟨rfl, rfl, rfl⟩

theorem update_of_states {c : Condition} {f : Finding} (h : c.States f) (now : Instant) :
    c.update f now = c := by
  obtain ⟨type, status, reason, message, time⟩ := c
  obtain ⟨sameStatus, sameReason, sameMessage⟩ := h
  dsimp only at sameStatus sameReason sameMessage
  subst sameStatus sameReason sameMessage
  simp [update]

theorem update_update (c : Condition) {f g : Finding} (same : f.status = g.status)
    (now : Instant) : (c.update f now).update g now = c.update g now := by
  simp [update, same]

theorem find?_record (type other : String) (f : Finding) (now : Instant) (cs : List Condition) :
    (record type f now cs).find? (·.type = other) =
      if type = other then some (recorded type f now (cs.find? (·.type = type)))
      else cs.find? (·.type = other) := by
  induction cs with
  | nil => by_cases h : type = other <;> simp [record, recorded, ofFinding, h]
  | cons c cs ih =>
    rw [record]
    by_cases same : c.type = type
    · rw [if_pos same, List.find?_cons, List.find?_cons, List.find?_cons]
      have kept : (c.update f now).type = c.type := rfl
      by_cases h : type = other
      · simp [recorded, kept, same, h]
      · simp [kept, same, h]
    · rw [if_neg same, List.find?_cons, List.find?_cons, List.find?_cons, ih]
      by_cases h : type = other
      · subst h
        simp [same]
      · simp [h]

theorem record_of_states {type : String} {f : Finding} {cs : List Condition} {c : Condition}
    (found : cs.find? (·.type = type) = some c) (stated : c.States f) (now : Instant) :
    record type f now cs = cs := by
  induction cs with
  | nil => simp at found
  | cons head cs ih =>
    rw [List.find?_cons] at found
    rw [record]
    by_cases same : head.type = type
    · simp only [same, decide_true] at found
      cases found
      rw [if_pos same, update_of_states stated]
    · simp only [same, decide_false] at found
      rw [if_neg same, ih found]

theorem record_record (type : String) {f g : Finding} (same : f.status = g.status)
    (now : Instant) (cs : List Condition) :
    record type g now (record type f now cs) = record type g now cs := by
  induction cs with
  | nil => simp [record, ofFinding, update, same]
  | cons c cs ih =>
    by_cases h : c.type = type
    · have kept : (c.update f now).type = type := h
      simp only [record, if_pos h, if_pos kept, update_update c same]
    · simp only [record, if_neg h, ih]

theorem mem_record {type : String} {f : Finding} {now : Instant} {cs : List Condition}
    {c : Condition} (h : c ∈ record type f now cs) : c.type = type ∧ c.States f ∨ c ∈ cs := by
  induction cs with
  | nil =>
    have new : c = ofFinding type f now := by simpa [record] using h
    exact .inl (new ▸ ⟨rfl, rfl, rfl, rfl⟩)
  | cons head cs ih =>
    rw [record] at h
    split at h
    · rename_i same
      rcases List.mem_cons.mp h with rfl | h
      · exact .inl ⟨same, rfl, rfl, rfl⟩
      · exact .inr (List.mem_cons_of_mem _ h)
    · rcases List.mem_cons.mp h with rfl | h
      · exact .inr List.mem_cons_self
      · exact (ih h).imp_right (List.mem_cons_of_mem _)

theorem map_type_record (type : String) (f : Finding) (now : Instant) (cs : List Condition) :
    (record type f now cs).map (·.type) =
      if type ∈ cs.map (·.type) then cs.map (·.type) else cs.map (·.type) ++ [type] := by
  induction cs with
  | nil => simp [record, ofFinding]
  | cons c cs ih =>
    by_cases same : c.type = type
    · simp [record, same, update]
    · have differ : type ≠ c.type := fun h => same h.symm
      rw [record, if_neg same, List.map_cons, ih, List.map_cons]
      by_cases present : type ∈ cs.map (·.type)
      · simp only [present, if_true, List.mem_cons, or_true]
      · simp only [present, if_false, List.mem_cons, differ, or_self, List.cons_append]

section

variable {type : String} {types : List String} (own : type ∈ types)

include own

theorem filter_record (f : Finding) (now : Instant) (cs : List Condition) :
    ((record type f now cs).filter fun c => c.type ∉ types) =
      cs.filter fun c => c.type ∉ types := by
  induction cs with
  | nil => simp [record, ofFinding, own]
  | cons c cs ih =>
    rw [record]
    by_cases same : c.type = type
    · have kept : (c.update f now).type = c.type := rfl
      simp [kept, same, own]
    · rw [if_neg same, List.filter_cons, List.filter_cons, ih]

theorem filter_remove (cs : List Condition) :
    ((cs.filter (·.type ≠ type)).filter fun c => c.type ∉ types) =
      cs.filter fun c => c.type ∉ types := by
  rw [List.filter_filter]
  refine List.filter_congr fun c _ => ?_
  by_cases same : c.type = type <;> simp [same, own]

end

end Condition

namespace ServingStatus

def States (s : ServingStatus) (type : String) (f : Condition.Finding) : Prop :=
  ∃ c, s.condition? type = some c ∧ c.States f

def DistinctTypes (s : ServingStatus) : Prop := (s.conditions.map (·.type)).Nodup

theorem type_of_condition? {s : ServingStatus} {type : String} {c : Condition}
    (found : s.condition? type = some c) : c.type = type := by
  have holds := List.find?_some found
  exact of_decide_eq_true holds

theorem condition?_eq_none_iff (s : ServingStatus) (type : String) :
    s.condition? type = none ↔ type ∉ s.conditions.map (·.type) := by
  simp [condition?, List.find?_eq_none]

theorem condition?_setCondition (s : ServingStatus) (type other : String)
    (f : Condition.Finding) (now : Instant) :
    (s.setCondition type f now).condition? other =
      if type = other then some (Condition.recorded type f now (s.condition? type))
      else s.condition? other :=
  Condition.find?_record type other f now s.conditions

theorem condition?_removeCondition (s : ServingStatus) (type other : String) :
    (s.removeCondition type).condition? other =
      if type = other then none else s.condition? other := by
  simp only [condition?, removeCondition, List.find?_filter]
  by_cases h : type = other
  · subst h
    simp
  · rw [if_neg h]
    congr 1
    funext c
    by_cases hc : c.type = other
    · simp [hc, Ne.symm h]
    · simp [hc]

theorem states_setCondition (s : ServingStatus) (type : String) (f : Condition.Finding)
    (now : Instant) : (s.setCondition type f now).States type f := by
  refine ⟨_, ?_, Condition.recorded_states type f now (s.condition? type)⟩
  rw [condition?_setCondition, if_pos rfl]

theorem states_setCondition_of_ne {type other : String} (differ : type ≠ other)
    (s : ServingStatus) (f g : Condition.Finding) (now : Instant) :
    (s.setCondition type f now).States other g ↔ s.States other g := by
  simp only [States, condition?_setCondition, if_neg differ]

theorem setCondition_of_states {s : ServingStatus} {type : String} {f : Condition.Finding}
    (h : s.States type f) (now : Instant) : s.setCondition type f now = s := by
  obtain ⟨c, found, stated⟩ := h
  rw [setCondition, Condition.record_of_states found stated]

theorem setCondition_setCondition (s : ServingStatus) (type : String)
    {f g : Condition.Finding} (same : f.status = g.status) (now : Instant) :
    (s.setCondition type f now).setCondition type g now = s.setCondition type g now := by
  simp only [setCondition, Condition.record_record type same now s.conditions]

theorem distinctTypes_setCondition {s : ServingStatus} (h : s.DistinctTypes) (type : String)
    (f : Condition.Finding) (now : Instant) : (s.setCondition type f now).DistinctTypes := by
  unfold DistinctTypes at h ⊢
  rw [setCondition, Condition.map_type_record]
  split
  · exact h
  · rename_i absent
    rw [← List.concat_eq_append]
    exact h.concat absent

theorem distinctTypes_removeCondition {s : ServingStatus} (h : s.DistinctTypes)
    (type : String) : (s.removeCondition type).DistinctTypes :=
  h.sublist (List.filter_sublist.map _)

theorem condition?_of_mem {s : ServingStatus} (h : s.DistinctTypes) {c : Condition}
    (member : c ∈ s.conditions) : s.condition? c.type = some c := by
  unfold DistinctTypes at h
  unfold condition?
  generalize s.conditions = cs at h member
  induction cs with
  | nil => cases member
  | cons head cs ih =>
    rw [List.map_cons, List.nodup_cons] at h
    rw [List.find?_cons]
    rcases List.mem_cons.mp member with rfl | member
    · simp
    · have differ : head.type ≠ c.type := fun same => h.1 (same ▸ List.mem_map_of_mem member)
      simpa [differ] using ih h.2 member

end ServingStatus

end ServingOperator
