import ServingOperator.Proofs.Route.Selection

namespace ServingOperator

abbrev RouteTable := String → String → Option Route

/-- What an applied route asks for is found in the route that is kept; there may be more labels and
    annotations in it. -/
structure Route.CarriedBy (applied kept : Route) : Prop where
  labels : ∀ key value, applied.metadata.labelMap.get? key = some value →
    kept.metadata.labelMap.get? key = some value
  annotations : ∀ key value, applied.metadata.annotationMap.get? key = some value →
    kept.metadata.annotationMap.get? key = some value
  spec : kept.spec = applied.spec

theorem Route.CarriedBy.owner? {applied kept : Route} (h : applied.CarriedBy kept) {o : Owner}
    (own : applied.owner? = some o) : kept.owner? = some o := by
  obtain ⟨name, inNamespace⟩ := owner?_eq_some_iff.mp own
  exact owner?_eq_some_iff.mpr ⟨h.labels _ _ name, h.labels _ _ inNamespace⟩

theorem Route.CarriedBy.refl (r : Route) : r.CarriedBy r :=
  ⟨fun _ _ h => h, fun _ _ h => h, rfl⟩

namespace RouteTable

def Holds (table : RouteTable) (o : Route.Owner) (inNamespace name : String) : Prop :=
  ∃ r, table inNamespace name = some r ∧ r.owner? = some o

def Addressed (table : RouteTable) : Prop :=
  ∀ inNamespace name r, table inNamespace name = some r →
    r.key = (some inNamespace, some name)

def SameBut (inNamespace name : String) (before after : RouteTable) : Prop :=
  ∀ {space n}, (space, n) ≠ (inNamespace, name) → after space n = before space n

structure Applied (inNamespace name : String) (route : Route) (before after : RouteTable) :
    Prop where
  carried : ∃ r, after inNamespace name = some r ∧ route.CarriedBy r
  elsewhere : SameBut inNamespace name before after

structure Deleted (inNamespace name : String) (before after : RouteTable) : Prop where
  gone : after inNamespace name = none
  elsewhere : SameBut inNamespace name before after

def Lists (reader : Selector.Reader) (o : Route.Owner) (table : RouteTable)
    (shown : List Route) : Prop :=
  ∀ r, r ∈ shown ↔ (∃ inNamespace name, table inNamespace name = some r) ∧
    reader.selects o.selector r.metadata.labelMap = true

variable {table : RouteTable} {o : Route.Owner} {inNamespace name : String}

theorem Holds.of_deleted {after : RouteTable} {space n : String}
    (h : Deleted inNamespace name table after) (held : after.Holds o space n) :
    table.Holds o space n ∧ (space, n) ≠ (inNamespace, name) := by
  obtain ⟨r, kept, own⟩ := held
  have other : (space, n) ≠ (inNamespace, name) := by
    intro same
    cases same
    rw [h.gone] at kept
    cases kept
  rw [h.elsewhere other] at kept
  exact ⟨⟨r, kept, own⟩, other⟩

theorem Holds.of_applied {after : RouteTable} {space n : String} {route : Route}
    (held : after.Holds o space n) (h : Applied inNamespace name route table after)
    (other : (space, n) ≠ (inNamespace, name)) : table.Holds o space n := by
  obtain ⟨r, kept, own⟩ := held
  exact ⟨r, (h.elsewhere other).symm.trans kept, own⟩

theorem Holds.owner_eq {o' : Route.Owner} (held : table.Holds o inNamespace name)
    (held' : table.Holds o' inNamespace name) : o = o' := by
  obtain ⟨r, kept, own⟩ := held
  obtain ⟨r', kept', own'⟩ := held'
  cases kept.symm.trans kept'
  exact Option.some.inj (own.symm.trans own')

end RouteTable

namespace Route

theorem address_eq_some_iff {r : Route} {inNamespace name : String} :
    (do return (← r.metadata.inNamespace, ← r.metadata.name)) = some (inNamespace, name) ↔
      r.key = (some inNamespace, some name) := by
  unfold key
  cases r.metadata.inNamespace <;> cases r.metadata.name <;> simp

theorem mem_stale {existing desired : List Route} {inNamespace name : String} :
    (inNamespace, name) ∈ stale existing desired ↔
      (∃ r ∈ existing, r.key = (some inNamespace, some name)) ∧
        ∀ d ∈ desired, d.key ≠ (some inNamespace, some name) := by
  unfold stale
  simp only [List.mem_filterMap, List.mem_filter, address_eq_some_iff]
  constructor
  · rintro ⟨r, ⟨member, fresh⟩, place⟩
    simp only [place, Bool.not_eq_true', List.any_eq_false, decide_eq_true_eq] at fresh
    exact ⟨⟨r, member, place⟩, fresh⟩
  · rintro ⟨⟨r, member, place⟩, fresh⟩
    refine ⟨r, ⟨member, ?_⟩, place⟩
    simpa only [place, Bool.not_eq_true', List.any_eq_false, decide_eq_true_eq] using fresh

theorem nodup_stale {existing : List Route} (once : (existing.map key).Nodup)
    (desired : List Route) : (stale existing desired).Nodup := by
  have apart : existing.Pairwise fun r r' => r.key ≠ r'.key := List.pairwise_map.mp once
  refine (apart.filter _).filterMap _ fun r r' differ place found place' found' => ?_
  rintro rfl
  exact differ ((address_eq_some_iff.mp found).trans (address_eq_some_iff.mp found').symm)

theorem mem_stale_of_lists {reader : Selector.Reader} {o : Owner} (plain : o.Plain)
    {table : RouteTable} (addressed : table.Addressed) {existing : List Route}
    (lists : table.Lists reader o existing) {desired : List Route} {inNamespace name : String} :
    (inNamespace, name) ∈ stale existing desired ↔
      table.Holds o inNamespace name ∧ ∀ d ∈ desired, d.key ≠ (some inNamespace, some name) := by
  rw [mem_stale]
  refine and_congr_left fun _ => ?_
  constructor
  · rintro ⟨r, member, place⟩
    obtain ⟨⟨space, n, kept⟩, selected⟩ := (lists r).mp member
    have same := (addressed _ _ _ kept).symm.trans place
    cases same
    exact ⟨r, kept, (selects_selector reader plain r).mp selected⟩
  · rintro ⟨r, kept, own⟩
    have selected := (selects_selector reader plain r).mpr own
    exact ⟨r, (lists r).mpr ⟨⟨_, _, kept⟩, selected⟩, addressed _ _ _ kept⟩

end Route

end ServingOperator
