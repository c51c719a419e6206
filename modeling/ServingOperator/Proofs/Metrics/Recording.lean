import ServingOperator.Metrics.Exposition

namespace ServingOperator

namespace Series

variable {κ α : Type} {identify : κ → UInt64} {all : List (Series κ α)}

structure Keyed (identify : κ → UInt64) (all : List (Series κ α)) : Prop where
  own : ∀ s ∈ all, s.id = identify s.labels
  apart : all.Pairwise fun s t => s.id ≠ t.id

theorem Keyed.nil : Keyed identify ([] : List (Series κ α)) := ⟨by simp, .nil⟩

theorem Keyed.tail {s : Series κ α} (keyed : Keyed identify (s :: all)) : Keyed identify all :=
  ⟨fun t member => keyed.own t (List.mem_cons_of_mem _ member), keyed.apart.of_cons⟩

theorem mem_update {id : UInt64} {labels : κ} {start : α} {change : α → α} {s : Series κ α}
    (member : s ∈ update id labels start change all) :
    (∃ t ∈ all, s.id = t.id ∧ s.labels = t.labels) ∨ s.id = id ∧ s.labels = labels := by
  induction all with
  | nil =>
    have new : s = ⟨id, labels, change start⟩ := by simpa [update] using member
    simp [new]
  | cons t rest ih =>
    rw [update] at member
    split at member
    · rcases List.mem_cons.mp member with rfl | later
      · exact .inl ⟨t, List.mem_cons_self, rfl, rfl⟩
      · exact .inl ⟨s, List.mem_cons_of_mem _ later, rfl, rfl⟩
    · rcases List.mem_cons.mp member with rfl | later
      · exact .inl ⟨s, List.mem_cons_self, rfl, rfl⟩
      · rcases ih later with ⟨u, found, same⟩ | added
        · exact .inl ⟨u, List.mem_cons_of_mem _ found, same⟩
        · exact .inr added

theorem Keyed.update (keyed : Keyed identify all) (labels : κ) (start : α) (change : α → α) :
    Keyed identify (Series.update (identify labels) labels start change all) := by
  constructor
  · intro s member
    rcases mem_update member with ⟨t, found, id, same⟩ | ⟨id, same⟩
    · rw [id, same, keyed.own t found]
    · rw [id, same]
  · induction all with
    | nil => simp [Series.update]
    | cons t rest ih =>
      obtain ⟨differ, -⟩ := List.pairwise_cons.mp keyed.apart
      rw [Series.update]
      split
      · exact List.pairwise_cons.mpr ⟨differ, keyed.tail.apart⟩
      · rename_i other
        refine List.pairwise_cons.mpr ⟨fun s member => ?_, ih keyed.tail⟩
        rcases mem_update member with ⟨u, found, id, -⟩ | ⟨id, -⟩
        · rw [id]
          exact differ u found
        · rw [id]
          exact other

theorem Keyed.remove (keyed : Keyed identify all) (id : UInt64) :
    Keyed identify (Series.remove id all) :=
  ⟨fun s member => keyed.own s (List.mem_filter.mp member |>.1), keyed.apart.filter _⟩

variable [DecidableEq κ]

theorem Keyed.find?_labels (keyed : Keyed identify all) {s : Series κ α} (member : s ∈ all) :
    all.find? (·.labels = s.labels) = some s := by
  induction all with
  | nil => cases member
  | cons t rest ih =>
    obtain ⟨differ, -⟩ := List.pairwise_cons.mp keyed.apart
    rcases List.mem_cons.mp member with rfl | later
    · simp
    · have other : t.labels ≠ s.labels := by
        intro same
        apply differ s later
        rw [keyed.own t List.mem_cons_self, keyed.own s member, same]
      simp [other, ih keyed.tail later]

theorem Keyed.find?_update (keyed : Keyed identify all) (labels : κ) (start value shown : α) :
    ((Series.update (identify labels) labels start (fun _ => value) all).find?
      (·.labels = labels)).map (·.value) = some shown ↔
        (∀ s ∈ all, s.id = identify labels → s.labels = labels) ∧ shown = value := by
  induction all with
  | nil => simp [Series.update, eq_comm]
  | cons t rest ih =>
    have differ : ∀ s ∈ rest, t.id ≠ s.id := (List.pairwise_cons.mp keyed.apart).1
    rw [List.forall_mem_cons, Series.update]
    by_cases id : t.id = identify labels
    · have others : ∀ s ∈ rest, s.id ≠ identify labels := fun s found same =>
        differ s found (id.trans same.symm)
      by_cases same : t.labels = labels
      · have only : ∀ s ∈ rest, s.id = identify labels → s.labels = labels :=
          fun s found shared => absurd shared (others s found)
        have everywhere := iff_true_intro only
        simp only [id, same, if_true, List.find?_cons, decide_true, Option.map_some,
          Option.some.injEq, everywhere, implies_true, true_and]
        exact eq_comm
      · have hidden : rest.find? (·.labels = labels) = none := by
          refine List.find?_eq_none.mpr fun s found shown => ?_
          have own := keyed.tail.own s found
          rw [of_decide_eq_true shown] at own
          exact others s found own
        simp [id, same, hidden]
    · have other : t.labels ≠ labels := by
        rintro rfl
        exact id (keyed.own t List.mem_cons_self)
      simp [id, other, ih keyed.tail]

/-- Where no other labels have the identity, an update is shown under its own, and nothing else
    changes. -/
theorem find?_update_of_free (own : ∀ s ∈ all, s.id = identify s.labels) {labels : κ}
    (free : ∀ s ∈ all, s.id = identify labels → s.labels = labels) (start : α) (change : α → α)
    (shown : κ) :
    ((Series.update (identify labels) labels start change all).find?
      (·.labels = shown)).map (·.value) =
        if shown = labels then
          some (change (((all.find? (·.labels = labels)).map (·.value)).getD start))
        else (all.find? (·.labels = shown)).map (·.value) := by
  induction all with
  | nil =>
    by_cases same : shown = labels
    · simp [Series.update, same]
    · simp [Series.update, same, Ne.symm same]
  | cons t rest ih =>
    obtain ⟨ownHead, ownRest⟩ := List.forall_mem_cons.mp own
    obtain ⟨freeHead, freeRest⟩ := List.forall_mem_cons.mp free
    rw [Series.update]
    by_cases id : t.id = identify labels
    · have head : t.labels = labels := freeHead id
      by_cases same : shown = labels
      · simp [id, head, same]
      · simp [id, head, same, Ne.symm same]
    · have head : t.labels ≠ labels := by
        rintro rfl
        exact id ownHead
      by_cases first : t.labels = shown
      · subst first
        simp [id, head]
      · simp [id, head, first, ih ownRest freeRest]

end Series

namespace PassLabels

def own : List PassLabels :=
  [⟨"knativeserving", "success"⟩, ⟨"knativeserving", "error"⟩, ⟨"ingress", "success"⟩,
    ⟨"ingress", "error"⟩]

theorem eq_of_passId : ∀ a ∈ own, ∀ b ∈ own, Metrics.passId a = Metrics.passId b → a = b := by
  decide +kernel

end PassLabels

namespace MetricEvent

def counted? : MetricEvent → Option PassLabels
  | succeeded controller => some ⟨controller, "success"⟩
  | failed controller => some ⟨controller, "error"⟩
  | routesCounted _ _ | routesForgotten _ => none

def IsOwn (event : MetricEvent) : Prop :=
  ∀ labels, event.counted? = some labels → labels ∈ PassLabels.own

end MetricEvent

namespace Metrics

def passCount (m : Metrics) (labels : PassLabels) : Nat :=
  ((m.passes.find? (·.labels = labels)).map (·.value)).getD 0

/-- Metrics in which the passes of the two controllers are counted, and no others. -/
inductive Reported : Metrics → Prop where
  | nothing : Reported {}
  | event {m : Metrics} (before : Reported m) (seconds : Double) {event : MetricEvent}
      (own : event.IsOwn) : Reported (m.record seconds event)

def CountsOwn (m : Metrics) : Prop :=
  ∀ s ∈ m.passes, s.id = passId s.labels ∧ s.labels ∈ PassLabels.own

theorem CountsOwn.countPass {m : Metrics} (counts : m.CountsOwn) {labels : PassLabels}
    (own : labels ∈ PassLabels.own) : (m.countPass labels).CountsOwn := by
  intro s member
  rcases Series.mem_update member with ⟨t, found, id, same⟩ | ⟨id, same⟩
  · rw [id, same]
    exact counts t found
  · rw [id, same]
    exact ⟨rfl, own⟩

theorem Reported.countsOwn {m : Metrics} (reported : m.Reported) : m.CountsOwn := by
  induction reported with
  | nothing => exact fun s member => nomatch member
  | @event m before seconds event own ih =>
    cases event with
    | succeeded controller => exact ih.countPass (own _ rfl)
    | failed controller => exact ih.countPass (own _ rfl)
    | routesCounted owner count => exact ih
    | routesForgotten owner => exact ih

theorem CountsOwn.passCount_countPass {m : Metrics} (counts : m.CountsOwn) {labels : PassLabels}
    (own : labels ∈ PassLabels.own) (shown : PassLabels) :
    (m.countPass labels).passCount shown =
      m.passCount shown + if labels = shown then 1 else 0 := by
  have free : ∀ s ∈ m.passes, s.id = passId labels → s.labels = labels := fun s member same =>
    PassLabels.eq_of_passId _ (counts s member).2 _ own ((counts s member).1.symm.trans same)
  have found := Series.find?_update_of_free (fun s member => (counts s member).1) free 0 (· + 1)
    shown
  rw [passCount, Metrics.countPass, found]
  by_cases same : shown = labels
  · simp [same, passCount]
  · simp [same, Ne.symm same, passCount]

/-- An event raises its own counter by one and no other. -/
theorem Reported.passCount_record {m : Metrics} (reported : m.Reported) (seconds : Double)
    {event : MetricEvent} (own : event.IsOwn) (labels : PassLabels) :
    (m.record seconds event).passCount labels =
      m.passCount labels + if event.counted? = some labels then 1 else 0 := by
  cases event with
  | succeeded controller =>
    simp only [MetricEvent.counted?, Option.some.injEq]
    exact reported.countsOwn.passCount_countPass (own _ rfl) labels
  | failed controller =>
    simp only [MetricEvent.counted?, Option.some.injEq]
    exact reported.countsOwn.passCount_countPass (own _ rfl) labels
  | routesCounted owner count => rfl
  | routesForgotten owner => rfl

theorem Reported.passCount_foldl {m : Metrics} (reported : m.Reported) (seconds : Double)
    {events : List MetricEvent} (own : ∀ event ∈ events, event.IsOwn) (labels : PassLabels) :
    (events.foldl (fun m event => m.record seconds event) m).passCount labels =
      m.passCount labels + events.countP fun event => event.counted? = some labels := by
  induction events generalizing m with
  | nil => rfl
  | cons event events ih =>
    obtain ⟨first, rest⟩ := List.forall_mem_cons.mp own
    rw [List.foldl_cons, ih (reported.event seconds first) rest,
      reported.passCount_record seconds first, List.countP_cons]
    simp only [decide_eq_true_eq]
    omega

inductive Recorded : Metrics → Prop where
  | nothing : Recorded {}
  | event {m : Metrics} (before : Recorded m) (seconds : Double) (event : MetricEvent) :
      Recorded (m.record seconds event)

theorem Recorded.foldl {m : Metrics} (recorded : m.Recorded) (seconds : Double)
    (events : List MetricEvent) :
    (events.foldl (fun m event => m.record seconds event) m).Recorded := by
  induction events generalizing m with
  | nil => exact recorded
  | cons event events ih => exact ih (recorded.event seconds event)

theorem Recorded.keyed {m : Metrics} (recorded : m.Recorded) :
    Series.Keyed routesId m.routes := by
  induction recorded with
  | nothing => exact .nil
  | event before seconds event ih =>
    cases event with
    | succeeded controller => exact ih
    | failed controller => exact ih
    | routesCounted owner count => exact ih.update owner 0 _
    | routesForgotten owner => exact ih.remove _

/-- The series of an ingress is shown for another. -/
def Taken (m : Metrics) (o : Route.Owner) : Prop :=
  ∃ other, other ≠ o ∧ routesId other = routesId o ∧ (m.routeCount? other).isSome = true

variable {m : Metrics}

theorem Recorded.routeCount?_eq_some_iff (recorded : m.Recorded) {o : Route.Owner} {n : Nat} :
    m.routeCount? o = some n ↔ ∃ s ∈ m.routes, s.labels = o ∧ s.value = n := by
  rw [routeCount?, Option.map_eq_some_iff]
  constructor
  · rintro ⟨s, found, rfl⟩
    have shown : s.labels = o := by simpa using List.find?_some found
    exact ⟨s, List.mem_of_find?_eq_some found, shown, rfl⟩
  · rintro ⟨s, member, rfl, rfl⟩
    exact ⟨s, recorded.keyed.find?_labels member, rfl⟩

theorem Recorded.not_taken_iff (recorded : m.Recorded) {o : Route.Owner} :
    ¬m.Taken o ↔ ∀ s ∈ m.routes, s.id = routesId o → s.labels = o := by
  constructor
  · intro free s member shared
    by_cases same : s.labels = o
    · exact same
    have count := recorded.routeCount?_eq_some_iff.mpr ⟨s, member, rfl, rfl⟩
    have alike : routesId s.labels = routesId o := (recorded.keyed.own s member).symm.trans shared
    exact absurd ⟨s.labels, same, alike, by rw [count]; rfl⟩ free
  · rintro only ⟨other, differ, same, shown⟩
    obtain ⟨n, count⟩ := Option.isSome_iff_exists.mp shown
    obtain ⟨s, member, rfl, -⟩ := recorded.routeCount?_eq_some_iff.mp count
    exact differ (only s member ((recorded.keyed.own s member).trans same))

/-- A count is shown for its ingress, up to the greatest one, unless the series is taken. -/
theorem Recorded.routeCount?_setRoutes (recorded : m.Recorded) (o : Route.Owner) (count n : Nat) :
    (m.setRoutes o count).routeCount? o = some n ↔ ¬m.Taken o ∧ n = min count greatestCount := by
  rw [recorded.not_taken_iff]
  exact recorded.keyed.find?_update o 0 _ n

def routeLabels (o : Route.Owner) : List (String × String) :=
  [("ingress", o.name), ("ingress_namespace", o.inNamespace)]

theorem routeLabels_injective : Function.Injective routeLabels := by
  intro o o' same
  cases o
  cases o'
  simp [routeLabels] at same
  simp [same]

theorem Recorded.mem_routeSamples (recorded : m.Recorded) (o : Route.Owner) (sample : Sample) :
    sample ∈ m.routeFamily.samples ∧ sample.labels = routeLabels o ↔
      ∃ n, m.routeCount? o = some n ∧ sample = ⟨routeName, routeLabels o, .ofNat n⟩ := by
  have lines : sample ∈ m.routeFamily.samples ↔
      ∃ s ∈ m.routes, ⟨routeName, routeLabels s.labels, .ofNat s.value⟩ = sample := by
    simp only [routeFamily, Series.sorted, List.mem_map, List.mem_mergeSort, routeLabels]
  rw [lines]
  constructor
  · rintro ⟨⟨s, member, rfl⟩, same⟩
    have own : s.labels = o := routeLabels_injective same
    subst own
    exact ⟨s.value, recorded.routeCount?_eq_some_iff.mpr ⟨s, member, rfl, rfl⟩, rfl⟩
  · rintro ⟨n, count, rfl⟩
    obtain ⟨s, member, rfl, rfl⟩ := recorded.routeCount?_eq_some_iff.mp count
    exact ⟨⟨s, member, rfl⟩, rfl⟩

end Metrics

end ServingOperator
