import Mathlib.Data.List.Induction
import Mathlib.Data.List.Nodup
import ServingOperator.Serving.Defaults

namespace ServingOperator

namespace ResourceOverride

def containers (entries : List ResourceOverride) : List String := entries.map (·.container)

theorem containers_concat (entries : List ResourceOverride) (entry : ResourceOverride) :
    containers (entries ++ [entry]) = containers entries ++ [entry.container] :=
  List.map_append

theorem containers_put (entry : ResourceOverride) (entries : List ResourceOverride) :
    containers (entry.put entries) =
      if entry.container ∈ containers entries then containers entries
      else containers entries ++ [entry.container] := by
  induction entries with
  | nil => rfl
  | cons e entries ih =>
    rw [put]
    by_cases same : e.container = entry.container
    · simp [containers, same]
    · have differ : entry.container ≠ e.container := fun h => same h.symm
      simp only [containers, List.map_cons, if_neg same] at ih ⊢
      rw [ih]
      by_cases present : entry.container ∈ entries.map (·.container)
      · simp only [present, if_true, List.mem_cons, or_true]
      · simp only [present, if_false, List.mem_cons, differ, or_self, List.cons_append]

theorem nodup_containers_put {entries : List ResourceOverride} (h : (containers entries).Nodup)
    (entry : ResourceOverride) : (containers (entry.put entries)).Nodup := by
  rw [containers_put]
  split
  · exact h
  · rename_i absent
    rw [← List.concat_eq_append]
    exact h.concat absent

theorem put_of_absent {entry : ResourceOverride} {entries : List ResourceOverride}
    (absent : entry.container ∉ containers entries) : entry.put entries = entries ++ [entry] := by
  induction entries with
  | nil => rfl
  | cons e entries ih =>
    simp only [containers, List.map_cons, List.mem_cons, not_or] at absent
    rw [put, if_neg (Ne.symm absent.1), ih absent.2, List.cons_append]

theorem collapse_concat (entries : List ResourceOverride) (entry : ResourceOverride) :
    collapse (entries ++ [entry]) = entry.put (collapse entries) :=
  List.foldl_concat _ _ entry entries

theorem nodup_containers_collapse (entries : List ResourceOverride) :
    (containers (collapse entries)).Nodup := by
  induction entries using List.reverseRecOn with
  | nil => exact List.nodup_nil
  | append_singleton entries entry ih =>
    rw [collapse_concat]
    exact nodup_containers_put ih entry

theorem collapse_of_nodup {entries : List ResourceOverride} (h : (containers entries).Nodup) :
    collapse entries = entries := by
  induction entries using List.reverseRecOn with
  | nil => rfl
  | append_singleton entries entry ih =>
    rw [containers_concat, ← List.concat_eq_append, List.nodup_concat] at h
    obtain ⟨absent, distinct⟩ := h
    rw [collapse_concat, ih distinct, put_of_absent absent]

theorem containers_collapse (entries : List ResourceOverride) :
    containers (collapse entries) = (containers entries).eraseDups := by
  induction entries using List.reverseRecOn with
  | nil => rfl
  | append_singleton entries entry ih =>
    rw [collapse_concat, containers_put, ih, containers_concat, List.eraseDups_append]
    by_cases present : entry.container ∈ containers entries <;>
      simp [List.removeAll, present, List.eraseDups_cons]

theorem find?_put (entry : ResourceOverride) (entries : List ResourceOverride) (name : String) :
    (entry.put entries).find? (·.container = name) =
      if entry.container = name then some entry else entries.find? (·.container = name) := by
  induction entries with
  | nil => by_cases own : entry.container = name <;> simp [put, own]
  | cons e entries ih =>
    rw [put]
    by_cases same : e.container = entry.container
    · rw [if_pos same, List.find?_cons, List.find?_cons, same]
      by_cases own : entry.container = name <;> simp [own]
    · rw [if_neg same, List.find?_cons, List.find?_cons, ih]
      by_cases own : entry.container = name
      · have differ : e.container ≠ name := fun h => same (h.trans own.symm)
        simp [own, differ]
      · by_cases here : e.container = name <;> simp [own, here]

theorem find?_collapse (entries : List ResourceOverride) (name : String) :
    (collapse entries).find? (·.container = name) =
      (entries.filter (·.container = name)).getLast? := by
  induction entries using List.reverseRecOn with
  | nil => rfl
  | append_singleton entries entry ih =>
    rw [collapse_concat, find?_put, ih, List.filter_append]
    by_cases own : entry.container = name <;> simp [own]

theorem any_container_iff (entries : List ResourceOverride) (name : String) :
    entries.any (·.container = name) = true ↔ name ∈ containers entries := by
  simp [containers]

theorem normalize_eq (entries : List ResourceOverride) :
    normalize entries =
      collapse entries ++ if "webhook" ∈ containers entries then [] else [webhook] := by
  have named : (collapse entries).any (·.container = webhook.container) = true ↔
      "webhook" ∈ containers entries := by
    rw [any_container_iff, containers_collapse, List.mem_eraseDups]
    rfl
  unfold normalize
  dsimp only
  by_cases present : "webhook" ∈ containers entries
  · rw [if_pos (named.mpr present), if_pos present, List.append_nil]
  · rw [if_neg (mt named.mp present), if_neg present]

theorem containers_normalize (entries : List ResourceOverride) :
    containers (normalize entries) =
      (containers entries).eraseDups ++
        if "webhook" ∈ containers entries then [] else ["webhook"] := by
  rw [normalize_eq, containers, List.map_append]
  refine congrArg₂ (· ++ ·) (containers_collapse entries) ?_
  split <;> rfl

theorem nodup_containers_normalize (entries : List ResourceOverride) :
    (containers (normalize entries)).Nodup := by
  have distinct := nodup_containers_collapse entries
  rw [containers_collapse] at distinct
  rw [containers_normalize]
  split
  · rwa [List.append_nil]
  · rename_i absent
    rw [← List.concat_eq_append]
    exact distinct.concat (mt List.mem_eraseDups.mp absent)

theorem webhook_mem_normalize (entries : List ResourceOverride) :
    (normalize entries).any (·.container = webhook.container) = true := by
  rw [any_container_iff, containers_normalize, List.mem_append, List.mem_eraseDups]
  show "webhook" ∈ containers entries ∨
    "webhook" ∈ if "webhook" ∈ containers entries then [] else ["webhook"]
  by_cases present : "webhook" ∈ containers entries
  · exact .inl present
  · rw [if_neg present]
    exact .inr (List.mem_singleton_self _)

theorem normalize_normalize (entries : List ResourceOverride) :
    normalize (normalize entries) = normalize entries := by
  rw [normalize, collapse_of_nodup (nodup_containers_normalize entries)]
  exact if_pos (webhook_mem_normalize entries)

theorem find?_normalize (entries : List ResourceOverride) (name : String) :
    (normalize entries).find? (·.container = name) =
      (entries.filter (·.container = name)).getLast?.or
        (if name = "webhook" then some webhook else none) := by
  rw [normalize_eq, List.find?_append, find?_collapse]
  by_cases asked : name = "webhook"
  · subst asked
    by_cases present : "webhook" ∈ containers entries
    · have kept : entries.filter (·.container = "webhook") ≠ [] := by
        simpa [containers] using present
      rw [if_pos present, List.getLast?_eq_some_getLast kept]
      rfl
    · rw [if_neg present]
      rfl
  · by_cases present : "webhook" ∈ containers entries
    · simp [present, asked]
    · simp [present, asked, webhook, Ne.symm asked]

end ResourceOverride

/-- Resources come with one entry for each container: the last that was given, at the place of the
    first. The webhook gets a limit of memory if it has no entry, and the rest of the spec stays. -/
theorem ServingSpec.normalizeResources_collapses (spec : ServingSpec) :
    let given := spec.resources
    let result := spec.normalizeResources
    let containers := ResourceOverride.containers
    (containers result.resources).Nodup ∧
    containers result.resources = (containers given).eraseDups ++
      (if "webhook" ∈ containers given then [] else ["webhook"]) ∧
    (∀ name, result.resources.find? (·.container = name) =
      (given.filter (·.container = name)).getLast?.or
        (if name = "webhook" then
          some ⟨"webhook", none, some (StringMap.ofList [("memory", ⟨"1024Mi"⟩)])⟩
        else none)) ∧
    result.normalizeResources = result ∧
    result = { spec with resources := result.resources } := by
  intro given result containers
  refine ⟨ResourceOverride.nodup_containers_normalize given,
    ResourceOverride.containers_normalize given,
    fun name => ResourceOverride.find?_normalize given name, ?_, rfl⟩
  exact congrArg (fun resources => { spec with resources })
    (ResourceOverride.normalize_normalize given)

end ServingOperator
