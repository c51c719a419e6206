import ServingOperator.StringMap

namespace ServingOperator.StringMap

variable {α : Type}

theorem get?_of_isEmpty {m : StringMap α} (empty : m.isEmpty = true) (key : String) :
    m.get? key = none := by
  rw [get?, List.isEmpty_iff.mp empty]
  rfl

theorem eq_of_isEmpty {old new : StringMap α} (empty : new.isEmpty = true)
    (kept : ∀ key a, old.get? key = some a → ∃ b, new.get? key = some b) : old = new := by
  apply ext_get?
  intro key
  rw [get?_of_isEmpty empty key]
  cases found : old.get? key with
  | none => rfl
  | some a =>
    obtain ⟨b, given⟩ := kept key a found
    rw [get?_of_isEmpty empty key] at given
    cases given

theorem lookupEntry_of_above {key : String} {entries : List (String × α)}
    (above : ∀ e ∈ entries, key < e.1) : lookupEntry key entries = none := by
  induction entries with
  | nil => rfl
  | cons e entries ih =>
    have differ : e.1 ≠ key := fun same => String.lt_irrefl key (same ▸ above e List.mem_cons_self)
    rw [lookupEntry, if_neg differ, ih fun e member => above e (List.mem_cons_of_mem _ member)]

theorem get?_foldl_insert {entries : List (String × α)} (rising : Rising entries)
    (m : StringMap α) (key : String) :
    (entries.foldl (fun m e => m.insert e.1 e.2) m).get? key =
      (lookupEntry key entries).or (m.get? key) := by
  induction entries generalizing m with
  | nil => rfl
  | cons e entries ih =>
    obtain ⟨above, tail⟩ := List.pairwise_cons.mp rising
    rw [List.foldl_cons, ih tail, get?_insert, lookupEntry]
    by_cases same : e.1 = key
    · subst same
      simp [lookupEntry_of_above above]
    · simp [same]

theorem get?_insertAll (a b : StringMap α) (key : String) :
    (a.insertAll b).get? key = (b.get? key).or (a.get? key) :=
  get?_foldl_insert b.rising a key

theorem insertAll_insertAll (a b : StringMap α) :
    (a.insertAll b).insertAll b = a.insertAll b := by
  apply ext_get?
  intro key
  rw [get?_insertAll, get?_insertAll]
  cases b.get? key <;> rfl

def valuesOf (key : String) (pairs : List (String × α)) : List α :=
  pairs.filterMap fun e => if e.1 = key then some e.2 else none

theorem valuesOf_cons_self (key : String) (value : α) (pairs : List (String × α)) :
    valuesOf key ((key, value) :: pairs) = value :: valuesOf key pairs :=
  List.filterMap_cons_some (if_pos rfl)

theorem valuesOf_cons_of_ne {key other : String} (h : other ≠ key) (value : α)
    (pairs : List (String × α)) : valuesOf key ((other, value) :: pairs) = valuesOf key pairs :=
  List.filterMap_cons_none (if_neg h)

theorem valuesOf_append (key : String) (front back : List (String × α)) :
    valuesOf key (front ++ back) = valuesOf key front ++ valuesOf key back :=
  List.filterMap_append

theorem mem_valuesOf {key : String} {value : α} {pairs : List (String × α)} :
    value ∈ valuesOf key pairs ↔ (key, value) ∈ pairs := by
  simp [valuesOf, List.mem_filterMap]

theorem valuesOf_of_perm {pairs other : List (String × α)} (once : (pairs.map (·.1)).Nodup)
    (perm : pairs.Perm other) (key : String) : valuesOf key pairs = valuesOf key other := by
  induction pairs generalizing other with
  | nil => rw [List.nil_perm.mp perm]
  | cons e pairs ih =>
    obtain ⟨name, value⟩ := e
    obtain ⟨fresh, once⟩ := List.nodup_cons.mp once
    obtain ⟨front, back, rfl⟩ := List.append_of_mem (perm.subset List.mem_cons_self)
    have rest := ih once (perm.trans List.perm_middle).cons_inv
    rw [valuesOf_append] at rest ⊢
    by_cases same : name = key
    · subst same
      have absent : valuesOf name pairs = [] :=
        List.eq_nil_iff_forall_not_mem.mpr fun value found =>
          fresh (List.mem_map.mpr ⟨_, mem_valuesOf.mp found, rfl⟩)
      obtain ⟨no_front, no_back⟩ := List.append_eq_nil_iff.mp (rest.symm.trans absent)
      rw [valuesOf_cons_self, valuesOf_cons_self, absent, no_front, no_back, List.nil_append]
    · rw [valuesOf_cons_of_ne same, valuesOf_cons_of_ne same, rest]

theorem get?_ofList (pairs : List (String × α)) (key : String) :
    (ofList pairs).get? key = (valuesOf key pairs).getLast? := by
  have run : ∀ m : StringMap α, (pairs.foldl (fun m e => m.insert e.1 e.2) m).get? key =
      (valuesOf key pairs).getLast?.or (m.get? key) := by
    induction pairs with
    | nil => exact fun m => rfl
    | cons e pairs ih =>
      intro m
      obtain ⟨k, value⟩ := e
      rw [List.foldl_cons, ih, get?_insert]
      by_cases same : k = key
      · subst same
        rw [valuesOf_cons_self, List.getLast?_cons, if_pos rfl]
        cases (valuesOf k pairs).getLast? <;> rfl
      · rw [valuesOf_cons_of_ne same, if_neg same]
  rw [ofList, run, get?_empty, Option.or_none]

theorem ofList_entries (m : StringMap α) : ofList m.entries = m := by
  apply ext_get?
  intro key
  have whole : (ofList m.entries).get? key = (m.get? key).or ((∅ : StringMap α).get? key) :=
    get?_insertAll ∅ m key
  rw [whole, get?_empty, Option.or_none]

end ServingOperator.StringMap
