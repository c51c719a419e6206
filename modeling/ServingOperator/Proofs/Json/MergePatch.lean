import ServingOperator.Json.Basic

namespace ServingOperator.Json

def members : Json → List (String × Json)
  | obj members => members
  | _ => []

def eraseMember (key : String) (members : List (String × Json)) : List (String × Json) :=
  members.filter fun m => m.1 ≠ key

def putMember (key : String) (value : Json) (members : List (String × Json)) :
    List (String × Json) :=
  eraseMember key members ++ [(key, value)]

mutual

def mergeInto : (patch target : Json) → Json
  | obj changes, target => obj (mergeMembers changes target.members)
  | patch, _ => patch

def mergeMembers : (changes members : List (String × Json)) → List (String × Json)
  | [], members => members
  | (key, null) :: rest, members => mergeMembers rest (eraseMember key members)
  | (key, change) :: rest, members =>
    mergeMembers rest
      (putMember key (mergeInto change (((obj members).get? key).getD null)) members)

end

theorem occurrences_append (key : String) (front back : List (String × Json)) :
    occurrences key (front ++ back) = occurrences key front ++ occurrences key back :=
  List.filterMap_append

theorem occurrences_cons_self (key : String) (j : Json) (members : List (String × Json)) :
    occurrences key ((key, j) :: members) = j :: occurrences key members :=
  List.filterMap_cons_some (if_pos rfl)

theorem occurrences_cons_of_ne {key other : String} (h : other ≠ key) (j : Json)
    (members : List (String × Json)) :
    occurrences key ((other, j) :: members) = occurrences key members :=
  List.filterMap_cons_none (if_neg h)

theorem occurrences_map_pair (key : String) (js : List Json) :
    occurrences key (js.map (key, ·)) = js := by
  induction js with
  | nil => rfl
  | cons j js ih => rw [List.map_cons, occurrences_cons_self, ih]

theorem occurrences_map_pair_of_ne {key other : String} (h : key ≠ other) (js : List Json) :
    occurrences other (js.map (key, ·)) = [] := by
  simp [occurrences, h]

theorem occurrences_eq_nil {key : String} {members : List (String × Json)}
    (absent : key ∉ members.map (·.1)) : occurrences key members = [] := by
  refine List.filterMap_eq_nil_iff.mpr ?_
  intro m member
  refine if_neg ?_
  intro same
  exact absent (same ▸ List.mem_map_of_mem member)

theorem occurrences_eraseMember (key other : String) (members : List (String × Json)) :
    occurrences other (eraseMember key members) =
      if key = other then [] else occurrences other members := by
  unfold occurrences eraseMember
  rw [List.filterMap_filter]
  by_cases same : key = other
  · subst same
    rw [if_pos rfl]
    refine List.filterMap_eq_nil_iff.mpr fun m _ => ?_
    by_cases own : m.1 = key <;> simp [own]
  · rw [if_neg same]
    refine congrArg (List.filterMap · members) (funext fun m => ?_)
    by_cases own : m.1 = other
    · simp [own, Ne.symm same]
    · simp [own]

theorem occurrences_putMember (key other : String) (value : Json)
    (members : List (String × Json)) :
    occurrences other (putMember key value members) =
      if key = other then [value] else occurrences other members := by
  have split : occurrences other (putMember key value members) =
      occurrences other (eraseMember key members) ++ occurrences other [(key, value)] :=
    occurrences_append other _ _
  rw [split, occurrences_eraseMember]
  by_cases same : key = other <;> simp [occurrences, same]

theorem get?_members (key : String) (j : Json) : (obj j.members).get? key = j.get? key := by
  cases j <;> rfl

theorem mergeInto_singleton (key : String) {change : Json} (h : change ≠ null) (target : Json) :
    mergeInto (obj [(key, change)]) target =
      obj (putMember key (mergeInto change ((target.get? key).getD null)) target.members) := by
  rw [mergeInto, mergeMembers, mergeMembers, get?_members]
  exact h

theorem get?_putMember (key other : String) (value : Json) (members : List (String × Json)) :
    (obj (putMember key value members)).get? other =
      if key = other then some value else (obj members).get? other := by
  rw [get?, occurrences_putMember]
  split <;> rfl

theorem get?_mergeInto_singleton {change : Json} (h : change ≠ null) (key other : String)
    (target : Json) :
    ((obj [(key, change)]).mergeInto target).get? other =
      if key = other then some (change.mergeInto ((target.get? key).getD null))
      else target.get? other := by
  rw [mergeInto_singleton key h, get?_putMember, get?_members]

/-- What a patch makes of the values of a key: they stay if it does not name the key, a null takes
    them away, and anything else is merged into the last. -/
def replaced : (change? : Option Json) → (before : List Json) → List Json
  | none, before => before
  | some null, _ => []
  | some change, before => [mergeInto change (before.getLast?.getD null)]

theorem replaced_of_ne {change : Json} (h : change ≠ null) (before : List Json) :
    replaced (some change) before = [mergeInto change (before.getLast?.getD null)] := by
  cases change with
  | null => exact absurd rfl h
  | _ => rfl

theorem mergeInto_leaf {patch : Json} (leaf : ∀ changes, patch ≠ obj changes) (target : Json) :
    mergeInto patch target = patch := by
  rw [mergeInto]
  exact leaf

theorem replaced_leaf {change : Json} (h : change ≠ null) (leaf : ∀ changes, change ≠ obj changes)
    (before : List Json) : replaced (some change) before = [change] := by
  rw [replaced_of_ne h, mergeInto_leaf leaf]

theorem mergeInto_ne_null {change : Json} (h : change ≠ null) (target : Json) :
    mergeInto change target ≠ null := by
  cases change with
  | null => exact absurd rfl h
  | obj changes =>
    rw [mergeInto]
    exact nofun
  | _ =>
    rw [mergeInto_leaf]
    · exact h
    · exact nofun

theorem mergeMembers_cons (key : String) (change : Json) (rest members : List (String × Json)) :
    mergeMembers ((key, change) :: rest) members =
      mergeMembers rest (eraseMember key members ++
        (replaced (some change) (occurrences key members)).map (key, ·)) := by
  by_cases removed : change = null
  · subst removed
    rw [mergeMembers, replaced, List.map_nil, List.append_nil]
  · rw [mergeMembers, replaced_of_ne removed]
    · rfl
    · exact removed

theorem occurrences_replaced (key other : String) (change : Json)
    (members : List (String × Json)) :
    occurrences other (eraseMember key members ++
        (replaced (some change) (occurrences key members)).map (key, ·)) =
      if key = other then replaced (some change) (occurrences key members)
      else occurrences other members := by
  rw [occurrences_append, occurrences_eraseMember]
  by_cases same : key = other
  · subst same
    rw [if_pos rfl, if_pos rfl, occurrences_map_pair, List.nil_append]
  · rw [if_neg same, if_neg same, occurrences_map_pair_of_ne same, List.append_nil]

theorem occurrences_mergeMembers {key : String} {changes : List (String × Json)}
    {change? : Option Json} (h : occurrences key changes = change?.toList)
    (members : List (String × Json)) :
    occurrences key (mergeMembers changes members) =
      replaced change? (occurrences key members) := by
  induction changes generalizing members change? with
  | nil =>
    cases change? with
    | none => rw [mergeMembers, replaced]
    | some change => cases h
  | cons first rest ih =>
    obtain ⟨named, change⟩ := first
    rw [mergeMembers_cons]
    by_cases same : named = key
    · subst same
      rw [occurrences_cons_self] at h
      obtain ⟨one, rfl⟩ : ∃ one, change? = some one := by
        cases change? with
        | none => cases h
        | some one => exact ⟨one, rfl⟩
      obtain ⟨rfl, others⟩ := List.cons.inj h
      have untouched : occurrences named rest = (none : Option Json).toList := others
      rw [ih untouched, occurrences_replaced, if_pos rfl, replaced]
    · rw [occurrences_cons_of_ne same] at h
      rw [ih h, occurrences_replaced, if_neg same]

def at? : (j : Json) → (path : List String) → Option Json
  | j, [] => some j
  | j, key :: path => (j.get? key).bind fun next => next.at? path

/-- What a patch gives to a path: a value that replaces whatever is there, or nothing, and then it
    leaves alone what is there. -/
inductive Gives : Json → List String → Option Json → Prop where
  | here {j : Json} (leaf : ∀ changes, j ≠ obj changes) : Gives j [] (some j)
  | absent {changes : List (String × Json)} {key : String} {path : List String}
      (missing : occurrences key changes = []) : Gives (obj changes) (key :: path) none
  | under {changes : List (String × Json)} {key : String} {path : List String} {change : Json}
      {value? : Option Json} (once : occurrences key changes = [change]) (named : change ≠ null)
      (rest : Gives change path value?) : Gives (obj changes) (key :: path) value?

theorem get?_mergeInto_obj (changes : List (String × Json)) {key : String} {change? : Option Json}
    (named : occurrences key changes = change?.toList) (target : Json) :
    ((obj changes).mergeInto target).get? key =
      (replaced change? (occurrences key target.members)).getLast? := by
  rw [mergeInto, get?, occurrences_mergeMembers named]

theorem at?_mergeInto {patch : Json} {path : List String} {value? : Option Json}
    (h : patch.Gives path value?) (target : Json) :
    (patch.mergeInto target).at? path = value?.or (target.at? path) := by
  induction h generalizing target with
  | here leaf => rw [mergeInto_leaf leaf, at?, Option.some_or]
  | @absent changes key path missing =>
    have named : occurrences key changes = (none : Option Json).toList := missing
    have kept : ((obj changes).mergeInto target).get? key = target.get? key := by
      rw [get?_mergeInto_obj changes named, replaced, ← get?_members, get?]
    rw [at?, kept, Option.none_or, at?]
  | @under changes key path change value? once named rest ih =>
    have once : occurrences key changes = (some change).toList := once
    have merged : ((obj changes).mergeInto target).get? key =
        some (change.mergeInto ((target.get? key).getD null)) := by
      rw [get?_mergeInto_obj changes once, replaced_of_ne named, ← get?_members key target, get?]
      rfl
    rw [at?, merged, Option.bind_some, ih, at?]
    cases found : target.get? key with
    | some j => rfl
    | none =>
      -- Nothing is there to be left alone, unless the patch gives a value right here.
      cases rest with
      | here leaf => rfl
      | absent missing => rfl
      | under once named rest => rfl

end ServingOperator.Json
