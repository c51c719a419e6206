import ServingOperator.Proofs.Wire.RoundTrip

namespace ServingOperator

namespace Json

/-- No object within a patch names a key twice or takes one away. -/
inductive Additive : Json → Prop where
  | leaf {j : Json} (plain : ∀ changes, j ≠ obj changes) : Additive j
  | obj {changes : List (String × Json)} (keys : (changes.map (·.1)).Nodup)
      (written : ∀ c ∈ changes, c.2 ≠ null) (each : ∀ c ∈ changes, Additive c.2) :
      Additive (obj changes)

theorem Additive.singleton {key : String} {change : Json} (written : change ≠ null)
    (h : change.Additive) : (Json.obj [(key, change)]).Additive := by
  refine .obj (List.pairwise_singleton _ _) ?_ ?_
  · intro c only
    obtain rfl := List.mem_singleton.mp only
    exact written
  · intro c only
    obtain rfl := List.mem_singleton.mp only
    exact h

section

variable {changes : List (String × Json)}

theorem occurrences_of_mem (keys : (changes.map (·.1)).Nodup) {c : String × Json}
    (h : c ∈ changes) : occurrences c.1 changes = [c.2] := by
  induction changes with
  | nil => cases h
  | cons first rest ih =>
    obtain ⟨fresh, keys⟩ := List.nodup_cons.mp keys
    rcases List.mem_cons.mp h with rfl | later
    · exact (occurrences_cons_self _ _ rest).trans (congrArg _ (occurrences_eq_nil fresh))
    · have other : first.1 ≠ c.1 := fun same => fresh (List.mem_map.mpr ⟨c, later, same.symm⟩)
      exact (occurrences_cons_of_ne other first.2 rest).trans (ih keys later)

def unnamed (changes members : List (String × Json)) : List (String × Json) :=
  members.filter fun m => changes.all fun c => m.1 ≠ c.1

def mergedMember (members : List (String × Json)) (c : String × Json) : String × Json :=
  (c.1, c.2.mergeInto (((obj members).get? c.1).getD null))

theorem unnamed_cons (c : String × Json) (members : List (String × Json)) :
    unnamed (c :: changes) members = unnamed changes (eraseMember c.1 members) := by
  rw [unnamed, unnamed, eraseMember, List.filter_filter]
  refine List.filter_congr fun m _ => ?_
  rw [List.all_cons, Bool.and_comm]

theorem unnamed_append (front back : List (String × Json)) :
    unnamed changes (front ++ back) = unnamed changes front ++ unnamed changes back :=
  List.filter_append _ _

theorem unnamed_unnamed (members : List (String × Json)) :
    unnamed changes (unnamed changes members) = unnamed changes members := by
  rw [unnamed, unnamed, List.filter_filter]
  simp only [Bool.and_self]

theorem unnamed_of_fresh {key : String} (fresh : key ∉ changes.map (·.1)) (j : Json) :
    unnamed changes [(key, j)] = [(key, j)] := by
  refine List.filter_eq_self.mpr fun m only => ?_
  obtain rfl := List.mem_singleton.mp only
  refine List.all_eq_true.mpr fun c named => decide_eq_true fun same => ?_
  exact fresh (List.mem_map.mpr ⟨c, named, same.symm⟩)

theorem unnamed_merged (members : List (String × Json)) :
    unnamed changes (changes.map (mergedMember members)) = [] := by
  refine List.filter_eq_nil_iff.mpr fun m found => ?_
  obtain ⟨c, named, rfl⟩ := List.mem_map.mp found
  rw [List.all_eq_true]
  exact fun apart => of_decide_eq_true (apart c named) rfl

/-- The members that a patch does not name keep their places, and those that it names follow. -/
theorem mergeMembers_eq (keys : (changes.map (·.1)).Nodup) (written : ∀ c ∈ changes, c.2 ≠ null)
    (members : List (String × Json)) :
    mergeMembers changes members =
      unnamed changes members ++ changes.map (mergedMember members) := by
  induction changes generalizing members with
  | nil =>
    rw [mergeMembers, List.map_nil, List.append_nil]
    exact (List.filter_eq_self.mpr fun _ _ => rfl).symm
  | cons c rest ih =>
    obtain ⟨key, change⟩ := c
    obtain ⟨fresh, keys⟩ := List.nodup_cons.mp keys
    have others := fun c later => written c (List.mem_cons_of_mem _ later)
    have later : ∀ c ∈ rest,
        mergedMember (putMember key (mergedMember members (key, change)).2 members) c =
          mergedMember members c := by
      intro c named
      have other : key ≠ c.1 := fun same => fresh (List.mem_map.mpr ⟨c, named, same.symm⟩)
      rw [mergedMember, get?_putMember, if_neg other, mergedMember]
    rw [mergeMembers]
    · change mergeMembers rest (putMember key (mergedMember members (key, change)).2 members) = _
      rw [ih keys others, List.map_congr_left later, putMember, unnamed_append,
        unnamed_of_fresh fresh, unnamed_cons, List.append_assoc]
      rfl
    · exact written (key, change) List.mem_cons_self

end

theorem mergeInto_mergeInto {patch : Json} (h : patch.Additive) (target : Json) :
    patch.mergeInto (patch.mergeInto target) = patch.mergeInto target := by
  induction h generalizing target with
  | leaf plain => rw [mergeInto_leaf plain, mergeInto_leaf plain]
  | @obj changes keys written each ih =>
    rw [mergeInto, mergeInto, members]
    have again : ∀ c ∈ changes, mergedMember (mergeMembers changes target.members) c =
        mergedMember target.members c := by
      intro c named
      have own : occurrences c.1 changes = (some c.2).toList := occurrences_of_mem keys named
      have found : (Json.obj (mergeMembers changes target.members)).get? c.1 =
          some (mergedMember target.members c).2 := by
        rw [get?, occurrences_mergeMembers own, replaced_of_ne (written c named)]
        rfl
      rw [mergedMember, found]
      exact Prod.ext rfl (ih c named _)
    rw [mergeMembers_eq keys written (mergeMembers changes target.members),
      List.map_congr_left again, mergeMembers_eq keys written target.members, unnamed_append,
      unnamed_unnamed, unnamed_merged, List.append_nil]

end Json

theorem StringMap.keys_nodup {α : Type} (m : StringMap α) : (m.entries.map (·.1)).Nodup := by
  refine List.pairwise_map.mpr (m.rising.imp fun {a b} above same => ?_)
  exact String.lt_irrefl b.1 (same ▸ above)

mutual

theorem Format.additive_encode {α : Type} (format : Format α) (distinct : format.hasDistinctKeys)
    (a : α) : (format.encode a).Additive := by
  match α, format, a with
  | _, .text, a | _, .flag, a | _, .int32, a | _, .int64, a | _, .quantity, a | _, .timestamp, a
  | _, .choice _ _ _, a | _, .list _, a =>
    exact .leaf (by simp [Format.encode])
  | _, .portRef, port => cases port <;> exact .leaf (by simp [Format.encode])
  | _, .dict item, m =>
    rw [Format.hasDistinctKeys] at distinct
    rw [Format.encode]
    refine .obj ?_ ?_ ?_
    · rw [List.map_map]
      exact m.keys_nodup
    · rintro _ found
      obtain ⟨e, -, rfl⟩ := List.mem_map.mp found
      exact item.encode_ne_null e.2
    · rintro _ found
      obtain ⟨e, -, rfl⟩ := List.mem_map.mp found
      exact Format.additive_encode item distinct e.2
  | _, .record _ constants fields, a =>
    rw [Format.hasDistinctKeys, Bool.and_eq_true, decide_eq_true_eq] at distinct
    rw [Format.encode]
    refine .obj ?_ ?_ ?_
    · rw [List.map_append, List.map_map]
      exact distinct.1.sublist ((fields.keys_encode_sublist a).append_left _)
    · intro c found
      rcases List.mem_append.mp found with constant | member
      · obtain ⟨_, -, rfl⟩ := List.mem_map.mp constant
        exact nofun
      · exact (Fields.additive_encode fields distinct.2 a c member).1
    · intro c found
      rcases List.mem_append.mp found with constant | member
      · obtain ⟨_, -, rfl⟩ := List.mem_map.mp constant
        exact .leaf nofun
      · exact (Fields.additive_encode fields distinct.2 a c member).2
  | _, .image inner build parts build_parts, a =>
    rw [Format.hasDistinctKeys] at distinct
    rw [Format.encode]
    exact Format.additive_encode inner distinct (parts a)
  | _, .described about inner, a =>
    rw [Format.hasDistinctKeys] at distinct
    rw [Format.encode]
    exact Format.additive_encode inner distinct a

theorem Member.additive_encode? {α : Type} (member : Member α) (distinct : member.hasDistinctKeys)
    (a : α) : ∀ j ∈ member.encode? a, j ≠ .null ∧ j.Additive := by
  match α, member, a with
  | _, .required format, a =>
    rw [Member.hasDistinctKeys] at distinct
    rintro _ ⟨⟩
    exact ⟨format.encode_ne_null a, Format.additive_encode format distinct a⟩
  | _, .defaulted format value omitted omitted_eq, a =>
    rw [Member.hasDistinctKeys] at distinct
    intro j written
    obtain ⟨-, ⟨⟩⟩ := Option.ite_none_left_eq_some.mp written
    exact ⟨format.encode_ne_null a, Format.additive_encode format distinct a⟩
  | _, .optional format, a? =>
    rw [Member.hasDistinctKeys] at distinct
    rw [Member.encode?]
    intro j written
    obtain ⟨a, -, rfl⟩ := Option.map_eq_some_iff.mp written
    exact ⟨format.encode_ne_null a, Format.additive_encode format distinct a⟩

theorem Fields.additive_encode {α : Type} (fields : Fields α) (distinct : fields.hasDistinctKeys)
    (a : α) : ∀ c ∈ fields.encode a, c.2 ≠ .null ∧ c.2.Additive := by
  match α, fields, a with
  | _, .nil, _ => exact fun c found => nomatch found
  | _, .cons key about member rest, a =>
    rw [Fields.hasDistinctKeys, Bool.and_eq_true] at distinct
    rw [Fields.encode_cons]
    intro c found
    rcases List.mem_append.mp found with own | later
    · obtain ⟨j, written, rfl⟩ := List.mem_map.mp own
      exact Member.additive_encode? member distinct.1 a.1 j (Option.mem_toList.mp written)
    · exact Fields.additive_encode rest distinct.2 a.2 c later

end

end ServingOperator
