import ServingOperator.Proofs.Json.MergePatch
import ServingOperator.Proofs.StringMap
import ServingOperator.Wire.Format

namespace ServingOperator

theorem mapM_cons_eq_some {α β : Type} {f : α → Option β} {c : α} {cs : List α} {ds : List β} :
    (c :: cs).mapM f = some ds ↔
      ∃ d rest, f c = some d ∧ cs.mapM f = some rest ∧ ds = d :: rest := by
  simp only [List.mapM_cons, Option.bind_eq_bind, Option.bind_eq_some_iff, Option.pure_def,
    Option.some.injEq]
  constructor
  · rintro ⟨d, first, rest, others, rfl⟩
    exact ⟨d, rest, first, others, rfl⟩
  · rintro ⟨d, rest, first, others, rfl⟩
    exact ⟨d, first, rest, others, rfl⟩

theorem last_of_mapM {α β : Type} {f : α → Option β} {cs : List α} {ds : List β}
    (h : cs.mapM f = some ds) :
    cs = [] ∧ ds = [] ∨
      ∃ c d, cs.getLast? = some c ∧ ds.getLast? = some d ∧ f c = some d := by
  induction cs generalizing ds with
  | nil =>
    cases h
    exact .inl ⟨rfl, rfl⟩
  | cons c cs ih =>
    obtain ⟨d, rest, first, others, rfl⟩ := mapM_cons_eq_some.mp h
    refine .inr ?_
    rw [List.getLast?_cons, List.getLast?_cons]
    rcases ih others with ⟨rfl, rfl⟩ | ⟨c', d', last, last', found⟩
    · exact ⟨c, d, rfl, rfl, first⟩
    · rw [last, last']
      exact ⟨c', d', rfl, rfl, found⟩

namespace StringMap

variable {α β : Type}

def readEntry (read : β → Option α) (e : String × β) : Option (String × α) :=
  (read e.2).map (e.1, ·)

theorem readEntry_eq_some {read : β → Option α} {e : String × β} {entry : String × α} :
    readEntry read e = some entry ↔ entry.1 = e.1 ∧ read e.2 = some entry.2 := by
  obtain ⟨key, value⟩ := entry
  rw [readEntry, Option.map_eq_some_iff]
  constructor
  · rintro ⟨a, found, same⟩
    cases same
    exact ⟨rfl, found⟩
  · rintro ⟨rfl, found⟩
    exact ⟨value, found, rfl⟩

theorem mapM_valuesOf {read : β → Option α} {pairs : List (String × β)}
    {entries : List (String × α)} (h : pairs.mapM (readEntry read) = some entries) (key : String) :
    (valuesOf key pairs).mapM read = some (valuesOf key entries) := by
  induction pairs generalizing entries with
  | nil =>
    cases h
    rfl
  | cons e pairs ih =>
    obtain ⟨⟨named, a⟩, rest, first, others, rfl⟩ := mapM_cons_eq_some.mp h
    obtain ⟨k, b⟩ := e
    obtain ⟨rfl, first⟩ := readEntry_eq_some.mp first
    by_cases same : named = key
    · subst same
      rw [valuesOf_cons_self, valuesOf_cons_self, mapM_cons_eq_some]
      exact ⟨a, valuesOf named rest, first, ih others, rfl⟩
    · rw [valuesOf_cons_of_ne same, valuesOf_cons_of_ne same]
      exact ih others

theorem exists_mapM_readEntry {read : β → Option α} {pairs : List (String × β)}
    (h : ∀ key, ∃ values, (valuesOf key pairs).mapM read = some values) :
    ∃ entries, pairs.mapM (readEntry read) = some entries := by
  induction pairs with
  | nil => exact ⟨[], rfl⟩
  | cons e pairs ih =>
    obtain ⟨k, b⟩ := e
    obtain ⟨values, here⟩ := h k
    rw [valuesOf_cons_self, mapM_cons_eq_some] at here
    obtain ⟨a, later, first, others, -⟩ := here
    have rest : ∀ key, ∃ values, (valuesOf key pairs).mapM read = some values := by
      intro key
      by_cases same : k = key
      · exact ⟨later, same ▸ others⟩
      · obtain ⟨values, found⟩ := h key
        rw [valuesOf_cons_of_ne same] at found
        exact ⟨values, found⟩
    obtain ⟨entries, read⟩ := ih rest
    have entry : readEntry _ (k, b) = some (k, a) := readEntry_eq_some.mpr ⟨rfl, first⟩
    exact ⟨(k, a) :: entries, mapM_cons_eq_some.mpr ⟨_, _, entry, read, rfl⟩⟩

end StringMap

theorem Format.decode_dict {α : Type} {item : Format α} {members : List (String × Json)}
    {m : StringMap α} :
    (Format.dict item).decode (.obj members) = some m ↔
      ∀ key, ∃ values, (Json.occurrences key members).mapM (fun j => item.decode j) =
        some values ∧ m.get? key = values.getLast? := by
  have whole : (Format.dict item).decode (.obj members) =
      (members.mapM (StringMap.readEntry fun j => item.decode j)).map StringMap.ofList := by
    rw [Format.decode]
    rfl
  rw [whole, Option.map_eq_some_iff]
  constructor
  · rintro ⟨entries, read, rfl⟩ key
    exact ⟨_, StringMap.mapM_valuesOf read key, StringMap.get?_ofList entries key⟩
  · intro each
    have readable : ∀ key, ∃ values,
        (StringMap.valuesOf key members).mapM (fun j => item.decode j) = some values :=
      fun key => (each key).imp fun _ found => found.1
    obtain ⟨entries, read⟩ := StringMap.exists_mapM_readEntry readable
    refine ⟨entries, read, StringMap.ext_get? fun key => ?_⟩
    obtain ⟨values, found, last⟩ := each key
    have same : some values = some (StringMap.valuesOf key entries) :=
      found.symm.trans (StringMap.mapM_valuesOf read key)
    rw [last, Option.some.inj same, StringMap.get?_ofList]

theorem StringMap.occurrences_entries {α : Type} (m : StringMap α) (write : α → Json)
    (key : String) :
    Json.occurrences key (m.entries.map fun e => (e.1, write e.2)) =
      ((m.get? key).map write).toList := by
  have run : ∀ entries : List (String × α), Rising entries →
      Json.occurrences key (entries.map fun e => (e.1, write e.2)) =
        ((lookupEntry key entries).map write).toList := by
    intro entries rising
    induction entries with
    | nil => rfl
    | cons e entries ih =>
      obtain ⟨above, tail⟩ := List.pairwise_cons.mp rising
      obtain ⟨k, a⟩ := e
      rw [List.map_cons, lookupEntry]
      by_cases same : k = key
      · subst same
        rw [Json.occurrences_cons_self, ih tail, lookupEntry_of_above above, if_pos rfl]
        rfl
      · rw [Json.occurrences_cons_of_ne same, ih tail, if_neg same]
  exact run m.entries m.rising

end ServingOperator
