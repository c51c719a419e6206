namespace ServingOperator

def lookupEntry {α : Type} (key : String) : List (String × α) → Option α
  | [] => none
  | (k, v) :: rest => if k = key then some v else lookupEntry key rest

def insertEntry {α : Type} (key : String) (value : α) : List (String × α) → List (String × α)
  | [] => [(key, value)]
  | (k, v) :: rest =>
    if key < k then (key, value) :: (k, v) :: rest
    else if key = k then (key, value) :: rest
    else (k, v) :: insertEntry key value rest

def Rising {α : Type} (entries : List (String × α)) : Prop :=
  entries.Pairwise fun a b => a.1 < b.1

theorem mem_insertEntry {α : Type} {key : String} {value : α} {entries : List (String × α)}
    {e : String × α} (h : e ∈ insertEntry key value entries) : e = (key, value) ∨ e ∈ entries := by
  induction entries with
  | nil => simpa [insertEntry] using h
  | cons head rest ih =>
    obtain ⟨k, v⟩ := head
    rw [insertEntry] at h
    split at h
    · simpa using h
    · split at h
      · rcases List.mem_cons.mp h with h | h
        · exact .inl h
        · exact .inr (List.mem_cons_of_mem _ h)
      · rcases List.mem_cons.mp h with h | h
        · exact .inr (h ▸ List.mem_cons_self)
        · rcases ih h with h | h
          · exact .inl h
          · exact .inr (List.mem_cons_of_mem _ h)

theorem rising_insertEntry {α : Type} (key : String) (value : α) {entries : List (String × α)}
    (h : Rising entries) : Rising (insertEntry key value entries) := by
  induction entries with
  | nil => simp [insertEntry, Rising]
  | cons head rest ih =>
    obtain ⟨k, v⟩ := head
    obtain ⟨above, tail⟩ := List.pairwise_cons.mp h
    rw [insertEntry]
    split
    · rename_i lt
      refine List.pairwise_cons.mpr ⟨?_, h⟩
      intro e he
      rcases List.mem_cons.mp he with rfl | he
      · exact lt
      · exact String.lt_trans lt (above e he)
    · rename_i nlt
      split
      · rename_i eq
        subst eq
        exact List.pairwise_cons.mpr ⟨above, tail⟩
      · rename_i ne
        refine List.pairwise_cons.mpr ⟨?_, ih tail⟩
        intro e he
        rcases mem_insertEntry he with rfl | he
        · exact Std.lt_of_le_of_ne (String.not_lt.mp nlt) (Ne.symm ne)
        · exact above e he

structure StringMap (α : Type) where
  entries : List (String × α)
  rising : Rising entries

namespace StringMap

variable {α β : Type}

@[ext] theorem ext {a b : StringMap α} (h : a.entries = b.entries) : a = b := by
  cases a; cases b; cases h; rfl

instance [DecidableEq α] : DecidableEq (StringMap α) := fun a b =>
  decidable_of_iff (a.entries = b.entries) ⟨ext, fun h => h ▸ rfl⟩

def empty : StringMap α := ⟨[], List.Pairwise.nil⟩

instance : EmptyCollection (StringMap α) := ⟨empty⟩

instance : Inhabited (StringMap α) := ⟨∅⟩

def isEmpty (m : StringMap α) : Bool := m.entries.isEmpty

def get? (m : StringMap α) (key : String) : Option α := lookupEntry key m.entries

def contains (m : StringMap α) (key : String) : Bool := (m.get? key).isSome

def insert (m : StringMap α) (key : String) (value : α) : StringMap α :=
  ⟨insertEntry key value m.entries, rising_insertEntry key value m.rising⟩

def erase (m : StringMap α) (key : String) : StringMap α :=
  ⟨m.entries.filter fun e => e.1 != key, m.rising.filter _⟩

def ofList (pairs : List (String × α)) : StringMap α :=
  pairs.foldl (fun m e => m.insert e.1 e.2) ∅

def insertAll (a b : StringMap α) : StringMap α :=
  b.entries.foldl (fun m e => m.insert e.1 e.2) a

@[simp] theorem get?_empty (key : String) : (∅ : StringMap α).get? key = none := rfl

theorem lookupEntry_insertEntry (key other : String) (value : α) (entries : List (String × α)) :
    lookupEntry other (insertEntry key value entries) =
      if key = other then some value else lookupEntry other entries := by
  induction entries with
  | nil => rfl
  | cons head rest ih =>
    obtain ⟨k, v⟩ := head
    rw [insertEntry]
    split
    · rfl
    · split
      · rename_i eq
        subst eq
        by_cases h : key = other <;> simp [lookupEntry, h]
      · rename_i ne
        by_cases h : k = other
        · subst h
          simp [lookupEntry, ne]
        · simp [lookupEntry, h, ih]

theorem get?_insert (m : StringMap α) (key other : String) (value : α) :
    (m.insert key value).get? other = if key = other then some value else m.get? other :=
  lookupEntry_insertEntry key other value m.entries

theorem lookupEntry_eq_some_iff {entries : List (String × α)} (h : Rising entries) {key : String}
    {value : α} : lookupEntry key entries = some value ↔ (key, value) ∈ entries := by
  induction entries with
  | nil => simp [lookupEntry]
  | cons head rest ih =>
    obtain ⟨k, v⟩ := head
    obtain ⟨above, tail⟩ := List.pairwise_cons.mp h
    by_cases eq : k = key
    · subst eq
      have absent : (k, value) ∉ rest := fun hm => String.lt_irrefl k (above _ hm)
      simp [lookupEntry, absent, eq_comm]
    · simp [lookupEntry, eq, ih tail, Ne.symm eq]

theorem rising_ext {a b : List (String × α)} (ha : Rising a) (hb : Rising b)
    (h : ∀ e, e ∈ a ↔ e ∈ b) : a = b := by
  induction a generalizing b with
  | nil =>
    cases b with
    | nil => rfl
    | cons e rest => exact absurd ((h e).mpr List.mem_cons_self) List.not_mem_nil
  | cons x xs ih =>
    cases b with
    | nil => exact absurd ((h x).mp List.mem_cons_self) List.not_mem_nil
    | cons y ys =>
      obtain ⟨xAbove, xTail⟩ := List.pairwise_cons.mp ha
      obtain ⟨yAbove, yTail⟩ := List.pairwise_cons.mp hb
      have same : x = y := by
        rcases List.mem_cons.mp ((h x).mp List.mem_cons_self) with hx | hx
        · exact hx
        · rcases List.mem_cons.mp ((h y).mpr List.mem_cons_self) with hy | hy
          · exact hy.symm
          · exact absurd (xAbove y hy) (String.lt_asymm (yAbove x hx))
      subst same
      refine congrArg (x :: ·) (ih xTail yTail fun e => ?_)
      have irrefl : ¬ x.1 < x.1 := String.lt_irrefl _
      constructor
      · intro he
        rcases List.mem_cons.mp ((h e).mp (List.mem_cons_of_mem _ he)) with rfl | he'
        · exact absurd (xAbove _ he) irrefl
        · exact he'
      · intro he
        rcases List.mem_cons.mp ((h e).mpr (List.mem_cons_of_mem _ he)) with rfl | he'
        · exact absurd (yAbove _ he) irrefl
        · exact he'

theorem ext_get? {a b : StringMap α} (h : ∀ key, a.get? key = b.get? key) : a = b := by
  apply ext
  apply rising_ext a.rising b.rising
  intro e
  have key := h e.1
  constructor
  · intro he
    exact (lookupEntry_eq_some_iff b.rising).mp
      (key.symm.trans ((lookupEntry_eq_some_iff a.rising).mpr he))
  · intro he
    exact (lookupEntry_eq_some_iff a.rising).mp
      (key.trans ((lookupEntry_eq_some_iff b.rising).mpr he))

theorem insert_of_get? {m : StringMap α} {key : String} {value : α}
    (h : m.get? key = some value) : m.insert key value = m := by
  apply ext_get?
  intro other
  rw [get?_insert]
  by_cases same : key = other
  · rw [if_pos same, ← same, h]
  · rw [if_neg same]

end StringMap

end ServingOperator
