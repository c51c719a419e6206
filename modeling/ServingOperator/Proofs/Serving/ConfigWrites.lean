import ServingOperator.Proofs.StringMap
import ServingOperator.Serving.Backend
import ServingOperator.Serving.Defaults
import ServingOperator.Serving.Observability

namespace ServingOperator

namespace ConfigSections

theorem contains_set (c : ConfigSections) (name key value name' key' : String) :
    (c.set name key value).contains name' key' =
      (decide (name = name' ∧ key = key') || c.contains name' key') := by
  rw [contains, get?_set, contains]
  by_cases same : name = name' ∧ key = key' <;> simp [same]

theorem set_of_get? {c : ConfigSections} {name key value : String}
    (h : c.get? name key = some value) : c.set name key value = c := by
  obtain ⟨entries, found, holds⟩ := Option.bind_eq_some_iff.mp h
  rw [set, found, Option.getD_some, StringMap.insert_of_get? holds, StringMap.insert_of_get? found]

theorem fill_of_contains {c : ConfigSections} {name key : String} (h : c.contains name key = true)
    (value : String) : c.fill name key value = c := by
  rw [fill, setIfAbsent_eq, if_pos h]

theorem fill_of_absent {c : ConfigSections} {name key : String}
    (h : c.contains name key = false) (value : String) :
    c.fill name key value = c.set name key value := by
  simp [fill, setIfAbsent_eq, h]

theorem contains_fill (c : ConfigSections) (name key value name' key' : String) :
    (c.fill name key value).contains name' key' =
      (decide (name = name' ∧ key = key') || c.contains name' key') := by
  cases h : c.contains name key with
  | true =>
    rw [fill_of_contains h]
    by_cases same : name = name' ∧ key = key'
    · obtain ⟨rfl, rfl⟩ := same
      simp [h]
    · simp [same]
  | false => rw [fill_of_absent h, contains_set]

end ConfigSections

inductive CellWrite where
  | fill (name key value : String)
  | force (name key value : String)
deriving DecidableEq, Repr

namespace CellWrite

def apply (c : ConfigSections) : CellWrite → ConfigSections
  | fill name key value => c.fill name key value
  | force name key value => c.set name key value

def IsMet (c : ConfigSections) : CellWrite → Prop
  | fill name key _ => c.contains name key = true
  | force name key value => c.get? name key = some value

/-- Two writes do not force one cell to different values. -/
def Agrees : CellWrite → CellWrite → Prop
  | force name key value, force name' key' value' => name = name' ∧ key = key' → value = value'
  | _, _ => True

theorem isMet_apply (c : ConfigSections) (w : CellWrite) : w.IsMet (w.apply c) := by
  cases w with
  | fill name key value => simp [IsMet, apply, ConfigSections.contains_fill]
  | force name key value => simp [IsMet, apply, ConfigSections.get?_set]

theorem apply_of_isMet {c : ConfigSections} {w : CellWrite} (h : w.IsMet c) : w.apply c = c := by
  cases w with
  | fill name key value => exact ConfigSections.fill_of_contains h value
  | force name key value => exact ConfigSections.set_of_get? h

theorem IsMet.apply {c : ConfigSections} {w : CellWrite} (h : w.IsMet c) {other : CellWrite}
    (agrees : other.Agrees w) : w.IsMet (other.apply c) := by
  cases w with
  | fill name key value =>
    cases other with
    | fill name' key' value' =>
      have h : c.contains name key = true := h
      simp [IsMet, CellWrite.apply, ConfigSections.contains_fill, h]
    | force name' key' value' =>
      have h : c.contains name key = true := h
      simp [IsMet, CellWrite.apply, ConfigSections.contains_set, h]
  | force name key value =>
    have h : c.get? name key = some value := h
    cases other with
    | fill name' key' value' =>
      show (c.fill name' key' value').get? name key = some value
      rw [ConfigSections.get?_fill]
      by_cases same : name' = name ∧ key' = key
      · obtain ⟨rfl, rfl⟩ := same
        simp [h]
      · rw [if_neg same, h]
    | force name' key' value' =>
      show (c.set name' key' value').get? name key = some value
      rw [ConfigSections.get?_set]
      by_cases same : name' = name ∧ key' = key
      · rw [if_pos same, agrees same]
      · rw [if_neg same, h]

end CellWrite

namespace ConfigSections

def write (c : ConfigSections) (ws : List CellWrite) : ConfigSections := ws.foldl CellWrite.apply c

theorem write_append (c : ConfigSections) (first rest : List CellWrite) :
    c.write (first ++ rest) = (c.write first).write rest :=
  List.foldl_append

theorem write_of_isMet {c : ConfigSections} {ws : List CellWrite} (h : ∀ w ∈ ws, w.IsMet c) :
    c.write ws = c := by
  induction ws with
  | nil => rfl
  | cons w ws ih =>
    rw [write, List.foldl_cons, CellWrite.apply_of_isMet (h w List.mem_cons_self)]
    exact ih fun w member => h w (List.mem_cons_of_mem _ member)

theorem isMet_write_of_isMet {c : ConfigSections} {w : CellWrite} (h : w.IsMet c)
    {ws : List CellWrite} (agree : ∀ other ∈ ws, other.Agrees w) : w.IsMet (c.write ws) := by
  induction ws generalizing c with
  | nil => exact h
  | cons other ws ih =>
    exact ih (h.apply (agree other List.mem_cons_self))
      fun other member => agree other (List.mem_cons_of_mem _ member)

theorem isMet_write {ws : List CellWrite} (agree : ∀ w ∈ ws, ∀ other ∈ ws, other.Agrees w)
    (c : ConfigSections) {w : CellWrite} (member : w ∈ ws) : w.IsMet (c.write ws) := by
  induction ws generalizing c with
  | nil => cases member
  | cons head ws ih =>
    have later : ∀ w ∈ ws, ∀ other ∈ ws, other.Agrees w := fun w hw other ho =>
      agree w (List.mem_cons_of_mem _ hw) other (List.mem_cons_of_mem _ ho)
    rcases List.mem_cons.mp member with rfl | member
    · exact isMet_write_of_isMet (CellWrite.isMet_apply c w)
        fun other ho => agree w List.mem_cons_self other (List.mem_cons_of_mem _ ho)
    · exact ih later _ member

end ConfigSections

end ServingOperator
