import ServingOperator.Proofs.Text
import ServingOperator.Route

namespace ServingOperator

namespace Selector

def isPlain (c : Char) : Bool := c.isAlphanum || ['-', '_', '.', '/'].contains c

/-- A text of such characters, among which there is none that has a meaning in selectors. -/
def Plain (text : String) : Prop := text.toList.all isPlain = true

instance (text : String) : Decidable (Plain text) := inferInstanceAs (Decidable (_ = true))

/-- How an API server reads selectors. Of two requirements of equality both have to be met. -/
structure Reader where
  selects : String → StringMap String → Bool
  selects_both : ∀ {key value key' value' : String} (labels : StringMap String),
    Plain key → Plain value → Plain key' → Plain value' →
      (selects (key ++ "=" ++ value ++ "," ++ key' ++ "=" ++ value') labels = true ↔
        labels.get? key = some value ∧ labels.get? key' = some value')

def requirement (written : List Char) : String × String :=
  (String.ofList (written.takeWhile (· ≠ '=')),
    String.ofList ((written.dropWhile (· ≠ '=')).drop 1))

def isMet (labels : StringMap String) (requirement : String × String) : Bool :=
  labels.get? requirement.1 = some requirement.2

def isMetBy (selector : String) (labels : StringMap String) : Bool :=
  (Text.splitAt ',' selector.toList).all fun written => isMet labels (requirement written)

theorem Plain.not_mem {text : String} (h : Plain text) {c : Char} (special : isPlain c = false) :
    c ∉ text.toList := by
  intro member
  have plain := List.all_eq_true.mp h c member
  rw [special] at plain
  cases plain

theorem requirement_eq {key value : String} (h : Plain key) :
    requirement (key.toList ++ '=' :: value.toList) = (key, value) := by
  have absent : '=' ∉ key.toList := h.not_mem (by decide)
  have differ : ∀ c ∈ key.toList, decide (c ≠ '=') = true := by
    intro c member
    exact decide_eq_true fun same => absent (same ▸ member)
  rw [requirement, List.takeWhile_append_of_pos differ, List.dropWhile_append_of_pos differ]
  simp

def equalityReader : Reader where
  selects := isMetBy
  selects_both {key value key' value'} labels plainKey plainValue plainKey' plainValue' := by
    have noComma : ',' ∉ key.toList ++ '=' :: value.toList := by
      have inKey : ',' ∉ key.toList := plainKey.not_mem (by decide)
      have inValue : ',' ∉ value.toList := plainValue.not_mem (by decide)
      simp [inKey, inValue]
    have noComma' : ',' ∉ key'.toList ++ '=' :: value'.toList := by
      have inKey : ',' ∉ key'.toList := plainKey'.not_mem (by decide)
      have inValue : ',' ∉ value'.toList := plainValue'.not_mem (by decide)
      simp [inKey, inValue]
    have written : (key ++ "=" ++ value ++ "," ++ key' ++ "=" ++ value').toList =
        (key.toList ++ '=' :: value.toList) ++ ',' :: (key'.toList ++ '=' :: value'.toList) := by
      simp
    rw [isMetBy, written, Text.splitAt_append noComma, Text.splitAt_of_not_mem noComma']
    simp [isMet, requirement_eq plainKey, requirement_eq plainKey']

end Selector

namespace Route

structure Owner.Plain (o : Owner) : Prop where
  name : Selector.Plain o.name
  inNamespace : Selector.Plain o.inNamespace

theorem owner?_eq_some_iff {r : Route} {o : Owner} :
    r.owner? = some o ↔ r.metadata.labelMap.get? ownerNameLabel = some o.name ∧
      r.metadata.labelMap.get? ownerNamespaceLabel = some o.inNamespace := by
  unfold owner?
  cases r.metadata.labelMap.get? ownerNameLabel <;>
    cases r.metadata.labelMap.get? ownerNamespaceLabel <;>
    cases o <;> simp

theorem selects_selector (reader : Selector.Reader) {o : Owner} (plain : o.Plain) (r : Route) :
    reader.selects o.selector r.metadata.labelMap = true ↔ r.owner? = some o := by
  rw [owner?_eq_some_iff]
  exact reader.selects_both _ (by decide) plain.name (by decide) plain.inNamespace

theorem owner?_of_mark {r : Route} {o : Owner} {labels : StringMap String}
    (h : r.metadata.labels = some (o.mark labels)) : r.owner? = some o := by
  rw [owner?_eq_some_iff, ObjectMeta.labelMap, h, Option.getD_some, Owner.mark]
  have differ : ownerNamespaceLabel ≠ ownerNameLabel := by decide
  simp [StringMap.get?_insert, differ]

end Route

end ServingOperator
