import ServingOperator.StringMap

namespace ServingOperator

namespace ConfigKey

def deployment : String := "deployment"
def queueSidecarImage : String := "queueSidecarImage"

def domain : String := "domain"

def network : String := "network"
def domainTemplate : String := "domainTemplate"
def autocreateDomainClaims : String := "autocreateClusterDomainClaims"
def defaultExternalScheme : String := "defaultExternalScheme"
def ingressClass : String := "ingress.class"

def observability : String := "observability"
def metricsBackend : String := "metrics.backend-destination"
def revisionUrlTemplate : String := "logging.revision-url-template"

def noBackend : String := "none"

end ConfigKey

structure ConfigSections where
  sections : StringMap (StringMap String) := ∅
deriving DecidableEq

namespace ConfigSections

def isEmpty (c : ConfigSections) : Bool := c.sections.isEmpty

def section? (c : ConfigSections) (name : String) : Option (StringMap String) :=
  c.sections.get? name

def get? (c : ConfigSections) (name key : String) : Option String :=
  (c.section? name).bind (·.get? key)

def contains (c : ConfigSections) (name key : String) : Bool := (c.get? name key).isSome

def set (c : ConfigSections) (name key value : String) : ConfigSections :=
  ⟨c.sections.insert name (((c.section? name).getD ∅).insert key value)⟩

/-- Opens a section and sets a value there unless the key has one; says whether it was written. -/
def setIfAbsent (c : ConfigSections) (name key value : String) : Bool × ConfigSections :=
  let entries := (c.section? name).getD ∅
  if entries.contains key then (false, ⟨c.sections.insert name entries⟩)
  else (true, ⟨c.sections.insert name (entries.insert key value)⟩)

def fill (c : ConfigSections) (name key value : String) : ConfigSections :=
  (c.setIfAbsent name key value).2

theorem setIfAbsent_eq (c : ConfigSections) (name key value : String) :
    c.setIfAbsent name key value =
      if c.contains name key then (false, c) else (true, c.set name key value) := by
  unfold setIfAbsent contains get? set
  cases found : c.section? name with
  | none => rfl
  | some entries =>
    -- Opening a section that is there changes nothing.
    have same : c.sections.insert name entries = c.sections := StringMap.insert_of_get? found
    simp only [Option.getD_some, same]
    rfl

theorem get?_set (c : ConfigSections) (name key value name' key' : String) :
    (c.set name key value).get? name' key' =
      if name = name' ∧ key = key' then some value else c.get? name' key' := by
  simp only [get?, set, section?, StringMap.get?_insert]
  by_cases hn : name = name'
  · subst hn
    by_cases hk : key = key'
    · simp [hk, StringMap.get?_insert]
    · cases h : c.sections.get? name <;> simp [hk, StringMap.get?_insert]
  · simp [hn]

theorem get?_fill (c : ConfigSections) (name key value name' key' : String) :
    (c.fill name key value).get? name' key' =
      if name = name' ∧ key = key' then some ((c.get? name key).getD value)
      else c.get? name' key' := by
  rw [fill, setIfAbsent_eq, contains]
  cases h : c.get? name key with
  | none => simp [get?_set]
  | some v =>
    by_cases same : name = name' ∧ key = key'
    · obtain ⟨rfl, rfl⟩ := same
      simp [h]
    · simp [same]

end ConfigSections

end ServingOperator
