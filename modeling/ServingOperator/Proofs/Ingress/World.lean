import Mathlib.Logic.Relation
import ServingOperator.Proofs.Ingress.Stages
import ServingOperator.Proofs.Pass.Ensures
import ServingOperator.Proofs.Route.Table

namespace ServingOperator

def Ingress.kept? (i : Ingress) : Option Ingress :=
  if i.metadata.deletionTimestamp.isSome ∧ i.metadata.finalizerList = [] then none else some i

def Ingress.deletedAt (i : Ingress) (time : Timestamp) : Ingress :=
  { i with metadata := { i.metadata with
      deletionTimestamp := some (i.metadata.deletionTimestamp.getD time) } }

/-- An edit by others. It leaves alone the mark of deletion and the operator's finalizer. -/
structure Ingress.Edit (i i' : Ingress) : Prop where
  deletion : i'.metadata.deletionTimestamp = i.metadata.deletionTimestamp
  finalizer : i'.hasFinalizer = i.hasFinalizer

/-- An ingress that a server admits to a place. It admits none whose names are not plain. -/
structure Ingress.Admitted (slot : Route.Owner) (i : Ingress) : Prop where
  name : i.metadata.name = some slot.name
  inNamespace : i.metadata.inNamespace = some slot.inNamespace
  plain : slot.Plain

structure Cluster (slot : Route.Owner) where
  ingress : Option Ingress
  routes : RouteTable
  admitted : ∀ i, ingress = some i → i.Admitted slot
  addressed : routes.Addressed

namespace Cluster

variable {slot : Route.Owner}

inductive Effect : Change → Cluster slot → Cluster slot → Prop where
  | patched {s s' : Cluster slot} {i i' : Ingress} {patch : Json} (present : s.ingress = some i)
      (read : Ingress.format.patched? patch i = some i') (after : s'.ingress = i'.kept?)
      (routes : s'.routes = s.routes) :
      Effect (.merge (.ingress slot.inNamespace slot.name) patch) s s'
  | elsewhere {s : Cluster slot} {target : Target} {patch : Json}
      (other : target ≠ .ingress slot.inNamespace slot.name) : Effect (.merge target patch) s s
  | applied {s s' : Cluster slot} {inNamespace name : String} {route : Route}
      (routes : RouteTable.Applied inNamespace name route s.routes s'.routes)
      (ingress : s'.ingress = s.ingress) : Effect (.applyRoute inNamespace name route) s s'
  | deleted {s s' : Cluster slot} {inNamespace name : String}
      (routes : RouteTable.Deleted inNamespace name s.routes s'.routes)
      (ingress : s'.ingress = s.ingress) : Effect (.deleteRoute inNamespace name) s s'

/-- How a change may be answered. That a route is not found is said only where there is none. -/
inductive Answers (c : Change) (s : Cluster slot) :
    Except ApiFailure Unit → Cluster slot → Prop where
  | done {s' : Cluster slot} (effect : Effect c s s') : Answers c s (.ok ()) s'
  | refused (failure : ApiFailure)
      (absent : ∀ inNamespace name, c = .deleteRoute inNamespace name → failure = .notFound →
        s.routes inNamespace name = none) : Answers c s (.error failure) s
  | lost {s' : Cluster slot} (failure : ApiFailure) (effect : Effect c s s') :
      Answers c s (.error failure) s'

def Listed (reader : Selector.Reader) (o : Route.Owner) (s : Cluster slot)
    (answer : Except ApiFailure (List Route)) : Prop :=
  ∀ shown, answer = .ok shown → s.routes.Lists reader o shown

inductive External : Cluster slot → Cluster slot → Prop where
  | created {s s' : Cluster slot} {i : Ingress} (absent : s.ingress = none)
      (after : s'.ingress = some i) (routes : s'.routes = s.routes) : External s s'
  | edited {s s' : Cluster slot} {i i' : Ingress} (present : s.ingress = some i)
      (edit : i.Edit i') (after : s'.ingress = i'.kept?) (routes : s'.routes = s.routes) :
      External s s'
  | deleted {s s' : Cluster slot} {i : Ingress} (present : s.ingress = some i) (time : Timestamp)
      (after : s'.ingress = (i.deletedAt time).kept?) (routes : s'.routes = s.routes) :
      External s s'
  | foreign {s s' : Cluster slot} (ingress : s'.ingress = s.ingress)
      (routes : ∀ inNamespace name r, r.owner? = some slot →
        (s'.routes inNamespace name = some r ↔ s.routes inNamespace name = some r)) :
      External s s'

def surroundings (reader : Selector.Reader) : Surroundings (Cluster slot) where
  meanwhile := Relation.ReflTransGen External
  facts _ _ := True
  change := Answers
  routesOf o s answer s' := Listed reader o s answer ∧ s' = s

end Cluster

structure World (slot : Route.Owner) where
  cluster : Cluster slot
  running : Option (Pass (Except PassError Conclusion))

namespace World

variable {slot : Route.Owner}

/-- A pass starts from the stored ingress, goes on by single requests, and may break off. -/
inductive Step (reader : Selector.Reader) : World slot → World slot → Prop where
  | others {s s' : Cluster slot} {running : Option (Pass (Except PassError Conclusion))}
      (moved : s.External s') : Step reader ⟨s, running⟩ ⟨s', running⟩
  | begun {s : Cluster slot} {i : Ingress} (present : s.ingress = some i) :
      Step reader ⟨s, none⟩ ⟨s, some i.pass.run⟩
  | facts {s : Cluster slot} {next : FactAnswers → Pass (Except PassError Conclusion)}
      (answers : FactAnswers) : Step reader ⟨s, some (.facts next)⟩ ⟨s, some (next answers)⟩
  | changed {s s' : Cluster slot} {c : Change} {answer : Except ApiFailure Unit}
      {next : Except ApiFailure Unit → Pass (Except PassError Conclusion)}
      (given : s.Answers c answer s') :
      Step reader ⟨s, some (.change c next)⟩ ⟨s', some (next answer)⟩
  | listed {s : Cluster slot} {o : Route.Owner} {answer : Except ApiFailure (List Route)}
      {next : Except ApiFailure (List Route) → Pass (Except PassError Conclusion)}
      (given : s.Listed reader o answer) :
      Step reader ⟨s, some (.routesOf o next)⟩ ⟨s, some (next answer)⟩
  | ended {s : Cluster slot} {p : Pass (Except PassError Conclusion)} :
      Step reader ⟨s, some p⟩ ⟨s, none⟩

inductive Reachable (reader : Selector.Reader) : World slot → Prop where
  | initial {s : Cluster slot} (absent : s.ingress = none)
      (clean : ∀ inNamespace name, ¬ s.routes.Holds slot inNamespace name) :
      Reachable reader ⟨s, none⟩
  | step {w w' : World slot} (before : Reachable reader w) (next : Step reader w w') :
      Reachable reader w'

end World

end ServingOperator
