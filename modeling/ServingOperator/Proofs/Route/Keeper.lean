import Mathlib.Data.List.AList
import ServingOperator.Proofs.Pass.Trace
import ServingOperator.Proofs.Route.Table
import ServingOperator.Proofs.StringMap

namespace ServingOperator

/-- How a server keeps routes: applying one sets at least what it asks for, a listing shows what
    the selector selects, and deletions are by namespace and name. -/
structure ApiServer.KeepsRoutes {σ : Type} (server : ApiServer σ) (reader : Selector.Reader)
    (routes : σ → RouteTable) : Prop where
  addressed : ∀ s, (routes s).Addressed
  merge : ∀ target patch s, routes (server.change (.merge target patch) s).2 = routes s
  apply : ∀ {inNamespace name route s s'},
    server.change (.applyRoute inNamespace name route) s = (.ok (), s') →
      RouteTable.Applied inNamespace name route (routes s) (routes s')
  delete : ∀ {inNamespace name s answer s'},
    server.change (.deleteRoute inNamespace name) s = (answer, s') →
      answer = .ok () ∨ answer = .error .notFound →
        RouteTable.Deleted inNamespace name (routes s) (routes s')
  list : ∀ {owner s shown s'}, server.routesOf owner s = (.ok shown, s') →
    (routes s).Lists reader owner shown ∧ routes s' = routes s

abbrev RouteStore := AList fun _ : String × String => Route

namespace RouteStore

def shown (place : String × String) (r : Route) : Route :=
  { r with metadata := { r.metadata with inNamespace := some place.1, name := some place.2 } }

def applied (kept : Option Route) (r : Route) : Route :=
  match kept with
  | none => r
  | some kept =>
    { kept with
      metadata := { kept.metadata with
        labels := some (kept.metadata.labelMap.insertAll r.metadata.labelMap)
        annotations := some (kept.metadata.annotationMap.insertAll r.metadata.annotationMap) }
      spec := r.spec }

def routes (store : RouteStore) : RouteTable := fun inNamespace name =>
  (store.lookup (inNamespace, name)).map (shown (inNamespace, name))

def all (store : RouteStore) : List Route := store.entries.map fun entry => shown entry.1 entry.2

def server (reader : Selector.Reader) : ApiServer RouteStore where
  facts _ := ⟨.error .notFound, .error .notFound, .error .notFound⟩
  change
    | .merge _ _, store => (.ok (), store)
    | .applyRoute inNamespace name route, store =>
      let kept := store.lookup (inNamespace, name)
      (.ok (), store.insert (inNamespace, name) (applied kept route))
    | .deleteRoute inNamespace name, store =>
      (if (inNamespace, name) ∈ store then .ok () else .error .notFound,
        store.erase (inNamespace, name))
  routesOf owner store :=
    (.ok (store.all.filter fun r => reader.selects owner.selector r.metadata.labelMap), store)

theorem carriedBy_shown_applied (place : String × String) (kept : Option Route) (r : Route) :
    r.CarriedBy (shown place (applied kept r)) := by
  cases kept with
  | none => exact ⟨fun _ _ h => h, fun _ _ h => h, rfl⟩
  | some kept =>
    refine ⟨fun key value h => ?_, fun key value h => ?_, rfl⟩
    · exact (StringMap.get?_insertAll _ _ key).trans (by rw [h]; rfl)
    · exact (StringMap.get?_insertAll _ _ key).trans (by rw [h]; rfl)

theorem mem_all {store : RouteStore} {r : Route} :
    r ∈ store.all ↔ ∃ inNamespace name, store.routes inNamespace name = some r := by
  unfold all routes
  constructor
  · intro member
    obtain ⟨⟨place, kept⟩, entry, rfl⟩ := List.mem_map.mp member
    exact ⟨place.1, place.2, Option.map_eq_some_iff.mpr ⟨kept, AList.mem_lookup_iff.mpr entry, rfl⟩⟩
  · rintro ⟨inNamespace, name, found⟩
    obtain ⟨kept, entry, rfl⟩ := Option.map_eq_some_iff.mp found
    exact List.mem_map.mpr ⟨_, AList.mem_lookup_iff.mp entry, rfl⟩

theorem server_keepsRoutes (reader : Selector.Reader) :
    (server reader).KeepsRoutes reader routes where
  addressed store inNamespace name r kept := by
    obtain ⟨r, -, rfl⟩ := Option.map_eq_some_iff.mp kept
    rfl
  merge target patch store := rfl
  apply {inNamespace name route store store'} h := by
    cases h
    have carried := carriedBy_shown_applied (inNamespace, name)
      (store.lookup (inNamespace, name)) route
    refine ⟨⟨_, ?_, carried⟩, fun other => ?_⟩
    · rw [routes, AList.lookup_insert]
      rfl
    · rw [routes, routes, AList.lookup_insert_ne other]
  delete {inNamespace name store answer store'} h _ := by
    cases h
    refine ⟨?_, fun other => ?_⟩
    · rw [routes, AList.lookup_erase]
      rfl
    · rw [routes, routes, AList.lookup_erase_ne other]
  list {owner store shown store'} h := by
    cases h
    refine ⟨fun r => ?_, rfl⟩
    rw [List.mem_filter, mem_all]

theorem server_grants (reader : Selector.Reader) {α : Type} (p : Pass α) (store : RouteStore) :
    ∀ exchange ∈ p.trace (server reader) store, exchange.Granted := by
  refine Pass.granted_trace (fun c store => ?_) (fun owner store => ⟨_, rfl⟩) p store
  cases c with
  | merge target patch => rfl
  | applyRoute inNamespace name route => rfl
  | deleteRoute inNamespace name =>
    dsimp only [server]
    split
    · exact .inl rfl
    · exact .inr rfl

end RouteStore

end ServingOperator
