import ServingOperator.Proofs.Api.Addresses
import ServingOperator.Proofs.Ingress.Convergence
import ServingOperator.Proofs.Pass.Agenda

namespace ServingOperator

def HttpRequest.Is (request : HttpRequest) (method path : String)
    (parameters : List (String × String)) : Prop :=
  request.method = method ∧ Address.of? path parameters = some request.address

namespace Route

def place? (r : Route) : Option (String × String) :=
  match r.metadata.inNamespace, r.metadata.name with
  | some inNamespace, some name => some (inNamespace, name)
  | _, _ => none

def surplus (desired existing : List Route) : List (String × String) :=
  (existing.filterMap place?).filter fun place => ∀ d ∈ desired, d.place? ≠ some place

theorem place?_eq_some_iff {r : Route} {place : String × String} :
    r.place? = some place ↔ r.key = (some place.1, some place.2) := by
  obtain ⟨inNamespace, name⟩ := place
  unfold place? key
  cases r.metadata.inNamespace <;> cases r.metadata.name <;> simp

theorem stale_eq_surplus (existing desired : List Route) :
    stale existing desired = surplus desired existing := by
  unfold stale surplus
  induction existing with
  | nil => rfl
  | cons r existing ih =>
    have address : (do return (← r.metadata.inNamespace, ← r.metadata.name)) = r.place? := by
      unfold place?
      cases r.metadata.inNamespace <;> cases r.metadata.name <;> rfl
    cases placed : r.place? with
    | none =>
      rw [List.filterMap_cons_none placed, ← ih, List.filter_cons]
      split
      · exact List.filterMap_cons_none (address.trans placed)
      · rfl
    | some place =>
      have key := place?_eq_some_iff.mp placed
      have same : (!desired.any fun d => d.key = r.key) = true ↔
          ∀ d ∈ desired, d.place? ≠ some place := by
        simp [key, place?_eq_some_iff]
      rw [List.filterMap_cons_some placed, List.filter_cons, List.filter_cons]
      by_cases wanted : ∀ d ∈ desired, d.place? ≠ some place
      · rw [if_pos (same.mpr wanted), if_pos (decide_eq_true wanted), ← ih]
        exact List.filterMap_cons_some (address.trans placed)
      · rw [if_neg fun unwanted => wanted (same.mp unwanted),
          if_neg fun unwanted => wanted (of_decide_eq_true unwanted), ← ih]

end Route

namespace Ingress

variable {σ : Type} {server : ApiServer σ}

def finalizing (ingress : Ingress) (inNamespace : String) (finalizers : List String) : Ask :=
  .change (.merge (.ingress inNamespace ingress.metadata.nameAny)
    (.obj [("metadata", .obj [("finalizers", .arr (finalizers.map .str))])]))

def applying (desired : List Route) : List Ask :=
  desired.filterMap fun r => r.place?.map fun place => .change (.applyRoute place.1 place.2 r)

/-- The routes of an ingress are listed. Of those that are shown, each one that is not desired and
    has a place is deleted there. -/
def clearing (owner : Route.Owner) (desired existing : List Route) : List Ask :=
  .list owner existing :: (Route.surplus desired existing).map fun place =>
    .change (.deleteRoute place.1 place.2)

def securing (ingress : Ingress) (inNamespace : String) : List Ask :=
  if "ocp-ingress" ∈ ingress.metadata.finalizerList then []
  else [ingress.finalizing inNamespace (ingress.metadata.finalizerList ++ ["ocp-ingress"])]

def servingAgenda (ingress : Ingress) (owner : Route.Owner) (desired existing : List Route) :
    List Ask :=
  ingress.securing owner.inNamespace ++ applying desired ++ clearing owner desired existing

def releasingAgenda (ingress : Ingress) (owner : Route.Owner) (existing : List Route) :
    List Ask :=
  if "ocp-ingress" ∈ ingress.metadata.finalizerList then
    clearing owner [] existing ++ [ingress.finalizing owner.inNamespace
      (ingress.metadata.finalizerList.filter (· ≠ "ocp-ingress"))]
  else []

theorem place?_of_mem_routes {ingress : Ingress} {desired : List Route}
    (h : ingress.routes = .ok desired) {d : Route} (member : d ∈ desired) :
    ∃ place, d.place? = some place := by
  obtain ⟨host, made⟩ := routeFor_of_mem_routes h member
  obtain ⟨name, inNamespace, uid, service, space, policy, -, -, -, -, -, rfl⟩ :=
    routeFor_eq_ok made
  exact ⟨_, rfl⟩

theorem setFinalizers_follows (ingress : Ingress) (inNamespace : String)
    (finalizers : List String) (s : σ) :
    (Attempt.change (ingress.setFinalizers inNamespace finalizers)).Follows server
      [ingress.finalizing inNamespace finalizers] () s :=
  .change (Exchange.merge_refused _ _) s

theorem secure_follows (ingress : Ingress) (owner : Route.Owner) (s : σ) :
    (ingress.secure owner).Follows server (ingress.securing owner.inNamespace) () s := by
  have present : ingress.hasFinalizer = true ↔ "ocp-ingress" ∈ ingress.metadata.finalizerList :=
    hasFinalizer_iff
  unfold secure securing
  by_cases has : ingress.hasFinalizer = true
  · rw [if_pos has, if_pos (present.mp has)]
    exact .pure () s
  · rw [if_neg has, if_neg (mt present.mpr has)]
    exact ingress.setFinalizers_follows _ _ s

theorem applyRoutes_follows {desired : List Route}
    (placed : ∀ d ∈ desired, ∃ place, d.place? = some place) (s : σ) :
    (desired.forM fun route => Attempt.change (applyRoute route)).Follows server
      (applying desired) () s := by
  have asks : applying desired = desired.map fun route => .change (applyRoute route) := by
    unfold applying
    rw [← List.filterMap_eq_map]
    refine List.filterMap_congr fun d member => ?_
    obtain ⟨place, found⟩ := placed d member
    have key := Route.place?_eq_some_iff.mp found
    unfold Route.key at key
    simp only [Prod.mk.injEq] at key
    simp [found, applyRoute, ObjectMeta.nameAny, key]
  rw [asks]
  exact .forM (fun route _ s => .change (Exchange.applyRoute_refused _ _ route) s) s

theorem deleteStale_follows (server : ApiServer σ) (owner : Route.Owner) (desired : List Route)
    (s : σ) : ∃ existing,
    (deleteStale owner desired).Follows server (clearing owner desired existing) () s := by
  obtain ⟨existing, listed⟩ := Attempt.Follows.routesOf server owner s
  refine ⟨existing, listed.bind ?_⟩
  rw [Route.stale_eq_surplus]
  exact .forM (fun place _ s => .delete place.1 place.2 s) _

theorem serve_follows (server : ApiServer σ) {ingress : Ingress} {desired : List Route}
    (made : ingress.routes = .ok desired) (owner : Route.Owner) (s : σ) :
    ∃ existing, (ingress.serve owner).Follows server
      (ingress.servingAgenda owner desired existing) (served owner desired) s := by
  have placed : ∀ d ∈ desired, ∃ place, d.place? = some place :=
    fun d => place?_of_mem_routes made
  obtain ⟨existing, cleared⟩ := deleteStale_follows server owner desired
    ((desired.forM fun route => Attempt.change (applyRoute route)).run.run server
      ((ingress.secure owner).run.run server s).2).2
  have ended := cleared.bind (f := fun _ => pure (served owner desired)) (.pure _ _)
  rw [List.append_nil] at ended
  refine ⟨existing, ?_⟩
  rw [serve_of_routes made, servingAgenda, List.append_assoc]
  exact (ingress.secure_follows owner s).bind <| (applyRoutes_follows placed _).bind ended

theorem release_follows (server : ApiServer σ) (ingress : Ingress) (owner : Route.Owner) (s : σ) :
    ∃ existing, (ingress.release owner).Follows server
      (ingress.releasingAgenda owner existing) (released owner) s := by
  have present : ingress.hasFinalizer = true ↔ "ocp-ingress" ∈ ingress.metadata.finalizerList :=
    hasFinalizer_iff
  unfold releasingAgenda
  by_cases has : ingress.hasFinalizer = true
  · obtain ⟨existing, cleared⟩ := deleteStale_follows server owner [] s
    refine ⟨existing, ?_⟩
    rw [release_of_finalizer has, if_pos (present.mp has)]
    exact cleared.bind <| (ingress.setFinalizers_follows _ _ _).bind (.pure _ _)
  · refine ⟨[], ?_⟩
    rw [release_of_no_finalizer (by simpa using has), if_neg (mt present.mpr has)]
    exact .pure _ s

theorem mem_securing {ingress : Ingress} {inNamespace : String} {ask : Ask}
    (h : ask ∈ ingress.securing inNamespace) :
    ∃ finalizers, ask = ingress.finalizing inNamespace finalizers := by
  unfold securing at h
  split at h
  · cases h
  · exact ⟨_, List.mem_singleton.mp h⟩

theorem mem_applying {desired : List Route} {ask : Ask} (h : ask ∈ applying desired) :
    ∃ r ∈ desired, ∃ place, r.place? = some place ∧
      ask = .change (.applyRoute place.1 place.2 r) := by
  obtain ⟨r, member, asked⟩ := List.mem_filterMap.mp h
  obtain ⟨place, placed, rfl⟩ := Option.map_eq_some_iff.mp asked
  exact ⟨r, member, place, placed, rfl⟩

theorem mem_clearing {owner : Route.Owner} {desired existing : List Route} {ask : Ask}
    (h : ask ∈ clearing owner desired existing) : ask = .list owner existing ∨
      ∃ place, (∀ d ∈ desired, d.place? ≠ some place) ∧
        ask = .change (.deleteRoute place.1 place.2) := by
  rcases List.mem_cons.mp h with rfl | deleted
  · exact .inl rfl
  · obtain ⟨place, member, rfl⟩ := List.mem_map.mp deleted
    exact .inr ⟨place, of_decide_eq_true (List.mem_filter.mp member).2, rfl⟩

theorem place?_ne_of_mem_servingAgenda {ingress : Ingress} {owner : Route.Owner}
    {desired existing : List Route} {space name : String}
    (h : .change (.deleteRoute space name) ∈ ingress.servingAgenda owner desired existing) :
    ∀ d ∈ desired, d.place? ≠ some (space, name) := by
  rcases List.mem_append.mp h with early | clearing
  · rcases List.mem_append.mp early with securing | applying
    · obtain ⟨finalizers, same⟩ := mem_securing securing
      cases same
    · obtain ⟨r, -, place, -, same⟩ := mem_applying applying
      cases same
  · rcases mem_clearing clearing with same | ⟨place, unwanted, same⟩
    · cases same
    · cases same
      exact unwanted

theorem applyRoute_not_mem_releasingAgenda {ingress : Ingress} {owner : Route.Owner}
    {existing : List Route} {space name : String} {route : Route} :
    .change (.applyRoute space name route) ∉ ingress.releasingAgenda owner existing := by
  intro h
  unfold releasingAgenda at h
  split at h
  · rcases List.mem_append.mp h with clearing | last
    · rcases mem_clearing clearing with same | ⟨place, -, same⟩ <;> cases same
    · cases List.mem_singleton.mp last
  · cases h

theorem listRequest?_is {owner : Route.Owner} {request : HttpRequest}
    (h : owner.listRequest? = some request) : request.Is "GET"
      "/apis/route.openshift.io/v1/routes" [("labelSelector", owner.selector)] := by
  obtain ⟨address, written, rfl⟩ := Option.map_eq_some_iff.mp h
  have path : Route.kind.path none = "/apis/route.openshift.io/v1/routes" := by decide
  exact ⟨rfl, path ▸ written⟩

theorem applyRequest?_is {space name : String} {route : Route} {request : HttpRequest}
    (h : (Change.applyRoute space name route).request? = some request) : request.Is "PATCH"
      ("/apis/route.openshift.io/v1/namespaces/" ++ space ++ "/routes/" ++ name)
      [("force", "true"), ("fieldManager", "serverless-operator")] := by
  unfold Change.request? at h
  split at h
  · cases h
  · obtain ⟨address, written, rfl⟩ := Option.map_eq_some_iff.mp h
    have start : "/apis/" ++ Route.kind.apiVersion ++ "/" ++ "namespaces/" =
        "/apis/route.openshift.io/v1/namespaces/" := by decide
    have rest : "/" ++ Route.kind.plural ++ "/" = "/routes/" := by decide
    have path : (Change.applyRoute space name route).path =
        "/apis/route.openshift.io/v1/namespaces/" ++ space ++ "/routes/" ++ name := by
      rw [← start, ← rest]
      simp only [Change.path, ResourceKind.path, String.append_assoc]
    exact ⟨rfl, path ▸ written⟩

theorem exists_listRequest_is {owner : Route.Owner} (name : IsName owner.name)
    (inNamespace : IsName owner.inNamespace) :
    ∃ request, owner.listRequest? = some request ∧ request.Is "GET"
      "/apis/route.openshift.io/v1/routes" [("labelSelector", owner.selector)] := by
  obtain ⟨request, made⟩ := owner.exists_listRequest name inNamespace
  exact ⟨request, made, listRequest?_is made⟩

theorem exists_applyRequest_is {space name : String} (inNamespace : IsName space)
    (named : IsName name) (route : Route) :
    ∃ request, (Change.applyRoute space name route).request? = some request ∧ request.Is "PATCH"
      ("/apis/route.openshift.io/v1/namespaces/" ++ space ++ "/routes/" ++ name)
      [("force", "true"), ("fieldManager", "serverless-operator")] := by
  obtain ⟨request, made⟩ :=
    Change.exists_request (c := .applyRoute space name route) ⟨inNamespace, named⟩
  exact ⟨request, made, applyRequest?_is made⟩

/-- A pass goes through the agenda of its ingress, in order and up to the first request that is
    refused. A live ingress whose routes cannot be made asks for nothing. -/
theorem pass_follows_agenda {ingress : Ingress} {inNamespace : String}
    (spaced : ingress.metadata.inNamespace = some inNamespace) (server : ApiServer σ) (s : σ) :
    let owner : Route.Owner := ⟨ingress.metadata.nameAny, inNamespace⟩
    let trace := ingress.pass.run.trace server s
    let result := (ingress.pass.run.run server s).1
    (∀ request, owner.listRequest? = some request → request.Is "GET"
      "/apis/route.openshift.io/v1/routes" [("labelSelector", owner.selector)]) ∧
    if ingress.metadata.deletionTimestamp = none then
      match ingress.routes with
      | .error e => trace = [] ∧ result = .error (.routes e)
      | .ok desired =>
        (∃ existing, Follows (served owner desired)
          (ingress.servingAgenda owner desired existing) trace result) ∧
        ∀ d ∈ desired, ∃ space name, d.place? = some (space, name) ∧
          (∀ answer, .change (.deleteRoute space name) answer ∉ trace) ∧
          ∀ request, (Change.applyRoute space name d).request? = some request → request.Is "PATCH"
            ("/apis/route.openshift.io/v1/namespaces/" ++ space ++ "/routes/" ++ name)
            [("force", "true"), ("fieldManager", "serverless-operator")]
    else
      (∃ existing, Follows (released owner) (ingress.releasingAgenda owner existing) trace result) ∧
      ∀ space name route answer, .change (.applyRoute space name route) answer ∉ trace := by
  intro owner trace result
  refine ⟨fun request => listRequest?_is, ?_⟩
  by_cases live : ingress.metadata.deletionTimestamp = none
  · rw [if_pos live]
    have pass := pass_of_live spaced live
    cases made : ingress.routes with
    | error e =>
      have serve : ingress.pass = throw (.routes e) := pass.trans (serve_of_error made owner)
      exact ⟨by simp only [trace, serve]; rfl, by simp only [result, serve]; rfl⟩
    | ok desired =>
      obtain ⟨existing, follows⟩ := serve_follows server made owner s
      rw [← pass] at follows
      refine ⟨⟨existing, follows⟩, fun d member => ?_⟩
      obtain ⟨⟨space, name⟩, placed⟩ := place?_of_mem_routes made member
      refine ⟨space, name, placed, fun answer sent => ?_, fun request => applyRequest?_is⟩
      exact place?_ne_of_mem_servingAgenda (follows.change_mem_agenda sent) d member placed
  · rw [if_neg live]
    have pass := pass_of_deleted spaced (Option.isSome_iff_ne_none.mpr live)
    obtain ⟨existing, follows⟩ := release_follows server ingress owner s
    rw [← pass] at follows
    exact ⟨⟨existing, follows⟩, fun space name route answer sent =>
      applyRoute_not_mem_releasingAgenda (follows.change_mem_agenda sent)⟩

def showing (shown : List Route) (answer : Change → Except ApiFailure Unit) : ApiServer Unit where
  facts _ := ⟨.error .notFound, .error .notFound, .error .notFound⟩
  change c _ := (answer c, ())
  routesOf _ _ := (.ok shown, ())

def refusingDeletes : Change → Except ApiFailure Unit
  | .deleteRoute _ _ => .error (.status 500)
  | _ => .ok ()

/-- While a route cannot be deleted, the finalizer stays. -/
theorem pass_follows_agenda_oneHostDeleted :
    let server := showing [oneHostRoute] refusingDeletes
    let trace := oneHostDeleted.pass.run.trace server ()
    oneHostDeleted.metadata.inNamespace = some "apps" ∧
      (∃ existing, Follows (released oneHostOwner)
        (oneHostDeleted.releasingAgenda oneHostOwner existing) trace
        (oneHostDeleted.pass.run.run server ()).1) ∧
      trace = [.routesOf oneHostOwner (.ok [oneHostRoute]),
        .change (.deleteRoute "edge" (Route.nameFor "1" "www.example.org"))
          (.error (.status 500))] := by
  intro server trace
  have spaced : oneHostDeleted.metadata.inNamespace = some "apps" := rfl
  obtain ⟨-, deleted⟩ := pass_follows_agenda spaced server ()
  exact ⟨spaced, deleted.1, rfl⟩

def unplacedRoute : Route := { oneHostRoute with metadata := { oneHostRoute.metadata with
  inNamespace := none } }

/-- A route that does not say where it is is shown and not deleted, and yet the finalizer goes. -/
theorem deleted_pass_skips_unplaced :
    let trace := oneHostDeleted.pass.run.trace (showing [unplacedRoute] fun _ => .ok ()) ()
    (∀ x ∈ trace, x.Granted) ∧
      .routesOf oneHostOwner (.ok [unplacedRoute]) ∈ trace ∧
      ∀ space name answer, .change (.deleteRoute space name) answer ∉ trace := by
  intro trace
  have asked : trace = [.routesOf oneHostOwner (.ok [unplacedRoute]),
      .change (oneHostDeleted.setFinalizers "apps" []) (.ok ())] := rfl
  rw [asked]
  refine ⟨?_, List.mem_cons_self, ?_⟩
  · intro x member
    rcases List.mem_cons.mp member with rfl | last
    · exact ⟨_, rfl⟩
    · rw [List.mem_singleton.mp last]
      exact Exchange.granted_ok _
  · intro space name answer sent
    rcases List.mem_cons.mp sent with same | last
    · cases same
    · cases List.mem_singleton.mp last

end Ingress

end ServingOperator
