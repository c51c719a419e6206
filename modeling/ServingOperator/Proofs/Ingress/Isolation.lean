import ServingOperator.Proofs.Ingress.Routes
import ServingOperator.Proofs.Ingress.Stages
import ServingOperator.Proofs.Pass.Ensures
import ServingOperator.Proofs.Route.Table

namespace ServingOperator

namespace Ingress

structure IsVersionOf (ingress : Ingress) (o : Route.Owner) (uid : String) : Prop where
  name : ingress.metadata.name = some o.name
  inNamespace : ingress.metadata.inNamespace = some o.inNamespace
  identity : ingress.metadata.uid = some uid

end Ingress

namespace RouteTable

/-- Every route that is labelled for an ingress stands where one was made for a version of it. -/
def MadeFor (table : RouteTable) (o : Route.Owner) (uid : String) : Prop :=
  ∀ space name, table.Holds o space name → ∃ version : Ingress, version.IsVersionOf o uid ∧
    ∃ made, version.routes = .ok made ∧ ∃ d ∈ made, d.key = (some space, some name)

variable {table after : RouteTable} {a b : Route.Owner} {uid space name : String}

theorem MadeFor.name_eq (h : table.MadeFor b uid) (held : table.Holds b space name) :
    ∃ host, name = Route.nameFor uid host := by
  obtain ⟨version, same, made, ok, d, member, key⟩ := h space name held
  obtain ⟨uid', host, space', identity, key'⟩ := Ingress.key_of_mem_routes ok member
  cases identity.symm.trans same.identity
  cases key.symm.trans key'
  exact ⟨host, rfl⟩

theorem MadeFor.of_deleted (h : table.MadeFor b uid) (deleted : Deleted space name table after) :
    after.MadeFor b uid :=
  fun _ _ held => h _ _ (held.of_deleted deleted).1

theorem MadeFor.of_applied (h : table.MadeFor b uid) {d : Route} (own : d.owner? = some a)
    (other : a ≠ b) (applied : Applied space name d table after) : after.MadeFor b uid := by
  intro space' name' held
  obtain ⟨r, kept, carried⟩ := applied.carried
  by_cases here : (space', name') = (space, name)
  · cases here
    exact absurd (Holds.owner_eq ⟨r, kept, carried.owner? own⟩ held) other
  · exact h space' name' (held.of_applied applied here)

end RouteTable

def Change.place? : Change → Option (String × String)
  | .merge _ _ => none
  | .applyRoute inNamespace name _ => some (inNamespace, name)
  | .deleteRoute inNamespace name => some (inNamespace, name)

structure Shared where
  routes : RouteTable
  asked : List (Change × RouteTable) := []

namespace Shared

inductive Effect : Change → RouteTable → RouteTable → Prop where
  | merged {target : Target} {patch : Json} {before after : RouteTable} (same : after = before) :
      Effect (.merge target patch) before after
  | applied {inNamespace name : String} {route : Route} {before after : RouteTable}
      (h : RouteTable.Applied inNamespace name route before after) :
      Effect (.applyRoute inNamespace name route) before after
  | deleted {inNamespace name : String} {before after : RouteTable}
      (h : RouteTable.Deleted inNamespace name before after) :
      Effect (.deleteRoute inNamespace name) before after

/-- A list shows each route once, where it is kept, and none that the selector does not select. It
    may leave some out. -/
structure Shows (selects : String → StringMap String → Bool) (o : Route.Owner) (table : RouteTable)
    (shown : List Route) : Prop where
  once : (shown.map Route.key).Nodup
  kept : ∀ r ∈ shown, ∃ space name, r.key = (some space, some name) ∧ table space name = some r
  selected : ∀ r ∈ shown, selects o.selector r.metadata.labelMap = true

/-- What others do while a pass over `a` runs. They do not touch its routes, and the routes that
    they label for `b` are made for it. -/
structure Meanwhile (a b : Route.Owner) (uid : String) (s s' : Shared) : Prop where
  asked : s'.asked = s.asked
  own : ∀ space name r, r.owner? = some a →
    (s'.routes space name = some r ↔ s.routes space name = some r)
  made : s.routes.MadeFor b uid → s'.routes.MadeFor b uid

def surroundings (selects : String → StringMap String → Bool) (a b : Route.Owner) (uid : String) :
    Surroundings Shared where
  meanwhile := Meanwhile a b uid
  facts _ _ := True
  change c s _ s' := s'.asked = (c, s.routes) :: s.asked ∧
    (s'.routes = s.routes ∨ Effect c s.routes s'.routes)
  routesOf o s answer s' := s' = s ∧ ∀ shown, answer = .ok shown → Shows selects o s.routes shown

def Spared (o : Route.Owner) (s : Shared) : Prop :=
  ∀ c found, (c, found) ∈ s.asked → ∀ space name, c.place? = some (space, name) →
    ¬found.Holds o space name

theorem Spared.asked {o : Route.Owner} {s s' : Shared} {c : Change} (h : s.Spared o)
    (asked : s'.asked = (c, s.routes) :: s.asked)
    (clear : ∀ space name, c.place? = some (space, name) → ¬s.routes.Holds o space name) :
    s'.Spared o := by
  intro c' found member
  rw [asked] at member
  rcases List.mem_cons.mp member with same | earlier
  · cases same
    exact clear
  · exact h c' found earlier

structure Intact (b : Route.Owner) (uid : String) (s : Shared) : Prop where
  made : s.routes.MadeFor b uid
  spared : s.Spared b

variable {selects : String → StringMap String → Bool} {a b : Route.Owner} {uid : String}
  {s s' : Shared}

theorem Intact.moved (h : s.Intact b uid) (moved : Meanwhile a b uid s s') : s'.Intact b uid where
  made := moved.made h.made
  spared := by
    unfold Spared
    rw [moved.asked]
    exact h.spared

theorem holds_moved (moved : Meanwhile a b uid s s') {space name : String}
    (held : s.routes.Holds a space name) : s'.routes.Holds a space name := by
  obtain ⟨r, kept, own⟩ := held
  exact ⟨r, (moved.own space name r own).mpr kept, own⟩

theorem Intact.changed (h : s.Intact b uid) {c : Change} {answer : Except ApiFailure Unit}
    (given : (surroundings selects a b uid).change c s answer s')
    (clear : ∀ space name, c.place? = some (space, name) → ¬s.routes.Holds b space name)
    (made : Effect c s.routes s'.routes → s'.routes.MadeFor b uid) : s'.Intact b uid := by
  obtain ⟨asked, same | effect⟩ := given
  · refine ⟨by rw [same]; exact h.made, h.spared.asked asked clear⟩
  · exact ⟨made effect, h.spared.asked asked clear⟩

end Shared

namespace Attempt

open Shared

def Spares (selects : String → StringMap String → Bool) (a b : Route.Owner) (uid : String)
    {α : Type} (x : Attempt α) : Prop :=
  ∀ s : Shared, s.Intact b uid →
    x.Ensures (surroundings selects a b uid) (Intact b uid) True (fun _ => Intact b uid) s

namespace Spares

variable {α β : Type} {selects : String → StringMap String → Bool} {a b : Route.Owner}
  {uid : String}

theorem pure (x : α) : (Pure.pure x : Attempt α).Spares selects a b uid := fun _ h => .pure h

theorem throw (e : PassError) : (MonadExcept.throw e : Attempt α).Spares selects a b uid :=
  fun _ _ => .throw e trivial

theorem bind {x : Attempt α} {f : α → Attempt β} (first : x.Spares selects a b uid)
    (rest : ∀ y, (f y).Spares selects a b uid) : (x >>= f).Spares selects a b uid :=
  fun s h => .bind ((first s h).mono fun y s' h' => rest y s' h')

theorem forM {γ : Type} {f : γ → Attempt PUnit} {xs : List γ}
    (each : ∀ x ∈ xs, (f x).Spares selects a b uid) : (xs.forM f).Spares selects a b uid :=
  forM_closed (.pure _) (fun _ _ first rest => first.bind fun _ => rest) each

theorem change {c : Change}
    (clear : ∀ table : RouteTable, table.MadeFor b uid → ∀ space name,
      c.place? = some (space, name) → ¬table.Holds b space name)
    (made : ∀ table after : RouteTable, table.MadeFor b uid → Effect c table after →
      after.MadeFor b uid) :
    (Attempt.change c).Spares selects a b uid := by
  intro s h
  refine .change fun s' moved answer s'' given => ?_
  have h' := h.moved moved
  have intact : s''.Intact b uid := h'.changed given (clear _ h'.made) (made _ _ h'.made)
  exact ⟨intact, fun _ => intact, fun _ => trivial⟩

end Spares

end Attempt

def SelectsOwn (selects : String → StringMap String → Bool) (o : Route.Owner) : Prop :=
  ∀ r : Route, selects o.selector r.metadata.labelMap = true → r.owner? = some o

namespace Ingress

open Shared

variable {selects : String → StringMap String → Bool} {a b : Route.Owner} {uid : String}
  {s : Shared} {ingress : Ingress}

theorem setFinalizers_spares (inNamespace : String) (finalizers : List String) :
    (Attempt.change (ingress.setFinalizers inNamespace finalizers)).Spares selects a b uid := by
  refine .change (fun _ _ => nofun) fun table after made effect => ?_
  cases effect with
  | merged same =>
    rw [same]
    exact made

theorem applyRoute_spares (other : a ≠ b) {d : Route} (own : d.owner? = some a)
    {space uid' host : String} (key : d.key = (some space, some (Route.nameFor uid' host)))
    (identity : uid' ≠ uid) : (Attempt.change (applyRoute d)).Spares selects a b uid := by
  obtain ⟨spaced, named⟩ := Prod.mk.inj key
  have place : applyRoute d = .applyRoute space (Route.nameFor uid' host) d := by
    rw [applyRoute, ObjectMeta.nameAny, spaced, named]
    rfl
  rw [place]
  refine .change (fun table made space' name same held => ?_) fun table after made effect => ?_
  · cases same
    obtain ⟨host', same⟩ := made.name_eq held
    exact identity (Route.uid_eq_of_nameFor_eq same)
  · cases effect with
    | applied applied => exact made.of_applied own other applied

theorem applyRoutes_spares (other : a ≠ b) (named : ingress.metadata.name = some a.name)
    (spaced : ingress.metadata.inNamespace = some a.inNamespace)
    (identity : ingress.metadata.uid ≠ some uid) {desired : List Route}
    (made : ingress.routes = .ok desired) :
    (desired.forM fun route => Attempt.change (applyRoute route)).Spares selects a b uid := by
  refine .forM fun d member => ?_
  obtain ⟨own, -⟩ := owner?_of_mem_routes made named spaced member
  obtain ⟨uid', host, space, identified, key⟩ := key_of_mem_routes made member
  refine applyRoute_spares other own key ?_
  rintro rfl
  exact identity identified

structure Clearing (a b : Route.Owner) (uid : String) (places : List (String × String))
    (s : Shared) : Prop where
  intact : s.Intact b uid
  once : places.Nodup
  held : ∀ place ∈ places, s.routes.Holds a place.1 place.2

theorem delete_spares (other : a ≠ b) {place : String × String} {places : List (String × String)}
    (h : Clearing a b uid (place :: places) s) :
    (Attempt.delete place.1 place.2).Ensures (surroundings selects a b uid) (Intact b uid) True
      (fun _ => Clearing a b uid places) s := by
  refine .delete fun s' moved answer s'' given => ?_
  obtain ⟨different, once⟩ := List.nodup_cons.mp h.once
  have h' := h.intact.moved moved
  have here : s'.routes.Holds a place.1 place.2 := holds_moved moved (h.held _ List.mem_cons_self)
  have intact : s''.Intact b uid := by
    refine h'.changed given (fun space name same => ?_) fun effect => ?_
    · cases same
      exact fun held => other (here.owner_eq held)
    · cases effect with
      | deleted deleted => exact h'.made.of_deleted deleted
  -- Where a place came twice, others might have put a route for `b` into it by its second turn.
  have left : ∀ p ∈ places, s''.routes.Holds a p.1 p.2 := by
    intro p member
    obtain ⟨r, kept, own⟩ := holds_moved moved (h.held p (List.mem_cons_of_mem _ member))
    have apart : p ≠ place := by
      rintro rfl
      exact different member
    refine ⟨r, ?_, own⟩
    obtain ⟨-, same | effect⟩ := given
    · rw [same]
      exact kept
    · cases effect with
      | deleted deleted => exact (deleted.elsewhere apart).trans kept
  exact ⟨intact, fun _ => ⟨intact, once, left⟩, fun _ => trivial⟩

theorem deleteStale_spares (other : a ≠ b) (selected : SelectsOwn selects a)
    (desired : List Route) : (deleteStale a desired).Spares selects a b uid := by
  intro s h
  refine .bind (.routesOf fun s' moved answer s'' given => ?_)
  obtain ⟨rfl, listed⟩ := given
  have h' := h.moved moved
  refine ⟨h', fun existing answered => ?_, fun _ _ => trivial⟩
  have shows := listed existing answered
  have start : Clearing a b uid (Route.stale existing desired) s'' := by
    refine ⟨h', Route.nodup_stale shows.once desired, fun place member => ?_⟩
    obtain ⟨⟨r, shown, key⟩, -⟩ := Route.mem_stale.mp member
    obtain ⟨space, name, key', stored⟩ := shows.kept r shown
    cases key.symm.trans key'
    exact ⟨r, stored, selected r (shows.selected r shown)⟩
  exact (Attempt.Ensures.forM (Clearing a b uid) (fun _ _ _ => delete_spares other) _ start).mono
    fun _ _ cleared => cleared.intact

theorem serve_spares (other : a ≠ b) (selected : SelectsOwn selects a)
    (named : ingress.metadata.name = some a.name)
    (spaced : ingress.metadata.inNamespace = some a.inNamespace)
    (identity : ingress.metadata.uid ≠ some uid) : (ingress.serve a).Spares selects a b uid := by
  cases made : ingress.routes with
  | error e =>
    rw [serve_of_error made]
    exact .throw _
  | ok desired =>
    rw [serve_of_routes made]
    have secured : (ingress.secure a).Spares selects a b uid := by
      unfold secure
      split
      · exact .pure ()
      · exact setFinalizers_spares _ _
    refine secured.bind fun _ => ?_
    refine (applyRoutes_spares other named spaced identity made).bind fun _ => ?_
    exact (deleteStale_spares other selected desired).bind fun _ => .pure _

theorem release_spares (other : a ≠ b) (selected : SelectsOwn selects a) :
    (ingress.release a).Spares selects a b uid := by
  cases has : ingress.hasFinalizer with
  | false =>
    rw [release_of_no_finalizer has]
    exact .pure _
  | true =>
    rw [release_of_finalizer has]
    refine (deleteStale_spares other selected []).bind fun _ => ?_
    exact (setFinalizers_spares _ _).bind fun _ => .pure _

/-- No change that a pass asks for is about a route that is labelled for another ingress, and the
    names of routes tell their identities apart. -/
theorem pass_spares (selected : SelectsOwn selects a)
    (named : ingress.metadata.name = some a.name)
    (spaced : ingress.metadata.inNamespace = some a.inNamespace) (other : a ≠ b)
    (identity : ingress.metadata.uid ≠ some uid) {start : RouteTable}
    (made : start.MadeFor b uid) :
    ingress.pass.Ensures (surroundings selects a b uid) (Intact b uid) True
        (fun _ => Intact b uid) ⟨start, []⟩ ∧
      ∀ u u' host host', Route.nameFor u host = Route.nameFor u' host' → u = u' := by
  refine ⟨?_, fun u u' host host' same => Route.uid_eq_of_nameFor_eq same⟩
  have intact : Intact b uid ⟨start, []⟩ := ⟨made, fun _ _ member => absurd member List.not_mem_nil⟩
  have owner : (⟨ingress.metadata.nameAny, a.inNamespace⟩ : Route.Owner) = a := by
    rw [ObjectMeta.nameAny, named]
    rfl
  cases deletion : ingress.metadata.deletionTimestamp with
  | none =>
    rw [pass_of_live spaced deletion, owner]
    exact serve_spares other selected named spaced identity _ intact
  | some time =>
    rw [pass_of_deleted spaced (by rw [deletion]; rfl), owner]
    exact release_spares other selected _ intact

def shopOwner : Route.Owner := ⟨"shop", "apps"⟩

def shop : Ingress :=
  { oneHost with metadata := { name := some "shop", inNamespace := some "apps", uid := some "2" } }

def impostor : Ingress :=
  { oneHost with metadata := { oneHost.metadata with labels := some (shopOwner.mark ∅) } }

def shopRoute : Route :=
  { oneHostRoute with metadata := { oneHostRoute.metadata with
      name := some (Route.nameFor "2" "www.example.org"), labels := some (shopOwner.mark ∅) } }

theorem routes_shop : shop.routes = .ok [shopRoute] := routes_oneHost_renamed "shop" "apps" "2" none

def shopTable : RouteTable := fun space name =>
  if (some space, some name) = shopRoute.key then some shopRoute else none

theorem madeFor_shopTable : shopTable.MadeFor shopOwner "2" := by
  rintro space name ⟨r, kept, -⟩
  unfold shopTable at kept
  split at kept
  · rename_i here
    exact ⟨shop, ⟨rfl, rfl, rfl⟩, _, routes_shop, _, List.mem_singleton_self _, here.symm⟩
  · cases kept

theorem pass_spares_impostor :
    SelectsOwn Selector.equalityReader.selects oneHostOwner ∧
      impostor.metadata.name = some oneHostOwner.name ∧
      impostor.metadata.inNamespace = some oneHostOwner.inNamespace ∧
      oneHostOwner ≠ shopOwner ∧ impostor.metadata.uid ≠ some "2" ∧
      shopTable.MadeFor shopOwner "2" ∧
      impostor.pass.Ensures
        (surroundings Selector.equalityReader.selects oneHostOwner shopOwner "2")
        (Intact shopOwner "2") True (fun _ => Intact shopOwner "2") ⟨shopTable, []⟩ := by
  have selected : SelectsOwn Selector.equalityReader.selects oneHostOwner :=
    fun r => (Route.selects_selector Selector.equalityReader plain_oneHostOwner r).mp
  have other : oneHostOwner ≠ shopOwner := by decide
  have identity : impostor.metadata.uid ≠ some "2" := by decide
  obtain ⟨spared, -⟩ := pass_spares selected rfl rfl other identity madeFor_shopTable
  exact ⟨selected, rfl, rfl, other, identity, madeFor_shopTable, spared⟩

end Ingress

end ServingOperator
