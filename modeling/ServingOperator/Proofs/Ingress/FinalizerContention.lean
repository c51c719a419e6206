import ServingOperator.Proofs.Ingress.Routes
import ServingOperator.Proofs.Ingress.Stages
import ServingOperator.Proofs.Pass.Contention

namespace ServingOperator.Ingress

open Contended

def otherFinalizers (ingress : Ingress) : List String :=
  ingress.metadata.finalizerList.filter (· ≠ finalizer)

def isDeleted (ingress : Ingress) : Bool := ingress.metadata.deletionTimestamp.isSome

def ownFinalizers (ingress : Ingress) : List String :=
  if ingress.isDeleted then [] else [finalizer]

def withFinalizers (ingress : Ingress) (finalizers : List String) : Ingress :=
  { ingress with metadata := ingress.metadata.withFinalizers finalizers }

/-- A document holds what others have in the list at the moment, as it stands there, and besides
    only what a pass leaves of its own. -/
def KeepsOthers (read current : Ingress) (document : Json) : Prop :=
  ∃ after, Ingress.format.decode document = some after ∧
    after.metadata.finalizerList = current.otherFinalizers ++ read.ownFinalizers

/-- Where an ingress is found, its list is replaced by the one that follows from what a pass has
    read. -/
def Overwritten (read : Ingress) (found left : Json) : Prop :=
  ∀ members current, found = .obj members → Ingress.format.decode found = some current →
    Ingress.format.decode left =
        some (current.withFinalizers (read.otherFinalizers ++ read.ownFinalizers)) ∧
      (read.KeepsOthers current left ↔ read.otherFinalizers = current.otherFinalizers)

theorem overwritten_finalizerPatch (read : Ingress) (found : Json) :
    read.Overwritten found
      ((finalizerPatch (read.otherFinalizers ++ read.ownFinalizers)).mergeInto found) := by
  rintro members current rfl decoded
  have left := decode_finalizerPatch decoded (read.otherFinalizers ++ read.ownFinalizers)
  have list : (current.withFinalizers
      (read.otherFinalizers ++ read.ownFinalizers)).metadata.finalizerList =
        read.otherFinalizers ++ read.ownFinalizers := rfl
  refine ⟨left, ?_⟩
  constructor
  · rintro ⟨after, decoded', kept⟩
    obtain rfl := Option.some.inj (left.symm.trans decoded')
    exact List.append_cancel_right (list.symm.trans kept)
  · intro same
    exact ⟨_, left, list.trans (congrArg (· ++ read.ownFinalizers) same)⟩

theorem otherFinalizers_of_hasFinalizer_eq_false {ingress : Ingress}
    (h : ingress.hasFinalizer = false) :
    ingress.otherFinalizers = ingress.metadata.finalizerList := by
  refine List.filter_eq_self.mpr fun other member => decide_eq_true ?_
  rintro rfl
  rw [hasFinalizer_iff.mpr member] at h
  cases h

section

variable {target : Target} {answers : FactAnswers} {owner : Route.Owner}

theorem deleteStale_leavesAlone (desired : List Route) :
    (deleteStale owner desired).LeavesAlone target answers :=
  (Attempt.LeavesAlone.routesOf owner).bind fun _ =>
    .forM fun place _ => .delete place.1 place.2

theorem applyRoutes_leavesAlone (desired : List Route) :
    (desired.forM fun route => Attempt.change (applyRoute route)).LeavesAlone target answers :=
  .forM fun _ _ => .change fun _ => nofun

theorem bringUp_leavesAlone (desired : List Route) (conclusion : Conclusion) :
    (do desired.forM fun route => Attempt.change (applyRoute route)
        deleteStale owner desired
        return conclusion : Attempt Conclusion).LeavesAlone target answers :=
  (applyRoutes_leavesAlone desired).bind fun _ =>
    (deleteStale_leavesAlone desired).bind fun _ => .pure _

variable {ingress : Ingress} {inNamespace : String} {s : Contended}

theorem setFinalizers_overwrites (kept : s.All ingress.Overwritten) {finalizers : List String}
    (written : finalizers = ingress.otherFinalizers ++ ingress.ownFinalizers) :
    (Attempt.change (ingress.setFinalizers inNamespace finalizers)).Ensures
      (surroundings (.ingress inNamespace ingress.metadata.nameAny) answers)
      (All ingress.Overwritten) True (fun _ s' => s'.All ingress.Overwritten ∧ s'.landings ≠ [])
      s := by
  subst written
  exact .landing kept ingress.overwritten_finalizerPatch

theorem secure_overwrites (live : ingress.isDeleted = false) (kept : s.All ingress.Overwritten)
    (fresh : s.landings = []) :
    (ingress.secure ⟨ingress.metadata.nameAny, inNamespace⟩).Ensures
      (surroundings (.ingress inNamespace ingress.metadata.nameAny) answers)
      (All ingress.Overwritten) True
      (fun _ s' => s'.All ingress.Overwritten ∧ (s'.landings = [] ↔ ingress.hasFinalizer = true))
      s := by
  unfold secure
  cases has : ingress.hasFinalizer with
  | true => exact .pure ⟨kept, iff_of_true fresh rfl⟩
  | false =>
    have written : ingress.metadata.finalizerList ++ [finalizer] =
        ingress.otherFinalizers ++ ingress.ownFinalizers := by
      rw [otherFinalizers_of_hasFinalizer_eq_false has, ownFinalizers, live]
      rfl
    refine (setFinalizers_overwrites kept written).mono ?_
    exact fun _ s' landed => ⟨landed.1, iff_of_false landed.2 nofun⟩

theorem serve_overwrites (live : ingress.isDeleted = false) (kept : s.All ingress.Overwritten)
    (fresh : s.landings = []) :
    (ingress.serve ⟨ingress.metadata.nameAny, inNamespace⟩).Ensures
      (surroundings (.ingress inNamespace ingress.metadata.nameAny) answers)
      (All ingress.Overwritten) True
      (fun _ s' => s'.landings = [] ↔ ingress.hasFinalizer = true) s := by
  cases made : ingress.routes with
  | error e =>
    rw [serve_of_error made]
    exact .throw _ trivial
  | ok desired =>
    rw [serve_of_routes made]
    refine .bind ((secure_overwrites live kept fresh).mono ?_)
    rintro _ s' ⟨kept', landed⟩
    refine (bringUp_leavesAlone desired _ _ s' kept').mono fun _ s'' same => ?_
    rw [same, landed]

theorem release_overwrites (deleted : ingress.isDeleted = true) (kept : s.All ingress.Overwritten)
    (fresh : s.landings = []) :
    (ingress.release ⟨ingress.metadata.nameAny, inNamespace⟩).Ensures
      (surroundings (.ingress inNamespace ingress.metadata.nameAny) answers)
      (All ingress.Overwritten) True
      (fun _ s' => s'.landings = [] ↔ ingress.hasFinalizer = false) s := by
  cases has : ingress.hasFinalizer with
  | false =>
    rw [release_of_no_finalizer has]
    exact .pure (iff_of_true fresh rfl)
  | true =>
    have written : ingress.metadata.finalizerList.filter (· ≠ finalizer) =
        ingress.otherFinalizers ++ ingress.ownFinalizers := by
      rw [ownFinalizers, deleted]
      exact (List.append_nil _).symm
    rw [release_of_finalizer has]
    refine .bind ((deleteStale_leavesAlone [] _ s kept).mono fun _ s' same => ?_)
    refine .bind ((setFinalizers_overwrites (kept.of_landings same) written).mono ?_)
    exact fun _ s'' landed => .pure (iff_of_false landed.2 nofun)

end

/-- However others change an ingress while a pass runs, each patch of its finalizers replaces
    theirs by those that the pass has read. They are the current ones exactly if nobody has changed
    them. A pass that comes to its end has patched them exactly if its own was missing or, where the
    ingress is being deleted, still there. -/
theorem pass_overwrites_finalizers {ingress : Ingress} {inNamespace : String}
    (spaced : ingress.metadata.inNamespace = some inNamespace) (document : Json)
    (answers : FactAnswers) :
    ingress.pass.Ensures (surroundings (.ingress inNamespace ingress.metadata.nameAny) answers)
      (All ingress.Overwritten) True
      (fun _ s => s.landings = [] ↔ ingress.hasFinalizer = !ingress.isDeleted)
      ⟨document, []⟩ := by
  have kept : All ingress.Overwritten ⟨document, []⟩ := fun landing member => nomatch member
  cases deleted : ingress.isDeleted with
  | true =>
    rw [pass_of_deleted spaced deleted]
    exact release_overwrites deleted kept rfl
  | false =>
    have live : ingress.metadata.deletionTimestamp = none :=
      Option.not_isSome_iff_eq_none.mp (Bool.eq_false_iff.mp deleted)
    rw [pass_of_live spaced live]
    exact serve_overwrites deleted kept rfl

def heldByOther : Ingress := oneHost.withFinalizers ["example.org/hold"]

def letGo : Ingress := oneHost.withFinalizers []

def nothingFound : FactAnswers := ⟨.error .notFound, .error .notFound, .error .notFound⟩

theorem pass_overwrites_finalizers_heldByOther :
    heldByOther.metadata.inNamespace = some "apps" ∧
      heldByOther.pass.Ensures (surroundings (.ingress "apps" "web") nothingFound)
        (All heldByOther.Overwritten) True
        (fun _ s => s.landings = [] ↔ heldByOther.hasFinalizer = !heldByOther.isDeleted)
        ⟨Ingress.format.encode letGo, []⟩ := by
  have spaced : heldByOther.metadata.inNamespace = some "apps" := rfl
  exact ⟨spaced, pass_overwrites_finalizers spaced _ _⟩

/-- The other controller lets go before the patch lands, and finds its finalizer in the list
    again. -/
theorem pass_resurrects_finalizer :
    ¬heldByOther.pass.Ensures (surroundings (.ingress "apps" "web") nothingFound)
      (All fun found left => ∀ members current, found = .obj members →
        Ingress.format.decode found = some current → heldByOther.KeepsOthers current left)
      True (fun _ _ => True) ⟨Ingress.format.encode heldByOther, []⟩ := by
  intro h
  have spaced : heldByOther.metadata.inNamespace = some "apps" := rfl
  have made : heldByOther.routes = .ok [oneHostRoute] := routes_oneHost
  have missing : heldByOther.hasFinalizer = false := by decide
  rw [pass_of_live spaced rfl, serve_of_routes made, secure, missing] at h
  let moved : Contended := ⟨Ingress.format.encode letGo, []⟩
  obtain ⟨landed, -⟩ := h moved rfl (.ok ()) _ (.landed _)
  have found : Ingress.format.decode moved.stored = some letGo :=
    Format.decode_encode Ingress.format (by decide) letGo
  have kept := landed _ List.mem_cons_self _ letGo rfl found
  have overwritten := heldByOther.overwritten_finalizerPatch moved.stored _ letGo rfl found
  have same : heldByOther.otherFinalizers = letGo.otherFinalizers := overwritten.2.mp kept
  exact absurd same (by decide)

end ServingOperator.Ingress
