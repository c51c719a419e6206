import ServingOperator.Pass.Ingress
import ServingOperator.Proofs.Wire.RoundTrip
import ServingOperator.Wire.IngressFormat

namespace ServingOperator

def Format.patched? {α : Type} (format : Format α) (patch : Json) (a : α) : Option α :=
  format.decode (patch.mergeInto (format.encode a))

def ObjectMeta.withFinalizers (m : ObjectMeta) (finalizers : List String) : ObjectMeta :=
  { m with finalizers := some finalizers }

theorem ObjectMeta.decode_finalizers {j : Json} {m : ObjectMeta}
    (read : ObjectMeta.format.decode j = some m) (finalizers : List String) :
    ObjectMeta.format.decode
        (.obj (Json.putMember "finalizers" (.arr (finalizers.map .str)) j.members)) =
      some (m.withFinalizers finalizers) := by
  cases j with
  | obj members =>
    obtain ⟨parts, record, rfl⟩ := Option.map_eq_some_iff.mp read
    have item : ∀ finalizer, Json.text? (.str finalizer) = some finalizer := fun _ => rfl
    have items : (finalizers.map Json.str).mapM Json.text? = some finalizers :=
      mapM_map_eq_some item finalizers
    have decoded : (Member.optional (.list .text)).decode (some (.arr (finalizers.map .str))) =
        some (some finalizers) := congrArg (Option.map some) items
    have put := Fields.At.decodeLast_put
      (.tail (by decide) <| .tail (by decide) <| .tail (by decide) <| .tail (by decide) <|
        .tail (by decide) <| .tail (by decide) <| .tail (by decide) <| .head (by decide))
      record decoded
    exact Option.map_eq_some_iff.mpr ⟨_, put, rfl⟩
  | _ => cases read

theorem Ingress.decode_finalizerPatch {members : List (String × Json)} {i : Ingress}
    (read : Ingress.format.decode (.obj members) = some i) (finalizers : List String) :
    Ingress.format.decode ((finalizerPatch finalizers).mergeInto (.obj members)) =
      some { i with metadata := i.metadata.withFinalizers finalizers } := by
  obtain ⟨parts, record, rfl⟩ := Option.map_eq_some_iff.mp read
  obtain ⟨j?, found, metadata⟩ := Fields.At.found (.head (by decide)) record
  obtain ⟨j, rfl, metadata⟩ := Option.bind_eq_some_iff.mp metadata
  have merged : Json.mergeInto (.obj [("finalizers", .arr (finalizers.map .str))]) j =
      .obj (Json.putMember "finalizers" (.arr (finalizers.map .str)) j.members) := by
    rw [Json.mergeInto_singleton, Json.mergeInto] <;> simp
  have named : Json.obj [("finalizers", .arr (finalizers.map .str))] ≠ .null := by simp
  rw [finalizerPatch, Json.mergeInto_singleton _ named, Json.get?_of_single? found,
    Option.getD_some, merged]
  have metadata : (Member.required ObjectMeta.format).decode (some (.obj (Json.putMember
      "finalizers" (.arr (finalizers.map .str)) j.members))) = some _ :=
    ObjectMeta.decode_finalizers metadata finalizers
  have put := Fields.At.decodeMembers_put (.head (by decide)) record metadata
  exact Option.map_eq_some_iff.mpr ⟨_, put, rfl⟩

theorem Ingress.patched?_finalizerPatch (i : Ingress) (finalizers : List String) :
    Ingress.format.patched? (finalizerPatch finalizers) i =
      some { i with metadata := i.metadata.withFinalizers finalizers } :=
  decode_finalizerPatch (Format.decode_encode Ingress.format (by decide) i) finalizers

namespace Ingress

theorem hasFinalizer_iff {i : Ingress} :
    i.hasFinalizer = true ↔ finalizer ∈ i.metadata.finalizerList := by
  rw [hasFinalizer, List.contains_iff_mem]

def secure (ingress : Ingress) (owner : Route.Owner) : Attempt Unit :=
  if ingress.hasFinalizer then pure ()
  else Attempt.change
    (ingress.setFinalizers owner.inNamespace (ingress.metadata.finalizerList ++ [finalizer]))

def unsecure (ingress : Ingress) (owner : Route.Owner) : Attempt Unit :=
  Attempt.change (ingress.setFinalizers owner.inNamespace
    (ingress.metadata.finalizerList.filter (· ≠ finalizer)))

def served (owner : Route.Owner) (desired : List Route) : Conclusion :=
  ⟨.requeue 300, [.routesCounted owner desired.length, .succeeded Metrics.ingressController]⟩

def released (owner : Route.Owner) : Conclusion := ⟨.awaitChange, [.routesForgotten owner]⟩

theorem release_of_finalizer {ingress : Ingress} (h : ingress.hasFinalizer = true)
    (owner : Route.Owner) :
    ingress.release owner = (do
      deleteStale owner []
      ingress.unsecure owner
      return released owner) := by
  unfold release
  rw [if_pos h]
  rfl

theorem release_of_no_finalizer {ingress : Ingress} (h : ingress.hasFinalizer = false)
    (owner : Route.Owner) : ingress.release owner = pure (released owner) := by
  unfold release
  rw [if_neg (by simp [h])]
  rfl

theorem serve_of_error {ingress : Ingress} {e : RouteError} (h : ingress.routes = .error e)
    (owner : Route.Owner) : ingress.serve owner = throw (.routes e) := by
  unfold serve
  rw [h]
  rfl

theorem serve_of_routes {ingress : Ingress} {desired : List Route}
    (h : ingress.routes = .ok desired) (owner : Route.Owner) :
    ingress.serve owner = (do
      ingress.secure owner
      desired.forM fun route => Attempt.change (applyRoute route)
      deleteStale owner desired
      return served owner desired) := by
  unfold serve secure
  rw [h]
  cases ingress.hasFinalizer <;> rfl

theorem pass_of_deleted {ingress : Ingress} {inNamespace : String}
    (spaced : ingress.metadata.inNamespace = some inNamespace)
    (deleted : ingress.metadata.deletionTimestamp.isSome = true) :
    ingress.pass = ingress.release ⟨ingress.metadata.nameAny, inNamespace⟩ := by
  unfold pass
  rw [spaced]
  exact if_pos deleted

theorem pass_of_live {ingress : Ingress} {inNamespace : String}
    (spaced : ingress.metadata.inNamespace = some inNamespace)
    (live : ingress.metadata.deletionTimestamp = none) :
    ingress.pass = ingress.serve ⟨ingress.metadata.nameAny, inNamespace⟩ := by
  unfold pass
  rw [spaced]
  exact if_neg (by simp [live])

end Ingress

end ServingOperator
