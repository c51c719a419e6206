import ServingOperator.Proofs.Serving.PartialPass
import ServingOperator.Proofs.Wire.AdditivePatches

namespace ServingOperator

def Json.SameMembers (a b : Json) : Prop := ∀ key, a.get? key = b.get? key

namespace KnativeServing

theorem get?_specPatch (spec : ServingSpec) (document : Json) (key : String) :
    ((specPatch spec).mergeInto document).get? key =
      if "spec" = key then
        some ((ServingSpec.format.encode spec).mergeInto ((document.get? "spec").getD .null))
      else document.get? key :=
  Json.get?_mergeInto_singleton (ServingSpec.format.encode_ne_null spec) "spec" key document

theorem get?_statusPatch (status : ServingStatus) : ∃ changes : Json, ∀ document key,
    ((statusPatch status).mergeInto document).get? key =
      if "status" = key then
        some (changes.mergeInto ((document.get? "status").getD .null))
      else document.get? key := by
  obtain ⟨changes, patch, -⟩ := decode_statusChanges status []
  have written : Json.obj changes ≠ .null := nofun
  refine ⟨.obj changes, fun document key => ?_⟩
  rw [patch, Json.get?_mergeInto_singleton written]

theorem get?_spec_statusInto (serving : KnativeServing) (r : Resolution) (document : Json) :
    (serving.statusInto r document).get? "spec" = document.get? "spec" := by
  obtain ⟨changes, merged⟩ := get?_statusPatch r.status
  unfold statusInto
  split
  · rfl
  · rw [merged, if_neg (by decide)]

theorem sameMembers_statusInto (serving : KnativeServing) (r : Resolution) {a b : Json}
    (same : a.SameMembers b) :
    (serving.statusInto r a).SameMembers (serving.statusInto r b) := by
  obtain ⟨changes, merged⟩ := get?_statusPatch r.status
  intro key
  unfold statusInto
  split
  · exact same key
  · rw [merged, merged, same "status", same key]

theorem labelInto_congr {r r' : Resolution} (blocked : r'.isBlocked = r.isBlocked)
    (label : r'.monitoring.label = r.monitoring.label) : labelInto r' = labelInto r := by
  unfold labelInto labelPatch
  rw [blocked, label]

theorem labelInto_labelInto (r : Resolution) (ofNamespace : Json) :
    labelInto r (labelInto r ofNamespace) = labelInto r ofNamespace := by
  have additive : (labelPatch r.monitoring).Additive :=
    .singleton nofun (.singleton nofun (.singleton nofun (.leaf nofun)))
  unfold labelInto
  split
  · rfl
  · exact Json.mergeInto_mergeInto additive ofNamespace

section

variable {serving : KnativeServing} {start : Json} (facts : Facts) (config : OperatorConfig)
  (now : Instant)

theorem specInto_absorbed (stored : serving.IsStoredIn start) {left : KnativeServing}
    {document : Json} {r' : Resolution} (again : r'.spec = (serving.resolve facts config now).spec)
    (spec : left.spec = storedSpec start (serving.resolve facts config now).spec)
    (written : document.get? "spec" =
      (serving.specInto (serving.resolve facts config now) start).get? "spec") :
    (left.specInto r' document).SameMembers document := by
  intro key
  rw [specInto, again, spec]
  split
  · rfl
  · rename_i unstored
    -- What is sent again was sent before, since a spec that is stored as a whole is not sent.
    have sent : (serving.resolve facts config now).spec ≠ serving.spec := by
      intro same
      rw [same, stored.storedSpec_self] at unstored
      exact unstored rfl
    rw [specInto, if_neg sent, get?_specPatch, if_pos rfl] at written
    rw [get?_specPatch]
    split
    · subst key
      rw [written, Option.getD_some, Json.mergeInto_mergeInto]
      exact ServingSpec.format.additive_encode (by decide) _
    · rfl

/-- What a pass left and a second one completes is what a single one makes of the documents. -/
theorem LeftBy.retried {inNamespace : String} {begin documents : Documents} {done : List Change}
    {left : KnativeServing} (stored : serving.IsStoredIn begin.own)
    (h : serving.LeftBy inNamespace (serving.resolve facts config now) begin done documents left) :
    let r := serving.resolve facts config now
    let r' := left.resolve facts config now
    (left.statusInto r' (left.specInto r' documents.own)).SameMembers
        (serving.statusInto r (serving.specInto r begin.own)) ∧
      labelInto r' documents.ofNamespace = labelInto r begin.ofNamespace := by
  intro r r'
  obtain ⟨spec, status, label⟩ := h.resolve facts config now stored
  have blocked : r'.isBlocked = r.isBlocked := by
    unfold Resolution.isBlocked
    rw [status]
  have labels : labelInto r' = labelInto r := labelInto_congr blocked label
  have settled : ∀ document, (writtenBack begin.own serving r).statusInto r' document = document :=
    fun document => if_pos (congrArg some status.symm)
  rw [labels]
  cases h with
  | nothing => exact ⟨fun _ => rfl, rfl⟩
  | spec =>
    refine ⟨?_, rfl⟩
    have sameStatus : statusInto { serving with spec := storedSpec begin.own r.spec } r' =
        serving.statusInto r := by
      unfold statusInto
      rw [status]
    rw [sameStatus]
    apply sameMembers_statusInto
    exact specInto_absorbed facts config now stored spec rfl rfl
  | status =>
    refine ⟨?_, rfl⟩
    rw [settled]
    exact specInto_absorbed facts config now stored spec rfl (get?_spec_statusInto serving r _)
  | label =>
    dsimp only
    rw [labelInto_labelInto, settled]
    refine ⟨?_, rfl⟩
    exact specInto_absorbed facts config now stored spec rfl (get?_spec_statusInto serving r _)

end

structure Completes {σ : Type} (server : ApiServer σ) (serving : KnativeServing) (facts : Facts)
    (config : OperatorConfig) (now : Instant) (s : σ) : Prop where
  known : (server.facts s).gather = .ok facts
  unrefused : ∀ c failure,
    .change c (.error failure) ∉ (serving.pass config now).run.trace server s

/-- Nothing is sent after a change that is refused. One pass on the same facts over what is stored
    then leaves the same documents as a single one in which nothing was refused, provided that both
    are completed. -/
theorem retry_converges {σ : Type} {server : ApiServer σ} {documents : σ → Documents}
    {serving : KnativeServing} {inNamespace : String}
    (whole : server.AppliesWhole documents (Documents.apply inNamespace serving.metadata.nameAny))
    {s : σ} (stored : serving.IsStoredIn (documents s).own)
    (lives : serving.metadata.inNamespace = some inNamespace) {facts : Facts}
    (known : (server.facts s).gather = .ok facts) (config : OperatorConfig) (now : Instant)
    {c : Change} {failure : ApiFailure} {front back : List Exchange}
    (refused : (serving.pass config now).run.trace server s =
      front ++ .change c (.error failure) :: back) :
    let broken := ((serving.pass config now).run.run server s).2
    back = [] ∧
      ∃ left : KnativeServing, left.IsStoredIn (documents broken).own ∧
        left.metadata = serving.metadata ∧
        ∀ later single : σ, documents later = documents broken → documents single = documents s →
          Completes server left facts config now later →
          Completes server serving facts config now single →
          let retried := documents ((left.pass config now).run.run server later).2
          let direct := documents ((serving.pass config now).run.run server single).2
          retried.own.SameMembers direct.own ∧ retried.ofNamespace = direct.ofNamespace := by
  intro broken
  constructor
  · rw [(pass_sends lives known config now).1] at refused
    cases front with
    | nil => cases (List.cons.inj refused).1
    | cons first front => exact ApiServer.last_of_refused (List.cons.inj refused).2
  obtain ⟨done, left, leaves, -, -⟩ := left_of_pass whole lives known config now
  refine ⟨left, leaves.isStoredIn facts config now stored, leaves.metadata, ?_⟩
  intro later single same same' again alone
  have whole' : server.AppliesWhole documents
      (Documents.apply inNamespace left.metadata.nameAny) := by
    rw [leaves.metadata]
    exact whole
  have lives' : left.metadata.inNamespace = some inNamespace := by
    rw [leaves.metadata]
    exact lives
  obtain ⟨-, -, -, -, retried⟩ := left_of_pass whole' lives' again.known config now
  obtain ⟨-, -, -, -, direct⟩ := left_of_pass whole lives alone.known config now
  have converged := leaves.retried facts config now stored
  rw [retried again.unrefused, direct alone.unrefused, same, same']
  dsimp only at converged ⊢
  exact converged

theorem retry_converges_refusedStatus :
    let now : Instant := ⟨0, 0⟩
    let start : Documents := ⟨plainDocument, .obj []⟩
    let broken := ((plain.pass {} now).run.run refusingServer (start, some 1)).2.1
    ∃ left : KnativeServing, left.IsStoredIn broken.own ∧
      let retried := ((left.pass {} now).run.run refusingServer (broken, none)).2.1
      let direct := ((plain.pass {} now).run.run refusingServer (start, none)).2.1
      retried.own.SameMembers direct.own ∧ retried.ofNamespace = direct.ofNamespace := by
  intro now start broken
  let r := plain.resolve plainFacts {} now
  have unresolved : r.spec ≠ plain.spec := fun same =>
    nomatch congrArg ServingSpec.highAvailability same
  have spec : plain.specWrites "knative-serving" r =
      [.merge (.serving "knative-serving" "knative-serving") (specPatch r.spec)] :=
    if_neg unresolved
  have refused : (plain.pass {} now).run.trace refusingServer (start, some 1) =
      [.facts plainAnswers, .change (.merge (.serving "knative-serving" "knative-serving")
        (specPatch r.spec)) (.ok ())] ++
      .change (.merge (.servingStatus "knative-serving" "knative-serving") (statusPatch r.status))
        (.error (.status 500)) :: [] := by
    rw [(pass_sends rfl gather_plainAnswers {} now).1, requests, writes_eq, spec]
    rfl
  have whole := ApiServer.refusing.appliesWhole plainAnswers "knative-serving" "knative-serving"
  obtain ⟨-, left, stored, metadata, converges⟩ :=
    retry_converges whole plain_isStoredIn rfl gather_plainAnswers {} now refused
  have lives : left.metadata.inNamespace = some "knative-serving" := by rw [metadata]; rfl
  exact ⟨left, stored, converges (broken, none) (start, none) rfl rfl
    ⟨gather_plainAnswers, refusingServer_unrefused lives {} now broken⟩
    ⟨gather_plainAnswers, refusingServer_unrefused rfl {} now start⟩⟩

end KnativeServing

end ServingOperator
