import ServingOperator.Proofs.Serving.PartialPass

namespace ServingOperator

namespace KnativeServing

theorem decode_statusPatch (document : Json) (status : ServingStatus) :
    ∃ stored, ((statusPatch status).mergeInto document).get? "status" = some stored ∧
      ServingStatus.format.decode stored = some status := by
  obtain ⟨changes, patch, merged⟩ :=
    decode_statusChanges status ((document.get? "status").getD .null).members
  have written : Json.obj changes ≠ .null := nofun
  refine ⟨_, ?_, merged⟩
  rw [patch, Json.get?_mergeInto_singleton written, if_pos rfl, Json.mergeInto]

theorem IsStoredIn.unique {a b : KnativeServing} {document : Json} (left : a.IsStoredIn document)
    (right : b.IsStoredIn document) : a = b :=
  Option.some.inj (left.read.symm.trans right.read)

def LivesAt (serving : KnativeServing) (inNamespace name : String) : Prop :=
  serving.metadata.inNamespace = some inNamespace ∧ serving.metadata.nameAny = name

section

variable {σ : Type} {server : ApiServer σ} {documents : σ → Documents} {inNamespace name : String}

/-- Whether the status that a pass computed is stored: its patch was granted, or it was stored
    before. -/
def StoresStatus (server : ApiServer σ) (inNamespace name : String) (serving : KnativeServing)
    (facts : Facts) (config : OperatorConfig) (now : Instant) (s : σ) : Prop :=
  let status := (serving.resolve facts config now).status
  serving.status = some status ∨
    .change (.merge (.servingStatus inNamespace name) (statusPatch status)) (.ok ()) ∈
      (serving.pass config now).run.trace server s

/-- The states that passes lead to, with the statuses that may be stored there. A pass that stores
    its status leaves no other, one that breaks off may have stored it or not, and one without the
    facts computes none. In between, others may change all of an installation but its place and its
    status. -/
inductive PassRun (server : ApiServer σ) (documents : σ → Documents) (inNamespace name : String)
    (start : σ) (first : Option ServingStatus) : σ → List (Option ServingStatus) → Prop where
  | start : PassRun server documents inNamespace name start first start [first]
  | stores {s : σ} {possible : List (Option ServingStatus)} {serving : KnativeServing}
      {facts : Facts} {config : OperatorConfig} {now : Instant}
      (before : PassRun server documents inNamespace name start first s possible)
      (stored : serving.IsStoredIn (documents s).own)
      (known : (server.facts s).gather = .ok facts)
      (stores : StoresStatus server inNamespace name serving facts config now s) :
      PassRun server documents inNamespace name start first
        ((serving.pass config now).run.run server s).2
        [some (serving.resolve facts config now).status]
  | breaksOff {s : σ} {possible : List (Option ServingStatus)} {serving : KnativeServing}
      {facts : Facts} {config : OperatorConfig} {now : Instant}
      (before : PassRun server documents inNamespace name start first s possible)
      (stored : serving.IsStoredIn (documents s).own)
      (known : (server.facts s).gather = .ok facts) :
      PassRun server documents inNamespace name start first
        ((serving.pass config now).run.run server s).2
        (some (serving.resolve facts config now).status :: possible)
  | uninformed {s : σ} {possible : List (Option ServingStatus)} {serving : KnativeServing}
      {failure : ApiFailure} {config : OperatorConfig} {now : Instant}
      (before : PassRun server documents inNamespace name start first s possible)
      (stored : serving.IsStoredIn (documents s).own)
      (unknown : (server.facts s).gather = .error failure) :
      PassRun server documents inNamespace name start first
        ((serving.pass config now).run.run server s).2 possible
  | others {s s' : σ} {possible : List (Option ServingStatus)}
      (before : PassRun server documents inNamespace name start first s possible)
      (keep : ∀ serving : KnativeServing, serving.IsStoredIn (documents s).own →
        ∃ edited : KnativeServing, edited.IsStoredIn (documents s').own ∧
          edited.metadata.inNamespace = serving.metadata.inNamespace ∧
          edited.metadata.nameAny = serving.metadata.nameAny ∧ edited.status = serving.status) :
      PassRun server documents inNamespace name start first s' possible

theorem stored_of_pass (whole : server.AppliesWhole documents (Documents.apply inNamespace name))
    {serving : KnativeServing} {s : σ} (stored : serving.IsStoredIn (documents s).own)
    (lives : serving.LivesAt inNamespace name) {facts : Facts}
    (known : (server.facts s).gather = .ok facts) (config : OperatorConfig) (now : Instant) :
    let status := (serving.resolve facts config now).status
    ∃ left : KnativeServing,
      left.IsStoredIn (documents ((serving.pass config now).run.run server s).2).own ∧
      left.LivesAt inNamespace name ∧
      (left.status = some status ∨ left.status = serving.status) ∧
      (StoresStatus server inNamespace name serving facts config now s →
        left.status = some status) := by
  intro status
  obtain ⟨place, rfl⟩ := lives
  obtain ⟨done, left, leaves, applied, -⟩ := left_of_pass whole place known config now
  refine ⟨left, leaves.isStoredIn facts config now stored, ?_, ?_, ?_⟩
  · unfold LivesAt
    rw [leaves.metadata]
    exact ⟨place, rfl⟩
  · exact leaves.status_or.imp_right And.left
  · rcases leaves.status_or with own | ⟨old, unsent⟩
    · exact fun _ => own
    · rintro (same | granted)
      · exact old.trans same
      · exact absurd (applied _ granted) unsent

theorem PassRun.stored {start s : σ} {first : KnativeServing}
    {possible : List (Option ServingStatus)}
    (run : PassRun server documents inNamespace name start first.status s possible)
    (whole : server.AppliesWhole documents (Documents.apply inNamespace name))
    (stored : first.IsStoredIn (documents start).own) (lives : first.LivesAt inNamespace name) :
    ∃ serving : KnativeServing, serving.IsStoredIn (documents s).own ∧
      serving.LivesAt inNamespace name ∧ serving.status ∈ possible := by
  induction run with
  | start => exact ⟨first, stored, lives, List.mem_cons_self⟩
  | @stores s possible serving facts config now before stored' known stores ih =>
    obtain ⟨found, read, lives, -⟩ := ih
    obtain rfl := read.unique stored'
    obtain ⟨left, kept, lives, -, status⟩ := stored_of_pass whole read lives known config now
    exact ⟨left, kept, lives, List.mem_singleton.mpr (status stores)⟩
  | @breaksOff s possible serving facts config now before stored' known ih =>
    obtain ⟨found, read, lives, old⟩ := ih
    obtain rfl := read.unique stored'
    obtain ⟨left, kept, lives, status, -⟩ := stored_of_pass whole read lives known config now
    refine ⟨left, kept, lives, List.mem_cons.mpr (status.imp_right fun same => ?_)⟩
    rw [same]
    exact old
  | @uninformed s possible serving failure config now before stored' unknown ih =>
    obtain ⟨found, read, lives, status⟩ := ih
    obtain rfl := read.unique stored'
    rw [pass_of_namespace lives.1, Attempt.run_facts_of_error unknown]
    exact ⟨found, read, lives, status⟩
  | others before keep ih =>
    obtain ⟨serving, stored, lives, status⟩ := ih
    obtain ⟨edited, stored, inNamespace, name, same⟩ := keep serving stored
    exact ⟨edited, stored, ⟨inNamespace.trans lives.1, name.trans lives.2⟩, same ▸ status⟩

theorem mem_requests_of_ne {serving : KnativeServing} {r : Resolution} (inNamespace : String)
    (other : serving.status ≠ some r.status) :
    .merge (.servingStatus inNamespace serving.metadata.nameAny) (statusPatch r.status) ∈
      serving.requests inNamespace r :=
  mem_requests.mpr (.inr (.inl (mem_statusWrites.mpr ⟨other, rfl⟩)))

theorem no_statusPatch {serving : KnativeServing} {s : σ} {facts : Facts}
    (lives : serving.LivesAt inNamespace name) (known : (server.facts s).gather = .ok facts)
    (config : OperatorConfig) (now : Instant)
    (same : serving.status = some (serving.resolve facts config now).status) (patch : Json)
    (answer : Except ApiFailure Unit) :
    .change (.merge (.servingStatus inNamespace name) patch) answer ∉
      (serving.pass config now).run.trace server s := by
  intro member
  rw [(pass_sends lives.1 known config now).1] at member
  obtain ⟨c, requested, answer', sent⟩ :=
    ApiServer.mem_send ((List.mem_cons.mp member).resolve_left nofun)
  obtain ⟨rfl, -⟩ := Exchange.change.inj sent
  rcases mem_requests.mp requested with spec | status | label
  · cases (mem_specWrites.mp spec).2
  · exact (mem_statusWrites.mp status).1 same
  · cases (mem_labelWrites.mp label).2

end

/-- A status that is patched in replaces the old one, whatever document held it. Over a run of
    passes one status is stored as a whole, that of the last pass that stored one, and a pass that
    computes it again sends no patch of it. -/
theorem status_replaced :
    (∀ (document : Json) (status : ServingStatus),
      ∃ stored, ((statusPatch status).mergeInto document).get? "status" = some stored ∧
        ServingStatus.format.decode stored = some status) ∧
    ∀ {σ : Type} {server : ApiServer σ} {documents : σ → Documents} {inNamespace name : String}
      {start s : σ} {first : KnativeServing} {possible : List (Option ServingStatus)},
      server.AppliesWhole documents (Documents.apply inNamespace name) →
      first.IsStoredIn (documents start).own → first.LivesAt inNamespace name →
      PassRun server documents inNamespace name start first.status s possible →
      ∃ serving : KnativeServing, serving.IsStoredIn (documents s).own ∧
        serving.status ∈ possible ∧
        ∀ status, possible = [some status] → ∀ (facts : Facts) (config : OperatorConfig)
          (now : Instant), (server.facts s).gather = .ok facts →
          (serving.resolve facts config now).status = status →
          ∀ patch answer, .change (.merge (.servingStatus inNamespace name) patch) answer ∉
            (serving.pass config now).run.trace server s := by
  refine ⟨decode_statusPatch, ?_⟩
  intro σ server documents inNamespace name start s first possible whole stored lives run
  obtain ⟨serving, read, lives, status⟩ := run.stored whole stored lives
  refine ⟨serving, read, status, ?_⟩
  rintro written rfl facts config now known again patch answer
  have same : serving.status = some (serving.resolve facts config now).status :=
    (List.mem_singleton.mp status).trans (congrArg some again.symm)
  exact no_statusPatch lives known config now same patch answer

def observed : KnativeServing where
  metadata :=
    { name := some "knative-serving", inNamespace := some "knative-serving", generation := some 2 }
  spec := plain.spec
  status := some { observedGeneration := some 1 }

def observedDocument : Json :=
  .obj [
    ("metadata", .obj [
      ("name", .str "knative-serving"),
      ("namespace", .str "knative-serving"),
      ("generation", .int 2)]),
    ("spec", .obj [("registry", .obj [("default", .str "example.org/image")])]),
    ("status", .obj [("observedGeneration", .int 1), ("extra", .str "kept")])]

theorem observed_isStoredIn : observed.IsStoredIn observedDocument := ⟨⟨_, rfl⟩, rfl⟩

theorem status_replaced_observed :
    let now : Instant := ⟨0, 0⟩
    let start : Documents := ⟨observedDocument, .obj []⟩
    let after := ((observed.pass {} now).run.run refusingServer (start, none)).2.1
    ∃ serving : KnativeServing, serving.IsStoredIn after.own ∧
      serving.status = some (observed.resolve plainFacts {} now).status ∧
      serving.status ≠ observed.status := by
  intro now start after
  let status := (observed.resolve plainFacts {} now).status
  have other : observed.status ≠ some status := by
    intro same
    have generation := congrArg (Option.map ServingStatus.observedGeneration) same
    revert generation
    decide
  have sent : StoresStatus refusingServer "knative-serving" "knative-serving" observed plainFacts {}
      now (start, none) := by
    refine .inr ?_
    rw [(pass_sends rfl gather_plainAnswers {} now).1, ApiServer.refusing.send_granted]
    have asked := mem_requests_of_ne "knative-serving" other
    exact List.mem_cons_of_mem _ (List.mem_map.mpr ⟨_, asked, rfl⟩)
  obtain ⟨serving, stored, possible, -⟩ := status_replaced.2
    (ApiServer.refusing.appliesWhole plainAnswers "knative-serving" "knative-serving")
    observed_isStoredIn ⟨rfl, rfl⟩ (.stores .start observed_isStoredIn gather_plainAnswers sent)
  have replaced := List.mem_singleton.mp possible
  exact ⟨serving, stored, replaced, replaced ▸ other.symm⟩

end KnativeServing

end ServingOperator
