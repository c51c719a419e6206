import ServingOperator.Proofs.Pass.Sending
import ServingOperator.Proofs.Serving.Quiescence

namespace ServingOperator

namespace KnativeServing

structure Documents where
  own : Json
  ofNamespace : Json

def Documents.apply (inNamespace name : String) (documents : Documents) : Change → Documents
  | .merge target patch =>
    if target = .serving inNamespace name ∨ target = .servingStatus inNamespace name then
      { documents with own := patch.mergeInto documents.own }
    else if target = .installNamespace inNamespace then
      { documents with ofNamespace := patch.mergeInto documents.ofNamespace }
    else documents
  | _ => documents

section

variable (serving : KnativeServing) (inNamespace : String) (r : Resolution)

def specWrites : List Change :=
  if r.spec = serving.spec then [] else
    [.merge (.serving inNamespace serving.metadata.nameAny) (specPatch r.spec)]

def statusWrites : List Change :=
  if serving.status = some r.status then [] else
    [.merge (.servingStatus inNamespace serving.metadata.nameAny) (statusPatch r.status)]

def labelWrites : List Change :=
  if r.isBlocked then [] else [.merge (.installNamespace inNamespace) (labelPatch r.monitoring)]

def requests : List Change := serving.writes inNamespace r ++ labelWrites inNamespace r

theorem writes_eq : serving.writes inNamespace r =
    serving.specWrites inNamespace r ++ serving.statusWrites inNamespace r := rfl

variable {serving inNamespace r} {c : Change}

theorem mem_specWrites : c ∈ serving.specWrites inNamespace r ↔ r.spec ≠ serving.spec ∧
    c = .merge (.serving inNamespace serving.metadata.nameAny) (specPatch r.spec) := by
  unfold specWrites
  by_cases same : r.spec = serving.spec <;> simp [same]

theorem mem_statusWrites : c ∈ serving.statusWrites inNamespace r ↔
    serving.status ≠ some r.status ∧
      c = .merge (.servingStatus inNamespace serving.metadata.nameAny) (statusPatch r.status) := by
  unfold statusWrites
  by_cases same : serving.status = some r.status <;> simp [same]

theorem mem_labelWrites : c ∈ labelWrites inNamespace r ↔ r.isBlocked = false ∧
    c = .merge (.installNamespace inNamespace) (labelPatch r.monitoring) := by
  unfold labelWrites
  cases r.isBlocked <;> simp

theorem mem_requests : c ∈ serving.requests inNamespace r ↔
    c ∈ serving.specWrites inNamespace r ∨ c ∈ serving.statusWrites inNamespace r ∨
      c ∈ labelWrites inNamespace r := by
  rw [requests, writes_eq, List.mem_append, List.mem_append, or_assoc]

variable (serving inNamespace r)

theorem carryOut_eq : serving.carryOut inNamespace r =
    (serving.requests inNamespace r).forM Attempt.change >>= fun _ =>
      pure ⟨nextLook r, [.succeeded Metrics.servingController]⟩ := by
  rw [carryOut, requests, labelWrites, List.forM_eq_forM, List.forM_append, bind_assoc]
  cases r.isBlocked with
  | true => rfl
  | false => simp

end

theorem pass_sends {σ : Type} {server : ApiServer σ} {serving : KnativeServing}
    {inNamespace : String} (lives : serving.metadata.inNamespace = some inNamespace) {s : σ}
    {facts : Facts} (known : (server.facts s).gather = .ok facts) (config : OperatorConfig)
    (now : Instant) :
    let sent := server.send (serving.requests inNamespace (serving.resolve facts config now)) s
    (serving.pass config now).run.trace server s = .facts (server.facts s) :: sent.1 ∧
      ((serving.pass config now).run.run server s).2 = sent.2 := by
  obtain ⟨trace, left⟩ := Attempt.run_forM server
    (serving.requests inNamespace (serving.resolve facts config now))
    (⟨nextLook (serving.resolve facts config now), [.succeeded Metrics.servingController]⟩ :
      Conclusion) s
  rw [pass_of_namespace lives, Attempt.trace_facts known, Attempt.run_facts known, carryOut_eq]
  exact ⟨congrArg _ trace, left⟩

section

variable (serving : KnativeServing) (r : Resolution)

def specInto (document : Json) : Json :=
  if r.spec = serving.spec then document else (specPatch r.spec).mergeInto document

def statusInto (document : Json) : Json :=
  if serving.status = some r.status then document else (statusPatch r.status).mergeInto document

def labelInto (ofNamespace : Json) : Json :=
  if r.isBlocked then ofNamespace else (labelPatch r.monitoring).mergeInto ofNamespace

variable (inNamespace : String) (documents : Documents)

theorem foldl_specWrites :
    (serving.specWrites inNamespace r).foldl (Documents.apply inNamespace serving.metadata.nameAny)
        documents = { documents with own := serving.specInto r documents.own } := by
  unfold specWrites specInto
  split
  · rfl
  · exact if_pos (.inl rfl)

theorem foldl_statusWrites :
    (serving.statusWrites inNamespace r).foldl
        (Documents.apply inNamespace serving.metadata.nameAny) documents =
      { documents with own := serving.statusInto r documents.own } := by
  unfold statusWrites statusInto
  split
  · rfl
  · exact if_pos (.inr rfl)

theorem foldl_labelWrites (name : String) :
    (labelWrites inNamespace r).foldl (Documents.apply inNamespace name) documents =
      { documents with ofNamespace := labelInto r documents.ofNamespace } := by
  unfold labelWrites labelInto
  split
  · rfl
  · have elsewhere : ¬(Target.installNamespace inNamespace = .serving inNamespace name ∨
        Target.installNamespace inNamespace = .servingStatus inNamespace name) := by simp
    rw [List.foldl_cons, List.foldl_nil, Documents.apply, if_neg elsewhere, if_pos rfl]

end

/-- What is left of a pass of which some changes are applied, and the installation that is read
    then. -/
inductive LeftBy (serving : KnativeServing) (inNamespace : String) (r : Resolution)
    (start : Documents) : List Change → Documents → KnativeServing → Prop where
  | nothing : serving.LeftBy inNamespace r start [] start serving
  | spec : serving.LeftBy inNamespace r start (serving.specWrites inNamespace r)
      { start with own := serving.specInto r start.own }
      { serving with spec := storedSpec start.own r.spec }
  | status : serving.LeftBy inNamespace r start (serving.writes inNamespace r)
      { start with own := serving.statusInto r (serving.specInto r start.own) }
      (writtenBack start.own serving r)
  | label : serving.LeftBy inNamespace r start (serving.requests inNamespace r)
      ⟨serving.statusInto r (serving.specInto r start.own), labelInto r start.ofNamespace⟩
      (writtenBack start.own serving r)

theorem prefix_append_short {α : Type} {front cs ds : List α} (h : front <+: cs ++ ds)
    (short : ds.length ≤ 1) : front = cs ++ ds ∨ front <+: cs := by
  match ds, short with
  | [], _ => exact .inr (List.append_nil cs ▸ h)
  | [d], _ => exact List.prefix_concat_iff.mp h

theorem leftBy_of_prefix (serving : KnativeServing) (inNamespace : String) (r : Resolution)
    (start : Documents) {done : List Change} (h : done <+: serving.requests inNamespace r) :
    ∃ left, serving.LeftBy inNamespace r start done
      (done.foldl (Documents.apply inNamespace serving.metadata.nameAny) start) left := by
  have spec : (serving.specWrites inNamespace r).length ≤ 1 := by
    unfold specWrites
    split <;> simp
  have status : (serving.statusWrites inNamespace r).length ≤ 1 := by
    unfold statusWrites
    split <;> simp
  have label : (labelWrites inNamespace r).length ≤ 1 := by
    unfold labelWrites
    split <;> simp
  have written : (serving.writes inNamespace r).foldl
      (Documents.apply inNamespace serving.metadata.nameAny) start =
        { start with own := serving.statusInto r (serving.specInto r start.own) } := by
    rw [writes_eq, List.foldl_append, foldl_specWrites, foldl_statusWrites]
  -- Of each kind there is one change at most, so that the list comes apart from its end.
  rcases prefix_append_short h label with rfl | h
  · refine ⟨writtenBack start.own serving r, ?_⟩
    rw [List.foldl_append, written, foldl_labelWrites]
    exact .label
  rw [writes_eq] at h
  rcases prefix_append_short h status with rfl | h
  · refine ⟨writtenBack start.own serving r, ?_⟩
    rw [← writes_eq, written]
    exact .status
  rw [← List.nil_append (serving.specWrites inNamespace r)] at h
  rcases prefix_append_short h spec with rfl | h
  · refine ⟨{ serving with spec := storedSpec start.own r.spec }, ?_⟩
    rw [List.nil_append, foldl_specWrites]
    exact .spec
  · rw [List.prefix_nil.mp h]
    exact ⟨serving, .nothing⟩

section

variable {serving left : KnativeServing} {inNamespace : String} {start documents : Documents}
  {done : List Change} (facts : Facts) (config : OperatorConfig) (now : Instant)

theorem IsStoredIn.specInto (stored : serving.IsStoredIn start.own) :
    let r := serving.resolve facts config now
    IsStoredIn { serving with spec := storedSpec start.own r.spec }
      (serving.specInto r start.own) := by
  intro r
  rw [KnativeServing.specInto]
  split
  · rename_i same
    rw [same, stored.storedSpec_self]
    exact stored
  · exact stored.specPatch config.images facts.domain facts.loggingHost config.monitoring

theorem IsStoredIn.statusInto {document : Json} (stored : serving.IsStoredIn document)
    (r : Resolution) :
    IsStoredIn { serving with status := some r.status } (serving.statusInto r document) := by
  rw [KnativeServing.statusInto]
  split
  · rename_i same
    rw [← same]
    exact stored
  · exact stored.statusPatch r.status

namespace LeftBy

theorem isStoredIn (stored : serving.IsStoredIn start.own)
    (h : serving.LeftBy inNamespace (serving.resolve facts config now) start done documents left) :
    left.IsStoredIn documents.own := by
  have spec := stored.specInto facts config now
  cases h with
  | nothing => exact stored
  | spec => exact spec
  | status => exact spec.statusInto _
  | label => exact spec.statusInto _

theorem metadata {r : Resolution} (h : serving.LeftBy inNamespace r start done documents left) :
    left.metadata = serving.metadata := by
  cases h <;> rfl

theorem resolve (stored : serving.IsStoredIn start.own)
    (h : serving.LeftBy inNamespace (serving.resolve facts config now) start done documents left) :
    let r := serving.resolve facts config now
    let again := left.resolve facts config now
    again.spec = r.spec ∧ again.status = r.status ∧
      again.monitoring.label = r.monitoring.label := by
  have written := resolve_writtenBack facts config now now stored
  cases h with
  | nothing => exact ⟨rfl, rfl, rfl⟩
  | spec => exact ⟨written.1, rfl, written.2.2⟩
  | status => exact written
  | label => exact written

theorem status_or {r : Resolution}
    (h : serving.LeftBy inNamespace r start done documents left) :
    left.status = some r.status ∨
      left.status = serving.status ∧
        .merge (.servingStatus inNamespace serving.metadata.nameAny)
          (statusPatch r.status) ∉ done := by
  cases h with
  | nothing => exact .inr ⟨rfl, List.not_mem_nil⟩
  | spec =>
    refine .inr ⟨rfl, ?_⟩
    unfold specWrites
    split <;> simp
  | status => exact .inl rfl
  | label => exact .inl rfl

end LeftBy

end

section

variable {σ : Type} {server : ApiServer σ} {documents : σ → Documents} {serving : KnativeServing}
  {inNamespace : String} {s : σ} {facts : Facts}

/-- A pass that breaks off leaves the first of its changes, and one that does not leaves all. -/
theorem left_of_pass
    (whole : server.AppliesWhole documents (Documents.apply inNamespace serving.metadata.nameAny))
    (lives : serving.metadata.inNamespace = some inNamespace)
    (known : (server.facts s).gather = .ok facts) (config : OperatorConfig) (now : Instant) :
    let r := serving.resolve facts config now
    let pass := (serving.pass config now).run
    ∃ done left, serving.LeftBy inNamespace r (documents s) done
        (documents (pass.run server s).2) left ∧
      (∀ c, .change c (.ok ()) ∈ pass.trace server s → c ∈ done) ∧
      ((∀ c failure, .change c (.error failure) ∉ pass.trace server s) →
        documents (pass.run server s).2 =
          ⟨serving.statusInto r (serving.specInto r (documents s).own),
            labelInto r (documents s).ofNamespace⟩) := by
  intro r pass
  obtain ⟨trace, state⟩ := pass_sends lives known config now
  obtain ⟨done, first, kept, granted, complete⟩ :=
    whole.send (serving.requests inNamespace r) s
  obtain ⟨left, leaves⟩ := leftBy_of_prefix serving inNamespace r (documents s) first
  refine ⟨done, left, ?_, ?_, ?_⟩
  · rw [state, kept]
    exact leaves
  · intro c member
    rw [trace] at member
    exact granted c ((List.mem_cons.mp member).resolve_left nofun)
  · intro unrefused
    have all : done = serving.requests inNamespace r := by
      refine complete fun c failure member => unrefused c failure ?_
      rw [trace]
      exact List.mem_cons_of_mem _ member
    rw [state, kept, all, requests, writes_eq, List.foldl_append, List.foldl_append,
      foldl_specWrites, foldl_statusWrites, foldl_labelWrites]

end

end KnativeServing

def ApiServer.refusing (answers : FactAnswers) (inNamespace name : String) :
    ApiServer (KnativeServing.Documents × Option Nat) where
  facts _ := answers
  change c s :=
    match s.2 with
    | some 0 => (.error (.status 500), s.1, none)
    | some (n + 1) => (.ok (), s.1.apply inNamespace name c, some n)
    | none => (.ok (), s.1.apply inNamespace name c, none)
  routesOf _ s := (.ok [], s)

namespace ApiServer.refusing

variable (answers : FactAnswers) (inNamespace name : String)

theorem appliesWhole :
    (refusing answers inNamespace name).AppliesWhole Prod.fst
      (KnativeServing.Documents.apply inNamespace name) := by
  rintro c ⟨documents, refusal⟩ answer s' answered
  match refusal with
  | some 0 =>
    cases answered
    exact .inr ⟨nofun, rfl⟩
  | some (n + 1) =>
    cases answered
    exact .inl rfl
  | none =>
    cases answered
    exact .inl rfl

theorem send_granted (cs : List Change) (documents : KnativeServing.Documents) :
    ((refusing answers inNamespace name).send cs (documents, none)).1 =
      cs.map (.change · (.ok ())) := by
  induction cs generalizing documents with
  | nil => rfl
  | cons c cs ih => exact congrArg (Exchange.change c (.ok ()) :: ·) (ih _)

end ApiServer.refusing

namespace KnativeServing

abbrev refusingServer : ApiServer (Documents × Option Nat) :=
  .refusing plainAnswers "knative-serving" "knative-serving"

theorem refusingServer_unrefused {serving : KnativeServing}
    (lives : serving.metadata.inNamespace = some "knative-serving") (config : OperatorConfig)
    (now : Instant) (documents : Documents) :
    ∀ c failure, .change c (.error failure) ∉
      (serving.pass config now).run.trace refusingServer (documents, none) := by
  intro c failure member
  have known : (refusingServer.facts (documents, none)).gather = .ok plainFacts :=
    gather_plainAnswers
  rw [(pass_sends lives known config now).1, ApiServer.refusing.send_granted] at member
  obtain ⟨_, -, granted⟩ := List.mem_map.mp ((List.mem_cons.mp member).resolve_left nofun)
  cases granted

end KnativeServing

end ServingOperator
