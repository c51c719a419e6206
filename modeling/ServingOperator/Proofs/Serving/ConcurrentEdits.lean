import ServingOperator.Proofs.Pass.Contention
import ServingOperator.Proofs.Serving.PartialPass
import ServingOperator.Proofs.Wire.Paths

namespace ServingOperator

inductive SpecEntry where
  | replicas
  | certsType
  | certsName
  | fallback
  | image (component : String)
  | cell (name key : String)

namespace SpecEntry

def inSpec : SpecEntry → List String
  | replicas => ["high-availability", "replicas"]
  | certsType => ["controller-custom-certs", "type"]
  | certsName => ["controller-custom-certs", "name"]
  | fallback => ["registry", "default"]
  | image component => ["registry", "override", component]
  | cell name key => ["config", name, key]

def path (entry : SpecEntry) : List String := "spec" :: entry.inSpec

def value? (spec : ServingSpec) : SpecEntry → Option Json
  | replicas => spec.highAvailability.map fun h => .int h.replicas.toInt
  | certsType => some (.str spec.customCerts.type)
  | certsName => some (.str spec.customCerts.name)
  | fallback => if spec.registry.fallback = "" then none else some (.str spec.registry.fallback)
  | image component => (spec.registry.overrides.get? component).map .str
  | cell name key => (spec.config.get? name key).map .str

theorem gives_replicas (h : HighAvailability) :
    (HighAvailability.format.encode h).Gives ["replicas"] (some (.int h.replicas.toInt)) :=
  Format.gives_record (.head (by decide)) (by decide) (.here nofun)

theorem gives_certsType (c : CustomCerts) :
    (CustomCerts.format.encode c).Gives ["type"] (some (.str c.type)) :=
  Format.gives_record (.head (by decide)) (by decide) (.here nofun)

theorem gives_certsName (c : CustomCerts) :
    (CustomCerts.format.encode c).Gives ["name"] (some (.str c.name)) :=
  Format.gives_record (.tail (by decide) (.head (by decide))) (by decide) (.here nofun)

theorem gives_textEntry (m : StringMap String) (key : String) :
    ((Format.dict .text).encode m).Gives [key] ((m.get? key).map .str) := by
  refine Format.gives_dict (fun absent => ?_) (fun text present => ?_)
  · rw [absent]
    rfl
  · rw [present]
    exact .here nofun

theorem gives_fallback (r : Registry) :
    (Registry.format.encode r).Gives ["default"]
      (if r.fallback = "" then none else some (.str r.fallback)) := by
  refine Format.gives_record (.head (by decide)) (by decide) ?_
  refine Member.gives_defaulted (fun empty => ?_) (fun given => ?_)
  · exact if_pos (of_decide_eq_true empty)
  · rw [if_neg (of_decide_eq_false given)]
    exact .here nofun

theorem gives_image (r : Registry) (component : String) :
    (Registry.format.encode r).Gives ["override", component]
      ((r.overrides.get? component).map .str) := by
  refine Format.gives_record (.tail (by decide) (.head (by decide))) (by decide) ?_
  refine Member.gives_defaulted (fun empty => ?_) (fun _ => gives_textEntry r.overrides component)
  exact congrArg (Option.map Json.str) (StringMap.get?_of_isEmpty empty component)

theorem gives_cell (c : ConfigSections) (name key : String) :
    (ConfigSections.format.encode c).Gives [name, key] ((c.get? name key).map .str) := by
  refine Format.gives_dict (fun absent => ?_) (fun entries present => ?_)
  · rw [ConfigSections.get?, ConfigSections.section?, absent]
    rfl
  · rw [ConfigSections.get?, ConfigSections.section?, present]
    exact gives_textEntry entries key

theorem gives_value? (spec : ServingSpec) (entry : SpecEntry) :
    (ServingSpec.format.encode spec).Gives entry.inSpec (entry.value? spec) := by
  cases entry with
  | replicas =>
    refine Format.gives_record (.head (by decide)) (by decide) (Member.gives_optional ?_ ?_)
    · exact fun unset => congrArg (Option.map _) unset
    · intro h set
      have set : spec.highAvailability = some h := set
      rw [value?, set]
      exact gives_replicas h
  | certsType =>
    refine Format.gives_record (.tail (by decide) (.head (by decide))) (by decide) ?_
    exact Member.gives_defaulted nofun fun _ => gives_certsType spec.customCerts
  | certsName =>
    refine Format.gives_record (.tail (by decide) (.head (by decide))) (by decide) ?_
    exact Member.gives_defaulted nofun fun _ => gives_certsName spec.customCerts
  | fallback =>
    refine Format.gives_record (.tail (by decide) (.tail (by decide) (.head (by decide))))
      (by decide) ?_
    exact Member.gives_defaulted nofun fun _ => gives_fallback spec.registry
  | image component =>
    refine Format.gives_record (.tail (by decide) (.tail (by decide) (.head (by decide))))
      (by decide) ?_
    exact Member.gives_defaulted nofun fun _ => gives_image spec.registry component
  | cell name key =>
    refine Format.gives_record (.tail (by decide) (.tail (by decide) (.tail (by decide)
      (.tail (by decide) (.head (by decide)))))) (by decide) ?_
    refine Member.gives_defaulted (fun empty => ?_) (fun _ => gives_cell spec.config name key)
    rw [value?, ConfigSections.get?, ConfigSections.section?, StringMap.get?_of_isEmpty empty]
    rfl

theorem specPatch_gives (spec : ServingSpec) (entry : SpecEntry) :
    (KnativeServing.specPatch spec).Gives entry.path (entry.value? spec) :=
  .under (Json.occurrences_cons_self "spec" _ []) (ServingSpec.format.encode_ne_null spec)
    (gives_value? spec entry)

end SpecEntry

namespace KnativeServing

open Contended

/-- Each value that is found where a spec may give one stays exactly if the spec gives no other. -/
def Rewritten (spec : ServingSpec) (found left : Json) : Prop :=
  ∀ (entry : SpecEntry) (v : Json), found.at? entry.path = some v →
    (left.at? entry.path = some v ↔ ∀ w, entry.value? spec = some w → w = v)

theorem rewritten_specPatch (spec : ServingSpec) (found : Json) :
    Rewritten spec found ((specPatch spec).mergeInto found) := by
  intro entry v present
  rw [Json.at?_mergeInto (SpecEntry.specPatch_gives spec entry), present]
  cases entry.value? spec with
  | none => simp
  | some w => simp

section

variable {serving : KnativeServing} {inNamespace : String} {answers : FactAnswers}

def laterWrites (serving : KnativeServing) (inNamespace : String) (r : Resolution) : List Change :=
  serving.statusWrites inNamespace r ++ labelWrites inNamespace r

theorem laterWrites_leaveAlone (serving : KnativeServing) (inNamespace : String)
    (answers : FactAnswers) (r : Resolution) :
    ((serving.laterWrites inNamespace r).forM Attempt.change).LeavesAlone
      (.serving inNamespace serving.metadata.nameAny) answers := by
  refine .forM fun c member => .change fun patch same => ?_
  subst same
  rcases List.mem_append.mp member with status | label
  · cases (mem_statusWrites.mp status).2
  · cases (mem_labelWrites.mp label).2

theorem carryOut_rewrites {r : Resolution} {s : Contended} (kept : s.All (Rewritten r.spec))
    (fresh : s.landings = []) :
    (serving.carryOut inNamespace r).Ensures
      (surroundings (.serving inNamespace serving.metadata.nameAny) answers)
      (All (Rewritten r.spec)) True (fun _ s' => s'.landings = [] ↔ r.spec = serving.spec) s := by
  have requests : serving.requests inNamespace r =
      serving.specWrites inNamespace r ++ serving.laterWrites inNamespace r :=
    List.append_assoc _ _ _
  have later := laterWrites_leaveAlone serving inNamespace answers r
  rw [carryOut_eq, requests, specWrites]
  refine .bind ?_
  by_cases same : r.spec = serving.spec
  · rw [if_pos same]
    refine (later _ s kept).mono fun _ s' still => .pure ?_
    exact iff_of_true (still.trans fresh) same
  · rw [if_neg same]
    refine .bind ((Attempt.Ensures.landing kept (rewritten_specPatch r.spec)).mono ?_)
    rintro _ s' ⟨kept', landed⟩
    refine (later _ s' kept').mono fun _ s'' still => .pure ?_
    rw [still]
    exact iff_of_false landed same

end

/-- However an installation is edited while a pass runs, of each value that is found when the spec
    of the pass lands exactly those stay to which the resolution of what the pass has read gives no
    other value. A pass that comes to its end has written its spec exactly if that differs from the
    one that it has read. -/
theorem pass_rewrites_entries {serving : KnativeServing} {inNamespace : String}
    (lives : serving.metadata.inNamespace = some inNamespace) {answers : FactAnswers}
    {facts : Facts} (known : answers.gather = .ok facts) (config : OperatorConfig) (now : Instant)
    (document : Json) :
    let r := serving.resolve facts config now
    (serving.pass config now).Ensures
      (surroundings (.serving inNamespace serving.metadata.nameAny) answers)
      (All (Rewritten r.spec)) True (fun _ s => s.landings = [] ↔ r.spec = serving.spec)
      ⟨document, []⟩ := by
  intro r
  rw [pass_of_namespace lives]
  refine .bind (.facts ?_)
  rintro s moved _ rfl
  refine ⟨fun facts' known' => ?_, fun _ _ => trivial⟩
  obtain rfl := Except.ok.inj (known.symm.trans known')
  have fresh : s.landings = [] := moved
  have kept : s.All (Rewritten r.spec) := fun landing member => by
    rw [fresh] at member
    cases member
  exact carryOut_rewrites kept fresh

def scaled (replicas : Int32) : KnativeServing :=
  { plain with spec := { highAvailability := some { replicas } } }

theorem pass_rewrites_entries_scaled :
    let r := (scaled 3).resolve plainFacts {} ⟨0, 0⟩
    (scaled 3).metadata.inNamespace = some "knative-serving" ∧
      plainAnswers.gather = .ok plainFacts ∧
      ((scaled 3).pass {} ⟨0, 0⟩).Ensures
        (surroundings (.serving "knative-serving" "knative-serving") plainAnswers)
        (All (Rewritten r.spec)) True (fun _ s => s.landings = [] ↔ r.spec = (scaled 3).spec)
        ⟨KnativeServing.format.encode (scaled 3), []⟩ := by
  intro r
  have lives : (scaled 3).metadata.inNamespace = some "knative-serving" := rfl
  exact ⟨lives, gather_plainAnswers, pass_rewrites_entries lives gather_plainAnswers {} ⟨0, 0⟩ _⟩

/-- A user asks for five replicas while a pass runs that has read three, and three it stays. -/
theorem pass_reverts_replicas :
    ¬((scaled 3).pass {} ⟨0, 0⟩).Ensures
      (surroundings (.serving "knative-serving" "knative-serving") plainAnswers)
      (All fun found left => ∀ n : Int, 0 < n →
        found.at? SpecEntry.replicas.path = some (.int n) →
          left.at? SpecEntry.replicas.path = some (.int n))
      True (fun _ _ => True) ⟨KnativeServing.format.encode (scaled 3), []⟩ := by
  intro h
  let r := (scaled 3).resolve plainFacts {} ⟨0, 0⟩
  have resolved := ServingSpec.resolve_eq (scaled 3).spec ∅ none none none
  have certs : r.spec.customCerts = { type := "ConfigMap", name := "config-service-ca" } :=
    congrArg (·.spec.customCerts) resolved
  have replicas : SpecEntry.replicas.value? r.spec = some (.int 3) :=
    congrArg (fun resolved => SpecEntry.replicas.value? resolved.spec) resolved
  have changed : r.spec ≠ (scaled 3).spec := by
    intro same
    rw [same] at certs
    exact absurd certs (by decide)
  have lives : (scaled 3).metadata.inNamespace = some "knative-serving" := rfl
  rw [pass_of_namespace lives] at h
  have carried : ((scaled 3).carryOut "knative-serving" r).Ensures _ _ _ _ _ :=
    h _ rfl plainAnswers rfl
  rw [carryOut_eq, requests, writes_eq, specWrites, if_neg changed] at carried
  let edited : Contended := ⟨KnativeServing.format.encode (scaled 5), []⟩
  obtain ⟨landed, -⟩ := carried edited rfl (.ok ()) _ (.landed _)
  have found : edited.stored.at? SpecEntry.replicas.path = some (.int 5) := rfl
  have kept := landed _ List.mem_cons_self 5 (by decide) found
  have reverted := (rewritten_specPatch r.spec edited.stored .replicas _ found).mp kept _ replicas
  cases reverted

end KnativeServing

end ServingOperator
