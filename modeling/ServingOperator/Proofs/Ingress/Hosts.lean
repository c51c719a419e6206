import ServingOperator.Ingress.Routes
import ServingOperator.Proofs.Text

namespace ServingOperator.Host

/-- A name is one label, or a label, a dot and a name. No label has a dot. -/
inductive MadeOf : List String → String → Prop where
  | single {label : String} (dotless : '.' ∉ label.toList) : MadeOf [label] label
  | dotted {label rest : String} {others : List String} (dotless : '.' ∉ label.toList)
      (made : MadeOf others rest) : MadeOf (label :: others) (label ++ "." ++ rest)

/-- A name inside the cluster starts with a service and a namespace, one label each, and the mark of
    services after them. -/
structure NamesService (host service space : String) : Prop where
  service_ne : service ≠ ""
  service_dotless : '.' ∉ service.toList
  space_ne : space ≠ ""
  space_dotless : '.' ∉ space.toList
  spelled : host = service ++ "." ++ space ++ ".svc" ∨
    ∃ zone, host = service ++ "." ++ space ++ ".svc." ++ zone

theorem toList_dotted (label rest : String) :
    (label ++ "." ++ rest).toList = label.toList ++ '.' :: rest.toList := by
  simp [String.toList_append]

theorem MadeOf.labels {labels : List String} {host : String} (made : MadeOf labels host) :
    Host.labels host = labels.map String.toList := by
  unfold Host.labels
  induction made with
  | single dotless => exact Text.splitAt_of_not_mem dotless
  | dotted dotless made ih => rw [toList_dotted, Text.splitAt_append dotless, ih, List.map_cons]

theorem MadeOf.exists_cons {labels : List String} {host : String} (made : MadeOf labels host) :
    ∃ label others, labels = label :: others := by
  cases made with
  | single _ => exact ⟨_, _, rfl⟩
  | dotted _ _ => exact ⟨_, _, rfl⟩

theorem exists_madeOf (host : String) : ∃ labels, MadeOf labels host := by
  -- A name is taken apart at its first dot, and what follows that is shorter.
  induction size : host.toList.length using Nat.strongRecOn generalizing host with
  | _ n ih =>
    by_cases dot : '.' ∈ host.toList
    · obtain ⟨front, back, parts, dotless⟩ := List.eq_append_cons_of_mem dot
      have whole : host = String.ofList front ++ "." ++ String.ofList back := by
        rw [← String.toList_inj, toList_dotted, parts, String.toList_ofList, String.toList_ofList]
      have shorter : (String.ofList back).toList.length < n := by
        rw [← size, parts, String.toList_ofList, List.length_append, List.length_cons]
        omega
      obtain ⟨labels, made⟩ := ih _ shorter _ rfl
      rw [whole]
      exact ⟨_, .dotted (by rwa [String.toList_ofList]) made⟩
    · exact ⟨[host], .single dot⟩

theorem MadeOf.unique {labels labels' : List String} {host : String} (made : MadeOf labels host)
    (made' : MadeOf labels' host) : labels = labels' := by
  have same := made.labels.symm.trans made'.labels
  exact (List.map_inj_right fun _ _ => String.toList_inj.mp).mp same

theorem MadeOf.iff_eq {labels labels' : List String} {host : String} (made : MadeOf labels host) :
    MadeOf labels' host ↔ labels = labels' :=
  ⟨made.unique, fun same => same ▸ made⟩

theorem namesService_iff (host service space : String) :
    NamesService host service space ↔
      service ≠ "" ∧ space ≠ "" ∧ ∃ zone, MadeOf (service :: space :: "svc" :: zone) host := by
  have short : service ++ "." ++ (space ++ "." ++ "svc") = service ++ "." ++ space ++ ".svc" := by
    simp [← String.toList_inj]
  have long (zone : String) : service ++ "." ++ (space ++ "." ++ ("svc" ++ "." ++ zone)) =
      service ++ "." ++ space ++ ".svc." ++ zone := by
    simp [← String.toList_inj]
  constructor
  · rintro ⟨service_ne, service_dotless, space_ne, space_dotless, spelled⟩
    have mark : '.' ∉ "svc".toList := by decide
    refine ⟨service_ne, space_ne, ?_⟩
    rcases spelled with rfl | ⟨zone, rfl⟩
    · rw [← short]
      exact ⟨[], .dotted service_dotless (.dotted space_dotless (.single mark))⟩
    · obtain ⟨labels, made⟩ := exists_madeOf zone
      rw [← long]
      exact ⟨labels, .dotted service_dotless (.dotted space_dotless (.dotted mark made))⟩
  · rintro ⟨service_ne, space_ne, zone, made⟩
    -- The three labels are taken off one by one; the mark may be the last of all.
    cases made with
    | dotted service_dotless made =>
    cases made with
    | dotted space_dotless made =>
    cases made with
    | single _ => exact ⟨service_ne, service_dotless, space_ne, space_dotless, .inl short⟩
    | dotted _ made =>
      exact ⟨service_ne, service_dotless, space_ne, space_dotless, .inr ⟨_, long _⟩⟩

theorem NamesService.unique {host service space service' space' : String}
    (names : NamesService host service space) (names' : NamesService host service' space') :
    service = service' ∧ space = space' := by
  obtain ⟨-, -, zone, made⟩ := (namesService_iff host service space).mp names
  obtain ⟨-, -, zone', made'⟩ := (namesService_iff host service' space').mp names'
  have same := made.unique made'
  simp only [List.cons.injEq] at same
  exact ⟨same.1, same.2.1⟩

theorem toList_eq_serviceMark_iff (label : String) :
    label.toList = serviceMark ↔ label = "svc" := by
  rw [← String.toList_inj]
  rfl

theorem isExternal_eq_false_iff (host : String) :
    isExternal host = false ↔
      '.' ∉ host.toList ∨ ∃ labels, MadeOf labels host ∧ labels[2]? = some "svc" := by
  obtain ⟨labels, made⟩ := exists_madeOf host
  simp only [made.iff_eq, exists_eq_left', isExternal, made.labels]
  cases made with
  | single dotless => simp [dotless]
  | dotted _ made =>
    cases made with
    | single _ => simp
    | dotted _ made =>
      obtain ⟨third, zone, rfl⟩ := made.exists_cons
      simp [toList_eq_serviceMark_iff]

theorem internalService?_eq_some_iff (host service space : String) :
    internalService? host = some (service, space) ↔ NamesService host service space := by
  obtain ⟨labels, made⟩ := exists_madeOf host
  simp only [namesService_iff, made.iff_eq, internalService?, made.labels]
  cases made with
  | single _ => simp
  | dotted _ made =>
    cases made with
    | single _ => simp
    | dotted _ made =>
      obtain ⟨third, zone, rfl⟩ := made.exists_cons
      simp only [List.map_cons, toList_eq_serviceMark_iff, String.ofList_toList, ne_eq,
        String.toList_eq_nil_iff, Option.ite_none_right_eq_some, Option.some.injEq, Prod.mk.injEq,
        List.cons.injEq]
      constructor
      · rintro ⟨⟨mark, service_ne, space_ne⟩, rfl, rfl⟩
        exact ⟨service_ne, space_ne, zone, rfl, rfl, mark, rfl⟩
      · rintro ⟨service_ne, space_ne, _, rfl, rfl, mark, -⟩
        exact ⟨⟨mark, service_ne, space_ne⟩, rfl, rfl⟩

/-- A name tells a service and a namespace exactly if it is spelled by them, and then no others. The
    names that are not reached from outside, these among them, are those without a dot and those
    whose third label is the mark of services. -/
theorem classified_by_labels (host : String) :
    (∀ service space, internalService? host = some (service, space) ↔
      NamesService host service space) ∧
    (∀ service space service' space', NamesService host service space →
      NamesService host service' space' → service = service' ∧ space = space') ∧
    ((internalService? host).isSome = true → isExternal host = false) ∧
    (isExternal host = false ↔
      '.' ∉ host.toList ∨ ∃ labels, MadeOf labels host ∧ labels[2]? = some "svc") := by
  refine ⟨internalService?_eq_some_iff host, fun _ _ _ _ => NamesService.unique, fun accepted => ?_,
    isExternal_eq_false_iff host⟩
  obtain ⟨⟨service, space⟩, found⟩ := Option.isSome_iff_exists.mp accepted
  have names := (internalService?_eq_some_iff host service space).mp found
  obtain ⟨-, -, zone, made⟩ := (namesService_iff host service space).mp names
  exact (isExternal_eq_false_iff host).mpr (.inr ⟨_, made, rfl⟩)

theorem classified_by_labels_emptyLabel :
    NamesService "gateway.edge.svc.cluster.local" "gateway" "edge" ∧
      internalService? "gateway.edge.svc.cluster.local" = some ("gateway", "edge") ∧
      isExternal "gateway.edge.svc.cluster.local" = false ∧
    MadeOf ["gateway", "", "svc"] "gateway..svc" ∧
      internalService? "gateway..svc" = none ∧ isExternal "gateway..svc" = false := by
  have names : NamesService "gateway.edge.svc.cluster.local" "gateway" "edge" :=
    ⟨by decide, by decide, by decide, by decide, .inr ⟨"cluster.local", by decide⟩⟩
  have found := ((classified_by_labels _).1 "gateway" "edge").mpr names
  have accepted : (internalService? "gateway.edge.svc.cluster.local").isSome = true := by
    rw [found]
    rfl
  have made : MadeOf ["gateway", "", "svc"] ("gateway" ++ "." ++ ("" ++ "." ++ "svc")) :=
    .dotted (by decide) (.dotted (by decide) (.single (by decide)))
  have spelled : "gateway" ++ "." ++ ("" ++ "." ++ "svc") = "gateway..svc" := by decide
  rw [spelled] at made
  have inside := (classified_by_labels "gateway..svc").2.2.2.mpr (.inr ⟨_, made, rfl⟩)
  exact ⟨names, found, (classified_by_labels _).2.2.1 accepted, made, by decide, inside⟩

end ServingOperator.Host
