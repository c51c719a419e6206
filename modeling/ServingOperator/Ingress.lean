import ServingOperator.Resource

namespace ServingOperator

structure IngressTLS where
  hosts : List String := []
  secretName : String
  secretNamespace : String
deriving DecidableEq, Repr

inductive Visibility where
  | externalIP
  | clusterLocal
deriving DecidableEq, Repr

structure IngressRule where
  hosts : List String := []
  visibility : Visibility := .externalIP
deriving DecidableEq, Repr

inductive HttpOption where
  | enabled
  | redirected
deriving DecidableEq, Repr

structure IngressSpec where
  tls : List IngressTLS := []
  rules : List IngressRule := []
  httpOption : HttpOption := .enabled
deriving DecidableEq, Repr

structure LoadBalancerEntry where
  ip : Option String := none
  domain : Option String := none
  domainInternal : Option String := none
  meshOnly : Bool := false
deriving DecidableEq, Repr

structure LoadBalancer where
  entries : List LoadBalancerEntry := []
deriving DecidableEq, Repr

structure IngressStatus where
  publicLoadBalancer : Option LoadBalancer := none
  privateLoadBalancer : Option LoadBalancer := none
deriving DecidableEq, Repr

abbrev Ingress := Resource IngressSpec IngressStatus

def Ingress.kind : ResourceKind :=
  ⟨"networking.internal.knative.dev", "v1alpha1", "Ingress", "ingresses"⟩

end ServingOperator
