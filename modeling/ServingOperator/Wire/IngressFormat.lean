import ServingOperator.Ingress
import ServingOperator.Wire.Format

namespace ServingOperator

def IngressTLS.format : Format IngressTLS :=
  .image
    (.record .refused [] <|
      .cons "hosts" none (.orElse (.list .text) []) <|
      .cons "secretName" none (.required .text) <|
      .cons "secretNamespace" none (.required .text) .nil)
    (fun (hosts, secretName, secretNamespace, ()) => { hosts, secretName, secretNamespace })
    (fun t => (t.hosts, t.secretName, t.secretNamespace, ()))
    (fun _ => rfl)

def Visibility.name : Visibility → String
  | externalIP => "ExternalIP"
  | clusterLocal => "ClusterLocal"

def Visibility.format : Format Visibility :=
  .choice [.externalIP, .clusterLocal] Visibility.name (by intro a; cases a <;> decide)

def IngressRule.format : Format IngressRule :=
  .image
    (.record .refused [] <|
      .cons "hosts" none (.orElse (.list .text) []) <|
      .cons "visibility" none (.orElse Visibility.format .externalIP) .nil)
    (fun (hosts, visibility, ()) => { hosts, visibility })
    (fun r => (r.hosts, r.visibility, ()))
    (fun _ => rfl)

def HttpOption.name : HttpOption → String
  | enabled => "Enabled"
  | redirected => "Redirected"

def HttpOption.format : Format HttpOption :=
  .choice [.enabled, .redirected] HttpOption.name (by intro a; cases a <;> decide)

def IngressSpec.format : Format IngressSpec :=
  .image
    (.record .refused [] <|
      .cons "tls" (some "TLS settings; any entry switches routes to passthrough")
        (.listIfAny IngressTLS.format) <|
      .cons "rules" (some "Routing rules, processed in order")
        (.orElse (.list IngressRule.format) []) <|
      .cons "httpOption" (some "Whether plain HTTP is served or redirected to HTTPS")
        (.orElse HttpOption.format .enabled) .nil)
    (fun (tls, rules, httpOption, ()) => { tls, rules, httpOption })
    (fun s => (s.tls, s.rules, s.httpOption, ()))
    (fun _ => rfl)

def LoadBalancerEntry.format : Format LoadBalancerEntry :=
  .image
    (.record .refused [] <|
      .cons "ip" none (.optional .text) <|
      .cons "domain" none (.optional .text) <|
      .cons "domainInternal"
        (some ("In-cluster name of the data plane service, e.g.\n" ++
          "\x60kourier.knative-serving-ingress.svc.cluster.local\x60"))
        (.optional .text) <|
      .cons "meshOnly" none .flagIfSet .nil)
    (fun (ip, domain, domainInternal, meshOnly, ()) => { ip, domain, domainInternal, meshOnly })
    (fun e => (e.ip, e.domain, e.domainInternal, e.meshOnly, ()))
    (fun _ => rfl)

def LoadBalancer.format : Format LoadBalancer :=
  .image
    (.record .refused [] <|
      .cons "ingress" none (.orElse (.list LoadBalancerEntry.format) []) .nil)
    (fun (entries, ()) => { entries })
    (fun b => (b.entries, ()))
    (fun _ => rfl)

def IngressStatus.format : Format IngressStatus :=
  .image
    (.record .refused [] <|
      .cons "publicLoadBalancer" none (.optional LoadBalancer.format) <|
      .cons "privateLoadBalancer" none (.optional LoadBalancer.format) .nil)
    (fun (publicLoadBalancer, privateLoadBalancer, ()) =>
      { publicLoadBalancer, privateLoadBalancer })
    (fun s => (s.publicLoadBalancer, s.privateLoadBalancer, ()))
    (fun _ => rfl)

def Ingress.format : Format Ingress :=
  Resource.format Ingress.kind IngressSpec.format IngressStatus.format

end ServingOperator
