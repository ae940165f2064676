import Mathlib.Data.List.DropRight
import Rollout.Provider
import Rollout.Proofs.Outcomes

/-!
# Rollout.Proofs.Derivation

The URLs that are derived from the one of a cluster, and the providers that derive them.

* `Text.trimRight_append_replicate`, `Text.trimRight_eq_self` — slashes at the end of a base;
* `Url.apiParts`, `Url.origin`, `Url.sibling_eq` — a derived URL is an origin, which the cluster's URL
  decides about, with a path behind it;
* `Provider.IsCluster`, `Provider.Lists` — one cluster at a URL, and a tenant with a namespace;
* `Provider.SameUrls`, `Provider.Derivation` — what a tenant derives for a namespace is what a provider
  of its cluster derives.
-/

namespace Rollout

/-! ## the end of a text -/

namespace Text

/-- Repetitions of a character at the end of a text are left out, however many there are. -/
theorem trimRight_append_replicate (c : Char) (s : String) (count : Nat) :
    trimRight c (s ++ String.ofList (List.replicate count c)) = trimRight c s := by
  have hdrop : ∀ n, List.rdropWhile (· == c) (s.toList ++ List.replicate n c) =
      List.rdropWhile (· == c) s.toList := by
    intro n
    induction n with
    | zero => rw [List.replicate_zero, List.append_nil]
    | succ n ih =>
        rw [List.replicate_succ', ← List.append_assoc, List.rdropWhile_concat_pos _ _ _ (by simp), ih]
  rw [trimRight, String.toList_append, String.toList_ofList]
  exact congrArg String.ofList (hdrop count)

/-- A text that does not end with the character is kept. -/
theorem trimRight_eq_self {c : Char} {s : String} (h : s.toList.getLast? ≠ some c) :
    trimRight c s = s := by
  have hkept : List.rdropWhile (· == c) s.toList = s.toList := by
    rw [List.rdropWhile_eq_self_iff]
    intro hne hlast
    rw [List.getLast?_eq_getLast_of_ne_nil hne] at h
    exact h (congrArg some (by simpa using hlast))
  exact (congrArg String.ofList hkept).trans String.ofList_toList

end Text

/-! ## URLs beside the one of a cluster -/

namespace Url

/-- The parts of a cluster's URL, the host of which has to begin with `api`. -/
def apiParts (api : String) : Outcome Parts :=
  match Parts.ofText? api.toList with
  | none => .error (.misconfigured (.urlInvalid api))
  | some p =>
    if p.host.take apiWord.length = apiWord then .ok p
    else .error (.misconfigured (.notApi (if p.host = [] then api else String.ofList p.host)))

/-- What a URL has in front of its path: the scheme, if there is one, and the host with another word in
the place of `api`. -/
def origin (word : String) (p : Parts) : String :=
  String.ofList ((if p.scheme = [] then [] else p.scheme ++ [':']) ++
    '/' :: '/' :: (word.toList ++ p.host.drop apiWord.length))

/-- A path that starts with one slash is left as it is. -/
theorem slashed_slashed (path : List Char) : slashed (slashed path) = slashed path := by
  by_cases h : path = [] ∨ path.head? = some '/'
  · have hkept : slashed path = path := if_pos h
    rw [hkept, hkept]
  · have hslash : slashed path = '/' :: path := if_neg h
    rw [hslash]
    exact if_pos (.inr rfl)

/-- A URL with an authority is put together from its parts, with a slash in front of the path. -/
theorem join_eq {authority : List Char} (h : authority ≠ []) (scheme path : List Char) :
    join scheme authority path =
      (if scheme = [] then [] else scheme ++ [':']) ++ '/' :: '/' :: authority ++ slashed path := by
  have hrest : join scheme authority path =
      if scheme = [] then '/' :: '/' :: authority ++ slashed path
      else scheme ++ ':' :: ('/' :: '/' :: authority ++ slashed path) := by
    simp only [join, h, ne_eq, not_false_eq_true, true_or, if_true]
  rw [hrest]
  split <;> simp

/-- The path of a derived URL stands behind its origin, with a slash in front.  Whether there is an
origin depends on the cluster's URL alone. -/
theorem sibling_eq {word : String} (hword : word ≠ "") (api path : String) :
    sibling api word path =
      (fun p => origin word p ++ String.ofList (slashed path.toList)) <$> apiParts api := by
  unfold sibling apiParts
  cases Parts.ofText? api.toList with
  | none => rfl
  | some p =>
      have hauthority : word.toList ++ p.host.drop apiWord.length ≠ [] := by
        simp [hword]
      by_cases hapi : p.host.take apiWord.length = apiWord
      · simp only [hapi, if_true, join_eq hauthority, slashed_slashed, Functor.map, Except.map]
        rw [String.ofList_append, ← origin]
      · simp only [hapi, if_false]
        rfl

end Url

/-! ## providers -/

/-- A namespace that is reported without URLs of its own. -/
structure TenantNamespace.IsBare (n : TenantNamespace) : Prop where
  console : nonEmpty? n.consoleUrl = none
  logging : nonEmpty? n.loggingUrl = none
  metrics : nonEmpty? n.metricsUrl = none

namespace Provider

/-- One cluster, at the given URL. -/
def IsCluster (url : String) (p : Provider) : Prop :=
  ∃ apiUrl apiToken clusterUrl clusterToken,
    ofCluster apiUrl apiToken clusterUrl clusterToken = .ok p ∧
      (nonEmpty? clusterUrl).getD apiUrl = url

/-- A tenant, which reports the given namespace under a name. -/
def Lists (ns : String) (n : TenantNamespace) (p : Provider) : Prop :=
  ∃ namespaces token apiUrl tenant,
    ofTenant namespaces token apiUrl tenant = .ok p ∧ find ns tenant namespaces = .ok n

/-- A provider for a cluster is made of four texts. -/
theorem IsCluster.eq_cluster {url : String} {p : Provider} (h : IsCluster url p) :
    ∃ apiUrl apiToken token, p = cluster apiUrl apiToken url token := by
  obtain ⟨apiUrl, apiToken, clusterUrl, clusterToken, hp, rfl⟩ := h
  unfold ofCluster at hp
  split at hp
  · cases hp
  · exact ⟨_, _, _, (Except.ok.inj hp).symm⟩

/-- A provider that lists a namespace is one of a tenant. -/
theorem Lists.eq_tenant {ns : String} {n : TenantNamespace} {p : Provider} (h : Lists ns n p) :
    ∃ apiUrl token tenant namespaces,
      p = .tenant apiUrl token tenant namespaces ∧ find ns tenant namespaces = .ok n := by
  obtain ⟨namespaces, token, apiUrl, tenant, hp, hfind⟩ := h
  simp only [ofTenant] at hp
  split at hp
  · cases hp
  · exact ⟨_, _, _, _, (Except.ok.inj hp).symm, hfind⟩

/-! ### what a tenant answers -/

section Tenant

variable {ns : String} {n : TenantNamespace} {p : Provider} (h : Lists ns n p)

include h

/-- The URL of the metrics is the one that is listed, or it is derived from that of the cluster. -/
theorem Lists.metricsUrl_eq :
    p.metricsUrl ns = given n.metricsUrl (Url.sibling n.clusterUrl "metrics" "") := by
  obtain ⟨apiUrl, token, tenant, namespaces, rfl, hfind⟩ := h.eq_tenant
  rw [metricsUrl, hfind]
  rfl

/-- So is the page of a project, under the URL of the console. -/
theorem Lists.consoleUrl_eq : p.consoleUrl ns =
    (projectPage · ns) <$> given n.consoleUrl (Url.sibling n.clusterUrl "console" "/console") := by
  obtain ⟨apiUrl, token, tenant, namespaces, rfl, hfind⟩ := h.eq_tenant
  rw [consoleUrl, hfind]
  rfl

/-- So is the page of logs, under that of the logging, or the console. -/
theorem Lists.logsUrl_eq (controller : String) : p.logsUrl ns controller =
    (fun base => logsPage (projectPage base ns) controller) <$>
      given n.loggingUrl (Url.sibling n.clusterUrl "console" "/console") := by
  obtain ⟨apiUrl, token, tenant, namespaces, rfl, hfind⟩ := h.eq_tenant
  rw [logsUrl, hfind]
  rfl

end Tenant

/-- A URL that is missing or empty is derived. -/
theorem given_of_missing {url : Option String} (h : nonEmpty? url = none)
    (derived : Outcome String) : given url derived = derived := by
  rw [given, h]

theorem given_of_ne {url : String} (h : url ≠ "") (derived : Outcome String) :
    given (some url) derived = .ok url := by
  rw [given, nonEmpty?, Option.filter_some_pos (by simpa using h)]

/-! ### pages -/

/-- The page of a namespace is the same below the console's URL and in a path of its own. -/
theorem projectPage_sibling (url ns : String) :
    (projectPage · ns) <$> Url.sibling url "console" "/console" =
      Url.sibling url "console" ("console/project/" ++ ns) := by
  rw [Url.sibling_eq (by decide), Url.sibling_eq (by decide)]
  cases Url.apiParts url with
  | error e => rfl
  | ok p =>
      have hconsole : Url.slashed "/console".toList = "/console".toList := by decide
      have hpath : Url.slashed ("console/project/" ++ ns).toList =
          "/console".toList ++ ("/project/" ++ ns).toList := by
        simp [Url.slashed]
      have hlast : (Url.origin "console" p ++ "/console").toList.getLast? ≠ some '/' := by
        simp
      simp only [Functor.map, Except.map, hconsole, hpath, projectPage, String.ofList_toList,
        String.ofList_append, Text.trimRight_eq_self hlast, String.append_assoc]

/-- Slashes at the end of a text. -/
def slashes (count : Nat) : String := String.ofList (List.replicate count '/')

/-- Slashes at the end of the URL of a console make no difference. -/
theorem projectPage_append_slashes (base ns : String) (count : Nat) :
    projectPage (base ++ slashes count) ns = projectPage base ns := by
  rw [projectPage, slashes, Text.trimRight_append_replicate, ← projectPage]

/-! ### answers compared -/

/-- Two providers answer alike about a namespace, with the same URLs or with the same failures. -/
structure SameUrls (ns : String) (p q : Provider) : Prop where
  metrics : p.metricsUrl ns = q.metricsUrl ns
  console : p.consoleUrl ns = q.consoleUrl ns
  logs (controller : String) : p.logsUrl ns controller = q.logsUrl ns controller

/-- A tenant whose namespace lists the cluster alone has the URLs of a provider for this cluster. -/
theorem sameUrls_of_isBare {ns : String} {n : TenantNamespace} {p q : Provider}
    (hp : IsCluster n.clusterUrl p) (hq : Lists ns n q) (hbare : n.IsBare) : SameUrls ns p q := by
  obtain ⟨apiUrl, apiToken, token, rfl⟩ := hp.eq_cluster
  have hconsole : (cluster apiUrl apiToken n.clusterUrl token).consoleUrl ns = q.consoleUrl ns := by
    rw [hq.consoleUrl_eq, given_of_missing hbare.console, projectPage_sibling]
    rfl
  refine ⟨?_, hconsole, fun controller => ?_⟩
  · rw [hq.metricsUrl_eq, given_of_missing hbare.metrics]
    rfl
  · have hlogs : (cluster apiUrl apiToken n.clusterUrl token).logsUrl ns controller =
        (logsPage · controller) <$> (cluster apiUrl apiToken n.clusterUrl token).consoleUrl ns := rfl
    -- Without a URL for the logs, they are below the page of the namespace in the console.
    rw [hlogs, hconsole, hq.consoleUrl_eq, hq.logsUrl_eq, given_of_missing hbare.console,
      given_of_missing hbare.logging, Functor.map_map]

/-- The URLs that a tenant gives for a namespace. -/
structure Derivation (ns : String) (n : TenantNamespace) (q : Provider) : Prop where
  /-- Without URLs of its own, they are those of a provider of its cluster. -/
  derived {p : Provider} : n.IsBare → IsCluster n.clusterUrl p → SameUrls ns p q
  /-- Below a URL of its own, the number of slashes at the end of which makes no difference. -/
  console {base : String} {count : Nat} : n.consoleUrl = some (base ++ slashes count) →
    base ++ slashes count ≠ "" → q.consoleUrl ns = .ok (projectPage base ns)
  logs {base : String} {count : Nat} : n.loggingUrl = some (base ++ slashes count) →
    base ++ slashes count ≠ "" →
    ∀ controller, q.logsUrl ns controller = .ok (logsPage (projectPage base ns) controller)

/-- A tenant derives the URLs that a provider of the same cluster derives. -/
theorem derivation_of_lists {ns : String} {n : TenantNamespace} {q : Provider}
    (h : Lists ns n q) : Derivation ns n q := by
  constructor
  case derived => exact fun hbare hp => sameUrls_of_isBare hp h hbare
  case console =>
    intro base count hurl hne
    rw [h.consoleUrl_eq, hurl, given_of_ne hne, ← projectPage_append_slashes base ns count]
    rfl
  case logs =>
    intro base count hurl hne controller
    rw [h.logsUrl_eq, hurl, given_of_ne hne, ← projectPage_append_slashes base ns count]
    rfl

/-- A tenant with two namespaces on one cluster.  The first one is reported without URLs of its own,
the second one with one for the console. -/
def housed : Provider := .tenant housed.url "t" "alice" [housed.bare, housed.own]
where
  url : String := "HTTPS://user:pw@API.example.com:8443/v1?x=1#api"
  bare : TenantNamespace := { name := "my-run", clusterUrl := url, loggingUrl := some "" }
  own : TenantNamespace := { bare with name := "my", consoleUrl := some "https://c.example.com//" }

/-- The tenant answers for the first namespace as a provider of the cluster does, and for the second one
without the slashes. -/
theorem housed_derivation :
    Lists "my-run" housed.bare housed ∧ Lists "my" housed.own housed ∧
      (∃ p, IsCluster housed.url p ∧ SameUrls "my-run" p housed) ∧
      housed.consoleUrl "my-run" = .ok "https://console.example.com/console/project/my-run" ∧
      housed.consoleUrl "my" = .ok "https://c.example.com/project/my" := by
  have hbare : Lists "my-run" housed.bare housed :=
    ⟨[housed.bare, housed.own], "t", none, "alice", rfl, rfl⟩
  have hown : Lists "my" housed.own housed :=
    ⟨[housed.bare, housed.own], "t", none, "alice", rfl, rfl⟩
  have hp : IsCluster housed.url (cluster housed.url "t" housed.url "t") :=
    ⟨housed.url, "t", none, none, rfl, rfl⟩
  refine ⟨hbare, hown, ⟨_, hp, (derivation_of_lists hbare).derived ⟨rfl, rfl, rfl⟩ hp⟩, ?_, ?_⟩
  · exact Outcome.eq_ok_of_toOption (by decide +kernel)
  · have hslashes : housed.own.consoleUrl = some ("https://c.example.com" ++ slashes 2) := by
      decide
    refine ((derivation_of_lists hown).console hslashes (by decide)).trans ?_
    exact congrArg Except.ok (by decide)

end Provider

end Rollout
