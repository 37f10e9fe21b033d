import WebhookWise.BoundedCaches
import WebhookWise.PythonValues

/-!
# Where the service connects to

`validate_outbound_url` refuses a target that is not public, by its name or its addresses.  The
pinning backend of the HTTP client resolves and checks the name again, and connects to an address
that it has checked.  `ipaddress`, the splitting of URLs and the resolver are parameters.
-/

namespace WebhookWise

namespace OutboundUrls

/-- The module `ipaddress`; `none` stands for `ValueError`. -/
structure IpAddresses (Address : Type) where
  ipAddress : String → Option Address
  printed : Address → String
  isGlobal : Address → Bool
  ipAddress_printed : ∀ address, ipAddress (printed address) = some address

/-- `urlsplit`, with what its result computes; the port is `none` for `ValueError`. -/
structure SplitResult where
  scheme : String
  netloc : String
  path : String
  query : String
  hostname : Option String
  username : Option String
  password : Option String
  port : Option (Option Nat)

structure Network (Address : Type) extends PythonRuntime, IpAddresses Address where
  /-- `none` for `ValueError`. -/
  urlsplit : String → Option SplitResult
  urlunsplit : String → String → String → String → String

structure OutboundURLPolicy where
  allowPrivateTargetUrls : Bool
  targetAllowlist : List String

/-- `UnsafeTargetUrlError` with its text, or another `ValueError`. -/
inductive TargetError where
  | unsafeTarget (text : String)
  | malformed
deriving DecidableEq

/-- `socket.getaddrinfo`: the texts of the socket addresses, where they have one; `none` for
`gaierror`. -/
abbrev GetAddrInfo := String → Option Nat → Option (List (Option String))

section Validation

variable {Address : Type} [DecidableEq Address] (network : Network Address)
  (policy : OutboundURLPolicy)

def blockedHostnames : List String :=
  ["localhost", "localhost.localdomain"]

def blockedSuffixes : List String :=
  [".localhost", ".local", ".internal"]

def endswith (text ending : String) : Bool :=
  ending.toList.isSuffixOf text.toList

def hostMatchesPattern (host pattern : String) : Bool :=
  let normalized := strip (network.lower pattern)
  if normalized = "" then false
  else
    match normalized.toList with
    | '*' :: '.' :: suffix =>
        host = String.ofList suffix || endswith host (String.ofList ('.' :: suffix))
    | '.' :: suffix => host = String.ofList suffix || endswith host (String.ofList ('.' :: suffix))
    | _ => host = normalized

def requireAllowlistedHost (host : String) : Except TargetError Unit :=
  if policy.targetAllowlist = [] then .ok ()
  else if policy.targetAllowlist.any (hostMatchesPattern network host) then .ok ()
  else .error (.unsafeTarget "target host is not in FORWARD_TARGET_ALLOWLIST")

def rejectBlockedHostname (host : String) : Except TargetError Unit :=
  if blockedHostnames.contains host || blockedSuffixes.any (endswith host) then
    .error (.unsafeTarget "target host points to a local/private name")
  else .ok ()

def rejectPrivateIp (address : Address) : Except TargetError Unit :=
  if policy.allowPrivateTargetUrls then .ok ()
  else if network.isGlobal address then .ok ()
  else .error (.unsafeTarget "target host resolves to a non-public IP")

/-- `_resolved_ips`, of what the resolver answers. -/
def resolvedIps (getAddrInfo : GetAddrInfo) (host : String) (port : Option Nat) :
    Except TargetError (List Address) :=
  match getAddrInfo host port with
  | none => .error (.unsafeTarget ("target host cannot be resolved: " ++ host))
  | some infos =>
      let ips := infos.foldl (fun ips info =>
        match info.bind fun text =>
            network.ipAddress (String.ofList (text.toList.takeWhile (· ≠ '%'))) with
        | some address => if ips.contains address then ips else ips ++ [address]
        | none => ips) []
      if ips = [] then .error (.unsafeTarget ("target host has no usable IP address: " ++ host))
      else .ok ips

/-- `host.lower().rstrip(".")`. -/
def normalizedHost (host : String) : String :=
  String.ofList ((network.lower host).toList.rdropWhile (· = '.'))

/-- The first checks of `validate_outbound_url`, and the host name that it goes on with. -/
def splitTarget (url : String) : Except TargetError (SplitResult × String) :=
  let candidate := strip url
  if candidate = "" then .error (.unsafeTarget "target URL is empty")
  else
    match network.urlsplit candidate with
    | none => .error .malformed
    | some parts =>
        if ! ["http", "https"].contains (network.lower parts.scheme) then
          .error (.unsafeTarget "target URL must use http or https")
        else
          match parts.hostname.filter (· ≠ "") with
          | none => .error (.unsafeTarget "target URL host is empty")
          | some hostname =>
              if parts.username.any (· ≠ "") || parts.password.any (· ≠ "") then
                .error (.unsafeTarget "target URL must not include credentials")
              else .ok (parts, hostname)

def rejectLocalName (host : String) : Except TargetError Unit :=
  if policy.allowPrivateTargetUrls then .ok () else rejectBlockedHostname host

def checkAddresses (resolve : String → Option Nat → Except TargetError (List Address))
    (host : String) (port : Option (Option Nat)) : Except TargetError Unit :=
  match network.ipAddress host with
  | some literal => rejectPrivateIp network policy literal
  | none =>
      match port with
      | none => .error .malformed
      | some port => do
          let ips ← resolve host port
          ips.forM (rejectPrivateIp network policy)

/-- `validate_outbound_url`, with the resolution it uses: a fresh one, or one through the cache. -/
def validateOutboundUrl (resolve : String → Option Nat → Except TargetError (List Address))
    (url : String) : Except TargetError String := do
  let (parts, hostname) ← splitTarget network url
  let host := normalizedHost network hostname
  requireAllowlistedHost network policy host
  rejectLocalName policy host
  checkAddresses network policy resolve host parts.port
  return network.urlunsplit (network.lower parts.scheme) parts.netloc parts.path parts.query

/-- `_validate_and_pick_ip`: the text of the address that the backend connects to. -/
def validateAndPickIp (getAddrInfo : GetAddrInfo) (host : String) (port : Nat) :
    Except TargetError String :=
  let normalized := normalizedHost network host
  match network.ipAddress normalized with
  | some literal => do
      rejectPrivateIp network policy literal
      return normalized
  | none => do
      rejectLocalName policy normalized
      let ips ← resolvedIps network getAddrInfo normalized (some port)
      ips.forM (rejectPrivateIp network policy)
      return (ips.head?.map network.printed).getD ""

end Validation

section Connections

variable {Address : Type} {network : Network Address} {policy : OutboundURLPolicy}

private theorem bind_eq_ok_iff {Raised Value Next : Type} {first : Except Raised Value}
    {next : Value → Except Raised Next} {result : Next} :
    (first >>= next) = .ok result ↔ ∃ value, first = .ok value ∧ next value = .ok result := by
  cases first with
  | error | ok => simp [bind, Except.bind]

theorem rejectPrivateIp_eq_ok_iff {address : Address} :
    rejectPrivateIp network policy address = .ok () ↔
      policy.allowPrivateTargetUrls = true ∨ network.isGlobal address = true := by
  unfold rejectPrivateIp
  split
  · simp_all
  · split
    · simp_all
    · simp_all

theorem forM_rejectPrivateIp_eq_ok_iff {ips : List Address} :
    ips.forM (rejectPrivateIp network policy) = .ok () ↔
      ∀ address ∈ ips, policy.allowPrivateTargetUrls = true ∨ network.isGlobal address = true := by
  induction ips with
  | nil => simp [pure, Except.pure]
  | cons address ips ih =>
      rw [List.forall_mem_cons, ← ih, ← rejectPrivateIp_eq_ok_iff]
      change (rejectPrivateIp network policy address >>= fun _ =>
        ips.forM (rejectPrivateIp network policy)) = .ok () ↔ _
      rw [bind_eq_ok_iff]
      exact ⟨fun ⟨_, first, rest⟩ => ⟨first, rest⟩, fun ⟨first, rest⟩ => ⟨(), first, rest⟩⟩

/-- A validation checks what it was given; the backend gives the same host no other checks. -/
theorem checks_of_validateOutboundUrl
    {resolve : String → Option Nat → Except TargetError (List Address)} {url normalized : String}
    (validated : validateOutboundUrl network policy resolve url = .ok normalized) :
    ∃ parts hostname, splitTarget network url = .ok (parts, hostname) ∧
      rejectLocalName policy (normalizedHost network hostname) = .ok () ∧
      checkAddresses network policy resolve (normalizedHost network hostname) parts.port =
        .ok () := by
  obtain ⟨⟨parts, hostname⟩, isSplit, rest⟩ := bind_eq_ok_iff.1 validated
  obtain ⟨_, _, rest⟩ := bind_eq_ok_iff.1 rest
  obtain ⟨_, unblocked, rest⟩ := bind_eq_ok_iff.1 rest
  obtain ⟨_, checked, _⟩ := bind_eq_ok_iff.1 rest
  exact ⟨parts, hostname, isSplit, unblocked, checked⟩

variable [DecidableEq Address]
variable {getAddrInfo : GetAddrInfo}

theorem resolvedIps_ne_nil {host : String} {port : Option Nat} {ips : List Address}
    (resolved : resolvedIps network getAddrInfo host port = .ok ips) : ips ≠ [] := by
  unfold resolvedIps at resolved
  split at resolved
  · cases resolved
  · dsimp only at resolved
    split at resolved
    · cases resolved
    · rename_i usable
      exact Except.ok.inj resolved ▸ usable

/-- The text is an address that is public. -/
def IsPublic (network : Network Address) (text : String) : Prop :=
  ∃ address, network.ipAddress text = some address ∧ network.isGlobal address = true

/-- Whatever the resolver answers when the connection is opened, it goes to a public address. -/
theorem isPublic_of_validateAndPickIp {host text : String} {port : Nat}
    (picked : validateAndPickIp network policy getAddrInfo host port = .ok text)
    (guarded : policy.allowPrivateTargetUrls = false) : IsPublic network text := by
  unfold validateAndPickIp at picked
  dsimp only at picked
  split at picked
  · rename_i literal isLiteral
    obtain ⟨_, allowed, same⟩ := bind_eq_ok_iff.1 picked
    refine ⟨literal, Except.ok.inj same ▸ isLiteral, ?_⟩
    simpa [guarded] using rejectPrivateIp_eq_ok_iff.1 allowed
  · obtain ⟨_, _, rest⟩ := bind_eq_ok_iff.1 picked
    obtain ⟨ips, resolved, rest⟩ := bind_eq_ok_iff.1 rest
    obtain ⟨_, allowed, same⟩ := bind_eq_ok_iff.1 rest
    cases ips with
    | nil => exact absurd rfl (resolvedIps_ne_nil resolved)
    | cons address ips =>
        refine ⟨address, Except.ok.inj same ▸ network.ipAddress_printed address, ?_⟩
        simpa [guarded] using forM_rejectPrivateIp_eq_ok_iff.1 allowed address List.mem_cons_self

/-- While the resolver answers as it did for the validation, the connection is opened. -/
theorem exists_validateAndPickIp {hostname : String} {urlPort : Option (Option Nat)} {port : Nat}
    (unblocked : rejectLocalName policy (normalizedHost network hostname) = .ok ())
    (checked : checkAddresses network policy (resolvedIps network getAddrInfo)
      (normalizedHost network hostname) urlPort = .ok ())
    (sameAnswer : ∀ known ∈ urlPort, getAddrInfo (normalizedHost network hostname) (some port) =
      getAddrInfo (normalizedHost network hostname) known) :
    ∃ text, validateAndPickIp network policy getAddrInfo hostname port = .ok text := by
  unfold checkAddresses at checked
  unfold validateAndPickIp
  dsimp only
  split at checked
  · exact ⟨_, bind_eq_ok_iff.2 ⟨_, checked, rfl⟩⟩
  · cases urlPort with
    | none => cases checked
    | some known =>
        obtain ⟨ips, resolved, allowed⟩ := bind_eq_ok_iff.1 checked
        have again : resolvedIps network getAddrInfo (normalizedHost network hostname)
            (some port) = .ok ips := by
          rw [← resolved]
          unfold resolvedIps
          rw [sameAnswer known rfl]
        exact ⟨_, bind_eq_ok_iff.2 ⟨_, unblocked,
          bind_eq_ok_iff.2 ⟨_, again, bind_eq_ok_iff.2 ⟨_, allowed, rfl⟩⟩⟩⟩

/-- Of a validated URL, every later connection goes to a public address whatever the resolver
answers then, and it is opened as long as the resolver answers as before. -/
theorem connects_where_validated {getAddrInfo : GetAddrInfo} {url normalized : String}
    (validated : validateOutboundUrl network policy (resolvedIps network getAddrInfo) url =
      .ok normalized) :
    ∃ parts hostname, splitTarget network url = .ok (parts, hostname) ∧
      (∀ (later : OutboundURLPolicy) answers port text,
        validateAndPickIp network later answers hostname port = .ok text →
          later.allowPrivateTargetUrls = false → IsPublic network text) ∧
      ∀ port, (∀ known ∈ parts.port, getAddrInfo (normalizedHost network hostname) (some port) =
          getAddrInfo (normalizedHost network hostname) known) →
        ∃ text, validateAndPickIp network policy getAddrInfo hostname port = .ok text := by
  obtain ⟨parts, hostname, isSplit, unblocked, checked⟩ := checks_of_validateOutboundUrl validated
  refine ⟨parts, hostname, isSplit, ?_, ?_⟩
  · intro later answers port text picked guarded
    exact isPublic_of_validateAndPickIp picked guarded
  · intro port sameAnswer
    exact exists_validateAndPickIp unblocked checked sameAnswer

end Connections

section Sample

def sampleNetwork : Network Bool where
  toPythonRuntime := .plain
  ipAddress text :=
    if text = "93.184.216.34" then some true else if text = "10.0.0.1" then some false else none
  printed address := if address then "93.184.216.34" else "10.0.0.1"
  isGlobal address := address
  ipAddress_printed := by decide
  urlsplit url :=
    if url = "https://Hooks.example/in" then
      some ⟨"https", "Hooks.example", "/in", "", some "hooks.example", none, none, some none⟩
    else none
  urlunsplit scheme netloc path query :=
    scheme ++ "://" ++ netloc ++ path ++ (if query = "" then "" else "?" ++ query)

def sampleAnswers : GetAddrInfo :=
  fun _ _ => some [some "93.184.216.34"]

theorem sample_connects :
    ∃ text, validateAndPickIp sampleNetwork ⟨false, []⟩ sampleAnswers "hooks.example" 443 =
      .ok text ∧ IsPublic sampleNetwork text := by
  have validated : validateOutboundUrl sampleNetwork ⟨false, []⟩
      (resolvedIps sampleNetwork sampleAnswers) " https://Hooks.example/in" =
        .ok "https://Hooks.example/in" := by
    rfl
  obtain ⟨parts, hostname, isSplit, reachesPublic, opens⟩ := connects_where_validated validated
  cases isSplit
  obtain ⟨text, picked⟩ := opens 443 fun _ _ => rfl
  exact ⟨text, picked, reachesPublic _ _ _ _ picked rfl⟩

end Sample

/-! ## The cache of resolutions -/

section Caching

open BoundedCaches GuardedRuns

/-- `_DNS_CACHE_TTL_SECONDS`, in nanoseconds. -/
def dnsCacheTtl : Int := 60 * 1000000000

def dnsCacheMaxEntries : Nat := 2048

variable {Address : Type} [DecidableEq Address]

/-- A critical section of `_resolve_ips_cached`, of whichever call.  The first one looks a host and
a port up, the second one stores what the resolver has answered. -/
inductive CallSection where
  | look (now : Int) (host : String) (port : Option Nat)
  | store (now : Int) (host : String) (port : Option Nat) (answers : GetAddrInfo)

variable (network : Network Address)

/-- What the section does to the cache; a call whose resolution raises has no second one. -/
def CallSection.event : CallSection → Option (Event (String × Option Nat) (List Address) Int)
  | .look now host port => some (.look now (host, port))
  | .store now host port answers =>
      match resolvedIps network answers host port with
      | .ok ips => some (.store now (host, port) ips)
      | .error _ => none

/-- `_DNS_CACHE` after the critical sections that calls have gone through. -/
def dnsCache (sections : List CallSection) : Cache (String × Option Nat) (List Address) Int :=
  run (step dnsCacheMaxEntries dnsCacheTtl) [] (sections.filterMap (CallSection.event network))

/-- How a call goes: when it looks, what the resolver answers it, which sections other calls go
through in the meantime, and when it stores. -/
structure CallCourse where
  lookedAt : Int
  answers : GetAddrInfo
  between : List CallSection
  storedAt : Int

/-- `_resolve_ips_cached`, after the sections of earlier calls. -/
def resolveIpsCached (before : List CallSection) (course : CallCourse) (host : String)
    (port : Option Nat) : Except TargetError (List Address) :=
  match served (dnsCache network before) (.look course.lookedAt (host, port)) with
  | some ips => .ok ips
  | none => do
      let ips ← resolvedIps network course.answers host port
      let cache := dnsCache network (before ++ .look course.lookedAt host port :: course.between)
      return (served cache (.store course.storedAt (host, port) ips)).getD ips

/-- A section among these has stored the addresses, which it had resolved, less than 60 seconds
before this time. -/
def StoredLately (sections : List CallSection) (now : Int) (host : String) (port : Option Nat)
    (ips : List Address) : Prop :=
  ∃ stored answers, .store stored host port answers ∈ sections ∧
    resolvedIps network answers host port = .ok ips ∧ now < stored + dnsCacheTtl

/-- The call has resolved the addresses itself, or has found them in one of its two sections. -/
def FreshlyResolved (before : List CallSection) (course : CallCourse) (host : String)
    (port : Option Nat) (ips : List Address) : Prop :=
  resolvedIps network course.answers host port = .ok ips ∨
    StoredLately network before course.lookedAt host port ips ∨
      StoredLately network (before ++ course.between) course.storedAt host port ips

variable {network} {sections before : List CallSection} {course : CallCourse} {host : String}
  {port : Option Nat} {ips : List Address}

theorem callSection_of_event {part : CallSection} {now : Int}
    (stores : part.event network = some (.store now (host, port) ips)) :
    ∃ answers, part = .store now host port answers ∧
      resolvedIps network answers host port = .ok ips := by
  cases part with
  | look time otherHost otherPort => cases stores
  | store time otherHost otherPort answers =>
      simp only [CallSection.event] at stores
      split at stores
      · rename_i resolved
        cases stores
        exact ⟨answers, rfl, resolved⟩
      · cases stores

theorem storedLately_of_served {event : Event (String × Option Nat) (List Address) Int}
    (isServed : served (dnsCache network sections) event = some ips)
    (isKey : event.key = (host, port)) :
    event = .store event.now (host, port) ips ∨
      StoredLately network sections event.now host port ips := by
  have source := exists_store_of_served isServed
  rw [isKey] at source
  rcases source with ⟨now, rfl⟩ | ⟨stored, earlier, inTime⟩
  · exact Or.inl rfl
  · obtain ⟨origin, member, stores⟩ := List.mem_filterMap.1 earlier
    obtain ⟨answers, rfl, resolved⟩ := callSection_of_event stores
    exact Or.inr ⟨stored, answers, member, resolved, inTime⟩

theorem freshlyResolved_of_resolveIpsCached
    (answered : resolveIpsCached network before course host port = .ok ips) :
    FreshlyResolved network before course host port ips := by
  unfold resolveIpsCached at answered
  split at answered
  · rename_i found isServed
    obtain rfl := Except.ok.inj answered
    rcases storedLately_of_served isServed rfl with isStore | lately
    · cases isStore
    · exact Or.inr (Or.inl lately)
  · obtain ⟨own, resolved, isServed⟩ := bind_eq_ok_iff.1 answered
    obtain ⟨shown, isShown⟩ : ∃ shown, served
        (dnsCache network (before ++ .look course.lookedAt host port :: course.between))
        (.store course.storedAt (host, port) own) = some shown := ⟨_, rfl⟩
    obtain rfl : shown = ips := by
      simpa only [isShown, Option.getD_some] using Except.ok.inj isServed
    rcases storedLately_of_served isShown rfl with isOwn | ⟨stored, answers, member, lately⟩
    · cases isOwn
      exact Or.inl resolved
    · refine Or.inr (Or.inr ⟨stored, answers, ?_, lately⟩)
      simpa using member

/-- A call has stored the public address of the host. -/
def sampleSections : List CallSection :=
  [.store 0 "hooks.example" none sampleAnswers]

/-- Half a minute later the resolver would answer otherwise. -/
def sampleCourse : CallCourse where
  lookedAt := 30000000000
  answers _ _ := some [some "10.0.0.1"]
  between := []
  storedAt := 31000000000

end Caching

end OutboundUrls

end WebhookWise
