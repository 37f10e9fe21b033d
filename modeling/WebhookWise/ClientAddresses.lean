import WebhookWise.RuleMatching

/-!
# The address of a client

`get_client_ip` believes `X-Forwarded-For` and `X-Real-IP` if the request comes from a trusted
proxy, and takes the first entry of the header that is an address.  A proxy appends the address
of its own peer to what the client has sent, so the client's own entries come first.

The parsers of the module `ipaddress` are a parameter.
-/

namespace WebhookWise

namespace ClientAddresses

/-- The module `ipaddress`; `none` stands for `ValueError`. -/
structure IpModule (Address Network : Type) where
  ipAddress : String → Option Address
  printed : Address → String
  /-- `ip_network(item, strict=False)`. -/
  ipNetwork : String → Option Network
  contains : Network → Address → Bool

/-- What the functions read of `config.security`. -/
structure SecuritySettings where
  trustProxyHeaders : Bool
  trustedProxyCidrs : String
  webhookRateLimitPerMinute : Int
  webhookRateLimitBurst : Int
  webhookRateLimitGlobalPerMinute : Int

/-- A request: its peer, and its headers under their names in lower case. -/
structure Request where
  clientHost : Option String
  headers : PyDict String

section Addresses

variable {Address Network : Type} (ip : IpModule Address Network) (security : SecuritySettings)

def parseProxyCidrs (raw : String) : List (String × Option Network) :=
  (((splitOnCommas raw).map strip).filter (· ≠ "")).map fun item => (item, ip.ipNetwork item)

def isTrustedProxy (clientHost : Option String) : Bool :=
  match clientHost with
  | none => false
  | some host =>
      if host = "" || ! security.trustProxyHeaders then false
      else
        let entries := parseProxyCidrs ip security.trustedProxyCidrs
        match ip.ipAddress host with
        | none => entries.any fun entry => entry.1 = host
        | some address =>
            entries.any fun entry =>
              match entry.2 with
              | some network => ip.contains network address
              | none => entry.1 = host

def firstValidHeaderIp (value : String) : Option String :=
  (splitOnCommas value).findSome? fun raw =>
    let candidate := strip raw
    if candidate = "" then none else (ip.ipAddress candidate).map ip.printed

def headerAddress (request : Request) (name : String) : Option String :=
  ((request.headers.get? name).filter (· ≠ "")).bind (firstValidHeaderIp ip)

def getClientIp (request : Request) : String :=
  if isTrustedProxy ip security request.clientHost then
    ((headerAddress ip request "x-forwarded-for").or
      ((headerAddress ip request "x-real-ip").or request.clientHost)).getD "unknown"
  else request.clientHost.getD "unknown"

/-- The tiers of `enforce_webhook_rate_limit`: the key of a counter, its window and its limit. -/
def rateLimitTiers (request : Request) : List (String × Int × Int) :=
  let clientIp := getClientIp ip security request
  (if 0 < security.webhookRateLimitBurst then
      [("rl:b:" ++ clientIp, 10, security.webhookRateLimitBurst)] else []) ++
    (if 0 < security.webhookRateLimitPerMinute then
      [("rl:s:" ++ clientIp, 60, security.webhookRateLimitPerMinute)] else []) ++
    (if 0 < security.webhookRateLimitGlobalPerMinute then
      [("rl:g", 60, security.webhookRateLimitGlobalPerMinute)] else [])

/-! ## A proxy in front -/

/-- The text under which a proxy knows its own peer. -/
structure PeerAddress where
  text : String
  address : Address
  parses : ip.ipAddress text = some address
  stripped : strip text = text
  notEmpty : text ≠ ""
  oneEntry : ',' ∉ text.toList

def appendedHeader (client : Option String) (peer : String) : String :=
  match client with
  | none => peer
  | some entries => entries ++ ", " ++ peer

def passedOn (request : Request) (client : Option String) (peer : String) : Request :=
  { request with headers := request.headers.set "x-forwarded-for" (appendedHeader client peer) }

/-- The first address among the entries of the client, if there is one, and else that of the
proxy's peer. -/
def claimedAddress (peer : PeerAddress ip) (client : Option String) : String :=
  (client.bind (firstValidHeaderIp ip)).getD (ip.printed peer.address)

end Addresses

theorem strip_space_append (text : String) : strip (" " ++ text) = strip text := by
  have space : isPythonSpace ' ' = true := by decide
  simp [strip, String.toList_append, space]

section Laws

variable {Address Network : Type} {ip : IpModule Address Network} {security : SecuritySettings}

theorem firstValidHeaderIp_peer (peer : PeerAddress ip) :
    firstValidHeaderIp ip peer.text = some (ip.printed peer.address) := by
  rw [firstValidHeaderIp, splitOnCommas_of_notMem peer.oneEntry]
  simp [peer.stripped, peer.notEmpty, peer.parses]

theorem firstValidHeaderIp_append (entries rest : String) :
    firstValidHeaderIp ip (entries ++ "," ++ rest) =
      (firstValidHeaderIp ip entries).or (firstValidHeaderIp ip rest) := by
  simp only [firstValidHeaderIp, splitOnCommas_append_comma, List.findSome?_append]

theorem firstValidHeaderIp_space (value : String) (oneEntry : ',' ∉ value.toList) :
    firstValidHeaderIp ip (" " ++ value) = firstValidHeaderIp ip value := by
  have spaced : ',' ∉ (" " ++ value).toList := by
    simpa [String.toList_append] using oneEntry
  simp only [firstValidHeaderIp, splitOnCommas_of_notMem oneEntry,
    splitOnCommas_of_notMem spaced, List.findSome?_cons, strip_space_append]

theorem firstValidHeaderIp_appendedHeader (peer : PeerAddress ip) (client : Option String) :
    firstValidHeaderIp ip (appendedHeader client peer.text) =
      some (claimedAddress ip peer client) := by
  cases client with
  | none => exact firstValidHeaderIp_peer peer
  | some entries =>
      have joined : entries ++ ", " ++ peer.text = entries ++ "," ++ (" " ++ peer.text) := by
        simp only [String.append_assoc]
        rfl
      simp only [appendedHeader, claimedAddress, Option.bind_some]
      rw [joined, firstValidHeaderIp_append, firstValidHeaderIp_space _ peer.oneEntry,
        firstValidHeaderIp_peer]
      cases firstValidHeaderIp ip entries <;> rfl

theorem appendedHeader_ne_empty (peer : PeerAddress ip) (client : Option String) :
    appendedHeader client peer.text ≠ "" := by
  cases client with
  | none => exact peer.notEmpty
  | some entries =>
      intro empty
      have characters := congrArg String.toList empty
      simp [appendedHeader] at characters

theorem getClientIp_passedOn (request : Request) (peer : PeerAddress ip) (client : Option String) :
    getClientIp ip security (passedOn request client peer.text) =
      if isTrustedProxy ip security request.clientHost then claimedAddress ip peer client
      else request.clientHost.getD "unknown" := by
  have header : headerAddress ip (passedOn request client peer.text) "x-forwarded-for" =
      some (claimedAddress ip peer client) := by
    simp only [headerAddress, passedOn, PyDict.get?_set, if_pos, Option.filter_some,
      appendedHeader_ne_empty peer client, ne_eq, not_false_eq_true, decide_true, Option.bind_some,
      firstValidHeaderIp_appendedHeader]
  simp only [getClientIp, header, Option.some_or, Option.getD_some]
  rfl

theorem rateLimitTiers_eq_iff (first second : Request) :
    rateLimitTiers ip security first = rateLimitTiers ip security second ↔
      (0 < security.webhookRateLimitBurst ∨ 0 < security.webhookRateLimitPerMinute →
        getClientIp ip security first = getClientIp ip security second) := by
  constructor
  · intro same counts
    by_cases burst : 0 < security.webhookRateLimitBurst
    · simp only [rateLimitTiers, if_pos burst, List.cons_append, List.nil_append,
        List.cons.injEq, Prod.mk.injEq, and_true] at same
      exact String.append_right_inj _ |>.1 same.1
    · have perMinute := counts.resolve_left burst
      simp only [rateLimitTiers, if_neg burst, if_pos perMinute, List.cons_append,
        List.nil_append, List.cons.injEq, Prod.mk.injEq, and_true] at same
      exact String.append_right_inj _ |>.1 same
  · intro same
    by_cases counts : 0 < security.webhookRateLimitBurst ∨ 0 < security.webhookRateLimitPerMinute
    · simp only [rateLimitTiers, same counts]
    · obtain ⟨burst, perMinute⟩ := not_or.1 counts
      simp only [rateLimitTiers, if_neg burst, if_neg perMinute]

/-- Behind a trusted proxy the client is given the first address that it puts before the proxy's
entry, or the entry itself.  Nothing else that it puts there matters, and nothing at all if the
peer of the service is not a trusted proxy. -/
theorem same_address_iff (request : Request) (peer : PeerAddress ip)
    (first second : Option String) :
    (getClientIp ip security (passedOn request first peer.text) =
      if isTrustedProxy ip security request.clientHost then claimedAddress ip peer first
      else request.clientHost.getD "unknown") ∧
    (getClientIp ip security (passedOn request first peer.text) =
        getClientIp ip security (passedOn request second peer.text) ↔
      (isTrustedProxy ip security request.clientHost = true →
        claimedAddress ip peer first = claimedAddress ip peer second)) ∧
    (rateLimitTiers ip security (passedOn request first peer.text) =
        rateLimitTiers ip security (passedOn request second peer.text) ↔
      (0 < security.webhookRateLimitBurst ∨ 0 < security.webhookRateLimitPerMinute →
        isTrustedProxy ip security request.clientHost = true →
          claimedAddress ip peer first = claimedAddress ip peer second)) := by
  have sameAddress : getClientIp ip security (passedOn request first peer.text) =
      getClientIp ip security (passedOn request second peer.text) ↔
        (isTrustedProxy ip security request.clientHost = true →
          claimedAddress ip peer first = claimedAddress ip peer second) := by
    rw [getClientIp_passedOn, getClientIp_passedOn]
    by_cases trusted : isTrustedProxy ip security request.clientHost = true <;> simp [trusted]
  exact ⟨getClientIp_passedOn request peer first, sameAddress,
    by rw [rateLimitTiers_eq_iff, sameAddress]⟩

end Laws

/-! ## IPv4 -/

def octet? (text : String) : Option Nat :=
  let digits := text.toList
  if digits.all Char.isDigit && 0 < digits.length && digits.length ≤ 3 &&
      (digits.length = 1 || digits.head? ≠ some '0') then
    let value := digits.foldl (fun value digit => value * 10 + (digit.toNat - '0'.toNat)) 0
    if value ≤ 255 then some value else none
  else none

def ipv4Address? (text : String) : Option Nat :=
  match (RuleMatching.splitWhere (· = '.') text).mapM octet? with
  | some [first, second, third, fourth] =>
      some (((first * 256 + second) * 256 + third) * 256 + fourth)
  | _ => none

def ipv4Network? (text : String) : Option (Nat × Nat) :=
  match RuleMatching.splitWhere (· = '/') text with
  | [address] => (ipv4Address? address).map fun value => (value, 32)
  | [address, length] =>
      (ipv4Address? address).bind fun value =>
        ((octet? length).filter (· ≤ 32)).map fun bits => (value, bits)
  | _ => none

/-- The module `ipaddress` on texts of IPv4 addresses and networks. -/
def ipv4Module : IpModule Nat (Nat × Nat) where
  ipAddress := ipv4Address?
  printed value :=
    ".".intercalate ([value / 16777216, value / 65536 % 256, value / 256 % 256, value % 256].map
      toString)
  ipNetwork := ipv4Network?
  contains network address :=
    address / 2 ^ (32 - network.2) = network.1 / 2 ^ (32 - network.2)

def localProxyTrusted : SecuritySettings where
  trustProxyHeaders := true
  trustedProxyCidrs := "127.0.0.1/32,::1/128"
  webhookRateLimitPerMinute := 60
  webhookRateLimitBurst := 0
  webhookRateLimitGlobalPerMinute := 0

private theorem officePeer_parses : ipv4Module.ipAddress "203.0.113.7" = some 3405803783 := by
  decide

private theorem officePeer_stripped : strip "203.0.113.7" = "203.0.113.7" := by
  decide

private theorem officePeer_notEmpty : "203.0.113.7" ≠ "" := by
  decide

private theorem officePeer_oneEntry : ',' ∉ "203.0.113.7".toList := by
  decide

def officePeer : PeerAddress ipv4Module where
  text := "203.0.113.7"
  address := 3405803783
  parses := officePeer_parses
  stripped := officePeer_stripped
  notEmpty := officePeer_notEmpty
  oneEntry := officePeer_oneEntry

/-- A client that sends an `X-Forwarded-For` of its own gets the address it names there. -/
theorem client_chooses_address :
    ¬ ∀ first second : Option String,
      getClientIp ipv4Module localProxyTrusted
          (passedOn ⟨some "127.0.0.1", []⟩ first officePeer.text) =
        getClientIp ipv4Module localProxyTrusted
          (passedOn ⟨some "127.0.0.1", []⟩ second officePeer.text) := by
  intro independent
  have chosen := independent none (some "1.2.3.4")
  revert chosen
  decide

end ClientAddresses

end WebhookWise
