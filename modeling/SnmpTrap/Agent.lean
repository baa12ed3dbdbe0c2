import SnmpTrap.Positional
import SnmpTrap.Rust.Resolve

/-! The AGENT argument (`resolve_agent_string` in `cli.rs`): which texts name a host and a port,
and when the resolver is asked. -/
namespace SnmpTrap
open Rust
set_option autoImplicit false
set_option maxHeartbeats 250000
set_option maxRecDepth 120000

def defaultTrapPort : UInt16 := 162

def udpPrefix : List Char := ['u', 'd', 'p', ':']

/-- The host and the port to look up. -/
def agentHostPort (agent : String) : Run (String × UInt16) :=
  let stripped := (stripPrefix udpPrefix agent.toList).getD agent.toList
  if stripped.head? = some '[' ∨ 2 ≤ stripped.count ':' then
    usage s!"AGENT '{agent}' looks like IPv6; only IPv4 destinations are supported"
  else match rsplitOnce ':' stripped with
    | some (h, p) =>
      if h ≠ [] ∧ ':' ∉ h then do
        let port ← Outcome.mapErr (fun _ => .usage s!"invalid port in AGENT: {agent}")
          (Outcome.ofExcept (parseU16 p))
        .ok (String.ofList h, port)
      else .ok (String.ofList stripped, defaultTrapPort)
    | none => .ok (String.ofList stripped, defaultTrapPort)

def resolveAgentString (lookupHost : LookupHost IoError) (agent : String) : Run SocketAddrV4 := do
  let (host, port) ← agentHostPort agent
  let addrs ← Outcome.mapErr
    (fun e => .usage s!"could not resolve AGENT '{agent}': {e.message}")
    (Outcome.ofExcept (toSocketAddrs lookupHost host port))
  match addrs.findSome? SocketAddr.asV4 with
  | some v4 => .ok v4
  | none => usage s!"AGENT '{agent}' did not resolve to any IPv4 address"

/-! ## The grammar -/

/-- A port as `u16::from_str` takes it. -/
def PortText (cs : List Char) (port : UInt16) : Prop :=
  IsDecimal cs port.toNat ∨ ∃ ds, cs = '+' :: ds ∧ IsDecimal ds port.toNat

/-- `host` or `host:port`. A text that starts with its only colon is taken for a host. -/
inductive HostPort : List Char → List Char → UInt16 → Prop
  | host {host : List Char} (hhost : ':' ∉ host) : HostPort host host defaultTrapPort
  | hostPort {host portText : List Char} {port : UInt16} (hne : host ≠ []) (hhost : ':' ∉ host)
      (hport : PortText portText port) : HostPort (host ++ ':' :: portText) host port
  | colonFirst {rest : List Char} (hrest : ':' ∉ rest) :
      HostPort (':' :: rest) (':' :: rest) defaultTrapPort

/-- One `udp:` may stand in front, and a bracket may not. -/
def AgentText (agent : String) (host : List Char) (port : UInt16) : Prop :=
  ∃ text, (agent.toList = udpPrefix ++ text ∨
      ¬ udpPrefix <+: agent.toList ∧ agent.toList = text) ∧
    text.head? ≠ some '[' ∧ HostPort text host port

theorem portText_no_colon {cs : List Char} {port : UInt16} (h : PortText cs port) : ':' ∉ cs := by
  have hcolon : ¬ IsDigit ':' := by unfold IsDigit; decide
  obtain ⟨_, hdigits, _⟩ | ⟨ds, rfl, _, hdigits, _⟩ := h
  · exact fun hmem => hcolon (hdigits ':' hmem)
  · intro hmem
    obtain hplus | hmem := List.mem_cons.mp hmem
    · cases hplus
    · exact hcolon (hdigits ':' hmem)

/-- Text of either form has at most one colon. -/
theorem HostPort.colons {text host : List Char} {port : UInt16} (h : HostPort text host port) :
    text.count ':' < 2 ∧ host.count ':' < 2 := by
  cases h with
  | host hhost =>
    rw [List.count_eq_zero_of_not_mem hhost]
    decide
  | hostPort _ hhost hport =>
    rw [List.count_append, List.count_cons_self, List.count_eq_zero_of_not_mem hhost,
      List.count_eq_zero_of_not_mem (portText_no_colon hport)]
    decide
  | colonFirst hrest =>
    rw [List.count_cons_self, List.count_eq_zero_of_not_mem hrest]
    decide

/-- What is left behind a `udp:`. -/
theorem stripped_iff {agent : String} {text : List Char} :
    (stripPrefix udpPrefix agent.toList).getD agent.toList = text ↔
      agent.toList = udpPrefix ++ text ∨ ¬ udpPrefix <+: agent.toList ∧ agent.toList = text := by
  cases hstrip : stripPrefix udpPrefix agent.toList with
  | some rest =>
    have htext := stripPrefix_eq_some_iff.mp hstrip
    rw [Option.getD_some, htext, List.append_cancel_left_eq]
    exact ⟨Or.inl, fun h => h.elim id fun ⟨hno, _⟩ => absurd (List.prefix_append _ _) hno⟩
  | none =>
    have hno : ∀ rest, agent.toList ≠ udpPrefix ++ rest := by
      intro rest hrest
      rw [stripPrefix_eq_some_iff.mpr hrest] at hstrip
      cases hstrip
    rw [Option.getD_none]
    constructor
    · intro h
      exact Or.inr ⟨fun ⟨rest, hrest⟩ => hno rest hrest.symm, h⟩
    · rintro (h | ⟨_, h⟩)
      · exact absurd h (hno text)
      · exact h

theorem ofList_inj {cs ds : List Char} (h : String.ofList cs = String.ofList ds) : cs = ds := by
  have := congrArg String.toList h
  rwa [String.toList_ofList, String.toList_ofList] at this

theorem parseU16_portText {cs : List Char} {port : UInt16} :
    parseU16 cs = .ok port ↔ PortText cs port := parseU16_ok_iff

theorem agentHostPort_ok_iff {agent : String} {host : List Char} {port : UInt16} :
    agentHostPort agent = .ok (String.ofList host, port) ↔ AgentText agent host port := by
  have hform : AgentText agent host port ↔
      (((stripPrefix udpPrefix agent.toList).getD agent.toList).head? ≠ some '[' ∧
        HostPort ((stripPrefix udpPrefix agent.toList).getD agent.toList) host port) := by
    constructor
    · rintro ⟨text, htext, h⟩
      rwa [stripped_iff.mpr htext]
    · intro h
      exact ⟨_, stripped_iff.mp rfl, h⟩
  rw [hform, agentHostPort]
  generalize (stripPrefix udpPrefix agent.toList).getD agent.toList = text
  constructor
  · intro h
    split at h
    · exact absurd h (Outcome.fail_ne_ok _ _)
    · rename_i hlooks
      obtain ⟨hbracket, hcolons⟩ := not_or.mp hlooks
      refine ⟨hbracket, ?_⟩
      split at h
      · rename_i front back hsplit
        obtain ⟨rfl, hback⟩ := rsplitOnce_eq_some_iff.mp hsplit
        split at h
        · rename_i hfront
          obtain ⟨port', hport, h⟩ := Outcome.bind_ok_iff.mp h
          simp only [Except.ok.injEq, Prod.mk.injEq] at h
          obtain ⟨hhost, rfl⟩ := h
          rw [← ofList_inj hhost]
          rw [Outcome.mapErr_ok_iff, Outcome.ofExcept_ok_iff] at hport
          exact .hostPort hfront.1 hfront.2 (parseU16_portText.mp hport)
        · rename_i hfront
          simp only [Except.ok.injEq, Prod.mk.injEq] at h
          obtain ⟨hhost, rfl⟩ := h
          rw [← ofList_inj hhost]
          -- a second colon was refused, so only an empty front is left
          have hempty : front = [] := by
            by_contra hne
            have hcolon : ':' ∈ front := by
              by_contra hno
              exact hfront ⟨hne, hno⟩
            rw [List.count_append, List.count_cons_self] at hcolons
            have := List.count_pos_iff.mpr hcolon
            omega
          subst hempty
          exact .colonFirst hback
      · rename_i hsplit
        simp only [Except.ok.injEq, Prod.mk.injEq] at h
        obtain ⟨hhost, rfl⟩ := h
        rw [← ofList_inj hhost]
        exact .host (rsplitOnce_eq_none_iff.mp hsplit)
  · rintro ⟨hbracket, h⟩
    have hcolons := h.colons.1
    rw [if_neg (not_or.mpr ⟨hbracket, by omega⟩)]
    cases h with
    | host hhost => rw [rsplitOnce_eq_none_iff.mpr hhost]
    | hostPort hne hhost hport =>
      rw [rsplitOnce_append (portText_no_colon hport)]
      simp only
      rw [if_pos ⟨hne, hhost⟩, parseU16_portText.mpr hport]
      rfl
    | colonFirst hrest =>
      have hsplit := rsplitOnce_append hrest []
      rw [List.nil_append] at hsplit
      rw [hsplit]
      simp only
      rw [if_neg fun h => h.1 rfl]

/-! ## Usage errors -/

theorem usageOrOk_agentHostPort (agent : String) : UsageOrOk (agentHostPort agent) := by
  unfold agentHostPort
  simp only
  split
  · exact usageOrOk_usage _
  · split
    · split
      · exact (usageOrOk_mapErr (Outcome.safe_ofExcept _) _ fun e => ⟨_, rfl⟩).bind
          fun port => usageOrOk_ok _
      · exact usageOrOk_ok _
    · exact usageOrOk_ok _

theorem usageOrOk_resolveAgentString (lookupHost : LookupHost IoError) (agent : String) :
    UsageOrOk (resolveAgentString lookupHost agent) := by
  refine (usageOrOk_agentHostPort agent).bind fun p => ?_
  refine (usageOrOk_mapErr (Outcome.safe_ofExcept _) _ fun e => ⟨_, rfl⟩).bind fun addrs => ?_
  split
  · exact usageOrOk_ok _
  · exact usageOrOk_usage _

/-! ## Resolution -/

section Resolution
variable (lookupHost : LookupHost IoError) {agent : String} {host : List Char} {port : UInt16}

theorem resolve_named (h : AgentText agent host port) (addr : SocketAddrV4) :
    resolveAgentString lookupHost agent = .ok addr ↔
      ∃ addrs, toSocketAddrs lookupHost (String.ofList host) port = .ok addrs ∧
        FirstV4 addrs addr := by
  rw [resolveAgentString, agentHostPort_ok_iff.mpr h, Outcome.ok_bind, Outcome.bind_ok_iff]
  simp only [Outcome.mapErr_ok_iff, Outcome.ofExcept_ok_iff]
  refine exists_congr fun addrs => and_congr_right fun _ => ?_
  rw [← findSome_asV4_iff]
  cases addrs.findSome? SocketAddr.asV4 with
  | none => simp [usage, Outcome.fail]
  | some v4 => simp

/-- **The AGENT argument is a host with an optional port.** It resolves to an address exactly where
it has the form and the resolver's first IPv4 answer is that address; anything else is a usage
error. -/
theorem resolveAgentString_iff (agent : String) :
    (∀ addr, resolveAgentString lookupHost agent = .ok addr ↔
      ∃ host port addrs, AgentText agent host port ∧
        toSocketAddrs lookupHost (String.ofList host) port = .ok addrs ∧ FirstV4 addrs addr) ∧
    ((∃ addr, resolveAgentString lookupHost agent = .ok addr) ∨
      ∃ message, resolveAgentString lookupHost agent = usage message) := by
  refine ⟨fun addr => ⟨fun h => ?_, ?_⟩, usageOrOk_resolveAgentString lookupHost agent⟩
  · obtain ⟨⟨host, port⟩, hparts, _⟩ := Outcome.bind_ok_iff.mp h
    rw [← String.ofList_toList (s := host), agentHostPort_ok_iff] at hparts
    obtain ⟨addrs, haddrs, hfirst⟩ := (resolve_named lookupHost hparts addr).mp h
    exact ⟨host.toList, port, addrs, hparts, haddrs, hfirst⟩
  · rintro ⟨host, port, addrs, hform, haddrs, hfirst⟩
    exact (resolve_named lookupHost hform addr).mpr ⟨addrs, haddrs, hfirst⟩

end Resolution

/-! ## Addresses written out -/

theorem not_udpPrefix_display (ip : Ipv4Addr) (rest : List Char) :
    ¬ udpPrefix <+: ip.display.toList ++ rest := by
  rintro ⟨tail, htail⟩
  cases hdisplay : ip.display.toList with
  | nil => exact display_ne_nil ip hdisplay
  | cons c cs =>
    rw [hdisplay, udpPrefix] at htail
    obtain ⟨rfl, _⟩ := List.cons.inj htail
    have hmem : 'u' ∈ ip.display.toList := by
      rw [hdisplay]
      exact List.mem_cons_self
    obtain h | h := mem_display hmem
    · cases h
    · unfold IsDigit at h
      exact absurd h (by decide)

theorem head_display_ne_bracket (ip : Ipv4Addr) (rest : List Char) :
    (ip.display.toList ++ rest).head? ≠ some '[' := by
  rw [List.head?_append_of_ne_nil _ (display_ne_nil ip)]
  intro h
  obtain h | h := mem_display (List.mem_of_head? h)
  · cases h
  · unfold IsDigit at h
    exact absurd h (by decide)

theorem agentText_ip {agent : String} (ip : Ipv4Addr)
    (h : agent = ip.display ∨ agent = "udp:" ++ ip.display) :
    AgentText agent ip.display.toList defaultTrapPort := by
  refine ⟨ip.display.toList, ?_, ?_, .host (display_no_colon ip)⟩
  · obtain rfl | rfl := h
    · have hno := not_udpPrefix_display ip []
      rw [List.append_nil] at hno
      exact Or.inr ⟨hno, rfl⟩
    · exact Or.inl (String.toList_append ..)
  · have hhead := head_display_ne_bracket ip []
    rwa [List.append_nil] at hhead

theorem agentText_socket {agent : String} (addr : SocketAddrV4)
    (h : agent = addr.display ∨ agent = "udp:" ++ addr.display) :
    AgentText agent addr.ip.display.toList addr.port := by
  refine ⟨addr.display.toList, ?_, ?_, ?_⟩
  · obtain rfl | rfl := h
    · refine Or.inr ⟨?_, rfl⟩
      rw [toList_socketDisplay]
      exact not_udpPrefix_display addr.ip _
    · exact Or.inl (String.toList_append ..)
  · rw [toList_socketDisplay]
    exact head_display_ne_bracket addr.ip _
  · rw [toList_socketDisplay]
    exact .hostPort (display_ne_nil addr.ip) (display_no_colon addr.ip)
      (Or.inl (isDecimal_repr addr.port.toNat))

theorem resolve_address (lookupHost : LookupHost IoError) {agent : String} {ip : Ipv4Addr}
    {port : UInt16} (h : AgentText agent ip.display.toList port) :
    resolveAgentString lookupHost agent = .ok ⟨ip, port⟩ := by
  rw [resolve_named lookupHost h, String.ofList_toList, toSocketAddrs_display]
  exact ⟨_, rfl, [], [], rfl, by simp⟩

/-- An IPv6 literal, or anything behind a bracket. -/
def Ipv6Text (text : List Char) : Prop :=
  (∃ groups, parseIpAddr (String.ofList text) = some (.v6 groups)) ∨ text.head? = some '['

theorem Ipv6Text.refused {text : List Char} (h : Ipv6Text text) :
    (text.head? = some '[' ∨ 2 ≤ text.count ':') ∧ ¬ udpPrefix <+: text := by
  obtain ⟨groups, hparse⟩ | hbracket := h
  · refine ⟨Or.inr ?_, ?_⟩
    · have hcolons := colons_of_parseIpAddr hparse
      rwa [String.toList_ofList] at hcolons
    · rintro ⟨tail, rfl⟩
      exact not_v6_of_not_digit (c := 'u') (by decide) (by decide) (by decide)
        (String.toList_ofList ..) groups hparse
  · refine ⟨Or.inl hbracket, ?_⟩
    rintro ⟨tail, rfl⟩
    cases hbracket

theorem agentHostPort_ipv6 {agent : String} {text : List Char} (h : Ipv6Text text)
    (hagent : agent.toList = text ∨ agent.toList = udpPrefix ++ text) :
    ∃ message, agentHostPort agent = usage message := by
  obtain ⟨hlooks, hno⟩ := h.refused
  have hstripped : (stripPrefix udpPrefix agent.toList).getD agent.toList = text := by
    rw [stripped_iff]
    obtain hagent | hagent := hagent
    · exact Or.inr ⟨by rwa [hagent], hagent⟩
    · exact Or.inl hagent
  refine ⟨s!"AGENT '{agent}' looks like IPv6; only IPv4 destinations are supported", ?_⟩
  rw [agentHostPort, hstripped]
  exact if_pos hlooks

/-- **The resolver decides about names only.** An address written out, with or without port and
`udp:`, is used as it is; an IPv6 text is refused; and of all other agents the resolver decides
those that have the form, by its first IPv4 answer for their host and port. -/
theorem resolver_decides_names :
    (∀ (addr : SocketAddrV4) (agent : String) lookupHost,
      agent = addr.display ∨ agent = "udp:" ++ addr.display →
        resolveAgentString lookupHost agent = .ok addr) ∧
    (∀ (ip : Ipv4Addr) (agent : String) lookupHost,
      agent = ip.display ∨ agent = "udp:" ++ ip.display →
        resolveAgentString lookupHost agent = .ok ⟨ip, defaultTrapPort⟩) ∧
    (∀ (text : List Char) (agent : String), Ipv6Text text →
      agent.toList = text ∨ agent.toList = udpPrefix ++ text →
        ∃ message, ∀ lookupHost, resolveAgentString lookupHost agent = usage message) ∧
    ∀ agent : String,
      (∃ message, ∀ lookupHost, resolveAgentString lookupHost agent = usage message) ∨
      (∃ ip port, AgentText agent ip.display.toList port ∧
        ∀ lookupHost, resolveAgentString lookupHost agent = .ok ⟨ip, port⟩) ∨
      ∃ host port, AgentText agent host port ∧ (∀ ip : Ipv4Addr, host ≠ ip.display.toList) ∧
        ∀ lookupHost addr, resolveAgentString lookupHost agent = .ok addr ↔
          ∃ addrs, lookupHost (String.ofList host) port = .ok addrs ∧ FirstV4 addrs addr := by
  have hrefused : ∀ {agent : String} {message : String}, agentHostPort agent = usage message →
      ∀ lookupHost, resolveAgentString lookupHost agent = usage message := by
    intro agent message h lookupHost
    rw [resolveAgentString, h]
    rfl
  refine ⟨fun addr agent lookupHost h => ?_, fun ip agent lookupHost h => ?_,
    fun text agent htext h => ?_, fun agent => ?_⟩
  · exact resolve_address lookupHost (agentText_socket addr h)
  · exact resolve_address lookupHost (agentText_ip ip h)
  · obtain ⟨message, hmessage⟩ := agentHostPort_ipv6 htext h
    exact ⟨message, hrefused hmessage⟩
  · obtain ⟨⟨host, port⟩, hparts⟩ | ⟨message, hmessage⟩ := usageOrOk_agentHostPort agent
    · rw [← String.ofList_toList (s := host), agentHostPort_ok_iff] at hparts
      by_cases hip : ∃ ip : Ipv4Addr, host.toList = ip.display.toList
      · obtain ⟨ip, hip⟩ := hip
        rw [hip] at hparts
        exact Or.inr (Or.inl ⟨ip, port, hparts, fun lookupHost =>
          resolve_address lookupHost hparts⟩)
      · have hname : ∀ ip : Ipv4Addr, host ≠ ip.display := fun ip h => hip ⟨ip, by rw [h]⟩
        obtain ⟨_, _, _, hform⟩ := id hparts
        refine Or.inr (Or.inr ⟨host.toList, port, hparts, fun ip h => hip ⟨ip, h⟩, ?_⟩)
        intro lookupHost addr
        rw [resolve_named lookupHost hparts, String.ofList_toList,
          toSocketAddrs_lookup lookupHost hform.colons.2 hname]
    · exact Or.inl ⟨message, hrefused hmessage⟩

/-- A port, a name, and the only colon in front. -/
example : agentHostPort "udp:trap.example:1620" = .ok ("trap.example", 1620) ∧
    agentHostPort ":162" = .ok (":162", 162) ∧
    agentHostPort "host:" = usage "invalid port in AGENT: host:" := by decide +kernel

end SnmpTrap
