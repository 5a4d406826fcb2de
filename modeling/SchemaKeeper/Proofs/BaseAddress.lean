import SchemaKeeper.Proofs.Credentials
import SchemaKeeper.Proofs.Url.Host
import SchemaKeeper.Transport

/-!
# The address that is contacted

A connection is compared and stored as a scheme, a host and a port, and requests
go to an address that is made of them.  That address is read as the same scheme,
host and port, however the address was spelled in which they were found.
-/

namespace SchemaKeeper

namespace Url

variable {scheme text : String} {host : Host} {name digits tail : List Char} {url : Url}

/-! ## Texts of hosts -/

theorem inAuthority_of_allowed {c : Char} (h : isForbiddenInDomain c = false) :
    InAuthority c ∧ c ≠ '@' ∧ c ≠ ':' ∧ c ≠ '[' := by
  have hother {d : Char} (hd : isForbiddenInDomain d = true) : c ≠ d := by
    rintro rfl
    rw [h] at hd
    cases hd
  have hends : endsAuthority true c = false := by
    simp [endsAuthority, @hother '/' (by decide), @hother '?' (by decide), @hother '#' (by decide),
      @hother '\\' (by decide)]
  have hblank : c.toNat ≠ 0x20 := fun hcode => @hother ' ' (by decide) (Char.toNat_inj.mp hcode)
  have hcontrol : 0x20 ≤ c.toNat := by
    simp only [isForbiddenInDomain, Bool.or_eq_false_iff, decide_eq_false_iff_not, Nat.not_lt] at h
    exact h.1.2
  exact ⟨⟨by omega, hends⟩, hother (by decide), hother (by decide), hother (by decide)⟩

theorem inAuthority_toText (h : host.IsNormal) :
    ∀ c ∈ host.toText.toList, InAuthority c ∧ c ≠ '@' := by
  rcases h.plain_or_ipv6 with hplain | ⟨groups, rfl⟩
  · intro c hc
    have hallowed := inAuthority_of_allowed (hplain.allowed c hc)
    exact ⟨hallowed.1, hallowed.2.1⟩
  · rw [toList_toText_ipv6, List.forall_mem_cons, List.forall_mem_append,
      List.forall_mem_singleton]
    exact ⟨by decide, forall_mem_ipv6Text (by decide) (by decide) groups, by decide⟩

theorem toText_ne_empty (h : host.IsNormal) : host.toText ≠ "" := by
  rcases h.plain_or_ipv6 with hplain | ⟨groups, rfl⟩
  · simpa using hplain.nonempty
  · simp [Host.toText]

theorem hostText_of_host (hhost : url.host = some host) (h : host.IsNormal) :
    url.hostText = some host.toText := by
  rw [hostText, hhost]
  exact if_neg (toText_ne_empty h)

/-! ## Hosts before ports -/

theorem hostChars_append (h : ∀ c ∈ name, c ≠ ':' ∧ c ≠ '[') (rest : List Char) :
    hostChars false (name ++ ':' :: rest) = name := by
  induction name with
  | nil => simp [hostChars]
  | cons c name ih =>
      obtain ⟨hc, hname⟩ := List.forall_mem_cons.mp h
      simp [hostChars, hc, ih hname]

/-- Colons in brackets belong to the host. -/
theorem hostChars_inBrackets (h : ']' ∉ name) (rest : List Char) :
    hostChars true (name ++ ']' :: ':' :: rest) = name ++ [']'] := by
  induction name with
  | nil => simp [hostChars]
  | cons c name ih =>
      rw [List.mem_cons, not_or] at h
      simp [hostChars, Ne.symm h.1, ih h.2]

theorem hostChars_toText (h : host.IsNormal) (rest : List Char) :
    hostChars false (host.toText.toList ++ ':' :: rest) = host.toText.toList := by
  rcases h.plain_or_ipv6 with hplain | ⟨groups, rfl⟩
  · exact hostChars_append
      (fun c hc => (inAuthority_of_allowed (hplain.allowed c hc)).2.2) rest
  · have hother : ∀ c ∈ (ipv6Text groups).toList, c ≠ ']' :=
      forall_mem_ipv6Text (by decide) (by decide) groups
    have hinside : ']' ∉ (ipv6Text groups).toList := fun hmem => hother _ hmem rfl
    simp [toList_toText_ipv6, hostChars, hostChars_inBrackets hinside]

/-! ## Ports -/

theorem le_foldl_digits (n : Nat) (digits : List Char) :
    n ≤ digits.foldl (fun n d => n * 10 + digitValue d) n := by
  induction digits generalizing n with
  | nil => exact Nat.le_refl n
  | cons d digits ih => exact Nat.le_trans (by omega) (ih (n * 10 + digitValue d))

/-- No number in front is larger than the whole, so the bound is never passed. -/
theorem parsePort_value {n : Nat} (hdigits : ∀ d ∈ digits, isDecimal d = true)
    (hfits : digits.foldl (fun n d => n * 10 + digitValue d) n < 65536) :
    parsePort.value n digits = .ok (digits.foldl (fun n d => n * 10 + digitValue d) n) := by
  induction digits generalizing n with
  | nil => rfl
  | cons d digits ih =>
      obtain ⟨hd, hdigits⟩ := List.forall_mem_cons.mp hdigits
      have hmark : d ≠ '\\' := by
        rintro rfl
        exact absurd hd (by decide)
      rw [List.foldl_cons] at hfits ⊢
      have hfront := Nat.lt_of_le_of_lt (le_foldl_digits _ digits) hfits
      rw [parsePort.value, if_neg hmark, if_pos hd]
      dsimp only
      rw [if_pos hfront, ih hdigits hfits]

theorem parsePort_toDigits (scheme : String) (port : UInt16) :
    parsePort scheme (Nat.toDigits 10 port.toNat) =
      .ok (if defaultPort scheme = some port then none else some port) := by
  have hvalue : valueOf 10 (Nat.toDigits 10 port.toNat) = port.toNat :=
    valueOf_toDigits (by decide) (by decide) _
  have hread := @parsePort_value _ 0 (isDecimal_of_mem_toDigits port.toNat)
    (hvalue.trans_lt port.toNat_lt)
  have hempty : (Nat.toDigits 10 port.toNat).isEmpty = false := by
    simp [Nat.toDigits_ne_nil]
  unfold valueOf at hvalue
  unfold parsePort
  rw [hempty, hread, hvalue]
  simp [bind, Except.bind, pure, Except.pure]

/-! ## Endpoints -/

/-- A host and its port as an authority. -/
def endpointText (host : String) (port : UInt16) : List Char :=
  host.toList ++ ':' :: Nat.toDigits 10 port.toNat

theorem inAuthority_endpointText (h : host.IsNormal) (port : UInt16) :
    ∀ c ∈ endpointText host.toText port, InAuthority c ∧ c ≠ '@' := by
  have hdigits : ∀ c ∈ ':' :: Nat.toDigits 10 port.toNat, InAuthority c ∧ c ≠ '@' := by
    rw [List.forall_mem_cons]
    exact ⟨by decide, forall_mem_toDigits (by decide) (by decide) port.toNat⟩
  exact List.forall_mem_append.mpr ⟨inAuthority_toText h, hdigits⟩

theorem hostAndPort_endpointText (h : host.IsNormal) (port : UInt16) :
    hostAndPort scheme (endpointText host.toText port) =
      .ok (host, if defaultPort scheme = some port then none else some port) := by
  have hempty : host.toText.toList.isEmpty = false := by
    simpa using toText_ne_empty h
  unfold hostAndPort endpointText
  dsimp only
  rw [hostChars_toText h, hempty, parse_toText h, List.drop_left, List.tail_cons,
    parsePort_toDigits]
  rfl

theorem portOrDefault_of_port {port : UInt16}
    (h : url.port = if defaultPort url.scheme = some port then none else some port) :
    url.portOrDefault = some port := by
  unfold portOrDefault
  rw [h]
  split
  next hdefault => exact hdefault
  next => rfl

/-- The endpoint of an address is the one it was made of, whatever path follows. -/
theorem parse_endpointText (hscheme : IsHttp scheme) (h : host.IsNormal) (port : UInt16)
    (htail : BeginsPath tail) :
    ∃ url, parse (addressText scheme (endpointText host.toText port) tail) = .ok url ∧
      url.scheme = scheme ∧ url.hostText = some host.toText ∧ url.portOrDefault = some port ∧
      url.username = "" ∧ url.password = none := by
  have hauthority := inAuthority_endpointText h port
  have hsplit := splitUserInfo_of_not_mem fun hmem => (hauthority _ hmem).2 rfl
  have hfound : hostAndPort scheme (splitUserInfo (endpointText host.toText port)).2 =
      .ok (host, if defaultPort scheme = some port then none else some port) := by
    rw [hsplit]
    exact hostAndPort_endpointText h port
  obtain ⟨url, hparse, rfl, hhost, hport, huserInfo⟩ := parse_of_hostAndPort hscheme
    (fun c hc => (hauthority c hc).1) htail (by simp [endpointText]) hfound
  rw [hsplit] at huserInfo
  obtain ⟨husername, hpassword⟩ := Prod.mk.inj huserInfo
  exact ⟨url, hparse, rfl, hostText_of_host hhost h, portOrDefault_of_port hport, husername,
    hpassword⟩

/-! ## Hosts of addresses -/

theorem isNormal_of_hostAndPort {chars : List Char} {port : Option UInt16}
    (h : hostAndPort scheme chars = .ok (host, port)) : host.IsNormal := by
  unfold hostAndPort at h
  dsimp only at h
  split at h
  · cases h
  · cases hhost : Host.parse (hostChars false chars) with
    | error e =>
        rw [hhost] at h
        cases h
    | ok found =>
        rw [hhost] at h
        obtain ⟨_, -, hpair⟩ := map_eq_ok_iff.mp h
        obtain ⟨rfl, -⟩ := Prod.mk.inj hpair
        exact isNormal_of_parse hhost

theorem scheme_of_parseHierarchical {chars : List Char}
    (h : parseHierarchical scheme chars = .ok url) : url.scheme = scheme := by
  unfold parseHierarchical at h
  obtain ⟨_, -, rfl⟩ := map_eq_ok_iff.mp h
  rfl

theorem scheme_of_parseFile {chars : List Char} (h : parseFile chars = .ok url) :
    url.scheme = "file" := by
  unfold parseFile at h
  dsimp only at h
  split at h
  · split at h
    · split at h
      · obtain rfl := Except.ok.inj h
        rfl
      · obtain ⟨_, -, rfl⟩ := map_eq_ok_iff.mp h
        rfl
    · obtain rfl := Except.ok.inj h
      rfl
  · obtain rfl := Except.ok.inj h
    rfl

theorem isNormal_of_parseHierarchical (hscheme : IsHttp scheme) {chars : List Char}
    (h : parseHierarchical scheme chars = .ok url) :
    ∃ host, url.host = some host ∧ host.IsNormal := by
  unfold parseHierarchical at h
  obtain ⟨authority, hauthority, rfl⟩ := map_eq_ok_iff.mp h
  rw [parseAuthority_http hscheme] at hauthority
  obtain ⟨⟨host, port⟩, hfound, rfl⟩ := map_eq_ok_iff.mp hauthority
  exact ⟨host, rfl, isNormal_of_hostAndPort hfound⟩

/-- However an address of a cluster is spelled, its host is in normal form. -/
theorem exists_isNormal_of_parse (h : parse text = .ok url) (hscheme : IsHttp url.scheme) :
    ∃ host, url.host = some host ∧ host.IsNormal := by
  unfold parse at h
  split at h
  · cases h
  next scheme rest _ =>
    have hspecial := isSpecial_http hscheme
    split at h
    next =>
      rw [scheme_of_parseFile h] at hscheme
      rcases hscheme with hscheme | hscheme <;> exact absurd hscheme (by decide)
    next =>
      split at h
      next =>
        rw [scheme_of_parseHierarchical h] at hscheme
        exact isNormal_of_parseHierarchical hscheme h
      next hopaque =>
        split at h
        next =>
          rw [scheme_of_parseHierarchical h] at hspecial
          exact absurd hspecial hopaque
        next =>
          obtain rfl := Except.ok.inj h
          exact absurd hspecial hopaque

end Url

namespace Connection

open Url

variable {uri : String} {c : Connection}

theorem baseUrl_eq (c : Connection) :
    c.baseUrl = addressText c.scheme (endpointText c.host c.port) [] := by
  apply String.toList_injective
  simp [baseUrl, addressText, endpointText, toString]

/-- What is known of a connection whose address was read. -/
theorem exists_isNormal_of_ofUri (h : ofUri uri = .ok c) :
    IsHttp c.scheme ∧ c.version = none ∧ ∃ host : Host, host.IsNormal ∧ c.host = host.toText := by
  obtain ⟨url, hparse, hscheme, hhostText, -, hc, hversion, -⟩ := exists_of_ofUri h
  obtain ⟨host, hhost, hnormal⟩ := exists_isNormal_of_parse hparse hscheme
  rw [hostText_of_host hhost hnormal] at hhostText
  exact ⟨hc ▸ hscheme, hversion, host, hnormal, (Option.some.inj hhostText).symm⟩

theorem ofUri_baseUrl (h : ofUri uri = .ok c) :
    ofUri c.baseUrl = .ok { c with username := none, password := none } := by
  obtain ⟨hscheme, hversion, host, hnormal, hhost⟩ := exists_isNormal_of_ofUri h
  obtain ⟨url, hparse, hschemes, hhostText, hport, husername, hpassword⟩ :=
    parse_endpointText hscheme hnormal c.port (.inl rfl)
  rw [← hhost, ← baseUrl_eq] at hparse
  rw [← hhost] at hhostText
  rw [ofUri_of_parse hparse, ofUrl_http (hschemes ▸ hscheme) hhostText hport, husername, hpassword,
    hschemes, hversion]
  rfl

/-! ## Requests -/

/-- The address ends in a digit, so nothing of it is trimmed. -/
theorem baseUrl_ofConnection (c : Connection) (options : TransportOptions) :
    (Transport.ofConnection c options).baseUrl = c.baseUrl := by
  obtain ⟨digits, digit, hdigits⟩ :=
    List.eq_nil_or_concat (Nat.toDigits 10 c.port.toNat) |>.resolve_left Nat.toDigits_ne_nil
  have hslash : (digit == '/') = false := by
    rw [beq_eq_false_iff_ne]
    rintro rfl
    exact absurd (isDecimal_of_mem_toDigits c.port.toNat '/' (by simp [hdigits])) (by decide)
  rw [baseUrl_eq]
  apply String.toList_injective
  simp [Transport.ofConnection, baseUrl_eq, addressText, endpointText, hdigits, hslash]

/-- A request for a path goes to the endpoint of its connection. -/
theorem request_ofConnection (h : ofUri uri = .ok c) (options : TransportOptions)
    (verb : Wire.Verb) (path : String) (body : Option String) :
    ∃ url, url.scheme = c.scheme ∧ url.hostText = some c.host ∧ url.portOrDefault = some c.port ∧
      (Transport.ofConnection c options).request verb ("/" ++ path) body =
        if c.host.toList.any Transport.isBarred then
          .error (.transport s!"builder error for url ({url.withoutUserInfo})")
        else .ok ⟨verb, url, c.username.map fun name => (name, c.password), body⟩ := by
  obtain ⟨hscheme, -, host, hnormal, hhost⟩ := exists_isNormal_of_ofUri h
  obtain ⟨url, hparse, hschemes, hhostText, hport, -, -⟩ :=
    parse_endpointText hscheme hnormal c.port (.inr ⟨path.toList, rfl⟩)
  rw [← hhost] at hparse hhostText
  have htext : c.baseUrl ++ ("/" ++ path) =
      addressText c.scheme (endpointText c.host c.port) ('/' :: path.toList) := by
    apply String.toList_injective
    simp [baseUrl_eq, addressText]
  refine ⟨url, hschemes, hhostText, hport, ?_⟩
  unfold Transport.request
  rw [baseUrl_ofConnection, htext, hparse]
  dsimp only
  rw [Transport.namesHost, hhostText, Option.getD_some]
  cases c.host.toList.any Transport.isBarred <;> rfl

/--
The scheme, host and port of a connection are those of the address that requests
go to, and that address is a normal spelling: read as an address itself, it gives
the same connection without credentials.  This is about hosts in ASCII: others,
written out or percent-encoded, are refused by `Url.Host.parse` and never come to
a connection, where a reader with tables of international names would map them.
-/
theorem checked_address_contacted (h : ofUri uri = .ok c) :
    (c.scheme = "http" ∨ c.scheme = "https") ∧ c.host ≠ "" ∧
    ofUri c.baseUrl = .ok { c with username := none, password := none } ∧
    ∀ options, (Transport.ofConnection c options).baseUrl = c.baseUrl ∧
      ∀ verb path body,
        ∃ url, url.scheme = c.scheme ∧ url.hostText = some c.host ∧
          url.portOrDefault = some c.port ∧
          (Transport.ofConnection c options).request verb ("/" ++ path) body =
            if c.host.toList.any Transport.isBarred then
              .error (.transport s!"builder error for url ({url.withoutUserInfo})")
            else .ok ⟨verb, url, c.username.map fun name => (name, c.password), body⟩ := by
  obtain ⟨hscheme, -, host, hnormal, hhost⟩ := exists_isNormal_of_ofUri h
  exact ⟨hscheme, hhost ▸ toText_ne_empty hnormal, ofUri_baseUrl h, fun options =>
    ⟨baseUrl_ofConnection c options, request_ofConnection h options⟩⟩

/-- Capitals, backslashes, an IPv4 address of two parts and a default port with a leading zero. -/
theorem odd_spelling_contacted :
    let c : Connection := ⟨"http", "127.0.0.1", 80, some "el", some "p:w", none⟩
    ofUri "HTTP:\\el:p%3Aw@0X7F.1:080" = .ok c ∧
      ofUri "http://127.0.0.1:80" = .ok ⟨"http", "127.0.0.1", 80, none, none, none⟩ ∧
      ∀ options path, ∃ url, url.scheme = "http" ∧ url.hostText = some "127.0.0.1" ∧
        url.portOrDefault = some 80 ∧
        (Transport.ofConnection c options).request .get ("/" ++ path) none =
          .ok ⟨.get, url, some ("el", some "p:w"), none⟩ := by
  intro c
  have hread : ofUri "HTTP:\\el:p%3Aw@0X7F.1:080" = .ok c := by decide +kernel
  have htext : c.baseUrl = "http://127.0.0.1:80" := by decide +kernel
  have hbarred : c.host.toList.any Transport.isBarred = false := by decide +kernel
  obtain ⟨-, -, hbase, hcontacted⟩ := checked_address_contacted hread
  rw [htext] at hbase
  refine ⟨hread, hbase, fun options path => ?_⟩
  obtain ⟨url, hscheme, hhost, hport, hrequest⟩ := (hcontacted options).2 .get path none
  rw [hbarred] at hrequest
  exact ⟨url, hscheme, hhost, hport, hrequest⟩

end Connection

end SchemaKeeper
