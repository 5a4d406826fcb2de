import Mathlib
import SchemaKeeper.Proofs.Url.Authority
import SchemaKeeper.Proofs.Url.Ipv4
import SchemaKeeper.Proofs.Url.Ipv6
import SchemaKeeper.Proofs.Url.Percent

/-!
# Hosts in normal form

Whatever the spelling of a host, reading it gives a normal form, and a host in
normal form is read back from its text.  So a second reading changes nothing.
-/

namespace SchemaKeeper.Url

/-! ## Plain names -/

variable {name chars : List Char} {host : Host}

/-- A name that is read as it stands: in lower case, without escapes and with proper labels. -/
structure IsPlainName (name : List Char) : Prop where
  allowed : ∀ c ∈ name, isForbiddenInDomain c = false
  lower : name.map Char.toLower = name
  labels : Label.areWellFormed (splitAt '.' name) = true
  nonempty : name ≠ []

theorem toNat_lt_of_allowed {c : Char} (h : isForbiddenInDomain c = false) : c.toNat < 0x7F := by
  simp only [isForbiddenInDomain, Bool.or_eq_false_iff, decide_eq_false_iff_not, Nat.not_le] at h
  exact h.2

theorem IsPlainName.percentDecode (h : IsPlainName name) :
    percentDecode (Text.encodeUtf8 name) = Text.encodeUtf8 name := by
  refine percentDecode_eq_self ?_
  have hascii : ∀ c ∈ name, c.toNat < 0x80 := fun c hc =>
    Nat.lt_trans (toNat_lt_of_allowed (h.allowed c hc)) (by decide)
  rw [Text.encodeUtf8_eq_map hascii, List.mem_map]
  rintro ⟨c, hc, hpercent⟩
  have hcode := congrArg UInt8.toNat hpercent
  rw [UInt8.toNat_ofNat_of_lt' (Nat.lt_trans (hascii c hc) (by decide))] at hcode
  obtain rfl : c = '%' := Char.toNat_inj.mp hcode
  exact absurd (h.allowed _ hc) (by decide)

theorem IsPlainName.parse (h : IsPlainName name) :
    Host.parse name =
      if endsInNumber name then (parseIpv4 name).map .ipv4
      else .ok (.domain (String.ofList name)) := by
  have hopen : name.head? ≠ some '[' := fun hhead =>
    absurd (h.allowed _ (List.mem_of_mem_head? hhead)) (by decide)
  have hread : Text.decodeUtf8 (Url.percentDecode (Text.encodeUtf8 name)) =
      .ok (String.ofList name) := by
    rw [h.percentDecode]
    simpa using Text.decodeUtf8_encodeUtf8 (String.ofList name)
  have hallowed : name.any isForbiddenInDomain = false := by simpa using h.allowed
  unfold Host.parse
  rw [if_neg hopen, hread]
  dsimp only
  rw [String.toList_ofList, h.lower, hallowed, h.labels]
  simp [h.nonempty]

theorem isPlainName_ipv4Text (address : Nat) : IsPlainName (ipv4Text address).toList := by
  constructor
  · exact forall_mem_ipv4Text (by decide) (by decide) address
  · have hlower : ∀ c ∈ (ipv4Text address).toList, c.toLower = id c :=
      forall_mem_ipv4Text (by decide) (by decide) address
    rw [List.map_congr_left hlower, List.map_id]
  · have hdigits : ∀ label ∈ ipv4Parts address, Label.isEncoded label = false := by
      intro label hlabel
      obtain ⟨n, -, rfl⟩ := List.mem_map.mp hlabel
      obtain ⟨d, ds, hds⟩ := List.exists_cons_of_ne_nil (@Nat.toDigits_ne_nil n 10)
      have hd := isDecimal_of_mem_toDigits n d (by simp [hds])
      have hx : ('x' == d) = false := by
        rw [beq_eq_false_iff_ne]
        rintro rfl
        exact absurd hd (by decide)
      simp [Label.isEncoded, hds, List.isPrefixOf, hx]
    unfold Label.areWellFormed
    rw [splitAt_ipv4Text, if_neg]
    simpa using hdigits
  · rw [toList_ipv4Text]
    simp [ipv4Parts, ipv4Bytes, List.intercalate_cons_cons, Nat.toDigits_ne_nil]

/-! ## Hosts -/

def Host.IsNormal : Host → Prop
  | .domain name => IsPlainName name.toList ∧ endsInNumber name.toList = false
  | .ipv4 address => address < addressBound
  | .ipv6 groups => IsIpv6 groups

theorem isNormal_of_parse (h : Host.parse chars = .ok host) : host.IsNormal := by
  unfold Host.parse at h
  split at h
  · split at h
    · obtain ⟨groups, hgroups, rfl⟩ := map_eq_ok_iff.mp h
      exact isIpv6_of_parseIpv6 hgroups
    · cases h
  · split at h
    · cases h
    next text _ =>
      dsimp only at h
      split at h
      · cases h
      next hproper =>
        split at h
        · cases h
        next hne =>
          simp only [Bool.or_eq_true, not_or, Bool.not_eq_true, Bool.not_eq_eq_eq_not] at hproper
          split at h
          · obtain ⟨address, haddress, rfl⟩ := map_eq_ok_iff.mp h
            exact parseIpv4_lt haddress
          next hdomain =>
            obtain rfl := Except.ok.inj h
            refine ⟨⟨?_, ?_, ?_, ?_⟩, ?_⟩
            all_goals rw [String.toList_ofList]
            · simpa using hproper.1
            · simp [Char.toLower_toLower_eq_toLower]
            · simpa using hproper.2
            · simpa using hne
            · simpa using hdomain

theorem toList_toText_ipv6 (groups : List Nat) :
    (Host.ipv6 groups).toText.toList = '[' :: ((ipv6Text groups).toList ++ [']']) := by
  simp [Host.toText]

/-- All hosts but those in brackets are written as plain names. -/
theorem Host.IsNormal.plain_or_ipv6 (h : host.IsNormal) :
    IsPlainName host.toText.toList ∨ ∃ groups, host = .ipv6 groups := by
  cases host with
  | domain name => exact .inl h.1
  | ipv4 address => exact .inl (isPlainName_ipv4Text address)
  | ipv6 groups => exact .inr ⟨groups, rfl⟩

/-- A host is told by its text. -/
theorem parse_toText (h : host.IsNormal) : Host.parse host.toText.toList = .ok host := by
  cases host with
  | domain name =>
      obtain ⟨hplain, hname⟩ := h
      rw [Host.toText, hplain.parse, hname]
      simp
  | ipv4 address =>
      rw [Host.toText, (isPlainName_ipv4Text address).parse, endsInNumber_ipv4Text, if_pos rfl,
        parseIpv4_ipv4Text h]
      rfl
  | ipv6 groups =>
      have hbracketed : bracketed ('[' :: ((ipv6Text groups).toList ++ [']'])) =
          some (ipv6Text groups).toList := by
        simp [bracketed]
      rw [toList_toText_ipv6, Host.parse, if_pos List.head?_cons, hbracketed]
      dsimp only
      rw [parseIpv6_ipv6Text h]
      rfl

end SchemaKeeper.Url
