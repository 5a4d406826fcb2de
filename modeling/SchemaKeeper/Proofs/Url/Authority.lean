import SchemaKeeper.Url

/-!
# Addresses and their authorities

A text of a scheme, an authority and a path is taken apart where it was put
together, and the authority decides what is found in it.
-/

namespace SchemaKeeper.Url

variable {scheme : String} {front authority tail : List Char}

/-- The schemes under which clusters are reached. -/
def IsHttp (scheme : String) : Prop :=
  scheme = "http" ∨ scheme = "https"

/-- A character that stays where it is in an authority. -/
def InAuthority (c : Char) : Prop :=
  0x20 < c.toNat ∧ endsAuthority true c = false

instance : DecidablePred InAuthority := fun c =>
  inferInstanceAs (Decidable (0x20 < c.toNat ∧ endsAuthority true c = false))

/-- An authority is followed by nothing or by a path. -/
def BeginsPath (tail : List Char) : Prop :=
  tail = [] ∨ ∃ more, tail = '/' :: more

/-! ## Ends of texts -/

theorem dropWhile_reverse_path (p : Char → Bool) (hslash : p '/' = false) (more : List Char) :
    ∃ kept, ((('/' :: more).reverse.dropWhile p).reverse) = '/' :: kept := by
  rw [List.reverse_cons, List.dropWhile_append]
  split
  · exact ⟨[], by simp [hslash]⟩
  · exact ⟨(more.reverse.dropWhile p).reverse, by simp⟩

/-- Only what follows the authority can be trimmed. -/
theorem clean_append (hne : front ≠ []) (hfront : ∀ c ∈ front, 0x20 < c.toNat)
    (htail : BeginsPath tail) :
    ∃ rest, clean (String.ofList (front ++ tail)) = front ++ rest ∧ BeginsPath rest ∧
      (tail = [] → rest = []) := by
  have hkept : ∀ chars : List Char, chars ≠ [] → (∀ c ∈ chars, 0x20 < c.toNat) →
      ∀ more, (chars ++ more).dropWhile (fun c => decide (c.toNat ≤ 0x20)) = chars ++ more := by
    intro chars hchars hall more
    obtain ⟨c, chars, rfl⟩ := List.exists_cons_of_ne_nil hchars
    have hc := hall c List.mem_cons_self
    rw [List.cons_append, List.dropWhile_cons_of_neg (by simpa using hc)]
  have hfilter : front.filter (fun c => !(c == '\t' || c == '\n' || c == '\r')) = front := by
    rw [List.filter_eq_self]
    intro c hc
    have hlarge := hfront c hc
    have hother {d : Char} (hd : d.toNat ≤ 0x20) : (c == d) = false := by
      rw [beq_eq_false_iff_ne]
      rintro rfl
      omega
    rw [hother (by decide), hother (by decide), hother (by decide)]
    rfl
  unfold clean
  dsimp only
  rw [String.toList_ofList, hkept front hne hfront]
  rcases htail with rfl | ⟨more, rfl⟩
  · refine ⟨[], ?_, .inl rfl, fun _ => rfl⟩
    have hback := hkept front.reverse (by simpa using hne) (by simpa using hfront) []
    simp only [List.append_nil] at hback ⊢
    rw [hback, List.reverse_reverse, hfilter]
  · obtain ⟨kept, hkeptTail⟩ :=
      dropWhile_reverse_path (fun c => decide (c.toNat ≤ 0x20)) (by decide) more
    refine ⟨('/' :: kept).filter fun c => !(c == '\t' || c == '\n' || c == '\r'), ?_,
      .inr ⟨_, List.filter_cons_of_pos (by decide)⟩, fun h => absurd h (by simp)⟩
    have hback : ((front ++ '/' :: more).reverse.dropWhile fun c => decide (c.toNat ≤ 0x20)).reverse =
        front ++ '/' :: kept := by
      rw [← hkeptTail, List.reverse_append, List.dropWhile_append]
      split
      next hempty =>
        rw [List.isEmpty_iff] at hempty
        rw [hempty] at hkeptTail
        simp at hkeptTail
      next => simp
    rw [hback, List.filter_append, hfilter]

/-! ## Schemes -/

theorem splitScheme_http (hscheme : IsHttp scheme) (rest : List Char) :
    splitScheme (scheme.toList ++ ':' :: rest) = some (scheme, rest) := by
  rcases hscheme with rfl | rfl <;> rfl

theorem isSpecial_http (hscheme : IsHttp scheme) : isSpecial scheme = true := by
  rcases hscheme with rfl | rfl <;> decide

theorem inScheme_http (hscheme : IsHttp scheme) : ∀ c ∈ scheme.toList, 0x20 < c.toNat := by
  have hall : scheme.toList.all (fun c => 0x20 < c.toNat) = true := by
    rcases hscheme with rfl | rfl <;> decide
  simpa using hall

/-! ## Authorities -/

theorem map_eq_ok_iff {ε α β : Type} {result : Except ε α} {f : α → β} {b : β} :
    result.map f = .ok b ↔ ∃ a, result = .ok a ∧ f a = b := by
  cases result <;> simp [Except.map]

/-- What stands behind user name and password. -/
def hostAndPort (scheme : String) (chars : List Char) : Except UrlError (Host × Option UInt16) :=
  let name := hostChars false chars
  if name.isEmpty then .error .emptyHost
  else do
    let host ← Host.parse name
    let port ← parsePort scheme (chars.drop name.length).tail
    return (host, port)

theorem parseAuthority_http (hscheme : IsHttp scheme) (authority rest : List Char) :
    parseAuthority scheme authority rest =
      (hostAndPort scheme (splitUserInfo authority).2).map fun (host, port) =>
        let (username, password) := splitPassword ((splitUserInfo authority).1.getD [])
        ⟨username, password, host, port⟩ := by
  unfold parseAuthority hostAndPort
  simp only [isSpecial_http hscheme]
  generalize splitUserInfo authority = split
  obtain ⟨userInfo, behind⟩ := split
  dsimp only
  cases hname : hostChars false behind with
  | nil =>
      simp only [List.isEmpty_nil, Bool.and_self, if_true]
      split <;> rfl
  | cons c name =>
      have hbehind : behind ≠ [] := by
        rintro rfl
        cases hname
      simp only [List.isEmpty_iff, hbehind, false_and, and_false, if_false, List.isEmpty_cons,
        Bool.and_false, Bool.false_eq_true]
      cases Host.parse (c :: name) with
      | error e => rfl
      | ok host =>
          change ((parsePort scheme (behind.drop (c :: name).length).tail).bind _) =
            ((parsePort scheme (behind.drop (c :: name).length).tail).bind _).map _
          cases parsePort scheme (behind.drop (c :: name).length).tail <;> rfl

theorem takeWhile_reverse (h : '@' ∉ authority) (more : List Char) :
    (authority.reverse ++ more).takeWhile (· != '@') =
      authority.reverse ++ more.takeWhile (· != '@') := by
  refine List.takeWhile_append_of_pos fun c hc => ?_
  rw [bne_iff_ne]
  rintro rfl
  exact h (List.mem_reverse.mp hc)

theorem splitUserInfo_of_not_mem (h : '@' ∉ authority) :
    splitUserInfo authority = (none, authority) := by
  have hbehind := takeWhile_reverse h []
  simp only [List.append_nil, List.takeWhile_nil] at hbehind
  simp [splitUserInfo, hbehind]

theorem splitUserInfo_append (h : '@' ∉ authority) (userInfo : List Char) :
    splitUserInfo (userInfo ++ '@' :: authority) = (some userInfo, authority) := by
  have hbehind : (userInfo ++ '@' :: authority).reverse.takeWhile (· != '@') =
      authority.reverse := by
    rw [List.reverse_append, List.reverse_cons, List.append_assoc, takeWhile_reverse h]
    simp
  have hlength : (userInfo ++ '@' :: authority).length = userInfo.length + authority.length + 1 := by
    simp
    omega
  unfold splitUserInfo
  dsimp only
  rw [hbehind, List.reverse_reverse, hlength, if_neg (by omega)]
  rw [show userInfo.length + authority.length + 1 - authority.length - 1 = userInfo.length by omega,
    List.take_left]

/-! ## Addresses -/

/-- The text of an address. -/
def addressText (scheme : String) (authority tail : List Char) : String :=
  String.ofList (scheme.toList ++ ':' :: '/' :: '/' :: (authority ++ tail))

theorem not_slash_of_inAuthority {c : Char} (h : InAuthority c) :
    (c == '/' || c == '\\') = false := by
  have hends := h.2
  simp only [endsAuthority, Bool.or_eq_false_iff, Bool.true_and] at hends
  simp [hends.1.1.1, hends.2]

theorem takeWhile_authority (hauthority : ∀ c ∈ authority, InAuthority c)
    (htail : BeginsPath tail) :
    (authority ++ tail).takeWhile (fun c => !endsAuthority true c) = authority := by
  have hkept : ∀ c ∈ authority, (!endsAuthority true c) = true := by
    intro c hc
    simp [(hauthority c hc).2]
  rw [List.takeWhile_append_of_pos hkept]
  rcases htail with rfl | ⟨more, rfl⟩
  · simp
  · rw [List.takeWhile_cons_of_neg (by decide), List.append_nil]

/-- An address is read as its scheme and what its authority is read as. -/
theorem parse_addressText (hscheme : IsHttp scheme)
    (hauthority : ∀ c ∈ authority, InAuthority c) (htail : BeginsPath tail)
    (hempty : authority = [] → tail = []) :
    ∃ rest, parse (addressText scheme authority tail) =
      (hostAndPort scheme (splitUserInfo authority).2).map fun (host, port) =>
        let (username, password) := splitPassword ((splitUserInfo authority).1.getD [])
        ⟨scheme, username, password, some host, port, normalPath true (splitTail rest).path,
          (splitTail rest).query, (splitTail rest).fragment⟩ := by
  have hfront : ∀ c ∈ scheme.toList ++ ':' :: '/' :: '/' :: authority, 0x20 < c.toNat := by
    simp only [List.mem_append, List.mem_cons]
    rintro c (hc | rfl | rfl | rfl | hc)
    · exact inScheme_http hscheme c hc
    · decide
    · decide
    · decide
    · exact (hauthority c hc).1
  obtain ⟨rest, hclean, hrest, hnil⟩ := clean_append (by simp) hfront htail
  have htext : addressText scheme authority tail =
      String.ofList (scheme.toList ++ ':' :: '/' :: '/' :: authority ++ tail) := by
    simp [addressText]
  have hslashes : ('/' :: '/' :: (authority ++ rest)).dropWhile (fun c => c == '/' || c == '\\') =
      authority ++ rest := by
    rw [List.dropWhile_cons_of_pos (by decide), List.dropWhile_cons_of_pos (by decide)]
    cases authority with
    | nil => simp [hnil (hempty rfl)]
    | cons c authority =>
        have hc := not_slash_of_inAuthority (hauthority c List.mem_cons_self)
        rw [List.cons_append, List.dropWhile_cons_of_neg (by simp [hc])]
  have hfile : scheme ≠ "file" := by
    rintro rfl
    rcases hscheme with h | h <;> exact absurd h (by decide)
  have hparse : parse (addressText scheme authority tail) =
      parseHierarchical scheme (authority ++ rest) := by
    unfold parse
    rw [htext, hclean, List.append_assoc]
    simp only [List.cons_append]
    rw [splitScheme_http hscheme]
    simp only [if_neg hfile, isSpecial_http hscheme, if_true]
    rw [hslashes]
  refine ⟨rest, ?_⟩
  rw [hparse]
  unfold parseHierarchical
  simp only [isSpecial_http hscheme, takeWhile_authority hauthority hrest, List.drop_left,
    parseAuthority_http hscheme]
  cases hostAndPort scheme (splitUserInfo authority).2 <;> rfl

theorem parse_of_hostAndPort (hscheme : IsHttp scheme)
    (hauthority : ∀ c ∈ authority, InAuthority c) (htail : BeginsPath tail)
    (hempty : authority = [] → tail = []) {host : Host} {port : Option UInt16}
    (h : hostAndPort scheme (splitUserInfo authority).2 = .ok (host, port)) :
    ∃ url, parse (addressText scheme authority tail) = .ok url ∧ url.scheme = scheme ∧
      url.host = some host ∧ url.port = port ∧
      (url.username, url.password) = splitPassword ((splitUserInfo authority).1.getD []) := by
  obtain ⟨rest, hparse⟩ := parse_addressText hscheme hauthority htail hempty
  rw [h] at hparse
  exact ⟨_, hparse, rfl, rfl, rfl, rfl⟩

theorem hostAndPort_of_parse (hscheme : IsHttp scheme)
    (hauthority : ∀ c ∈ authority, InAuthority c) (htail : BeginsPath tail)
    (hempty : authority = [] → tail = []) {url : Url}
    (h : parse (addressText scheme authority tail) = .ok url) :
    ∃ host port, hostAndPort scheme (splitUserInfo authority).2 = .ok (host, port) ∧
      url.scheme = scheme ∧ url.host = some host ∧ url.port = port := by
  obtain ⟨rest, hparse⟩ := parse_addressText hscheme hauthority htail hempty
  rw [h] at hparse
  obtain ⟨⟨host, port⟩, hfound, rfl⟩ := map_eq_ok_iff.mp hparse.symm
  exact ⟨host, port, hfound, rfl, rfl, rfl⟩

end SchemaKeeper.Url
