import SchemaKeeper.Json.Printer
import SchemaKeeper.Proofs.Json.Reading

/-!
# Scalars are read as they are printed

Strings and whole numbers come back as they were.  Of a double it is shown that
its text, if it is read at all, is read to its end and as a double; whether it
comes back as the same double is a question about rounding.
-/

namespace SchemaKeeper.Json

namespace Reader

/-! ## Strings -/

theorem hexUnit_control {n : Nat} (h : n < 32) (rest : List Char) :
    hexUnit ('0' :: '0' :: hexDigit (n / 16) :: hexDigit (n % 16) :: rest) = .value n rest := by
  have hall : ∀ n : Fin 32,
      fourHexDigits '0' '0' (hexDigit (n / 16)) (hexDigit (n % 16)) = some n.val := by
    decide
  have hn : fourHexDigits '0' '0' (hexDigit (n / 16)) (hexDigit (n % 16)) = some n :=
    hall ⟨n, h⟩
  simp [hexUnit, hn]

theorem unicodeEscape_control {n : Nat} (h : n < 32) (rest : List Char) :
    unicodeEscape ('0' :: '0' :: hexDigit (n / 16) :: hexDigit (n % 16) :: rest) =
      .value (Char.ofNat n) rest := by
  have htrailing : isTrailing n = false := by
    simp [isTrailing]
    omega
  have hleading : isLeading n = false := by
    simp [isLeading]
    omega
  unfold unicodeEscape
  change bind hexUnit _ _ = _
  rw [bind, hexUnit_control h]
  simp [htrailing, hleading]
  rfl

/-- A character stands for itself, or behind a backslash stands what it is read from. -/
theorem escapeChar_cases (c : Char) :
    escapeChar c = [c] ∧ c ≠ '"' ∧ c ≠ '\\' ∧ ¬c.toNat < 32 ∨
      ∃ escaped, escapeChar c = '\\' :: escaped ∧
        ∀ rest, escape (escaped ++ rest) = .value c rest := by
  have hnat {n : Nat} (h : c.toNat = n) : c = Char.ofNat n := h ▸ (Char.ofNat_toNat c).symm
  by_cases hquote : c = '"'
  · subst hquote
    exact .inr ⟨['"'], rfl, fun _ => rfl⟩
  by_cases hbackslash : c = '\\'
  · subst hbackslash
    exact .inr ⟨['\\'], rfl, fun _ => rfl⟩
  by_cases hnewline : c = '\n'
  · subst hnewline
    exact .inr ⟨['n'], rfl, fun _ => rfl⟩
  by_cases hreturn : c = '\r'
  · subst hreturn
    exact .inr ⟨['r'], rfl, fun _ => rfl⟩
  by_cases htab : c = '\t'
  · subst htab
    exact .inr ⟨['t'], rfl, fun _ => rfl⟩
  by_cases hbackspace : c.toNat = 8
  · rw [hnat hbackspace]
    exact .inr ⟨['b'], rfl, fun _ => rfl⟩
  by_cases hfeed : c.toNat = 12
  · rw [hnat hfeed]
    exact .inr ⟨['f'], rfl, fun _ => rfl⟩
  by_cases hcontrol : c.toNat < 32
  · have htext : escapeChar c =
        ['\\', 'u', '0', '0', hexDigit (c.toNat / 16), hexDigit (c.toNat % 16)] := by
      simp only [escapeChar, hquote, hbackslash, hnewline, hreturn, htab, hbackspace, hfeed,
        hcontrol, if_true, if_false]
    have hread := unicodeEscape_control hcontrol
    simp only [Char.ofNat_toNat] at hread
    exact .inr ⟨_, htext, hread⟩
  · refine .inl ⟨?_, hquote, hbackslash, hcontrol⟩
    simp only [escapeChar, hquote, hbackslash, hnewline, hreturn, htab, hbackspace, hfeed,
      hcontrol, if_false]

theorem length_le_escaped (cs : List Char) : cs.length ≤ (cs.flatMap escapeChar).length := by
  induction cs with
  | nil => simp
  | cons c cs ih =>
      have hc : 1 ≤ (escapeChar c).length := by
        rcases escapeChar_cases c with ⟨h, -⟩ | ⟨escaped, h, -⟩ <;> simp [h]
      simp only [List.flatMap_cons, List.length_append, List.length_cons]
      omega

theorem untilQuote_escaped (cs rest done : List Char) {fuel : Nat} (h : cs.length < fuel) :
    untilQuote escape fuel done (cs.flatMap escapeChar ++ '"' :: rest) =
      .value (done.reverse ++ cs) rest := by
  induction cs generalizing done fuel with
  | nil =>
      cases fuel with
      | zero => simp at h
      | succ fuel => simp [untilQuote]
  | cons c cs ih =>
      cases fuel with
      | zero => simp at h
      | succ fuel =>
          have hfuel : cs.length < fuel := by simpa using h
          have hrest := ih (c :: done) hfuel
          rcases escapeChar_cases c with ⟨hc, hquote, hbackslash, hcontrol⟩ | ⟨escaped, hc, hescape⟩
          · simp [hc, untilQuote, hquote, hbackslash, hcontrol, hrest]
          · simp [hc, untilQuote, hescape, hrest]

theorem stringTail_quoted (s : String) (rest : List Char) :
    stringTail (s.toList.flatMap escapeChar ++ '"' :: rest) = .value s rest := by
  have hfuel : s.toList.length < (s.toList.flatMap escapeChar ++ '"' :: rest).length + 1 := by
    have hlength := length_le_escaped s.toList
    simp only [List.length_append]
    omega
  rw [stringTail, untilQuote_escaped _ _ _ hfuel]
  simp

/-! ## Digits -/

theorem isDigit_eq (c : Char) : isDigit c = c.isDigit := by
  simp [isDigit, Char.isDigit, Char.le_def]

theorem isDigit_of_mem_toDigits {n : Nat} {c : Char} (h : c ∈ Nat.toDigits 10 n) :
    isDigit c = true := by
  rw [isDigit_eq]
  exact Nat.isDigit_of_mem_toDigits (by decide) (by decide) h

theorem head_toDigits_ne_zero {n : Nat} (h : n ≠ 0) :
    ∃ d ds, Nat.toDigits 10 n = d :: ds ∧ d ≠ '0' := by
  induction n using Nat.strongRecOn with
  | ind n ih =>
      rw [Nat.toDigits_eq_if (by decide)]
      split
      next hsmall =>
        have hall : ∀ n : Fin 10, n.val ≠ 0 → Nat.digitChar n.val ≠ '0' := by decide
        exact ⟨_, [], rfl, hall ⟨n, hsmall⟩ h⟩
      next hlarge =>
        obtain ⟨d, ds, hds, hd⟩ := ih (n / 10) (by omega) (by omega)
        exact ⟨d, ds ++ [Nat.digitChar (n % 10)], by simp [hds], hd⟩

/-- Where a number may end: no character follows that would belong to it. -/
def Delimited (rest : List Char) : Prop :=
  ∀ c ∈ rest.head?, isDigit c = false ∧ c ≠ '.' ∧ c ≠ 'e' ∧ c ≠ 'E'

theorem takeWhile_digits {ds : List Char} (hds : ∀ d ∈ ds, isDigit d = true) (rest : List Char)
    (hrest : ∀ c ∈ rest.head?, isDigit c = false) :
    (ds ++ rest).takeWhile isDigit = ds ∧ (ds ++ rest).dropWhile isDigit = rest := by
  induction ds with
  | nil =>
      cases rest with
      | nil => simp
      | cons c rest =>
          have hc := hrest c rfl
          simp [hc]
  | cons d ds ih =>
      have hd := hds d List.mem_cons_self
      have htail := ih fun d h => hds d (List.mem_cons_of_mem _ h)
      simp [hd, htail]

/-! ## Whole numbers -/

theorem le_ofDigitChars (ds : List Char) (significand : Nat) :
    significand ≤ Nat.ofDigitChars 10 ds significand := by
  induction ds generalizing significand with
  | nil => simp
  | cons d ds ih =>
      rw [Nat.ofDigitChars_cons]
      have hlonger := ih (10 * significand + (d.toNat - '0'.toNat))
      omega

theorem append_eq {ds : List Char} {significand : Nat}
    (h : Nat.ofDigitChars 10 ds significand < significandBound) :
    Scaled.append significand ds = (Nat.ofDigitChars 10 ds significand, []) := by
  induction ds generalizing significand with
  | nil => rfl
  | cons d ds ih =>
      rw [Nat.ofDigitChars_cons] at h ⊢
      have hlonger : significand * 10 + digitValue d = 10 * significand + (d.toNat - '0'.toNat) := by
        unfold digitValue
        omega
      have hbound := Nat.lt_of_le_of_lt (le_ofDigitChars ds _) h
      simp only [Scaled.append, hlonger, hbound, if_true]
      exact ih h

theorem meets_numberTail_end {good : Number → List Char → Prop} {bad : Prop} {rest : List Char}
    (hrest : Delimited rest) (negative : Bool) {s : Scaled}
    (h : good (wholeNumber negative s.significand) rest) :
    (numberTail negative s false rest).Meets good bad := by
  unfold numberTail
  cases rest with
  | nil => simpa [isExponentLetter] using h
  | cons c rest =>
      obtain ⟨-, hpoint, hlower, hupper⟩ := hrest c rfl
      simpa [isExponentLetter, hpoint, hlower, hupper] using h

theorem meets_numberAfterSign_whole {good : Number → List Char → Prop} {bad : Prop} {n : Nat}
    (hn : n < significandBound) {rest : List Char} (hrest : Delimited rest) (negative : Bool)
    (h : good (wholeNumber negative n) rest) :
    (numberAfterSign negative (Nat.toDigits 10 n ++ rest)).Meets good bad := by
  have hend (s : Scaled) (hs : s.significand = n) :
      (numberTail negative s false rest).Meets good bad :=
    meets_numberTail_end hrest negative (by rwa [hs])
  by_cases hzero : n = 0
  · subst hzero
    have hstop := hend ⟨0, 0⟩ rfl
    rw [Nat.toDigits_zero]
    cases rest with
    | nil => simpa [numberAfterSign] using hstop
    | cons c rest => simpa [numberAfterSign, (hrest c rfl).1] using hstop
  · obtain ⟨d, ds, hds, hd⟩ := head_toDigits_ne_zero hzero
    have hdigits : ∀ c ∈ d :: ds, isDigit c = true := by
      intro c hc
      rw [← hds] at hc
      exact isDigit_of_mem_toDigits hc
    have hscan := takeWhile_digits hdigits rest fun c hc => (hrest c hc).1
    have hvalue : Scaled.append 0 (d :: ds) = (n, []) := by
      rw [← hds, append_eq] <;> rw [Nat.ofDigitChars_ten_toDigits]
      exact hn
    have hstop := hend ⟨n, 0⟩ rfl
    rw [List.cons_append] at hscan
    simpa [hds, numberAfterSign, hd, hdigits d List.mem_cons_self, hscan, hvalue] using hstop

theorem number_of_unsigned {chars : List Char} (h : chars.head? ≠ some '-') :
    number chars = numberAfterSign false chars := by
  unfold number
  split
  next => simp at h
  next => rfl

theorem meets_number_integer {n : Int} (hn : (Number.integer n).inRange) {rest : List Char}
    (hrest : Delimited rest) :
    (number ((Number.integer n).toChars ++ rest)).Meets
      (fun m left => left = rest ∧ m = .integer n) False := by
  simp only [Number.inRange, Number.leastInteger, Number.integerBound] at hn
  have hbound : n.natAbs < significandBound := by
    simp only [significandBound]
    omega
  by_cases hneg : n < 0
  · have hwhole : wholeNumber true n.natAbs = .integer n := by
      have hsmall : ¬(n.natAbs = 0 ∨ 0x8000000000000000 < n.natAbs) := by omega
      have hvalue : -(n.natAbs : Int) = n := by omega
      simp only [wholeNumber, if_true, if_neg hsmall, hvalue]
    simp only [Number.toChars, hneg, if_true, List.cons_append, number]
    exact meets_numberAfterSign_whole hbound hrest true ⟨rfl, hwhole⟩
  · have hwhole : wholeNumber false n.natAbs = .integer n := by
      have hvalue : (n.natAbs : Int) = n := by omega
      simp [wholeNumber, hvalue]
    have hunsigned : (Nat.toDigits 10 n.natAbs ++ rest).head? ≠ some '-' := by
      obtain ⟨d, ds, hds⟩ := List.exists_cons_of_ne_nil (Nat.toDigits_ne_nil (n := n.natAbs) (b := 10))
      have hd := isDigit_of_mem_toDigits (n := n.natAbs) (c := d) (by simp [hds])
      rw [hds]
      rintro heq
      obtain rfl := Option.some.inj heq
      simp [isDigit] at hd
    simp only [Number.toChars, hneg, if_false]
    rw [number_of_unsigned hunsigned]
    exact meets_numberAfterSign_whole hbound hrest false ⟨rfl, hwhole⟩

/-! ## Doubles -/

inductive ExponentText : List Char → Prop where
  | none : ExponentText []
  | some (sign : Char) (ds : List Char) (hsign : sign = '+' ∨ sign = '-')
      (hds : ∀ d ∈ ds, isDigit d = true) : ExponentText ('e' :: sign :: ds)

/-- What makes the text of a number that of a double: a fraction, or at least an exponent. -/
inductive DoubleTail : List Char → Prop where
  | fraction (ds exponent : List Char) (hds : ∀ d ∈ ds, isDigit d = true)
      (hexponent : ExponentText exponent) : DoubleTail ('.' :: ds ++ exponent)
  | exponent (sign : Char) (ds : List Char) (hsign : sign = '+' ∨ sign = '-')
      (hds : ∀ d ∈ ds, isDigit d = true) : DoubleTail ('e' :: sign :: ds)

theorem meets_and {r : Reader α} {P : α → Prop} {Q : List Char → Prop} {chars : List Char}
    (hvalue : r.Gives P) (hrest : (r chars).Meets (fun _ left => Q left) True) :
    (r chars).Meets (fun a left => Q left ∧ P a) True := by
  have hgood := hvalue chars
  cases hread : r chars with
  | value a rest =>
      rw [hread] at hgood hrest
      exact ⟨hrest, hgood⟩
  | fault f rest => trivial

theorem finishDouble_leaves (negative : Bool) (s : Scaled) (rest : List Char) :
    (finishDouble negative s rest).Meets (fun _ left => left = rest) True := by
  unfold finishDouble
  cases s.toDouble with
  | none => trivial
  | some x => rfl

theorem exponentTail_leaves {sign : Char} {ds rest : List Char} (hsign : sign = '+' ∨ sign = '-')
    (hds : ∀ d ∈ ds, isDigit d = true) (hrest : Delimited rest) (negative : Bool) (s : Scaled) :
    (exponentTail negative s (sign :: ds ++ rest)).Meets (fun _ left => left = rest) True := by
  have hscan := takeWhile_digits hds rest fun c hc => (hrest c hc).1
  have hread : ∃ downward, exponentSign (sign :: ds ++ rest) = .value downward (ds ++ rest) := by
    rcases hsign with rfl | rfl
    · exact ⟨false, rfl⟩
    · exact ⟨true, rfl⟩
  obtain ⟨downward, hdownward⟩ := hread
  unfold exponentTail
  rw [meets_bind, hdownward]
  change ((digits >>= _) (ds ++ rest)).Meets _ _
  rw [meets_bind, meets_digits, hscan.1, hscan.2]
  cases ds with
  | nil =>
      rw [meets_bind, meets_peek]
      cases rest.head? <;> trivial
  | cons d ds =>
      dsimp only
      obtain ⟨exponent, unread⟩ := exponentOf 0 (d :: ds)
      cases exponent with
      | some exponent => exact finishDouble_leaves ..
      | none => exact meets_ite (fun _ => trivial) fun _ => rfl

theorem fractionTail_leaves {ds exponent rest : List Char} (hds : ∀ d ∈ ds, isDigit d = true)
    (hexponent : ExponentText exponent) (hrest : Delimited rest) (negative : Bool) (s : Scaled) :
    (fractionTail negative s (ds ++ (exponent ++ rest))).Meets (fun _ left => left = rest) True := by
  have hstop : ∀ c ∈ (exponent ++ rest).head?, isDigit c = false := by
    cases hexponent with
    | none => exact fun c hc => (hrest c hc).1
    | some sign ds => simp [isDigit]
  have hscan := takeWhile_digits hds (exponent ++ rest) hstop
  unfold fractionTail
  rw [meets_bind, meets_digits, hscan.1, hscan.2]
  cases ds with
  | nil =>
      rw [meets_bind, meets_peek]
      cases (exponent ++ rest).head? <;> trivial
  | cons d ds =>
      change ((peek >>= _) _).Meets _ _
      rw [meets_bind, meets_peek]
      cases hexponent with
      | none =>
          have hletter : isExponentLetter rest.head? = false := by
            cases rest with
            | nil => rfl
            | cons c rest =>
                obtain ⟨-, -, hlower, hupper⟩ := hrest c rfl
                simp [isExponentLetter, hlower, hupper]
          simp only [List.nil_append, hletter]
          exact finishDouble_leaves ..
      | some sign more hsign hmore =>
          change ((skip >>= _) _).Meets _ _
          rw [meets_bind, meets_skip]
          exact exponentTail_leaves hsign hmore hrest negative _

theorem meets_numberTail_double {tail rest : List Char} (htail : DoubleTail tail)
    (hrest : Delimited rest) (negative long : Bool) (s : Scaled) :
    (numberTail negative s long (tail ++ rest)).Meets
      (fun m left => left = rest ∧ IsDouble m) True := by
  unfold numberTail
  rw [meets_bind, meets_peek]
  cases htail with
  | fraction ds exponent hds hexponent =>
      change ((skip >>= _) _).Meets _ _
      rw [meets_bind, meets_skip]
      have hleft := fractionTail_leaves hds hexponent hrest negative s
      rw [← List.append_assoc] at hleft
      exact meets_and ((gives_fractionTail negative s).mono fun _ h => h.isDouble) hleft
  | exponent sign ds hsign hds =>
      change ((skip >>= _) _).Meets _ _
      rw [meets_bind, meets_skip]
      exact meets_and ((gives_exponentTail negative s).mono fun _ h => h.isDouble)
        (exponentTail_leaves hsign hds hrest negative s)

theorem meets_numberAfterSign_double {whole tail rest : List Char}
    (hwhole : ∀ d ∈ whole, isDigit d = true) (htail : DoubleTail tail) (hrest : Delimited rest)
    (negative : Bool) :
    (numberAfterSign negative (whole ++ (tail ++ rest))).Meets
      (fun m left => left = rest ∧ IsDouble m) True := by
  have hstop : ∃ c cs, tail ++ rest = c :: cs ∧ isDigit c = false := by
    cases htail with
    | fraction => exact ⟨_, _, rfl, by decide⟩
    | exponent => exact ⟨_, _, rfl, by decide⟩
  obtain ⟨c, cs, hcs, hc⟩ := hstop
  have htailRead (s : Scaled) (long : Bool) :=
    meets_numberTail_double htail hrest negative long s
  rw [hcs] at htailRead ⊢
  unfold numberAfterSign
  rw [meets_bind, meets_peek]
  cases whole with
  | nil =>
      have hzero : c ≠ '0' := by
        rintro rfl
        simp [isDigit] at hc
      simp [hc, hzero]
  | cons d ds =>
      have hd := hwhole d List.mem_cons_self
      by_cases hzero : d = '0'
      · subst hzero
        simp only [List.cons_append, List.head?_cons, if_true]
        rw [meets_bind, meets_skip, meets_bind, meets_peek]
        cases ds with
        | nil => simpa [hc] using htailRead ⟨0, 0⟩ false
        | cons e es =>
            have he := hwhole e (by simp)
            simp [he]
      · have hscan := takeWhile_digits hwhole (c :: cs) (by simpa using hc)
        simp only [List.cons_append] at hscan
        simp only [List.cons_append, List.head?_cons, hzero, hd, if_false, if_true]
        rw [meets_bind, meets_digits, hscan.1, hscan.2]
        exact htailRead _ _

/-- Digits with a fraction or an exponent. -/
def DoubleText (chars : List Char) : Prop :=
  ∃ whole tail, chars = whole ++ tail ∧ (∀ d ∈ whole, isDigit d = true) ∧ DoubleTail tail

theorem doubleText_positional {digits : List Char} (h : ∀ d ∈ digits, isDigit d = true)
    (power : Int) : DoubleText (Double.positional digits power) := by
  have hzeros (n : Nat) : ∀ d ∈ List.replicate n '0', isDigit d = true := by
    intro d hd
    rw [List.eq_of_mem_replicate hd]
    rfl
  unfold Double.positional
  split
  · refine ⟨digits ++ List.replicate power.toNat '0', ['.', '0'], rfl, ?_, ?_⟩
    · exact fun d hd => (List.mem_append.mp hd).elim (h d) (hzeros _ d)
    · exact .fraction ['0'] [] (by simp [isDigit]) .none
  · dsimp only
    split
    · refine ⟨_, _, rfl, fun d hd => h d (List.mem_of_mem_take hd), ?_⟩
      rw [← List.append_nil ('.' :: _)]
      exact .fraction _ [] (fun d hd => h d (List.mem_of_mem_drop hd)) .none
    · let zeros := List.replicate ((-power).toNat - digits.length) '0'
      refine ⟨['0'], '.' :: (zeros ++ digits) ++ [], by simp [zeros], by simp [isDigit],
        .fraction _ [] ?_ .none⟩
      exact fun d hd => (List.mem_append.mp hd).elim (hzeros _ d) (h d)

theorem doubleText_scientific {digits : List Char} (h : ∀ d ∈ digits, isDigit d = true)
    (exponent : Int) : DoubleText (Double.scientific digits exponent) := by
  have hsign : (if exponent < 0 then '-' else '+') = '+' ∨
      (if exponent < 0 then '-' else '+') = '-' := by
    split <;> simp
  have hexponent : ∀ d ∈ Nat.toDigits 10 exponent.natAbs, isDigit d = true :=
    fun d hd => isDigit_of_mem_toDigits hd
  unfold Double.scientific
  dsimp only
  split
  next first second rest =>
    refine ⟨[first], '.' :: (second :: rest) ++ 'e' :: _ :: _, by simp, ?_,
      .fraction _ _ ?_ (.some _ _ hsign hexponent)⟩
    · exact fun d hd => h d (List.mem_of_mem_take (i := 1) hd)
    · exact fun d hd => h d (List.mem_cons_of_mem _ hd)
  next =>
    exact ⟨digits, 'e' :: _ :: _, by simp, h, .exponent _ _ hsign hexponent⟩

/-- A sign may stand in front of the text of a double. -/
theorem doubleText_toChars (x : Double) :
    ∃ body, DoubleText body ∧ (x.toChars = body ∨ x.toChars = '-' :: body) := by
  have hsigned (body : List Char) : (if x.negative then ['-'] else []) ++ body = body ∨
      (if x.negative then ['-'] else []) ++ body = '-' :: body := by
    cases x.negative <;> simp
  unfold Double.toChars
  dsimp only
  split
  · refine ⟨['0', '.', '0'], ⟨['0'], ['.', '0'], rfl, by simp [isDigit], ?_⟩, hsigned _⟩
    exact .fraction ['0'] [] (by simp [isDigit]) .none
  · refine ⟨_, ?_, hsigned _⟩
    split
    · exact doubleText_positional (fun d hd => isDigit_of_mem_toDigits hd) _
    · exact doubleText_scientific (fun d hd => isDigit_of_mem_toDigits hd) _

theorem meets_number_double (x : Double) {rest : List Char} (hrest : Delimited rest) :
    (number (x.toChars ++ rest)).Meets (fun m left => left = rest ∧ IsDouble m) True := by
  obtain ⟨body, ⟨whole, tail, rfl, hwhole, htail⟩, hchars⟩ := doubleText_toChars x
  have hread (negative : Bool) :=
    meets_numberAfterSign_double hwhole htail hrest negative
  rw [← List.append_assoc] at hread
  rcases hchars with hchars | hchars
  · have hunsigned : ((whole ++ tail) ++ rest).head? ≠ some '-' := by
      cases whole with
      | nil => cases htail <;> simp
      | cons d ds =>
          have hd := hwhole d List.mem_cons_self
          rintro heq
          obtain rfl := Option.some.inj heq
          simp [isDigit] at hd
    rw [hchars, number_of_unsigned hunsigned]
    exact hread false
  · rw [hchars]
    exact hread true

end Reader

end SchemaKeeper.Json
