import Mathlib.Data.List.Induction
import Mathlib.Data.List.TakeWhile
import SchemaKeeper.Proofs.Url.Parts

/-!
# IPv6 addresses

An address is eight groups, and it is read back from its text.  The text leaves
out a longest run of zero groups; where it is left out, the reader fills in what
is missing to eight.
-/

namespace SchemaKeeper.Url

variable {groups : List Nat} {chars : List Char}

def groupBound : Nat := 0x10000

structure IsIpv6 (groups : List Nat) : Prop where
  length : groups.length = 8
  groups_lt : ∀ group ∈ groups, group < groupBound

/-! ## Addresses that are read -/

theorem toNat_of_isHexadecimal {c : Char} (h : isHexadecimal c = true) :
    0x30 ≤ c.toNat ∧ c.toNat ≤ 0x39 ∨ 0x61 ≤ c.toNat ∧ c.toNat ≤ 0x66 ∨
      0x41 ≤ c.toNat ∧ c.toNat ≤ 0x46 := by
  simp only [isHexadecimal, isDecimal, Bool.or_eq_true, Bool.and_eq_true, decide_eq_true_eq] at h
  exact or_assoc.mp h

theorem digitValue_lt {c : Char} (h : isHexadecimal c = true) : digitValue c < 16 := by
  have hcode := toNat_of_isHexadecimal h
  have hdecimal : isDecimal c = true ↔ 0x30 ≤ c.toNat ∧ c.toNat ≤ 0x39 := by
    simp only [isDecimal, Bool.and_eq_true, decide_eq_true_eq]
    rfl
  have hlower : 'a' ≤ c ↔ 0x61 ≤ c.toNat := Iff.rfl
  rw [digitValue, if_congr hdecimal rfl rfl, if_congr hlower rfl rfl]
  simp only [Char.reduceToNat]
  split
  · omega
  · split <;> omega

theorem valueOf_lt {digits : List Char} (h : ∀ c ∈ digits, isHexadecimal c = true) :
    valueOf 16 digits < Nat.pow 16 digits.length := by
  induction digits using List.reverseRecOn with
  | nil => simp [valueOf]
  | append_singleton digits digit ih =>
      have hfront := ih fun c hc => h c (List.mem_append_left _ hc)
      have hdigit := digitValue_lt (h digit (by simp))
      have hpow : Nat.pow 16 (digits.length + 1) = Nat.pow 16 digits.length * 16 :=
        Nat.pow_succ 16 digits.length
      unfold valueOf at hfront ⊢
      rw [List.foldl_append, List.foldl_cons, List.foldl_nil, List.length_append,
        List.length_singleton, hpow]
      omega

theorem hexGroup_lt (chars : List Char) : valueOf 16 (hexGroup chars).1 < groupBound := by
  have hlength : (hexGroup chars).1.length ≤ 4 :=
    Nat.le_trans (List.takeWhile_sublist _).length_le (List.length_take_le 4 chars)
  have hdigits : ∀ c ∈ (hexGroup chars).1, isHexadecimal c = true :=
    fun c hc => List.mem_takeWhile_imp hc
  exact Nat.lt_of_lt_of_le (valueOf_lt hdigits)
    (Nat.pow_le_pow_right (by decide) hlength)

theorem decimalByte_lt {byte : Nat} {rest : List Char} (h : decimalByte chars = some (byte, rest)) :
    byte < 256 := by
  unfold decimalByte at h
  dsimp only at h
  split at h
  · cases h
  next hbyte =>
    obtain rfl := congrArg Prod.fst (Option.some.inj h)
    simp at hbyte
    omega

theorem embeddedIpv4_lt (h : embeddedIpv4 chars = some groups) :
    ∀ group ∈ groups, group < groupBound := by
  unfold embeddedIpv4 at h
  obtain ⟨⟨a, rest⟩, ha, h⟩ := Option.bind_eq_some_iff.mp h
  dsimp only at h
  split at h
  next rest =>
    obtain ⟨⟨b, rest⟩, hb, h⟩ := Option.bind_eq_some_iff.mp h
    dsimp only at h
    split at h
    next rest =>
      obtain ⟨⟨c, rest⟩, hc, h⟩ := Option.bind_eq_some_iff.mp h
      dsimp only at h
      split at h
      next rest =>
        obtain ⟨⟨d, rest⟩, hd, h⟩ := Option.bind_eq_some_iff.mp h
        dsimp only at h
        split at h
        next =>
          obtain rfl := Option.some.inj h
          have hbytes := And.intro (decimalByte_lt ha) (And.intro (decimalByte_lt hb)
            (And.intro (decimalByte_lt hc) (decimalByte_lt hd)))
          simp [groupBound]
          omega
        next => cases h
      next => cases h
    next => cases h
  next => cases h

theorem ipv6Groups_lt {fuel : Nat} {done found : List Nat} {gap gap' : Option Nat}
    (hdone : ∀ group ∈ done, group < groupBound)
    (h : ipv6Groups fuel done gap chars = some (found, gap')) :
    ∀ group ∈ found, group < groupBound := by
  induction fuel generalizing done gap chars with
  | zero => cases h
  | succ fuel ih =>
      have hmore : ∀ group ∈ done ++ [valueOf 16 (hexGroup chars).1], group < groupBound := by
        rw [List.forall_mem_append, List.forall_mem_singleton]
        exact ⟨hdone, hexGroup_lt chars⟩
      cases chars with
      | nil =>
          obtain ⟨rfl, -⟩ := Prod.mk.inj (Option.some.inj h)
          exact hdone
      | cons c chars =>
          unfold ipv6Groups at h
          dsimp only at h
          generalize done.length + (if gap.isSome = true then 1 else 0) = count at h
          split at h
          · cases h
          · split at h
            · split at h
              · cases h
              · exact ih hdone h
            · split at h
              · obtain ⟨rfl, -⟩ := Prod.mk.inj (Option.some.inj h)
                exact hmore
              · split at h
                · cases h
                · obtain ⟨last, hlast, h⟩ := Option.map_eq_some_iff.mp h
                  obtain ⟨rfl, -⟩ := Prod.mk.inj h
                  exact List.forall_mem_append.mpr ⟨hdone, embeddedIpv4_lt hlast⟩
              · cases h
              · exact ih hmore h
              · cases h

/-- The groups of a text and the place of the gap among them. -/
def ipv6Found (chars : List Char) : Option (List Nat × Option Nat) :=
  match chars with
  | ':' :: ':' :: rest => ipv6Groups (rest.length + 1) [] (some 0) rest
  | ':' :: _ | [] => none
  | rest => ipv6Groups (rest.length + 1) [] none rest

theorem parseIpv6_eq (chars : List Char) :
    parseIpv6 chars =
      match ipv6Found chars with
      | none => .error .invalidIpv6
      | some (groups, none) => if groups.length = 8 then .ok groups else .error .invalidIpv6
      | some (groups, some gap) =>
          if groups.length > 7 then .error .invalidIpv6
          else .ok (groups.take gap ++ List.replicate (8 - groups.length) 0 ++ groups.drop gap) :=
  rfl

theorem ipv6Found_lt {gap : Option Nat} (h : ipv6Found chars = some (groups, gap)) :
    ∀ group ∈ groups, group < groupBound := by
  have hnil : ∀ group ∈ ([] : List Nat), group < groupBound := by simp
  unfold ipv6Found at h
  split at h
  · exact ipv6Groups_lt hnil h
  · cases h
  · cases h
  · exact ipv6Groups_lt hnil h

theorem isIpv6_of_parseIpv6 (h : parseIpv6 chars = .ok groups) : IsIpv6 groups := by
  rw [parseIpv6_eq] at h
  split at h
  · cases h
  next found hfound =>
    split at h
    next hlength =>
      obtain rfl := Except.ok.inj h
      exact ⟨hlength, ipv6Found_lt hfound⟩
    next => cases h
  next found gap hfound =>
    split at h
    · cases h
    next hlength =>
      obtain rfl := Except.ok.inj h
      constructor
      · simp only [List.length_append, List.length_take, List.length_replicate, List.length_drop]
        omega
      · intro group hgroup
        simp only [List.mem_append, List.mem_replicate] at hgroup
        rcases hgroup with (hgroup | ⟨-, rfl⟩) | hgroup
        · exact ipv6Found_lt hfound group (List.mem_of_mem_take hgroup)
        · decide
        · exact ipv6Found_lt hfound group (List.mem_of_mem_drop hgroup)

/-! ## Groups that are written -/

variable {group : Nat} {done : List Nat} {gap : Option Nat}

theorem isHexadecimal_of_mem_toDigits (n : Nat) :
    ∀ c ∈ Nat.toDigits 16 n, isHexadecimal c = true :=
  forall_mem_toDigits (by decide) (by decide) n

theorem hexGroup_toDigits (h : group < groupBound) {rest : List Char}
    (hrest : rest = [] ∨ ∃ more, rest = ':' :: more) :
    hexGroup (Nat.toDigits 16 group ++ rest) = (Nat.toDigits 16 group, rest) := by
  have hlength : (Nat.toDigits 16 group).length ≤ 4 :=
    (Nat.length_toDigits_le_iff (by decide) (by decide)).mpr h
  have hdigits : ((Nat.toDigits 16 group ++ rest).take 4).takeWhile isHexadecimal =
      Nat.toDigits 16 group := by
    rw [List.take_append, List.take_of_length_le hlength,
      List.takeWhile_append_of_pos (isHexadecimal_of_mem_toDigits group)]
    rcases hrest with rfl | ⟨more, rfl⟩
    · simp
    · cases 4 - (Nat.toDigits 16 group).length with
      | zero => simp
      | succ left => simp [isHexadecimal, isDecimal]
  unfold hexGroup
  dsimp only
  rw [hdigits, List.drop_left]

/-- How the reader goes on after a group that is no embedded address. -/
def afterGroup (fuel : Nat) (groups : List Nat) (gap : Option Nat) :
    List Char → Option (List Nat × Option Nat)
  | [] => some (groups, gap)
  | [':'] => none
  | ':' :: more => ipv6Groups fuel groups gap more
  | _ => none

theorem afterGroup_cons (fuel : Nat) (c : Char) (rest : List Char) :
    afterGroup fuel groups gap (':' :: c :: rest) = ipv6Groups fuel groups gap (c :: rest) :=
  rfl

theorem ipv6Groups_toDigits (hcount : done.length + (if gap.isSome then 1 else 0) < 8)
    (h : group < groupBound) {rest : List Char} (hrest : rest = [] ∨ ∃ more, rest = ':' :: more)
    (fuel : Nat) :
    ipv6Groups (fuel + 1) done gap (Nat.toDigits 16 group ++ rest) =
      afterGroup fuel (done ++ [group]) gap rest := by
  have hgroup := hexGroup_toDigits h hrest
  have hvalue := @valueOf_toDigits 16 (by decide) (by decide) group
  have hdigits := isHexadecimal_of_mem_toDigits group
  obtain ⟨d, ds, hds⟩ := List.exists_cons_of_ne_nil (@Nat.toDigits_ne_nil group 16)
  rw [hds] at hgroup hvalue hdigits ⊢
  rw [List.cons_append] at hgroup ⊢
  have hcolon : d ≠ ':' := by
    rintro rfl
    exact absurd (hdigits _ List.mem_cons_self) (by decide)
  rw [ipv6Groups.eq_def]
  dsimp only
  rw [if_neg (Nat.ne_of_lt hcount)]
  split
  next more hcons => exact absurd (List.cons.inj hcons).1 hcolon
  next =>
    rw [hgroup]
    dsimp only
    rw [hvalue]
    rcases hrest with rfl | ⟨_ | ⟨c, more⟩, rfl⟩ <;> rfl

theorem ipv6Groups_gap (hcount : done.length < 8) (fuel : Nat) (rest : List Char) :
    ipv6Groups (fuel + 1) done none (':' :: rest) =
      ipv6Groups fuel done (some done.length) rest := by
  have hne : ¬done.length = 8 := by omega
  simp [ipv6Groups, hne]

/-! ## Rows of groups -/

theorem groupsText_singleton (group : Nat) : groupsText [group] = Nat.toDigits 16 group := by
  simp [groupsText]

theorem groupsText_cons_cons (group next : Nat) (groups : List Nat) :
    groupsText (group :: next :: groups) =
      Nat.toDigits 16 group ++ ':' :: groupsText (next :: groups) := by
  simp [groupsText, List.intercalate_cons_cons]

theorem exists_groupsText_cons (group : Nat) (groups : List Nat) :
    ∃ d ds, isHexadecimal d = true ∧ groupsText (group :: groups) = d :: ds := by
  obtain ⟨d, ds, hds⟩ := List.exists_cons_of_ne_nil (@Nat.toDigits_ne_nil group 16)
  have hd : isHexadecimal d = true := isHexadecimal_of_mem_toDigits group d (by simp [hds])
  cases groups with
  | nil => exact ⟨d, ds, hd, by rw [groupsText_singleton, hds]⟩
  | cons next groups => exact ⟨d, _, hd, by rw [groupsText_cons_cons, hds, List.cons_append]⟩

theorem length_le_groupsText (groups : List Nat) : groups.length ≤ (groupsText groups).length := by
  induction groups with
  | nil => simp
  | cons group groups ih =>
      obtain ⟨d, ds, hds⟩ := List.exists_cons_of_ne_nil (@Nat.toDigits_ne_nil group 16)
      cases groups with
      | nil => simp [groupsText_singleton, hds]
      | cons next groups =>
          simp only [groupsText_cons_cons, hds, List.length_append, List.length_cons] at ih ⊢
          omega

/-- The groups at the end of a text are read. -/
theorem ipv6Groups_groupsText
    (hcount : done.length + (if gap.isSome then 1 else 0) + groups.length ≤ 8)
    (h : ∀ group ∈ groups, group < groupBound) {fuel : Nat} (hfuel : groups.length < fuel) :
    ipv6Groups fuel done gap (groupsText groups) = some (done ++ groups, gap) := by
  induction groups generalizing done fuel with
  | nil =>
      cases fuel with
      | zero => simp at hfuel
      | succ fuel => simp [groupsText, ipv6Groups]
  | cons group groups ih =>
      obtain ⟨hgroup, hgroups⟩ := List.forall_mem_cons.mp h
      rw [List.length_cons] at hcount hfuel
      have hroom : done.length + (if gap.isSome then 1 else 0) < 8 := by omega
      cases fuel with
      | zero => simp at hfuel
      | succ fuel =>
          cases groups with
          | nil =>
              have hread := ipv6Groups_toDigits hroom hgroup (.inl rfl) fuel
              rwa [List.append_nil, ← groupsText_singleton] at hread
          | cons next groups =>
              obtain ⟨d, ds, -, hds⟩ := exists_groupsText_cons next groups
              have hread := ipv6Groups_toDigits hroom hgroup (.inr ⟨d :: ds, rfl⟩) fuel
              have hcount : (done ++ [group]).length + (if gap.isSome then 1 else 0) +
                  (next :: groups).length ≤ 8 := by
                rw [List.length_append, List.length_singleton]
                omega
              rw [groupsText_cons_cons, hds, hread, afterGroup_cons, ← hds,
                ih hcount hgroups (by omega), List.append_assoc, List.singleton_append]

/-- The groups in front of a gap are read. -/
theorem ipv6Groups_front (hne : groups ≠ []) (hcount : done.length + groups.length < 8)
    (h : ∀ group ∈ groups, group < groupBound) (fuel : Nat) (rest : List Char) :
    ipv6Groups (fuel + groups.length + 1) done none (groupsText groups ++ ':' :: ':' :: rest) =
      ipv6Groups fuel (done ++ groups) (some (done.length + groups.length)) rest := by
  induction groups generalizing done with
  | nil => contradiction
  | cons group groups ih =>
      obtain ⟨hgroup, hgroups⟩ := List.forall_mem_cons.mp h
      rw [List.length_cons] at hcount
      have hroom : done.length + (if (none : Option Nat).isSome then 1 else 0) < 8 := by
        simp only [Option.isSome_none, Bool.false_eq_true, if_false]
        omega
      cases groups with
      | nil =>
          have hread := ipv6Groups_toDigits hroom hgroup (.inr ⟨':' :: rest, rfl⟩) (fuel + 1)
          rw [groupsText_singleton, List.length_singleton, hread, afterGroup_cons,
            ipv6Groups_gap (by simp; omega), List.length_append, List.length_singleton]
      | cons next groups =>
          obtain ⟨d, ds, -, hds⟩ := exists_groupsText_cons next groups
          have hread := ipv6Groups_toDigits hroom hgroup (.inr ⟨d :: (ds ++ ':' :: ':' :: rest), rfl⟩)
            (fuel + (next :: groups).length + 1)
          rw [groupsText_cons_cons, List.append_assoc, List.cons_append, hds, List.cons_append]
          have hlength : (done ++ [group]).length + (next :: groups).length =
              done.length + (group :: next :: groups).length := by
            simp only [List.length_append, List.length_cons, List.length_nil]
            omega
          refine hread.trans ?_
          rw [afterGroup_cons, ← List.cons_append, ← hds,
            ih (by simp) (by rw [hlength]; exact hcount) hgroups, hlength, List.append_assoc,
            List.singleton_append]

/-! ## The gap -/

theorem foldl_best_mem (runs : List (Nat × Nat)) (init : Nat × Nat) :
    runs.foldl (fun best run => if best.2 < run.2 then run else best) init ∈ init :: runs := by
  induction runs generalizing init with
  | nil => simp
  | cons run runs ih =>
      rw [List.foldl_cons]
      split
      · exact List.mem_cons_of_mem _ (ih run)
      · exact List.cons_subset_cons _ (List.subset_cons_self run runs) (ih init)

/-- What is left out is a run of zeros. -/
theorem longestZeroRun_spec {start length : Nat} (h : longestZeroRun groups = some (start, length)) :
    2 ≤ length ∧
      groups = groups.take start ++ List.replicate length 0 ++ groups.drop (start + length) := by
  unfold longestZeroRun at h
  dsimp only at h
  split at h
  next hlong =>
    have hbest := Option.some.inj h
    rw [hbest] at hlong
    have hmem := foldl_best_mem ((List.range groups.length).map fun start =>
      (start, ((groups.drop start).takeWhile (· == 0)).length)) (0, 1)
    rw [hbest, List.mem_cons, List.mem_map] at hmem
    rcases hmem with hinit | ⟨first, -, hrun⟩
    · rw [hinit] at hlong
      exact absurd hlong (by decide)
    · obtain ⟨rfl, hlength⟩ := Prod.mk.inj hrun
      have hzeros : (groups.drop first).takeWhile (· == 0) = List.replicate length 0 :=
        List.eq_replicate_iff.mpr ⟨hlength, fun group hgroup => by
          simpa using List.mem_takeWhile_imp hgroup⟩
      have hrest : (groups.drop first).dropWhile (· == 0) = groups.drop (first + length) := by
        have hdrop := congrArg (List.drop ((groups.drop first).takeWhile (· == 0)).length)
          (List.takeWhile_append_dropWhile (p := (· == 0)) (l := groups.drop first))
        rw [List.drop_left, List.drop_drop, hlength] at hdrop
        exact hdrop
      refine ⟨hlong, ?_⟩
      calc
        groups = groups.take first ++ groups.drop first := (List.take_append_drop first groups).symm
        _ = groups.take first ++
            ((groups.drop first).takeWhile (· == 0) ++ (groups.drop first).dropWhile (· == 0)) := by
          rw [List.takeWhile_append_dropWhile]
        _ = _ := by rw [hzeros, hrest, List.append_assoc]
  next => cases h

/-! ## Addresses that are written -/

theorem ipv6Found_of_isHexadecimal {d : Char} (h : isHexadecimal d = true) (rest : List Char) :
    ipv6Found (d :: rest) = ipv6Groups (rest.length + 2) [] none (d :: rest) := by
  have hcolon : d ≠ ':' := by
    rintro rfl
    exact absurd h (by decide)
  unfold ipv6Found
  split
  next heq => exact absurd (List.cons.inj heq).1 hcolon
  next heq => exact absurd (List.cons.inj heq).1 hcolon
  next heq => cases heq
  next => rfl

theorem ipv6Found_groupsText (hlength : groups.length = 8)
    (h : ∀ group ∈ groups, group < groupBound) :
    ipv6Found (groupsText groups) = some (groups, none) := by
  cases groups with
  | nil => cases hlength
  | cons group groups =>
      obtain ⟨d, ds, hd, hds⟩ := exists_groupsText_cons group groups
      have hshort := length_le_groupsText (group :: groups)
      have hfuel : (group :: groups).length < ds.length + 2 := by
        rw [hds] at hshort
        simp only [List.length_cons] at hshort ⊢
        omega
      rw [hds, ipv6Found_of_isHexadecimal hd, ← hds]
      exact ipv6Groups_groupsText (by simp [hlength]) h hfuel

/-- The groups around a gap are read, wherever it is. -/
theorem ipv6Found_gap {front back : List Nat} (hcount : front.length + back.length < 8)
    (hfront : ∀ group ∈ front, group < groupBound) (hback : ∀ group ∈ back, group < groupBound) :
    ipv6Found (groupsText front ++ ':' :: ':' :: groupsText back) =
      some (front ++ back, some front.length) := by
  have hshort := length_le_groupsText back
  have hroom (done : List Nat) (hdone : done.length + back.length < 8) :
      done.length + (if (some front.length).isSome then 1 else 0) + back.length ≤ 8 := by
    simp only [Option.isSome_some, if_true]
    omega
  cases front with
  | nil =>
      refine ipv6Groups_groupsText (hroom [] (by simpa using hcount)) hback (by omega)
  | cons group front =>
      obtain ⟨d, ds, hd, hds⟩ := exists_groupsText_cons group front
      have hfrontShort := length_le_groupsText (group :: front)
      have hfuel : ∃ fuel, (ds ++ ':' :: ':' :: groupsText back).length + 2 =
          fuel + (group :: front).length + 1 ∧ back.length < fuel := by
        rw [hds] at hfrontShort
        simp only [List.length_append, List.length_cons] at hfrontShort ⊢
        exact ⟨ds.length + (groupsText back).length + 2 - front.length, by omega, by omega⟩
      obtain ⟨fuel, hfuel, hback'⟩ := hfuel
      rw [hds, List.cons_append, ipv6Found_of_isHexadecimal hd, hfuel, ← List.cons_append, ← hds,
        ipv6Groups_front (by simp) (by simp at hcount ⊢; omega) hfront, List.nil_append,
        List.length_nil, Nat.zero_add]
      exact ipv6Groups_groupsText (hroom _ hcount) hback hback'

theorem forall_mem_groupsText {P : Char → Prop} (hcolon : P ':')
    (hdigit : ∀ d < 16, P d.digitChar) (groups : List Nat) : ∀ c ∈ groupsText groups, P c := by
  refine forall_mem_intercalate hcolon fun part hpart => ?_
  obtain ⟨n, -, rfl⟩ := List.mem_map.mp hpart
  exact forall_mem_toDigits (by decide) hdigit n

theorem forall_mem_ipv6Text {P : Char → Prop} (hcolon : P ':') (hdigit : ∀ d < 16, P d.digitChar)
    (groups : List Nat) : ∀ c ∈ (ipv6Text groups).toList, P c := by
  have hgroups := forall_mem_groupsText hcolon hdigit
  unfold ipv6Text
  cases longestZeroRun groups with
  | none => simpa using hgroups groups
  | some run =>
      dsimp only
      simp only [String.toList_ofList, List.forall_mem_append, List.forall_mem_cons]
      exact ⟨⟨hgroups _, hcolon, hcolon, by simp⟩, hgroups _⟩

/-- Every address is read back from its text. -/
theorem parseIpv6_ipv6Text (h : IsIpv6 groups) :
    parseIpv6 (ipv6Text groups).toList = .ok groups := by
  rw [parseIpv6_eq]
  unfold ipv6Text
  cases hrun : longestZeroRun groups with
  | none =>
      dsimp only
      rw [String.toList_ofList, ipv6Found_groupsText h.length h.groups_lt]
      dsimp only
      rw [if_pos h.length]
  | some run =>
      obtain ⟨start, length⟩ := run
      obtain ⟨hlong, hgroups⟩ := longestZeroRun_spec hrun
      have hlength := congrArg List.length hgroups
      simp only [List.length_append, List.length_replicate, h.length] at hlength
      have hshort : (groups.take start).length + (groups.drop (start + length)).length < 8 := by
        omega
      have hfound := ipv6Found_gap hshort
        (fun group hgroup => h.groups_lt group (List.mem_of_mem_take hgroup))
        (fun group hgroup => h.groups_lt group (List.mem_of_mem_drop hgroup))
      dsimp only
      rw [String.toList_ofList, List.append_assoc, List.cons_append, List.singleton_append, hfound]
      dsimp only
      rw [if_neg (by rw [List.length_append]; omega), List.take_left, List.drop_left,
        List.length_append]
      rw [show 8 - ((groups.take start).length + (groups.drop (start + length)).length) = length by
        omega, ← hgroups]

end SchemaKeeper.Url
