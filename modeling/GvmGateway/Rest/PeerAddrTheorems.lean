import GvmGateway.Library.Decimal
import GvmGateway.Rest.PeerAddr

/-!
# Trusted proxy ranges

What a range contains and which texts are ranges. A range is written as an address, a slash
and a decimal prefix length; the first slash of such a text is the one after the address,
since no reader of an address takes a slash.
-/

namespace GvmGateway.Rest

open Text (isWhitespace isWhitespace_of_printable trim trim_eq_self)

/-! ## The characters of an address -/

namespace IpAddr

variable {α β : Type}

/-- The characters of an address: digits of any radix up to 16, dots and colons. -/
def IsAddressChar (c : Char) : Prop := (toDigit 16 c).isSome ∨ c = '.' ∨ c = ':'

instance : DecidablePred IsAddressChar := fun c =>
  inferInstanceAs (Decidable ((toDigit 16 c).isSome ∨ c = '.' ∨ c = ':'))

/-- What the reader takes are characters of addresses. -/
def Reader.OfAddress (read : Reader α) : Prop :=
  ∀ cs a rest, read cs = some (a, rest) → ∃ used, cs = used ++ rest ∧ ∀ c ∈ used, IsAddressChar c

/-- What two readers take, one after the other. -/
theorem used_append {cs mid rest : List Char}
    (hcs : ∃ used, cs = used ++ mid ∧ ∀ c ∈ used, IsAddressChar c)
    (hmid : ∃ used, mid = used ++ rest ∧ ∀ c ∈ used, IsAddressChar c) :
    ∃ used, cs = used ++ rest ∧ ∀ c ∈ used, IsAddressChar c := by
  obtain ⟨used, rfl, hused⟩ := hcs
  obtain ⟨used', rfl, hused'⟩ := hmid
  refine ⟨used ++ used', (List.append_assoc _ _ _).symm, fun c hc => ?_⟩
  rcases List.mem_append.mp hc with hc | hc
  · exact hused c hc
  · exact hused' c hc

/-- Readers of address characters may be put in sequence. -/
theorem Reader.OfAddress.bind {read : Reader α} {next : α → Reader β} (hread : read.OfAddress)
    (hnext : ∀ a, (next a).OfAddress) :
    Reader.OfAddress fun cs => (read cs).bind fun (a, cs) => next a cs := by
  intro cs b rest hboth
  obtain ⟨⟨a, mid⟩, ha, hb⟩ := Option.bind_eq_some_iff.mp hboth
  exact used_append (hread cs a mid ha) (hnext a mid b rest hb)

theorem Reader.OfAddress.pure (a : α) : Reader.OfAddress fun cs => some (a, cs) := by
  intro cs b rest hb
  obtain ⟨-, rfl⟩ := Prod.mk.inj (Option.some.inj hb)
  exact ⟨[], rfl, fun c hc => absurd hc List.not_mem_nil⟩

/-- A digit is one in every greater radix. -/
theorem isSome_toDigit_mono {radix : ℕ} (hradix : radix ≤ 16) {c : Char}
    (hc : (toDigit radix c).isSome = true) : (toDigit 16 c).isSome = true := by
  obtain ⟨d, hd⟩ := Option.isSome_iff_exists.mp hc
  unfold toDigit at hd
  obtain ⟨hdigit, hlt⟩ := Option.filter_eq_some_iff.mp hd
  have hlt' : d < radix := of_decide_eq_true hlt
  refine Option.isSome_iff_exists.mpr ⟨d, Option.filter_eq_some_iff.mpr ⟨hdigit, ?_⟩⟩
  exact decide_eq_true (hlt'.trans_le hradix)

/-- Nothing is left out where every character is a digit. -/
theorem length_filterMap_of_isSome (f : Char → Option ℕ) {cs : List Char}
    (hcs : ∀ c ∈ cs, (f c).isSome = true) : (cs.filterMap f).length = cs.length := by
  induction cs with
  | nil => rfl
  | cons c cs ih =>
    obtain ⟨hc, hrest⟩ := List.forall_mem_cons.mp hcs
    obtain ⟨d, hd⟩ := Option.isSome_iff_exists.mp hc
    rw [List.filterMap_cons_some hd, List.length_cons, List.length_cons, ih hrest]

/-- A number consists of digits. -/
theorem readNumber_ofAddress {radix : ℕ} (hradix : radix ≤ 16) (maxDigits : ℕ)
    (allowZeroPrefix : Bool) (bound : ℕ) :
    Reader.OfAddress (readNumber radix maxDigits allowZeroPrefix bound) := by
  intro cs value rest hread
  have hdigits : ∀ c ∈ cs.takeWhile fun c => (toDigit radix c).isSome,
      (toDigit radix c).isSome = true := 
      fun c hc => List.mem_takeWhile_imp (p := fun c => (toDigit radix c).isSome) hc
  have hlength := length_filterMap_of_isSome (toDigit radix) hdigits
  unfold readNumber at hread
  dsimp only at hread
  obtain ⟨-, hread⟩ := Option.ite_none_left_eq_some.mp hread
  obtain ⟨-, hread⟩ := Option.ite_none_left_eq_some.mp hread
  obtain ⟨-, hread⟩ := Option.ite_none_right_eq_some.mp hread
  obtain ⟨-, rfl⟩ := Prod.mk.inj (Option.some.inj hread)
  refine ⟨cs.takeWhile fun c => (toDigit radix c).isSome, ?_, fun c hc => ?_⟩
  · rw [hlength]
    exact (List.prefix_iff_eq_append.mp (List.takeWhile_prefix _)).symm
  · exact Or.inl (isSome_toDigit_mono hradix (hdigits c hc))

/-- A separator is read as it is. -/
theorem readGivenChar_ofAddress {target : Char} (htarget : IsAddressChar target) :
    Reader.OfAddress (readGivenChar target) := by
  intro cs a rest hread
  cases cs with
  | nil => exact absurd hread (by simp [readGivenChar])
  | cons c cs =>
    obtain ⟨rfl, hrest⟩ := Option.ite_none_right_eq_some.mp hread
    obtain ⟨-, rfl⟩ := Prod.mk.inj (Option.some.inj hrest)
    refine ⟨[c], rfl, fun d hd => ?_⟩
    rw [List.mem_singleton.mp hd]
    exact htarget

theorem readSeparator_ofAddress {sep : Char} (hsep : IsAddressChar sep) (index : ℕ)
    {inner : Reader α} (hinner : inner.OfAddress) :
    Reader.OfAddress (readSeparator sep index inner) := by
  by_cases hfirst : index = 0
  · have heq : readSeparator sep index inner = inner := by
      funext cs
      exact if_pos hfirst
    rw [heq]
    exact hinner
  · have heq : readSeparator sep index inner =
        fun cs => (readGivenChar sep cs).bind fun read => inner read.2 := by
      funext cs
      exact if_neg hfirst
    rw [heq]
    exact (readGivenChar_ofAddress hsep).bind fun _ => hinner

/-- The text of an IPv4 address has only address characters. -/
theorem readIpv4Addr_ofAddress : Reader.OfAddress readIpv4Addr := by
  have hoctet (index : ℕ) : Reader.OfAddress
      (readSeparator '.' index (readNumber 10 3 false 256)) :=
    readSeparator_ofAddress (by decide) index (readNumber_ofAddress (by decide) 3 false 256)
  exact (hoctet 0).bind fun a => (hoctet 1).bind fun b => (hoctet 2).bind fun c =>
    (hoctet 3).bind fun d =>
      Reader.OfAddress.pure (BitVec.ofNat 32 (((a * 256 + b) * 256 + c) * 256 + d))

theorem readGroups_ofAddress (limit fuel i : ℕ) (cs : List Char) :
    ∃ used, cs = used ++ (readGroups limit fuel i cs).2.2 ∧ ∀ c ∈ used, IsAddressChar c := by
  have hcolon : IsAddressChar ':' := by decide
  induction fuel generalizing i cs with
  | zero => exact ⟨[], rfl, fun c hc => absurd hc List.not_mem_nil⟩
  | succ fuel ih =>
    unfold readGroups
    dsimp only
    split
    · -- an IPv4 address ends the groups
      rename_i ip rest hipv4
      obtain ⟨-, hread⟩ := Option.ite_none_right_eq_some.mp hipv4
      exact readSeparator_ofAddress hcolon i readIpv4Addr_ofAddress cs ip rest hread
    · split
      · rename_i group rest hread
        have hgroup := readSeparator_ofAddress hcolon i
          (readNumber_ofAddress (by decide) 4 true 65536) cs group rest hread
        exact used_append hgroup (ih (i + 1) rest)
      · exact ⟨[], rfl, fun c hc => absurd hc List.not_mem_nil⟩

theorem readIpv6Addr_ofAddress : Reader.OfAddress readIpv6Addr := by
  have hcolon : IsAddressChar ':' := by decide
  intro cs ip rest hread
  have hgroups := readGroups_ofAddress 8 8 0 cs
  unfold readIpv6Addr at hread
  dsimp only at hread
  split at hread
  · obtain ⟨-, rfl⟩ := Prod.mk.inj (Option.some.inj hread)
    exact hgroups
  · obtain ⟨-, hread⟩ := Option.ite_none_left_eq_some.mp hread
    obtain ⟨⟨_, mid⟩, hfirst, hread⟩ := Option.bind_eq_some_iff.mp hread
    obtain ⟨⟨_, mid'⟩, hsecond, hread⟩ := Option.bind_eq_some_iff.mp hread
    obtain ⟨-, rfl⟩ := Prod.mk.inj (Option.some.inj hread)
    -- the first groups, two colons, and the groups after them
    have hcolons := used_append (readGivenChar_ofAddress hcolon _ _ _ hfirst)
      (readGivenChar_ofAddress hcolon _ _ _ hsecond)
    exact used_append hgroups (used_append hcolons (readGroups_ofAddress _ _ 0 mid'))

theorem readIpAddr_ofAddress : Reader.OfAddress readIpAddr := by
  intro cs ip rest hread
  unfold readIpAddr at hread
  split at hread
  · rename_i ip4 rest4 hipv4
    obtain ⟨-, rfl⟩ := Prod.mk.inj (Option.some.inj hread)
    exact readIpv4Addr_ofAddress cs ip4 rest4 hipv4
  · obtain ⟨⟨ip6, rest6⟩, hipv6, heq⟩ := Option.map_eq_some_iff.mp hread
    obtain ⟨-, rfl⟩ := Prod.mk.inj heq
    exact readIpv6Addr_ofAddress cs ip6 rest6 hipv6

theorem isAddressChar_of_fromStr {value : String} {ip : IpAddr} (hip : fromStr value = some ip) :
    ∀ c ∈ value.toList, IsAddressChar c := by
  unfold fromStr at hip
  split at hip
  · rename_i ip' hread
    obtain ⟨used, hused, hchars⟩ := readIpAddr_ofAddress _ _ _ hread
    rw [hused, List.append_nil]
    exact hchars
  · exact absurd hip (by simp)

end IpAddr

/-! ## Masks -/

section Mask

variable {width : ℕ}

/-- The mask that `ipv4_mask` and `ipv6_mask` build. -/
theorem getMsbD_mask {prefixLen : ℕ} (hlen : prefixLen ≤ width) (i : ℕ) :
    (if prefixLen = 0 then (0 : BitVec width)
      else BitVec.allOnes width <<< (width - prefixLen)).getMsbD i = decide (i < prefixLen) := by
  by_cases hzero : prefixLen = 0
  · rw [if_pos hzero, hzero]
    simp
  · rw [if_neg hzero, BitVec.getMsbD_shiftLeft, BitVec.getMsbD_allOnes, decide_eq_decide]
    omega

/-- Masked addresses are equal when the bits under the mask are. -/
theorem and_mask_eq_iff {prefixLen : ℕ} (hlen : prefixLen ≤ width) (x y : BitVec width) :
    let mask := if prefixLen = 0 then (0 : BitVec width)
      else BitVec.allOnes width <<< (width - prefixLen)
    x &&& mask = y &&& mask ↔ ∀ i < prefixLen, x.getMsbD i = y.getMsbD i := by
  intro mask
  constructor
  · intro heq i hi
    have hbit := congrArg (BitVec.getMsbD · i) heq
    simp only [BitVec.getMsbD_and, mask, getMsbD_mask hlen, hi,
      decide_true, Bool.and_true] at hbit
    exact hbit
  · intro hbits
    refine BitVec.eq_of_getMsbD_eq fun i _ => ?_
    rw [BitVec.getMsbD_and, BitVec.getMsbD_and, getMsbD_mask hlen]
    by_cases hlt : i < prefixLen
    · rw [hbits i hlt]
    · rw [decide_eq_false hlt, Bool.and_false, Bool.and_false]

/-- The mask of a prefix is shifted by less than its width. -/
theorem checkedMask_eq {prefixLen : ℕ} (hlen : prefixLen ≤ width) :
    TrustedProxyCidr.checkedMask width prefixLen = some (if prefixLen = 0 then 0
      else BitVec.allOnes width <<< (width - prefixLen)) := by
  unfold TrustedProxyCidr.checkedMask
  by_cases hzero : prefixLen = 0
  · rw [if_pos hzero, if_pos hzero]
  · rw [if_neg hzero, if_neg hzero, if_neg (by omega), if_neg (by omega)]

end Mask

namespace IpAddr

/-- Both addresses are of IPv4, or both of IPv6. -/
def SameFamily : IpAddr → IpAddr → Prop
  | v4 _, v4 _ => True
  | v6 _, v6 _ => True
  | _, _ => False

/-- The `i`-th bit of the address, from the most significant one. -/
def bit : IpAddr → ℕ → Bool
  | v4 ip, i => ip.getMsbD i
  | v6 ip, i => ip.getMsbD i

end IpAddr

namespace TrustedProxyCidr

/-- A range contains the addresses of its family that agree with it on the prefix. -/
theorem contains_iff (cidr : TrustedProxyCidr) (ip : IpAddr) :
    cidr.contains ip = true ↔
      cidr.network.SameFamily ip ∧ ∀ i < cidr.prefixLen, ip.bit i = cidr.network.bit i := by
  obtain ⟨network, prefixLen, hlen⟩ := cidr
  cases network with
  | v4 network =>
    cases ip with
    | v4 ip =>
      exact beq_iff_eq.trans ((and_mask_eq_iff hlen ip network).trans
        (and_iff_right trivial).symm)
    | v6 ip =>
      exact ⟨fun hcontains => absurd hcontains Bool.false_ne_true, fun hsame => hsame.1.elim⟩
  | v6 network =>
    cases ip with
    | v4 ip =>
      exact ⟨fun hcontains => absurd hcontains Bool.false_ne_true, fun hsame => hsame.1.elim⟩
    | v6 ip =>
      exact beq_iff_eq.trans ((and_mask_eq_iff hlen ip network).trans
        (and_iff_right trivial).symm)

/-- No mask of an accepted range shifts by its width or more. -/
theorem containsChecked_eq (cidr : TrustedProxyCidr) (ip : IpAddr) :
    cidr.containsChecked ip = some (cidr.contains ip) := by
  obtain ⟨network, prefixLen, hlen⟩ := cidr
  cases network with
  | v4 network =>
    cases ip with
    | v4 ip =>
      have hmask : checkedMask 32 prefixLen = _ := checkedMask_eq hlen
      show (checkedMask 32 prefixLen >>= fun mask =>
        some (ip &&& mask == network &&& mask)) = _
      rw [hmask]
      rfl
    | v6 ip => rfl
  | v6 network =>
    cases ip with
    | v4 ip => rfl
    | v6 ip =>
      have hmask : checkedMask 128 prefixLen = _ := checkedMask_eq hlen
      show (checkedMask 128 prefixLen >>= fun mask =>
        some (ip &&& mask == network &&& mask)) = _
      rw [hmask]
      rfl

/-! ## The text of a range -/

/-- An address, a slash and a decimal prefix length, with or without a plus sign. -/
inductive CidrText (ip : IpAddr) : ℕ → List Char → Prop
  | mk {address sign digits : List Char}
    (haddress : IpAddr.fromStr (String.ofList address) = some ip)
    (hsign : sign = [] ∨ sign = ['+'])
    (hdigits : digits ≠ [])
    (hnumeral : Decimal.IsNumeral digits) :
    CidrText ip (Decimal.value digits) (address ++ '/' :: (sign ++ digits))

/-- The digits are folded into the value of their numeral. -/
theorem foldl_eq_value (digits : List Char) :
    digits.foldl (fun result c => result * 10 + (c.toNat - '0'.toNat)) 0 =
      Decimal.value digits := by
  rw [Decimal.value, Nat.ofDigitChars_eq_foldl]
  congr 1
  funext result c
  rw [Nat.mul_comm]

/-- A signed numeral is a `u8` when its value is below 256. -/
theorem parseU8_numeral {sign digits : List Char} (hsign : sign = [] ∨ sign = ['+'])
    (hdigits : digits ≠ []) (hnumeral : Decimal.IsNumeral digits) :
    parseU8 (sign ++ digits) =
      if Decimal.value digits < 256 then some (Decimal.value digits) else none := by
  have hbody : (if (sign ++ digits).head? = some '+' then (sign ++ digits).tail
      else sign ++ digits) = digits := by
    rcases hsign with rfl | rfl
    · refine if_neg fun hplus => ?_
      obtain ⟨c, cs, rfl⟩ := List.exists_cons_of_ne_nil hdigits
      have hc := hnumeral c List.mem_cons_self
      obtain rfl : c = '+' := Option.some.inj hplus
      exact absurd hc (by decide)
    · rfl
  have hall : ¬(digits = [] ∨ (digits.any fun c => !c.isDigit) = true) := by
    rintro (hnil | hother)
    · exact hdigits hnil
    · obtain ⟨c, hc, hdigit⟩ := List.any_eq_true.mp hother
      rw [hnumeral c hc] at hdigit
      exact absurd hdigit (by decide)
  unfold parseU8
  dsimp only
  rw [hbody, if_neg hall, foldl_eq_value]

/-- A `u8` is written as a numeral, with a plus sign or none. -/
theorem eq_of_parseU8 {cs : List Char} {n : ℕ} (hparse : parseU8 cs = some n) :
    ∃ sign digits, cs = sign ++ digits ∧ (sign = [] ∨ sign = ['+']) ∧ digits ≠ [] ∧
      Decimal.IsNumeral digits ∧ Decimal.value digits = n := by
  obtain ⟨sign, digits, hcs, hsign, hbody⟩ : ∃ sign digits, cs = sign ++ digits ∧
      (sign = [] ∨ sign = ['+']) ∧ (if cs.head? = some '+' then cs.tail else cs) = digits := by
    by_cases hplus : cs.head? = some '+'
    · obtain ⟨tail, rfl⟩ : ∃ tail, cs = '+' :: tail := by
        cases cs with
        | nil => exact absurd hplus (by simp)
        | cons c tail => exact ⟨tail, by rw [Option.some.inj hplus]⟩
      exact ⟨['+'], tail, rfl, Or.inr rfl, rfl⟩
    · exact ⟨[], cs, rfl, Or.inl rfl, if_neg hplus⟩
  unfold parseU8 at hparse
  dsimp only at hparse
  rw [hbody] at hparse
  obtain ⟨hall, hvalue⟩ := Option.ite_none_left_eq_some.mp hparse
  rw [foldl_eq_value] at hvalue
  obtain ⟨-, hn⟩ := Option.ite_none_right_eq_some.mp hvalue
  refine ⟨sign, digits, hcs, hsign, fun hnil => hall (Or.inl hnil), fun c hc => ?_,
    Option.some.inj hn⟩
  by_contra hdigit
  exact hall (Or.inr (List.any_eq_true.mpr ⟨c, hc, by simpa using hdigit⟩))

/-- The first slash is the one after the address. -/
theorem split_at_slash {address : List Char} (haddress : '/' ∉ address) (rest : List Char) :
    (address ++ '/' :: rest).takeWhile (· ≠ '/') = address ∧
      ((address ++ '/' :: rest).dropWhile (· ≠ '/')).tail = rest := by
  have hall : ∀ c ∈ address, decide (c ≠ '/') = true := fun c hc =>
    decide_eq_true fun heq => haddress (heq ▸ hc)
  constructor
  · rw [List.takeWhile_append_of_pos hall]
    simp
  · rw [List.dropWhile_append_of_pos hall]
    simp

/-- A text with a slash is what stands before the first and behind it. -/
theorem append_slash_of_mem {cs : List Char} (hslash : '/' ∈ cs) :
    cs = cs.takeWhile (· ≠ '/') ++ '/' :: (cs.dropWhile (· ≠ '/')).tail := by
  induction cs with
  | nil => exact absurd hslash List.not_mem_nil
  | cons c cs ih =>
    by_cases hc : c = '/'
    · subst hc
      simp
    · have hrest : '/' ∈ cs := (List.mem_cons.mp hslash).resolve_left (Ne.symm hc)
      have hne : decide (c ≠ '/') = true := decide_eq_true hc
      have htake : (c :: cs).takeWhile (· ≠ '/') = c :: cs.takeWhile (· ≠ '/') :=
        List.takeWhile_cons_of_pos hne
      have hdrop : (c :: cs).dropWhile (· ≠ '/') = cs.dropWhile (· ≠ '/') :=
        List.dropWhile_cons_of_pos hne
      rw [htake, hdrop, List.cons_append, ← ih hrest]

/-- No address has a slash. -/
theorem slash_not_mem_address {address : List Char} {ip : IpAddr}
    (haddress : IpAddr.fromStr (String.ofList address) = some ip) : '/' ∉ address := by
  intro hslash
  have hchar := IpAddr.isAddressChar_of_fromStr haddress '/' (by
    rw [String.toList_ofList]
    exact hslash)
  exact absurd hchar (by decide)

/-- The text of a range is accepted if its prefix fits the family, and else refused. -/
theorem fromStr_of_cidrText {value : String} {ip : IpAddr} {len : ℕ} {cs : List Char}
    (htext : CidrText ip len cs) (htrim : trim value.toList = cs) :
    (∀ h : len ≤ maxPrefix ip, fromStr value = .ok ⟨ip, len, h⟩) ∧
      (maxPrefix ip < len → ∃ message, fromStr value = .error message) := by
  obtain @⟨address, sign, digits, haddress, hsign, hdigits, hnumeral⟩ := htext
  have hmax : maxPrefix ip < 256 := by
    cases ip with
    | v4 _ => exact (by decide : 32 < 256)
    | v6 _ => exact (by decide : 128 < 256)
  have hslash : '/' ∈ address ++ '/' :: (sign ++ digits) :=
    List.mem_append_right address List.mem_cons_self
  obtain ⟨htake, hdrop⟩ := split_at_slash (slash_not_mem_address haddress) (sign ++ digits)
  have hparse := parseU8_numeral hsign hdigits hnumeral
  unfold fromStr
  dsimp only
  rw [htrim, if_neg (not_not_intro hslash), htake, hdrop, haddress, hparse]
  dsimp only
  constructor
  · intro hlen
    rw [if_pos (hlen.trans_lt hmax)]
    exact dif_pos hlen
  · intro hlen
    -- too long for the family, or not even a byte; the messages differ
    by_cases hu8 : Decimal.value digits < 256
    · rw [if_pos hu8]
      exact ⟨_, dif_neg (Nat.not_le.mpr hlen)⟩
    · rw [if_neg hu8]
      exact ⟨_, rfl⟩

/-- What is accepted is the text of a range. -/
theorem cidrText_of_fromStr {value : String} {cidr : TrustedProxyCidr}
    (hvalue : fromStr value = .ok cidr) :
    CidrText cidr.network cidr.prefixLen (trim value.toList) := by
  unfold fromStr at hvalue
  dsimp only at hvalue
  obtain ⟨hslash, hvalue⟩ : '/' ∈ trim value.toList ∧ _ := by
    by_cases hslash : '/' ∈ trim value.toList
    · exact ⟨hslash, (if_neg (not_not_intro hslash)).symm.trans hvalue⟩
    · rw [if_pos hslash] at hvalue
      exact absurd hvalue (by simp)
  split at hvalue
  · exact absurd hvalue (by simp)
  · rename_i ip haddress
    split at hvalue
    · exact absurd hvalue (by simp)
    · rename_i len hparse
      split at hvalue
      · obtain rfl := Except.ok.inj hvalue
        obtain ⟨sign, digits, hrest, hsign, hdigits, hnumeral, rfl⟩ := eq_of_parseU8 hparse
        rw [append_slash_of_mem hslash, hrest]
        exact CidrText.mk haddress hsign hdigits hnumeral
      · exact absurd hvalue (by simp)

/-- Address characters are no white space. -/
theorem isWhitespace_of_addressChar {c : Char} (hc : IpAddr.IsAddressChar c) :
    isWhitespace c = false := by
  have hbounds {low high : Char} (hrange : low ≤ c ∧ c ≤ high) :
      low.toNat ≤ c.toNat ∧ c.toNat ≤ high.toNat := hrange
  rcases hc with hdigit | rfl | rfl
  · obtain ⟨d, hd⟩ := Option.isSome_iff_exists.mp hdigit
    unfold IpAddr.toDigit at hd
    obtain ⟨hsome, -⟩ := Option.filter_eq_some_iff.mp hd
    split at hsome
    · have h := hbounds ‹_›
      exact isWhitespace_of_printable (le_trans (by decide) h.1) (h.2.trans (by decide))
    · split at hsome
      · have h := hbounds ‹_›
        exact isWhitespace_of_printable (le_trans (by decide) h.1) (h.2.trans (by decide))
      · obtain ⟨hrange, -⟩ := Option.ite_none_right_eq_some.mp hsome
        have h := hbounds hrange
        exact isWhitespace_of_printable (le_trans (by decide) h.1) (h.2.trans (by decide))
  · rfl
  · rfl

theorem trim_cidrText {ip : IpAddr} {len : ℕ} {cs : List Char} (htext : CidrText ip len cs) :
    trim cs = cs := by
  obtain @⟨address, sign, digits, haddress, hsign, hdigits, hnumeral⟩ := htext
  have hchars := IpAddr.isAddressChar_of_fromStr haddress
  rw [String.toList_ofList] at hchars
  refine trim_eq_self (fun c hc => ?_) (fun c hc => ?_)
  · cases address with
    | nil =>
      have hnone : IpAddr.fromStr (String.ofList []) = none := by decide
      exact absurd (hnone.symm.trans haddress) (by simp)
    | cons d address =>
      obtain rfl : d = c := Option.some.inj hc
      exact isWhitespace_of_addressChar (hchars d List.mem_cons_self)
  · have hlast : (address ++ '/' :: (sign ++ digits)).getLast? = digits.getLast? := by
      rw [List.append_cons, ← List.append_assoc]
      exact List.getLast?_append_of_ne_nil _ hdigits
    rw [hlast] at hc
    have hdigit := Char.isDigit_iff_toNat.mp (hnumeral c (List.mem_of_getLast? hc))
    exact isWhitespace_of_printable (le_trans (by decide) hdigit.1) (hdigit.2.trans (by decide))

/-- The texts of ranges are the accepted ones, and a range contains an address exactly when
they are of one family and have the bits of the prefix in common. -/
theorem fromStr_contains (value : String) :
    (∀ cidr, fromStr value = .ok cidr ↔
      CidrText cidr.network cidr.prefixLen (trim value.toList)) ∧
    (∀ ip len, CidrText ip len value.toList →
      trim value.toList = value.toList ∧ (len ≤ maxPrefix ip → ∃ cidr, fromStr value = .ok cidr)) ∧
    (∀ ip len, CidrText ip len (trim value.toList) → maxPrefix ip < len →
      ∃ message, fromStr value = .error message) ∧
    ∀ cidr, fromStr value = .ok cidr → ∀ ip,
      cidr.containsChecked ip = some (cidr.contains ip) ∧
      (cidr.contains ip = true ↔
        cidr.network.SameFamily ip ∧ ∀ i < cidr.prefixLen, ip.bit i = cidr.network.bit i) := by
  refine ⟨fun cidr => ⟨cidrText_of_fromStr, fun htext => ?_⟩, fun ip len htext => ?_,
    fun ip len htext => (fromStr_of_cidrText htext rfl).2,
    fun cidr _ ip => ⟨containsChecked_eq cidr ip, contains_iff cidr ip⟩⟩
  · exact (fromStr_of_cidrText htext rfl).1 cidr.prefix_le
  · have htrim := trim_cidrText htext
    exact ⟨htrim, fun hlen => ⟨_, (fromStr_of_cidrText htext htrim).1 hlen⟩⟩

/-- Blanks around a range and bits behind its prefix are accepted. -/
example : ∃ cidr, fromStr " 192.0.2.77/24 " = .ok cidr ∧ cidr.prefixLen = 24 ∧
    cidr.contains (.v4 0xC0000201) = true ∧ cidr.contains (.v4 0xC0000301) = false :=
  ⟨_, rfl, rfl, rfl, rfl⟩

end TrustedProxyCidr

end GvmGateway.Rest
