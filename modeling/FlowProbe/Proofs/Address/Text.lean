import FlowProbe.Address
import FlowProbe.Proofs.Text.Numeral

set_option autoImplicit false

namespace FlowProbe.Address

section Parts

theorem decimalPart_text (octet : UInt8) {rest : List Char} (stop : digits 10 rest = ([], rest)) :
    decimalPart (Nat.toDigits 10 octet.toNat ++ rest) = some (octet.toNat, rest) := by
  obtain ⟨values, shows, reads⟩ := digits_toDigits 10 (by decide) (by decide) octet.toNat
  have below := octet.toNat_lt
  have short : values.length ≤ 3 := by
    rw [shows.length, Nat.length_toDigits_le_iff (by decide) (by decide)]
    omega
  have nonempty := List.length_pos_iff.mpr shows.ne_nil
  rw [decimalPart, reads, stop, List.append_nil]
  dsimp only
  rw [shows.value, if_neg (by omega), if_neg shows.no_leading_zero]

theorem hexGroup_text {number : Nat} (small : number < 65536) {rest : List Char}
    (stop : digits 16 rest = ([], rest)) :
    hexGroup (Nat.toDigits 16 number ++ rest) = some (number, rest) := by
  obtain ⟨values, shows, reads⟩ := digits_toDigits 16 (by decide) (by decide) number
  have short : values.length ≤ 4 := by
    rw [shows.length, Nat.length_toDigits_le_iff (by decide) (by decide)]
    omega
  have nonempty := List.length_pos_iff.mpr shows.ne_nil
  rw [hexGroup, reads, stop, List.append_nil]
  dsimp only
  rw [shows.value, if_neg (by omega)]

theorem decimalPart_other {c : Char} (other : digitValue? 10 c = none) (rest : List Char) :
    decimalPart (c :: rest) = none := by
  rw [decimalPart, digits_stop _ other]
  rfl

theorem hexGroup_other {c : Char} (other : digitValue? 16 c = none) (rest : List Char) :
    hexGroup (c :: rest) = none := by
  rw [hexGroup, digits_stop _ other]
  rfl

theorem dottedPart_other {c : Char} (other : digitValue? 10 c = none) (rest : List Char) :
    dottedPart (c :: rest) = none := by
  rw [dottedPart, decimalPart_other other]
  rfl

theorem digits_suffix (radix : Nat) (chars : List Char) : (digits radix chars).2 <:+ chars := by
  induction chars with
  | nil => exact List.suffix_rfl
  | cons c rest ih =>
    rw [digits]
    split
    next => exact ih.trans (List.suffix_cons c rest)
    next => exact List.suffix_rfl

theorem dottedPart_plain {chars : List Char} (plain : '.' ∉ chars) : dottedPart chars = none := by
  rw [dottedPart]
  cases read : decimalPart chars with
  | none => rfl
  | some part =>
    obtain ⟨number, rest⟩ := part
    have behind : rest <:+ chars := by
      simp only [decimalPart] at read
      split at read
      next => cases read
      next =>
        split at read
        next => cases read
        next =>
          obtain ⟨-, rfl⟩ := Prod.mk.inj (Option.some.inj read)
          exact digits_suffix 10 chars
    have stop : symbol '.' rest = none := by
      cases rest with
      | nil => rfl
      | cons d more =>
        rw [symbol, if_neg]
        rintro rfl
        exact plain (behind.subset List.mem_cons_self)
    simp [stop]

theorem toList_dotted (a b c d : UInt8) :
    (dotted [a, b, c, d]).toList =
      Nat.toDigits 10 a.toNat ++ '.' :: (Nat.toDigits 10 b.toNat ++ '.' ::
        (Nat.toDigits 10 c.toNat ++ '.' :: Nat.toDigits 10 d.toNat)) := by
  simp [dotted, Nat.toList_repr]

theorem dottedPart_text (a b c d : UInt8) :
    dottedPart (dotted [a, b, c, d]).toList =
      some ([a.toNat, b.toNat, c.toNat, d.toNat], []) := by
  have stop (rest : List Char) : digits 10 ('.' :: rest) = ([], '.' :: rest) :=
    digits_stop _ (by decide) rest
  have last : decimalPart (Nat.toDigits 10 d.toNat) = some (d.toNat, []) := by
    rw [← List.append_nil (Nat.toDigits 10 d.toNat)]
    exact decimalPart_text d rfl
  simp [toList_dotted, dottedPart, decimalPart_text _ (stop _), symbol, last]

end Parts

section Groups

def further (numbers : List Nat) : List Char :=
  numbers.flatMap fun number => ':' :: Nat.toDigits 16 number

theorem toList_hexGroups (number : Nat) (numbers : List Nat) :
    (hexGroups (number :: numbers)).toList = Nat.toDigits 16 number ++ further numbers := by
  have each (numbers : List Nat) : [':'].intercalate
      ((Nat.toDigits 16 number) :: numbers.map fun number => Nat.toDigits 16 number) =
        Nat.toDigits 16 number ++ further numbers := by
    induction numbers generalizing number with
    | nil => simp [further]
    | cons next rest ih =>
      rw [List.map_cons, List.intercalate_cons_cons, ih next]
      simp [further]
  rw [← each]
  simp [hexGroups, Function.comp_def]

def Ends (rest : List Char) : Prop :=
  rest = [] ∨ ∃ more, rest = ':' :: ':' :: more

theorem stop_colon (rest : List Char) : digits 16 (':' :: rest) = ([], ':' :: rest) :=
  digits_stop _ (by decide) rest

theorem stop_further (numbers : List Nat) {rest : List Char} (ends : Ends rest) :
    digits 16 (further numbers ++ rest) = ([], further numbers ++ rest) := by
  cases numbers with
  | nil =>
    obtain rfl | ⟨more, rfl⟩ := ends
    next => rfl
    next => exact stop_colon _
  | cons number numbers => exact stop_colon _

theorem readGroups_end (limit : Nat) {rest : List Char} (ends : Ends rest) (first : Bool) :
    readGroups limit first rest = ⟨[], false, rest⟩ := by
  have colon (more : List Char) : dottedPart (':' :: more) = none ∧ hexGroup (':' :: more) = none :=
    ⟨dottedPart_other (by decide) more, hexGroup_other (by decide) more⟩
  have empty : dottedPart [] = none ∧ hexGroup [] = none := ⟨rfl, rfl⟩
  cases limit with
  | zero => rfl
  | succ limit =>
    obtain rfl | ⟨more, rfl⟩ := ends
    next => cases first <;> simp [readGroups, afterColon, symbol, empty]
    next => cases first <;> simp [readGroups, afterColon, symbol, colon]

theorem readGroups_succ (limit : Nat) (first : Bool) {chars behind rest : List Char} {number : Nat}
    (plain : '.' ∉ behind) (opens : afterColon first chars = some behind)
    (reads : hexGroup behind = some (number, rest)) :
    readGroups (limit + 1) first chars =
      { readGroups limit false rest with
        values := number :: (readGroups limit false rest).values } := by
  simp [readGroups, opens, reads, dottedPart_plain plain]

theorem readGroups_further {limit : Nat} {numbers : List Nat} (room : numbers.length ≤ limit)
    (small : ∀ number ∈ numbers, number < 65536) {rest : List Char} (ends : Ends rest)
    (plain : '.' ∉ further numbers ++ rest) :
    readGroups limit false (further numbers ++ rest) = ⟨numbers, false, rest⟩ := by
  induction numbers generalizing limit with
  | nil => exact readGroups_end limit ends false
  | cons number numbers ih =>
    obtain ⟨least, others⟩ := List.forall_mem_cons.mp small
    obtain ⟨limit, rfl⟩ := Nat.exists_eq_add_of_le' (Nat.lt_of_lt_of_le (Nat.succ_pos _) room)
    have written : further (number :: numbers) ++ rest =
        ':' :: (Nat.toDigits 16 number ++ (further numbers ++ rest)) := by
      simp [further]
    rw [written] at plain ⊢
    have behind : '.' ∉ further numbers ++ rest := fun member =>
      plain (List.mem_cons_of_mem _ (List.mem_append_right _ member))
    rw [readGroups_succ limit false (fun member => plain (List.mem_cons_of_mem _ member)) rfl
      (hexGroup_text least (stop_further numbers ends)),
      ih (Nat.le_of_succ_le_succ room) others behind]

theorem readGroups_text {limit : Nat} {numbers : List Nat} (room : numbers.length ≤ limit)
    (small : ∀ number ∈ numbers, number < 65536) {rest : List Char} (ends : Ends rest)
    (plain : '.' ∉ (hexGroups numbers).toList ++ rest) :
    readGroups limit true ((hexGroups numbers).toList ++ rest) = ⟨numbers, false, rest⟩ := by
  cases numbers with
  | nil => exact readGroups_end limit ends true
  | cons number numbers =>
    obtain ⟨least, others⟩ := List.forall_mem_cons.mp small
    obtain ⟨limit, rfl⟩ := Nat.exists_eq_add_of_le' (Nat.lt_of_lt_of_le (Nat.succ_pos _) room)
    rw [toList_hexGroups, List.append_assoc] at plain ⊢
    rw [readGroups_succ limit true plain rfl (hexGroup_text least (stop_further numbers ends)),
      readGroups_further (Nat.le_of_succ_le_succ room) others ends fun member =>
        plain (List.mem_append_right _ member)]

end Groups

section Zeros

theorem take_zeroRun (numbers : List Nat) :
    ∃ after, numbers = List.replicate (zeroRun numbers) 0 ++ after := by
  refine ⟨numbers.dropWhile (· == 0), ?_⟩
  have zeros : numbers.takeWhile (· == 0) = List.replicate (zeroRun numbers) 0 := by
    refine List.eq_replicate_iff.mpr ⟨rfl, fun number member => ?_⟩
    simpa using List.all_eq_true.mp List.all_takeWhile number member
  rw [← zeros, List.takeWhile_append_dropWhile]

theorem longestZeroRun_cut (start : Nat) (numbers : List Nat) :
    ∃ before after,
      numbers = before ++ List.replicate (longestZeroRun start numbers).2 0 ++ after ∧
        (longestZeroRun start numbers).1 = start + before.length := by
  induction numbers generalizing start with
  | nil => exact ⟨[], [], rfl, rfl⟩
  | cons number rest ih =>
    rw [longestZeroRun]
    split
    next =>
      obtain ⟨after, cut⟩ := take_zeroRun (number :: rest)
      exact ⟨[], after, cut, rfl⟩
    next =>
      obtain ⟨before, after, cut, place⟩ := ih (start + 1)
      refine ⟨number :: before, after, ?_, ?_⟩
      next => rw [List.cons_append, List.cons_append, ← cut]
      next =>
        rw [place, List.length_cons]
        omega

end Zeros

section Octets

theorem octetsOf_groups {bytes : List UInt8} (even : bytes.length % 2 = 0) :
    octetsOf (groups bytes) = bytes := by
  fun_induction groups bytes with
  | case1 high low rest ih =>
    have upper := high.toNat_lt
    have lower := low.toNat_lt
    have left : (high.toNat * 256 + low.toNat) / 256 = high.toNat := by omega
    have right : (high.toNat * 256 + low.toNat) % 256 = low.toNat := by omega
    have tail := ih (by rw [List.length_cons, List.length_cons] at even; omega)
    rw [octetsOf] at tail ⊢
    rw [List.flatMap_cons, left, right, tail, UInt8.ofNat_toNat, UInt8.ofNat_toNat]
    rfl
  | case2 bytes short =>
    cases bytes with
    | nil => rfl
    | cons high rest =>
      cases rest with
      | nil => cases even
      | cons low rest => exact absurd rfl (short high low rest)

theorem length_groups (bytes : List UInt8) : (groups bytes).length = bytes.length / 2 := by
  fun_induction groups bytes with
  | case1 high low rest ih =>
    rw [List.length_cons, ih, List.length_cons, List.length_cons]
    omega
  | case2 bytes short =>
    cases bytes with
    | nil => rfl
    | cons high rest =>
      cases rest with
      | nil => simp
      | cons low rest => exact absurd rfl (short high low rest)

theorem groups_lt (bytes : List UInt8) : ∀ number ∈ groups bytes, number < 65536 := by
  fun_induction groups bytes with
  | case1 high low rest ih =>
    have upper := high.toNat_lt
    have lower := low.toNat_lt
    exact List.forall_mem_cons.mpr ⟨by omega, ih⟩
  | case2 => exact List.forall_mem_nil _

theorem plain_hexGroups (numbers : List Nat) : '.' ∉ (hexGroups numbers).toList := by
  have digit (number : Nat) : '.' ∉ Nat.toDigits 16 number := fun member =>
    digit_of_toDigits (by decide) (by decide) member (by decide)
  cases numbers with
  | nil => exact List.not_mem_nil
  | cons number numbers =>
    rw [toList_hexGroups, List.mem_append, further, List.mem_flatMap]
    rintro (member | ⟨other, -, member⟩)
    next => exact digit number member
    next =>
      rcases List.mem_cons.mp member with same | member
      next => exact absurd same (by decide)
      next => exact digit other member

theorem ofOctets?_v4 (octets : Octets 4) : ofOctets? octets.val = some (.v4 octets) := by
  rw [ofOctets?, dif_pos octets.property]

theorem ofOctets?_v6 (octets : Octets 16) : ofOctets? octets.val = some (.v6 octets) := by
  have wide : ¬octets.val.length = 4 := by
    rw [octets.property]
    decide
  rw [ofOctets?, dif_neg wide, dif_pos octets.property]

theorem version6Groups_whole {numbers : List Nat} (eight : numbers.length = 8)
    (small : ∀ number ∈ numbers, number < 65536) :
    version6Groups (hexGroups numbers).toList = some (numbers, []) := by
  have reads := readGroups_text (Nat.le_of_eq eight) small (.inl rfl)
    (by rw [List.append_nil]; exact plain_hexGroups numbers)
  rw [List.append_nil] at reads
  rw [version6Groups, reads]
  exact if_pos eight

theorem version6Groups_shortened {before after : List Nat} {zeros : Nat} (run : 0 < zeros)
    (eight : before.length + zeros + after.length = 8)
    (smallBefore : ∀ number ∈ before, number < 65536)
    (smallAfter : ∀ number ∈ after, number < 65536) :
    version6Groups ((hexGroups before).toList ++ ':' :: ':' :: (hexGroups after).toList) =
      some (before ++ List.replicate zeros 0 ++ after, []) := by
  have plain : '.' ∉ (hexGroups before).toList ++ ':' :: ':' :: (hexGroups after).toList := by
    simp [plain_hexGroups]
  have room : before.length ≤ 8 := by omega
  have roomBehind : after.length ≤ 7 - before.length := by omega
  have head := readGroups_text room smallBefore (.inr ⟨_, rfl⟩) plain
  have tail := readGroups_text roomBehind smallAfter (.inl rfl)
    (by rw [List.append_nil]; exact plain_hexGroups after)
  rw [List.append_nil] at tail
  have short : ¬before.length = 8 := by omega
  have missing : 8 - before.length - after.length = zeros := by omega
  simp [version6Groups, head, short, symbol, tail, missing]

theorem version6Groups_mapped (a b c d : UInt8) :
    version6Groups (':' :: ':' :: 'f' :: 'f' :: 'f' :: 'f' :: ':' :: (dotted [a, b, c, d]).toList) =
      some ([0, 0, 0, 0, 0, 0xffff, a.toNat * 256 + b.toNat, c.toNat * 256 + d.toNat], []) := by
  have head (rest : List Char) := readGroups_end 8 (.inr ⟨rest, rfl⟩) true
  have group : hexGroup ('f' :: 'f' :: 'f' :: 'f' :: ':' :: (dotted [a, b, c, d]).toList) =
      some (0xffff, ':' :: (dotted [a, b, c, d]).toList) :=
    hexGroup_text (show 0xffff < 65536 by decide) (stop_colon _)
  have tail : readGroups 7 true ('f' :: 'f' :: 'f' :: 'f' :: ':' :: (dotted [a, b, c, d]).toList) =
      ⟨[0xffff, a.toNat * 256 + b.toNat, c.toNat * 256 + d.toNat], true, []⟩ := by
    have letter (rest : List Char) := dottedPart_other (c := 'f') (by decide) rest
    simp [readGroups, afterColon, letter, group, symbol, dottedPart_text]
  simp [version6Groups, head, symbol, tail]

theorem ofText?_grouped {source : String} {numbers : List Nat}
    (ungrouped : dottedPart source.toList = none)
    (grouped : version6Groups source.toList = some (numbers, [])) :
    ofText? source = ofOctets? (octetsOf numbers) := by
  rw [ofText?, ungrouped, grouped]

theorem ofText?_dotted (octets : Octets 4) : ofText? (dotted octets.val) = some (.v4 octets) := by
  obtain ⟨bytes, four⟩ := octets
  match bytes, four with
  | [a, b, c, d], four =>
    rw [ofText?, dottedPart_text]
    simpa using ofOctets?_v4 ⟨[a, b, c, d], four⟩

theorem ofText?_mapped {octets : Octets 16} {inner : List UInt8}
    (maps : mapped? octets.val = some inner) :
    ofText? ("::ffff:" ++ dotted inner) = some (.v6 octets) := by
  rw [mapped?, Option.ite_none_right_eq_some] at maps
  obtain ⟨front, behind⟩ := maps
  have whole : octets.val = List.replicate 10 0 ++ [0xff, 0xff] ++ inner := by
    rw [← front, ← Option.some.inj behind, List.take_append_drop]
  have four : inner.length = 4 := by
    have sixteen := octets.property
    rw [whole] at sixteen
    simpa using sixteen
  match inner, four with
  | [a, b, c, d], _ =>
    have written : ("::ffff:" ++ dotted [a, b, c, d]).toList =
        ':' :: ':' :: 'f' :: 'f' :: 'f' :: 'f' :: ':' :: (dotted [a, b, c, d]).toList := by
      simp
    have shown : [0, 0, 0, 0, 0, 0xffff, a.toNat * 256 + b.toNat, c.toNat * 256 + d.toNat] =
        groups octets.val := by
      rw [whole]
      rfl
    rw [ofText?_grouped (by rw [written]; exact dottedPart_other (by decide) _)
      (by rw [written]; exact version6Groups_mapped a b c d), shown,
      octetsOf_groups (by rw [octets.property]), ofOctets?_v6]

theorem ofText?_shortened {octets : Octets 16} {before after : List Nat} {zeros : Nat}
    (run : 0 < zeros) (cut : groups octets.val = before ++ List.replicate zeros 0 ++ after) :
    ofText? (hexGroups before ++ "::" ++ hexGroups after) = some (.v6 octets) := by
  have eight := length_groups octets.val
  have small := groups_lt octets.val
  rw [octets.property, cut, List.length_append, List.length_append, List.length_replicate] at eight
  rw [cut] at small
  have written : (hexGroups before ++ "::" ++ hexGroups after).toList =
      (hexGroups before).toList ++ ':' :: ':' :: (hexGroups after).toList := by
    simp
  have grouped := version6Groups_shortened run eight
    (fun number member => small number (List.mem_append_left _ (List.mem_append_left _ member)))
    (fun number member => small number (List.mem_append_right _ member))
  have ungrouped : dottedPart (hexGroups before ++ "::" ++ hexGroups after).toList = none :=
    dottedPart_plain (by simp [plain_hexGroups])
  rw [ofText?_grouped ungrouped (by rw [written]; exact grouped), ← cut,
    octetsOf_groups (by rw [octets.property]), ofOctets?_v6]

theorem ofText?_whole {octets : Octets 16} :
    ofText? (hexGroups (groups octets.val)) = some (.v6 octets) := by
  have eight : (groups octets.val).length = 8 := by
    rw [length_groups, octets.property]
  rw [ofText?_grouped (dottedPart_plain (plain_hexGroups _))
    (version6Groups_whole eight (groups_lt octets.val)),
    octetsOf_groups (by rw [octets.property]), ofOctets?_v6]

theorem ofText?_text (address : Address) : ofText? address.text = some address := by
  cases address with
  | v4 octets => exact ofText?_dotted octets
  | v6 octets =>
    rw [text, compressed]
    cases maps : mapped? octets.val with
    | some inner => exact ofText?_mapped maps
    | none =>
      dsimp only
      obtain ⟨before, after, cut, place⟩ := longestZeroRun_cut 0 (groups octets.val)
      generalize longestZeroRun 0 (groups octets.val) = run at cut place ⊢
      split
      next long =>
        have front : (groups octets.val).take run.1 = before := by
          rw [cut, place, Nat.zero_add, List.append_assoc, List.take_left]
        have behind : (groups octets.val).drop (run.1 + run.2) = after := by
          rw [cut, place, Nat.zero_add, List.drop_left' (by simp)]
        rw [front, behind]
        exact ofText?_shortened (Nat.zero_lt_of_lt long) cut
      next => exact ofText?_whole

end Octets

end FlowProbe.Address
