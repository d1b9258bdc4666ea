import CacheCluster.Node.Address
import CacheCluster.Proofs.Text.Digits

/-!
# Reading back addresses

A written address is read again, whether it is in dotted form, in groups, or in groups of which a
run of zeros was cut out.

## Main definitions

* `EndsGroup`, `GroupsEnd` : what comes behind a group, and what ends a row of them.
* `addressChars` : the characters that addresses are written with.
* `Ip.written` : the written form of an address without a port.

## Main results

* `readIpv4?_text` : addresses of version four.
* `readIpv6?_cut`, `readIpv6?_ipv6Text` : groups on both sides of a cut, and those of version six.
* `SocketAddress.parse?_text` : addresses with ports.
-/

namespace CacheCluster

open Text (NoDigit noDigit_cons noDigit_nil readNumber? readNumber?_toDigits isDigitOf)

/-! ## Version four -/

theorem Ipv4.toList_text (x : Ipv4) :
    x.text.toList = Nat.toDigits 10 x.a.toNat ++ '.' :: (Nat.toDigits 10 x.b.toNat ++
      '.' :: (Nat.toDigits 10 x.c.toNat ++ '.' :: Nat.toDigits 10 x.d.toNat)) := by
  have hwritten : ∀ a : UInt8, (toString a).toList = Nat.toDigits 10 a.toNat := fun a =>
    Nat.toList_repr
  have hpoint : (toString ".").toList = ['.'] := rfl
  simp [text, hwritten, hpoint]

/-- An address is written with digits and points. -/
theorem Ipv4.mem_text {x : Ipv4} {c : Char} (h : c ∈ x.text.toList) :
    c ∈ "0123456789.".toList := by
  have hdigits : ∀ n, c ∈ Nat.toDigits 10 n → c ∈ "0123456789.".toList := by
    intro n hc
    obtain ⟨d, hd, rfl⟩ := Text.exists_digitChar_of_mem_toDigits (by decide) hc
    have hall : ∀ d : Fin 10, d.val.digitChar ∈ "0123456789.".toList := by decide
    exact hall ⟨d, hd⟩
  rw [x.toList_text] at h
  simp only [List.mem_append, List.mem_cons] at h
  rcases h with h | rfl | h | rfl | h | rfl | h
  · exact hdigits _ h
  · decide
  · exact hdigits _ h
  · decide
  · exact hdigits _ h
  · decide
  · exact hdigits _ h

theorem noDigit_point (rest : List Char) : NoDigit 10 ('.' :: rest) := noDigit_cons (by decide) rest

theorem length_toDigits_octet_le (a : UInt8) : (Nat.toDigits 10 a.toNat).length ≤ 3 :=
  (Nat.length_toDigits_le_iff (by decide) (by decide)).2 (Nat.lt_trans a.toNat_lt (by decide))

/-- A part of an address is read back. -/
theorem readOctet?_toDigits (a : UInt8) {rest : List Char} (hrest : NoDigit 10 rest) :
    readOctet? (Nat.toDigits 10 a.toNat ++ rest) = some (a, rest) := by
  have ha : a.toNat < 256 := a.toNat_lt
  -- Only zero itself is written with a zero in front.
  have hzero : ¬ ((Nat.toDigits 10 a.toNat ++ rest).head? = some '0' ∧
      1 < (Nat.toDigits 10 a.toNat).length) := by
    obtain ⟨c, ds, hds, hc⟩ := Text.toDigits_eq_cons a.toNat
    rintro ⟨hhead, hlong⟩
    rw [hds] at hhead
    rw [hc (Option.some.inj hhead)] at hlong
    exact absurd hlong (by decide)
  rw [readOctet?, readNumber?_toDigits (by decide) (by decide) ha hrest]
  simp only [Option.bind_eq_bind, Option.bind_some, List.length_append, Nat.add_sub_cancel]
  rw [if_neg (not_or.2 ⟨Nat.not_lt.2 (length_toDigits_octet_le a), hzero⟩)]
  simp

/-- An address of version four is read back. -/
theorem readIpv4?_text (x : Ipv4) {rest : List Char} (hrest : NoDigit 10 rest) :
    readIpv4? (x.text.toList ++ rest) = some (x, rest) := by
  rw [x.toList_text, readIpv4?]
  simp only [List.append_assoc, List.cons_append, readOctet?_toDigits _ (noDigit_point _),
    readOctet?_toDigits _ hrest, Option.bind_eq_bind, Option.bind_some, readChar?, if_true]

/-! ## Groups -/

/-- What ends a row of groups: a bracket, the scope in front of it, or the two colons of a cut. -/
inductive GroupsEnd : List Char → Prop
  | bracket (rest : List Char) : GroupsEnd (']' :: rest)
  | scope (rest : List Char) : GroupsEnd ('%' :: rest)
  | colons (rest : List Char) : GroupsEnd (':' :: ':' :: rest)

/-- What comes behind a group begins with a mark that is neither a digit nor a point. -/
def EndsGroup (rest : List Char) : Prop := ∃ c more, rest = c :: more ∧ c ∈ [':', ']', '%']

theorem endsGroup_colon (rest : List Char) : EndsGroup (':' :: rest) := ⟨':', rest, rfl, by simp⟩

theorem EndsGroup.noDigit {rest : List Char} (h : EndsGroup rest) (base : Nat) :
    NoDigit base rest := by
  obtain ⟨c, more, rfl, hc⟩ := h
  refine noDigit_cons ?_ more
  simp only [List.mem_cons, List.not_mem_nil, or_false] at hc
  rcases hc with rfl | rfl | rfl <;> simp [isDigitOf, Text.digitValue?]

theorem EndsGroup.head?_ne_point {rest : List Char} (h : EndsGroup rest) :
    rest.head? ≠ some '.' := by
  obtain ⟨c, more, rfl, hc⟩ := h
  rw [List.head?_cons, ne_eq, Option.some.injEq]
  rintro rfl
  exact absurd hc (by decide)

theorem GroupsEnd.endsGroup {rest : List Char} (h : GroupsEnd rest) : EndsGroup rest := by
  cases h with
  | bracket rest => exact ⟨']', rest, rfl, by simp⟩
  | scope rest => exact ⟨'%', rest, rfl, by simp⟩
  | colons rest => exact endsGroup_colon _

/-- Groups in hexadecimal, each behind a colon. -/
def colonGroups (groups : List UInt16) : List Char :=
  groups.flatMap fun g => ':' :: Nat.toDigits 16 g.toNat

theorem toList_groupsText (gs : List UInt16) :
    (groupsText gs).toList =
      [':'].intercalate (gs.map fun g => Nat.toDigits 16 g.toNat) := by
  have hcolon : ":".toList = [':'] := rfl
  simp [groupsText, hcolon, Function.comp_def]

theorem toList_groupsText_cons (g : UInt16) (gs : List UInt16) :
    (groupsText (g :: gs)).toList = Nat.toDigits 16 g.toNat ++ colonGroups gs := by
  rw [toList_groupsText]
  induction gs generalizing g with
  | nil => simp [List.intercalate, colonGroups]
  | cons h gs ih =>
    have hrest := ih h
    simp only [List.map_cons] at hrest ⊢
    rw [List.intercalate_cons_cons, hrest]
    simp [colonGroups]

theorem length_toDigits_group_le (g : UInt16) : (Nat.toDigits 16 g.toNat).length ≤ 4 :=
  (Nat.length_toDigits_le_iff (by decide) (by decide)).2 g.toNat_lt

/-- A group is read back. -/
theorem readGroup?_toDigits (g : UInt16) {rest : List Char} (hrest : NoDigit 16 rest) :
    readGroup? (Nat.toDigits 16 g.toNat ++ rest) = some (g, rest) := by
  have hg : g.toNat < 0x10000 := g.toNat_lt
  rw [readGroup?, readNumber?_toDigits (by decide) (by decide) hg hrest]
  simp only [Option.bind_eq_bind, Option.bind_some, List.length_append, Nat.add_sub_cancel]
  rw [if_neg (Nat.not_lt.2 (length_toDigits_group_le g))]
  simp

/-- What has no point behind its first digits is no address of version four. -/
theorem readIpv4?_eq_none {cs : List Char}
    (h : (cs.dropWhile (isDigitOf 10)).head? ≠ some '.') : readIpv4? cs = none := by
  have hpoint : readChar? '.' (cs.dropWhile (isDigitOf 10)) = none := by
    cases hdrop : cs.dropWhile (isDigitOf 10) with
    | nil => rfl
    | cons c rest =>
      rw [hdrop] at h
      exact if_neg fun hc => h (by rw [hc]; rfl)
  have hoctet : ∀ a rest, readOctet? cs = some (a, rest) →
      rest = cs.dropWhile (isDigitOf 10) := by
    intro a rest hread
    rw [readOctet?, readNumber?] at hread
    dsimp only at hread
    split at hread
    · cases hread
    · simp only [Option.bind_eq_bind, Option.bind_some] at hread
      split at hread
      · cases hread
      · cases hread
        rfl
  rw [readIpv4?]
  cases hread : readOctet? cs with
  | none => rfl
  | some read =>
    obtain ⟨a, rest⟩ := read
    obtain rfl := hoctet a rest hread
    simp only [Option.bind_eq_bind, Option.bind_some, hpoint, Option.bind_none]

/-- A group is no address of version four. -/
theorem readIpv4?_toDigits (g : UInt16) {rest : List Char} (hrest : EndsGroup rest) :
    readIpv4? (Nat.toDigits 16 g.toNat ++ rest) = none := by
  have hdigits : ∀ c ∈ Nat.toDigits 16 g.toNat, isDigitOf 16 c = true := fun c hc =>
    Text.isDigitOf_of_mem_toDigits (by decide) (by decide) hc
  apply readIpv4?_eq_none
  -- What comes first that is no decimal digit is a letter, a colon or a bracket.
  generalize Nat.toDigits 16 g.toNat = ds at hdigits
  induction ds with
  | nil =>
    rw [List.nil_append, (hrest.noDigit 10).dropWhile_eq_self]
    exact hrest.head?_ne_point
  | cons c ds ih =>
    rw [List.forall_mem_cons] at hdigits
    rw [List.cons_append, List.dropWhile_cons]
    split
    · exact ih hdigits.2
    · rw [List.head?_cons, ne_eq, Option.some.injEq]
      rintro rfl
      exact absurd hdigits.1 (by decide)

theorem endsGroup_colonGroups (gs : List UInt16) {rest : List Char} (h : GroupsEnd rest) :
    EndsGroup (colonGroups gs ++ rest) := by
  cases gs with
  | nil => exact h.endsGroup
  | cons g gs => exact endsGroup_colon _

/-- Where no digit comes next there is neither a group nor an address. -/
theorem EndsGroup.read_eq_none {rest : List Char} (h : EndsGroup rest) :
    readGroup? rest = none ∧ readIpv4? rest = none := by
  constructor
  · rw [readGroup?, Text.readNumber?_of_noDigit (h.noDigit 16)]
    rfl
  · apply readIpv4?_eq_none
    rw [(h.noDigit 10).dropWhile_eq_self]
    exact h.head?_ne_point

/-- A row of groups ends before a bracket and before the two colons of a cut. -/
theorem readGroups_of_groupsEnd (between : Bool) (limit : Nat) {rest : List Char}
    (h : GroupsEnd rest) : readGroups between limit rest = ([], false, rest) := by
  cases limit with
  | zero => rfl
  | succ limit =>
    rw [readGroups]
    cases between with
    | false =>
      obtain ⟨hgroup, haddress⟩ := h.endsGroup.read_eq_none
      simp [hgroup, haddress]
    | true =>
      cases h with
      | bracket rest => simp [readChar?]
      | scope rest => simp [readChar?]
      | colons rest =>
        obtain ⟨hgroup, haddress⟩ := (endsGroup_colon rest).read_eq_none
        simp [readChar?, hgroup, haddress]

/-- Groups behind colons are read back. -/
theorem readGroups_colonGroups {gs : List UInt16} {limit : Nat} (hl : gs.length ≤ limit)
    {rest : List Char} (h : GroupsEnd rest) :
    readGroups true limit (colonGroups gs ++ rest) = (gs, false, rest) := by
  induction gs generalizing limit with
  | nil => exact readGroups_of_groupsEnd true limit h
  | cons g gs ih =>
    obtain ⟨limit, rfl⟩ := Nat.exists_eq_add_one_of_ne_zero (Nat.ne_zero_of_lt hl)
    have hends := endsGroup_colonGroups gs h
    have hcons : colonGroups (g :: gs) ++ rest =
        ':' :: (Nat.toDigits 16 g.toNat ++ (colonGroups gs ++ rest)) := by
      simp [colonGroups]
    rw [hcons, readGroups]
    simp [readChar?, readIpv4?_toDigits g hends, readGroup?_toDigits g (hends.noDigit 16),
      ih (Nat.le_of_succ_le_succ hl)]

theorem readGroups_groupsText {gs : List UInt16} {limit : Nat} (hl : gs.length ≤ limit)
    {rest : List Char} (h : GroupsEnd rest) :
    readGroups false limit ((groupsText gs).toList ++ rest) = (gs, false, rest) := by
  cases gs with
  | nil => exact readGroups_of_groupsEnd false limit h
  | cons g gs =>
    obtain ⟨limit, rfl⟩ := Nat.exists_eq_add_one_of_ne_zero (Nat.ne_zero_of_lt hl)
    have hends := endsGroup_colonGroups gs h
    rw [toList_groupsText_cons, List.append_assoc, readGroups]
    simp [readIpv4?_toDigits g hends, readGroup?_toDigits g (hends.noDigit 16),
      readGroups_colonGroups (Nat.le_of_succ_le_succ hl) h]

/-! ## Version six -/

theorem leadingZeros_spec (gs : List UInt16) :
    gs = List.replicate (leadingZeros gs) 0 ++ gs.drop (leadingZeros gs) := by
  induction gs with
  | nil => rfl
  | cons g gs ih =>
    rw [leadingZeros, List.takeWhile_cons]
    split
    · rename_i hg
      obtain rfl : g = 0 := by simpa using hg
      exact congrArg (0 :: ·) ih
    · rfl

/-- What is cut out of groups are zeros. -/
theorem longestZeros_spec (i : Nat) (gs : List UInt16) :
    ∃ s, (longestZeros i gs).1 = i + s ∧
      gs = gs.take s ++ List.replicate (longestZeros i gs).2 0 ++
        gs.drop (s + (longestZeros i gs).2) := by
  induction gs generalizing i with
  | nil => exact ⟨0, rfl, rfl⟩
  | cons g gs ih =>
    rw [longestZeros]
    split
    · refine ⟨0, rfl, ?_⟩
      rw [List.take_zero, List.nil_append, Nat.zero_add]
      exact leadingZeros_spec (g :: gs)
    · -- The run begins behind the first group.
      obtain ⟨s, hplace, hgs⟩ := ih (i + 1)
      refine ⟨s + 1, by omega, ?_⟩
      rw [List.take_succ_cons, Nat.add_right_comm, List.drop_succ_cons, List.cons_append,
        List.cons_append]
      exact congrArg (g :: ·) hgs

theorem fillGroups_eq {head tail : List UInt16} {groups : Vector UInt16 8}
    (h : groups.toList = head ++ List.replicate (8 - head.length - tail.length) 0 ++ tail) :
    fillGroups head tail = groups := by
  ext i hi
  rw [fillGroups, Vector.getElem_ofFn, ← h]
  simp [hi]

theorem Ipv4.groups_ofGroups (high low : UInt16) : (ofGroups high low).groups = [high, low] := by
  have hword : ∀ w : UInt16,
      ((w.toNat / 256).toUInt8.toNat * 256 + w.toUInt8.toNat).toUInt16 = w := by
    intro w
    have hw : w.toNat < 65536 := w.toNat_lt
    rw [← UInt16.toNat_inj]
    simp
    omega
  rw [groups, ofGroups, hword, hword]

/-- Groups on both sides of a cut are read back, with zeros between them.  A cut stands for one group
at least, and no more are read behind it than that leaves room for. -/
theorem readIpv6?_cut {head tail : List UInt16} (hroom : head.length + tail.length ≤ 7)
    {rest : List Char} (h : GroupsEnd rest) :
    readIpv6? ((groupsText head ++ "::" ++ groupsText tail).toList ++ rest) =
      some (fillGroups head tail, rest) := by
  have hcut : "::".toList = [':', ':'] := rfl
  have hfront : head.length ≤ 8 := by omega
  have hback : tail.length ≤ 7 - head.length := by omega
  have hnot : head.length ≠ 8 := by omega
  have hhead := readGroups_groupsText hfront (.colons ((groupsText tail).toList ++ rest))
  have htail := readGroups_groupsText hback h
  rw [readIpv6?]
  simp only [String.toList_append, hcut, List.append_assoc, List.cons_append, List.nil_append,
    hhead, htail, if_neg hnot, readChar?, if_true, Bool.false_eq_true, if_false,
    Option.bind_eq_bind, Option.bind_some]

/-- Groups in short form are read back. -/
theorem readIpv6?_compressedText (groups : Vector UInt16 8) {rest : List Char}
    (h : GroupsEnd rest) :
    readIpv6? ((compressedText groups.toList).toList ++ rest) = some (groups, rest) := by
  have hall : groups.toList.length = 8 := groups.length_toList
  obtain ⟨place, hplace, hspec⟩ := longestZeros_spec 0 groups.toList
  rw [compressedText]
  cases hrun : longestZeros 0 groups.toList with | mk start length
  rw [hrun] at hplace hspec
  obtain rfl : start = place := by simpa using hplace
  dsimp only at hspec ⊢
  split
  · rename_i hlong
    -- What is left of the eight groups is on one side of the cut or on the other.
    have hlength := congrArg List.length hspec
    simp only [List.length_append, List.length_replicate, hall] at hlength
    rw [readIpv6?_cut (by omega) h, fillGroups_eq]
    have hzeros : 8 - (groups.toList.take start).length -
        (groups.toList.drop (start + length)).length = length := by
      omega
    rw [hzeros]
    exact hspec
  · have hfill : fillGroups groups.toList [] = groups := fillGroups_eq (by simp)
    rw [readIpv6?, readGroups_groupsText (Nat.le_of_eq hall) h]
    dsimp only
    rw [if_pos hall, hfill]

/-- The groups of an address are read back. -/
theorem readIpv6?_ipv6Text (groups : Vector UInt16 8) {rest : List Char} (h : GroupsEnd rest) :
    readIpv6? ((ipv6Text groups.toList).toList ++ rest) = some (groups, rest) := by
  unfold ipv6Text
  split
  · rename_i high low hgroups
    have hfront : "::ffff:".toList = ':' :: ':' :: (Nat.toDigits 16 0xFFFF ++ [':']) := by decide
    have hrest : NoDigit 10 rest := h.endsGroup.noDigit 10
    -- Behind the cut there is one group, and the address stands for the two others.
    have htail : readGroups false 7 (Nat.toDigits 16 0xFFFF ++
        ':' :: ((Ipv4.ofGroups high low).text.toList ++ rest)) =
          ([0xFFFF, high, low], true, rest) := by
      have hends := endsGroup_colon ((Ipv4.ofGroups high low).text.toList ++ rest)
      have haddress := readIpv4?_toDigits 0xFFFF hends
      have hgroup := readGroup?_toDigits 0xFFFF (hends.noDigit 16)
      have hwide : (0xFFFF : UInt16).toNat = 0xFFFF := rfl
      rw [hwide] at haddress hgroup
      rw [readGroups]
      simp only [Nat.reduceLT, if_true, Bool.false_eq_true, if_false, Option.bind_some, haddress,
        hgroup]
      rw [readGroups]
      simp [readChar?, readIpv4?_text _ hrest, Ipv4.groups_ofGroups]
    have hfill : fillGroups [] [0xFFFF, high, low] = groups := fillGroups_eq hgroups
    rw [readIpv6?, String.toList_append, hfront]
    simp only [List.append_assoc, List.cons_append, List.nil_append,
      readGroups_of_groupsEnd false 8 (.colons _)]
    simp [readChar?, htail, hfill]
  · exact readIpv6?_compressedText groups h

/-! ## Characters -/

/-- The characters that addresses are written with, apart from brackets. -/
def addressChars : List Char := "0123456789abcdef.:".toList

theorem mem_addressChars_of_mem_text {x : Ipv4} {c : Char} (h : c ∈ x.text.toList) :
    c ∈ addressChars := by
  have hall : "0123456789.".toList ⊆ addressChars := by decide
  exact hall (Ipv4.mem_text h)

theorem mem_addressChars_of_mem_toDigits {base n : Nat} (hone : 1 < base) (hbase : base ≤ 16)
    {c : Char} (h : c ∈ Nat.toDigits base n) : c ∈ addressChars := by
  obtain ⟨d, hd, rfl⟩ := Text.exists_digitChar_of_mem_toDigits hone h
  have hall : ∀ d : Fin 16, d.val.digitChar ∈ addressChars := by decide
  exact hall ⟨d, by omega⟩

theorem mem_addressChars_of_mem_groupsText {gs : List UInt16} {c : Char}
    (h : c ∈ (groupsText gs).toList) : c ∈ addressChars := by
  cases gs with
  | nil => cases h
  | cons g gs =>
    rw [toList_groupsText_cons, List.mem_append, colonGroups, List.mem_flatMap] at h
    rcases h with h | ⟨g', -, h⟩
    · exact mem_addressChars_of_mem_toDigits (by decide) (by decide) h
    · rcases List.mem_cons.1 h with rfl | h
      · decide
      · exact mem_addressChars_of_mem_toDigits (by decide) (by decide) h

theorem mem_addressChars_of_mem_compressedText {gs : List UInt16} {c : Char}
    (h : c ∈ (compressedText gs).toList) : c ∈ addressChars := by
  rw [compressedText] at h
  dsimp only at h
  split at h
  · simp only [String.toList_append, List.mem_append] at h
    rcases h with (h | h) | h
    · exact mem_addressChars_of_mem_groupsText h
    · have hall : "::".toList ⊆ addressChars := by decide
      exact hall h
    · exact mem_addressChars_of_mem_groupsText h
  · exact mem_addressChars_of_mem_groupsText h

theorem mem_addressChars_of_mem_ipv6Text {gs : List UInt16} {c : Char}
    (h : c ∈ (ipv6Text gs).toList) : c ∈ addressChars := by
  unfold ipv6Text at h
  split at h
  · rw [String.toList_append, List.mem_append] at h
    rcases h with h | h
    · have hall : "::ffff:".toList ⊆ addressChars := by decide
      exact hall h
    · exact mem_addressChars_of_mem_text h
  · exact mem_addressChars_of_mem_compressedText h

/-! ## Ports -/

/-- The written form of an address without a port. -/
def Ip.written : Ip → List Char
  | .v4 address => address.text.toList
  | .v6 groups scope =>
    '[' :: ((ipv6Text groups.toList).toList ++
      ((if scope = 0 then [] else '%' :: Nat.toDigits 10 scope.toNat) ++ [']']))

namespace SocketAddress

theorem toList_text (x : SocketAddress) :
    x.text.toList = x.ip.written ++ ':' :: Nat.toDigits 10 x.port.toNat := by
  obtain ⟨ip, port⟩ := x
  have hport : (toString port).toList = Nat.toDigits 10 port.toNat := Nat.toList_repr
  cases ip with
  | v4 address =>
    have htext : text ⟨.v4 address, port⟩ = address.text ++ ":" ++ toString port := rfl
    simp [htext, Ip.written, hport]
  | v6 groups scope =>
    have htext : text ⟨.v6 groups scope, port⟩ = "[" ++ ipv6Text groups.toList ++
        (if scope = 0 then "" else "%" ++ toString scope) ++ "]:" ++ toString port := rfl
    have hscope : (toString scope).toList = Nat.toDigits 10 scope.toNat := Nat.toList_repr
    rw [htext, Ip.written]
    by_cases hzero : scope = 0 <;> simp [hzero, hport, hscope]

/-- A written address is read again. -/
theorem parse?_text (x : SocketAddress) : parse? x.text = some x := by
  have hdigits : ∀ {bound n : Nat}, n < bound → ∀ {rest : List Char}, NoDigit 10 rest →
      readNumber? 10 bound (Nat.toDigits 10 n ++ rest) = some (n, rest) := fun hn _ hrest =>
    readNumber?_toDigits (by decide) (by decide) hn hrest
  obtain ⟨ip, port⟩ := x
  have hport : readPort? (':' :: Nat.toDigits 10 port.toNat) = some (port, []) := by
    have hread := hdigits port.toNat_lt noDigit_nil
    rw [List.append_nil] at hread
    simp [readPort?, readChar?, hread]
  rw [parse?, toList_text]
  cases ip with
  | v4 address =>
    simp [Ip.written, readIpv4?_text address ((endsGroup_colon _).noDigit 10), hport]
  | v6 groups scope =>
    -- A bracket in front is no digit, so that version four is out.
    have hv4 : ∀ rest, readIpv4? ('[' :: rest) = none := fun rest =>
      readIpv4?_eq_none (by simp [isDigitOf, Text.digitValue?])
    have hclose : NoDigit 10 (']' :: ':' :: Nat.toDigits 10 port.toNat) :=
      (GroupsEnd.bracket _).endsGroup.noDigit 10
    have hscope := hdigits scope.toNat_lt hclose
    by_cases hzero : scope = 0
    · simp [Ip.written, hv4, hzero, readChar?, readIpv6?_ipv6Text groups (.bracket _), readScope,
        hport]
    · simp [Ip.written, hv4, hzero, readChar?, readIpv6?_ipv6Text groups (.scope _), readScope,
        hport, hscope]

end SocketAddress

end CacheCluster
