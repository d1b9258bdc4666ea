import CacheCluster.Http.Host
import CacheCluster.Proofs.Node.Address
import CacheCluster.Proofs.Text.Utf8
import Mathlib.Data.Bool.AllAny

/-!
# Addresses as hosts

An address of version four is its own host in the web: as a name it stands for itself, and its parts
are the numbers that they write.  One of version six is written in short form, in brackets.

## Main definitions

* `Domain.IsPlain` : characters that stand for themselves in a name.
* `Ip.host` : the host that an address is in the web.
* `Ip.IsUnscoped` : an address without a scope.

## Main results

* `Domain.written?_of_ascii` : names of plain characters stand for themselves.
* `Http.readHost_written` : the host that a written address is read as.
-/

namespace CacheCluster

/-! ## Names -/

namespace Domain

theorem mapM_eq_some_map {α β : Type} {f : α → Option β} {g : α → β} {l : List α}
    (h : ∀ x ∈ l, f x = some (g x)) : l.mapM f = some (l.map g) := by
  induction l with
  | nil => rfl
  | cons x l ih =>
    rw [List.forall_mem_cons] at h
    rw [List.mapM_cons, h.1, ih h.2]
    rfl

/-- A character that stands for itself in a name. -/
def IsPlain (c : Char) : Prop := isForbidden c = false ∧ c.toNat < 0x80 ∧ c.toLower = c

theorem mapped?_of_ascii {cs : List Char} (h : ∀ c ∈ cs, IsPlain c) : mapped? cs = some cs := by
  have himages : cs.mapM images? = some (cs.map fun c => [c]) := by
    refine mapM_eq_some_map ?_
    intro c hc
    obtain ⟨hallowed, hascii, hlower⟩ := h c hc
    rw [images?_of_ascii hallowed hascii, hlower]
  have hnone : cs.any isForbidden = false :=
    List.any_eq_false.2 fun c hc => Bool.not_eq_true _ ▸ (h c hc).1
  rw [mapped?, himages]
  simp only [Option.bind_eq_bind, Option.bind_some, ← List.flatMap_def, List.flatMap_singleton',
    hnone, Bool.false_eq_true, if_false]

/-- A name of plain characters stands for itself, unless one of its labels is encoded. -/
theorem written?_of_ascii {cs : List Char} (h : ∀ c ∈ cs, IsPlain c)
    (hlabels : ∀ label ∈ Text.partsAt (· == '.') cs, isEncoded label = false) :
    written? cs = some cs := by
  have hcomposed : composed cs = cs :=
    composed_of_forall fun c hc => Nat.lt_trans (h c hc).2.1 (by decide)
  have hascii : ∀ label ∈ Text.partsAt (· == '.') cs, ∀ c ∈ label, c.toNat < 0x80 :=
    fun label hlabel c hc => (h c (Text.mem_of_mem_partsAt hlabel hc)).2.1
  rw [written?, mapped?_of_ascii h]
  simp only [Option.bind_eq_bind, Option.bind_some, hcomposed]
  have hjoined : ['.'].intercalate (Text.partsAt (· == '.') cs) = cs :=
    Text.intercalate_partsAt '.' cs
  generalize Text.partsAt (· == '.') cs = labels at hlabels hascii hjoined ⊢
  have hread : labels.mapM readLabel? = some (labels.map id) :=
    mapM_eq_some_map fun label hlabel => readLabel?_of_ascii (hlabels label hlabel)
  have hplaced : labels.all isWellPlaced = true :=
    List.all_eq_true.2 fun label hlabel => isWellPlaced_of_ascii (hascii label hlabel)
  -- Nothing runs from right to left in ASCII.
  have hback : labels.any runsBack = false := by
    rw [List.any_eq_false]
    intro label hlabel
    rw [runsBack, Bool.not_eq_true, List.any_eq_false]
    intro c hc
    have hlow : ¬ 0x590 ≤ c.toNat := by
      have := hascii label hlabel c hc
      omega
    simp [hlow]
  have hwritten : (labels.zip labels).mapM (fun e => writeLabel? e.1 e.2) =
      some ((labels.zip labels).map Prod.fst) := by
    refine mapM_eq_some_map ?_
    have hzip : labels.zip labels = labels.map fun label => (label, label) := by
      simpa using List.zip_map' (f := id) (g := id) (l := labels)
    rw [hzip, List.forall_mem_map]
    exact fun label hlabel => writeLabel?_of_ascii (hascii label hlabel)
  rw [List.map_id] at hread
  rw [List.map_fst_zip (Nat.le_refl _)] at hwritten
  simp only [hread, Option.bind_some, hplaced, hback, Bool.not_false, Bool.true_or, Bool.and_self,
    if_true, hwritten, hjoined]

end Domain

/-! ## Version four -/

/-- The digits of the parts of an address. -/
def Ipv4.parts (x : Ipv4) : List (List Char) :=
  [x.a, x.b, x.c, x.d].map fun n => Nat.toDigits 10 n.toNat

theorem Ipv4.partsAt_text (x : Ipv4) : Text.partsAt (· == '.') x.text.toList = x.parts := by
  have hdigits : ∀ n, Text.partsAt (· == '.') (Nat.toDigits 10 n) = [Nat.toDigits 10 n] := by
    intro n
    apply Text.partsAt_of_forall
    intro c hc
    obtain ⟨d, hd, rfl⟩ := Text.exists_digitChar_of_mem_toDigits (by decide) hc
    have hall : ∀ d : Fin 10, (d.val.digitChar == '.') = false := by decide
    exact hall ⟨d, hd⟩
  rw [x.toList_text, Text.partsAt_append (by rfl), Text.partsAt_append (by rfl),
    Text.partsAt_append (by rfl)]
  simp only [hdigits]
  rfl

namespace Http

/-- Decimal digits are a part of a numeric host. -/
theorem hostNumber?_toDigits (n : Nat) : hostNumber? (Nat.toDigits 10 n) = some n := by
  obtain ⟨c, ds, hds, hzero⟩ := Text.toDigits_eq_cons n
  by_cases hc : c = '0'
  · obtain rfl := hzero hc
    rfl
  · -- Without a zero in front the base is ten.
    have hdigits : (Nat.toDigits 10 n).all (Text.isDigitOf 10) = true :=
      List.all_eq_true.2 fun c hc => Text.isDigitOf_of_mem_toDigits (by decide) (by decide) hc
    have hvalue : Text.ofDigits 10 (Nat.toDigits 10 n) = n :=
      Text.ofDigits_toDigits (by decide) (by decide) n
    rw [hds] at hdigits hvalue ⊢
    have hbase : hostNumber? (c :: ds) = if !(c :: ds).isEmpty && (c :: ds).all (Text.isDigitOf 10)
        then some (Text.ofDigits 10 (c :: ds)) else none := by
      unfold hostNumber?
      split
      simp_all
    rw [hbase, hdigits, hvalue]
    rfl

theorem ipv4Value?_octets (x : Ipv4) :
    ipv4Value? 4 [x.a.toNat, x.b.toNat, x.c.toNat, x.d.toNat] =
      some (x.a.toNat * 0x1000000 + (x.b.toNat * 0x10000 + (x.c.toNat * 0x100 + x.d.toNat))) := by
  have hlt : ∀ n : UInt8, n.toNat < 256 := fun n => n.toNat_lt
  simp [ipv4Value?, hlt]

theorem unescape_of_notMem {cs : List Char} (h : '%' ∉ cs) :
    unescape cs = cs.flatMap Text.encodeChar := by
  induction cs with
  | nil => rfl
  | cons c cs ih =>
    rw [List.mem_cons, not_or] at h
    have hc : c ≠ '%' := Ne.symm h.1
    simp [unescape, hc, ih h.2]

/-- A text without escapes is what it stands for. -/
theorem decodeLossy_unescape {cs : List Char} (h : '%' ∉ cs) :
    (Text.decodeLossy (unescape cs)).toList = cs := by
  have hread := Text.decodeLossy_encode (String.ofList cs)
  rw [Text.encode, String.toList_ofList] at hread
  rw [unescape_of_notMem h, hread, String.toList_ofList]

theorem hostParts_text (x : Ipv4) : hostParts x.text.toList = x.parts := by
  have hlast : x.parts.getLast? = some (Nat.toDigits 10 x.d.toNat) := rfl
  rw [hostParts, x.partsAt_text, if_neg]
  rintro ⟨hempty, -⟩
  rw [hlast] at hempty
  exact Nat.toDigits_ne_nil (Option.some.inj hempty)

theorem endsInNumber_text (x : Ipv4) : endsInNumber x.text.toList = true := by
  have hlast : x.parts.getLast? = some (Nat.toDigits 10 x.d.toNat) := rfl
  rw [endsInNumber, hostParts_text, hlast]
  -- The last part is there and is not empty, so that it is the number that counts.
  split
  · rename_i h
    cases h
  · rename_i h
    exact absurd (Option.some.inj h) Nat.toDigits_ne_nil
  · rename_i last _ h
    obtain rfl := Option.some.inj h
    rw [hostNumber?_toDigits, Option.isSome_some, Bool.or_true]

/-- An address of version four stands for itself as a name. -/
theorem written?_text (x : Ipv4) : Domain.written? x.text.toList = some x.text.toList := by
  apply Domain.written?_of_ascii
  · intro c hc
    have hall : ∀ c ∈ "0123456789.".toList,
        Domain.isForbidden c = false ∧ c.toNat < 0x80 ∧ c.toLower = c :=
      List.all_iff_forall_prop.1 (by decide)
    exact hall c (Ipv4.mem_text hc)
  · -- No label begins with a letter.
    rw [x.partsAt_text, Ipv4.parts, List.forall_mem_map]
    intro n _
    obtain ⟨c, ds, hds, -⟩ := Text.toDigits_eq_cons n.toNat
    have hc : c ≠ 'x' := by
      have hmem : c ∈ Nat.toDigits 10 n.toNat := by simp [hds]
      obtain ⟨d, hd, rfl⟩ := Text.exists_digitChar_of_mem_toDigits (by decide) hmem
      have hall : ∀ d : Fin 10, d.val.digitChar ≠ 'x' := by decide
      exact hall ⟨d, hd⟩
    simp [hds, Domain.isEncoded, Domain.encodedPrefix, List.isPrefixOf, hc.symm]

theorem readIpv4Host_text (x : Ipv4) : readIpv4Host x.text.toList = .ok x.text.toList := by
  have hnumbers : x.parts.mapM hostNumber? =
      some [x.a.toNat, x.b.toNat, x.c.toNat, x.d.toNat] := by
    simp [Ipv4.parts, hostNumber?_toDigits]
  have ha : x.a.toNat < 256 := x.a.toNat_lt
  have hb : x.b.toNat < 256 := x.b.toNat_lt
  have hc : x.c.toNat < 256 := x.c.toNat_lt
  have hd : x.d.toNat < 256 := x.d.toNat_lt
  have hbyte : ∀ (n : Nat) (y : UInt8), n % 256 = y.toNat → n.toUInt8 = y := by
    intro n y h
    rw [← UInt8.toNat_inj]
    simpa using h
  rw [readIpv4Host, hostParts_text, hnumbers]
  dsimp only
  rw [ipv4Value?_octets]
  dsimp only
  -- The number is cut into its bytes again, and these are the parts.
  rw [hbyte _ x.a (by omega), hbyte _ x.b (by omega), hbyte _ x.c (by omega),
    hbyte _ x.d (by omega)]

theorem readDomain_text (x : Ipv4) : readDomain x.text.toList = .ok x.text.toList := by
  have hescape : '%' ∉ x.text.toList := fun h => absurd (Ipv4.mem_text h) (by decide)
  have hnil : x.text.toList ≠ [] := by
    rw [x.toList_text]
    simp
  rw [readDomain, decodeLossy_unescape hescape, written?_text]
  split
  · rename_i h
    cases h
  · rename_i h
    exact absurd (Option.some.inj h) hnil
  · rename_i domain _ h
    obtain rfl := Option.some.inj h
    rw [endsInNumber_text, if_pos rfl, readIpv4Host_text]

/-- An address of version four is its own host. -/
theorem readHost_text (x : Ipv4) : readHost x.text.toList = .ok x.text.toList := by
  have hread := readDomain_text x
  have hmem := fun c => Ipv4.mem_text (x := x) (c := c)
  cases h : x.text.toList with
  | nil =>
    rw [x.toList_text] at h
    simp at h
  | cons c cs =>
    rw [h] at hread hmem
    -- Only a bracket in front would make another kind of host of it.
    have hc : c ≠ '[' := by
      rintro rfl
      exact absurd (hmem _ List.mem_cons_self) (by decide)
    simpa [readHost, hc] using hread

/-! ## Version six -/

/-- Groups of version six in brackets are a host in short form. -/
theorem readHost_ipv6Text (groups : Vector UInt16 8) :
    readHost ('[' :: ((ipv6Text groups.toList).toList ++ [']'])) =
      .ok ('[' :: ((compressedText groups.toList).toList ++ [']'])) := by
  rw [readHost, readIpv6Host, readIpv6?_ipv6Text groups (.bracket [])]
  rfl

end Http

/-- The host that an address is in the web. -/
def Ip.host : Ip → List Char
  | .v4 address => address.text.toList
  | .v6 groups _ => '[' :: ((compressedText groups.toList).toList ++ [']'])

/-- Whether an address is without a scope. -/
def Ip.IsUnscoped : Ip → Prop
  | .v4 _ => True
  | .v6 _ scope => scope = 0

/-- A written address without a scope is read as its host. -/
theorem Http.readHost_written {ip : Ip} (h : ip.IsUnscoped) :
    readHost ip.written = .ok ip.host := by
  cases ip with
  | v4 address => exact readHost_text address
  | v6 groups scope =>
    obtain rfl : scope = 0 := h
    exact readHost_ipv6Text groups

/-! ## What hosts are made of -/

theorem length_colonGroups_le (gs : List UInt16) : (colonGroups gs).length ≤ 5 * gs.length := by
  induction gs with
  | nil => exact Nat.le_refl _
  | cons g gs ih =>
    -- Four digits and a colon for each group.
    have hg := length_toDigits_group_le g
    rw [colonGroups] at ih ⊢
    rw [List.flatMap_cons, List.length_append, List.length_cons, List.length_cons]
    omega

theorem length_groupsText_le (gs : List UInt16) :
    (groupsText gs).toList.length ≤ 5 * gs.length := by
  cases gs with
  | nil => exact Nat.le_refl _
  | cons g gs =>
    have hg := length_toDigits_group_le g
    have hgs := length_colonGroups_le gs
    rw [toList_groupsText_cons, List.length_append, List.length_cons]
    omega

theorem length_compressedText_le (gs : List UInt16) :
    (compressedText gs).toList.length ≤ 5 * gs.length + 2 := by
  rw [compressedText]
  dsimp only
  split
  · rename_i h
    have hhead := length_groupsText_le (gs.take (longestZeros 0 gs).1)
    have htail := length_groupsText_le
      (gs.drop ((longestZeros 0 gs).1 + (longestZeros 0 gs).2))
    have hcut : "::".toList.length = 2 := rfl
    rw [String.toList_append, String.toList_append, List.length_append, List.length_append, hcut]
    rw [List.length_take] at hhead
    rw [List.length_drop] at htail
    omega
  · exact Nat.le_add_right_of_le (length_groupsText_le gs)

/-- Hosts of addresses are short. -/
theorem Ip.length_host_le (ip : Ip) : ip.host.length ≤ 44 := by
  cases ip with
  | v4 address =>
    have ha := length_toDigits_octet_le address.a
    have hb := length_toDigits_octet_le address.b
    have hc := length_toDigits_octet_le address.c
    have hd := length_toDigits_octet_le address.d
    rw [host, address.toList_text]
    simp only [List.length_append, List.length_cons]
    omega
  | v6 groups scope =>
    have hgroups := length_compressedText_le groups.toList
    rw [Vector.length_toList] at hgroups
    simp only [host, List.length_cons, List.length_append, List.length_nil]
    omega

theorem mem_brackets {l : List Char} (hl : ∀ c ∈ l, c ∈ addressChars) {c : Char}
    (h : c ∈ '[' :: (l ++ [']'])) : c ∈ addressChars ++ ['[', ']'] := by
  rcases List.mem_cons.1 h with rfl | h
  · decide
  · rcases List.mem_append.1 h with h | h
    · exact List.mem_append_left _ (hl c h)
    · rw [List.mem_singleton.1 h]
      decide

theorem Ip.mem_host {ip : Ip} {c : Char} (h : c ∈ ip.host) : c ∈ addressChars ++ ['[', ']'] := by
  cases ip with
  | v4 address => exact List.mem_append_left _ (mem_addressChars_of_mem_text h)
  | v6 groups scope => exact mem_brackets (fun c => mem_addressChars_of_mem_compressedText) h

theorem Ip.mem_written {ip : Ip} (hip : ip.IsUnscoped) {c : Char} (h : c ∈ ip.written) :
    c ∈ addressChars ++ ['[', ']'] := by
  cases ip with
  | v4 address => exact List.mem_append_left _ (mem_addressChars_of_mem_text h)
  | v6 groups scope =>
    obtain rfl : scope = 0 := hip
    exact mem_brackets (fun c => mem_addressChars_of_mem_ipv6Text) h

end CacheCluster
