import CacheCluster.Http.Url
import CacheCluster.Proofs.Http.Host
import Mathlib.Data.List.TakeWhile
import Mathlib.Data.String.Basic

/-!
# Addresses in the web

Behind a scheme and in front of a path an address with a port is read as just these: nobody in front
of the host, the host that the address is, and its port unless that is the default one.

## Main definitions

* `Url.IsPlain` : characters without a meaning of their own in an authority.
* `Url.Splits` : an authority and a path that nothing follows.
* `Url.ofAddress` : the web address of a path at an address.

## Main results

* `Url.Splits.parse_eq` : what an authority and a path are read as.
* `Url.parse_address` : the web address of a path at an address with a port is read back.
* `Url.isSendable_ofAddress` : requests can be sent there.
-/

namespace CacheCluster.Http.Url

open Text (NoDigit)

/-- A character without a meaning of its own in an authority. -/
def IsPlain (c : Char) : Prop := 0x20 < c.toNat ∧ c ∉ ['#', '?', '/', '\\', '@']

/-! ## Cuts -/

/-- A text is cut where the first character of a kind is. -/
theorem cutAt_append {p : Char → Bool} {l r : List Char} (hl : ∀ c ∈ l, p c = false)
    (hr : ∀ c, r.head? = some c → p c = true) : cutAt p (l ++ r) = (l, r) := by
  have hl' : ∀ c ∈ l, (!p c) = true := fun c hc => by rw [hl c hc]; rfl
  rw [cutAt, List.takeWhile_append_of_pos hl', List.dropWhile_append_of_pos hl']
  cases r with
  | nil => simp
  | cons c r => simp [hr c rfl]

theorem cutAt_of_forall {p : Char → Bool} {l : List Char} (hl : ∀ c ∈ l, p c = false) :
    cutAt p l = (l, []) := by
  have hcut := cutAt_append (r := []) hl (by simp)
  rwa [List.append_nil] at hcut

/-- The host ends at the first colon. -/
theorem cutHost_append {l r : List Char} (hl : ∀ c ∈ l, c ≠ ':' ∧ c ≠ '[') :
    cutHost false (l ++ ':' :: r) = (l, ':' :: r) := by
  induction l with
  | nil => rfl
  | cons c l ih =>
    rw [List.forall_mem_cons] at hl
    simp [cutHost, hl.1, ih hl.2]

/-- The host goes on up to the bracket that closes it. -/
theorem cutHost_between {l r : List Char} (hl : ']' ∉ l) :
    cutHost true (l ++ ']' :: ':' :: r) = (l ++ [']'], ':' :: r) := by
  induction l with
  | nil => rfl
  | cons c l ih =>
    rw [List.mem_cons, not_or] at hl
    have hc : c ≠ ']' := Ne.symm hl.1
    simp [cutHost, hc, ih hl.2]

/-! ## Authorities -/

/-- The port of an authority is the number that its digits write. -/
theorem readPort_toDigits (port : UInt16) :
    readPort false (Nat.toDigits 10 port.toNat) =
      .ok (if port.toNat = 80 then none else some port.toNat) := by
  have hread : Text.readNumber? 10 0x10000 (Nat.toDigits 10 port.toNat ++ []) =
      some (port.toNat, []) :=
    Text.readNumber?_toDigits (by decide) (by decide) port.toNat_lt Text.noDigit_nil
  rw [List.append_nil] at hread
  rw [readPort, hread]
  simp [Nat.toDigits_ne_nil]

/-- Without a sign behind a user there is none. -/
theorem readAuthority_of_notMem {secure : Bool} {cs : List Char} (h : '@' ∉ cs) :
    readAuthority secure cs = do
      let (host, port) := cutHost false cs
      let host ← (readHost host).mapError UrlError.host
      return (none, host, ← readPort secure port.tail) := by
  have hall : ∀ c ∈ cs.reverse, (c != '@') = true := by
    intro c hc
    rw [bne_iff_ne]
    rintro rfl
    exact h (List.mem_reverse.1 hc)
  have hplace : (cs.reverse.takeWhile (· != '@')).reverse = cs := by
    rw [List.takeWhile_eq_self_iff.2 hall, List.reverse_reverse]
  -- Nothing is in front of the place, so there is no name to be kept.
  have huser : keptUser? [] = none := by decide +kernel
  rw [readAuthority, hplace, Nat.sub_self, List.take_zero, List.dropLast_nil, huser]

/-! ## Whole addresses -/

/-- Nothing is dropped in front of a character that stays. -/
theorem dropWhile_eq_self {p : Char → Bool} {l : List Char}
    (h : ∀ c, l.head? = some c → p c = false) : l.dropWhile p = l := by
  cases l with
  | nil => rfl
  | cons c l => exact List.dropWhile_cons_of_neg (by simp [h c rfl])

/-- A text does not end with a blank or a control character. -/
def EndsVisible (cs : List Char) : Prop := ∀ c, cs.getLast? = some c → 0x20 < c.toNat

/-- Nothing is cut off a text that neither begins nor ends with a blank or a control character. -/
theorem strip_of_ends {cs : List Char} (hfirst : ∀ c, cs.head? = some c → 0x20 < c.toNat)
    (hlast : EndsVisible cs) :
    ((cs.dropWhile fun c => c.toNat ≤ 0x20).reverse.dropWhile fun c => c.toNat ≤ 0x20).reverse =
      cs := by
  have hkeep : ∀ l : List Char, (∀ c, l.head? = some c → 0x20 < c.toNat) →
      (l.dropWhile fun c => c.toNat ≤ 0x20) = l := fun l hl =>
    dropWhile_eq_self fun c hc => decide_eq_false (Nat.not_le.2 (hl c hc))
  rw [hkeep cs hfirst, hkeep cs.reverse (by rwa [List.head?_reverse]), List.reverse_reverse]

/-- Nothing is cut off or left out of a text without blanks and control characters. -/
theorem strip_of_visible {cs : List Char} (h : ∀ c ∈ cs, 0x20 < c.toNat) :
    (((cs.dropWhile fun c => c.toNat ≤ 0x20).reverse.dropWhile fun c =>
      c.toNat ≤ 0x20).reverse.filter fun c => c ≠ '\t' ∧ c ≠ '\n' ∧ c ≠ '\r') = cs := by
  rw [strip_of_ends (fun c hc => h c (List.mem_of_mem_head? hc)) fun c hc =>
    h c (List.mem_of_getLast? hc), List.filter_eq_self]
  intro c hc
  have hlow := h c hc
  rw [decide_eq_true_eq]
  refine ⟨?_, ?_, ?_⟩ <;> rintro rfl <;> exact absurd hlow (by decide)

/-- The parts of a text in which an authority is followed by a path and nothing else. -/
structure Splits (authority path : List Char) : Prop where
  authority_ne_nil : authority ≠ []
  authority_plain : ∀ c ∈ authority, IsPlain c
  path_plain : ∀ c ∈ path, 0x20 < c.toNat ∧ c ≠ '#' ∧ c ≠ '?'
  path_slash : path.head? = some '/'

namespace Splits

variable {authority path : List Char}

theorem visible (h : Splits authority path) : ∀ c ∈ authority ++ path, 0x20 < c.toNat :=
  List.forall_mem_append.2
    ⟨fun c hc => (h.authority_plain c hc).1, fun c hc => (h.path_plain c hc).1⟩

/-- There is neither a fragment nor a query. -/
theorem cutAt_eq (h : Splits authority path) {mark : Char} (hmark : mark = '#' ∨ mark = '?') :
    cutAt (· == mark) (authority ++ path) = (authority ++ path, []) := by
  apply cutAt_of_forall
  rw [List.forall_mem_append]
  constructor
  · intro c hc
    have hplain := (h.authority_plain c hc).2
    rw [beq_eq_false_iff_ne]
    rintro rfl
    rcases hmark with rfl | rfl <;> simp at hplain
  · intro c hc
    obtain ⟨-, hfragment, hquery⟩ := h.path_plain c hc
    rw [beq_eq_false_iff_ne]
    rintro rfl
    rcases hmark with rfl | rfl <;> contradiction

theorem notMem_slash (h : Splits authority path) {c : Char} (hc : c ∈ authority) :
    ¬ (c = '/' ∨ c = '\\') := by
  have hplain := (h.authority_plain c hc).2
  rintro (rfl | rfl) <;> simp at hplain

/-- The path begins at the first slash. -/
theorem cutAt_slash (h : Splits authority path) :
    cutAt (fun c => c = '/' ∨ c = '\\') (authority ++ path) = (authority, path) := by
  refine cutAt_append (fun c hc => decide_eq_false (h.notMem_slash hc)) ?_
  intro c hc
  rw [h.path_slash] at hc
  obtain rfl := Option.some.inj hc
  rfl

/-- The slashes behind the scheme are skipped, and no others. -/
theorem dropWhile_slashes (h : Splits authority path) :
    (("//".toList ++ (authority ++ path)).dropWhile fun c => c = '/' ∨ c = '\\') =
      authority ++ path := by
  obtain ⟨c, rest, hauthority⟩ := List.exists_cons_of_ne_nil h.authority_ne_nil
  have hc : ¬ (c = '/' ∨ c = '\\') := h.notMem_slash (by simp [hauthority])
  rw [List.dropWhile_append_of_pos (List.all_eq_true.1 (by decide)), hauthority, List.cons_append]
  exact List.dropWhile_cons_of_neg (by simpa using hc)

/-- What is read of such a text behind the scheme. -/
theorem parse_eq (h : Splits authority path) :
    parse ("http://" ++ String.ofList (authority ++ path)) = do
      let (user?, host, port?) ← readAuthority false authority
      return ⟨false, user?, host, port?, readPath path, none, none⟩ := by
  have hwhole : ("http://" ++ String.ofList (authority ++ path)).toList =
      "http".toList ++ (':' :: ("//".toList ++ (authority ++ path))) := by
    simp
  have hvisible : ∀ c ∈ "http".toList ++ (':' :: ("//".toList ++ (authority ++ path))),
      0x20 < c.toNat := by
    have hscheme : ∀ c ∈ "http://".toList, 0x20 < c.toNat := by simp
    have hall := List.forall_mem_append.2 ⟨hscheme, h.visible⟩
    exact hall
  have hscheme : cutAt (· == ':') ("http".toList ++ (':' :: ("//".toList ++ (authority ++ path)))) =
      ("http".toList, ':' :: ("//".toList ++ (authority ++ path))) :=
    cutAt_append (by simp) (by simp)
  have hlower : String.ofList ("http".toList.map Char.toLower) = "http" := by decide
  rw [parse, hwhole, strip_of_visible hvisible, hscheme]
  dsimp only
  -- Behind the scheme and its slashes nothing is left but the authority and the path.
  rw [hlower]
  rw [List.tail_cons, h.dropWhile_slashes, h.cutAt_eq (.inl rfl), h.cutAt_eq (.inr rfl),
    h.cutAt_slash]
  rfl

end Splits

/-! ## Addresses with ports -/

/-- The web address of a path at an address with a port. -/
def ofAddress (x : SocketAddress) (path : String) : Url where
  secure := false
  user? := none
  host := x.ip.host
  port? := if x.port.toNat = 80 then none else some x.port.toNat
  path := readPath path.toList
  query? := none
  fragment? := none

theorem mem_text {x : SocketAddress} (h : x.ip.IsUnscoped) {c : Char} (hc : c ∈ x.text.toList) :
    c ∈ addressChars ++ ['[', ']'] := by
  rw [x.toList_text, List.mem_append] at hc
  rcases hc with hc | hc
  · exact Ip.mem_written h hc
  · rcases List.mem_cons.1 hc with rfl | hc
    · decide
    · exact List.mem_append_left _
        (mem_addressChars_of_mem_toDigits (by decide) (by decide) hc)

/-- A path behind an address with a port. -/
theorem splits_text {x : SocketAddress} (h : x.ip.IsUnscoped) {path : List Char}
    (hpath : ∀ c ∈ path, 0x20 < c.toNat ∧ c ≠ '#' ∧ c ≠ '?') (hslash : path.head? = some '/') :
    Splits x.text.toList path where
  authority_ne_nil := by
    rw [x.toList_text]
    simp
  authority_plain := by
    have hall : ∀ c ∈ addressChars ++ ['[', ']'],
        0x20 < c.toNat ∧ c ∉ ['#', '?', '/', '\\', '@'] :=
      List.all_iff_forall_prop.1 (by decide)
    exact fun c hc => hall c (mem_text h hc)
  path_plain := hpath
  path_slash := hslash

theorem cutHost_text {x : SocketAddress} (h : x.ip.IsUnscoped) :
    cutHost false x.text.toList = (x.ip.written, ':' :: Nat.toDigits 10 x.port.toNat) := by
  rw [x.toList_text]
  cases hip : x.ip with
  | v4 address =>
    have hall : ∀ c ∈ "0123456789.".toList, c ≠ ':' ∧ c ≠ '[' := by simp
    exact cutHost_append fun c hc => hall c (Ipv4.mem_text hc)
  | v6 groups scope =>
    rw [hip] at h
    obtain rfl : scope = 0 := h
    have hbracket : ']' ∉ (ipv6Text groups.toList).toList := fun hc =>
      absurd (mem_addressChars_of_mem_ipv6Text hc) (by decide)
    -- The colons of the groups are between brackets, and only the last one is cut at.
    have hrest := cutHost_between (r := Nat.toDigits 10 x.port.toNat) hbracket
    simp [Ip.written, cutHost, hrest]

/-- The authority of an address with a port. -/
theorem readAuthority_text {x : SocketAddress} (h : x.ip.IsUnscoped) :
    readAuthority false x.text.toList =
      .ok (none, x.ip.host, if x.port.toNat = 80 then none else some x.port.toNat) := by
  have huser : '@' ∉ x.text.toList := fun hc =>
    absurd (mem_text h hc) (by decide)
  rw [readAuthority_of_notMem huser, cutHost_text h]
  dsimp only
  rw [readHost_written h, List.tail_cons, readPort_toDigits]
  rfl

/-- The web address of a path at an address with a port is read back. -/
theorem parse_address {x : SocketAddress} (h : x.ip.IsUnscoped) {path : String}
    (hpath : ∀ c ∈ path.toList, 0x20 < c.toNat ∧ c ≠ '#' ∧ c ≠ '?')
    (hslash : path.toList.head? = some '/') :
    parse ("http://" ++ x.text ++ path) = .ok (ofAddress x path) := by
  have hwhole : "http://" ++ x.text ++ path =
      "http://" ++ String.ofList (x.text.toList ++ path.toList) := by
    simp [String.append_assoc]
  rw [hwhole, (splits_text h hpath hslash).parse_eq, readAuthority_text h]
  rfl

/-- A character has four bytes at most. -/
theorem utf8ByteSize_le (s : String) : s.utf8ByteSize ≤ 4 * s.toList.length := by
  have hlen : ∀ cs : List Char, String.utf8Len cs ≤ 4 * cs.length := by
    intro cs
    induction cs with
    | nil => exact Nat.le_refl _
    | cons c cs ih =>
      have hc := c.utf8Size_le_four
      rw [String.utf8Len, List.length_cons]
      omega
  have hs : s.utf8ByteSize = String.utf8Len s.toList := by
    rw [← String.utf8ByteSize_ofList, String.ofList_toList]
  rw [hs]
  exact hlen s.toList

theorem length_authority_le (x : SocketAddress) (path : String) :
    (ofAddress x path).authority.toList.length ≤ 50 := by
  have hhost := x.ip.length_host_le
  have hport : (Nat.toDigits 10 x.port.toNat).length ≤ 5 :=
    (Nat.length_toDigits_le_iff (by decide) (by decide)).2
      (Nat.lt_trans x.port.toNat_lt (by decide))
  have hwritten : (toString x.port.toNat).toList = Nat.toDigits 10 x.port.toNat := Nat.toList_repr
  have hcolon : (toString ":").toList.length = 1 := rfl
  rw [authority, ofAddress]
  by_cases hdefault : x.port.toNat = 80
  · simp [hdefault]
    omega
  · simp [hdefault]
    omega

/-- Requests can be sent to such an address if the path is not too long. -/
theorem isSendable_ofAddress (x : SocketAddress) {path : String}
    (hpath : (readPath path.toList).length ≤ 1024) : (ofAddress x path).isSendable = true := by
  have hquote : (ofAddress x path).host.contains '"' = false := by
    rw [Bool.eq_false_iff]
    intro h
    exact absurd (Ip.mem_host (List.contains_iff_mem.1 h)) (by decide)
  have hauthority := length_authority_le x path
  have hlength : (ofAddress x path).text.toList.length ≤ 1100 := by
    have hscheme : "http://".toList.length = 7 := rfl
    have htarget : (ofAddress x path).target.toList.length ≤ 1024 := by
      rw [target, ofAddress]
      simpa using hpath
    have htext : (ofAddress x path).text =
        "http://" ++ "" ++ (ofAddress x path).authority ++ (ofAddress x path).target ++ "" := rfl
    rw [htext]
    simp only [String.toList_append, List.length_append, hscheme, String.toList_empty,
      List.length_nil]
    omega
  -- Even at four bytes for a character the limit is far away.
  have hbytes := utf8ByteSize_le (ofAddress x path).text
  rw [isSendable, hquote, sendableLength]
  simp
  omega

end CacheCluster.Http.Url
