import FirewallOperator.Proofs.Listings
import FirewallOperator.Proofs.UrlPaths

/-! # Paths of groups

The identity of a group is put into the path of its request as it is. A server reads it back if and
only if it stands for itself there (`Backend.StandsForItself`): slashes divide it, other signs end
the path, blanks and line breaks are dropped, dots lead elsewhere, and what looks like an escape is
taken for one. Words do (`Backend.standsForItself_of_isWordChar`).
`Backend.patchGroup_addresses_iff` says so of the requests for two groups. -/

namespace FirewallOperator

open UrlPath
open Url (isOuter isLineBreak kept pathPart queryPart fragmentPart part?)

/-! ## Parts of texts -/

/-- A part of a text that has all its bytes is the whole. -/
theorem eq_of_sublist_of_length_charBytes {xs ys : List Char} (h : xs.Sublist ys)
    (hbytes : (charBytes ys).length ≤ (charBytes xs).length) : xs = ys := by
  have hle : ∀ {xs ys : List Char}, xs.Sublist ys →
      (charBytes xs).length + (ys.length - xs.length) ≤ (charBytes ys).length := by
    intro xs ys h
    induction h with
    | slnil => exact Nat.le_refl _
    | @cons xs ys c h ih =>
      have hpos := List.length_pos_iff.2 (String.utf8EncodeChar_ne_nil (c := c))
      have hlen := h.length_le
      rw [charBytes_cons, List.length_append, List.length_cons]
      omega
    | cons_cons c h ih =>
      rw [charBytes_cons, charBytes_cons, List.length_append, List.length_append,
        List.length_cons, List.length_cons]
      omega
  have hlength := hle h
  have hsub := h.length_le
  exact h.eq_of_length (by omega)

/-- Texts that are alike have the same end behind the last of a sign. -/
theorem eq_of_append_cons_eq {α : Type} {c : α} {xs ys as bs : List α} (ha : c ∉ as) (hb : c ∉ bs)
    (h : xs ++ c :: as = ys ++ c :: bs) : as = bs := by
  classical
  have hback : ∀ (xs : List α) {as : List α}, c ∉ as →
      (xs ++ c :: as).reverse.takeWhile (· ≠ c) = as.reverse := by
    intro xs as ha
    have hall : ∀ a ∈ as.reverse, decide (a ≠ c) = true := by
      intro a hmem
      exact decide_eq_true fun heq => ha (heq ▸ List.mem_reverse.1 hmem)
    rw [List.reverse_append, List.reverse_cons, List.append_assoc,
      List.takeWhile_append_of_pos hall, List.singleton_append, List.takeWhile_cons_of_neg (by simp),
      List.append_nil]
  rw [← List.reverse_inj, ← hback xs ha, ← hback ys hb, h]

namespace Backend

/-! ## Escapes in a path -/

/-- A path holds percent signs as they are. -/
theorem inPath_percent : inPath '%' = true := inPath_iff.2 (by decide)

/-- A path holds the digits of an escape as they are. -/
theorem inPath_of_hexValue? {c : Char} (h : hexValue? c ≠ none) : inPath c = true := by
  have hascii : c.toNat < 128 := by
    rw [hexValue?] at h
    show c.val.toNat < 128
    have h9 : '9'.val.toNat = 57 := rfl
    have hf : 'f'.val.toNat = 102 := rfl
    have hF : 'F'.val.toNat = 70 := rfl
    split_ifs at h with hdigit hlower hupper
    · have hle := UInt32.le_iff_toNat_le.1 hdigit.2
      omega
    · have hle := UInt32.le_iff_toNat_le.1 hlower.2
      omega
    · have hle := UInt32.le_iff_toNat_le.1 hupper.2
      omega
    · exact absurd rfl h
  rw [inPath_iff]
  revert h
  exact forall_ascii (P := fun c => hexValue? c ≠ none → isPrintableAscii c = true ∧
    c ∉ ['\x22', '#', '<', '>', '?', '\x60', '\x7b', '\x7d']) (by decide) hascii

/-- Nothing is written with a slash that has none. -/
theorem slash_notMem_percentEncode {cs : List Char} (h : '/' ∉ cs) :
    '/' ∉ percentEncode inPath cs := by
  intro hmem
  rcases mem_percentEncode hmem with ⟨hc, -⟩ | hpercent | ⟨n, hn, hdigit⟩
  · exact h hc
  · cases hpercent
  · exact absurd hdigit ((by decide : ∀ n < 16, '/' ≠ hexDigitUpper n) n hn)

/-! ## Words -/

/-- Letters, digits and dashes: the operator makes the identities of its groups of them. -/
def isWordChar (c : Char) : Bool := c.isAlphanum || c == '_' || c == '-'

/-- Letters, digits and dashes are held by a path as they are, and none of them means anything in
it. -/
theorem isWordChar_spec {c : Char} (h : isWordChar c = true) :
    inPath c = true ∧ isSlash true c = false ∧ c ∉ ['#', '?', '%'] ∧ isLineBreak c = false ∧
      isOuter c = false ∧ c.toLower ∉ ['.', '%'] := by
  have hascii : c.toNat < 128 := by
    rw [isWordChar, Bool.or_eq_true, Bool.or_eq_true, beq_iff_eq, beq_iff_eq] at h
    rcases h with (halnum | rfl) | rfl
    · exact ascii_of_isAlphanum halnum
    · decide
    · decide
  rw [inPath_iff]
  revert h
  exact forall_ascii (P := fun c => isWordChar c = true → (isPrintableAscii c = true ∧
    c ∉ ['\x22', '#', '<', '>', '?', '\x60', '\x7b', '\x7d']) ∧ isSlash true c = false ∧
      c ∉ ['#', '?', '%'] ∧ isLineBreak c = false ∧ isOuter c = false ∧
        c.toLower ∉ ['.', '%']) (by decide) hascii

/-- No word leads elsewhere. -/
theorem isPlain_of_isWordChar {s : List Char} (h : s.all isWordChar = true) : IsPlain s := by
  rw [List.all_eq_true] at h
  have hleads : ∀ t ∈ ["..", ".%2e", "%2e.", "%2e%2e"] ++ [".", "%2e"],
      t.toList.head? ∈ [some '.', some '%'] := by decide
  have hnone : String.ofList (s.map Char.toLower) ∉
      ["..", ".%2e", "%2e.", "%2e%2e"] ++ [".", "%2e"] := by
    intro hmem
    have hhead := hleads _ hmem
    rw [String.toList_ofList, List.head?_map] at hhead
    cases hs : s.head? with
    | none =>
      rw [hs] at hhead
      revert hhead
      decide
    | some c =>
      obtain ⟨-, -, -, -, -, hlower⟩ := isWordChar_spec (h c (List.mem_of_head? hs))
      rw [hs, Option.map_some] at hhead
      exact hlower (by simpa using hhead)
  rw [List.mem_append, not_or] at hnone
  refine ⟨fun c hc => (isWordChar_spec (h c hc)).1, fun c hc => (isWordChar_spec (h c hc)).2.1,
    ?_, ?_⟩
  · rw [isDotDot, ← Bool.not_eq_true, List.contains_iff_mem]
    exact hnone.1
  · rw [isDot, ← Bool.not_eq_true, List.contains_iff_mem]
    exact hnone.2

/-! ## Identities -/

/-- An identity that a path holds as one segment from which it is read back. -/
structure StandsForItself (id : String) : Prop where
  undivided : ∀ c ∈ id.toList, isSlash true c = false
  unsigned : ∀ c ∈ id.toList, c ≠ '#' ∧ c ≠ '?'
  unbroken : ∀ c ∈ id.toList, isLineBreak c = false
  untrimmed : ∀ c ∈ id.toList.getLast?, isOuter c = false
  notUp : isDotDot id.toList = false
  notDot : isDot id.toList = false
  unescaped : hasEscape id.toList = false

/-- The identities that the operator makes stand for themselves. -/
theorem standsForItself_of_isWordChar {id : String} (h : id.toList.all isWordChar = true) :
    StandsForItself id := by
  have hplain := isPlain_of_isWordChar h
  rw [List.all_eq_true] at h
  refine ⟨hplain.undivided, fun c hc => ?_, fun c hc => ?_, fun c hc => ?_, hplain.notUp,
    hplain.notDot, hasEscape_of_notMem fun hmem => ?_⟩
  · obtain ⟨-, -, hsigns, -⟩ := isWordChar_spec (h c hc)
    simp only [List.mem_cons, not_or] at hsigns
    exact ⟨hsigns.1, hsigns.2.1⟩
  · obtain ⟨-, -, -, hbreak, -⟩ := isWordChar_spec (h c hc)
    exact hbreak
  · obtain ⟨-, -, -, -, houter, -⟩ := isWordChar_spec (h c (List.mem_of_getLast? hc))
    exact houter
  · obtain ⟨-, -, hsigns, -⟩ := isWordChar_spec (h '%' hmem)
    exact hsigns (by decide)

/-- A URL addresses a group of a domain: behind the path of the domain's groups there is one segment,
which denotes the identity, and there is no query. -/
def Addresses (u : Url) (domain id : String) : Prop :=
  u.query = none ∧ ∃ segment : String, '/' ∉ segment.toList ∧
    u.path = groupUrlPath domain segment ∧ decoded? segment = some id

/-- The segments of the path of a domain's groups. -/
def groupSegments (domain : String) : List (List Char) :=
  ["policy".toList, "api".toList, "v1".toList, "infra".toList, "domains".toList, domain.toList,
    "groups".toList]

variable {domain id : String}

/-- The segments of the path of a domain's groups are plain if the domain is. -/
theorem isPlain_groupSegments (h : IsPlain domain.toList) :
    ∀ s ∈ groupSegments domain, IsPlain s := by
  have hwords : ∀ s ∈ ["policy".toList, "api".toList, "v1".toList, "infra".toList,
      "domains".toList], s.all isWordChar = true := by decide
  have hlast : "groups".toList.all isWordChar = true := by decide
  intro s hs
  have hsplit : s ∈ ["policy".toList, "api".toList, "v1".toList, "infra".toList,
      "domains".toList] ++ [domain.toList, "groups".toList] := hs
  rcases List.mem_append.1 hsplit with hfront | hback
  · exact isPlain_of_isWordChar (hwords s hfront)
  · rcases List.mem_cons.1 hback with rfl | hgroups
    · exact h
    · rw [List.mem_singleton.1 hgroups]
      exact isPlain_of_isWordChar hlast

/-- The path of a group is the segments of its domain's groups with slashes, and the identity. -/
theorem groupUrlPath_eq :
    groupUrlPath domain id = "/" ++ String.ofList (joined (groupSegments domain) ++ id.toList) := by
  have hfront : "/policy/api/v1/infra/domains/".toList =
      '/' :: ("policy".toList ++ '/' :: ("api".toList ++ '/' :: ("v1".toList ++ '/' ::
        ("infra".toList ++ '/' :: ("domains".toList ++ ['/']))))) := by decide
  have hback : "/groups/".toList = '/' :: ("groups".toList ++ ['/']) := by decide
  have hslash : "/".toList = ['/'] := by decide
  unfold groupUrlPath
  apply String.toList_inj.1
  simp only [String.toList_append, String.toList_ofList, groupSegments, joined_cons, hfront, hback,
    hslash, List.append_assoc, List.cons_append, List.nil_append]
  rfl

/-- The path of a group is made of the domain's segments and the identity. -/
theorem text_groupSegments (s : List Char) :
    text (groupSegments domain ++ [s]) = groupUrlPath domain (String.ofList s) := by
  have hslash : "/".toList = ['/'] := by decide
  rw [groupUrlPath_eq]
  apply String.toList_inj.1
  rw [toList_text_concat]
  simp only [String.toList_append, String.toList_ofList, hslash, groupSegments, joined]
  simp

/-- The path of a group ends with a slash and the identity. -/
theorem exists_toList_groupUrlPath (domain id : String) :
    ∃ front, (groupUrlPath domain id).toList = front ++ '/' :: id.toList := by
  refine ⟨(groupSegments domain).flatMap ('/' :: ·), ?_⟩
  rw [← toList_text_concat, text_groupSegments, String.ofList_toList]

/-! ## What a path says of an identity -/

/-- What is read of a text, and the path at its front, are parts of it. -/
theorem pathPart_kept_sublist (cs : List Char) :
    (pathPart (kept cs)).Sublist (kept cs) ∧ (kept cs).Sublist cs := by
  constructor
  · exact ((List.takeWhile_prefix _).trans (List.takeWhile_prefix _)).sublist
  · refine List.filter_sublist.trans ?_
    have htrimmed := (List.dropWhile_sublist isOuter (l := cs.reverse)).reverse
    rwa [List.reverse_reverse] at htrimmed

/-- A text is read as it is if and only if nothing of it is trimmed or dropped. -/
theorem kept_eq_self_iff {cs : List Char} : kept cs = cs ↔
    (∀ c ∈ cs.getLast?, isOuter c = false) ∧ ∀ c ∈ cs, isLineBreak c = false := by
  rw [← List.head?_reverse]
  constructor
  · intro h
    have htrimmed : (cs.reverse.dropWhile isOuter).reverse = cs := by
      refine List.Sublist.antisymm ?_ ?_
      · have hsub := (List.dropWhile_sublist isOuter (l := cs.reverse)).reverse
        rwa [List.reverse_reverse] at hsub
      · conv_lhs => rw [← h]
        exact List.filter_sublist
    rw [kept, htrimmed, List.filter_eq_self] at h
    refine ⟨fun c hc => ?_, fun c hc => by simpa using h c hc⟩
    rw [← List.reverse_inj, List.reverse_reverse] at htrimmed
    have hhead := List.head?_dropWhile_not isOuter cs.reverse
    rw [htrimmed, Option.mem_def.1 hc] at hhead
    simpa using hhead
  · rintro ⟨hend, hbreak⟩
    have htrimmed : ([] ++ cs.reverse).dropWhile isOuter = [].dropWhile isOuter ++ cs.reverse :=
      dropWhile_append_of_head hend
    rw [List.dropWhile_nil, List.nil_append] at htrimmed
    rw [kept, htrimmed, List.reverse_reverse, List.filter_eq_self]
    intro c hc
    rw [hbreak c hc, Bool.not_false]

/-- What a path ends with denotes an identity that was put there only if it stands for itself: on
the way no byte may be lost. -/
theorem standsForItself_of_lastWritten {last : List Char} (hid : id ≠ "")
    (hlast : (segments true (pathPart (kept id.toList))).getLast? = some last)
    (hdecoded : percentDecode (charBytes (lastWritten last)) = utf8 id) : StandsForItself id := by
  cases hplace : isDotDot last || isDot last with
  | true =>
    rw [lastWritten, if_pos hplace, charBytes_nil, percentDecode_nil] at hdecoded
    -- nothing is read back from a segment that leads elsewhere
    have hnone := length_le_charBytes id.toList
    rw [← utf8_eq_charBytes, ← hdecoded, List.length_nil, Nat.le_zero,
      List.length_eq_zero_iff] at hnone
    exact absurd (String.toList_eq_nil_iff.1 hnone) hid
  | false =>
    obtain ⟨hup, hdot⟩ := Bool.or_eq_false_iff.1 hplace
    obtain ⟨_, hsame, hundivided, hsuffix⟩ :=
      exists_getLast?_segments true (pathPart (kept id.toList))
    cases hlast.symm.trans hsame
    rw [lastWritten, if_neg (by rw [hplace]; decide)] at hdecoded
    have hle := length_percentDecode_add_escapes_le (fun _ => ascii_of_inPath) inPath_percent
      (fun _ => inPath_of_hexValue?) last
    rw [hdecoded, utf8_eq_charBytes] at hle
    obtain ⟨hpath, hkept⟩ := pathPart_kept_sublist id.toList
    -- the segment is a part of the identity, and from it no more bytes are read back than it has
    have hwhole : last = id.toList := eq_of_sublist_of_length_charBytes
      (hsuffix.sublist.trans (hpath.trans hkept)) (by omega)
    have hpathEq : pathPart (kept id.toList) = id.toList :=
      (hpath.trans hkept).antisymm (hwhole ▸ hsuffix.sublist)
    have hkeptEq : kept id.toList = id.toList := hkept.antisymm (by rwa [hpathEq] at hpath)
    obtain ⟨huntrimmed, hunbroken⟩ := kept_eq_self_iff.1 hkeptEq
    subst hwhole
    refine ⟨hundivided, fun c hc => ?_, hunbroken, huntrimmed, hup, hdot, ?_⟩
    · rw [← hpathEq] at hc
      exact Url.mem_pathPart hc
    · cases hescape : hasEscape id.toList with
      | false => rfl
      | true =>
        rw [hescape, Bool.toNat_true] at hle
        omega

section Parsing

variable {base : String} {root u : Url} (hroot : Url.parse? (base ++ "/") = some root)
  (hweb : Url.isWeb root.scheme = true) (hpath : root.path = "/") (hquery : root.query = none)
  (hfragment : root.fragment = none) (hdomain : IsPlain domain.toList)
include hroot hweb hpath hquery hfragment hdomain

/-- The path of a group's URL, and the query that it may have by a slip, are made of the segments of
the domain's groups and of what is read of the identity. -/
theorem parse?_groupUrlPath (id : String) :
    Url.parse? (base ++ groupUrlPath domain id) = some { root with
      path := text (resolved false (groupSegments domain).reverse
        (segments true (pathPart (kept id.toList))))
      query := part? (Url.inQuery true) (queryPart (kept id.toList))
      fragment := part? Url.inFragment (fragmentPart (kept id.toList)) } := by
  obtain ⟨lead, hlead, hparse⟩ := Url.parse?_behind_segments hroot hweb hquery hfragment
    (isPlain_groupSegments hdomain)
  -- in front of the root there is nothing
  have hnone : lead = [] := by
    have hslash : "/".toList = ['/'] := by decide
    rw [hpath, ← String.toList_inj, toList_text_concat, hslash] at hlead
    cases hreverse : lead.reverse with
    | nil => exact List.reverse_eq_nil_iff.1 hreverse
    | cons s ss =>
      rw [hreverse] at hlead
      simp at hlead
  rw [groupUrlPath_eq, ← String.append_assoc, hparse, hnone, List.append_nil]

/-- **Identities in paths.** The URL of a group addresses it if and only if its identity stands for
itself. -/
theorem addresses_iff (hid : id ≠ "") (hu : Url.parse? (base ++ groupUrlPath domain id) = some u) :
    Addresses u domain id ↔ StandsForItself id := by
  rw [parse?_groupUrlPath hroot hweb hpath hquery hfragment hdomain] at hu
  obtain rfl := Option.some.inj hu
  constructor
  · rintro ⟨-, segment, hslash, hsegment, hdecoded⟩
    obtain ⟨last, hlast, hundivided, -⟩ := exists_getLast?_segments true (pathPart (kept id.toList))
    obtain ⟨init, hinit⟩ := exists_resolved_eq_concat (groupSegments domain).reverse hlast
    obtain ⟨front, hfront⟩ := exists_toList_groupUrlPath domain segment
    have hwritten : '/' ∉ lastWritten last := by
      rw [lastWritten]
      split
      · exact List.not_mem_nil
      · exact slash_notMem_percentEncode fun hmem => absurd (hundivided '/' hmem) (by decide)
    have hends : init.flatMap ('/' :: ·) ++ '/' :: lastWritten last =
        front ++ '/' :: segment.toList := by
      rw [← toList_text_concat, ← hinit, ← hfront, ← hsegment]
    -- what is read back is what the last segment of the parsed path was written for
    have hsame := eq_of_append_cons_eq hwritten hslash hends
    rw [decoded?_eq_some_iff, utf8_eq_charBytes, ← hsame] at hdecoded
    exact standsForItself_of_lastWritten hid hlast hdecoded
  · intro h
    have hkept : kept id.toList = id.toList := kept_eq_self_iff.2 ⟨h.untrimmed, h.unbroken⟩
    have hpathPart : pathPart id.toList = id.toList := by
      simpa [pathPart] using Url.pathPart_append h.unsigned []
    have hqueryPart : queryPart id.toList = [] := by
      simpa [queryPart] using Url.queryPart_append h.unsigned []
    have hslash : '/' ∉ id.toList := fun hmem => absurd (h.undivided '/' hmem) (by decide)
    simp only [hkept, hpathPart, hqueryPart, Addresses, part?, segments_of_undivided h.undivided,
      resolved_cons h.notUp h.notDot, resolved, List.reverse_cons, List.reverse_reverse,
      text_groupSegments]
    refine ⟨trivial, _, ?_, rfl, ?_⟩
    · rw [String.toList_ofList]
      exact slash_notMem_percentEncode hslash
    · rw [decoded?_eq_some_iff, utf8_ofList,
        percentDecode_of_not_hasEscape (fun _ => ascii_of_inPath) h.unescaped]
      rfl

end Parsing

/-! ## Groups at an address -/

/-- The URL of a path and a query at the address of the backend. -/
def urlAtAddress (path : String) (query : Option String) : Url where
  scheme := searchAtAddress.scheme
  host := searchAtAddress.host
  path := path
  query := query

/-- The address of the backend in the runs below is a URL. -/
theorem parse?_root_atAddress :
    Url.parse? (atAddress.base ++ "/") = some (urlAtAddress "/" none) := by
  cbv

/-- What the backend asks for at a path, where `place` is the whole URL but its scheme. -/
theorem url_urlAtAddress {path path' : String} {query : Option String} (place : String)
    (htext : atAddress.base ++ path = "https://" ++ place)
    (hparse : Url.parse? ("https://" ++ place) = some (urlAtAddress path' query))
    (hplace : (urlAtAddress path' query).place ++ (urlAtAddress path' query).behind = place.toList)
    (hgrammar : Uri.isPlace place.toList = true) (hfits : Fits (urlAtAddress path' query)) :
    atAddress.url path [] = .ok (urlAtAddress path' query) := by
  refine url_of_parse (htext ▸ hparse) rfl rfl rfl ((isRequestable_iff rfl).2 ⟨.inr rfl, hfits, ?_⟩)
  rw [hplace, hgrammar]

/-- The URL of the group `g1` has its identity as the last segment. -/
theorem url_g1 : atAddress.url (groupUrlPath "default" "g1") [] =
    .ok (urlAtAddress "/policy/api/v1/infra/domains/default/groups/g1" none) :=
  url_urlAtAddress "[fd00::5]/policy/api/v1/infra/domains/default/groups/g1" (by decide) (by cbv)
    (by decide) (by cbv) (by decide)

/-- The URL of the group `g2` has its identity as the last segment. -/
theorem url_g2 : atAddress.url (groupUrlPath "default" "g2") [] =
    .ok (urlAtAddress "/policy/api/v1/infra/domains/default/groups/g2" none) :=
  url_urlAtAddress "[fd00::5]/policy/api/v1/infra/domains/default/groups/g2" (by decide) (by cbv)
    (by decide) (by cbv) (by decide)

/-- The URL of the group `g1?x` has the path of the group `g1`, and a query. -/
theorem url_g1_query : atAddress.url (groupUrlPath "default" "g1?x") [] =
    .ok (urlAtAddress "/policy/api/v1/infra/domains/default/groups/g1" (some "x")) :=
  url_urlAtAddress "[fd00::5]/policy/api/v1/infra/domains/default/groups/g1?x" (by decide) (by cbv)
    (by decide) (by cbv) (by decide)

/-! ## Requests for groups -/

section Requests

variable {b : Backend} {u v : Url} {g h : Group}

/-- The request for a group is sent, whatever becomes of it. -/
theorem sent_patchGroup (hu : b.url (groupUrlPath domain g.id) [] = .ok u) (s : Server) :
    (b.patchGroup domain g).sent s = [b.requestFor "PATCH" u (some g.toJson)] := by
  rw [Exchange.sent, patchGroup, runFrom_bind, runFrom_send _ _ _ s hu]
  cases outcomeOf "patch group" u s.reply <;> exact List.drop_left

variable {root : Url} (hroot : Url.parse? (b.base ++ "/") = some root)
  (hpath : root.path = "/") (hquery : root.query = none) (hfragment : root.fragment = none)
  (hdomain : IsPlain domain.toList)
include hroot hpath hquery hfragment hdomain

/-- The URL of the request for a group addresses it if and only if its identity stands for itself. -/
theorem addresses_url_iff (hid : id ≠ "") (hu : b.url (groupUrlPath domain id) [] = .ok u) :
    Addresses u domain id ↔ StandsForItself id := by
  obtain ⟨w, hparse, hweb, hupath, huquery⟩ := exists_parse?_of_url hu
  have hbehind := hparse
  rw [groupUrlPath_eq, ← String.append_assoc] at hbehind
  rw [Url.scheme_behind hroot hbehind] at hweb
  have hiff := addresses_iff hroot hweb hpath hquery hfragment hdomain hid hparse
  rw [Addresses, hupath, huquery]
  exact hiff

/-- **Requests for groups.** The requests for two groups with different identities go to different
paths that address them if and only if both identities stand for themselves. -/
theorem patchGroup_addresses_iff (hg : g.id ≠ "") (hh : h.id ≠ "") (hne : g.id ≠ h.id)
    (hu : b.url (groupUrlPath domain g.id) [] = .ok u)
    (hv : b.url (groupUrlPath domain h.id) [] = .ok v) :
    (∀ s, (b.patchGroup domain g).sent s = [b.requestFor "PATCH" u (some g.toJson)] ∧
      (b.patchGroup domain h).sent s = [b.requestFor "PATCH" v (some h.toJson)]) ∧
    ((u.path ≠ v.path ∧ Addresses u domain g.id ∧ Addresses v domain h.id) ↔
      StandsForItself g.id ∧ StandsForItself h.id) := by
  refine ⟨fun s => ⟨sent_patchGroup hu s, sent_patchGroup hv s⟩, ?_⟩
  rw [addresses_url_iff hroot hpath hquery hfragment hdomain hg hu,
    addresses_url_iff hroot hpath hquery hfragment hdomain hh hv]
  refine and_iff_right_of_imp fun hboth heq => hne ?_
  -- from one path only one identity is read back
  obtain ⟨-, segment, hslash, hsegment, hdecoded⟩ :=
    (addresses_url_iff hroot hpath hquery hfragment hdomain hg hu).2 hboth.1
  obtain ⟨-, segment', hslash', hsegment', hdecoded'⟩ :=
    (addresses_url_iff hroot hpath hquery hfragment hdomain hh hv).2 hboth.2
  obtain ⟨front, hfront⟩ := exists_toList_groupUrlPath domain segment
  obtain ⟨front', hfront'⟩ := exists_toList_groupUrlPath domain segment'
  rw [hsegment, hsegment', ← String.toList_inj, hfront, hfront'] at heq
  rw [String.toList_inj.1 (eq_of_append_cons_eq hslash hslash' heq), hdecoded'] at hdecoded
  exact (Option.some.inj hdecoded).symm

end Requests

/-- Two groups whose identities are made of letters and digits are written at two paths, each of
which denotes its group. -/
theorem patchGroup_addresses_words :
    let u := urlAtAddress "/policy/api/v1/infra/domains/default/groups/g1" none
    let v := urlAtAddress "/policy/api/v1/infra/domains/default/groups/g2" none
    (∀ s, (atAddress.patchGroup "default" { id := "g1" }).sent s =
        [atAddress.requestFor "PATCH" u (some (Group.toJson { id := "g1" }))] ∧
      (atAddress.patchGroup "default" { id := "g2" }).sent s =
        [atAddress.requestFor "PATCH" v (some (Group.toJson { id := "g2" }))]) ∧
    u.path ≠ v.path ∧ Addresses u "default" "g1" ∧ Addresses v "default" "g2" := by
  intro u v
  have h1 : StandsForItself "g1" := standsForItself_of_isWordChar (by decide)
  have h2 : StandsForItself "g2" := standsForItself_of_isWordChar (by decide)
  obtain ⟨hsent, haddresses⟩ := patchGroup_addresses_iff (g := { id := "g1" }) (h := { id := "g2" })
    parse?_root_atAddress rfl rfl rfl (isPlain_of_isWordChar (by decide)) (by decide) (by decide)
    (by decide) url_g1 url_g2
  exact ⟨hsent, haddresses.2 ⟨h1, h2⟩⟩

/-- Behind a question mark an identity is a query: the request for the group `g1?x` writes the group
`g1`. -/
theorem patchGroup_writes_another_group :
    let u := urlAtAddress "/policy/api/v1/infra/domains/default/groups/g1" none
    let v := urlAtAddress "/policy/api/v1/infra/domains/default/groups/g1" (some "x")
    Url.parse? (atAddress.base ++ "/") = some (urlAtAddress "/" none) ∧
      IsPlain "default".toList ∧
    (∀ s, (atAddress.patchGroup "default" { id := "g1" }).sent s =
        [atAddress.requestFor "PATCH" u (some (Group.toJson { id := "g1" }))] ∧
      (atAddress.patchGroup "default" { id := "g1?x" }).sent s =
        [atAddress.requestFor "PATCH" v (some (Group.toJson { id := "g1?x" }))]) ∧
    u.path = v.path ∧ v.query = some "x" ∧ ¬Addresses v "default" "g1?x" := by
  intro u v
  have hfirst := sent_patchGroup (g := { id := "g1" }) url_g1
  have hsecond := sent_patchGroup (g := { id := "g1?x" }) url_g1_query
  refine ⟨parse?_root_atAddress, isPlain_of_isWordChar (by decide),
    fun s => ⟨hfirst s, hsecond s⟩, rfl, rfl, ?_⟩
  rintro ⟨hquery, -⟩
  cases hquery

end Backend

end FirewallOperator
