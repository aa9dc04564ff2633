import FirewallOperator.Proofs.Addresses

/-! # Paths behind a base

A path that is put behind a base URL and a slash is read as one more part of the same URL
(`Url.parse?_behind`): the base leaves its host, its login and its own segments, and what is put
behind it is trimmed, cut at the signs of a query and of a fragment, and divided into segments. -/

namespace FirewallOperator

/-! ## Segments -/

namespace UrlPath

variable {done : List (List Char)}

/-- The segments of two pieces with a slash between them are those of each. -/
theorem segments_append (special : Bool) (cs ds : List Char) :
    segments special (cs ++ '/' :: ds) = segments special cs ++ segments special ds := by
  have hslash : (if isSlash special '/' then '/' else '/') = '/' := ite_self _
  rw [segments, segments, segments, List.map_append, List.map_cons, hslash,
    CharTable.parts_append_cons]

/-- A text has at least one segment. -/
theorem segments_ne_nil (special : Bool) (cs : List Char) : segments special cs ≠ [] :=
  CharTable.parts_ne_nil _ _

/-- A segment that stands for no place is written behind those before it. -/
theorem resolved_cons {x : List Char} (hup : isDotDot x = false) (hdot : isDot x = false)
    (done xs : List (List Char)) :
    resolved false done (x :: xs) = resolved false (percentEncode inPath x :: done) xs := by
  rw [resolved]
  simp only [hup, hdot, Bool.false_eq_true, if_false]
  rfl

/-- What segments lead to where more follow does not depend on these. -/
theorem exists_resolved_append (done xs : List (List Char)) :
    ∃ lead, ∀ ys ≠ [], resolved false done (xs ++ ys) = resolved false lead ys := by
  induction xs generalizing done with
  | nil => exact ⟨done, fun _ _ => rfl⟩
  | cons x xs ih =>
    -- what a segment does depends on whether it is the last one, and with more behind it is not
    have hmore : ∀ ys : List (List Char), ys ≠ [] → (xs ++ ys).isEmpty = false := by
      intro ys hys
      cases xs <;> cases ys <;> simp_all
    by_cases hup : isDotDot x = true
    · obtain ⟨lead, hlead⟩ := ih (above done)
      refine ⟨lead, fun ys hys => ?_⟩
      rw [List.cons_append, resolved]
      simp only [hup, if_true, hmore ys hys, Bool.false_eq_true, if_false, hlead ys hys]
    · by_cases hdot : isDot x = true
      · obtain ⟨lead, hlead⟩ := ih done
        refine ⟨lead, fun ys hys => ?_⟩
        rw [List.cons_append, resolved]
        simp only [hup, hdot, if_true, hmore ys hys, Bool.false_eq_true, if_false, hlead ys hys]
      · obtain ⟨lead, hlead⟩ := ih (written false done x :: done)
        refine ⟨lead, fun ys hys => ?_⟩
        rw [List.cons_append, resolved]
        simp only [hup, hdot, Bool.false_eq_true, if_false, hlead ys hys]

/-- Segments that stand for no place and can be written as they are stay as they are. -/
theorem resolved_append {xs : List (List Char)} (hup : ∀ x ∈ xs, isDotDot x = false)
    (hdot : ∀ x ∈ xs, isDot x = false) (hheld : ∀ x ∈ xs, percentEncode inPath x = x)
    (done ys : List (List Char)) :
    resolved false done (xs ++ ys) = resolved false (xs.reverse ++ done) ys := by
  induction xs generalizing done with
  | nil => rfl
  | cons x xs ih =>
    rw [List.cons_append, resolved_cons (hup x List.mem_cons_self) (hdot x List.mem_cons_self),
      hheld x List.mem_cons_self, ih (fun y hy => hup y (List.mem_cons_of_mem x hy))
        (fun y hy => hdot y (List.mem_cons_of_mem x hy))
        (fun y hy => hheld y (List.mem_cons_of_mem x hy)),
      List.reverse_cons, List.append_assoc, List.singleton_append]

/-- What is written for the last segment of a path: nothing, if it stands for a place. -/
def lastWritten (segment : List Char) : List Char :=
  if isDotDot segment || isDot segment then [] else percentEncode inPath segment

/-- A path ends with what is written for its last segment. -/
theorem exists_resolved_eq_concat (done : List (List Char)) {xs : List (List Char)}
    {last : List Char} (hlast : xs.getLast? = some last) :
    ∃ init, resolved false done xs = init ++ [lastWritten last] := by
  induction xs generalizing done with
  | nil => cases hlast
  | cons x xs ih =>
    cases xs with
    | nil =>
      obtain rfl : x = last := Option.some.inj hlast
      cases hup : isDotDot x with
      | true => exact ⟨(above done).reverse, by simp [resolved, lastWritten, hup]⟩
      | false =>
        cases hdot : isDot x with
        | true => exact ⟨done.reverse, by simp [resolved, lastWritten, hup, hdot]⟩
        | false => exact ⟨done.reverse, by simp [resolved, lastWritten, written, hup, hdot]⟩
    | cons y ys =>
      rw [List.getLast?_cons_cons] at hlast
      rw [resolved]
      simp only [List.isEmpty_cons, Bool.false_eq_true, if_false]
      split
      · exact ih _ hlast
      · split
        · exact ih _ hlast
        · exact ih _ hlast

/-- A text without slashes is one segment. -/
theorem segments_of_undivided {special : Bool} {cs : List Char}
    (h : ∀ c ∈ cs, isSlash special c = false) : segments special cs = [cs] := by
  have hsame : cs.map (fun c => if isSlash special c = true then '/' else c) = cs := by
    refine (List.map_congr_left fun c hc => ?_).trans (List.map_id cs)
    rw [h c hc]
    rfl
  rw [segments, hsame, CharTable.parts_of_notMem]
  intro hmem
  have hslash := h '/' hmem
  cases hslash

/-- The last segment of a text is what it ends with, and has no slashes. -/
theorem exists_getLast?_segments (special : Bool) (cs : List Char) :
    ∃ last, (segments special cs).getLast? = some last ∧
      (∀ c ∈ last, isSlash special c = false) ∧ last <:+ cs := by
  obtain ⟨last, hlast, hslash, front, hfront⟩ := CharTable.exists_getLast?_parts '/'
    (cs.map fun c => if isSlash special c = true then '/' else c)
  obtain ⟨xs, ys, rfl, hxs, hys⟩ := List.map_eq_append_iff.1 hfront.symm
  -- a backslash that divides would have become a slash
  have hundivided : ∀ c ∈ ys, isSlash special c = false := by
    intro c hc
    by_contra hsep
    refine hslash (hys ▸ List.mem_map.2 ⟨c, hc, ?_⟩)
    rw [Bool.not_eq_false] at hsep
    rw [if_pos hsep]
  have hsame : last = ys := by
    rw [← hys]
    refine (List.map_congr_left fun c hc => ?_).trans (List.map_id ys)
    rw [hundivided c hc]
    rfl
  subst hsame
  exact ⟨last, hlast, hundivided, List.suffix_append xs last⟩

/-- A path is written with a slash before each segment. -/
theorem toList_text_concat (ss : List (List Char)) (s : List Char) :
    (text (ss ++ [s])).toList = ss.flatMap ('/' :: ·) ++ '/' :: s := by
  rw [text, String.toList_ofList, List.flatMap_append, List.flatMap_singleton]

/-- A path that goes on behind a slash has the segments of the part before it, resolved, in front. -/
theorem exists_normal_append (special : Bool) (cs : List Char) :
    ∃ lead, ∀ tail, normal special (cs ++ '/' :: tail) =
      text (resolved false lead (segments special tail)) := by
  cases cs with
  | nil => exact ⟨[], fun tail => by rw [List.nil_append, normal, isSlash]; simp⟩
  | cons c cs =>
    obtain ⟨lead, hlead⟩ := exists_resolved_append []
      (segments special (if isSlash special c = true then cs else c :: cs))
    refine ⟨lead, fun tail => ?_⟩
    rw [List.cons_append, normal, ← hlead _ (segments_ne_nil special tail), ← segments_append]
    split <;> rfl

end UrlPath

/-! ## Plain segments -/

namespace UrlPath

variable {c : Char} {cs : List Char}

/-- A path holds printable characters of ASCII as they are, but for eight signs. -/
theorem inPath_iff : inPath c = true ↔
    isPrintableAscii c = true ∧ c ∉ ['\x22', '#', '<', '>', '?', '\x60', '\x7b', '\x7d'] := by
  rw [inPath, Bool.and_eq_true, Bool.not_eq_true', String.contains_char_eq, decide_eq_false_iff_not,
    String.toList_ofList]

/-- What a path holds as it is, is in ASCII. -/
theorem ascii_of_inPath (h : inPath c = true) : c.toNat < 128 := by
  have hprint := (inPath_iff.1 h).1
  rw [isPrintableAscii, Bool.and_eq_true, decide_eq_true_iff, decide_eq_true_iff] at hprint
  omega

/-- Characters that a path holds as they are, are not escaped. -/
theorem percentEncode_of_inPath (h : ∀ c ∈ cs, inPath c = true) : percentEncode inPath cs = cs := by
  induction cs with
  | nil => rfl
  | cons c cs ih =>
    rw [percentEncode, List.flatMap_cons, percentChar, if_pos (h c List.mem_cons_self),
      ← percentEncode, ih fun d hd => h d (List.mem_cons_of_mem c hd), List.singleton_append]

/-- A segment that a path holds as it is, and that stands for no place. -/
structure IsPlain (segment : List Char) : Prop where
  held : ∀ c ∈ segment, inPath c = true
  undivided : ∀ c ∈ segment, isSlash true c = false
  notUp : isDotDot segment = false
  notDot : isDot segment = false

/-- Segments with a slash behind each. -/
def joined (ss : List (List Char)) : List Char := ss.flatMap (· ++ ['/'])

/-- Segments are written with a slash behind the first one. -/
theorem joined_cons (s : List Char) (ss : List (List Char)) (cs : List Char) :
    joined (s :: ss) ++ cs = s ++ '/' :: (joined ss ++ cs) := by
  simp [joined]

/-- Plain segments with a slash behind each are read back, and then the others. -/
theorem segments_joined {ss : List (List Char)} (h : ∀ s ∈ ss, IsPlain s) (cs : List Char) :
    segments true (joined ss ++ cs) = ss ++ segments true cs := by
  induction ss with
  | nil => rfl
  | cons s ss ih =>
    rw [joined_cons, segments_append, segments_of_undivided (h s List.mem_cons_self).undivided,
      ih fun t ht => h t (List.mem_cons_of_mem s ht)]
    rfl

/-- What plain segments are made of is neither a sign nor dropped. -/
theorem mem_joined {ss : List (List Char)} (h : ∀ s ∈ ss, IsPlain s) (hc : c ∈ joined ss) :
    inPath c = true := by
  obtain ⟨s, hs, hmem⟩ := List.mem_flatMap.1 hc
  rcases List.mem_append.1 hmem with hmem | hmem
  · exact (h s hs).held c hmem
  · rw [List.mem_singleton.1 hmem, inPath_iff]
    decide

/-- A path holds neither of the signs that end it. -/
theorem unsigned_of_inPath (h : inPath c = true) : c ≠ '#' ∧ c ≠ '?' := by
  constructor
  · rintro rfl
    exact (inPath_iff.1 h).2 (by decide)
  · rintro rfl
    exact (inPath_iff.1 h).2 (by decide)

/-- A path holds no line break. -/
theorem unbroken_of_inPath (h : inPath c = true) : Url.isLineBreak c = false := by
  have hprint := (inPath_iff.1 h).1
  revert hprint
  exact forall_ascii (P := fun c => isPrintableAscii c = true → Url.isLineBreak c = false)
    (by decide) (ascii_of_inPath h)

end UrlPath

/-! ## The front of a URL -/

/-- Nothing is no host. -/
theorem Host.lookedUp?_nil : Host.lookedUp? [] = none := by
  have hnothing : Host.unescaped? [] = some [] :=
    congrArg (Option.map String.toList) (Backend.decoded?_eq_some_iff.2 percentDecode_nil :
      Backend.decoded? "" = some "")
  have hascii : HostName.ascii? [] = some [] := by decide +kernel
  show (Host.unescaped? [] >>= fun cs => HostName.ascii? cs >>= fun _ => _) = _
  rw [hnothing]
  show (HostName.ascii? [] >>= fun _ => _) = _
  rw [hascii]
  rfl

namespace Url

section Front

variable (front : List Char)

/-- The scheme of a text with a slash in it stands before that slash. -/
theorem scheme?_front : (∀ tail, scheme? (front ++ '/' :: tail) = none) ∨
    ∃ scheme rest, ∀ tail, scheme? (front ++ '/' :: tail) = some (scheme, rest ++ '/' :: tail) := by
  have hsigns : "+-.".contains '/' = false := by
    rw [String.contains_char_eq, String.toList_ofList]
    decide
  cases front with
  | nil => exact .inl fun _ => rfl
  | cons c cs =>
    -- a scheme has no slash in it, so the scan for its end does not see the tail
    have hhead : ∀ tail : List Char, ∀ d ∈ ('/' :: tail).head?,
        (d.isAlphanum || "+-.".contains d) = false := by
      rintro tail d ⟨⟩
      rw [hsigns]
      rfl
    simp only [scheme?, List.cons_append]
    simp only [← List.cons_append, List.span_eq_takeWhile_dropWhile,
      takeWhile_append_of_head (hhead _), dropWhile_append_of_head (hhead _)]
    cases hc : c.isAlpha with
    | false => exact .inl fun _ => rfl
    | true =>
      simp only [if_true]
      cases hrest : (c :: cs).dropWhile fun c => c.isAlphanum || "+-.".contains c with
      | nil => exact .inl fun _ => rfl
      | cons d ds =>
        by_cases hd : d = ':'
        · subst hd
          exact .inr ⟨_, ds, fun _ => rfl⟩
        · refine .inl fun _ => ?_
          split
          case h_1 heq => simp_all
          case h_2 => rfl

end Front

/-- Whether a character is none of the slashes of the web. -/
def noSlash (c : Char) : Bool := !UrlPath.isSlash true c

/-- What a text of a web scheme says of the host stands before its first slash. -/
theorem authority?_of_takeWhile {scheme : String} (hweb : isWeb scheme = true) (place : List Char) :
    (∀ cs : List Char, cs.takeWhile noSlash = place → authority? scheme cs = none) ∨
      ∃ (u : Url) (behind : List Char), ∀ cs : List Char, cs.takeWhile noSlash = place →
        authority? scheme cs =
          some { u with path := UrlPath.normal true (behind ++ cs.dropWhile noSlash) } := by
  have hspan : ∀ cs : List Char, (cs.span fun c => !UrlPath.isSlash true c) =
      (cs.takeWhile noSlash, cs.dropWhile noSlash) :=
    fun cs => List.span_eq_takeWhile_dropWhile noSlash cs
  -- each of the steps that can fail looks at `place` alone
  rcases hlogin : splitUser place with ⟨login, address⟩
  rcases hname : splitPort false address with ⟨name, portText⟩
  rcases hdigits : (portText.drop 1).span Char.isDigit with ⟨digits, behind⟩
  rcases huser : (login.getD []).span (· != ':') with ⟨user, password⟩
  simp only [authority?, hweb, if_true, Option.bind_eq_bind]
  cases hhost : Host.lookedUp? name with
  | none =>
    refine .inl fun cs hcs => ?_
    simp only [hspan, hcs, hlogin, hname, hhost, Option.bind_none]
  | some host =>
    cases hport : port? digits with
    | none =>
      refine .inl fun cs hcs => ?_
      simp only [hspan, hcs, hlogin, hname, hdigits, hhost, hport, Option.bind_some,
        Option.bind_none]
    | some port =>
      by_cases hbehind : behind.head?.any (· != '\\') = true
      · refine .inl fun cs hcs => ?_
        simp only [hspan, hcs, hlogin, hname, hdigits, hhost, hport, Option.bind_some, hbehind,
          if_true, Option.bind_none]
      · by_cases hnobody : host = .unnamed ∧
            (address ≠ [] ∨ login = some [] ∨ user ≠ [] ∨ password.drop 1 ≠ [])
        · refine .inl fun cs hcs => ?_
          simp only [hspan, hcs, hlogin, hname, hdigits, huser, hhost, hport, Option.bind_some,
            hbehind, Bool.false_eq_true, if_false, if_pos hnobody, Option.bind_none]
        · let encode := fun cs => String.ofList (percentEncode inUser cs)
          let u : Url := {
            scheme, host := some host, user := encode user
            password := if (password.drop 1).isEmpty then none else some (encode (password.drop 1))
            port := if port = webPort? scheme then none else port }
          refine .inr ⟨u, behind, fun cs hcs => ?_⟩
          simp only [hspan, hcs, hlogin, hname, hdigits, huser, hhost, hport, Option.bind_some,
            hbehind, Bool.false_eq_true, if_false, if_neg hnobody]
          rfl

/-- A URL of the web needs a host. -/
theorem authority?_nil {scheme : String} (hweb : isWeb scheme = true) :
    authority? scheme [] = none := by
  have hlogin : splitUser [] = (none, []) := rfl
  simp only [authority?, hweb, if_true, Option.bind_eq_bind,
    List.span_eq_takeWhile_dropWhile, List.takeWhile_nil, hlogin, splitPort, Host.lookedUp?_nil,
    Option.bind_none]

/-! ## Schemes are kept -/

section Schemes

variable {scheme : String} {cs rest : List Char} {u : Url}

/-- What is read behind a scheme has this scheme. -/
theorem scheme_of_authority? (h : authority? scheme cs = some u) : u.scheme = scheme := by
  simp only [authority?, Option.bind_eq_bind, Option.pure_def] at h
  split at h <;>
    simp only [Option.bind_eq_some_iff, Option.ite_none_left_eq_some, Option.bind_none,
      Option.some.injEq] at h
  · obtain ⟨host, -, port, -, -, -, rfl⟩ := h
    rfl
  · obtain ⟨host, -, port, -, -, -, rfl⟩ := h
    rfl

/-- What is read as a file has the scheme of files. -/
theorem scheme_of_file? {isBroken : Nat → Bool} (h : file? isBroken cs = some u) :
    u.scheme = "file" := by
  unfold file? at h
  split at h
  · simp only [Option.bind_eq_bind, Option.pure_def] at h
    split at h
    · split at h
      · cases h
        rfl
      · obtain ⟨host, -, hu⟩ := Option.bind_eq_some_iff.1 h
        cases hu
        split <;> rfl
    · cases h
      rfl
  · cases h
    rfl
  · cases h
    rfl

/-- A URL has the scheme that its text starts with. -/
theorem scheme_of_parseChars? {breaks : List Nat} (hs : scheme? cs = some (scheme, rest))
    (h : parseChars? breaks cs = some u) : u.scheme = scheme := by
  simp only [parseChars?, hs, Option.bind_eq_bind, Option.bind_some, Option.pure_def] at h
  split at h
  · obtain ⟨base, hbase, hu⟩ := Option.bind_eq_some_iff.1 h
    have hscheme := scheme_of_authority? hbase
    cases hu
    exact hscheme
  · split at h
    case isTrue hfile =>
      obtain ⟨base, hbase, hu⟩ := Option.bind_eq_some_iff.1 h
      have hscheme := scheme_of_file? hbase
      cases hu
      exact hscheme.trans hfile.symm
    case isFalse =>
      split at h
      · obtain ⟨base, hbase, hu⟩ := Option.bind_eq_some_iff.1 h
        have hscheme := scheme_of_authority? hbase
        cases hu
        exact hscheme
      · cases h
        rfl
      · cases h
        rfl

end Schemes

/-! ## Parts of a URL -/

/-- The text of a part that a URL may lack, without the sign that it starts with. -/
def part? (allowed : Char → Bool) : List Char → Option String
  | [] => none
  | _ :: text => some (String.ofList (percentEncode allowed text))

/-- A part is missing if there is no text for it. -/
theorem part?_eq_none_iff {allowed : Char → Bool} {cs : List Char} :
    part? allowed cs = none ↔ cs = [] := by
  cases cs <;> simp [part?]

/-- The path at the front of a text. -/
def pathPart (cs : List Char) : List Char := (cs.takeWhile (· != '#')).takeWhile (· != '?')

/-- The query behind the path, with its sign. -/
def queryPart (cs : List Char) : List Char := (cs.takeWhile (· != '#')).dropWhile (· != '?')

/-- The fragment behind the query, with its sign. -/
def fragmentPart (cs : List Char) : List Char := cs.dropWhile (· != '#')

section Parts

variable {xs : List Char} (h : ∀ c ∈ xs, c ≠ '#' ∧ c ≠ '?')
include h

/-- Characters without a sign at the front belong to the path. -/
theorem pathPart_append (tail : List Char) : pathPart (xs ++ tail) = xs ++ pathPart tail := by
  rw [pathPart, pathPart, List.takeWhile_append_of_pos fun c hc => bne_iff_ne.2 (h c hc).1,
    List.takeWhile_append_of_pos fun c hc => bne_iff_ne.2 (h c hc).2]

/-- They do not belong to the query. -/
theorem queryPart_append (tail : List Char) : queryPart (xs ++ tail) = queryPart tail := by
  rw [queryPart, queryPart, List.takeWhile_append_of_pos fun c hc => bne_iff_ne.2 (h c hc).1,
    List.dropWhile_append_of_pos fun c hc => bne_iff_ne.2 (h c hc).2]

/-- Nor do they belong to the fragment. -/
theorem fragmentPart_append (tail : List Char) : fragmentPart (xs ++ tail) = fragmentPart tail := by
  rw [fragmentPart, fragmentPart,
    List.dropWhile_append_of_pos fun c hc => bne_iff_ne.2 (h c hc).1]

end Parts

/-- A path has none of the signs that start what follows it. -/
theorem mem_pathPart {cs : List Char} {c : Char} (h : c ∈ pathPart cs) : c ≠ '#' ∧ c ≠ '?' := by
  rw [pathPart] at h
  have hmark := List.mem_takeWhile_imp h
  have hhash := List.mem_takeWhile_imp ((List.takeWhile_prefix _).subset h)
  exact ⟨bne_iff_ne.1 hhash, bne_iff_ne.1 hmark⟩

/-- A text without a query and a fragment has none of their signs. -/
theorem noSign_of_parts {cs : List Char} (hquery : queryPart cs = [])
    (hfragment : fragmentPart cs = []) : ∀ c ∈ cs, c ≠ '#' ∧ c ≠ '?' := by
  intro c hc
  rw [fragmentPart, List.dropWhile_eq_nil_iff] at hfragment
  rw [queryPart, List.takeWhile_eq_self_iff.2 hfragment, List.dropWhile_eq_nil_iff] at hquery
  exact ⟨bne_iff_ne.1 (hfragment c hc), bne_iff_ne.1 (hquery c hc)⟩

/-- A URL of the web is read part by part: what is behind the slashes, the query and the fragment.
-/
theorem parseChars?_web {breaks : List Nat} {cs rest : List Char} {scheme : String}
    (hs : scheme? cs = some (scheme, rest)) (hweb : isWeb scheme = true) :
    parseChars? breaks cs =
      (authority? scheme ((pathPart rest).dropWhile (UrlPath.isSlash true))).map fun u =>
        { u with
          query := part? (inQuery true) (queryPart rest)
          fragment := part? inFragment (fragmentPart rest) } := by
  simp only [parseChars?, hs, hweb, Option.bind_eq_bind, Option.bind_some, Option.pure_def,
    if_true, List.span_eq_takeWhile_dropWhile, Bool.true_or]
  rw [Option.map_eq_bind]
  rfl

/-! ## What is put behind a base -/

/-- Whether a character is trimmed at the ends of a URL. -/
def isOuter (c : Char) : Bool := c.toNat ≤ 0x20

/-- What is read of a text at the end of a URL: it is trimmed, and its line breaks are dropped. -/
def kept (cs : List Char) : List Char :=
  (cs.reverse.dropWhile isOuter).reverse.filter (!isLineBreak ·)

/-- Nothing is trimmed in front of the last slash of a text. -/
theorem trimmed_append (xs cs : List Char) :
    ((xs ++ '/' :: cs).reverse.dropWhile isOuter).reverse =
      xs ++ '/' :: (cs.reverse.dropWhile isOuter).reverse := by
  have hslash : ∀ c ∈ ('/' :: xs.reverse).head?, isOuter c = false := by
    rintro c ⟨⟩
    rfl
  rw [List.reverse_append, List.reverse_cons, List.append_assoc, List.singleton_append,
    dropWhile_append_of_head hslash, List.reverse_append, List.reverse_cons, List.reverse_reverse,
    List.append_assoc, List.singleton_append]

/-- Plain segments at the front are kept as they are. -/
theorem kept_joined {ss : List (List Char)} (h : ∀ s ∈ ss, UrlPath.IsPlain s) (cs : List Char) :
    kept (UrlPath.joined ss ++ cs) = UrlPath.joined ss ++ kept cs := by
  induction ss with
  | nil => rfl
  | cons s ss ih =>
    have hwhole : s.filter (!isLineBreak ·) = s := List.filter_eq_self.2 fun c hc => by
      rw [UrlPath.unbroken_of_inPath ((h s List.mem_cons_self).held c hc), Bool.not_false]
    rw [UrlPath.joined_cons, UrlPath.joined_cons, ← ih fun t ht => h t (List.mem_cons_of_mem s ht),
      kept, trimmed_append, List.filter_append, hwhole, List.filter_cons_of_pos (by decide), kept]

/-- The front of a text with a slash in it is read by itself. -/
theorem exists_front (base : String) : ∃ front : List Char, ∀ path : String,
    ∃ breaks, parse? (base ++ "/" ++ path) =
      parseChars? breaks (front ++ '/' :: kept path.toList) := by
  refine ⟨(base.toList.dropWhile isOuter).filter (!isLineBreak ·), fun path => ?_⟩
  have htrim : (((base ++ "/" ++ path).toList.dropWhile isOuter).reverse.dropWhile
      isOuter).reverse =
        base.toList.dropWhile isOuter ++ '/' :: (path.toList.reverse.dropWhile isOuter).reverse := by
    have htext : (base ++ "/" ++ path).toList = base.toList ++ '/' :: path.toList := by
      simp
    have hslash : ∀ c ∈ ('/' :: path.toList).head?, isOuter c = false := by
      rintro c ⟨⟩
      rfl
    rw [htext, dropWhile_append_of_head hslash, trimmed_append]
  have hchars : (base.toList.dropWhile isOuter).filter (!isLineBreak ·) ++ '/' :: kept path.toList =
      (base.toList.dropWhile isOuter ++
        '/' :: (path.toList.reverse.dropWhile isOuter).reverse).filter (!isLineBreak ·) := by
    rw [List.filter_append, List.filter_cons_of_pos (by decide)]
    rfl
  rw [hchars, ← htrim]
  exact ⟨Url.breaks _, rfl⟩

/-- What is put behind a base and a slash does not change the scheme. -/
theorem scheme_behind {base path : String} {root u : Url} (h : parse? (base ++ "/") = some root)
    (hu : parse? (base ++ "/" ++ path) = some u) : u.scheme = root.scheme := by
  obtain ⟨front, hfront⟩ := exists_front base
  obtain ⟨breaks, hroot⟩ := hfront ""
  obtain ⟨breaks', hpath⟩ := hfront path
  rw [String.append_empty, h] at hroot
  rw [hu] at hpath
  rcases scheme?_front front with hnone | ⟨scheme, rest, hscheme⟩
  · rw [parseChars?, hnone] at hroot
    cases hroot
  · exact (scheme_of_parseChars? (hscheme _) hpath.symm).trans
      (scheme_of_parseChars? (hscheme _) hroot.symm).symm

/-- The slashes that are skipped in front of a host end before the slash behind it, as there is no
host otherwise. -/
theorem exists_place {scheme : String} (hweb : isWeb scheme = true) {rest : List Char} {u : Url}
    (hu : authority? scheme ((rest ++ ['/']).dropWhile (UrlPath.isSlash true)) = some u) :
    ∃ place : List Char, ∀ tail,
      (rest ++ '/' :: tail).dropWhile (UrlPath.isSlash true) = place ++ '/' :: tail := by
  cases hplace : rest.dropWhile (UrlPath.isSlash true) with
  | nil =>
    have hnothing : (rest ++ ['/']).dropWhile (UrlPath.isSlash true) = [] := by
      rw [List.dropWhile_append, hplace]
      rfl
    rw [hnothing, authority?_nil hweb] at hu
    cases hu
  | cons c cs =>
    refine ⟨c :: cs, fun tail => ?_⟩
    rw [List.dropWhile_append, hplace]
    rfl

/-- Behind a host and a slash there are segments that go on from those in front of the slash. -/
theorem authority?_behind {scheme : String} (hweb : isWeb scheme = true) {place : List Char}
    {root : Url} (hroot : authority? scheme (place ++ ['/']) = some root) :
    ∃ lead : List (List Char), root.path = UrlPath.text (lead.reverse ++ [[]]) ∧
      ∀ tail, authority? scheme (place ++ '/' :: tail) = some { root with
        path := UrlPath.text (UrlPath.resolved false lead (UrlPath.segments true tail)) } := by
  have hslash : ∀ tail : List Char, ∀ c ∈ ('/' :: tail).head?, noSlash c = false := by
    rintro tail c ⟨⟩
    rfl
  rcases authority?_of_takeWhile hweb (place.takeWhile noSlash) with hnone | ⟨u, behind, hu⟩
  · rw [hnone _ (takeWhile_append_of_head (hslash _))] at hroot
    cases hroot
  obtain ⟨lead, hlead⟩ := UrlPath.exists_normal_append true (behind ++ place.dropWhile noSlash)
  have hauthority : ∀ tail, authority? scheme (place ++ '/' :: tail) = some { u with
      path := UrlPath.text (UrlPath.resolved false lead (UrlPath.segments true tail)) } := by
    intro tail
    rw [hu _ (takeWhile_append_of_head (hslash _)), dropWhile_append_of_head (hslash _),
      ← List.append_assoc, hlead]
  rw [hauthority] at hroot
  obtain rfl := Option.some.inj hroot
  refine ⟨lead, ?_, hauthority⟩
  show UrlPath.text (UrlPath.resolved false lead [[]]) = _
  rw [UrlPath.resolved_cons (by decide) (by decide), percentEncode_nil, UrlPath.resolved,
    List.reverse_cons]

/-- **Paths behind a base.** What is put behind a base without a query and a fragment and behind a
slash becomes the rest of its path and what follows that. -/
theorem parse?_behind {base : String} {root : Url} (h : parse? (base ++ "/") = some root)
    (hweb : isWeb root.scheme = true) (hquery : root.query = none)
    (hfragment : root.fragment = none) :
    ∃ lead : List (List Char), root.path = UrlPath.text (lead.reverse ++ [[]]) ∧
      ∀ path : String, parse? (base ++ "/" ++ path) = some { root with
        path := UrlPath.text (UrlPath.resolved false lead
          (UrlPath.segments true (pathPart (kept path.toList))))
        query := part? (inQuery true) (queryPart (kept path.toList))
        fragment := part? inFragment (fragmentPart (kept path.toList)) } := by
  obtain ⟨front, hfront⟩ := exists_front base
  obtain ⟨breaks, hroot⟩ := hfront ""
  rw [String.append_empty, h] at hroot
  -- the scheme ends in front of the slash
  obtain ⟨scheme, rest, hscheme⟩ : ∃ scheme rest, ∀ tail,
      scheme? (front ++ '/' :: tail) = some (scheme, rest ++ '/' :: tail) := by
    rcases scheme?_front front with hnone | hsome
    · rw [parseChars?, hnone] at hroot
      cases hroot
    · exact hsome
  rw [scheme_of_parseChars? (hscheme _) hroot.symm] at hweb
  rw [parseChars?_web (hscheme _) hweb, eq_comm, Option.map_eq_some_iff] at hroot
  obtain ⟨u, hu, rfl⟩ := hroot
  -- no sign stands in the base, so that those of the path are the first ones
  have hsign : ∀ c ∈ rest ++ ['/'], c ≠ '#' ∧ c ≠ '?' :=
    noSign_of_parts (part?_eq_none_iff.1 hquery) (part?_eq_none_iff.1 hfragment)
  have hcons : ∀ tail, rest ++ '/' :: tail = rest ++ ['/'] ++ tail := by
    intro tail
    rw [List.append_assoc, List.singleton_append]
  have hpath : ∀ tail, pathPart (rest ++ '/' :: tail) = rest ++ '/' :: pathPart tail := by
    intro tail
    rw [hcons, pathPart_append hsign, ← hcons]
  -- the host does so as well
  rw [hpath] at hu
  obtain ⟨place, hplace⟩ := exists_place hweb hu
  rw [hplace] at hu
  obtain ⟨lead, hlead, hauthority⟩ := authority?_behind hweb hu
  refine ⟨lead, hlead, fun path => ?_⟩
  obtain ⟨breaks, hparse⟩ := hfront path
  rw [hparse, parseChars?_web (hscheme _) hweb, hpath, hplace, hauthority, hcons,
    queryPart_append hsign, fragmentPart_append hsign]
  rfl

/-- **Plain segments behind a base.** Plain segments that are put behind a base stay as they are, and
what follows them is read by itself. -/
theorem parse?_behind_segments {base : String} {root : Url} (h : parse? (base ++ "/") = some root)
    (hweb : isWeb root.scheme = true) (hquery : root.query = none)
    (hfragment : root.fragment = none) {ss : List (List Char)} (hss : ∀ s ∈ ss, UrlPath.IsPlain s) :
    ∃ lead : List (List Char), root.path = UrlPath.text (lead.reverse ++ [[]]) ∧
      ∀ cs : List Char, parse? (base ++ "/" ++ String.ofList (UrlPath.joined ss ++ cs)) =
        some { root with
          path := UrlPath.text (UrlPath.resolved false (ss.reverse ++ lead)
            (UrlPath.segments true (pathPart (kept cs))))
          query := part? (inQuery true) (queryPart (kept cs))
          fragment := part? inFragment (fragmentPart (kept cs)) } := by
  obtain ⟨lead, hpath, hparse⟩ := parse?_behind h hweb hquery hfragment
  refine ⟨lead, hpath, fun cs => ?_⟩
  have hsign : ∀ c ∈ UrlPath.joined ss, c ≠ '#' ∧ c ≠ '?' := fun c hc =>
    UrlPath.unsigned_of_inPath (UrlPath.mem_joined hss hc)
  rw [hparse, String.toList_ofList, kept_joined hss, pathPart_append hsign, queryPart_append hsign,
    fragmentPart_append hsign, UrlPath.segments_joined hss,
    UrlPath.resolved_append (fun s hs => (hss s hs).notUp) (fun s hs => (hss s hs).notDot)
      fun s hs => UrlPath.percentEncode_of_inPath (hss s hs).held]

end Url

end FirewallOperator
