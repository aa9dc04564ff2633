import FirewallOperator.Proofs.Escapes
import FirewallOperator.Proofs.Exchanges

/-! # URLs that are asked for

A request is made if its URL has a host and is a URI of one of the two schemes. More pairs in the
query can only make it too long: `Backend.url_of_pairs` says which requests to one place can be made
once a request without pairs can. -/

namespace FirewallOperator

/-! ## Texts up to a character -/

section Prefixes

variable {α : Type} {p : α → Bool} {xs ys : List α}

/-- Where a text stops is not changed by what follows, if that would not have gone on either. -/
theorem takeWhile_append_of_head (h : ∀ y ∈ ys.head?, p y = false) :
    (xs ++ ys).takeWhile p = xs.takeWhile p := by
  have hnone : ys.takeWhile p = [] := by
    cases ys with
    | nil => rfl
    | cons y ys => rw [List.takeWhile_cons_of_neg (by simp [h y rfl])]
  rw [List.takeWhile_append]
  split
  case isTrue hall =>
    rw [hnone, List.append_nil]
    exact ((List.takeWhile_prefix p).eq_of_length hall).symm
  case isFalse => rfl

/-- What is dropped from the front ends with the first piece, if the second one does not go on with
it. -/
theorem dropWhile_append_of_head (h : ∀ y ∈ ys.head?, p y = false) :
    (xs ++ ys).dropWhile p = xs.dropWhile p ++ ys := by
  have hsplit := List.takeWhile_append_dropWhile (p := p) (l := xs ++ ys)
  rw [takeWhile_append_of_head h] at hsplit
  have hxs := List.takeWhile_append_dropWhile (p := p) (l := xs)
  exact List.append_cancel_left
    (hsplit.trans ((congrArg (· ++ ys) hxs.symm).trans (List.append_assoc ..)))

/-- What is taken from the front of two pieces is taken from the front of one of them. -/
theorem mem_takeWhile_append {x : α} (h : x ∈ (xs ++ ys).takeWhile p) :
    x ∈ xs.takeWhile p ∨ x ∈ ys.takeWhile p := by
  rw [List.takeWhile_append] at h
  split at h
  case isTrue hall =>
    rw [(List.takeWhile_prefix p).eq_of_length hall]
    exact List.mem_append.1 h
  case isFalse => exact .inl h

/-- What is taken from the front of a piece is taken, too, if another piece follows. -/
theorem takeWhile_subset_append : xs.takeWhile p ⊆ (xs ++ ys).takeWhile p := by
  intro x hx
  rw [List.takeWhile_append]
  split
  case isTrue hall =>
    rw [(List.takeWhile_prefix p).eq_of_length hall] at hx
    exact List.mem_append_left _ hx
  case isFalse => exact hx

end Prefixes

/-! ## URIs of the web -/

namespace Uri

/-- A text is a request target if its path and its query hold what these may hold. -/
theorem isSome_target?_iff {cs : List Char} :
    (target? cs).isSome ↔
      (∀ c ∈ (cs.takeWhile (· != '#')).takeWhile (· != '?'), inPath c = true) ∧
        ∀ c ∈ (cs.takeWhile (· != '#')).dropWhile (· != '?'), inQuery c = true := by
  rw [target?]
  simp only [List.span_eq_takeWhile_dropWhile]
  split <;> simp_all

/-- What follows the path can be changed, if what comes in its place can be held by a query. -/
theorem isSome_target?_append {xs ys zs : List Char} (h : (target? (xs ++ ys)).isSome)
    (hys : ∀ c ∈ ys.head?, c = '?' ∨ c = '#') (hzs : ∀ c ∈ zs.head?, c = '?' ∨ c = '#')
    (hnew : (∀ c ∈ ys.takeWhile (· != '#'), inQuery c = true) →
      ∀ c ∈ zs.takeWhile (· != '#'), inQuery c = true) :
    (target? (xs ++ zs)).isSome := by
  by_cases hhash : '#' ∈ xs
  · -- nothing behind the first number sign is looked at
    have hsame : ∀ rest, (xs ++ rest).takeWhile (· != '#') = xs.takeWhile (· != '#') := by
      intro rest
      rw [List.takeWhile_append, if_neg]
      intro hall
      have hmem := (List.takeWhile_prefix (· != '#')).eq_of_length hall ▸ hhash
      simpa using List.mem_takeWhile_imp hmem
    rw [isSome_target?_iff, hsame] at h ⊢
    exact h
  · have hxs : ∀ c ∈ xs, (c != '#') = true := by
      intro c hc
      refine bne_iff_ne.2 fun he => hhash ?_
      rwa [he] at hc
    have hwhole : ∀ rest, (xs ++ rest).takeWhile (· != '#') =
        xs ++ rest.takeWhile (· != '#') := fun rest => List.takeWhile_append_of_pos hxs
    have hhead : ∀ rest : List Char, (∀ c ∈ rest.head?, c = '?' ∨ c = '#') →
        ∀ c ∈ (rest.takeWhile (· != '#')).head?, (c != '?') = false := by
      intro rest hrest c hc
      cases rest with
      | nil => cases hc
      | cons d rest =>
        rw [List.takeWhile_cons] at hc
        split at hc
        case isTrue hne =>
          cases hc
          rcases hrest c rfl with rfl | rfl
          · rfl
          · cases hne
        case isFalse => cases hc
    rw [isSome_target?_iff, hwhole, takeWhile_append_of_head (hhead _ hys),
      dropWhile_append_of_head (hhead _ hys)] at h
    rw [isSome_target?_iff, hwhole, takeWhile_append_of_head (hhead _ hzs),
      dropWhile_append_of_head (hhead _ hzs)]
    refine ⟨h.1, fun c hc => ?_⟩
    rcases List.mem_append.1 hc with hc | hc
    · exact h.2 c (List.mem_append_left _ hc)
    · exact hnew (fun d hd => h.2 d (List.mem_append_right _ hd)) c hc

/-- Whether a text names an authority and what is asked for there. -/
def isPlace (cs : List Char) : Bool :=
  !(cs.takeWhile (!endsAuthority ·)).isEmpty && isAuthority (cs.takeWhile (!endsAuthority ·))
    && (target? (cs.dropWhile (!endsAuthority ·))).isSome

/-- A text stays a place if the query and the fragment behind it are replaced by valid ones. -/
theorem isPlace_append {xs ys zs : List Char} (h : isPlace (xs ++ ys) = true)
    (hys : ∀ c ∈ ys.head?, c = '?' ∨ c = '#') (hzs : ∀ c ∈ zs.head?, c = '?' ∨ c = '#')
    (hnew : (∀ c ∈ ys.takeWhile (· != '#'), inQuery c = true) →
      ∀ c ∈ zs.takeWhile (· != '#'), inQuery c = true) :
    isPlace (xs ++ zs) = true := by
  have hends : ∀ rest : List Char, (∀ c ∈ rest.head?, c = '?' ∨ c = '#') →
      ∀ c ∈ rest.head?, (!endsAuthority c) = false := by
    intro rest hrest c hc
    rcases hrest c hc with rfl | rfl <;> rfl
  rw [isPlace, takeWhile_append_of_head (hends _ hys), dropWhile_append_of_head (hends _ hys),
    Bool.and_eq_true] at h
  rw [isPlace, takeWhile_append_of_head (hends _ hzs), dropWhile_append_of_head (hends _ hzs),
    Bool.and_eq_true]
  exact ⟨h.1, isSome_target?_append h.2 hys hzs hnew⟩

/-- A text of one of the two schemes is a URI if it is not too long and names a place. -/
theorem isUri_web {s : String} {scheme rest : List Char}
    (hscheme : scheme = ['h', 't', 't', 'p'] ∨ scheme = ['h', 't', 't', 'p', 's'])
    (hs : s.toList = scheme ++ ':' :: '/' :: '/' :: rest) :
    isUri s = true ↔ (utf8 s).length ≤ maxLength ∧ isPlace rest = true := by
  have hsigns : "+-.~".contains ':' = false := by
    rw [String.contains_char_eq, String.toList_ofList]
    decide
  have hlength : schemeLength? s.toList = some scheme.length := by
    rw [hs, schemeLength?]
    rcases hscheme with rfl | rfl <;> simp [List.takeWhile]
  have hdrop : s.toList.drop (scheme.length + 3) = rest := by
    rw [hs, ← List.drop_drop, List.drop_left]
    rfl
  rw [isUri, Bool.and_eq_true, decide_eq_true_iff]
  refine and_congr_right fun _ => ?_
  have hlow : scheme.length ≤ 64 := by rcases hscheme with rfl | rfl <;> decide
  rcases hscheme with rfl | rfl
  all_goals
    simp only [hs, List.cons_append, List.nil_append] at hlength hdrop ⊢
    simp only [hlength, hdrop, List.span_eq_takeWhile_dropWhile, hlow, decide_true, Bool.true_and,
      isPlace]
    exact Iff.rfl

/-- A query holds the characters of a form as they are. -/
theorem inQuery_of_mem_formPairs {pairs : List (String × String)} {c : Char}
    (h : c ∈ formPairs pairs) : inQuery c = true ∧ c ≠ '#' := by
  have hsplit := mem_formPairs h
  have hascii : c.toNat < 128 := hsplit.elim ascii_of_inForm (ascii_of_mem (by decide))
  rw [inForm_iff] at hsplit
  revert hsplit
  exact forall_ascii (P := fun c => (c.isAlphanum = true ∨ c ∈ ['*', '-', '.', '_']) ∨
    c ∈ ['+', '%', '=', '&'] → inQuery c = true ∧ c ≠ '#') (by decide) hascii

end Uri

/-! ## Queries -/

namespace Url

variable {u : Url} {pairs : List (String × String)}

/-- The characters of a URL with a host between its first two slashes and its query. -/
def place (u : Url) : List Char := u.authorityText.toList.drop 2 ++ u.pathText.toList

/-- The characters of a URL from its query on. -/
def behind (u : Url) : List Char :=
  ((u.query.map ("?" ++ ·)).getD "").toList ++ ((u.fragment.map ("#" ++ ·)).getD "").toList

/-- A URL with a host is written as its scheme, two slashes, its place, and what is behind. -/
theorem toList_text (h : u.hasHost = true) :
    u.text.toList = u.scheme.toList ++ ':' :: '/' :: '/' :: (u.place ++ u.behind) := by
  cases hhost : u.host with
  | none =>
    rw [hasHost, hhost] at h
    cases h
  | some host =>
    have hauthority : u.authorityText.toList = '/' :: '/' :: u.authorityText.toList.drop 2 := by
      rw [authorityText, hhost]
      simp
    simp only [text, place, behind, String.toList_append]
    rw [hauthority]
    simp

/-- What a URL has in its query before pairs that are added. -/
def ownQuery (u : Url) : String :=
  if (u.query.getD "").isEmpty then "" else u.query.getD "" ++ "&"

/-- Pairs are added to a URL behind its own query, as a form. -/
theorem addPairs_eq (h : pairs ≠ []) :
    u.addPairs pairs =
      { u with query := some (u.ownQuery ++ String.ofList (formPairs pairs)) } := by
  rw [addPairs, if_neg (by simpa using h)]
  rfl

/-- A URL without pairs to add stays as it is. -/
@[simp] theorem addPairs_nil : u.addPairs [] = u := if_pos rfl

/-- Pairs that are added leave the host. -/
@[simp] theorem hasHost_addPairs : (u.addPairs pairs).hasHost = u.hasHost := by
  rw [addPairs]
  split <;> rfl

/-- Pairs that are added leave the scheme. -/
@[simp] theorem scheme_addPairs : (u.addPairs pairs).scheme = u.scheme := by
  rw [addPairs]
  split <;> rfl

/-- Pairs that are added leave the place. -/
@[simp] theorem place_addPairs : (u.addPairs pairs).place = u.place := by
  rw [addPairs]
  split <;> rfl

/-- What is behind a place starts with the sign of a query or of a fragment. -/
theorem head_behind : ∀ c ∈ u.behind.head?, c = '?' ∨ c = '#' := by
  intro c hc
  rw [behind] at hc
  cases hquery : u.query with
  | some q =>
    rw [hquery] at hc
    simp at hc
    exact .inl hc.symm
  | none =>
    cases hfragment : u.fragment with
    | some f =>
      rw [hquery, hfragment] at hc
      simp at hc
      exact .inr hc.symm
    | none =>
      rw [hquery, hfragment] at hc
      simp at hc

/-- Whether all characters of a text, up to the sign that would start a fragment, can stand in a
query. -/
def CanBeAsked (cs : List Char) : Prop := ∀ c ∈ cs.takeWhile (· != '#'), Uri.inQuery c = true

/-- Text before something that can be asked leaves open only whether it can be asked itself. -/
theorem canBeAsked_append {cs ds : List Char} (h : CanBeAsked ds) :
    CanBeAsked (cs ++ ds) ↔ CanBeAsked cs :=
  ⟨fun hall c hc => hall c (takeWhile_subset_append hc),
    fun hcs c hc => (mem_takeWhile_append hc).elim (hcs c) (h c)⟩

/-- What comes behind the place can be asked for if the text of the query can. -/
theorem canBeAsked_behind : CanBeAsked u.behind ↔ CanBeAsked (u.query.getD "").toList := by
  have hfragment : CanBeAsked ((u.fragment.map ("#" ++ ·)).getD "").toList := by
    intro c hc
    cases hf : u.fragment <;> rw [hf] at hc <;> simp at hc
  rw [behind, canBeAsked_append hfragment]
  cases u.query with
  | none => exact Iff.rfl
  | some q =>
    simp only [Option.map_some, Option.getD_some, String.toList_append]
    show CanBeAsked ('?' :: q.toList) ↔ CanBeAsked q.toList
    have hmark : Uri.inQuery '?' = true := by decide
    simp [CanBeAsked, hmark]

/-- Pairs that are added to a query can always be asked for. -/
theorem canBeAsked_behind_addPairs :
    CanBeAsked (u.addPairs pairs).behind ↔ CanBeAsked u.behind := by
  by_cases hpairs : pairs = []
  · rw [hpairs, addPairs_nil]
  have hform : CanBeAsked (formPairs pairs) := fun c hc =>
    (Uri.inQuery_of_mem_formPairs ((List.takeWhile_prefix _).subset hc)).1
  have hjoint : CanBeAsked "&".toList := by
    intro c hc
    obtain rfl : c = '&' := by simpa using (List.takeWhile_prefix _).subset hc
    decide
  rw [canBeAsked_behind, canBeAsked_behind, addPairs_eq hpairs]
  simp only [Option.getD_some, String.toList_append, String.toList_ofList]
  rw [canBeAsked_append hform, ownQuery]
  split
  case isTrue hempty =>
    rw [String.isEmpty_iff.1 hempty]
  case isFalse => rw [String.toList_append, canBeAsked_append hjoint]

/-- Added pairs make no URL shorter. -/
theorem length_text_le_addPairs (h : u.hasHost = true) (pairs : List (String × String)) :
    (utf8 u.text).length ≤ (utf8 (u.addPairs pairs).text).length := by
  by_cases hpairs : pairs = []
  · rw [hpairs, addPairs_nil]
  rw [utf8_eq_charBytes, utf8_eq_charBytes, toList_text h,
    toList_text (u := u.addPairs pairs) (by rwa [hasHost_addPairs]), scheme_addPairs,
    place_addPairs]
  simp only [charBytes_append, charBytes_cons, List.length_append]
  -- the scheme and the place are the same, so it is the query that counts
  have hbehind : (charBytes u.behind).length ≤ (charBytes (u.addPairs pairs).behind).length := by
    rw [addPairs_eq hpairs, behind, behind, ownQuery]
    simp only [Option.map_some, Option.getD_some, String.toList_append, charBytes_append,
      List.length_append]
    cases u.query with
    | none =>
      simp only [Option.map_none, Option.getD_none, String.toList_empty, charBytes_nil,
        List.length_nil]
      omega
    | some q =>
      simp only [Option.map_some, Option.getD_some, String.toList_append, charBytes_append,
        List.length_append]
      split
      case isTrue hempty =>
        rw [String.isEmpty_iff.1 hempty, String.toList_empty, charBytes_nil, List.length_nil]
        omega
      case isFalse =>
        rw [String.toList_append, charBytes_append, List.length_append]
        omega
  omega

/-- A URL to which pairs are added gets longer by their form, and by one sign at most. -/
theorem length_text_addPairs_le (u : Url) (pairs : List (String × String)) :
    (utf8 (u.addPairs pairs).text).length ≤
      (utf8 u.text).length + (charBytes (formPairs pairs)).length + 1 := by
  by_cases hpairs : pairs = []
  · rw [hpairs, addPairs_nil]
    omega
  -- the sign is the mark of a query where there was none, or else joins the pairs to it
  have hown : (charBytes "?".toList).length + (charBytes u.ownQuery.toList).length ≤
      (charBytes ((u.query.map ("?" ++ ·)).getD "").toList).length + 1 := by
    have hmark : (charBytes "?".toList).length = 1 := by decide
    have hjoint : (charBytes "&".toList).length = 1 := by decide
    rw [ownQuery]
    cases u.query with
    | none => decide
    | some q =>
      simp only [Option.map_some, Option.getD_some, String.toList_append, charBytes_append,
        List.length_append]
      split
      · rw [String.toList_empty, charBytes_nil, List.length_nil]
        omega
      · rw [String.toList_append, charBytes_append, List.length_append]
        omega
  rw [addPairs_eq hpairs, text, text, utf8_eq_charBytes, utf8_eq_charBytes]
  simp only [Option.map_some, Option.getD_some, String.toList_append, String.toList_ofList,
    charBytes_append, List.length_append]
  show _ + (charBytes u.authorityText.toList).length + (charBytes u.pathText.toList).length + _ + _
    ≤ _
  omega

end Url

/-! ## Requests to one place -/

namespace Backend

variable {u : Url}

/-- Whether a URL is short enough to be asked for. -/
def Fits (u : Url) : Prop := (utf8 u.text).length ≤ Uri.maxLength

instance : Decidable (Fits u) := inferInstanceAs (Decidable (_ ≤ _))

/-- What can be asked for: a URL of one of the two schemes that is not too long and names a place. -/
theorem isRequestable_iff (hhost : u.hasHost = true) : isRequestable u = true ↔
    (u.scheme = "http" ∨ u.scheme = "https") ∧ Fits u ∧
      Uri.isPlace (u.place ++ u.behind) = true := by
  rw [isRequestable, Bool.and_eq_true, Bool.or_eq_true, beq_iff_eq, beq_iff_eq]
  refine and_congr_right fun hscheme => ?_
  refine Uri.isUri_web (hscheme.imp ?_ ?_) (Url.toList_text hhost)
  · exact fun hs => hs ▸ String.toList_ofList
  · exact fun hs => hs ▸ String.toList_ofList

/-- More pairs can make a URL too long to be asked for, and do nothing else to it. -/
theorem isRequestable_addPairs (hhost : u.hasHost = true) (pairs : List (String × String)) :
    isRequestable (u.addPairs pairs) = true ↔
      isRequestable u = true ∧ Fits (u.addPairs pairs) := by
  -- pairs change nothing but the query, and only to what a query can hold
  have hplace : Uri.isPlace (u.place ++ (u.addPairs pairs).behind) = true ↔
      Uri.isPlace (u.place ++ u.behind) = true :=
    ⟨fun h => Uri.isPlace_append h Url.head_behind Url.head_behind
        Url.canBeAsked_behind_addPairs.1,
      fun h => Uri.isPlace_append h Url.head_behind Url.head_behind
        Url.canBeAsked_behind_addPairs.2⟩
  have hle := Url.length_text_le_addPairs hhost pairs
  rw [isRequestable_iff hhost, isRequestable_iff (by rwa [Url.hasHost_addPairs]),
    Url.scheme_addPairs, Url.place_addPairs, hplace]
  constructor
  · rintro ⟨hscheme, hfits, hok⟩
    exact ⟨⟨hscheme, hle.trans hfits, hok⟩, hfits⟩
  · rintro ⟨⟨hscheme, -, hok⟩, hfits⟩
    exact ⟨hscheme, hfits, hok⟩

variable {b : Backend} {path : String}

/-- What is said where no request can be made for a URL. -/
def refusal (u : Url) : String := "builder error for url (" ++ u.text ++ ")"

/-- The URL of a path with pairs is that without them, if there is one, with the pairs added. -/
theorem url_eq (b : Backend) (path : String) :
    (∃ message, ∀ pairs, b.url path pairs = .error message) ∨
      ∃ u : Url, u.hasHost = true ∧ ∀ pairs, b.url path pairs =
        if isRequestable (u.addPairs pairs) = true then .ok (u.addPairs pairs)
        else .error (refusal (u.addPairs pairs)) := by
  simp only [url]
  cases Url.parse? (b.base ++ path) with
  | none => exact .inl ⟨_, fun _ => rfl⟩
  | some v =>
    cases hhost : v.hasHost with
    | false =>
      refine .inl ⟨refusal v, fun _ => ?_⟩
      simp only [hhost, Bool.not_false, if_true]
      rfl
    | true =>
      refine .inr ⟨if hasLogin v then v.withoutLogin else v, ?_, fun _ => ?_⟩
      · split <;> exact hhost
      · simp only [hhost, Bool.not_true, Bool.false_eq_true, if_false]
        rfl

/-- A URL without user name and password has no login to be told. -/
theorem hasLogin_eq_false (huser : u.user = "") (hpassword : u.password = none) :
    hasLogin u = false := by
  have huser' : decoded? u.user = some "" := by
    rw [huser, decoded?_eq_some_iff]
    exact percentDecode_nil
  rw [hasLogin, huser', hpassword]
  rfl

/-- The URL of a path is what the base and the path denote, if there is no login in it. -/
theorem url_of_parse (hparse : Url.parse? (b.base ++ path) = some u) (hhost : u.hasHost = true)
    (huser : u.user = "") (hpassword : u.password = none) (h : isRequestable u = true) :
    b.url path [] = .ok u := by
  rw [url, hparse]
  simp only [hhost, hasLogin_eq_false huser hpassword, Bool.not_true, Bool.false_eq_true, if_false,
    Url.addPairs_nil, h, if_true]

/-- The URL of a path has the path and the query of what the base and the path denote. -/
theorem exists_parse?_of_url (h : b.url path [] = .ok u) :
    ∃ v, Url.parse? (b.base ++ path) = some v ∧ Url.isWeb v.scheme = true ∧ u.path = v.path ∧
      u.query = v.query := by
  rw [url] at h
  cases hparse : Url.parse? (b.base ++ path) with
  | none =>
    rw [hparse] at h
    cases h
  | some v =>
    rw [hparse] at h
    simp only [Url.addPairs_nil] at h
    split at h
    case isTrue => cases h
    case isFalse hhost =>
      rw [Bool.not_eq_true, Bool.not_eq_false'] at hhost
      have hsame : (if hasLogin v = true then v.withoutLogin else v).hasHost = true ∧
          (if hasLogin v = true then v.withoutLogin else v).scheme = v.scheme ∧
          (if hasLogin v = true then v.withoutLogin else v).path = v.path ∧
          (if hasLogin v = true then v.withoutLogin else v).query = v.query := by
        split <;> exact ⟨hhost, rfl, rfl, rfl⟩
      -- of the URL without its login nothing but these facts is needed
      generalize (if hasLogin v = true then v.withoutLogin else v) = w at h hsame
      split at h
      case isFalse => cases h
      case isTrue hw =>
        cases h
        refine ⟨v, rfl, ?_, hsame.2.2⟩
        rw [← hsame.2.1]
        rcases ((isRequestable_iff hsame.1).1 hw).1 with hs | hs <;> rw [hs] <;> decide

/-- **Requests to one place.** Where a place can be asked for, it can be asked for with every query
that does not make its URL too long. -/
theorem url_of_pairs (h : b.url path [] = .ok u) (pairs : List (String × String)) :
    b.url path pairs =
      if Fits (u.addPairs pairs) then .ok (u.addPairs pairs)
      else .error (refusal (u.addPairs pairs)) := by
  rcases url_eq b path with ⟨message, hurl⟩ | ⟨v, hhost, hurl⟩
  · rw [hurl] at h
    cases h
  · rw [hurl, Url.addPairs_nil] at h
    split at h
    case isFalse => cases h
    case isTrue hv =>
      cases h
      rw [hurl]
      simp only [isRequestable_addPairs hhost, hv, true_and]

/-- Where a place cannot be asked for, no query changes that. -/
theorem url_of_pairs_error {message : String} (h : b.url path [] = .error message)
    (pairs : List (String × String)) : ∃ message, b.url path pairs = .error message := by
  rcases url_eq b path with ⟨message, hurl⟩ | ⟨v, hhost, hurl⟩
  · exact ⟨message, hurl pairs⟩
  · rw [hurl, Url.addPairs_nil] at h
    split at h
    case isTrue => cases h
    case isFalse hv =>
      rw [hurl, if_neg fun hpairs => hv ((isRequestable_addPairs hhost pairs).1 hpairs).1]
      exact ⟨_, rfl⟩

/-! ## Requests that are sent -/

/-- The request that is sent for a URL. -/
def requestFor (b : Backend) (method : String) (u : Url) (body : Option Json) : Request where
  method := method
  url := u.withoutFragment.text
  authorization := some (credentials b.user b.password)
  contentType := body.map fun _ => "application/json"
  body := body

/-- The body of an answer, which some statuses do not have. -/
def bodyOf (status : UInt16) (text : String) : String := if hasNoBody status then "" else text

/-- What a reply to the request for a URL comes to. -/
def outcomeOf (operation : String) (u : Url) : Reply → Except Fault String
  | .dropped =>
    .error (.backend operation none ("error sending request for url (" ++ u.text ++ ")"))
  | .answered status text =>
    if isSuccess status then .ok (bodyOf status text)
    else .error (.backend operation (some status) (bodyOf status text))

section Sending

variable {pairs : List (String × String)} (operation method : String) (body : Option Json)
  (s : Server)

/-- What can be asked for is asked for once, and the reply decides. -/
theorem runFrom_send (h : b.url path pairs = .ok u) :
    runFrom (b.send operation method path pairs body) s =
      (outcomeOf operation u s.reply, s.asked (b.requestFor method u body)) := by
  rw [send, h]
  simp only [runFrom_bind, Exchange.runFrom_send]
  rw [← requestFor]
  cases s.reply with
  | dropped => rfl
  | answered status text =>
    simp only [outcomeOf, bodyOf]
    split <;> rfl

/-- What cannot be asked for is not sent. -/
theorem runFrom_send_of_error {message : String} (h : b.url path pairs = .error message) :
    runFrom (b.send operation method path pairs body) s =
      (.error (.backend operation none message), s) := by
  rw [send, h]
  rfl

end Sending

end Backend

end FirewallOperator
