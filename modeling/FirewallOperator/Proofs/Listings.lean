import FirewallOperator.Proofs.Addresses
import FirewallOperator.Proofs.RoundTrips

/-! # Listings follow the cursors

A listing asks for one page after the other, each with the cursor that the page before it names. It
goes past pages (`Backend.GoesPast`) until one stops it or something fails (`Backend.Ends`), and then
returns all results or none (`Backend.list_ends`). -/

namespace FirewallOperator

/-! ## Pages -/

namespace Page

variable {α : Type} {p : Page α} {sent : Option String}

/-- Whether a page that was asked for with a cursor is the last one: it has no results, or names no
cursor, an empty one, or the same one again. -/
def Stops (sent : Option String) (p : Page α) : Prop :=
  p.results = [] ∨ p.cursor = none ∨ p.cursor = some "" ∨ p.cursor = sent

/-- There is no further page to ask for exactly if a page stops the listing. -/
theorem next_eq_none_iff : p.next sent = none ↔ p.Stops sent := by
  rw [next, Stops]
  cases p.cursor with
  | none => simp
  | some c =>
    rw [ite_eq_left_iff, Bool.not_eq_true, Bool.or_eq_false_iff, Bool.or_eq_false_iff]
    simp only [reduceCtorEq, imp_false, false_or, Option.some.injEq, List.isEmpty_eq_false_iff,
      String.isEmpty_eq_false_iff, beq_eq_false_iff_ne, ne_eq, eq_comm (a := some c)]
    tauto

/-- A page that does not stop the listing names the cursor to go on with. -/
theorem exists_next_of_not_stops (h : ¬p.Stops sent) :
    ∃ c, p.cursor = some c ∧ p.next sent = some c := by
  cases hnext : p.next sent with
  | none => exact absurd (next_eq_none_iff.1 hnext) h
  | some c =>
    refine ⟨c, ?_, rfl⟩
    rw [next] at hnext
    cases hcursor : p.cursor with
    | none =>
      rw [hcursor] at hnext
      cases hnext
    | some d =>
      rw [hcursor, ite_eq_iff] at hnext
      rcases hnext with ⟨-, hnone⟩ | ⟨-, hsome⟩
      · cases hnone
      · exact hsome

/-- The cursors with which pages are asked for, and what comes behind them: that of the first one,
and then that which the page before names. -/
def cursors (first : Option String) (ps : List (Page α)) : List (Option String) :=
  first :: ps.map Page.cursor

/-- The cursor with which is asked for what comes behind pages. -/
def cursorBehind (first : Option String) : List (Page α) → Option String
  | [] => first
  | p :: ps => cursorBehind p.cursor ps

/-- The last of the cursors is the one with which is asked for what comes behind the pages. -/
theorem getLast?_cursors (first : Option String) (ps : List (Page α)) :
    (cursors first ps).getLast? = some (cursorBehind first ps) := by
  induction ps generalizing first with
  | nil => rfl
  | cons p ps ih => exact ih p.cursor

end Page

namespace Backend

open Page

variable (α : Type) [Managed α] (b : Backend) (u : Url)

/-! ## Requests for pages -/

/-- The path of the search. -/
def searchPath : String := "/policy/api/v1/search/query"

/-- What a listing is called in a fault. -/
def listing : String := "list " ++ (Managed.kind α).name

/-- The pairs that ask for the page at a cursor. -/
def pairsAt (cursor : Option String) : List (String × String) :=
  pagePairs (b.searchQuery (Managed.kind α)) cursor

/-- The URL of the page at a cursor, where the search is at the URL `u`. -/
def pageUrl (cursor : Option String) : Url := u.addPairs (pairsAt α b cursor)

/-- The request for the page at a cursor. -/
def pageRequest (cursor : Option String) : Request :=
  b.requestFor "GET" (pageUrl α b u cursor) none

/-- The page that a text denotes. -/
def readPage (text : String) : Option (Page α) :=
  (Json.parseLoose text).bind (Page.ofJson? Managed.ofJson?)

variable {α b u} {cursor : Option String}

/-- The URL of a page is that of the search with the form behind its own query. -/
theorem pageUrl_eq : pageUrl α b u cursor =
    { u with query := some (u.ownQuery ++ String.ofList (formPairs (pairsAt α b cursor))) } :=
  Url.addPairs_eq (List.cons_ne_nil _ _)

/-- The search is asked for a page by a form that holds the query, and the cursor if there is
one. -/
theorem query_pageUrl (cursor : Option String) : ∃ form : String,
    pageUrl α b u cursor = { u with query := some (u.ownQuery ++ form) } ∧
      formPairs? form.toList = some (("query", b.searchQuery (Managed.kind α)) ::
        cursor.toList.map fun c => ("cursor", c)) := by
  refine ⟨String.ofList (formPairs (pairsAt α b cursor)), pageUrl_eq, ?_⟩
  rw [String.toList_ofList]
  exact formPairs?_formPairs (List.cons_ne_nil _ _)

/-- The reply to a request for a page, if it is one that can be read. -/
def pageOf? (α : Type) [Managed α] : Reply → Option (Page α)
  | .dropped => none
  | .answered status text =>
    if isSuccess status then readPage α (bodyOf status text) else none

/-! ## The ends of listings -/

/-- Replies start with pages past which a listing goes that asks with a cursor first: each of them
can be asked for, can be read, and names a cursor from which to go on. -/
def GoesPast (b : Backend) (u : Url) : Option String → List Reply → List (Page α) → Prop
  | _, _, [] => True
  | cursor, replies, p :: ps =>
    Fits (pageUrl α b u cursor) ∧ pageOf? α (replies.head?.getD Server.spent) = some p ∧
      ¬p.Stops cursor ∧ GoesPast b u p.cursor replies.tail ps

/-- Behind pages that a listing has gone past, there is no further one that it can go past. -/
def Settled (b : Backend) (u : Url) (first : Option String) (passed : List (Page α))
    (reply : Reply) : Prop :=
  Fits (pageUrl α b u (cursorBehind first passed)) → ∀ p, pageOf? α reply = some p →
    p.Stops (cursorBehind first passed)

/-- What can happen behind the pages that a listing has gone past, depending on the reply to its
next request: the last page or a fault, and the requests that have been sent by then. -/
inductive Ends (b : Backend) (u : Url) (first : Option String) (passed : List (Page α))
    (reply : Reply) : Except Fault (Page α) → List Request → Prop
  /-- The next page is the last one. -/
  | stopped (last : Page α) (fits : Fits (pageUrl α b u (cursorBehind first passed)))
      (read : pageOf? α reply = some last) (stops : last.Stops (cursorBehind first passed)) :
      Ends b u first passed reply (.ok last) ((cursors first passed).map (pageRequest α b u))
  /-- There is no answer. -/
  | dropped (message : String) (fits : Fits (pageUrl α b u (cursorBehind first passed)))
      (lost : reply = .dropped) :
      Ends b u first passed reply (.error (.backend (listing α) none message))
        ((cursors first passed).map (pageRequest α b u))
  /-- The request is refused. -/
  | refused (status : UInt16) (text : String)
      (fits : Fits (pageUrl α b u (cursorBehind first passed)))
      (answer : reply = .answered status text) (failure : isSuccess status = false) :
      Ends b u first passed reply (.error (.backend (listing α) (some status) (bodyOf status text)))
        ((cursors first passed).map (pageRequest α b u))
  /-- The answer is no page. -/
  | unreadable (status : UInt16) (text : String)
      (fits : Fits (pageUrl α b u (cursorBehind first passed)))
      (answer : reply = .answered status text) (success : isSuccess status = true)
      (unread : readPage α (bodyOf status text) = none) :
      Ends b u first passed reply
        (.error (.data "error decoding response body" (some (Managed.kind α).name)))
        ((cursors first passed).map (pageRequest α b u))
  /-- The URL of the next page is too long, so that nothing is asked any more. -/
  | tooLong (long : ¬Fits (pageUrl α b u (cursorBehind first passed))) :
      Ends b u first passed reply
        (.error (.backend (listing α) none (refusal (pageUrl α b u (cursorBehind first passed)))))
        ((cursors first passed).dropLast.map (pageRequest α b u))

/-- The first reply is the one at the head of the script. -/
theorem getD_zero (replies : List Reply) :
    replies.getD 0 Server.spent = replies.head?.getD Server.spent := by
  cases replies <;> rfl

/-- A later reply is one of those behind the first. -/
theorem getD_succ (replies : List Reply) (n : Nat) :
    replies.getD (n + 1) Server.spent = replies.tail.getD n Server.spent := by
  cases replies <;> rfl

section Steps

variable {first : Option String} {p : Page α} {ps : List (Page α)} {reply : Reply}
  {outcome : Except Fault (Page α)} {requests : List Request}

/-- A listing that goes past one more page at first ends as it would have behind that page. -/
theorem Ends.cons (h : Ends b u p.cursor ps reply outcome requests) :
    Ends b u first (p :: ps) reply outcome (pageRequest α b u first :: requests) := by
  cases h with
  | stopped last fits read stops => exact .stopped last fits read stops
  | dropped message fits lost => exact .dropped message fits lost
  | refused status text fits answer failure => exact .refused status text fits answer failure
  | unreadable status text fits answer success unread =>
    exact .unreadable status text fits answer success unread
  | tooLong long => exact .tooLong long

/-- A listing does not end where it can go past a further page. -/
theorem Ends.settled (h : Ends b u first ps reply outcome requests) : Settled b u first ps reply := by
  intro hfits p hread
  cases h with
  | stopped last fits read stops =>
    cases hread.symm.trans read
    exact stops
  | dropped message fits lost =>
    rw [lost] at hread
    cases hread
  | refused status text fits answer failure =>
    rw [answer, pageOf?, failure] at hread
    cases hread
  | unreadable status text fits answer success unread =>
    rw [answer, pageOf?, if_pos success, unread] at hread
    cases hread
  | tooLong long => exact absurd hfits long

/-- Everything is asked for up to where a listing ends, but for a page whose URL is too long. -/
theorem Ends.requests_eq (h : Ends b u first ps reply outcome requests) :
    requests = (cursors first ps).map (pageRequest α b u) ∨
      ¬Fits (pageUrl α b u (cursorBehind first ps)) ∧
        requests = (cursors first ps).dropLast.map (pageRequest α b u) := by
  cases h with
  | tooLong long => exact .inr ⟨long, rfl⟩
  | _ => exact .inl rfl

end Steps

/-- The pages that a listing goes past before it ends are determined by the replies. -/
theorem GoesPast.eq_of_settled {first : Option String} {replies : List Reply} {ps qs : List (Page α)}
    (hp : GoesPast b u first replies ps) (hq : GoesPast b u first replies qs)
    (hps : Settled b u first ps (replies.getD ps.length Server.spent))
    (hqs : Settled b u first qs (replies.getD qs.length Server.spent)) : ps = qs := by
  induction ps generalizing first replies qs with
  | nil =>
    cases qs with
    | nil => rfl
    | cons q qs =>
      obtain ⟨hfits, hread, hgo, -⟩ := hq
      rw [List.length_nil, getD_zero] at hps
      exact absurd (hps hfits q hread) hgo
  | cons p ps ih =>
    obtain ⟨hfits, hread, hgo, hrest⟩ := hp
    cases qs with
    | nil =>
      rw [List.length_nil, getD_zero] at hqs
      exact absurd (hqs hfits p hread) hgo
    | cons q qs =>
      obtain ⟨-, hreadq, -, hrestq⟩ := hq
      cases hread.symm.trans hreadq
      rw [List.length_cons, getD_succ] at hps hqs
      rw [ih hrest hrestq hps hqs]

/-! ## Listings -/

/-- A page is asked for, and what is answered is read. -/
theorem page_eq (cursor : Option String) :
    b.page α cursor =
      (b.send (listing α) "GET" searchPath (pairsAt α b cursor) none >>= fun text =>
        match readPage α text with
        | some p => pure p
        | none => throw (.data "error decoding response body" (some (Managed.kind α).name))) := rfl

section Runs

variable (h : b.url searchPath [] = .ok u)
include h

/-- The URL of a page is made if it is not too long. -/
theorem url_pairsAt (cursor : Option String) : b.url searchPath (pairsAt α b cursor) =
    if Fits (pageUrl α b u cursor) then .ok (pageUrl α b u cursor)
    else .error (refusal (pageUrl α b u cursor)) := url_of_pairs h _

/-- One page is asked for, if its URL can be asked for, and is the one that the reply denotes. -/
theorem runFrom_page (cursor : Option String) (s : Server) :
    (∃ p, Fits (pageUrl α b u cursor) ∧ pageOf? α s.reply = some p ∧
        runFrom (b.page α cursor) s = (.ok p, s.asked (pageRequest α b u cursor))) ∨
      ∃ fault t requests, Ends b u cursor ([] : List (Page α)) s.reply (.error fault) requests ∧
        runFrom (b.page α cursor) s = (.error fault, t) ∧ t.requests = s.requests ++ requests := by
  have hurl := url_pairsAt (α := α) h cursor
  rw [page_eq, runFrom_bind]
  -- nothing but the length of the cursor can keep a page from being asked for
  by_cases hfits : Fits (pageUrl α b u cursor)
  case neg =>
    rw [if_neg hfits] at hurl
    rw [runFrom_send_of_error _ _ _ s hurl]
    exact .inr ⟨_, s, [], .tooLong hfits, rfl, (List.append_nil _).symm⟩
  case pos =>
    rw [if_pos hfits] at hurl
    rw [runFrom_send _ _ _ s hurl, ← pageRequest]
    cases hreply : s.reply with
    | dropped => exact .inr ⟨_, _, _, .dropped _ hfits rfl, rfl, rfl⟩
    | answered status text =>
      rw [outcomeOf]
      cases hsuccess : isSuccess status with
      | false => exact .inr ⟨_, _, _, .refused status text hfits rfl hsuccess, rfl, rfl⟩
      | true =>
        simp only [if_true]
        cases hread : readPage α (bodyOf status text) with
        | none => exact .inr ⟨_, _, _, .unreadable status text hfits rfl hsuccess hread, rfl, rfl⟩
        | some p => exact .inl ⟨p, hfits, by rw [pageOf?, if_pos hsuccess, hread], rfl⟩

omit h in
/-- A run of pages behind its first one. -/
theorem runFrom_pages_succ {cursor : Option String} {s t : Server} {p : Page α}
    (hpage : runFrom (b.page α cursor) s = (.ok p, t)) (more : Nat) (objects : List α) :
    runFrom (b.pages (more + 1) cursor objects) s =
      match p.next cursor with
      | none => (.ok (objects ++ p.results), t)
      | some c => runFrom (b.pages more (some c) (objects ++ p.results)) t := by
  rw [pages, runFrom_bind, hpage]
  simp only
  cases p.next cursor <;> rfl

/-- A run of pages goes past some and then ends. The bound on their number is never what ends it, as
a spent server refuses. -/
theorem runFrom_pages (more : Nat) (cursor : Option String) (objects : List α) (s : Server)
    (hmore : s.script.length ≤ more) :
    ∃ passed outcome requests, GoesPast b u cursor s.script passed ∧
      Ends b u cursor passed (s.script.getD passed.length Server.spent) outcome requests ∧
      (runFrom (b.pages more cursor objects) s).1 =
        outcome.map (fun last => objects ++ (passed ++ [last]).flatMap Page.results) ∧
      (runFrom (b.pages more cursor objects) s).2.requests = s.requests ++ requests := by
  have hspent : pageOf? α Server.spent = none := rfl
  induction more generalizing cursor objects s with
  | zero =>
    -- no page can be read from a spent server, so this request is the last one anyway
    have hscript : s.script = [] := List.length_eq_zero_iff.1 (Nat.le_zero.1 hmore)
    have hreply : s.reply = Server.spent := by rw [Server.reply, hscript]; rfl
    rcases runFrom_page (α := α) h cursor s with ⟨p, -, hread, -⟩ | ⟨fault, t, rs, hends, hrun, ht⟩
    · rw [hreply, hspent] at hread
      cases hread
    · refine ⟨[], .error fault, rs, trivial, ?_, ?_⟩
      · rwa [List.length_nil, getD_zero]
      · rw [pages, runFrom_bind, hrun]
        exact ⟨rfl, ht⟩
  | succ more ih =>
    rcases runFrom_page (α := α) h cursor s with
      ⟨p, hfits, hread, hrun⟩ | ⟨fault, t, rs, hends, hrun, ht⟩
    · rw [runFrom_pages_succ hrun]
      by_cases hstops : p.Stops cursor
      · rw [Page.next_eq_none_iff.2 hstops]
        refine ⟨[], .ok p, [pageRequest α b u cursor], trivial, ?_, ?_, rfl⟩
        · rw [List.length_nil, getD_zero]
          exact .stopped p hfits hread hstops
        · simp only [Except.map, List.nil_append, List.flatMap_singleton]
      · obtain ⟨c, hcursor, hnext⟩ := Page.exists_next_of_not_stops hstops
        obtain ⟨passed, outcome, requests, hpast, hends, hresult, hsent⟩ :=
          ih (some c) (objects ++ p.results) (s.asked (pageRequest α b u cursor))
            (by rw [Server.asked, List.length_tail]; omega)
        rw [hnext]
        refine ⟨p :: passed, outcome, pageRequest α b u cursor :: requests,
          ⟨hfits, hread, hstops, hcursor ▸ hpast⟩, ?_, ?_, ?_⟩
        · rw [List.length_cons, getD_succ]
          exact .cons (hcursor ▸ hends)
        · rw [hresult]
          simp only [List.cons_append, List.flatMap_cons, List.append_assoc]
        · rw [hsent, Server.requests_asked, List.append_assoc, List.singleton_append]
    · rw [pages, runFrom_bind, hrun]
      refine ⟨[], .error fault, rs, trivial, ?_, rfl, ht⟩
      rwa [List.length_nil, getD_zero]

/-- Every listing goes past pages and then ends. -/
theorem list_ends (s : Server) : ∃ (passed : List (Page α)) (outcome : Except Fault (Page α))
    (requests : List Request),
    GoesPast b u none s.script passed ∧
      Ends b u none passed (s.script.getD passed.length Server.spent) outcome requests ∧
      (runFrom (b.list α) s).1 =
        outcome.map (fun last => (passed ++ [last]).flatMap Page.results) ∧
      (b.list α).sent s = requests := by
  obtain ⟨passed, outcome, requests, hpast, hends, hresult, hsent⟩ :=
    runFrom_pages (α := α) h s.script.length none [] s (Nat.le_refl _)
  refine ⟨passed, outcome, requests, hpast, hends, hresult, ?_⟩
  rw [Exchange.sent]
  show ((runFrom (b.pages s.script.length none []) s).2.requests).drop _ = _
  rw [hsent, List.drop_left]

end Runs

/-- A search that cannot be asked for fails without a request. -/
theorem runFrom_list_of_error {message : String} (h : b.url searchPath [] = .error message)
    (s : Server) :
    ∃ message, runFrom (b.list α) s = (.error (.backend (listing α) none message), s) := by
  obtain ⟨message, hurl⟩ := url_of_pairs_error h (pairsAt α b none)
  have hpage : runFrom (b.page α none) s = (.error (.backend (listing α) none message), s) := by
    rw [page_eq, runFrom_bind, runFrom_send_of_error _ _ _ s hurl]
  refine ⟨message, ?_⟩
  show runFrom (b.pages s.script.length none []) s = _
  cases s.script.length with
  | zero => rw [pages, runFrom_bind, hpage]
  | succ more => rw [pages, runFrom_bind, hpage]

/-- **Listings.** A listing goes past the pages that do not stop it, each asked for with the cursor
of the one before. It then returns the results of all pages in their order, or a fault and no
object: that of the first page that is lost, refused or unreadable, or that of a URL which is too
long to be asked for. Nothing is asked after that. A search that cannot be asked for at all is a
fault without a request. -/
theorem list_follows_cursors (α : Type) [Managed α] (b : Backend) (s : Server) :
    match b.url searchPath [] with
    | .error _ =>
      ∃ message, runFrom (b.list α) s = (.error (.backend (listing α) none message), s)
    | .ok u =>
      (∃! passed : List (Page α), ∃ outcome requests,
        GoesPast b u none s.script passed ∧
        Ends b u none passed (s.script.getD passed.length Server.spent) outcome requests ∧
        (runFrom (b.list α) s).1 =
          outcome.map (fun last => (passed ++ [last]).flatMap Page.results) ∧
        (b.list α).sent s = requests) ∧
      ∀ cursor, ∃ form : String,
        pageUrl α b u cursor = { u with query := some (u.ownQuery ++ form) } ∧
        formPairs? form.toList = some (("query", b.searchQuery (Managed.kind α)) ::
          cursor.toList.map fun c => ("cursor", c)) := by
  cases hurl : b.url searchPath [] with
  | error message => exact runFrom_list_of_error hurl s
  | ok u =>
    refine ⟨?_, query_pageUrl⟩
    obtain ⟨passed, outcome, requests, hpast, hends, hresult, hsent⟩ := list_ends (α := α) hurl s
    refine ⟨passed, ⟨outcome, requests, hpast, hends, hresult, hsent⟩, ?_⟩
    rintro other ⟨outcome', requests', hpast', hends', -⟩
    exact hpast'.eq_of_settled hpast hends'.settled hends.settled

/-! ## Cursors that are too long -/

/-- A cursor that has as many characters as a URL may have bytes cannot be asked for. -/
theorem not_fits_pageUrl {c : String} (h : Uri.maxLength ≤ c.toList.length) :
    ¬Fits (pageUrl α b u (some c)) := by
  have hform : (formEncode c).length < (formPairs (pairsAt α b (some c))).length := by
    show (formEncode c).length < (formPairs [("query", _), ("cursor", c)]).length
    rw [formPairs_cons_cons, formPairs_singleton]
    simp only [List.length_append, List.length_cons]
    omega
  have htext : (formPairs (pairsAt α b (some c))).length ≤
      (utf8 (pageUrl α b u (some c)).text).length := by
    refine (length_le_charBytes _).trans ?_
    rw [pageUrl_eq, Url.text, utf8_eq_charBytes]
    simp only [Option.map_some, Option.getD_some, String.toList_append, String.toList_ofList,
      charBytes_append, List.length_append]
    omega
  have hlength := length_le_formEncode c
  rw [Fits]
  omega

/-- A cursor can be asked for if the bytes that it and the query need at most fit into a URL. -/
theorem fits_pageUrl (h : (utf8 u.text).length +
    12 * ((b.searchQuery (Managed.kind α)).toList.length + (cursor.elim "" id).toList.length) +
    150 ≤ Uri.maxLength) : Fits (pageUrl α b u cursor) := by
  have hquery := length_formEncode_le (b.searchQuery (Managed.kind α))
  have hname := length_formEncode_le "query"
  have hcursor := length_formEncode_le "cursor"
  have hvalue := length_formEncode_le (cursor.elim "" id)
  have hform : (charBytes (formPairs (pairsAt α b cursor))).length ≤
      12 * ((b.searchQuery (Managed.kind α)).toList.length + (cursor.elim "" id).toList.length) +
        149 := by
    have hequals : (String.utf8EncodeChar '=').length = 1 := by decide
    have hand : (String.utf8EncodeChar '&').length = 1 := by decide
    have hfive : "query".toList.length = 5 := by decide
    have hsix : "cursor".toList.length = 6 := by decide
    cases cursor with
    | none =>
      rw [pairsAt, pagePairs, Option.toList_none, List.map_nil, formPairs_singleton]
      simp only [charBytes_append, charBytes_cons, List.length_append, hequals]
      omega
    | some c =>
      rw [pairsAt, pagePairs, Option.toList_some, List.map_singleton, formPairs_cons_cons,
        formPairs_singleton]
      simp only [charBytes_append, charBytes_cons, List.length_append, hequals, hand]
      rw [Option.elim_some, id] at hvalue ⊢
      omega
  have htext := Url.length_text_addPairs_le u (pairsAt α b cursor)
  rw [Fits, pageUrl]
  omega

/-- Behind a page whose cursor is too long to be asked for, a listing fails. -/
theorem runFrom_list_of_long_cursor {s : Server} {p : Page α} {c : String}
    (hu : b.url searchPath [] = .ok u) (hfits : Fits (pageUrl α b u none))
    (hread : pageOf? α s.reply = some p) (hresults : p.results ≠ []) (hcursor : p.cursor = some c)
    (hlong : Uri.maxLength ≤ c.toList.length) :
    (runFrom (b.list α) s).1 =
        .error (.backend (listing α) none (refusal (pageUrl α b u (some c)))) ∧
      (b.list α).sent s = [pageRequest α b u none] := by
  have hnot : ¬p.Stops none := by
    rintro (hnone | hnone | hnone | hnone)
    · exact hresults hnone
    · rw [hcursor] at hnone
      cases hnone
    · rw [hcursor] at hnone
      cases hnone
      exact absurd hlong (by decide)
    · rw [hcursor] at hnone
      cases hnone
  have hpast : GoesPast b u none s.script [p] := ⟨hfits, hread, hnot, trivial⟩
  have hunfit : ¬Fits (pageUrl α b u (cursorBehind none [p])) := by
    show ¬Fits (pageUrl α b u p.cursor)
    rw [hcursor]
    exact not_fits_pageUrl hlong
  -- the listing goes past the first page, and then is settled, as the next one does not fit
  obtain ⟨passed, outcome, requests, hpast', hends, hresult, hsent⟩ := list_ends (α := α) hu s
  obtain rfl := hpast'.eq_of_settled hpast hends.settled fun hf => absurd hf hunfit
  cases hends with
  | tooLong =>
    refine ⟨hresult.trans ?_, hsent⟩
    show _ = Except.error (Fault.backend _ _ (refusal (pageUrl α b u (some c))))
    rw [← hcursor]
    rfl
  | stopped _ fits => exact absurd fits hunfit
  | dropped _ fits => exact absurd fits hunfit
  | refused _ _ fits => exact absurd fits hunfit
  | unreadable _ _ fits => exact absurd fits hunfit

end Backend

/-! ## Pages as text -/

/-- A page as JSON. -/
def Page.toJson {α : Type} [Managed α] (p : Page α) : Json :=
  .obj (Json.member "results" (Json.ofList Managed.toJson p.results)
    ++ Json.memberIfSome "cursor" .str p.cursor)

/-- A page of groups is read back from its text. -/
theorem Page.readPage_compact (p : Page Group) :
    Backend.readPage Group p.toJson.compact = some p := by
  have hgroups : ∀ g ∈ p.results, (Managed.ofJson? (Managed.toJson g) : Option Group) = some g :=
    fun g _ => g.decode?_toJson .strictly
  have hcursor : ∀ c, (Json.str c).nullable? Json.asText? = some (some c) := fun _ => rfl
  have hdecode : Page.ofJson? Managed.ofJson? p.toJson = some p := by
    rw [Page.ofJson?, Page.toJson]
    refine Json.bind_of_eq (Json.record?_written (by decide) ?_) ?_
    · cases p.cursor <;> simp [Json.member, Json.memberIfSome]
    · refine Json.bind_of_eq (Json.list_written hgroups rfl) ?_
      refine Json.bind_of_eq (Json.optional_written hcursor ?_) rfl
      cases p.cursor <;> rfl
  have hheld : Json.Holdable (0 + 5) p.toJson := by
    refine .obj (List.forall_mem_append.2
      ⟨?_, Json.holdable_memberIfSome Json.Holdable.str _⟩)
    intro m hm
    obtain rfl := List.mem_singleton.1 hm
    exact Json.holdable_ofList fun g _ => g.holdable
  rw [Backend.readPage, Json.parseLoose_compact hheld (by decide), Option.bind_some, hdecode]

namespace Backend

/-- A backend that is reached by its address. -/
def atAddress : Backend where
  baseUrl := "https://[fd00::5]"
  user := "admin"
  password := "secret"
  cluster := "c1"

/-- The URL of the search there. -/
def searchAtAddress : Url where
  scheme := "https"
  host := some (.ipv6 ⟨[0xfd00, 0, 0, 0, 0, 0, 0, 5], rfl⟩)
  path := searchPath

/-- The search in the runs below has a URL. -/
theorem url_atAddress : atAddress.url searchPath [] = .ok searchAtAddress := by
  have hplace : searchAtAddress.place ++ searchAtAddress.behind =
      "[fd00::5]/policy/api/v1/search/query".toList := by decide
  refine url_of_parse (by cbv) (by decide) rfl rfl
    ((isRequestable_iff (by decide)).2 ⟨.inr rfl, by decide, ?_⟩)
  rw [hplace]
  cbv

/-- Its pages can be asked for with cursors that are not too long. -/
theorem fits_atAddress {cursor : Option String}
    (h : (cursor.elim "" id).toList.length ≤ 5000) :
    Fits (pageUrl Group atAddress searchAtAddress cursor) := by
  refine fits_pageUrl ?_
  have htext : (utf8 searchAtAddress.text).length ≤ 50 := by decide
  have hquery : (atAddress.searchQuery (Managed.kind Group)).toList.length ≤ 100 := by decide +kernel
  have hmax : Uri.maxLength = 65534 := rfl
  omega

/-- The first page names a cursor that is too long to be asked for: the listing fails and returns
nothing, although the server would have answered with the last page. -/
theorem list_fails_at_long_cursor :
    let cursor := String.ofList (List.replicate 65534 'c')
    let first : Page Group := ⟨[{ id := "g0" }], some cursor⟩
    let last : Page Group := ⟨[{ id := "g1" }], none⟩
    let replies : List Reply :=
      [.answered 200 first.toJson.compact, .answered 200 last.toJson.compact]
    let s : Server := { script := replies }
    replies.map (pageOf? Group) = [some first, some last] ∧ ¬first.Stops none ∧
      last.Stops (some cursor) ∧
      (∃ message, (runFrom (atAddress.list Group) s).1 =
        .error (.backend "list group" none message)) ∧
      ((atAddress.list Group).sent s).length = 1 := by
  intro cursor first last replies s
  have hread : ∀ p : Page Group, pageOf? Group (.answered 200 p.toJson.compact) = some p :=
    Page.readPage_compact
  have hlength : cursor.toList.length = 65534 := by
    rw [String.toList_ofList, List.length_replicate]
  obtain ⟨hfault, hsent⟩ := runFrom_list_of_long_cursor (s := s) url_atAddress
    (fits_atAddress (Nat.zero_le _)) (hread first) (List.cons_ne_nil _ _) rfl hlength.ge
  refine ⟨?_, ?_, .inr (.inl rfl), ⟨_, hfault⟩, ?_⟩
  · rw [List.map_cons, List.map_singleton, hread, hread]
  · rintro (hnone | hnone | hnone | hnone)
    · cases hnone
    · cases hnone
    · rw [Option.some.inj hnone] at hlength
      cases hlength
    · cases hnone
  · rw [hsent, List.length_singleton]

end Backend

end FirewallOperator
