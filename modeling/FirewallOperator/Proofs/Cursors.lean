import FirewallOperator.Proofs.Listings

/-! # Cursors that come back

A search server answers a query by the cursor alone, with finitely many cursors. A listing notices a
cursor that comes back at once, and none that comes back later. So its requests are bounded in
number only if no page is asked for twice (`SearchServer.bounded_tfae`), and a server with two
cursors that name each other keeps a listing going (`SearchServer.circling_not_bounded`). -/

namespace FirewallOperator

open Backend Page

/-! ## Requests for different pages -/

/-- URLs that differ in their queries alone are different texts. -/
theorem Url.query_eq_of_text_eq {u : Url} {q r : String}
    (h : ({ u with query := some q } : Url).withoutFragment.text =
      ({ u with query := some r } : Url).withoutFragment.text) : q = r := by
  have hfront : ∀ q : String, ({ u with query := some q } : Url).withoutFragment.text =
      u.scheme ++ ":" ++ u.authorityText ++ u.pathText ++ "?" ++ q := by
    intro q
    simp only [Url.withoutFragment, Url.text, Option.map_some, Option.getD_some, Option.map_none,
      Option.getD_none, String.append_empty, String.append_assoc]
    rfl
  rw [hfront, hfront] at h
  exact String.append_right_inj _ |>.1 h

/-- Different cursors make different requests. -/
theorem Backend.pageRequest_injective {α : Type} [Managed α] {b : Backend} {u : Url} :
    Function.Injective (pageRequest α b u) := by
  intro c d h
  have htext : (pageUrl α b u c).withoutFragment.text = (pageUrl α b u d).withoutFragment.text :=
    congrArg Request.url h
  obtain ⟨form, hc, hcform⟩ := query_pageUrl (α := α) (b := b) (u := u) c
  obtain ⟨form', hd, hdform⟩ := query_pageUrl (α := α) (b := b) (u := u) d
  rw [hc, hd] at htext
  have hforms : form = form' := (String.append_right_inj _).1 (Url.query_eq_of_text_eq htext)
  rw [hforms, hdform] at hcform
  have hpairs := (List.cons.inj (Option.some.inj hcform)).2
  cases c <;> cases d <;> simp_all

/-! ## Search servers -/

/-- A server that answers every search for a query with a page, by the cursor alone and with
finitely many cursors. -/
structure SearchServer (α : Type) [Managed α] where
  respond : Option String → Reply
  /-- The page that a reply denotes. -/
  answer : Option String → Page α
  read : ∀ cursor, pageOf? α (respond cursor) = some (answer cursor)
  finite : (Set.range fun cursor => (answer cursor).cursor).Finite

namespace SearchServer

variable {α : Type} [Managed α] (v : SearchServer α)

/-- The cursors that follow one another, beginning with that of the first page. -/
def cursorAt : Nat → Option String
  | 0 => none
  | n + 1 => (v.answer (cursorAt n)).cursor

/-- The pages that follow one another. -/
def pageAt (n : Nat) : Page α := v.answer (v.cursorAt n)

/-- The server as far as it gives its first `n` replies to a listing that follows the cursors. -/
def upTo (n : Nat) : Server where
  script := (List.range n).map fun i => v.respond (v.cursorAt i)

/-- The requests of a listing to which the server gives as many as `n` replies. -/
def requests (b : Backend) (n : Nat) : List Request := (b.list α).sent (v.upTo n)

/-- A listing goes past the page at a cursor. -/
def GoesOn (b : Backend) (u : Url) (cursor : Option String) : Prop :=
  Fits (pageUrl α b u cursor) ∧ ¬(v.answer cursor).Stops cursor

variable {v} {b : Backend} {u : Url} {k n : Nat}

/-- The cursors of the first pages are those that follow one another. -/
theorem cursors_pageAt :
    cursors none ((List.range k).map v.pageAt) = (List.range (k + 1)).map v.cursorAt := by
  rw [List.range_succ_eq_map, List.map_cons, List.map_map, cursors, List.map_map]
  rfl

/-- Behind the first pages is the cursor that follows them. -/
theorem cursorBehind_pageAt : cursorBehind none ((List.range k).map v.pageAt) = v.cursorAt k := by
  have hlast := getLast?_cursors none ((List.range k).map v.pageAt)
  rw [cursors_pageAt, List.range_succ, List.map_append, List.map_singleton,
    List.getLast?_append_cons] at hlast
  exact (Option.some.inj hlast).symm

/-- A listing goes past the first pages as long as it goes past each of them. -/
theorem goesPast_pageAt (hk : k ≤ n) (h : ∀ i < k, v.GoesOn b u (v.cursorAt i)) :
    GoesPast b u none (v.upTo n).script ((List.range k).map v.pageAt) := by
  have hfrom : ∀ k m n, k ≤ n → (∀ i < m + k, v.GoesOn b u (v.cursorAt i)) →
      GoesPast b u (v.cursorAt m) ((List.range' m n).map fun i => v.respond (v.cursorAt i))
        ((List.range' m k).map v.pageAt) := by
    intro k
    induction k with
    | zero => exact fun _ _ _ _ => trivial
    | succ k ih =>
      intro m n hk h
      obtain ⟨n, rfl⟩ : ∃ l, n = l + 1 := ⟨n - 1, by omega⟩
      obtain ⟨hfits, hgo⟩ := h m (by omega)
      exact ⟨hfits, v.read (v.cursorAt m), hgo,
        ih (m + 1) n (by omega) fun i hi => h i (by omega)⟩
  rw [upTo, List.range_eq_range', List.range_eq_range']
  exact hfrom k 0 n hk (by simpa using h)

/-- A page that a listing does not go past ends it, and so does the last of the replies. -/
theorem settled_pageAt (hk : k ≤ n) (h : k = n ∨ ¬v.GoesOn b u (v.cursorAt k)) :
    Settled b u none ((List.range k).map v.pageAt) ((v.upTo n).script.getD k Server.spent) := by
  intro hfits p hread
  rw [cursorBehind_pageAt] at hfits ⊢
  rcases hk.eq_or_lt with rfl | hlt
  · have hspent : (v.upTo k).script.getD k Server.spent = Server.spent := by simp [upTo]
    rw [hspent] at hread
    cases hread
  · have hreply : (v.upTo n).script.getD k Server.spent = v.respond (v.cursorAt k) := by
      simp [upTo, hlt]
    rw [hreply, v.read] at hread
    obtain rfl := Option.some.inj hread
    by_contra hgo
    exact h.elim hlt.ne fun hnot => hnot ⟨hfits, hgo⟩

/-- The requests of a listing follow the cursors, up to a page that it does not go past or to the
end of the replies. -/
theorem exists_requests_eq (h : b.url searchPath [] = .ok u) (n : Nat) :
    ∃ k ≤ n, (∀ i < k, v.GoesOn b u (v.cursorAt i)) ∧
      (k = n ∨ ¬v.GoesOn b u (v.cursorAt k)) ∧
      (v.requests b n = ((List.range (k + 1)).map v.cursorAt).map (pageRequest α b u) ∨
        ¬Fits (pageUrl α b u (v.cursorAt k)) ∧
          v.requests b n = ((List.range k).map v.cursorAt).map (pageRequest α b u)) := by
  classical
  -- the listing ends where it first does not go on, or where the replies do
  have hsome : ∃ k, k = n ∨ ¬v.GoesOn b u (v.cursorAt k) := ⟨n, .inl rfl⟩
  obtain ⟨k, hk⟩ : ∃ k, k = Nat.find hsome := ⟨_, rfl⟩
  have hend := hk ▸ Nat.find_spec hsome
  have hle : k ≤ n := hk ▸ Nat.find_le (.inl rfl)
  have hgo : ∀ i < k, v.GoesOn b u (v.cursorAt i) := fun i hi =>
    not_not.1 (not_or.1 (Nat.find_min hsome (hk ▸ hi))).2
  refine ⟨k, hle, hgo, hend, ?_⟩
  obtain ⟨passed, outcome, requests, hpast, hends, -, hsent⟩ := list_ends (α := α) h (v.upTo n)
  have hsettled := settled_pageAt hle hend
  obtain rfl := hpast.eq_of_settled (goesPast_pageAt hle hgo) hends.settled
    (by rwa [List.length_map, List.length_range])
  have hcases := hends.requests_eq
  rw [cursors_pageAt, cursorBehind_pageAt] at hcases
  rw [SearchServer.requests, hsent]
  refine hcases.imp id (And.imp_right fun hdrop => ?_)
  rw [hdrop, List.range_succ, List.map_append, List.map_singleton, List.dropLast_concat]

/-! ## Bounds -/

/-- A listing that goes past every page sends one request more than there are replies. -/
theorem length_requests_of_goesOn (h : b.url searchPath [] = .ok u)
    (hgo : ∀ i, v.GoesOn b u (v.cursorAt i)) (n : Nat) : (v.requests b n).length = n + 1 := by
  obtain ⟨k, -, -, hend, hrequests⟩ := exists_requests_eq (v := v) h n
  obtain rfl := hend.resolve_right (not_not_intro (hgo k))
  rcases hrequests with heq | ⟨hlong, -⟩
  · rw [heq, List.length_map, List.length_map, List.length_range]
  · exact absurd (hgo k).1 hlong

/-- Cursors that are alike have the same cursors behind them. -/
theorem cursorAt_add {i j : Nat} (h : v.cursorAt i = v.cursorAt j) (d : Nat) :
    v.cursorAt (i + d) = v.cursorAt (j + d) := by
  induction d with
  | zero => exact h
  | succ d ih => exact congrArg (fun c => (v.answer c).cursor) ih

/-- Up to the first page that a listing does not go past, no cursor comes back: behind it, that page
would come again, and would have come earlier. -/
theorem cursorAt_injOn {m : Nat} (hgo : ∀ i < m, v.GoesOn b u (v.cursorAt i))
    (hstop : ¬v.GoesOn b u (v.cursorAt m)) : Set.InjOn v.cursorAt {i | i ≤ m} := by
  have hlt : ∀ i j, i < j → j ≤ m → v.cursorAt i ≠ v.cursorAt j := by
    intro i j hij hjm heq
    -- the cursor at `m` comes behind that at `j`, and so behind that at `i` just as far
    have hagain := cursorAt_add heq (m - j)
    rw [Nat.add_sub_cancel' hjm] at hagain
    exact hstop (hagain ▸ hgo (i + (m - j)) (by omega))
  intro i hi j hj heq
  rcases Nat.lt_trichotomy i j with hij | rfl | hji
  · exact absurd heq (hlt i j hij hj)
  · rfl
  · exact absurd heq.symm (hlt j i hji hi)

/-- Before a listing ends, it asks for no page twice. -/
theorem nodup_requests (h : b.url searchPath [] = .ok u) {m : Nat}
    (hgo : ∀ i < m, v.GoesOn b u (v.cursorAt i)) (hstop : ¬v.GoesOn b u (v.cursorAt m)) (n : Nat) :
    (v.requests b n).Nodup := by
  have hnodup : ∀ k ≤ m + 1, (((List.range k).map v.cursorAt).map (pageRequest α b u)).Nodup := by
    intro k hk
    refine List.Nodup.map pageRequest_injective (List.Nodup.map_on ?_ List.nodup_range)
    intro i hi j hj heq
    rw [List.mem_range] at hi hj
    exact cursorAt_injOn hgo hstop (show i ≤ m by omega) (show j ≤ m by omega) heq
  obtain ⟨k, -, hbefore, -, hrequests⟩ := exists_requests_eq (v := v) h n
  have hkm : k ≤ m := by
    by_contra hlt
    exact hstop (hbefore m (by omega))
  rcases hrequests with heq | ⟨-, heq⟩
  · rw [heq]
    exact hnodup (k + 1) (by omega)
  · rw [heq]
    exact hnodup k (by omega)

/-- A listing that asks for no page twice asks for one page at each cursor, and for the first one. -/
theorem length_requests_le_of_nodup (h : b.url searchPath [] = .ok u) {n : Nat}
    (hnodup : (v.requests b n).Nodup) :
    (v.requests b n).length ≤ (Set.range fun cursor => (v.answer cursor).cursor).ncard + 1 := by
  have hmem : ∀ i, v.cursorAt i ∈ insert none (Set.range fun cursor => (v.answer cursor).cursor) := by
    intro i
    cases i with
    | zero => exact .inl rfl
    | succ i => exact .inr ⟨v.cursorAt i, rfl⟩
  obtain ⟨k, hk⟩ : ∃ k, v.requests b n =
      ((List.range k).map v.cursorAt).map (pageRequest α b u) := by
    obtain ⟨k, -, -, -, heq | ⟨-, heq⟩⟩ := exists_requests_eq (v := v) h n
    · exact ⟨k + 1, heq⟩
    · exact ⟨k, heq⟩
  rw [hk] at hnodup ⊢
  -- requests that differ have cursors that differ, and all of these are among those of the server
  rw [List.length_map, ← List.toFinset_card_of_nodup hnodup.of_map, ← Set.ncard_coe_finset]
  refine (Set.ncard_le_ncard ?_ (v.finite.insert none)).trans (Set.ncard_insert_le ..)
  intro c hc
  rw [List.coe_toFinset] at hc
  obtain ⟨i, -, rfl⟩ := List.mem_map.1 hc
  exact hmem i

/-- A listing whose requests are bounded in number comes to a page that it does not go past. -/
theorem exists_not_goesOn (h : b.url searchPath [] = .ok u) {bound : Nat}
    (hbound : ∀ n, (v.requests b n).length ≤ bound) : ∃ m, ¬v.GoesOn b u (v.cursorAt m) := by
  by_contra hgo
  have hlength := length_requests_of_goesOn h (not_exists_not.1 hgo) bound
  have hle := hbound bound
  omega

/-- **Bounded listings.** However long a server goes on answering, the requests of a listing are
bounded in number if and only if no page is ever asked for twice, and then by the number of
cursors. That is the case if the cursors lead to a page that the listing does not go past. -/
theorem bounded_tfae (v : SearchServer α) (b : Backend) :
    [∃ bound, ∀ n, (v.requests b n).length ≤ bound,
      ∀ n, (v.requests b n).Nodup,
      ∀ n, (v.requests b n).length ≤ (Set.range fun cursor => (v.answer cursor).cursor).ncard + 1,
      match b.url searchPath [] with
      | .error _ => ∀ n, v.requests b n = []
      | .ok u => ∃ m, ¬v.GoesOn b u (v.cursorAt m)].TFAE := by
  cases hurl : b.url searchPath [] with
  | error message =>
    have hnone : ∀ n, v.requests b n = [] := by
      intro n
      obtain ⟨_, hrun⟩ := runFrom_list_of_error (α := α) hurl (v.upTo n)
      rw [requests, Exchange.sent, hrun, List.drop_length]
    refine List.tfae_of_forall True _ ?_
    simp only [hnone, List.length_nil, List.nodup_nil, Nat.zero_le, implies_true, exists_const,
      List.mem_cons, List.not_mem_nil, or_false, or_self, forall_eq]
  | ok u =>
    classical
    tfae_have 1 → 4 := fun hbounded => hbounded.elim fun _ => exists_not_goesOn hurl
    tfae_have 4 → 2 := fun hstop => nodup_requests hurl
      (fun i hi => not_not.1 (Nat.find_min hstop hi)) (Nat.find_spec hstop)
    tfae_have 2 → 3 := fun hnodup n => length_requests_le_of_nodup hurl (hnodup n)
    tfae_have 3 → 1 := fun hle => ⟨_, hle⟩
    tfae_finish

/-! ## A circle of cursors -/

/-- Pages of which the one at the first cursor names the second, and that at the second the first. -/
def circle (cursor : Option String) : Page Group :=
  if cursor = none then ⟨[{ id := "g0" }], some "a"⟩
  else if cursor = some "a" then ⟨[{ id := "g1" }], some "b"⟩
  else ⟨[{ id := "g2" }], some "a"⟩

/-- The server that goes in a circle always names one of two cursors. -/
theorem cursor_circle (cursor : Option String) :
    (circle cursor).cursor = some "a" ∨ (circle cursor).cursor = some "b" := by
  rw [circle]
  split_ifs
  · exact .inl rfl
  · exact .inr rfl
  · exact .inl rfl

/-- A server whose cursors lead around a circle. -/
def circling : SearchServer Group where
  respond cursor := .answered 200 (circle cursor).toJson.compact
  answer := circle
  read cursor := Page.readPage_compact (circle cursor)
  finite := by
    refine Set.Finite.subset (Set.toFinite {some "a", some "b"}) ?_
    rintro _ ⟨cursor, rfl⟩
    exact cursor_circle cursor

/-- The cursors of a circle never come back at once, and so a listing follows them for ever. -/
theorem circling_not_bounded :
    ¬∃ bound, ∀ n, (circling.requests atAddress n).length ≤ bound := by
  have hcursor : ∀ i, circling.cursorAt i ∈ [none, some "a", some "b"] := by
    intro i
    cases i with
    | zero => exact List.mem_cons_self
    | succ i =>
      refine List.mem_cons_of_mem none ?_
      rw [List.mem_cons, List.mem_singleton]
      exact cursor_circle (circling.cursorAt i)
  have hgo : ∀ i, circling.GoesOn atAddress searchAtAddress (circling.cursorAt i) := by
    -- no page of the circle stops the listing when it is asked for with its own cursor
    have hshort : ∀ c ∈ [none, some "a", some "b"], (c.elim "" id).toList.length ≤ 5000 := by decide
    have hnext : ∀ c ∈ [none, some "a", some "b"], (circle c).next c ≠ none := by decide
    exact fun i => ⟨fits_atAddress (hshort _ (hcursor i)),
      fun hstops => hnext _ (hcursor i) (next_eq_none_iff.2 hstops)⟩
  rintro ⟨bound, hbound⟩
  have hlength := length_requests_of_goesOn url_atAddress hgo bound
  have hle := hbound bound
  omega

end SearchServer

end FirewallOperator
