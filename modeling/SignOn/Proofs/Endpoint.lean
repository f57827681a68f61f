import SignOn.Proofs.Escapes
import SignOn.Proofs.Failures

/-!
Tokens that travel in the query of an address. The query is cut off before an address is told to anybody, and it has no
part in how the rest of the address is read.
-/

namespace SignOn

/-- What comes after a first step decides what can be told apart. -/
theorem map_bind_congr {ε α β γ : Type} (x : Except ε α) {f g : α → Except ε β} (view : β → γ)
    (h : ∀ a, (f a).map view = (g a).map view) : (x >>= f).map view = (x >>= g).map view := by
  cases x with
  | error e => rfl
  | ok a => exact h a

namespace Form

theorem isPlain_of_mem_encodePart {s : String} {c : Char} (h : c ∈ encodePart s) : Url.isPlain c = true := by
  have hunreserved : ∀ n < 128, Percent.unreserved (Char.ofNat n) = true → Url.isPlain (Char.ofNat n) = true := by decide
  have hdigits : ∀ n < 16, Url.isPlain (Hex.upper n) = true := by decide
  obtain ⟨x, -, hc⟩ := List.mem_flatMap.1 h
  split at hc
  · obtain rfl := List.mem_singleton.1 hc
    rfl
  · have hone : c ∈ Percent.encode Percent.unreserved [x] := by simpa using hc
    rcases Percent.of_mem_encode hone with ⟨hsafe, -⟩ | rfl | ⟨n, hn, rfl⟩
    · exact Ascii.forall_of_codes (p := fun c => Percent.unreserved c = true → Url.isPlain c = true) hunreserved
        (Percent.toNat_lt_of_unreserved hsafe) hsafe
    · rfl
    · exact hdigits n hn

theorem of_mem_intercalate {sep : List Char} {parts : List (List Char)} {c : Char} (h : c ∈ sep.intercalate parts) :
    c ∈ sep ∨ ∃ part ∈ parts, c ∈ part := by
  induction parts with
  | nil => cases h
  | cons part rest ih =>
    cases rest with
    | nil => exact .inr ⟨part, by simp, by simpa only [List.intercalate_singleton] using h⟩
    | cons second rest =>
      rw [List.intercalate_cons_cons, List.mem_append, List.mem_append] at h
      rcases h with (h | h) | h
      · exact .inr ⟨part, by simp, h⟩
      · exact .inl h
      · rcases ih h with hsep | ⟨x, hx, hc⟩
        · exact .inl hsep
        · exact .inr ⟨x, List.mem_cons_of_mem _ hx, hc⟩

/-- Form text has no unprintable characters, whatever it tells. -/
theorem isPlain_of_mem_encode {pairs : Table String} {c : Char} (h : c ∈ encode pairs) : Url.isPlain c = true := by
  rcases of_mem_intercalate h with hsep | ⟨part, hp, hc⟩
  · obtain rfl := List.mem_singleton.1 hsep
    rfl
  · obtain ⟨pair, -, rfl⟩ := List.mem_map.1 hp
    rw [List.mem_append, List.mem_cons] at hc
    rcases hc with hc | rfl | hc
    · exact isPlain_of_mem_encodePart hc
    · rfl
    · exact isPlain_of_mem_encodePart hc

end Form

namespace Url

/-- An address without its query. -/
def bare (u : Url) : Url :=
  { u with query := none }

/-- The query of a part has no say in how the others are read. -/
theorem ofParts_bare (parts : Parts) (query query' : Option (List Char)) :
    (ofParts { parts with query }).map bare = (ofParts { parts with query := query' }).map bare := by
  rcases hcut : cutAuthorityParts parts.authority with ⟨userinfo, host, port⟩
  simp only [ofParts, hcut]
  apply map_bind_congr
  intro host
  apply map_bind_congr
  intro port
  apply map_bind_congr
  intro _
  rfl

/-- Another query can be put into an address without a look at the one it has. -/
theorem withQuery_of_bare {u v : Url} (h : u.bare = v.bare) (query : Option String) :
    u.withQuery query = v.withQuery query := by
  obtain ⟨scheme, userinfo, host, port, path, q, fragment⟩ := u
  obtain ⟨scheme', userinfo', host', port', path', q', fragment'⟩ := v
  simp only [bare, mk.injEq] at h
  obtain ⟨rfl, rfl, rfl, rfl, rfl, -, rfl⟩ := h
  rfl

/-- Queries that are fit for an address all make the same of the rest of it. -/
theorem withQuery_bare (u : Url) {query query' : String} (h : checkPart .query query.toList = .ok ())
    (h' : checkPart .query query'.toList = .ok ()) :
    (u.withQuery (some query)).map bare = (u.withQuery (some query')).map bare := by
  have hparts := ofParts_bare ⟨u.scheme.toList, u.authority.toList, u.path.toList, none, u.fragment.map (·.toList)⟩
    (some query.toList) (some query'.toList)
  simp only [withQuery, Option.map_some, Option.getD_some, h, h']
  -- the checks of the other parts are the same for both
  apply map_bind_congr
  intro _
  apply map_bind_congr
  intro _
  apply map_bind_congr
  intro _
  apply map_bind_congr
  intro _
  apply map_bind_congr
  intro _
  exact hparts

/-- The query of an address with a token among its parameters. -/
def tokenQuery (u : Url) (token : String) : String :=
  String.ofList (Form.encode (Form.ungroup ((Form.group u.parameters).put "access_token" [token])))

/-- A query with a token is fit for an address unless it is too long. -/
theorem checkPart_tokenQuery {u : Url} {token : String} (h : (u.tokenQuery token).length ≤ maxLength) :
    checkPart .query (u.tokenQuery token).toList = .ok () := by
  have hplain : ∀ c ∈ (u.tokenQuery token).toList, isPlain c = true := by
    intro c hc
    rw [tokenQuery, String.toList_ofList] at hc
    exact Form.isPlain_of_mem_encode hc
  rw [← String.length_toList] at h
  rw [checkPart, if_neg (Nat.not_lt.2 h), unprintable?_of_isPlain hplain]

end Url

namespace Site

theorem noted_records {a b : Site} (hj : a.journal = b.journal) (hc : a.context = b.context)
    (hr : a.records = b.records) (entries : List Log.Entry) : (a.noted entries).records = (b.noted entries).records := by
  induction entries generalizing a b with
  | nil => exact hr
  | cons entry entries ih =>
    apply ih
    · simpa using hj
    · simpa using hc
    · unfold record
      rw [hj, hc, hr]
      split
      · rfl
      · exact hr

end Site

namespace Exchange

theorem tokenRequest_of_query {address : String} {url : Url} (h : Url.read address = .ok url) (token : String) :
    tokenRequest address token [] = do
      let url ← (url.withQuery (some (url.tokenQuery token))).mapError .ofUrlFault
      let request ← Request.make "GET" url []
      let endpoint ← (url.withQuery none).mapError .ofUrlFault
      return (request, endpoint.text) := by
  rw [tokenRequest, h]
  rfl

/-- Two tokens in the query of an address lead to the same fault, or to requests told by the same endpoint. -/
theorem tokenRequest_query {address token token' : String}
    (hfit : ∀ url, Url.read address = .ok url →
      (url.tokenQuery token).length ≤ Url.maxLength ∧ (url.tokenQuery token').length ≤ Url.maxLength) :
    (∃ trouble, tokenRequest address token [] = .error trouble ∧ tokenRequest address token' [] = .error trouble) ∨
      ∃ request request' endpoint, tokenRequest address token [] = .ok (request, endpoint) ∧
        tokenRequest address token' [] = .ok (request', endpoint) := by
  cases hurl : Url.read address with
  | error fault => exact .inl ⟨_, tokenRequest_of_unread hurl token [], tokenRequest_of_unread hurl token' []⟩
  | ok url =>
    obtain ⟨hlength, hlength'⟩ := hfit url hurl
    have hbare := url.withQuery_bare (Url.checkPart_tokenQuery hlength) (Url.checkPart_tokenQuery hlength')
    have hreq := tokenRequest_of_query hurl token
    have hreq' := tokenRequest_of_query hurl token'
    generalize url.withQuery (some (url.tokenQuery token)) = read at hbare hreq
    generalize url.withQuery (some (url.tokenQuery token')) = read' at hbare hreq'
    cases read with
    | error fault =>
      cases read' with
      | error fault' =>
        obtain rfl := Except.error.inj hbare
        exact .inl ⟨_, hreq, hreq'⟩
      | ok u' => cases hbare
    | ok u =>
      cases read' with
      | error fault' => cases hbare
      | ok u' =>
        have hend : u.withQuery none = u'.withQuery none := Url.withQuery_of_bare (Except.ok.inj hbare) none
        obtain ⟨request, hm, -⟩ := Request.make_get u
        obtain ⟨request', hm', -⟩ := Request.make_get u'
        have hsent : tokenRequest address token [] = do
            let request ← Request.make "GET" u []
            let endpoint ← (u.withQuery none).mapError .ofUrlFault
            return (request, endpoint.text) := hreq
        have hsent' : tokenRequest address token' [] = do
            let request ← Request.make "GET" u' []
            let endpoint ← (u'.withQuery none).mapError .ofUrlFault
            return (request, endpoint.text) := hreq'
        rw [hm] at hsent
        rw [hm', ← hend] at hsent'
        cases he : u.withQuery none with
        | error fault =>
          rw [he] at hsent hsent'
          exact .inl ⟨_, hsent, hsent'⟩
        | ok endpoint =>
          rw [he] at hsent hsent'
          exact .inr ⟨request, request', endpoint.text, hsent, hsent'⟩

/-- A token in the query of an address shows in nothing that a check of it returns or writes. -/
theorem validateToken_query (address : Option String) {token token' : String} (ht : token ≠ "") (ht' : token' ≠ "")
    (hfit : ∀ url, Url.read (address.getD "") = .ok url →
      (url.tokenQuery token).length ≤ Url.maxLength ∧ (url.tokenQuery token').length ≤ Url.maxLength)
    (timeout : Binary64) {site : Site} (hrealm : site.network.realm = none)
    (hreceive : ∀ asked, tokenRequest (address.getD "") token [] = .ok asked → asked.1.CanReceive site.network.next)
    (hreceive' : ∀ asked, tokenRequest (address.getD "") token' [] = .ok asked → asked.1.CanReceive site.network.next) :
    (validateToken address token [] timeout site).1 = (validateToken address token' [] timeout site).1 ∧
      (validateToken address token [] timeout site).2.records =
        (validateToken address token' [] timeout site).2.records := by
  by_cases ha : address.getD "" = ""
  · rw [validateToken_of_empty _ _ _ (.inr ha), validateToken_of_empty _ _ _ (.inr ha)]
    exact ⟨rfl, rfl⟩
  · have hasked := not_or.2 ⟨mt Text.whole.inj ht, ha⟩
    have hasked' := not_or.2 ⟨mt Text.whole.inj ht', ha⟩
    rcases tokenRequest_query hfit with ⟨trouble, hr, hr'⟩ | ⟨request, request', endpoint, hr, hr'⟩
    · rw [validateToken_of_error _ _ hasked hr, validateToken_of_error _ _ hasked' hr']
      exact ⟨rfl, rfl⟩
    · rw [validateToken_of_ok _ _ hasked hr, validateToken_of_ok _ _ hasked' hr', Network.ask_of_realm hrealm,
        Network.ask_of_realm hrealm, (hreceive _ hr).receive_eq, (hreceive' _ hr').receive_eq]
      exact ⟨rfl, Site.noted_records (by simp) (by simp) (by simp) _⟩

end Exchange

end SignOn
