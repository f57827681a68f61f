import SignOn.Proofs.Budget
import SignOn.Proofs.NormalForm
import SignOn.Proofs.RequestIds

/-!
Tokens that travel in the query of an address, from the text of the address to the request. The token is the only value of
its parameter and the others stay; nothing that is written or reported has a query.
-/

namespace SignOn

namespace Log

/-- The names of members that a record may have from elsewhere than its fields. -/
def stamped : List Text :=
  ["event", "logger", "level", "service", "request_id", "user_id", "email"]

/-- A field of any other name is written as it is. -/
theorem Entry.get?_members {name : Text} (hreserved : name ∉ reserved) (hstamped : name ∉ stamped) (e : Entry)
    (context : Correlation) : (e.members context).get? name = Table.get? e.fields name := by
  simp only [stamped, List.mem_cons, List.not_mem_nil, or_false, not_or] at hstamped
  obtain ⟨hevent, hlogger, hlevel, hservice, hrequest, huser, hemail⟩ := hstamped
  have hown : name ∉ overwritten := by simp [overwritten, hreserved, hevent, hlogger, hlevel, hservice]
  rw [members_eq, Correlation.stamp, Correlation.get?_stampPart_of_ne hemail, Correlation.get?_stampPart_of_ne huser,
    Correlation.get?_stampPart_of_ne hrequest, e.get?_of_not_overwritten hown]

end Log

/-- The records that are written are those of entries that were offered. -/
theorem Site.exists_written (site : Site) (entries : List Log.Entry) :
    ∃ written, (site.noted entries).records = site.records ++ written ∧
      ∀ r ∈ written, ∃ e ∈ entries, r = e.members site.context := by
  induction entries generalizing site with
  | nil => exact ⟨[], by simp, by simp⟩
  | cons entry entries ih =>
    obtain ⟨written, hrecords, hfrom⟩ := ih (site.record entry)
    have hbehind : ∀ r ∈ written, ∃ e ∈ entry :: entries, r = e.members site.context := by
      intro r hr
      obtain ⟨e, he, rfl⟩ := hfrom r hr
      exact ⟨e, List.mem_cons_of_mem _ he, by rw [record_context]⟩
    rw [noted_cons, hrecords]
    by_cases hwrites : site.journal.writes entry.level = true
    · refine ⟨entry.members site.context :: written, by simp [record, hwrites], ?_⟩
      exact List.forall_mem_cons.2 ⟨⟨entry, List.mem_cons_self .., rfl⟩, hbehind⟩
    · exact ⟨written, by simp [record, hwrites], hbehind⟩

namespace Url

/-- Whether the host has an international name: one outside ASCII, or one with `xn--` in front, which stands for such a
name. They are read by a library of their own. -/
def isInternational (u : Url) : Bool :=
  u.host.toList.any (0x80 ≤ ·.toNat) || "xn--".toList.isPrefixOf u.host.toList

theorem host_ascii_of_not_isInternational {u : Url} (h : u.isInternational = false) :
    ∀ c ∈ u.host.toList, c.toNat < 0x80 := by
  intro c hc
  have hnone := List.any_eq_false.1 (Bool.or_eq_false_iff.1 h).1 c hc
  simpa using hnone

/-- The address that is asked about a token in its query. -/
def withToken (u : Url) (token : String) : Url :=
  u.reread (some (u.tokenQuery token))

theorem query_withToken (u : Url) (token : String) : (u.withToken token).query = some (u.tokenQuery token) := by
  have hkept : ∀ c ∈ (u.tokenQuery token).toList, keptInQuery c = true := by
    intro c hc
    rw [tokenQuery, String.toList_ofList] at hc
    exact Form.keptInQuery_of_mem_encode hc
  rw [withToken, reread, Option.map_some, Percent.encodeAround_of_kept hkept, String.ofList_toList]

/-- The token is the only value of its parameter, and the other parameters are those that were there. -/
theorem valuesOf_withToken (u : Url) (token name : String) :
    Form.valuesOf (u.withToken token).parameters name =
      if name = "access_token" then [token] else Form.valuesOf u.parameters name := by
  rw [parameters, query_withToken, Option.getD_some, tokenQuery, String.toList_ofList, Form.decode_encode,
    Form.valuesOf_put]

variable {u : Url} {token : String}

theorem toList_host_withToken : (u.withToken token).host.toList = rereadHost u.host.toList :=
  String.toList_ofList

/-- The host is the one that was read, up to the case of its escapes. -/
theorem Settled.host_withToken (h : Settled u) :
    (u.withToken token).host.toList.map Char.toLower = u.host.toList.map Char.toLower := by
  rw [toList_host_withToken]
  rcases h.host.cases_colon with ⟨hcolon, -⟩ | ⟨hcolon, hkept, -⟩
  · rw [rereadHost_of_colon hcolon]
  · rw [rereadHost_of_not_colon hcolon, List.map_map]
    exact List.map_congr_left fun c hc => (plain_of_keptInName (hkept c hc)).2.2.2.2

theorem Settled.host_withToken_of_unescaped (h : Settled u) (hplain : ':' ∈ u.host.toList ∨ '%' ∉ u.host.toList) :
    (u.withToken token).host = u.host := by
  rw [← String.toList_inj, toList_host_withToken]
  rcases h.host.cases_colon with ⟨hcolon, -⟩ | ⟨hcolon, -, hlower⟩
  · rw [rereadHost_of_colon hcolon]
  · rw [rereadHost_of_not_colon hcolon]
    exact (List.map_congr_left (hlower (hplain.resolve_left hcolon))).trans (List.map_id' _)

/-- The port that a connection is made to. -/
theorem port_withToken (u : Url) (token : String) :
    (u.withToken token).port.or (defaultPort? u.scheme.toList) = u.port.or (defaultPort? u.scheme.toList) := by
  simp only [withToken, reread]
  cases u.port with
  | none => rfl
  | some n =>
    by_cases hdefault : defaultPort? u.scheme.toList = some n
    · simp [Option.filter, hdefault]
    · simp [Option.filter, hdefault]

/-- A settled address takes a token into its query. -/
theorem Settled.withQuery_token (h : Settled u) (hfit : (u.withToken token).text.length ≤ maxLength) :
    u.withQuery (some (u.tokenQuery token)) = .ok (u.withToken token) := by
  refine h.withQuery (h.partsFit_of_reread hfit) fun q hq => ?_
  obtain rfl := Option.some.inj hq
  have hlength := (h.reread (some (u.tokenQuery token))).length_text
  have hquery := u.query_withToken token
  rw [withToken] at hfit hquery
  rw [hquery, Option.elim_some] at hlength
  exact checkPart_tokenQuery (by omega)

/-- The token can be taken off again. -/
theorem Settled.withQuery_none (h : Settled u) (hfit : (u.withToken token).text.length ≤ maxLength) :
    (u.withToken token).withQuery none = .ok ((u.withToken token).reread none) := by
  have hreread := h.reread (some (u.tokenQuery token))
  rw [withToken] at hfit ⊢
  exact hreread.withQuery (hreread.partsFit hfit) (by simp)

end Url

namespace Exchange

/-- All that a check of a token writes down names the endpoint. -/
theorem get?_url_of_judgeToken (endpoint : String) (reply : Reply) :
    ∀ r ∈ (judgeToken endpoint reply).1, Table.get? r.fields "url" = some (.str endpoint) := by
  intro r hr
  unfold judgeToken at hr
  split at hr
  · cases hr
  · split at hr
    · obtain rfl := List.mem_singleton.1 hr
      rfl
    · obtain rfl := List.mem_singleton.1 hr
      rfl
  · split at hr
    · cases hr
    · split at hr
      · cases hr
      · obtain rfl := List.mem_singleton.1 hr
        rfl

/-- What is asked about a token in the query of an address. -/
structure AsksInQuery (address token : String) (url : Url) (request : Request) : Prop where
  method : request.method = "GET"
  token : Form.valuesOf request.url.parameters "access_token" = [token]
  others : ∀ name, name ≠ "access_token" →
    Form.valuesOf request.url.parameters name =
      Form.valuesOf (Form.decode ((Url.Parts.ofText address.toList).query.getD [])) name
  scheme : request.url.scheme = url.scheme
  userinfo : request.url.userinfo = url.userinfo
  host : request.url.host.toList.map Char.toLower = url.host.toList.map Char.toLower
  unescaped : ':' ∈ url.host.toList ∨ '%' ∉ url.host.toList → request.url.host = url.host
  port : request.url.port.or (Url.defaultPort? request.url.scheme.toList) =
    url.port.or (Url.defaultPort? url.scheme.toList)
  path : request.url.path = url.path
  fragment : request.url.fragment = url.fragment
  bare : url.userinfo = "" → request.valuesOf "authorization" = []

theorem asksInQuery_of_make {address token : String} {url : Url} {request : Request}
    (hread : Url.read address = .ok url) (h : url.Settled)
    (hmake : Request.make "GET" (url.withToken token) [] = .ok request) : AsksInQuery address token url request := by
  obtain ⟨hurl, -, hauthorization⟩ := Request.valuesOf_of_make_bare hmake
  refine {
    method := (Request.of_make_get hmake).1
    token := by rw [hurl, Url.valuesOf_withToken, if_pos rfl]
    others := fun name hname => by rw [hurl, Url.valuesOf_withToken, if_neg hname, Url.parameters_of_read hread]
    scheme := by rw [hurl]; rfl
    userinfo := by rw [hurl]; rfl
    host := hurl ▸ h.host_withToken
    unescaped := fun hplain => hurl ▸ h.host_withToken_of_unescaped hplain
    port := hurl ▸ url.port_withToken token
    path := by rw [hurl]; rfl
    fragment := by rw [hurl]; rfl
    bare := fun huser => ?_ }
  have hcredentials : (url.withToken token).credentials = ("", "") := by
    have hsame : (url.withToken token).userinfo = "" := huser
    rw [Url.credentials, hsame]
    rfl
  rw [hauthorization, (Request.basic?_eq_none_iff _).2 hcredentials]
  rfl

/-- The request of a check without headers, and the endpoint that it is told by. -/
theorem tokenRequest_in_query {address token : String} {url : Url} (hread : Url.read address = .ok url)
    (h : url.Settled) (hfit : (url.withToken token).text.length ≤ Url.maxLength) :
    ∃ request, Request.make "GET" (url.withToken token) [] = .ok request ∧
      tokenRequest address token [] = .ok (request, (request.url.reread none).text) := by
  obtain ⟨request, hmake, hurl⟩ := Request.make_get (url.withToken token)
  have hget : Except.mapError Trouble.ofUrlFault (Except.ok (url.withToken token)) = .ok (url.withToken token) := rfl
  refine ⟨request, hmake, ?_⟩
  rw [tokenRequest_of_query hread token, h.withQuery_token hfit, hget]
  simp only [hmake, h.withQuery_none hfit, hurl, bind, Except.bind, Except.mapError, pure, Except.pure]

/-- All that a check of a token leaves behind names the endpoint. -/
theorem exists_written_of_judgeToken (endpoint : String) (reply : Reply) (site : Site) :
    ∃ written, (site.noted ((judgeToken endpoint reply).1.map Remark.entry)).records = site.records ++ written ∧
      ∀ r ∈ written, r.get? "url" = some (.str endpoint) := by
  obtain ⟨written, hrecords, hfrom⟩ := site.exists_written ((judgeToken endpoint reply).1.map Remark.entry)
  refine ⟨written, hrecords, fun r hr => ?_⟩
  obtain ⟨e, he, rfl⟩ := hfrom r hr
  obtain ⟨remark, hremark, rfl⟩ := List.mem_map.1 he
  rw [Log.Entry.get?_members (by decide) (by decide)]
  exact get?_url_of_judgeToken endpoint reply remark hremark

/-- The only failure that a check of a token reports is a timeout, told by the endpoint. -/
theorem eq_cancelled_of_judgeToken {endpoint : String} {reply : Reply} {failure : Failure}
    (h : (judgeToken endpoint reply).2 = .error (.failure failure)) :
    failure = .cancelled ("token validation against " ++ endpoint ++ " timed out") [("url", .str endpoint)] := by
  have hjudged := judgeToken_judged reply endpoint
  rw [h] at hjudged
  cases hjudged
  rfl

end Exchange

end SignOn
