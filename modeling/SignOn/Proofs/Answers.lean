import Mathlib.Data.List.TakeWhile
import SignOn.Proofs.Bearer
import SignOn.Proofs.Lookup
import SignOn.Proofs.Rereading

/-!
What the realm answers to the requests of a provider, and what the provider makes of that. A token that is sent in a
header comes out as it went in, and so does a user key that is one segment of a path.
-/

namespace SignOn

namespace Http

variable {α : Type}

/-- A request goes to the first route that fits it, if the routes in front of that do not fit its path. -/
theorem Route.resolve_of_first {before after : List (Route α)} {route : Route α} {method path : String}
    {segments : List String} (hbefore : ∀ r ∈ before, r.match? path = none) (hmatch : route.match? path = some segments)
    (hmethod : route.methods.contains method = true) :
    resolve (before ++ route :: after) method path = .endpoint route.endpoint segments := by
  have hskip : before.filterMap (fun r => (r.match? path).map fun segments => (r, segments)) = [] := by
    rw [List.filterMap_eq_nil_iff]
    intro r hr
    rw [hbefore r hr]
    rfl
  simp only [resolve, List.filterMap_append, hskip, List.nil_append, List.filterMap_cons, hmatch, Option.map_some,
    List.find?_cons, hmethod]

theorem Route.match?_ofList (route : Route α) (cs : List Char) :
    route.match? (String.ofList cs) = Piece.match? route.pattern cs := by
  rw [match?, String.toList_ofList]

/-- A segment is taken as far as it goes. -/
theorem Piece.match?_segment {key : List Char} (hne : key ≠ []) (hslash : '/' ∉ key) (pieces : List Piece)
    {rest : List Char} (hrest : ∀ c ∈ rest.head?, c = '/') :
    match? (.segment :: pieces) (key ++ rest) = (match? pieces rest).map (String.ofList key :: ·) := by
  have hkey : (key ++ rest).takeWhile (· != '/') = key := by
    refine Text.takeWhile_of_stop (fun c hc => ?_) fun c hc => ?_
    · have hne : c ≠ '/' := fun he => hslash (he ▸ hc)
      simpa using hne
    · rw [hrest c hc]
      rfl
  have hsome : key.isEmpty = false := by simpa using hne
  simp only [match?, hkey, hsome, Bool.false_eq_true, if_false, List.drop_left]

theorem Answer.text_response (status : Nat) (v : Json) :
    ({ status, body := .json v } : Answer).response.text = .ok (String.ofList v.write) := by
  have hheader : ({ status, body := .json v } : Answer).response.header? "content-type" = some "application/json" := by
    simp [Answer.response, Response.header?]
  have hcharset : MediaType.charset (some "application/json") = .ok .utf8 := by decide +kernel
  have hbody : ({ status, body := .json v } : Answer).response.body = Utf8.encode v.write := rfl
  rw [Response.text, hheader, hcharset, hbody]
  split
  · next hempty =>
    have hwrite := Utf8.decodeLossy_encode v.write
    rw [hempty] at hwrite
    rw [← hwrite]
    rfl
  · show Except.ok (String.ofList (Utf8.decodeLossy (Utf8.encode v.write))) = _
    rw [Utf8.decodeLossy_encode]

/-- An answer that names no other place leads nowhere. -/
theorem Answer.location?_response {a : Answer} (h : a.location = none) : a.response.location? = none := by
  have hheader : a.response.header? "location" = none := by
    unfold Answer.response
    rw [h]
    cases a.body <;> simp [Response.header?]
  simp [Response.location?, hheader]

end Http

namespace Exchange

variable {α : Type} (target : Target α) (service url : String)

/-- The failure for an answer that only says what is wrong. -/
def refusal (status : Nat) (words : String) : Failure :=
  let text := String.ofList (Json.write (.obj [("detail", .str words)]))
  .remoteUnavailable service s!"got {status} {text}" [("url", .str url), ("status_code", .int status)]

theorem judge_detail {status : Nat} (hs : status ≠ 200) (words : String) :
    (judge target service url (.answered (Http.Answer.detail status words).response)).2 =
      .error (.failure (refusal service url status words)) := by
  have htext := Http.Answer.text_response status (.obj [("detail", .str words)])
  have hstatus : (Http.Answer.detail status words).response.status ≠ 200 := hs
  rw [judge, if_pos hstatus, Http.Answer.detail, htext]
  rfl

/-- A value that has the shape that is asked for is told. -/
theorem judge_told {a : α} {v : Json} (hv : Json.Plain Json.maxDepth v) (ha : target.check v = .valid a) :
    (judge target service url (.answered ({ status := 200, body := .json v } : Http.Answer).response)).2 = .ok a := by
  have hread : Json.readBytes ({ status := 200, body := .json v } : Http.Answer).response.body = .ok v :=
    Json.readBytes_write hv
  rw [judge_eq_ok_iff]
  exact ⟨_, rfl, rfl, by simp only [readBody, hread, ha]⟩

theorem judgeToken_detail (endpoint : String) {status : Nat} (hs : status ≠ 200) (words : String) :
    (judgeToken endpoint (.answered (Http.Answer.detail status words).response)).2 = .ok false := by
  have htext := Http.Answer.text_response status (.obj [("detail", .str words)])
  have hstatus : (Http.Answer.detail status words).response.status ≠ 200 := hs
  rw [judgeToken, if_neg hstatus, Http.Answer.detail, htext]

end Exchange

theorem Field.items_map {α β : Type} {check : Json → Checked β} {write : α → Json} {make : α → β}
    (h : ∀ a, check (write a) = .valid (make a)) (as : List α) (first : Nat) :
    items check first (as.map write) = .valid (as.map make) := by
  induction as generalizing first with
  | nil => rfl
  | cons a as ih =>
    rw [List.map_cons, items, h, ih]
    rfl

namespace Request

theorem of_make_get {url : Url} {headers : Table Text} {request : Request} (h : make "GET" url headers = .ok request) :
    request.method = "GET" ∧ request.url = url := by
  unfold make at h
  split at h
  · cases h
  · obtain rfl := Except.ok.inj h
    have hupper : String.ofList ("GET".toList.map Char.toUpper) = "GET" := by decide
    exact ⟨hupper, rfl⟩

theorem header?_of_valuesOf {request : Request} {name value : String} (h : request.valuesOf name = [value]) :
    (Http.Incoming.ofRequest request []).header? name = some value := by
  have hfirst : request.headers.get? name = (request.valuesOf name).head? := by
    rw [valuesOf, List.head?_map, List.head?_filter]
    rfl
  rw [Http.Incoming.header?, Http.Incoming.ofRequest, hfirst, h]
  rfl

end Request

/-- Whether a user key is a single segment of a path, and not one of dots. -/
structure IsSegment (key : String) : Prop where
  nonempty : key ≠ ""
  slashless : '/' ∉ key.toList
  dotless : key ≠ "." ∧ key ≠ ".."

namespace IsSegment

variable {key : String} (h : IsSegment key)
include h

theorem toList_ne_nil : key.toList ≠ [] := fun he => h.nonempty (String.toList_eq_nil_iff.1 he)

theorem dotless_toList : Url.Dotless key.toList := by
  intro segment hs
  rw [Text.cut_of_not_mem h.slashless] at hs
  obtain rfl := List.mem_singleton.1 hs
  refine ⟨fun hone => h.dotless.1 ?_, fun htwo => h.dotless.2 ?_⟩
  · exact String.toList_inj.1 hone
  · exact String.toList_inj.1 htwo

end IsSegment

namespace Realm

/-- Below the directory there are no fixed paths. -/
theorem match?_fixed {r : Http.Route Endpoint} (hr : r ∈ routes.take 5) (rest : List Char) :
    Http.Piece.match? r.pattern ("/user/".toList ++ rest) = none := by
  simp only [routes, List.take_succ_cons, List.take_zero, List.mem_cons, List.not_mem_nil, or_false] at hr
  rcases hr with rfl | rfl | rfl | rfl | rfl
  · rfl
  · rfl
  · rfl
  · rfl
  · rfl

theorem match?_user (pieces : List Http.Piece) (rest : List Char) :
    Http.Piece.match? (.fixed "/user/".toList :: pieces) ("/user/".toList ++ rest) = Http.Piece.match? pieces rest := by
  simp [Http.Piece.match?]

theorem resolve_groups {key : List Char} (hne : key ≠ []) (hslash : '/' ∉ key) :
    Http.Route.resolve routes "GET" (String.ofList ("/user/".toList ++ (key ++ "/groups".toList))) =
      .endpoint .groups [String.ofList key] := by
  have hsplit : routes = routes.take 5 ++
      ⟨["GET"], [.fixed "/user/".toList, .segment, .fixed "/groups".toList], .groups⟩ :: routes.drop 6 := rfl
  rw [hsplit]
  refine Http.Route.resolve_of_first (fun r hr => ?_) ?_ rfl
  · rw [Http.Route.match?_ofList]
    exact match?_fixed hr _
  · have hrest : ∀ c ∈ "/groups".toList.head?, c = '/' := by
      intro c hc
      obtain rfl := Option.some.inj hc
      rfl
    rw [Http.Route.match?_ofList, match?_user, Http.Piece.match?_segment hne hslash _ hrest]
    rfl

theorem resolve_entry {key : List Char} (hne : key ≠ []) (hslash : '/' ∉ key) :
    Http.Route.resolve routes "GET" (String.ofList ("/user/".toList ++ key)) = .endpoint .entry [String.ofList key] := by
  have hsplit : routes = (routes.take 5 ++
      [⟨["GET"], [.fixed "/user/".toList, .segment, .fixed "/groups".toList], .groups⟩]) ++
        ⟨["GET"], [.fixed "/user/".toList, .segment], .entry⟩ :: [] := rfl
  have hsegment : ∀ pieces, Http.Piece.match? (.segment :: pieces) key =
      (Http.Piece.match? pieces []).map (String.ofList key :: ·) := by
    intro pieces
    have hrest : ∀ c ∈ ([] : List Char).head?, c = '/' := by simp
    simpa using Http.Piece.match?_segment hne hslash pieces hrest
  rw [hsplit]
  refine Http.Route.resolve_of_first (fun r hr => ?_) ?_ rfl
  · rw [Http.Route.match?_ofList]
    rcases List.mem_append.1 hr with hr | hr
    · exact match?_fixed hr key
    · obtain rfl := List.mem_singleton.1 hr
      rw [match?_user, hsegment]
      rfl
  · rw [Http.Route.match?_ofList, match?_user, hsegment]
    rfl

theorem resolve_tokenInfo : Http.Route.resolve routes "GET" "/auth/oauth2/tokeninfo" = .endpoint .tokenInfo [] := rfl

/-- A path below the directory comes in with its escapes undone. -/
theorem path_ofRequest {request : Request} {cs : List Char} (hpath : request.url.path = Directory.sentPath cs)
    (hdots : Url.Dotless cs) :
    (Http.Incoming.ofRequest request []).path = String.ofList ("/user/".toList ++ cs) := by
  have hdecode := (Directory.decode_sentPath_eq_iff cs).2 hdots
  have hne : Directory.sentPath cs ≠ "" := by
    intro he
    rw [he] at hdecode
    cases hdecode
  simp only [Http.Incoming.ofRequest, hpath, hne, if_false, hdecode]

variable (r : Realm) {request : Request} (hm : request.method = "GET")
include hm

theorem answer_of_get : r.answer (.ofRequest request []) = r.find (.ofRequest request []) := by
  have hget : (Http.Incoming.ofRequest request []).method ≠ "HEAD" := by
    show request.method ≠ "HEAD"
    rw [hm]
    decide
  rw [answer, Http.Answer.forMethod, if_neg hget]

/-- What the realm answers to a question about a token. -/
theorem answer_token (hpath : request.url.path = "/auth/oauth2/tokeninfo")
    (hquery : request.url.query = some "realm=criteo") {token : String}
    (ha : request.valuesOf "authorization" = ["Bearer " ++ token]) :
    r.answer (.ofRequest request []) =
      (r.tokens.get? token).elim (.detail 401 "Invalid token")
        fun members => { status := 200, body := .json (.obj members) } := by
  have hdecode : (Http.Incoming.ofRequest request []).path = "/auth/oauth2/tokeninfo" := by
    simp only [Http.Incoming.ofRequest, hpath]
    decide +kernel
  have hrealm : (Http.Incoming.ofRequest request []).parameter? "realm" = some name := by
    simp only [Http.Incoming.parameter?, Http.Incoming.ofRequest, hquery]
    decide +kernel
  have hbearer : "Bearer ".toList.isPrefixOf ("Bearer " ++ token).toList = true := by
    rw [String.toList_append, List.isPrefixOf_iff_prefix]
    exact List.prefix_append ..
  have hrest : String.ofList (("Bearer " ++ token).toList.drop "Bearer ".toList.length) = token := by
    rw [String.toList_append, List.drop_left, String.ofList_toList]
  have hmethod : (Http.Incoming.ofRequest request []).method = "GET" := hm
  rw [r.answer_of_get hm, find, hmethod, hdecode, resolve_tokenInfo]
  simp only [answerToken, hrealm, if_true, owner, Request.header?_of_valuesOf ha, hbearer, hrest]
  cases r.tokens.get? token with
  | none => rfl
  | some members => rfl

variable {key : String} (hk : IsSegment key)
include hk

/-- What the realm answers to a lookup of an entry. -/
theorem answer_entry (hpath : request.url.path = Directory.sentPath key.toList) :
    r.answer (.ofRequest request []) = r.answerUser key fun user => .obj [("cn", .str user.cn), ("dn", .str key)] := by
  have hmethod : (Http.Incoming.ofRequest request []).method = "GET" := hm
  rw [r.answer_of_get hm, find, hmethod, path_ofRequest hpath hk.dotless_toList,
    resolve_entry hk.toList_ne_nil hk.slashless, String.ofList_toList]
  rfl

/-- What the realm answers to a lookup of groups. -/
theorem answer_groups (hpath : request.url.path = Directory.sentPath (key.toList ++ "/groups".toList)) :
    r.answer (.ofRequest request []) =
      r.answerUser key fun user => .arr (user.groups.map fun (g : String) => .obj [("name", .str g)]) := by
  have hmethod : (Http.Incoming.ofRequest request []).method = "GET" := hm
  have hdots : Url.Dotless (key.toList ++ "/groups".toList) :=
    (Url.dotless_append_slash key.toList "groups".toList).2 ⟨hk.dotless_toList, by decide⟩
  rw [r.answer_of_get hm, find, hmethod, path_ofRequest hpath hdots,
    resolve_groups hk.toList_ne_nil hk.slashless, String.ofList_toList]
  rfl

end Realm

namespace Url

/-- Whether a text is a host that stays one in the normal form of an address. -/
def SteadyHost (text : String) : Prop :=
  PlainHost text ∧
    ∀ url, read ("https://" ++ text ++ "/") = .ok url → PlainHost url.netloc ∧ url.netloc.length ≤ maxLength

theorem checkPart_of_plain (part : Part) {cs : List Char} (hfit : cs.length ≤ maxLength)
    (h : ∀ c ∈ cs, isPlain c = true) : checkPart part cs = .ok () := by
  rw [checkPart, if_neg (Nat.not_lt.2 hfit), unprintable?_of_isPlain h]

/-- The query of an address can be taken off if its host is one still. -/
theorem exists_withQuery_none {url : Url} {path : List Char} (hweb : IsWeb url.scheme.toList) (huser : url.userinfo = "")
    (hfragment : url.fragment = none) (hpath : url.path.toList = '/' :: path) (hplain : ∀ c ∈ path, isPlain c = true)
    (hfit : ('/' :: path).length ≤ maxLength) (hnetloc : PlainHost url.netloc) (hfit' : url.netloc.length ≤ maxLength) :
    ∃ bare, url.withQuery none = .ok bare := by
  have hauthority : url.authority = url.netloc := by simp [authority, huser]
  have hroot : ∀ c ∈ '/' :: path, isPlain c = true := List.forall_mem_cons.2 ⟨rfl, hplain⟩
  rw [← String.length_toList] at hfit'
  have hcheck := checkPart_of_plain .scheme hweb.length_le hweb.plain
  have hcheck' := checkPart_of_plain .authority hfit' fun c hc => (hnetloc.plain c hc).1
  have hcheck'' := checkPart_of_plain .path hfit hroot
  obtain ⟨host, port, htext, hh, hp⟩ := hnetloc
  obtain ⟨name, hname⟩ := hh.reads
  obtain ⟨n, hn⟩ := exists_readPort hp url.scheme.toList
  have hquery : url.withQuery none = ofParts ⟨url.scheme.toList, host ++ port, '/' :: path, none, none⟩ := by
    have hpass : ∀ rest : Except Fault Url, (Except.ok () >>= fun _ => rest) = rest := fun _ => rfl
    rw [← htext]
    simp only [withQuery, hauthority, hfragment, hpath, Option.map_none, Option.getD_none, hcheck, hcheck', hcheck'',
      hpass]
  exact ⟨_, hquery.trans (ofParts_of_isHost hweb hh hp hname hn path none)⟩

/-- What stands in front of the last number sign starts as the whole does, if there is none before. -/
theorem exists_front {name rest : List Char} (hname : '#' ∉ name) :
    ∃ fragment more, ((name ++ ':' :: rest).reverse.takeWhile (· != '#')).reverse = fragment ∧
      (if fragment.length = (name ++ ':' :: rest).length then name ++ ':' :: rest
        else (name ++ ':' :: rest).take ((name ++ ':' :: rest).length - fragment.length - 1)) = name ++ ':' :: more := by
  have hother : ∀ {cs : List Char}, '#' ∉ cs → ∀ c ∈ cs, (c != '#') = true := by
    intro cs hcs c hc
    have hne : c ≠ '#' := fun h => hcs (h ▸ hc)
    simpa using hne
  by_cases hmark : '#' ∈ rest
  · obtain ⟨tail, front, hrest, htail⟩ := List.eq_append_cons_of_mem (List.mem_reverse.2 hmark)
    have hsplit : name ++ ':' :: rest = (name ++ ':' :: front.reverse) ++ '#' :: tail.reverse := by
      rw [← List.reverse_reverse rest, hrest]
      simp
    have htake : (name ++ ':' :: rest).reverse.takeWhile (· != '#') = tail := by
      rw [hsplit, List.reverse_append, List.reverse_cons, List.reverse_reverse, List.append_assoc]
      exact Text.takeWhile_of_stop (hother htail) (by simp)
    refine ⟨tail.reverse, front.reverse, by rw [htake], ?_⟩
    rw [hsplit, if_neg (by simp; omega)]
    exact List.take_left' (by simp; omega)
  · have hnone : '#' ∉ (name ++ ':' :: rest).reverse := by simp [hname, hmark]
    refine ⟨name ++ ':' :: rest, rest, ?_, if_pos rfl⟩
    rw [List.takeWhile_eq_self_iff.2 (hother hnone), List.reverse_reverse]

/-- A text with a name in front of its first colon has a type. -/
theorem untyped?_of_name {name rest : List Char} (hne : name ≠ []) (hslash : '/' ∉ name) (hcolon : ':' ∉ name)
    (hmark : '#' ∉ name) : untyped? (String.ofList (name ++ ':' :: rest)) = none := by
  obtain ⟨fragment, more, hfragment, hfront⟩ := @exists_front name rest hmark
  have htake : (name ++ ':' :: more).takeWhile (fun c => c != '/' && c != ':') = name := by
    refine Text.takeWhile_of_stop (fun c hc => ?_) (by simp)
    have hne : c ≠ '/' ∧ c ≠ ':' := ⟨fun h => hslash (h ▸ hc), fun h => hcolon (h ▸ hc)⟩
    simpa using hne
  simp only [untyped?, String.toList_ofList, hfragment, hfront, htake, List.drop_left]
  simp [hne]

/-- An address on the web has a type. -/
theorem untyped?_of_scheme {u : Url} (h : u.scheme = "http" ∨ u.scheme = "https") : untyped? u.text = none := by
  have htyped : ∀ rest : String, untyped? (u.scheme ++ (":" ++ rest)) = none := by
    intro rest
    have hlist : u.scheme ++ (":" ++ rest) = String.ofList (u.scheme.toList ++ ':' :: rest.toList) := by
      rw [← String.toList_inj]
      simp
    rw [hlist]
    rcases h with h | h
    · rw [h]
      exact untyped?_of_name (by decide) (by decide) (by decide) (by decide)
    · rw [h]
      exact untyped?_of_name (by decide) (by decide) (by decide) (by decide)
  have hne : u.scheme ≠ "" := by
    rcases h with h | h <;> simp [h]
  rw [text, if_neg hne]
  simp only [String.append_assoc]
  exact htyped _

/-- Whether an address is that of the token info, without anything that would go out in place of a token. -/
structure IsTokenInfo (url : Url) : Prop where
  scheme : url.scheme = "https"
  credentials : url.credentials = ("", "")
  path : url.path = "/auth/oauth2/tokeninfo"
  query : url.query = some "realm=criteo"
  bare : ∃ bare, url.withQuery none = .ok bare

/-- The address of the token info is read behind every steady host. -/
theorem read_tokenInfo {signOnHost : String} (h : SteadyHost signOnHost)
    (hfit : (Provider.signOnUrl signOnHost "/auth/oauth2/tokeninfo").length ≤ maxLength) :
    ∃ url, read (Provider.signOnUrl signOnHost "/auth/oauth2/tokeninfo") = .ok url ∧ url.IsTokenInfo := by
  obtain ⟨hplain, hsteady⟩ := h
  obtain ⟨host, port, hread⟩ := read_of_plainHost (.inr rfl) hplain
  have htext : Provider.signOnUrl signOnHost "/auth/oauth2/tokeninfo" = String.ofList (addressText "https".toList
      signOnHost.toList "auth/oauth2/tokeninfo".toList (some "realm=criteo".toList)) := by
    rw [← String.toList_inj]
    simp [Provider.signOnUrl, addressText, Realm.name]
  have hbare : "https://" ++ signOnHost ++ "/" =
      String.ofList (addressText "https".toList signOnHost.toList [] none) := by
    rw [← String.toList_inj]
    simp [addressText]
  rw [htext, String.length_ofList] at hfit
  have hfit' : (addressText "https".toList signOnHost.toList [] none).length ≤ maxLength := by
    simp only [addressText, List.length_append, List.length_cons] at hfit ⊢
    simp only [Option.elim_none, List.length_nil]
    omega
  have hcriteo : ∀ q ∈ some "realm=criteo".toList, ∀ c ∈ q, isPlain c = true ∧ c ≠ '#' := by
    have hall : ∀ c ∈ "realm=criteo".toList, isPlain c = true ∧ c ∉ ['#'] := plain_of_all (by decide)
    intro q hq c hc
    obtain rfl := Option.some.inj hq
    simpa using hall c hc
  have hurl := hread _ _ (plain_of_all (by decide)) hcriteo hfit
  obtain ⟨hnetloc, hlength⟩ := hsteady _ (hbare ▸ hread [] none (by simp) (by simp) hfit')
  have hpath : String.ofList (Percent.encodeAround keptInPath (removeDots ('/' :: "auth/oauth2/tokeninfo".toList))) =
      "/auth/oauth2/tokeninfo" := by decide +kernel
  have hquery : String.ofList (Percent.encodeAround keptInQuery "realm=criteo".toList) = "realm=criteo" := by
    decide +kernel
  simp only [hpath, Option.map_some, hquery] at hurl
  rw [htext]
  refine ⟨_, hurl, rfl, rfl, rfl, rfl, ?_⟩
  have hplain : ∀ c ∈ "auth/oauth2/tokeninfo".toList, isPlain c = true := List.all_eq_true.1 (by decide)
  have hroot : "/auth/oauth2/tokeninfo".toList = '/' :: "auth/oauth2/tokeninfo".toList := by decide
  exact exists_withQuery_none (.inr rfl) rfl rfl hroot hplain (by decide) hnetloc hlength

end Url

end SignOn
