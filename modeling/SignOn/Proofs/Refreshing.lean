import SignOn.Proofs.Heartbeat
import SignOn.Proofs.Verdicts

/-!
The outcome of a refresh: it rests, or it asks what a group check asks and follows the verdict. It never tells that
tokens were exchanged, and changes the session only where the check has let the user in.
-/

namespace SignOn.Provider

/-- The failure of a refresh whose user is in no allowed group any more. -/
def lostMembership (s : Session) : Failure where
  kind := .membershipLost
  code := "GROUP_MEMBERSHIP_LOST"
  message := s.email ++ " is no longer in the group(s)"
  details := [("user", .str s.user)]

/-- What a refresh that does not rest makes of the result of its group check. -/
structure Follows (s : Session) (now : Instant) (checked : Except Trouble Bool)
    (o : Option Session × Except Trouble Value) : Prop where
  authorized : checked = .ok true → ∃ expiry : Moment, expiry.offset = some 0 ∧
    expiry.Denotes (wholeSecond (now + 1000000)) ∧ o = (some { s with expiresOn := some expiry }, .ok (.truth false))
  lost : checked = .ok false → o = (some s, .error (.failure (lostMembership s)))
  raised : ∀ trouble, checked = .error trouble → o = (some s, .error trouble)

/-- Membership is lost exactly when the check lets nobody in, as long as it reports no failure but of requests that were
given up. -/
theorem Follows.lost_iff {s : Session} {now : Instant} {checked : Except Trouble Bool}
    {o : Option Session × Except Trouble Value} (h : Follows s now checked o)
    (hkind : ∀ f, checked = .error (.failure f) → f.kind = .cancelled) :
    o = (some s, .error (.failure (lostMembership s))) ↔ checked = .ok false := by
  refine ⟨fun hlost => ?_, h.lost⟩
  cases hc : checked with
  | error trouble =>
    -- a failure that is passed on would be of another kind
    have hraised := (h.raised trouble hc).symm.trans hlost
    have htrouble : trouble = .failure (lostMembership s) := Except.error.inj (Prod.mk.inj hraised).2
    cases hkind (lostMembership s) (by rw [hc, htrouble])
  | ok b =>
    cases b with
    | false => rfl
    | true =>
      obtain ⟨expiry, -, -, hmoved⟩ := h.authorized hc
      cases (Prod.mk.inj (hmoved.symm.trans hlost)).2

variable (p : Provider) {now : Instant} (timeout : Option Binary64) (site : Site)

theorem performOptional_refresh (s : Session) :
    p.performOptional .refresh (some s) now timeout site =
      ((some (p.refresh s now timeout site).1.session, (p.refresh s now timeout site).1.result.map .truth),
        (p.refresh s now timeout site).2) := rfl

theorem refresh_follows {s : Session} (hstart : 0 ≤ now + 1000000) (hend : now + 1000000 < Moment.span)
    (h : ¬Rests s now) :
    Follows s now (p.groupCheck.isAuthorized s.user timeout site).1
      (p.performOptional .refresh (some s) now timeout site).1 := by
  obtain ⟨-, -, hresult⟩ := p.refresh_of_not_rests h timeout site
  have hcheck : p.validateGroup s timeout site = p.groupCheck.isAuthorized s.user timeout site := rfl
  rw [hcheck] at hresult
  rw [performOptional_refresh]
  refine ⟨fun hc => ?_, fun hc => ?_, fun trouble hc => ?_⟩
  · obtain ⟨expiry, he, hmoved⟩ := p.refresh_of_authorized hstart hend h hc
    obtain ⟨hoffset, hdenotes⟩ := nextExpiry?_spec he
    refine ⟨expiry, hoffset, hdenotes, ?_⟩
    rw [hmoved]
    rfl
  · rw [hresult, hc]
    rfl
  · rw [hresult, hc]
    rfl

/-- A refresh tells of no exchanged tokens. -/
theorem refresh_ne_true (session : Option Session) :
    (p.performOptional .refresh session now timeout site).1.2 ≠ .ok (.truth true) := by
  cases session with
  | none => simp [performOptional, Effect.pure_apply]
  | some s =>
    have h := p.refresh_course s now timeout site
    rw [performOptional_refresh]
    generalize p.refresh s now timeout site = o at h
    cases h <;> simp [Except.map]

end SignOn.Provider
