import Sandbox.Http.Client

/-!
# Where downloads come from

Whatever a client returns as the content at an address was the whole body of an answer with a status
of success, and was sent in reply to a request of this download.

## Main definitions

* `Traffic.Grows` : more was asked of the same servers.
* `Traffic.Delivered` : a whole body that was sent with a status of success.

## Main results

* `Client.download_delivered` : what a download returns.
-/

namespace Sandbox.Http

namespace Traffic

/-- More was asked of the same servers. -/
structure Grows (traffic later : Traffic) : Prop where
  /-- The servers are the same. -/
  reply : later.reply = traffic.reply
  /-- What was asked was asked. -/
  sent : traffic.sent <+: later.sent

theorem Grows.refl (traffic : Traffic) : traffic.Grows traffic :=
  ⟨rfl, List.prefix_rfl⟩

theorem Grows.trans {traffic middle later : Traffic} (h : traffic.Grows middle)
    (h' : middle.Grows later) : traffic.Grows later :=
  ⟨h'.reply.trans h.reply, h.sent.trans h'.sent⟩

theorem Grows.sent_append (traffic : Traffic) (requests : List Request) :
    traffic.Grows { traffic with sent := traffic.sent ++ requests } :=
  ⟨rfl, List.prefix_append _ _⟩

/-- A whole body that was sent with a status of success, in reply to a request after so many earlier
ones. -/
def Delivered (traffic : Traffic) (earlier : Nat) (body : Files.Content) : Prop :=
  ∃ count request status location, earlier ≤ count ∧ traffic.sent[count]? = some request ∧
    traffic.reply count request.url = .answer status location body true ∧
      Client.isSuccess status = true

/-- What was delivered was delivered. -/
theorem Delivered.grows {traffic later : Traffic} {earlier earlier' : Nat} {body : Files.Content}
    (h : traffic.Delivered earlier body) (hgrows : traffic.Grows later) (hle : earlier' ≤ earlier) :
    later.Delivered earlier' body := by
  obtain ⟨count, request, status, location, hearlier, hsent, hreply, hstatus⟩ := h
  refine ⟨count, request, status, location, Nat.le_trans hle hearlier, ?_,
    hgrows.reply ▸ hreply, hstatus⟩
  obtain ⟨requests, hrequests⟩ := hgrows.sent
  rw [← hrequests, List.getElem?_append_left (List.getElem?_eq_some_iff.1 hsent).1]
  exact hsent

end Traffic

namespace Client

variable (client : Client) {later : Traffic}

/-- The servers after one more request. -/
def asked (traffic : Traffic) (url : Url) : Traffic :=
  { traffic with sent := traffic.sent ++ [⟨url, client.agent⟩] }

theorem follow_run (redirects : Nat) (url : Url) (traffic : Traffic) :
    (client.follow redirects url).run traffic =
      if !url.isHttp then (.error (about "builder error" url), traffic)
      else
        match traffic.reply traffic.sent.length url with
        | .unreachable | .dropped =>
          (.error (about "error sending request" url), client.asked traffic url)
        | .answer status location body isWhole =>
          match (location.filter fun _ => isRedirect status).bind url.resolve? with
          | none => (.ok (status, body, isWhole), client.asked traffic url)
          | some next =>
            match redirects with
            | 0 => (.error (about "error following redirect" url), client.asked traffic url)
            | redirects + 1 => (client.follow redirects next).run (client.asked traffic url) := by
  conv => lhs; rw [follow.eq_def]
  split
  · rfl
  · simp only [exchange, StateT.run_bind, StateT.run_get, StateT.run_set, StateT.run_pure,
      pure_bind]
    cases traffic.reply traffic.sent.length url with
    | unreachable => rfl
    | dropped => rfl
    | answer status location body isWhole =>
      dsimp only
      cases (location.filter fun _ => isRedirect status).bind url.resolve? with
      | none => rfl
      | some next => cases redirects <;> rfl

/-- An answer to a request, also if it came after redirects. -/
theorem follow_answered {redirects : Nat} {url : Url} {traffic : Traffic}
    {answer : Except String (Nat × Files.Content × Bool)}
    (h : (client.follow redirects url).run traffic = (answer, later)) :
    traffic.Grows later ∧ ∀ status body isWhole, answer = .ok (status, body, isWhole) →
      ∃ count request location, traffic.sent.length ≤ count ∧
        later.sent[count]? = some request ∧
          later.reply count request.url = .answer status location body isWhole := by
  induction redirects using Nat.strongRecOn generalizing url traffic with
  | ind redirects ih =>
    have hasked : traffic.Grows (client.asked traffic url) := .sent_append traffic _
    rw [follow_run] at h
    split at h
    · cases h
      exact ⟨.refl _, by simp⟩
    · split at h
      · cases h
        exact ⟨hasked, by simp⟩
      · cases h
        exact ⟨hasked, by simp⟩
      · next reply status location body isWhole hreply =>
        split at h
        · cases h
          refine ⟨hasked, fun status' body' isWhole' heq => ?_⟩
          cases heq
          exact ⟨traffic.sent.length, ⟨url, client.agent⟩, location, Nat.le_refl _,
            by simp [asked], hreply⟩
        · split at h
          · cases h
            exact ⟨hasked, by simp⟩
          · obtain ⟨hgrows, hanswer⟩ := ih _ (Nat.lt_succ_self _) h
            refine ⟨hasked.trans hgrows, fun status' body' isWhole' heq => ?_⟩
            obtain ⟨count, request, location', hcount, hsent, hreply'⟩ := hanswer _ _ _ heq
            refine ⟨count, request, location', ?_, hsent, hreply'⟩
            simp only [asked, List.length_append] at hcount
            omega

/-- What a download returns was delivered to it. -/
theorem download_delivered {text : String} {traffic : Traffic}
    {answer : Except LoadError Files.Content}
    (h : (client.download text).run traffic = (answer, later)) :
    traffic.Grows later ∧
      ∀ body, answer = .ok body → later.Delivered traffic.sent.length body := by
  unfold download get at h
  cases hparse : Url.parse? text with
  | none =>
    simp only [hparse] at h
    cases h
    exact ⟨.refl _, by simp⟩
  | some url =>
    simp only [hparse, StateT.run_bind] at h
    generalize hfollow : (client.follow client.maxRedirects url).run traffic = found at h
    obtain ⟨found, middle⟩ := found
    obtain ⟨hgrows, hanswer⟩ := client.follow_answered hfollow
    cases found with
    | error message =>
      cases h
      exact ⟨hgrows, by simp⟩
    | ok reply =>
      obtain ⟨status, body, isWhole⟩ := reply
      obtain ⟨count, request, location, hcount, hsent, hreply⟩ := hanswer _ _ _ rfl
      dsimp only [bind] at h
      split at h
      · cases h
        exact ⟨hgrows, by simp⟩
      · next hstatus =>
        split at h
        · cases h
          exact ⟨hgrows, by simp⟩
        · next hwhole =>
          cases h
          refine ⟨hgrows, fun body' heq => ?_⟩
          cases heq
          simp only [Bool.not_eq_true', Bool.not_eq_false] at hstatus hwhole
          exact ⟨count, request, status, location, hcount, hsent, hwhole ▸ hreply, hstatus⟩

/-- A whole body that a server sends at once is returned. -/
theorem download_answered {text : String} {url : Url} {traffic : Traffic} {body : Files.Content}
    (hparse : Url.parse? text = some url) (hhttp : url.isHttp = true)
    (hreply : traffic.reply traffic.sent.length url = .answer 200 none body true) :
    (client.download text).run traffic = (.ok body, client.asked traffic url) := by
  have hfollow : (client.follow client.maxRedirects url).run traffic =
      (.ok (200, body, true), client.asked traffic url) := by
    rw [follow_run, hhttp, hreply]
    rfl
  unfold download get
  simp only [hparse, StateT.run_bind]
  rw [hfollow]
  rfl

/-- A connection that a server breaks, or that cannot be made, is an error. -/
theorem download_unanswered {text : String} {url : Url} {traffic : Traffic}
    (hparse : Url.parse? text = some url) (hhttp : url.isHttp = true)
    (hreply : traffic.reply traffic.sent.length url = .dropped ∨
      traffic.reply traffic.sent.length url = .unreachable) :
    (client.download text).run traffic =
      (.error (.fetch text (about "error sending request" url)), client.asked traffic url) := by
  have hfollow : (client.follow client.maxRedirects url).run traffic =
      (.error (about "error sending request" url), client.asked traffic url) := by
    rw [follow_run, hhttp]
    obtain hdropped | hunreachable := hreply
    · rw [hdropped]
      rfl
    · rw [hunreachable]
      rfl
  unfold download get
  simp only [hparse, StateT.run_bind]
  rw [hfollow]
  rfl

end Client

end Sandbox.Http
