import ShaderTools.Proofs.SetupRequests

/-!
Which answers a download takes an archive from. Requests settle at the answer to the last one of
them, and the archive is the whole body of that answer, unless the answer blames the client or the
server. An answer that neither blames anyone nor tells of success counts as one that does.
-/

namespace ShaderTools.Proofs.AcceptedAnswers

open ShaderTools.Http
open ShaderTools.Download
open ShaderTools.Proofs.SetupAttempts
open ShaderTools.Proofs.SetupRequests

section Exchanges

/-- An answer that ends an exchange. -/
structure IsFinal (r : Response) : Prop where
  low : 100 ≤ r.status
  high : r.status ≤ 999
  reason : ∀ c ∈ r.reason, Response.isReasonCharacter c = true
  ends : r.isInformational = false

theorem bind_final_eq_ok_iff {answer : Except Silence Response} {response : Response} :
    answer.bind Response.final = .ok response ↔ answer = .ok response ∧ IsFinal response := by
  constructor
  · intro h
    obtain rfl := eq_of_bind_final h
    refine ⟨rfl, ?_⟩
    simp only [Except.bind, Response.final] at h
    split at h
    · simp at h
    · next hrange =>
        split at h
        · simp at h
        · next hends =>
            obtain ⟨hlow, hhigh, hreason⟩ : ¬response.status < 100 ∧ ¬999 < response.status ∧
                ∀ c ∈ response.reason, Response.isReasonCharacter c = true := by
              simpa [not_or] using hrange
            exact ⟨by omega, by omega, hreason, by simpa using hends⟩
  · rintro ⟨rfl, hlow, hhigh, hreason, hends⟩
    have hrange : ¬(response.status < 100 ∨ 999 < response.status ∨
        response.reason.any (!Response.isReasonCharacter ·) = true) := by
      simp only [List.any_eq_true, not_or, not_exists, not_and]
      exact ⟨by omega, by omega, fun c hc => by simp [hreason c hc]⟩
    rw [Except.bind, Response.final, if_neg hrange, hends]
    rfl

/-- Requests from a place on, after earlier ones, come to an answer that leads no further, while at
most `left` redirections are followed. -/
inductive Settles (server : Server) :
    (left : Nat) → List Request → Download.Place → List Request → Url → Response → Prop where
  | final {left : Nat} {before : List Request} {place : Download.Place} {response : Response}
      (hanswer : server (before ++ [.get place.url place.target]) = .ok response)
      (hfinal : IsFinal response) (hstays : redirection? place response = none) :
      Settles server left before place (before ++ [.get place.url place.target]) place.url response
  | redirected {left : Nat} {before made : List Request} {place next : Download.Place}
      {response last : Response} {reference : Reference} {url : Url}
      (hanswer : server (before ++ [.get place.url place.target]) = .ok response)
      (hfinal : IsFinal response) (hleads : redirection? place response = some reference)
      (hnext : Download.Place.ofReference reference = .ok next)
      (hsupported : Url.isSupported next.url.scheme = true)
      (hrest : Settles server left (before ++ [.get place.url place.target]) next made url last) :
      Settles server (left + 1) before place made url last

variable {server : Server} {before made : List Request} {place : Download.Place} {url : Url}
  {response : Response} {left : Nat}

/-- The answer that requests settle at is the one to the last of them. -/
theorem Settles.answer (h : Settles server left before place made url response) :
    server made = .ok response ∧ IsFinal response := by
  induction h with
  | final hanswer hfinal hstays => exact ⟨hanswer, hfinal⟩
  | redirected hanswer hfinal hleads hnext hsupported hrest ih => exact ih

theorem Settles.run_follow (asked : Url) {w : World}
    (h : Settles w.server left w.requests place made url response) :
    ((follow asked left place).run w).1 = .ok (url, response) ∧
      ((follow asked left place).run w).2.requests = made := by
  generalize hserver : w.server = server at h
  generalize hbefore : w.requests = before at h
  induction h generalizing w with
  | @final left before place response hanswer hfinal hstays =>
      have hbind : (Except.ok response : Except Silence Response).bind Response.final =
          .ok response := bind_final_eq_ok_iff.mpr ⟨rfl, hfinal⟩
      subst hserver hbefore
      cases left <;>
        (rw [follow, Script.run]; simp [World.request, hanswer, hbind, hstays])
  | @redirected left before made place next response last reference url hanswer hfinal hleads hnext
      hsupported hrest ih =>
      have hbind : (Except.ok response : Except Silence Response).bind Response.final =
          .ok response := bind_final_eq_ok_iff.mpr ⟨rfl, hfinal⟩
      subst hserver hbefore
      have hmade := ih (w := (w.request (.get place.url place.target)).2) rfl rfl
      rw [follow, Script.run]
      simpa [World.request, hanswer, hbind, hleads, hnext, hsupported] using hmade

theorem settles_of_run_follow (asked : Url) (left : Nat) (place : Download.Place) {w : World}
    (h : ((follow asked left place).run w).1 = .ok (url, response)) :
    Settles w.server left w.requests place ((follow asked left place).run w).2.requests url
      response := by
  induction left generalizing place w with
  | zero =>
      rw [follow, Script.run] at h ⊢
      simp only [World.request] at h ⊢
      split at h
      · simp at h
      · next found hfound =>
          obtain ⟨hanswer, hfinal⟩ := bind_final_eq_ok_iff.mp hfound
          split at h
          · next hstays =>
              obtain ⟨rfl, rfl⟩ : place.url = url ∧ found = response := by simpa using h
              exact .final hanswer hfinal hstays
          · split at h <;> simp at h
  | succ left ih =>
      rw [follow, Script.run] at h ⊢
      simp only [World.request] at h ⊢
      split at h
      · simp at h
      · next found hfound =>
          obtain ⟨hanswer, hfinal⟩ := bind_final_eq_ok_iff.mp hfound
          split at h
          · next hstays =>
              obtain ⟨rfl, rfl⟩ : place.url = url ∧ found = response := by simpa using h
              exact .final hanswer hfinal hstays
          · next reference hleads =>
              split at h
              · simp at h
              · next next hnext =>
                  split at h
                  · next hsupported =>
                      rw [if_pos hsupported]
                      exact .redirected hanswer hfinal hleads hnext hsupported (ih next h)
                  · simp at h

end Exchanges

section Downloads

/-- A download of what lies at an address comes to an answer. -/
structure Answered (server : Server) (before : List Request) (address : Text)
    (made : List Request) (url : Url) (response : Response) : Prop where
  settles : ∃ u, Url.ofText address = .ok u ∧
    Url.isSupported u.withoutLogin.scheme = true ∧ u.withoutLogin.isAskable = true ∧
    Settles server redirectionLimit before (.ofUrl u.withoutLogin) made url response

variable {address : Text} {bytes : Bytes} {made : List Request} {url : Url} {response : Response}
  {w : World}

theorem Answered.answer {server : Server} {before : List Request}
    (h : Answered server before address made url response) :
    server made = .ok response ∧ IsFinal response := by
  obtain ⟨u, -, -, -, hsettles⟩ := h.settles
  exact hsettles.answer

/-- What a download gives is what the answer that it comes to is worth. -/
theorem Answered.run_download (h : Answered w.server w.requests address made url response) :
    ((download address).run w).1 = archiveOf address url response ∧
      ((download address).run w).2.requests = made := by
  obtain ⟨u, hu, hsupported, haskable, hsettles⟩ := h.settles
  obtain ⟨hfollow, hmade⟩ := hsettles.run_follow u.withoutLogin
  rw [ShaderTools.run_download]
  simp only [fetch, hu, hsupported, haskable, Bool.not_true, Bool.false_eq_true, if_false,
    Script.run_bind, hfollow]
  exact ⟨rfl, hmade⟩

theorem answered_of_run_download (h : ((download address).run w).1 = .ok bytes) :
    ∃ url response, Answered w.server w.requests address ((download address).run w).2.requests url
      response ∧ archiveOf address url response = .ok bytes := by
  rw [run_download] at h ⊢
  unfold fetch at h ⊢
  split at h
  · simp at h
  · next u hu =>
      simp only at h ⊢
      split at h
      · simp at h
      · next hsupported =>
          split at h
          · simp at h
          · next haskable =>
              rw [if_neg hsupported, if_neg haskable]
              rw [Script.run_bind] at h ⊢
              split at h
              · simp at h
              · next url response hfollow =>
                  have hsettles := settles_of_run_follow _ _ _ hfollow
                  exact ⟨url, response, ⟨u, hu, by simpa using hsupported, by simpa using haskable,
                    hsettles⟩, h⟩

/-- An answer is worth its whole body, if that is not empty and nobody is blamed. -/
theorem archiveOf_eq_ok_iff :
    archiveOf address url response = .ok bytes ↔
      response.isClientError = false ∧ response.isServerError = false ∧
        response.body? = some bytes ∧ bytes ≠ [] := by
  unfold archiveOf
  split
  · next hblames =>
      rw [Bool.or_eq_true] at hblames
      rcases hblames with hblames | hblames <;> simp [hblames]
  · next hblames =>
      rw [Bool.or_eq_true, not_or, Bool.not_eq_true, Bool.not_eq_true] at hblames
      simp only [hblames.1, hblames.2, true_and]
      split
      · next hbody => simp [hbody]
      · next hbody =>
          simp only [hbody, Option.some.injEq, reduceCtorEq, false_iff, not_and, not_not]
          exact fun hnil => hnil.symm
      · next found hempty hbody =>
          simp only [hbody, Except.ok.injEq, Option.some.injEq]
          constructor
          · rintro rfl
            exact ⟨rfl, hempty⟩
          · exact And.left

/-- The statuses of answers that a download takes an archive from. -/
structure IsAccepted (status : Nat) : Prop where
  range : (200 ≤ status ∧ status < 400) ∨ (600 ≤ status ∧ status < 1000)
  body : status ≠ 204 ∧ status ≠ 304

theorem isAccepted_of_body (hfinal : IsFinal response) (hclient : response.isClientError = false)
    (hserver : response.isServerError = false) (hbody : response.body? = some bytes)
    (hbytes : bytes ≠ []) : IsAccepted response.status := by
  have hbodiless : response.isBodiless = false := by
    rw [Bool.eq_false_iff]
    intro hbodiless
    simp only [Response.body?, hbodiless, if_true, Option.some.injEq] at hbody
    exact hbytes hbody.symm
  obtain ⟨hlow, hhigh, -, hends⟩ := hfinal
  simp only [Response.isInformational, Response.isClientError, Response.isServerError,
    Response.isBodiless, Bool.and_eq_false_iff, decide_eq_false_iff_not, List.mem_cons,
    List.not_mem_nil, or_false] at hends hclient hserver hbodiless
  exact ⟨by omega, by omega⟩

/-- A download takes an archive from the answer that it comes to if that blames nobody and has a
body that is whole and not empty, be it one of success or not. What a download has not taken is not
handed on to be installed. -/
theorem download_takes [Archive.Decoders] (address : Text) (w : World) :
    (∀ bytes, ((download address).run w).1 = .ok bytes ↔
      ∃ made url response, Answered w.server w.requests address made url response ∧
        response.isClientError = false ∧ response.isServerError = false ∧
        response.body? = some bytes ∧ bytes ≠ []) ∧
    (∀ bytes, ((download address).run w).1 = .ok bytes →
      ∃ response, w.server ((download address).run w).2.requests = .ok response ∧
        response.body? = some bytes ∧ IsAccepted response.status) ∧
    ∀ (p : Platform) (base : Text) (destination : Path) (error : Download.Error),
      p.archiveUrl base = address → ((download address).run w).1 = .error error →
        ((Setup.forPlatform p base destination).run w).1 = .error (.download error) ∧
          ((Setup.forPlatform p base destination).run w).2.files = w.files := by
  refine ⟨fun bytes => ⟨?_, ?_⟩, ?_, ?_⟩
  · intro h
    obtain ⟨url, response, hanswered, harchive⟩ := answered_of_run_download h
    exact ⟨_, url, response, hanswered, archiveOf_eq_ok_iff.mp harchive⟩
  · rintro ⟨made, url, response, hanswered, harchive⟩
    rw [hanswered.run_download.1]
    exact archiveOf_eq_ok_iff.mpr harchive
  · intro bytes h
    obtain ⟨url, response, hanswered, harchive⟩ := answered_of_run_download h
    obtain ⟨hclient, hserver, hbody, hbytes⟩ := archiveOf_eq_ok_iff.mp harchive
    obtain ⟨hanswer, hfinal⟩ := hanswered.answer
    exact ⟨response, hanswer, hbody, isAccepted_of_body hfinal hclient hserver hbody hbytes⟩
  · rintro p base destination error rfl herror
    rw [run_forPlatform_of_error herror]
    exact ⟨rfl, files_download _ w⟩

section Samples

attribute [local instance] Archive.Decoders.absent

/-- A world whose server sends whoever asks first to another place. -/
def movedWorld : World :=
  ⟨fun made => .ok
    (if made.length = 1 then ⟨302, [], [("Location".toList, "/b".toList)], 0, []⟩
      else ⟨200, [], [], 1, [80]⟩), ⟨[], []⟩, [], [], [], []⟩

theorem download_takes_moved :
    ((download "http://mirror/a".toList).run movedWorld).2.requests.length = 2 ∧
      ((download "http://mirror/a".toList).run movedWorld).1 = .ok [80] ∧
      ∃ response, movedWorld.server
          ((download "http://mirror/a".toList).run movedWorld).2.requests = .ok response ∧
        response.body? = some [80] ∧ IsAccepted response.status := by
  have htaken : ((download "http://mirror/a".toList).run movedWorld).1 = .ok [80] := by
    decide +kernel
  exact ⟨by decide +kernel, htaken, (download_takes _ movedWorld).2.1 [80] htaken⟩

/-- A world in which each request is answered in the same way. -/
def worldOf (status : Nat) (headers : List (Text × Text)) : World :=
  ⟨fun _ => .ok ⟨status, [], headers, 1, [80]⟩, ⟨[], []⟩, [], [], [], []⟩

/-- The status is none of success, and yet a download takes an answer with it. -/
def IsTakenAnyway (status : Nat) : Prop :=
  ¬(200 ≤ status ∧ status ≤ 299) ∧
    (worldOf status []).server
        ((download "http://mirror/a".toList).run (worldOf status [])).2.requests =
      .ok ⟨status, [], [], 1, [80]⟩ ∧
    ((download "http://mirror/a".toList).run (worldOf status [])).1 = .ok [80]

/-- An answer with other choices, a redirection to nowhere, and an answer of no known kind are each
taken for an archive. -/
theorem download_takes_choices : IsTakenAnyway 300 ∧ IsTakenAnyway 302 ∧ IsTakenAnyway 600 := by
  unfold IsTakenAnyway
  decide +kernel

end Samples

end Downloads

end ShaderTools.Proofs.AcceptedAnswers
