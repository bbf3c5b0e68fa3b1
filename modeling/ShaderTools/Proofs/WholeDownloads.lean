import ShaderTools.Proofs.AcceptedAnswers

/-!
Downloads take whole bodies only. The body of the answer that requests settle at is delimited by the
length that it announces, if its status lets it have a body; a download of fewer bytes fails, one of
no bytes tells which address was asked for, and any other gives the body as it was sent.
-/

namespace ShaderTools.Proofs.WholeDownloads

open ShaderTools.Http
open ShaderTools.Download
open ShaderTools.Proofs.AcceptedAnswers

section Bodies

/-- How long the body of a final answer is. -/
def bodyLength (r : Response) : Nat :=
  if r.status < 200 ∨ r.status = 204 ∨ r.status = 304 then 0 else r.announced

/-- The answer blames the client or the server. -/
def Blames (r : Response) : Prop := 400 ≤ r.status ∧ r.status < 600

instance (r : Response) : Decidable (Blames r) := inferInstanceAs (Decidable (_ ∧ _))

variable {address : Text} {url : Url} {response : Response}

theorem isBodiless_iff (h : IsFinal response) :
    response.isBodiless = true ↔
      response.status < 200 ∨ response.status = 204 ∨ response.status = 304 := by
  obtain ⟨hlow, -, -, hends⟩ := h
  simp only [Response.isInformational, Bool.and_eq_false_iff, decide_eq_false_iff_not] at hends
  simp only [Response.isBodiless, List.mem_cons, List.not_mem_nil, or_false, decide_eq_true_eq]
  omega

theorem body?_eq (h : IsFinal response) :
    response.body? =
      if response.sent.length < bodyLength response then none
      else some (response.sent.take (bodyLength response)) := by
  unfold Response.body? bodyLength
  rw [if_congr (isBodiless_iff h) rfl rfl]
  split
  · rw [if_neg (Nat.not_lt_zero _), List.take_zero]
  · rfl

theorem blames_iff (response : Response) :
    (response.isClientError || response.isServerError) = true ↔ Blames response := by
  simp only [Response.isClientError, Response.isServerError, Blames, Bool.or_eq_true,
    Bool.and_eq_true, decide_eq_true_eq]
  omega

/-- What an answer is worth, by the length of its body and by what was sent. -/
theorem archiveOf_eq (h : IsFinal response) :
    archiveOf address url response =
      if Blames response then .error (.http (.refused response url))
      else if response.sent.length < bodyLength response then .error (.http .cutShort)
      else if bodyLength response = 0 then .error (.emptyBody address)
      else .ok (response.sent.take (bodyLength response)) := by
  unfold archiveOf
  rw [if_congr (blames_iff response) rfl rfl, body?_eq h]
  split
  · rfl
  · by_cases hshort : response.sent.length < bodyLength response
    · rw [if_pos hshort, if_pos hshort]
    · rw [if_neg hshort, if_neg hshort]
      have hlength : (response.sent.take (bodyLength response)).length = bodyLength response := by
        rw [List.length_take]
        omega
      cases hbody : response.sent.take (bodyLength response) with
      | nil =>
          have hzero : bodyLength response = 0 := by simpa [hbody] using hlength.symm
          rw [if_pos hzero]
      | cons byte rest =>
          have hpositive : bodyLength response ≠ 0 := by
            intro hzero
            simp [hzero] at hbody
          rw [if_neg hpositive]

theorem exists_error_of_short (h : IsFinal response)
    (hshort : response.sent.length < bodyLength response) :
    ∃ e, archiveOf address url response = .error (.http e) := by
  rw [archiveOf_eq h]
  by_cases hblames : Blames response
  · exact ⟨_, if_pos hblames⟩
  · rw [if_neg hblames, if_pos hshort]
    exact ⟨_, rfl⟩

theorem whole_of_archiveOf_eq_ok (h : IsFinal response) {bytes : Bytes}
    (hbytes : archiveOf address url response = .ok bytes) :
    bytes ≠ [] ∧ bytes.length = bodyLength response ∧
      bytes = response.sent.take (bodyLength response) := by
  obtain ⟨-, -, hbody, hfilled⟩ := archiveOf_eq_ok_iff.mp hbytes
  rw [body?_eq h] at hbody
  split at hbody
  · simp at hbody
  · next hwhole =>
      obtain rfl := Option.some.inj hbody
      refine ⟨hfilled, ?_, rfl⟩
      rw [List.length_take]
      omega

theorem archiveOf_eq_emptyBody_iff (h : IsFinal response) {asked : Text} :
    archiveOf address url response = .error (.emptyBody asked) ↔
      asked = address ∧ ¬Blames response ∧ bodyLength response = 0 := by
  rw [archiveOf_eq h]
  split
  · next hblames => simp [hblames]
  · next hblames =>
      split
      · next hshort =>
          have hlength : bodyLength response ≠ 0 := by omega
          simp [hlength]
      · split
        · next hlength => simp [hblames, hlength, eq_comm]
        · next hlength => simp [hlength]

end Bodies

section Downloads

variable {address : Text} {w : World}

/-- A download comes to an answer, or tells of an error on the way to one. -/
theorem exists_error_or_answered (address : Text) (w : World) :
    (∃ e, ((download address).run w).1 = .error (.http e)) ∨
      ∃ made url response, Answered w.server w.requests address made url response := by
  rw [run_download]
  unfold fetch
  split
  · exact .inl ⟨_, rfl⟩
  · next u hu =>
      simp only
      split
      · exact .inl ⟨_, rfl⟩
      · next hsupported =>
          split
          · exact .inl ⟨_, rfl⟩
          · next haskable =>
              rw [Script.run_bind]
              split
              · exact .inl ⟨_, rfl⟩
              · next url response hfollow =>
                  refine .inr ⟨_, url, response, u, hu, ?_, ?_, settles_of_run_follow _ _ _ hfollow⟩
                  · simpa using hsupported
                  · simpa using haskable

/-- Where a download comes to an answer, a body that is cut short is an error; bytes that it gives
are the whole body, which is not empty; and it tells of an empty body, by the address that was asked
for, if the answer has one and blames nobody. Where it comes to none, it tells why. -/
theorem download_whole (address : Text) (w : World) :
    let result := ((download address).run w).1
    (∀ made url response, Answered w.server w.requests address made url response →
      (response.sent.length < bodyLength response → ∃ e, result = .error (.http e)) ∧
      (∀ bytes, result = .ok bytes →
        bytes ≠ [] ∧ bytes.length = bodyLength response ∧
          bytes = response.sent.take (bodyLength response)) ∧
      ∀ asked, result = .error (.emptyBody asked) ↔
        asked = address ∧ ¬Blames response ∧ bodyLength response = 0) ∧
    ((∀ made url response, ¬Answered w.server w.requests address made url response) →
      ∃ e, result = .error (.http e)) := by
  intro result
  constructor
  · intro made url response hanswered
    have hresult : result = _ := hanswered.run_download.1
    have hfinal : IsFinal response := hanswered.answer.2
    rw [hresult]
    exact ⟨exists_error_of_short hfinal, fun _ => whole_of_archiveOf_eq_ok hfinal,
      fun _ => archiveOf_eq_emptyBody_iff hfinal⟩
  · intro hnone
    rcases exists_error_or_answered address w with herror | ⟨made, url, response, hanswered⟩
    · exact herror
    · exact absurd hanswered (hnone made url response)

/-- A world whose server sends whoever asks first to another place, where it announces more than it
sends. -/
def interruptedWorld : World :=
  ⟨fun made => .ok
    (if made.length = 1 then ⟨302, [], [("Location".toList, "/b".toList)], 0, []⟩
      else ⟨200, [], [], 3, [80]⟩), ⟨[], []⟩, [], [], [], []⟩

theorem download_whole_interrupted :
    (∃ made url, Answered interruptedWorld.server [] "http://mirror/a".toList made url
        ⟨200, [], [], 3, [80]⟩) ∧
      ∃ e, ((download "http://mirror/a".toList).run interruptedWorld).1 = .error (.http e) := by
  let asked : Url := ⟨"http".toList, [], some "mirror".toList, none, "/a".toList, none, none⟩
  let final : Url := ⟨"http".toList, [], some "mirror".toList, none, "/b".toList, none, none⟩
  have hfollow : ((follow asked redirectionLimit (.ofUrl asked)).run interruptedWorld).1 =
      .ok (final, ⟨200, [], [], 3, [80]⟩) := by decide +kernel
  have hanswered : Answered interruptedWorld.server [] "http://mirror/a".toList _ final
      ⟨200, [], [], 3, [80]⟩ :=
    ⟨asked, by decide +kernel, by decide +kernel, by decide +kernel,
      settles_of_run_follow asked _ _ hfollow⟩
  exact ⟨⟨_, _, hanswered⟩,
    ((download_whole "http://mirror/a".toList interruptedWorld).1 _ _ _ hanswered).1 (by decide)⟩

end Downloads

end ShaderTools.Proofs.WholeDownloads
