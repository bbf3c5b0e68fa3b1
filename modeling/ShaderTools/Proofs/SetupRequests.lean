import ShaderTools.Proofs.SetupAttempts

/-!
What setting up the validator asks servers for, and when it touches files. Requests form a trail:
the first one is for the archive's address, and each further one follows a redirection. Files change
only once an archive has arrived whole and its entry can be read.
-/

namespace ShaderTools.Proofs.SetupRequests

open ShaderTools.Http
open ShaderTools.Proofs.SetupAttempts

section Trails

/-- Requests of which each one but the last is answered with a redirection, after some earlier
ones. -/
inductive Trail (server : Server) : List Request → List Request → Prop where
  | last (before : List Request) (r : Request) : Trail server before [r]
  | redirected {before : List Request} {r : Request} {response : Response} {rest : List Request}
      (hanswer : server (before ++ [r]) = .ok response)
      (hredirection : response.isRedirection = true)
      (hrest : Trail server (before ++ [r]) rest) : Trail server before (r :: rest)

/-- What may be asked for on behalf of an address. -/
structure Asks (server : Server) (before : List Request) (address : Text) (made : List Request) :
    Prop where
  gets : ∀ r ∈ made, r.method = "GET".toList
  first : ∀ r, made.head? = some r → ∃ u, Url.ofText address = .ok u ∧
    r.target = u.target ∧ r.host = u.host?.getD [] ∧ r.port = u.port
  asked : ∀ u, Url.ofText address = .ok u → Url.isSupported u.scheme = true →
    u.withoutLogin.isAskable = true → made ≠ []
  trail : made = [] ∨ Trail server before made

theorem isRedirection_of_redirection? {place : Download.Place} {response : Response}
    {reference : Reference} (h : Download.redirection? place response = some reference) :
    response.isRedirection = true := by
  unfold Download.redirection? at h
  split at h
  · assumption
  · simp at h

theorem eq_of_bind_final {answer : Except Silence Response} {response : Response}
    (h : answer.bind Response.final = .ok response) : answer = .ok response := by
  cases answer with
  | error silence => simp [Except.bind] at h
  | ok received =>
      simp only [Except.bind, Response.final] at h
      split at h
      · simp at h
      · split at h
        · simp at h
        · exact h

/-- Following redirections makes a trail of requests that starts at the place asked for. -/
theorem exists_trail_follow (asked : Url) (redirections : Nat) (place : Download.Place)
    (w : World) :
    ∃ rest, ((Download.follow asked redirections place).run w).2.requests =
        w.requests ++ Request.get place.url place.target :: rest ∧
      (∀ r ∈ rest, r.method = "GET".toList) ∧
      Trail w.server w.requests (Request.get place.url place.target :: rest) := by
  have hstop : ∀ (place : Download.Place) (w : World), ∃ rest,
      w.requests ++ [Request.get place.url place.target] =
          w.requests ++ Request.get place.url place.target :: rest ∧
        (∀ r ∈ rest, r.method = "GET".toList) ∧
        Trail w.server w.requests (Request.get place.url place.target :: rest) :=
    fun place w => ⟨[], rfl, by simp, .last w.requests _⟩
  induction redirections generalizing place w with
  | zero =>
      rw [Download.follow, Script.run]
      split
      · exact hstop place w
      · split
        · exact hstop place w
        · split <;> exact hstop place w
  | succ redirections ih =>
      rw [Download.follow, Script.run]
      split
      · exact hstop place w
      · next response hresponse =>
          split
          · exact hstop place w
          · next reference hreference =>
              split
              · exact hstop place w
              · next following hfollowing =>
                  simp only
                  split
                  · obtain ⟨rest, hrequests, hgets, htrail⟩ := ih following
                      (w.request (Request.get place.url place.target)).2
                    refine ⟨Request.get following.url following.target :: rest, ?_, ?_, ?_⟩
                    · rw [hrequests]
                      simp [World.request]
                    · intro r hr
                      rcases List.mem_cons.mp hr with rfl | hr
                      · rfl
                      · exact hgets r hr
                    · exact .redirected (eq_of_bind_final hresponse)
                        (isRedirection_of_redirection? hreference) htrail
                  · exact hstop place w

theorem target_withoutLogin (u : Url) : u.withoutLogin.target = u.target ∧
    u.withoutLogin.host? = u.host? ∧ u.withoutLogin.port = u.port ∧
    u.withoutLogin.scheme = u.scheme := by
  unfold Url.withoutLogin
  simp only
  split <;> exact ⟨rfl, rfl, rfl, rfl⟩

theorem exists_asks_download (address : Text) (w : World) :
    ∃ made, ((download address).run w).2.requests = w.requests ++ made ∧
      Asks w.server w.requests address made := by
  have hnone : (∀ u, Url.ofText address = .ok u → Url.isSupported u.scheme = true →
      u.withoutLogin.isAskable = false) → ∃ made, w.requests = w.requests ++ made ∧
        Asks w.server w.requests address made := by
    intro hunaskable
    refine ⟨[], (List.append_nil _).symm, by simp, by simp, ?_, Or.inl rfl⟩
    intro u hu hscheme haskable
    rw [hunaskable u hu hscheme] at haskable
    simp at haskable
  rw [run_download]
  unfold Download.fetch
  split
  · next fault hfault => exact hnone (by simp [hfault])
  · next u hu =>
      obtain ⟨htarget, hhost, hport, hscheme⟩ := target_withoutLogin u
      simp only [hscheme]
      split
      · next hunsupported =>
          apply hnone
          simp_all
      · split
        · next hunaskable =>
            apply hnone
            simp_all
        · rw [Script.run_bind]
          obtain ⟨rest, hrequests, hgets, htrail⟩ := exists_trail_follow u.withoutLogin
            Download.redirectionLimit (.ofUrl u.withoutLogin) w
          refine ⟨_ :: rest, ?_, ?_, ?_, by simp, Or.inr htrail⟩
          · split <;> exact hrequests
          · intro r hr
            rcases List.mem_cons.mp hr with rfl | hr
            · rfl
            · exact hgets r hr
          · intro r hr
            obtain rfl := Option.some.inj hr
            refine ⟨u, hu, htarget, ?_, hport⟩
            simp [Request.get, Download.Place.ofUrl, Url.withoutFragment, hhost]

end Trails

section Atomicity

variable {archive : Bytes} {p : Platform} {destination : Path} {fs after : FileSystem}
  {error : Install.Error}

/-- What fails while the steps of an installation are carried out is the writing of files. -/
theorem exists_writing_of_performAll {steps : List Install.Step}
    (h : Install.performAll steps fs = .error error after) :
    ∃ fault, error = .writing fault := by
  induction steps generalizing fs with
  | nil => simp [Install.performAll, pure, EStateM.pure] at h
  | cons step rest ih =>
      simp only [Install.performAll, bind, EStateM.bind] at h
      cases hstep : step.perform fs with
      | ok value now =>
          rw [hstep] at h
          exact ih h
      | error found now =>
          rw [hstep] at h
          obtain ⟨rfl, rfl⟩ := EStateM.Result.error.inj h
          cases step with
          | fault fault =>
              have hthrown : EStateM.Result.error (Install.Error.writing (.faulty fault)) fs =
                .error found now := hstep
              exact ⟨_, (EStateM.Result.error.inj hthrown).1.symm⟩
          | change change =>
              simp only [Install.Step.perform, FileAction.mapError] at hstep
              split at hstep
              · simp at hstep
              · exact ⟨_, (EStateM.Result.error.inj hstep).1.symm⟩

variable [Archive.Decoders]

/-- An installation that fails otherwise than in writing files fails before it writes any. -/
theorem select_of_action_eq_error {name : Text}
    (h : Install.action archive name destination fs = .error error after)
    (hwriting : ∀ fault, error ≠ .writing fault) :
    Install.select archive name = .error error ∧ after = fs := by
  cases hselect : Install.select archive name with
  | error found =>
      rw [Install.action_of_not_select hselect] at h
      obtain ⟨rfl, rfl⟩ := EStateM.Result.error.inj h
      exact ⟨rfl, rfl⟩
  | ok selected =>
      rw [Install.action_of_select hselect] at h
      simp only at h
      split at h
      · split at h
        · simp at h
        · obtain ⟨rfl, rfl⟩ := EStateM.Result.error.inj h
          exact absurd rfl (hwriting _)
      · next found now hperform =>
          obtain ⟨rfl, rfl⟩ := EStateM.Result.error.inj h
          obtain ⟨fault, hfault⟩ := exists_writing_of_performAll hperform
          exact absurd hfault (hwriting fault)

/-- The name of a platform's entry stands for a file below the directory. -/
theorem select_entryName_ne_invalidPath (archive : Bytes) (p : Platform) (name : Text) :
    Install.select archive p.entryName ≠ .error (.invalidPath name) := by
  have henclosed : Install.enclosed? p.entryName = some p.entryName := by cases p <;> decide
  have hfileName : Path.fileName? p.entryName = some p.fileName := by cases p <;> decide
  unfold Install.select
  cases Archive.entries archive with
  | error found => simp [Except.mapError, bind, Except.bind]
  | ok entries =>
      simp only [Except.mapError, bind, Except.bind]
      cases Archive.entryNamed? p.entryName entries with
      | none => simp [throw, throwThe, MonadExceptOf.throw]
      | some entry =>
          simp only
          cases entry.payload archive with
          | error found => simp
          | ok payload => simp [henclosed, hfileName, pure, Except.pure]

end Atomicity

section Pipeline

variable [Archive.Decoders] {p : Platform} {base : Text} {destination : Path} {w : World}

/-- What setting up the validator for a platform may ask for, and when it may change files. -/
structure Pipeline (p : Platform) (base : Text) (destination : Path) (w : World)
    (result : Except Setup.Error Path × World) : Prop where
  asks : ∃ made, result.2.requests = w.requests ++ made ∧
    Asks w.server w.requests (p.archiveUrl base) made
  selected : ∀ error, result.1 ≠ .error (.selection error)
  notDownloaded : ∀ error, result.1 = .error (.download error) → result.2.files = w.files
  unreadable : ∀ error, result.1 = .error (.install (.archive error)) → result.2.files = w.files
  missing : ∀ name, result.1 = .error (.install (.missingEntry name)) → result.2.files = w.files
  enclosed : ∀ name, result.1 ≠ .error (.install (.invalidPath name))
  installed : ∀ path, result.1 = .ok path → ∃ archive,
    ((download (p.archiveUrl base)).run w).1 = .ok archive ∧
      Install.action archive p.entryName destination w.files = .ok path result.2.files

theorem pipeline_forPlatform (p : Platform) (base : Text) (destination : Path) (w : World) :
    Pipeline p base destination w ((Setup.forPlatform p base destination).run w) := by
  have hasks := exists_asks_download (p.archiveUrl base) w
  cases hdownload : ((download (p.archiveUrl base)).run w).1 with
  | error error =>
      have hfiles := files_download (p.archiveUrl base) w
      rw [run_forPlatform_of_error hdownload]
      -- the world after the download stands for itself from here on
      generalize ((download (p.archiveUrl base)).run w).2 = now at hasks hfiles ⊢
      exact ⟨hasks, by simp, fun _ _ => hfiles, by simp, by simp, by simp, by simp⟩
  | ok archive =>
      rw [run_forPlatform_of_ok hdownload]
      generalize ((download (p.archiveUrl base)).run w).2 = now at hasks ⊢
      cases haction : Install.action archive p.entryName destination w.files with
      | ok path after =>
          refine ⟨hasks, by simp, by simp, by simp, by simp, by simp, ?_⟩
          intro path' hpath
          obtain rfl := Except.ok.inj hpath
          exact ⟨archive, hdownload, haction⟩
      | error error after =>
          have hbefore : (∀ fault, error ≠ .writing fault) →
              Install.select archive p.entryName = .error error ∧ after = w.files :=
            select_of_action_eq_error haction
          refine ⟨hasks, by simp, by simp, ?_, ?_, ?_, by simp⟩
          · rintro found hfound
            obtain rfl : error = .archive found := by simpa using hfound
            exact (hbefore (by simp)).2
          · rintro name hname
            obtain rfl : error = .missingEntry name := by simpa using hname
            exact (hbefore (by simp)).2
          · rintro name hname
            obtain rfl : error = .invalidPath name := by simpa using hname
            exact select_entryName_ne_invalidPath archive p name (hbefore (by simp)).1

/-- A selection that names no platform does nothing at all. Any other one asks for its platform's
archive alone, changes files only once it can read the entry, and succeeds only by installing
that. -/
theorem forSelection_pipeline (selection : Int) (base : Text) (destination : Path) (w : World) :
    (¬(selection = 0 ∨ selection = 1 ∨ selection = 2) →
      ∃ error, (Setup.forSelection selection base destination).run w =
        (.error (.selection error), w)) ∧
    ((selection = 0 ∨ selection = 1 ∨ selection = 2) →
      ∃ p, Platform.ofCode selection = .ok p ∧ p.code = selection ∧
        Pipeline p base destination w
          ((Setup.forSelection selection base destination).run w)) := by
  constructor
  · intro hother
    simp only [not_or] at hother
    obtain ⟨hzero, hone, htwo⟩ := hother
    exact ⟨⟨Text.ofInt selection⟩, by simp [Setup.forSelection, Platform.ofCode, hzero, hone, htwo]⟩
  · rintro (rfl | rfl | rfl)
    · exact ⟨.windows, rfl, rfl, pipeline_forPlatform .windows base destination w⟩
    · exact ⟨.linux, rfl, rfl, pipeline_forPlatform .linux base destination w⟩
    · exact ⟨.osx, rfl, rfl, pipeline_forPlatform .osx base destination w⟩

end Pipeline

end ShaderTools.Proofs.SetupRequests
