import ShaderTools.Proofs.AbsolutePaths
import ShaderTools.Proofs.AcceptedAnswers
import ShaderTools.Proofs.InstallSteps
import ShaderTools.Proofs.PlainTexts
import ShaderTools.Proofs.SetupAttempts
import ShaderTools.Proofs.UsableInstalls

/-!
What a failed setup has to tell, and the path that one tells that has not failed. The system words
its refusals by itself, a server's reason for a status is only taken for one without controls, and
every other text in a failure is fixed, an address or a decoder's own words, so nothing of what
files, archives or servers hold can bring a sequence for a terminal into it unless a decoder does.
-/

namespace ShaderTools.Proofs.PlainFailures

open ShaderTools.FileSystem
open ShaderTools.Http
open ShaderTools.Proofs.AbsolutePaths
open ShaderTools.Proofs.AcceptedAnswers
open ShaderTools.Proofs.InstallSteps
open ShaderTools.Proofs.PlainTexts
open ShaderTools.Proofs.SetupAttempts
open ShaderTools.Proofs.SetupRequests
open ShaderTools.Proofs.UsableInstalls

section Refusals

/-- A failure that is told in fixed words. -/
def IsNamed : Failure → Prop
  | .other _ _ => False
  | _ => True

theorem plain_of_isNamed {failure : Failure} (h : IsNamed failure) : Plain failure.message := by
  have hnumbered : ∀ {words : Text} (number : Nat), Plain words →
      Plain (words ++ " (os error ".toList ++ Text.ofNat number ++ [')']) := by
    intro words number hwords
    simp only [plain_append]
    exact ⟨⟨⟨hwords, plain_literal (by decide)⟩, plain_ofNat number⟩, by decide⟩
  cases failure with
  | other number words => exact h.elim
  | nulInPath => exact plain_literal (by decide)
  | notText => exact plain_literal (by decide)
  | _ => exact hnumbered _ (plain_literal (by decide))

/-- If an operation is refused, it is with a failure that is told in fixed words. -/
def RefusesNamed {α : Type} (x : Except Failure α) : Prop :=
  ∀ failure, x = .error failure → IsNamed failure

variable {α β : Type}

theorem refusesNamed_ok (value : α) : RefusesNamed (.ok value) := fun _ h => nomatch h

theorem refusesNamed_error {failure : Failure} (h : IsNamed failure) :
    RefusesNamed (.error failure : Except Failure α) := by
  rintro found hfound
  obtain rfl := Except.error.inj hfound
  exact h

theorem RefusesNamed.bind {x : Except Failure α} (h : RefusesNamed x)
    {f : α → Except Failure β} (hf : ∀ value, RefusesNamed (f value)) :
    RefusesNamed (x >>= f) := by
  cases x with
  | ok value => exact hf value
  | error failure => exact refusesNamed_error (h failure rfl)

theorem RefusesNamed.ite {p : Prop} [Decidable p] {x y : Except Failure α} (hx : RefusesNamed x)
    (hy : RefusesNamed y) : RefusesNamed (if p then x else y) := by
  split
  · exact hx
  · exact hy

theorem refusesNamed_walkSteps (fs : FileSystem) (last : LastName) (slash : Bool)
    {follow : Location → Route → Except Failure Place}
    (hfollow : ∀ l route, RefusesNamed (follow l route)) (l : Location)
    (steps : List PathStep) : RefusesNamed (walkSteps fs last slash follow l steps) := by
  induction steps generalizing l with
  | nil => exact refusesNamed_ok _
  | cons step rest ih =>
      cases step with
      | here => exact ih l
      | up => exact ih l.dropLast
      | name text =>
          rw [walkSteps]
          split
          · exact refusesNamed_ok _
          · split
            · exact refusesNamed_error trivial
            · split
              · split
                · exact refusesNamed_ok _
                · exact hfollow _ _
              · split
                · exact refusesNamed_ok _
                · split
                  · exact ih _
                  · exact refusesNamed_error trivial
                  · exact refusesNamed_error trivial

theorem refusesNamed_walk (fs : FileSystem) (last : LastName) (links : Nat) (l : Location)
    (route : Route) : RefusesNamed (walk fs last links l route) := by
  induction links generalizing l route with
  | zero =>
      have hlinks : IsNamed .tooManyLinks := trivial
      exact refusesNamed_walkSteps fs last _ (fun _ _ => refusesNamed_error hlinks) _ _
  | succ links ih => exact refusesNamed_walkSteps fs last _ ih _ _

theorem refusesNamed_place (fs : FileSystem) (last : LastName) (p : Path) :
    RefusesNamed (fs.place last p) := by
  refine .ite (refusesNamed_error trivial) (.ite (refusesNamed_error trivial) ?_)
  exact .ite (refusesNamed_error trivial) (refusesNamed_walk _ _ _ _ _)

theorem refusesNamed_add (fs : FileSystem) (parent : Location) (name : Text) (t : Tree) :
    RefusesNamed (fs.add parent name t) :=
  .ite (refusesNamed_ok _) (refusesNamed_error trivial)

theorem refusesNamed_currentDirectory (fs : FileSystem) : RefusesNamed fs.currentDirectory :=
  .ite (refusesNamed_ok _) (refusesNamed_error trivial)

theorem refusesNamed_absolute (fs : FileSystem) (p : Path) : RefusesNamed (fs.absolute p) := by
  refine .ite (refusesNamed_ok _) ?_
  unfold Except.map
  split
  next failure hgone => exact refusesNamed_error (refusesNamed_currentDirectory fs failure hgone)
  next => exact refusesNamed_ok _

theorem refusesNamed_makeDirectory (fs : FileSystem) (p : Path) :
    RefusesNamed (fs.makeDirectory p) := by
  refine (refusesNamed_place fs .kept p).bind fun place => ?_
  cases place with
  | directory l => exact refusesNamed_error trivial
  | entry parent name slash =>
      dsimp only
      split
      · exact refusesNamed_error trivial
      · exact refusesNamed_add _ _ _ _

theorem refusesNamed_status (fs : FileSystem) (p : Path) : RefusesNamed (fs.status p) := by
  refine (refusesNamed_place fs .followed p).bind fun place => ?_
  cases place with
  | directory l => exact refusesNamed_ok _
  | entry parent name slash =>
      dsimp only
      split
      · exact refusesNamed_ok _
      · exact refusesNamed_error trivial

theorem refusesNamed_overwrite (fs : FileSystem) (p : Path) (content : Bytes) :
    RefusesNamed (fs.overwrite p content) := by
  refine (refusesNamed_place fs .made p).bind fun place => ?_
  cases place with
  | directory l => exact refusesNamed_error trivial
  | entry parent name slash =>
      refine .ite (refusesNamed_error trivial) ?_
      split
      · exact refusesNamed_add _ _ _ _
      · exact .ite (refusesNamed_ok _) (refusesNamed_error trivial)
      · exact refusesNamed_error trivial
      · exact refusesNamed_error trivial

theorem refusesNamed_setMode (fs : FileSystem) (p : Path) (mode : Nat) :
    RefusesNamed (fs.setMode p mode) := by
  refine (refusesNamed_status fs p).bind fun found => ?_
  split <;> exact refusesNamed_ok _

theorem refusesNamed_rename (fs : FileSystem) (source target : Path) :
    RefusesNamed (fs.rename source target) := by
  refine (refusesNamed_place fs .kept source).bind fun old => ?_
  refine (refusesNamed_place fs .kept target).bind fun new => ?_
  cases old with
  | directory l => exact refusesNamed_error trivial
  | entry oldParent oldName oldSlash =>
      cases new with
      | directory l => exact refusesNamed_error trivial
      | entry newParent newName newSlash =>
          dsimp only
          split
          · exact refusesNamed_error trivial
          · refine .ite (refusesNamed_error trivial) (.ite (refusesNamed_error trivial) ?_)
            refine .ite (refusesNamed_error trivial) (.ite (refusesNamed_ok _) ?_)
            split
            · refine .ite (refusesNamed_error trivial) ?_
              exact .ite (refusesNamed_ok _) (refusesNamed_error trivial)
            · exact .ite (refusesNamed_error trivial) (refusesNamed_ok _)
            · exact refusesNamed_add _ _ _ _

theorem refusesNamed_removeDirectory (fs : FileSystem) (p : Path) :
    RefusesNamed (fs.removeDirectory p) := by
  refine (refusesNamed_place fs .kept p).bind fun place => ?_
  cases place with
  | directory l =>
      dsimp only
      split <;> exact refusesNamed_error trivial
  | entry parent name slash =>
      dsimp only
      split
      · exact refusesNamed_error trivial
      · exact .ite (refusesNamed_ok _) (refusesNamed_error trivial)
      · exact refusesNamed_error trivial

/-- If an action is refused, it is with a failure that is told in fixed words. -/
def ActsNamed {α : Type} (action : FileAction Failure α) : Prop :=
  ∀ fs failure after, action fs = .error failure after → IsNamed failure

theorem actsNamed_perform {operation : FileSystem → Except Failure FileSystem}
    (h : ∀ fs, RefusesNamed (operation fs)) : ActsNamed (FileAction.perform operation) := by
  intro fs failure after hfailed
  unfold FileAction.perform at hfailed
  split at hfailed
  · simp at hfailed
  · next found hfound =>
      obtain ⟨rfl, -⟩ := EStateM.Result.error.inj hfailed
      exact h fs found hfound

theorem actsNamed_makeDirectoryAfter {makeAbove : FileAction Failure Unit}
    (habove : ActsNamed makeAbove) (p : Path) : ActsNamed (makeDirectoryAfter makeAbove p) := by
  intro fs failure after hfailed
  have hend : ∀ now found, now.makeDirectory p = .error found →
      (if now.isDirectory p then EStateM.Result.ok () now else .error found now) =
        .error failure after → IsNamed failure := by
    intro now found hfound hended
    split at hended
    · simp at hended
    · obtain ⟨rfl, -⟩ := EStateM.Result.error.inj hended
      exact refusesNamed_makeDirectory now p found hfound
  unfold makeDirectoryAfter at hfailed
  split at hfailed
  · simp at hfailed
  · split at hfailed
    · next found now hfound =>
        obtain ⟨rfl, -⟩ := EStateM.Result.error.inj hfailed
        exact habove _ _ _ hfound
    · split at hfailed
      · simp at hfailed
      · next found hfound => exact hend _ found hfound hfailed
  · next found _ hfound => exact hend fs found hfound hfailed

theorem actsNamed_makeDirectories (p : Path) : ActsNamed (makeDirectories p) := by
  have hall : ∀ paths, ActsNamed (makeDirectoriesOf paths) := by
    intro paths
    induction paths with
    | nil =>
        intro fs failure after hfailed
        cases hfailed
    | cons p above ih =>
        intro fs failure after hfailed
        rw [makeDirectoriesOf] at hfailed
        split at hfailed
        · cases hfailed
        · exact actsNamed_makeDirectoryAfter ih p fs failure after hfailed
  exact hall _

/-- No change is refused in other words than fixed ones. -/
theorem actsNamed_change (c : FileChange) : ActsNamed c.perform := by
  cases c with
  | makeDirectories path => exact actsNamed_makeDirectories path
  | overwrite path content =>
      exact actsNamed_perform fun fs => refusesNamed_overwrite fs path content
  | setMode path mode => exact actsNamed_perform fun fs => refusesNamed_setMode fs path mode
  | rename source target =>
      exact actsNamed_perform fun fs => refusesNamed_rename fs source target
  | removeDirectory path =>
      exact actsNamed_perform fun fs => refusesNamed_removeDirectory fs path

end Refusals

section Paths

variable {p q relative : Path}

theorem plain_join (hp : Plain p) (hrelative : Plain relative) : Plain (p.join relative) := by
  unfold Path.join
  split
  · exact plain_append.mpr ⟨hp, hrelative⟩
  · exact plain_append.mpr ⟨hp, plain_cons.mpr ⟨by decide, hrelative⟩⟩

theorem plain_component (hp : Plain p) {c : Path.Component} (hc : c ∈ innerOf p) :
    Plain c.text :=
  fun hmem => hp (mem_of_mem_text hc (by decide) hmem)

theorem plain_foldl_join {cs : List Path.Component} (h : ∀ c ∈ cs, Plain c.text) (hp : Plain p) :
    Plain (cs.foldl (fun (q : Path) c => q.join c.text) p) := by
  induction cs generalizing p with
  | nil => exact hp
  | cons c rest ih =>
      have hrest : ∀ other ∈ rest, Plain other.text :=
        fun other hother => h other (List.mem_cons_of_mem _ hother)
      exact ih hrest (plain_join hp (h c List.mem_cons_self))

/-- A path seen from the root is plain where it is and the working directory is. -/
theorem plain_absolute (hp : Plain p) (hq : Plain q) : Plain (p.absolute q) := by
  have hstart : Plain (absoluteStart p q) := by
    unfold absoluteStart
    split
    · exact hq
    · split <;> decide
  have hinner : ∀ c ∈ innerOf p, Plain c.text := fun c hc => plain_component hp hc
  rw [absolute_eq]
  have hwhole := plain_foldl_join hinner hstart
  dsimp only
  split
  · exact plain_join hwhole plain_nil
  · exact hwhole

end Paths

section Installs

/-- The wording of an error and those of its causes are plain. -/
def TellsPlainly (message : Text) (causes : List Text) : Prop := ∀ t ∈ message :: causes, Plain t

variable {front message : Text} {causes : List Text}

theorem tellsPlainly_nil (h : Plain message) : TellsPlainly message [] := by
  simpa [TellsPlainly] using h

/-- An error with another one as its cause, whose wording it repeats. -/
theorem TellsPlainly.behind (h : TellsPlainly message causes) (hfront : Plain front) :
    TellsPlainly (front ++ message) (message :: causes) := by
  intro t ht
  rcases List.mem_cons.mp ht with rfl | ht
  · exact plain_append.mpr ⟨hfront, h message List.mem_cons_self⟩
  · exact h t ht

theorem plain_archiveError (error : Archive.Error) : Plain error.message := by
  cases error <;> exact plain_literal (by decide)

variable {archive : Bytes} {p : Platform} {destination path : Path} {fs after : FileSystem}
  {error : Install.Error}

theorem tellsPlainly_refusal {failure : Failure} (h : IsNamed failure) :
    TellsPlainly (Install.refusal failure).message (Install.refusal failure).causes :=
  (tellsPlainly_nil (plain_of_isNamed h)).behind (plain_literal (by decide))

theorem tellsPlainly_performAll {steps : List Install.Step}
    (hfaults : ∀ fault, .fault fault ∈ steps → Plain fault.message)
    (h : Install.performAll steps fs = .error error after) :
    TellsPlainly error.message error.causes := by
  induction steps generalizing fs with
  | nil => exact nomatch h
  | cons step rest ih =>
      have hrest : ∀ fault, .fault fault ∈ rest → Plain fault.message :=
        fun fault hmem => hfaults fault (List.mem_cons_of_mem _ hmem)
      simp only [Install.performAll, bind, EStateM.bind] at h
      cases hstep : step.perform fs with
      | ok value now =>
          rw [hstep] at h
          exact ih hrest h
      | error found now =>
          rw [hstep] at h
          obtain ⟨rfl, rfl⟩ := EStateM.Result.error.inj h
          cases step with
          | fault fault =>
              have hthrown : EStateM.Result.error (Install.Error.writing (.faulty fault)) fs =
                .error found now := hstep
              obtain ⟨rfl, -⟩ := EStateM.Result.error.inj hthrown
              exact (tellsPlainly_nil (hfaults fault List.mem_cons_self)).behind
                (plain_literal (by decide))
          | change change =>
              simp only [Install.Step.perform, FileAction.mapError] at hstep
              split at hstep
              · simp at hstep
              · next failure now hfailed =>
                  obtain ⟨rfl, -⟩ := EStateM.Result.error.inj hstep
                  have hplain := plain_of_isNamed (actsNamed_change change fs failure now hfailed)
                  exact (tellsPlainly_nil hplain).behind (plain_literal (by decide))

theorem fault_mem_steps {plan : Install.Plan} {mode? : Option Nat} {payload : Archive.Payload}
    {fault : Archive.DataFault} (h : .fault fault ∈ plan.steps mode? payload) :
    fault ∈ payload.fault := by
  have hmoving : Install.Step.fault fault ∉ plan.movingSteps := by
    unfold Install.Plan.movingSteps
    split <;> simp
  simpa [Install.Plan.steps, Install.Plan.stagingSteps, hmoving] using h

/-- Decoders whose words for what is wrong are plain. -/
def DecodesPlainly [Archive.Decoders] : Prop :=
  ∀ codec entry data, ∀ words ∈ (Archive.Decoders.decode codec entry data).fault?, Plain words

variable [Archive.Decoders]

theorem plain_fault_ofData (hdecoders : DecodesPlainly) {method : Archive.Method}
    {e : Archive.Entry} {data : Bytes} :
    ∀ fault ∈ (Archive.Payload.ofData method e data).fault, Plain fault.message := by
  have hchecked : ∀ output, ∀ fault ∈ (Archive.Payload.checked e.checksum output).fault,
      Plain fault.message := by
    intro output fault hfault
    simp only [Archive.Payload.checked, Option.mem_def] at hfault
    split at hfault
    · exact nomatch hfault
    · obtain rfl := Option.some.inj hfault
      exact plain_literal (by decide)
  intro fault hfault
  unfold Archive.Payload.ofData at hfault
  split at hfault
  · exact hchecked _ fault hfault
  · split at hfault
    · exact hchecked _ fault hfault
    · obtain rfl := Option.some.inj hfault
      exact plain_literal (by decide)
    · obtain rfl := Option.some.inj hfault
      exact plain_literal (by decide)
  · next codec =>
      split at hfault
      · exact hchecked _ fault hfault
      · next output words hdecoded =>
          obtain rfl := Option.some.inj hfault
          exact hdecoders codec e data words (congrArg Archive.Decoded.fault? hdecoded)

theorem plain_fault_of_select (hdecoders : DecodesPlainly) {name : Text}
    {selected : Install.Selected} (h : Install.select archive name = .ok selected) :
    ∀ fault ∈ selected.payload.fault, Plain fault.message := by
  obtain ⟨-, -, entry, -, hpayload, -⟩ := select_eq_ok h
  obtain ⟨method, data, hdata⟩ := exists_ofData_of_payload hpayload
  rw [hdata]
  exact plain_fault_ofData hdecoders

theorem error_of_select {name : Text} (h : Install.select archive name = .error error) :
    (∃ fault, error = .archive fault) ∨ error = .missingEntry name ∨ error = .invalidPath name := by
  unfold Install.select at h
  cases hentries : Archive.entries archive with
  | error fault =>
      rw [hentries] at h
      exact .inl ⟨fault, (Except.error.inj h).symm⟩
  | ok entries =>
      simp only [hentries, Except.mapError, bind, Except.bind] at h
      cases hentry : Archive.entryNamed? name entries with
      | none =>
          rw [hentry] at h
          exact .inr (.inl (Except.error.inj h).symm)
      | some entry =>
          simp only [hentry] at h
          cases hpayload : entry.payload archive with
          | error fault =>
              rw [hpayload] at h
              exact .inl ⟨fault, (Except.error.inj h).symm⟩
          | ok payload =>
              simp only [hpayload] at h
              split at h
              · exact .inr (.inr (Except.error.inj h).symm)
              · split at h
                · exact .inr (.inr (Except.error.inj h).symm)
                · exact nomatch h

theorem tellsPlainly_select {name : Text} (hname : Plain name)
    (h : Install.select archive name = .error error) :
    TellsPlainly error.message error.causes := by
  rcases error_of_select h with ⟨fault, rfl⟩ | rfl | rfl
  · exact tellsPlainly_nil (plain_append.mpr ⟨by decide, plain_archiveError fault⟩)
  · exact tellsPlainly_nil (plain_append.mpr ⟨plain_append.mpr ⟨by decide, hname⟩, by decide⟩)
  · exact tellsPlainly_nil (plain_append.mpr ⟨by decide, hname⟩)

theorem tellsPlainly_action (hdecoders : DecodesPlainly)
    (h : Install.action archive p.entryName destination fs = .error error after) :
    TellsPlainly error.message error.causes := by
  have hname : Plain p.entryName := by cases p <;> decide
  cases hselect : Install.select archive p.entryName with
  | error found =>
      rw [Install.action_of_not_select hselect] at h
      obtain ⟨rfl, -⟩ := EStateM.Result.error.inj h
      exact tellsPlainly_select hname hselect
  | ok selected =>
      have hfaults := plain_fault_of_select hdecoders hselect
      rw [Install.action_of_select hselect] at h
      simp only at h
      split at h
      · next value now hperform =>
          split at h
          · exact nomatch h
          · next failure hfailure =>
              obtain ⟨rfl, -⟩ := EStateM.Result.error.inj h
              exact tellsPlainly_refusal (refusesNamed_absolute now _ failure hfailure)
      · next found now hperform =>
          obtain ⟨rfl, -⟩ := EStateM.Result.error.inj h
          exact tellsPlainly_performAll (fun fault hmem => hfaults fault (fault_mem_steps hmem))
            hperform

theorem plain_installed (hdestination : Plain destination) (hworking : Plain fs.workingPath)
    (h : Install.action archive p.entryName destination fs = .ok path after) : Plain path := by
  obtain ⟨entry, payload, fileName, -, hfileName, -, -, rfl⟩ := exists_run_of_action h
  have hname : Plain fileName := by
    cases p <;> (obtain rfl := Option.some.inj hfileName; decide)
  exact plain_join (plain_absolute hdestination hworking) hname

end Installs

section Downloads

variable {u url : Url} {place : Download.Place} {response : Response} {address : Text} {w : World}

theorem plain_pair {first second : Text} (hfirst : Plain first) (hsecond : Plain second) :
    ∀ t ∈ [first, second], Plain t :=
  List.forall_mem_cons.mpr ⟨hfirst, List.forall_mem_singleton.mpr hsecond⟩

theorem plain_urlFault (fault : UrlFault) : Plain fault.message := by
  cases fault <;> exact plain_literal (by decide)

theorem plain_silence (silence : Silence) : ∀ cause ∈ silence.causes, Plain cause := by
  cases silence with
  | refused | unknownHost =>
      refine List.forall_mem_cons.mpr ⟨plain_literal (by decide), ?_⟩
      exact plain_pair (plain_literal (by decide)) (plain_literal (by decide))
  | noSecureTransport | ended | garbled =>
      exact plain_pair (plain_literal (by decide)) (plain_literal (by decide))

theorem plain_about {what : Text} (hwhat : Plain what) (hu : PlainUrl u) :
    Plain (Http.Error.about what u) := by
  simp only [Http.Error.about, plain_append]
  exact ⟨⟨⟨hwhat, by decide⟩, hu.text⟩, by decide⟩

/-- A reason that a server may give is plain as it is told. -/
theorem plain_shownReason (h : IsFinal response) : Plain response.shownReason := by
  have hreason : ∀ c ∈ response.reason, c ≠ '\x1b' := by
    rintro c hc rfl
    exact absurd (h.reason _ hc) (by decide)
  unfold Response.shownReason
  split
  · refine plain_flatMap fun c hc => ?_
    have hc' := hreason c hc
    unfold Response.escapeReason
    split
    · decide
    · split <;> simp [plain_nil, hc']
  · exact plain_nil

theorem plain_refusal (h : IsFinal response) : Plain (Http.Error.refusal response) := by
  have hside : Plain (if response.isClientError then "client" else "server").toList := by
    split <;> decide
  unfold Http.Error.refusal
  simp only [plain_append, plain_cons]
  exact ⟨⟨⟨⟨⟨by decide, hside⟩, by decide⟩, plain_ofNat _⟩, by decide, plain_shownReason h⟩,
    by decide, plain_nil⟩

/-- The addresses that an error tells of are plain, and so is the reason that it gives. -/
def HasPlainParts : Http.Error → Prop
  | .invalidUrl _ | .cutShort => True
  | .invalidRedirection _ u | .unsupportedScheme u | .unaskable u | .unanswered _ u
  | .tooManyRedirections u => PlainUrl u
  | .refused response u => PlainUrl u ∧ IsFinal response

theorem tellsPlainly_of_hasPlainParts (error : Http.Error) (h : HasPlainParts error) :
    TellsPlainly error.message error.causes := by
  cases error with
  | invalidUrl fault =>
      have hmessage : Plain "builder error".toList := plain_literal (by decide)
      exact plain_pair hmessage (plain_urlFault fault)
  | invalidRedirection fault asked =>
      exact plain_pair (plain_about (plain_literal (by decide)) h) (plain_urlFault fault)
  | unsupportedScheme u => exact plain_pair (plain_about (plain_literal (by decide)) h) (by decide)
  | unaskable u => exact plain_pair (plain_about (plain_literal (by decide)) h) (by decide)
  | unanswered silence asked =>
      have hcauses := plain_silence silence
      exact List.forall_mem_cons.mpr ⟨plain_about (plain_literal (by decide)) h, hcauses⟩
  | tooManyRedirections u =>
      exact plain_pair (plain_about (plain_literal (by decide)) h) (by decide)
  | refused response u => exact tellsPlainly_nil (plain_about (plain_refusal h.2) h.1)
  | cutShort =>
      refine List.forall_mem_cons.mpr ⟨plain_literal (by decide), ?_⟩
      refine List.forall_mem_cons.mpr ⟨plain_literal (by decide), ?_⟩
      exact plain_pair (plain_literal (by decide)) (plain_literal (by decide))

/-- What asking for an address comes to: a plain error, or an answer at a plain address. -/
def ArrivesPlainly : Except Http.Error (Url × Response) → Prop
  | .error error => HasPlainParts error
  | .ok (u, response) => PlainUrl u ∧ IsFinal response

theorem plainUrl_ofReference {r : Reference} (h : Download.Place.ofReference r = .ok place) :
    PlainUrl place.url := by
  unfold Download.Place.ofReference at h
  cases hu : Url.ofText r.text with
  | error fault => simp [hu, Except.map] at h
  | ok u =>
      rw [hu] at h
      obtain rfl := Except.ok.inj h
      exact plainUrl_ofText hu

/-- Wherever redirections lead to, it is a plain address. -/
theorem arrivesPlainly_follow (hu : PlainUrl u) (left : Nat) {place : Download.Place}
    (hplace : PlainUrl place.url) (w : World) :
    ArrivesPlainly ((Download.follow u left place).run w).1 := by
  -- Each place that is asked for was read as an address, so it is plain wherever it was named.
  induction left generalizing place w with
  | zero =>
      rw [Download.follow, Script.run]
      split
      · exact hu
      · next response hresponse =>
          split
          · exact ⟨hplace, (bind_final_eq_ok_iff.mp hresponse).2⟩
          · split
            · exact hu
            · exact hplace
  | succ left ih =>
      rw [Download.follow, Script.run]
      split
      · exact hu
      · next response hresponse =>
          split
          · exact ⟨hplace, (bind_final_eq_ok_iff.mp hresponse).2⟩
          · split
            · exact hu
            · next next hnext =>
                dsimp only
                split
                · exact ih (plainUrl_ofReference hnext) _
                · exact plainUrl_ofReference hnext

theorem tellsPlainly_archiveOf {error : Download.Error} (haddress : Plain address)
    (hurl : PlainUrl url) (hfinal : IsFinal response)
    (h : Download.archiveOf address url response = .error error) :
    TellsPlainly error.message error.causes := by
  unfold Download.archiveOf at h
  split at h
  · obtain rfl := Except.error.inj h
    have hrefused := tellsPlainly_of_hasPlainParts (.refused response url) ⟨hurl, hfinal⟩
    exact hrefused.behind (plain_literal (by decide))
  · split at h
    · obtain rfl := Except.error.inj h
      exact (tellsPlainly_of_hasPlainParts .cutShort trivial).behind (plain_literal (by decide))
    · obtain rfl := Except.error.inj h
      exact tellsPlainly_nil (plain_append.mpr ⟨by decide, haddress⟩)
    · exact nomatch h

/-- A download from a plain address fails plainly, whatever the server is. -/
theorem tellsPlainly_download {error : Download.Error} (haddress : Plain address)
    (h : ((download address).run w).1 = .error error) :
    TellsPlainly error.message error.causes := by
  have hhttp : ∀ error : Http.Error, HasPlainParts error →
      TellsPlainly (Download.Error.http error).message (Download.Error.http error).causes :=
    fun error herror =>
      (tellsPlainly_of_hasPlainParts error herror).behind (plain_literal (by decide))
  rw [run_download] at h
  unfold Download.fetch at h
  split at h
  · obtain rfl := Except.error.inj h
    exact hhttp (.invalidUrl _) trivial
  · next found hfound =>
      have hasked : PlainUrl found.withoutLogin := (plainUrl_ofText hfound).withoutLogin
      dsimp only at h
      split at h
      · obtain rfl := Except.error.inj h
        exact hhttp (.unsupportedScheme _) hasked
      · split at h
        · obtain rfl := Except.error.inj h
          exact hhttp (.unaskable _) hasked
        · have hplace : PlainUrl (Download.Place.ofUrl found.withoutLogin).url :=
            hasked.withoutFragment
          have harrives := arrivesPlainly_follow hasked Download.redirectionLimit hplace w
          rw [Script.run_bind] at h
          split at h
          · next failed hfailed =>
              rw [hfailed] at harrives
              obtain rfl := Except.error.inj h
              exact hhttp failed harrives
          · next url response harrived =>
              rw [harrived] at harrives
              exact tellsPlainly_archiveOf haddress harrives.1 harrives.2 h

end Downloads

section Setups

variable [Archive.Decoders] {p : Platform} {base : Text} {destination path : Path} {w : World}
  {error : Setup.Error}

/-- Setting up a validator fails plainly, if the address it comes from is plain. -/
theorem tellsPlainly_forPlatform (hdecoders : DecodesPlainly) (hbase : Plain base)
    (h : ((Setup.forPlatform p base destination).run w).1 = .error error) :
    TellsPlainly error.message error.causes := by
  have haddress : Plain (p.archiveUrl base) := by
    have hname : Plain p.archiveName := by cases p <;> decide
    have hfront : Plain (Text.dropEndWhile (· = '/') base) :=
      hbase.of_subset (List.rdropWhile_prefix _ _).subset
    exact plain_append.mpr ⟨hfront, plain_cons.mpr ⟨by decide, hname⟩⟩
  cases hdownload : ((download (p.archiveUrl base)).run w).1 with
  | error failed =>
      rw [run_forPlatform_of_error hdownload] at h
      obtain rfl := Except.error.inj h
      exact (tellsPlainly_download haddress hdownload).behind (plain_literal (by decide))
  | ok archive =>
      rw [run_forPlatform_of_ok hdownload] at h
      split at h
      · exact nomatch h
      · next failed after haction =>
          obtain rfl := Except.error.inj h
          exact (tellsPlainly_action hdecoders haction).behind (plain_literal (by decide))

theorem plain_forPlatform (hdestination : Plain destination) (hworking : Plain w.files.workingPath)
    (h : ((Setup.forPlatform p base destination).run w).1 = .ok path) : Plain path := by
  cases hdownload : ((download (p.archiveUrl base)).run w).1 with
  | error failed =>
      rw [run_forPlatform_of_error hdownload] at h
      exact nomatch h
  | ok archive =>
      rw [run_forPlatform_of_ok hdownload] at h
      split at h
      · next found after haction =>
          obtain rfl := Except.ok.inj h
          exact plain_installed hdestination hworking haction
      · exact nomatch h

end Setups

end ShaderTools.Proofs.PlainFailures
