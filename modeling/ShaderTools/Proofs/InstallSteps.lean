import ShaderTools.Install
import ShaderTools.Platform
import ShaderTools.Proofs.EntryOperations

/-!
The steps of installing the validator of a platform, and how a run of steps ends. The entry of a
platform lies one directory deep, so that its plan is the same list of steps for every destination.
-/

namespace ShaderTools.Proofs.InstallSteps

open ShaderTools.Install
open ShaderTools.Proofs.JoinedPaths
open ShaderTools.Proofs.EntryOperations

/-- The directory that the validator's entry lies in. -/
def stagingName : Text := "bin".toList

theorem isName_stagingName : IsName stagingName :=
  ⟨⟨by decide, by decide, by decide, by decide⟩, by decide, by decide⟩

theorem isName_fileName (p : Platform) : IsName p.fileName := by
  cases p <;> exact ⟨⟨by decide, by decide, by decide, by decide⟩, by decide, by decide⟩

theorem fileName_ne_stagingName (p : Platform) : p.fileName ≠ stagingName := by
  cases p <;> decide

theorem entryName_eq (p : Platform) : p.entryName = fileIn stagingName p.fileName := by
  cases p <;> rfl

theorem fault_checked_eq_none {expected : Nat} {bytes : Bytes}
    (h : (Archive.Payload.checked expected bytes).fault = none) :
    (Archive.checksum bytes).toNat = expected := by
  unfold Archive.Payload.checked at h
  by_contra hdifferent
  simp [hdifferent] at h

theorem toOption_eq_some_iff {ε α : Type} {result : Except ε α} {value : α} :
    result.toOption = some value ↔ result = .ok value := by
  cases result <;> simp [Except.toOption]

theorem enclosed?_eq_some {name : Text} {relative : Path} (h : enclosed? name = some relative) :
    relative = name ∧ '\x00' ∉ name ∧ (Path.depth? name).isSome = true := by
  unfold enclosed? at h
  split at h
  · simp at h
  · next hnul =>
      split at h
      · next hdepth => exact ⟨(Option.some.inj h).symm, hnul, hdepth⟩
      · simp at h

section Selection

variable [Archive.Decoders]

/-- The entry of a name in an archive with the bytes that its data decodes to, if the data is in
order to its end and has the checksum of the entry. -/
def delivered? (archive : Bytes) (name : Text) : Option (Archive.Entry × Bytes) := do
  let entries ← (Archive.entries archive).toOption
  let entry ← Archive.entryNamed? name entries
  let payload ← (entry.payload archive).toOption
  if payload.fault = none then some (entry, payload.bytes) else none

theorem fault_ofData_eq_none {method : Archive.Method} {e : Archive.Entry} {data : Bytes}
    (h : (Archive.Payload.ofData method e data).fault = none) :
    (Archive.checksum (Archive.Payload.ofData method e data).bytes).toNat = e.checksum := by
  cases method with
  | stored => exact fault_checked_eq_none h
  | deflated =>
      obtain ⟨⟨output, stop⟩, hinflate⟩ : ∃ result, Archive.Deflate.inflate data = result :=
        ⟨_, rfl⟩
      simp only [Archive.Payload.ofData, hinflate] at h ⊢
      rcases stop with _ | _ | _
      · exact fault_checked_eq_none h
      · simp at h
      · simp at h
  | coded codec =>
      obtain ⟨⟨output, fault?⟩, hdecode⟩ :
          ∃ result, Archive.Decoders.decode codec e data = result := ⟨_, rfl⟩
      simp only [Archive.Payload.ofData, hdecode] at h ⊢
      cases fault? with
      | none => exact fault_checked_eq_none h
      | some words => simp at h

theorem exists_ofData_of_payload {archive : Bytes} {entry : Archive.Entry}
    {payload : Archive.Payload} (h : entry.payload archive = .ok payload) :
    ∃ method data, payload = .ofData method entry data := by
  unfold Archive.Entry.payload at h
  simp only at h
  split at h
  · simp at h
  split at h
  · simp at h
  split at h
  · simp at h
  split at h
  · simp at h
  split at h
  · simp at h
  · exact ⟨_, _, (Except.ok.inj h).symm⟩

theorem checksum_of_payload {archive : Bytes} {entry : Archive.Entry} {payload : Archive.Payload}
    (h : entry.payload archive = .ok payload) (hfault : payload.fault = none) :
    (Archive.checksum payload.bytes).toNat = entry.checksum := by
  obtain ⟨method, data, rfl⟩ := exists_ofData_of_payload h
  exact fault_ofData_eq_none hfault

theorem delivered?_eq_some_iff {archive : Bytes} {name : Text} {entry : Archive.Entry}
    {content : Bytes} :
    delivered? archive name = some (entry, content) ↔
      ∃ entries, Archive.entries archive = .ok entries ∧
        Archive.entryNamed? name entries = some entry ∧
        entry.payload archive = .ok ⟨content, none⟩ := by
  simp only [delivered?, bind, Option.bind_eq_some_iff, toOption_eq_some_iff]
  constructor
  · rintro ⟨entries, hentries, found, hfound, ⟨bytes, fault⟩, hpayload, h⟩
    split at h
    · next hfault =>
        simp only [Option.some.injEq, Prod.mk.injEq] at h hfault
        obtain ⟨rfl, rfl⟩ := h
        exact ⟨entries, hentries, hfound, by rw [hpayload, hfault]⟩
    · simp at h
  · rintro ⟨entries, hentries, hentry, hpayload⟩
    exact ⟨entries, hentries, entry, hentry, _, hpayload, by simp⟩

/-- The entry's data has the checksum that the archive gives for it. -/
theorem checksum_of_delivered? {archive : Bytes} {name : Text} {entry : Archive.Entry}
    {content : Bytes} (h : delivered? archive name = some (entry, content)) :
    (Archive.checksum content).toNat = entry.checksum := by
  obtain ⟨entries, -, -, hpayload⟩ := delivered?_eq_some_iff.mp h
  exact checksum_of_payload hpayload rfl

/-- Selecting the entry of a platform fails only if there is no such entry to be read. -/
theorem select_cases (archive : Bytes) (p : Platform) :
    (∃ error, select archive p.entryName = .error error ∧
      delivered? archive p.entryName = none) ∨
    (∃ entry payload,
      select archive p.entryName = .ok ⟨p.entryName, p.fileName, entry.mode?, payload⟩ ∧
      delivered? archive p.entryName =
        if payload.fault = none then some (entry, payload.bytes) else none) := by
  have henclosed : enclosed? p.entryName = some p.entryName := by cases p <;> decide
  have hfileName : Path.fileName? p.entryName = some p.fileName := by cases p <;> decide
  unfold select delivered?
  cases hentries : Archive.entries archive with
  | error error => exact Or.inl ⟨_, rfl, rfl⟩
  | ok entries =>
      simp only [Except.mapError, Except.toOption, bind, Except.bind, Option.bind_some]
      cases hentry : Archive.entryNamed? p.entryName entries with
      | none => exact Or.inl ⟨_, rfl, rfl⟩
      | some entry =>
          simp only [Option.bind_some]
          cases hpayload : entry.payload archive with
          | error error => exact Or.inl ⟨_, rfl, rfl⟩
          | ok payload =>
              right
              refine ⟨entry, payload, ?_, rfl⟩
              simp only [henclosed, hfileName]
              rfl

/-- What is selected stays below the directory it is taken from, and ends in a file name. -/
theorem select_eq_ok {archive : Bytes} {name : Text} {selected : Selected}
    (h : select archive name = .ok selected) :
    enclosed? name = some selected.relative ∧
      selected.relative.fileName? = some selected.fileName ∧
      ∃ entry, selected.mode? = entry.mode? ∧ entry.payload archive = .ok selected.payload ∧
        (selected.payload.fault = none →
          delivered? archive name = some (entry, selected.payload.bytes)) := by
  unfold select at h
  cases hentries : Archive.entries archive with
  | error error => simp [hentries, Except.mapError, bind, Except.bind] at h
  | ok entries =>
      simp only [hentries, Except.mapError, bind, Except.bind] at h
      cases hentry : Archive.entryNamed? name entries with
      | none => simp [hentry, throw, throwThe, MonadExceptOf.throw] at h
      | some entry =>
          simp only [hentry] at h
          cases hpayload : entry.payload archive with
          | error error => simp [hpayload] at h
          | ok payload =>
              simp only [hpayload] at h
              cases henclosed : enclosed? name with
              | none => simp [henclosed, throw, throwThe, MonadExceptOf.throw] at h
              | some relative =>
                  simp only [henclosed] at h
                  cases hfileName : relative.fileName? with
                  | none => simp [hfileName, throw, throwThe, MonadExceptOf.throw] at h
                  | some fileName =>
                      simp only [hfileName, pure, Except.pure] at h
                      obtain rfl := Except.ok.inj h
                      refine ⟨rfl, hfileName, entry, rfl, hpayload, ?_⟩
                      intro hfault
                      obtain ⟨bytes, fault⟩ := payload
                      obtain rfl : fault = none := hfault
                      exact delivered?_eq_some_iff.mpr ⟨entries, hentries, hentry, hpayload⟩

end Selection

theorem steps_eq (p : Platform) {destination : Path} (h : destination ≠ []) (mode? : Option Nat)
    (payload : Archive.Payload) :
    (Plan.of p.entryName p.fileName destination).steps mode? payload =
      .change (.makeDirectories (destination.join stagingName))
        :: .change (.overwrite (destination.join p.entryName) payload.bytes)
        :: (payload.fault.toList.map .fault
          ++ (mode?.toList.map fun mode => .change (.setMode (destination.join p.entryName) mode))
          ++ [.change (.rename (destination.join p.entryName) (destination.join p.fileName)),
            .change (.removeDirectory (destination.join stagingName))]) := by
  have hparent : (destination.join p.entryName).parent? = some (destination.join stagingName) := by
    rw [entryName_eq]
    exact parent?_join h isName_stagingName (isName_fileName p)
  have hpieces : Path.pieces p.entryName = [stagingName, p.fileName] := by
    rw [entryName_eq]
    exact pieces_fileIn isName_stagingName (isName_fileName p)
  have hstaging : (destination.join stagingName).sameAs destination = false := by
    simp [Path.sameAs, components_join h, isName_stagingName.pieces_eq,
      isName_stagingName.componentOfPiece_eq]
  have hfinal : (destination.join p.entryName).sameAs (destination.join p.fileName) = false := by
    simp [Path.sameAs, components_join h, hpieces, (isName_fileName p).pieces_eq,
      isName_stagingName.componentOfPiece_eq, (isName_fileName p).componentOfPiece_eq]
  simp [Plan.of, Plan.steps, Plan.stagingSteps, Plan.movingSteps, hparent, Option.filter, hstaging,
    hfinal]

section Ending

/-- How carrying out steps ends: the step that fails with its error, if one does, and the files. -/
def ending : List Step → FileSystem → Option (Step × Error) × FileSystem
  | [], fs => (none, fs)
  | step :: rest, fs =>
      match step.perform fs with
      | .ok _ after => ending rest after
      | .error error after => (some (step, error), after)

theorem performAll_eq_ending (steps : List Step) (fs : FileSystem) :
    performAll steps fs =
      match ending steps fs with
      | (none, after) => .ok () after
      | (some (_, error), after) => .error error after := by
  induction steps generalizing fs with
  | nil => rfl
  | cons step rest ih =>
      simp only [performAll, ending, bind, EStateM.bind]
      cases step.perform fs with
      | ok value after => exact ih after
      | error error after => rfl

/-- The step at which an installation fails, if it gets as far as its steps. -/
def failedStep? [Archive.Decoders] (archive : Bytes) (name : Text) (destination : Path)
    (fs : FileSystem) : Option Step :=
  match select archive name with
  | .error _ => none
  | .ok selected =>
      (ending ((Plan.of selected.relative selected.fileName destination).steps selected.mode?
        selected.payload) fs).1.map Prod.fst

theorem ending_change_of_ok {change : FileChange} {rest : List Step} {fs after : FileSystem}
    (h : change.perform fs = .ok () after) :
    ending (.change change :: rest) fs = ending rest after := by
  simp [ending, Step.perform, FileAction.mapError, h]

theorem ending_change_of_error {change : FileChange} {rest : List Step} {fs after : FileSystem}
    {failure : Failure} (h : change.perform fs = .error failure after) :
    ending (.change change :: rest) fs = (some (.change change, refusal failure), after) := by
  simp [ending, Step.perform, FileAction.mapError, h]

end Ending

end ShaderTools.Proofs.InstallSteps
