import ShaderTools.Proofs.PlatformAnswers

/-!
Options of the setup command that are given once each. In whatever order they stand, each is read as
the value it was given: the one for the platform whatever its value looks like, behind an equals
sign or not. Only the environment can still spoil the command line, by a release address that is not
text where no option gives one.
-/

namespace ShaderTools.Proofs.GivenOptions

open ShaderTools.CommandLine
open ShaderTools.Proofs.TextPieces
open ShaderTools.Proofs.PlatformAnswers

section Options

/-- An option with its value, as it is given: behind an equals sign or, for the platform, as the
next argument. -/
inductive Given where
  | apart (value : Text)
  | joined (f : Flag) (value : Text)

namespace Given

def flag : Given → Flag
  | apart _ => .os
  | joined f _ => f

def value : Given → Text
  | apart value => value
  | joined _ value => value

def arguments : Given → List Text
  | apart value => ["--os".toList, value]
  | joined f value => ['-' :: '-' :: (f.name ++ '=' :: value)]

def entry (g : Given) : Flag × Text := (g.flag, g.value)

/-- An option that the setup command has, with a value that it may have. -/
structure IsOfSetup (g : Given) : Prop where
  flag : g.flag = .os ∨ g.flag = .destination ∨ g.flag = .releaseUrl
  filled : g.flag = .destination → g.value ≠ []

end Given

/-- Options of the setup command, each of them at most once. -/
structure GivenOnce (given : List Given) : Prop where
  distinct : (given.map Given.flag).Nodup
  setup : ∀ g ∈ given, g.IsOfSetup

def valueOf? (given : List Given) (f : Flag) : Option Text :=
  (given.find? fun g => g.flag = f).map Given.value

variable {before rest : List Given} {g : Given} {f : Flag}

theorem GivenOnce.earlier (h : GivenOnce (before ++ rest)) : GivenOnce before := by
  have hdistinct := h.distinct
  rw [List.map_append, List.nodup_append] at hdistinct
  exact ⟨hdistinct.1, fun g hg => h.setup g (List.mem_append_left _ hg)⟩

theorem GivenOnce.last (h : GivenOnce (before ++ [g])) : g.IsOfSetup :=
  h.setup g (by simp)

theorem GivenOnce.flag_notMem (h : GivenOnce (before ++ [g])) :
    g.flag ∉ before.map Given.flag := by
  have hdistinct := h.distinct
  rw [List.map_append, List.nodup_append] at hdistinct
  intro hmem
  exact hdistinct.2.2 _ hmem _ List.mem_cons_self rfl

theorem equalsSign_notMem_name (f : Flag) : '=' ∉ f.name := by
  cases f <;> decide

theorem flagOfName?_name (h : f = .os ∨ f = .destination ∨ f = .releaseUrl) :
    Scope.setup.flagOfName? f.name = some f ∧ f.valueName?.isSome = true := by
  rcases h with rfl | rfl | rfl <;> decide

end Options

section Readings

/-- A reading that has met some options: it has accepted all of them, or all but the last one, whose
value it has already. -/
inductive Collects : List Given → Reading → Prop
  | accepted (given : List Given) : Collects given ⟨given.map Given.entry, none⟩
  | pending (given : List Given) (value : Text) :
      Collects (given ++ [.apart value]) ⟨given.map Given.entry, some (.os, some value)⟩

variable {given before : List Given} {g : Given} {f : Flag} {r : Reading}

theorem Collects.awaiting? (h : Collects given r) : r.awaiting? = none := by
  cases h <;> rfl

theorem flags_entries (given : List Given) :
    Reading.flags ⟨given.map Given.entry, none⟩ = given.map Given.flag := by
  simp only [Reading.flags, List.map_map]
  rfl

theorem accept_entry (h : GivenOnce (before ++ [g])) :
    Reading.accept .setup ⟨before.map Given.entry, none⟩ g.flag g.value =
      .ok ⟨(before ++ [g]).map Given.entry, none⟩ := by
  have hempty : (g.value.isEmpty && !g.flag.mayBeEmpty) = false := by
    rcases h.last.flag with hflag | hflag | hflag
    · simp [hflag, Flag.mayBeEmpty]
    · simpa using fun hnil => absurd hnil (h.last.filled hflag)
    · simp [hflag, Flag.mayBeEmpty]
  rw [Reading.accept, flags_entries, if_neg h.flag_notMem, hempty, List.map_append]
  rfl

theorem Collects.settle (h : Collects given r) (honce : GivenOnce given) :
    r.settle .setup = .ok ⟨given.map Given.entry, none⟩ := by
  cases h with
  | accepted => rfl
  | pending before value => exact accept_entry honce

/-- An argument that starts with two hyphens is an option where no value is awaited. -/
theorem readArguments_long (hawaiting : r.awaiting? = none) {t : Text} (ht : t ≠ [])
    (rest : List Text) :
    readArguments .setup r (('-' :: '-' :: t) :: rest) =
      readLong .setup r t rest >>= fun now => readArguments .setup now rest := by
  cases t with
  | nil => exact absurd rfl ht
  | cons c t =>
      conv_lhs => unfold CommandLine.readArguments
      rw [hawaiting]
      rfl

theorem Collects.readLong_joined (h : Collects before r) {value : Text}
    (honce : GivenOnce (before ++ [Given.joined f value])) (behind : List Text) :
    readLong .setup r (f.name ++ '=' :: value) behind =
      .ok ⟨(before ++ [Given.joined f value]).map Given.entry, none⟩ := by
  obtain ⟨hname, hvalued⟩ := flagOfName?_name (f := f) honce.last.flag
  obtain ⟨valueName, hvalueName⟩ := Option.isSome_iff_exists.mp hvalued
  have haccept : Reading.accept .setup ⟨before.map Given.entry, none⟩ f value = _ :=
    accept_entry honce
  rw [CommandLine.readLong, cut_append (equalsSign_notMem_name f)]
  simp only [hname, readFlag, hvalueName, h.settle honce.earlier, Except.mapError]
  exact congrArg (Except.mapError Stop.error) haccept

theorem Collects.readLong_os (h : Collects before r) (honce : GivenOnce before)
    (behind : List Text) :
    readLong .setup r "os".toList behind =
      .ok ⟨before.map Given.entry, some (.os, none)⟩ := by
  have hcut : Text.cut '=' "os".toList = ("os".toList, none) := by decide
  have hname : Scope.setup.flagOfName? "os".toList = some .os := by decide
  rw [CommandLine.readLong, hcut]
  simp only [hname, readFlag, Flag.valueName?, h.settle honce, Except.mapError]
  rfl

/-- One more option is met, whatever its value looks like. -/
theorem Collects.exists_step (h : Collects before r) (honce : GivenOnce (before ++ [g]))
    (rest : List Text) :
    ∃ now, Collects (before ++ [g]) now ∧
      readArguments .setup r (g.arguments ++ rest) = readArguments .setup now rest := by
  cases g with
  | joined f value =>
      refine ⟨_, .accepted _, ?_⟩
      have hlong := readArguments_long h.awaiting? (t := f.name ++ '=' :: value) (by simp) rest
      rw [h.readLong_joined honce] at hlong
      exact hlong
  | apart value =>
      refine ⟨_, .pending before value, ?_⟩
      have hlong := readArguments_long h.awaiting? (t := "os".toList) (by decide) (value :: rest)
      rw [h.readLong_os honce.earlier] at hlong
      -- The option awaits its value now, so that is taken before it is looked at as an option.
      exact hlong

/-- All options are accepted in the end, in the order in which they stand. -/
theorem Collects.readArguments (h : Collects before r) (honce : GivenOnce (before ++ given)) :
    readArguments .setup r (given.flatMap Given.arguments) =
      .ok ⟨(before ++ given).map Given.entry, none⟩ := by
  -- One option after the other moves over to those that were met.
  induction given generalizing before r with
  | nil =>
      rw [List.append_nil] at honce ⊢
      rw [List.flatMap_nil, CommandLine.readArguments, h.settle honce]
      rfl
  | cons g rest ih =>
      rw [List.append_cons] at honce ⊢
      obtain ⟨now, hnow, hstep⟩ := h.exists_step honce.earlier (rest.flatMap Given.arguments)
      rw [List.flatMap_cons, hstep]
      exact ih hnow honce

theorem value?_entries (given : List Given) (f : Flag) :
    Reading.value? ⟨given.map Given.entry, none⟩ f = valueOf? given f := by
  rw [Reading.value?, valueOf?, List.find?_map, Option.map_map]
  rfl

end Readings

section Commands

variable {given : List Given}

/-- Options that are given once each are read as their values, in any order and whatever is the
value of the one for the platform. The release address of the environment counts where no option
gives one; only if it is no text is the command line refused. -/
theorem read_given (environmentUrl? : Option Bytes) (honce : GivenOnce given) :
    let command (url? : Option Text) : Command :=
      .setup ⟨valueOf? given .os, valueOf? given .destination, url?⟩
    let found := CommandLine.read environmentUrl? ("setup".toList :: given.flatMap Given.arguments)
    (∀ url, valueOf? given .releaseUrl = some url → found = .ok (command (some url))) ∧
    (valueOf? given .releaseUrl = none →
      (environmentUrl? = none → found = .ok (command none)) ∧
      ∀ bytes, environmentUrl? = some bytes →
        (∀ url, Text.Utf8.decode? bytes = some url → found = .ok (command (some url))) ∧
        (Text.Utf8.decode? bytes = none → found = .error (.error (.notText .setup)))) := by
  intro command found
  have hread := @Collects.readArguments given [] _ (.accepted []) honce
  have hfound : found = _ := read_setup environmentUrl? _
  have hstart : Reading.start = ⟨[].map Given.entry, none⟩ := rfl
  rw [hstart, hread] at hfound
  simp only [setupOptions, value?_entries, List.nil_append, bind, Except.bind] at hfound
  refine ⟨?_, ?_⟩
  · intro url hurl
    rw [hfound, hurl]
    rfl
  · intro hurl
    rw [hurl] at hfound
    refine ⟨?_, ?_⟩
    · rintro rfl
      exact hfound
    · rintro bytes rfl
      refine ⟨?_, ?_⟩
      · intro url hdecoded
        simp only [hdecoded] at hfound
        exact hfound
      · intro hdecoded
        simp only [hdecoded] at hfound
        exact hfound

/-- Options whose values look like other options, in an environment whose release address is no
text. -/
theorem read_given_hyphens :
    GivenOnce [.joined .releaseUrl "a=b".toList, .apart "--dest=x".toList,
        .joined .destination "--".toList] ∧
      CommandLine.read (some [255])
          ["setup".toList, "--release-url=a=b".toList, "--os".toList, "--dest=x".toList,
            "--dest=--".toList] =
        .ok (.setup ⟨some "--dest=x".toList, some "--".toList, some "a=b".toList⟩) := by
  have honce : GivenOnce [.joined .releaseUrl "a=b".toList, .apart "--dest=x".toList,
      .joined .destination "--".toList] := by
    refine ⟨by decide, ?_⟩
    simp only [List.forall_mem_cons, List.not_mem_nil, false_imp_iff, implies_true, and_true]
    exact ⟨⟨by decide, by decide⟩, ⟨by decide, by decide⟩, ⟨by decide, by decide⟩⟩
  exact ⟨honce, (read_given (some [255]) honce).1 "a=b".toList (by decide)⟩

/-- A release address of the environment that is no text is not left out, but refused. -/
theorem read_given_notText :
    CommandLine.read (some [255]) ["setup".toList, "--os".toList, "1".toList] ≠
      .ok (.setup ⟨some "1".toList, none, none⟩) := by
  decide

end Commands

end ShaderTools.Proofs.GivenOptions
