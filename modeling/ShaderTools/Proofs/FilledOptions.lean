import ShaderTools.CommandLine.Reading

/-!
What the values on the command line are. Each is the end of an argument, so whatever is true of the
ends of all arguments is true of all values. An empty one is accepted of an option only if the
option says that it may be empty, so a setup is never told of an empty path.
-/

namespace ShaderTools.Proofs.FilledOptions

open ShaderTools.CommandLine

section Readings

/-- Every value that was read has a property, and no option was accepted with an empty value that
may not have one. -/
structure Filled (P : Text → Prop) (r : Reading) : Prop where
  given : ∀ entry ∈ r.given, P entry.2
  pending : ∀ f value, r.pending? = some (f, some value) → P value
  mayBeEmpty : ∀ entry ∈ r.given, entry.2 = [] → entry.1.mayBeEmpty = true

/-- A result of reading, if there is one, has only such values. -/
def ReadsFilled (P : Text → Prop) (x : Except Stop Reading) : Prop := ∀ r, x = .ok r → Filled P r

variable {P : Text → Prop} {scope : Scope} {r : Reading}

theorem ReadsFilled.bind {x : Except Stop Reading} {f : Reading → Except Stop Reading}
    (h : ReadsFilled P x) (hf : ∀ r, Filled P r → ReadsFilled P (f r)) :
    ReadsFilled P (x >>= f) := by
  cases x with
  | error stop => exact fun r hr => nomatch hr
  | ok r => exact hf r (h r rfl)

theorem readsFilled_error (stop : Stop) : ReadsFilled P (.error stop) := fun _ h => nomatch h

theorem readsFilled_ok (h : Filled P r) : ReadsFilled P (.ok r) := by
  rintro r' hr
  obtain rfl := Except.ok.inj hr
  exact h

theorem filled_start (P : Text → Prop) : Filled P .start := by
  constructor <;> simp [Reading.start]

theorem Filled.supply (h : Filled P r) (f : Flag) {value : Text} (hvalue : P value) :
    Filled P (r.supply f value) := by
  refine ⟨h.given, ?_, h.mayBeEmpty⟩
  rintro f' value' heq
  obtain ⟨rfl, rfl⟩ : f = f' ∧ value = value' := by simpa [Reading.supply] using heq
  exact hvalue

theorem Filled.accept (h : Filled P r) (f : Flag) {value : Text} (hvalue : P value) :
    ReadsFilled P ((r.accept scope f value).mapError .error) := by
  unfold Reading.accept
  split
  · exact readsFilled_error _
  · split
    · exact readsFilled_error _
    · next hempty =>
        refine readsFilled_ok ⟨?_, by simp, ?_⟩
        · rintro entry hentry
          rcases List.mem_append.mp hentry with hentry | hentry
          · exact h.given entry hentry
          · obtain rfl := List.mem_singleton.mp hentry
            exact hvalue
        · rintro entry hentry hnil
          rcases List.mem_append.mp hentry with hentry | hentry
          · exact h.mayBeEmpty entry hentry hnil
          · obtain rfl := List.mem_singleton.mp hentry
            simpa [show value = [] from hnil] using hempty

theorem Filled.settle (h : Filled P r) : ReadsFilled P ((r.settle scope).mapError .error) := by
  unfold Reading.settle
  split
  · exact readsFilled_ok h
  · exact readsFilled_error _
  · next f value hpending => exact h.accept f (h.pending f value hpending)

theorem Filled.readFlag (h : Filled P r) (f : Flag) {value? : Option Text} (hnil : P [])
    (hvalue : ∀ value ∈ value?, P value) : ReadsFilled P (readFlag scope r f value?) := by
  have haccept : ∀ value, P value → ReadsFilled P ((r.settle scope).mapError Stop.error >>=
      fun settled => (settled.accept scope f value).mapError Stop.error) :=
    fun value hvalue => h.settle.bind fun _ hsettled => hsettled.accept f hvalue
  have hawait : ReadsFilled P ((r.settle scope).mapError Stop.error >>= fun settled =>
      .ok { settled with pending? := some (f, none) }) :=
    h.settle.bind fun _ hsettled =>
      readsFilled_ok ⟨hsettled.given, by simp, hsettled.mayBeEmpty⟩
  have hstop : ∀ stop, ReadsFilled P ((r.settle scope).mapError Stop.error >>= fun _ =>
      .error stop) :=
    fun stop => h.settle.bind fun _ _ => readsFilled_error stop
  cases f with
  | os | destination | releaseUrl | input =>
      cases value? with
      | some value => exact haccept value (hvalue value rfl)
      | none => exact hawait
  | json =>
      cases value? with
      | some value => exact readsFilled_error _
      | none => exact haccept [] hnil
  | help =>
      cases value? with
      | some value => exact readsFilled_error _
      | none => exact hstop (.help scope)
  | version =>
      cases value? with
      | some value => exact readsFilled_error _
      | none => exact hstop .version

theorem suffix_of_cut {mark : Char} {t behind : Text} (h : (Text.cut mark t).2 = some behind) :
    behind <:+ t := by
  induction t with
  | nil => exact nomatch h
  | cons c rest ih =>
      rw [Text.cut] at h
      split at h
      · obtain rfl := Option.some.inj h
        exact List.suffix_cons c rest
      · exact (ih h).trans (List.suffix_cons c rest)

theorem withoutFirst_suffix (mark : Char) (t : Text) : t.withoutFirst mark <:+ t := by
  cases t with
  | nil => exact List.suffix_rfl
  | cons c rest =>
      rw [Text.withoutFirst]
      split
      · exact List.suffix_cons c rest
      · exact List.suffix_rfl

theorem Filled.readLong (h : Filled P r) {t : Text} (ht : ∀ value, value <:+ t → P value)
    (behind : List Text) : ReadsFilled P (readLong scope r t behind) := by
  unfold CommandLine.readLong
  dsimp only
  split
  · exact h.readFlag _ (ht [] List.nil_suffix) fun value hvalue => ht value (suffix_of_cut hvalue)
  · exact readsFilled_error _

theorem Filled.readShort (h : Filled P r) (letter : Char) {t : Text}
    (ht : ∀ value, value <:+ t → P value) : ReadsFilled P (readShort scope r letter t) := by
  have hnil : P [] := ht [] List.nil_suffix
  unfold CommandLine.readShort
  split
  · split
    · refine h.readFlag _ hnil ?_
      split
      · simp
      · rintro value hvalue
        obtain rfl := Option.some.inj hvalue
        exact ht _ (withoutFirst_suffix '=' t)
    · exact h.readFlag _ hnil (by simp)
  · exact readsFilled_error _

/-- What is true of the ends of all arguments is true of the values that are read from them. -/
theorem Filled.readArguments (h : Filled P r) {arguments : List Text}
    (harguments : ∀ argument ∈ arguments, ∀ value, value <:+ argument → P value) :
    ReadsFilled P (readArguments scope r arguments) := by
  induction arguments generalizing r with
  | nil => exact h.settle
  | cons argument rest ih =>
      have hends := harguments argument List.mem_cons_self
      have hrest : ∀ other ∈ rest, ∀ value, value <:+ other → P value :=
        fun other hother => harguments other (List.mem_cons_of_mem _ hother)
      unfold CommandLine.readArguments
      split
      · exact ih (h.supply _ (hends _ List.suffix_rfl)) hrest
      · split
        · exact h.settle
        · exact readsFilled_error _
      · next t _ _ =>
          have ht : ∀ value, value <:+ t → P value := fun value hvalue =>
            hends value (hvalue.trans ((List.suffix_cons _ t).trans (List.suffix_cons _ _)))
          exact (h.readLong ht rest).bind fun _ hnow => ih hnow hrest
      · next letter t _ _ _ =>
          have ht : ∀ value, value <:+ t → P value := fun value hvalue =>
            hends value (hvalue.trans ((List.suffix_cons _ t).trans (List.suffix_cons _ _)))
          exact (h.readShort letter ht).bind fun _ hnow => ih hnow hrest
      · split
        · exact ih (h.supply _ (hends _ List.suffix_rfl)) hrest
        · exact readsFilled_error _

theorem Filled.value? (h : Filled P r) {f : Flag} {value : Text}
    (hvalue : r.value? f = some value) : P value := by
  obtain ⟨entry, hentry, rfl⟩ := Option.map_eq_some_iff.mp hvalue
  exact h.given entry (List.mem_of_find?_eq_some hentry)

end Readings

section Setups

variable {environmentUrl? : Option Bytes} {arguments : List Text} {options : SetupOptions}

theorem exists_reading_of_read
    (h : CommandLine.read environmentUrl? arguments = .ok (.setup options)) :
    ∃ first rest r, arguments = first :: rest ∧ readArguments .setup .start rest = .ok r ∧
      setupOptions environmentUrl? r = .ok options := by
  cases arguments with
  | nil => simp [CommandLine.read] at h
  | cons first rest =>
      unfold CommandLine.read at h
      dsimp only at h
      split at h
      · cases hread : readArguments .setup .start rest with
        | error stop => simp [hread, bind, Except.bind] at h
        | ok r =>
            simp only [hread, bind, Except.bind] at h
            cases hoptions : setupOptions environmentUrl? r with
            | error e =>
                rw [hoptions] at h
                cases h
            | ok found =>
                rw [hoptions] at h
                obtain rfl : found = options := Command.setup.inj (Except.ok.inj h)
                exact ⟨first, rest, r, rfl, hread, hoptions⟩
      · simp only [bind, Except.bind] at h
        split at h <;> simp [pure, Except.pure] at h
      · split at h <;> simp at h
      · simp only [bind, Except.bind] at h
        split at h <;> simp at h

/-- The values of a setup are those that were read, but that the environment may give the release
address. -/
structure Takes (environmentUrl? : Option Bytes) (r : Reading) (options : SetupOptions) : Prop where
  os : options.os? = r.value? .os
  destination : options.destination? = r.value? .destination
  releaseUrl : ∀ url, options.releaseUrl? = some url → r.value? .releaseUrl = some url ∨
    ∃ bytes, environmentUrl? = some bytes ∧ Text.Utf8.decode? bytes = some url

theorem takes_of_setupOptions {r : Reading} (h : setupOptions environmentUrl? r = .ok options) :
    Takes environmentUrl? r options := by
  simp only [setupOptions, bind, Except.bind, pure, Except.pure] at h
  cases hgiven : r.value? .releaseUrl with
  | some url =>
      rw [hgiven] at h
      obtain rfl := Except.ok.inj h
      exact ⟨rfl, rfl, fun _ hurl => .inl (hgiven.trans hurl)⟩
  | none =>
      simp only [hgiven] at h
      cases environmentUrl? with
      | none =>
          obtain rfl := Except.ok.inj h
          exact ⟨rfl, rfl, by simp⟩
      | some bytes =>
          simp only at h
          cases hdecoded : Text.Utf8.decode? bytes with
          | none => simp [hdecoded] at h
          | some url =>
              rw [hdecoded] at h
              obtain rfl := Except.ok.inj h
              exact ⟨rfl, rfl, fun _ hurl => .inr ⟨bytes, rfl, hdecoded.trans hurl⟩⟩

/-- What is true of the ends of all arguments, and of the text that the environment gives, is true
of the directory and of the release address of a setup. -/
theorem values_of_read {P : Text → Prop}
    (h : CommandLine.read environmentUrl? arguments = .ok (.setup options))
    (harguments : ∀ argument ∈ arguments, ∀ value, value <:+ argument → P value)
    (henvironment : ∀ bytes url, environmentUrl? = some bytes →
      Text.Utf8.decode? bytes = some url → P url) :
    (∀ path ∈ options.destination?, P path) ∧ ∀ url ∈ options.releaseUrl?, P url := by
  obtain ⟨first, rest, r, rfl, hread, hoptions⟩ := exists_reading_of_read h
  have hrest : ∀ argument ∈ rest, ∀ value, value <:+ argument → P value :=
    fun argument hmem => harguments argument (List.mem_cons_of_mem _ hmem)
  have hfilled : Filled P r := (filled_start P).readArguments hrest r hread
  have htakes := takes_of_setupOptions hoptions
  refine ⟨?_, ?_⟩
  · rintro path hpath
    exact hfilled.value? (htakes.destination ▸ hpath)
  · rintro url hurl
    rcases htakes.releaseUrl url hurl with hvalue | ⟨bytes, hbytes, hdecoded⟩
    · exact hfilled.value? hvalue
    · exact henvironment bytes url hbytes hdecoded

end Setups

end ShaderTools.Proofs.FilledOptions
