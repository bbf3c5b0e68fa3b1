import Mathlib.Data.List.TakeWhile
import ShaderTools.Proofs.JsonSpellings
import ShaderTools.Release

/-!
The line of the editor's settings that names a validator, as a JSON text. Of all characters only
the backslash is written in another way than it stands. The line in braces is thus an object with
the path as its one value where the path has no quote and no control character, and with any other
path it is not.
-/

namespace ShaderTools.Proofs.SettingLines

open ShaderTools.Proofs.JsonReading
open ShaderTools.Proofs.JsonSpellings

section OutermostMembers

/-- The members that have been read of the outermost value, when those of the innermost one are
given. A value that is no object has none. -/
def outermost (inner : List (Text × Json)) : List Frame → List (Text × Json)
  | [] => inner
  | .array _ :: frames => outermost [] frames
  | .member before _ :: frames => outermost before frames

def membersOf : Json → List (Text × Json)
  | .object members => members
  | _ => []

def readMembers : Awaited → List (Text × Json)
  | .value frames => outermost [] frames
  | .key before frames => outermost before frames
  | .colon before _ frames => outermost before frames
  | .close v [] => membersOf v
  | .close _ (.array _ :: frames) => outermost [] frames
  | .close v (.member before key :: frames) => outermost (before ++ [(key, v)]) frames

theorem outermost_mono {inner inner' : List (Text × Json)} (h : inner <+: inner')
    (frames : List Frame) : outermost inner frames <+: outermost inner' frames := by
  cases frames with
  | nil => exact h
  | cons frame frames => cases frame <;> exact List.prefix_rfl

theorem outermost_prefix_close (v : Json) (frames : List Frame) :
    outermost (membersOf v) frames <+: readMembers (.close v frames) := by
  match frames with
  | [] => exact List.prefix_rfl
  | .array _ :: _ => exact List.prefix_rfl
  | .member before key :: frames => exact outermost_mono (List.prefix_append _ _) frames

variable {awaited next : Awaited} {s s' : State}

theorem readMembers_take? {token : Token} (h : take? awaited token = some next) :
    readMembers awaited <+: readMembers next := by
  have hclose : ∀ v frames, outermost [] frames <+: readMembers (.close v frames) :=
    fun v frames => (outermost_mono (List.nil_prefix) frames).trans
      (outermost_prefix_close v frames)
  unfold take? at h
  split at h
  case h_2 =>
    obtain ⟨v, -, rfl⟩ := Option.map_eq_some_iff.mp h
    exact hclose v _
  all_goals cases h
  case h_1 => exact hclose _ _
  case h_4 frames => exact hclose (.array []) frames
  case h_6 => exact hclose _ _
  case h_10 => exact hclose _ _
  case h_12 => exact outermost_prefix_close (.object _) _
  all_goals exact List.prefix_rfl

theorem readMembers_begin? {c : Char} (h : begin? awaited c = some s) :
    readMembers awaited <+: readMembers s.awaited := by
  unfold begin? at h
  split at h
  · cases h
    exact List.prefix_rfl
  split at h
  · cases h
    exact List.prefix_rfl
  split at h
  · cases h
    exact List.prefix_rfl
  · simp only [Option.bind_eq_bind, Option.bind_eq_some_iff, Option.pure_def] at h
    obtain ⟨token, -, next, htake, hs⟩ := h
    cases hs
    exact readMembers_take? htake

theorem awaited_of_map {α : Type} {position : α → Position} {read? : Option α}
    (h : read?.map (fun a => (⟨position a, awaited⟩ : State)) = some s') :
    s'.awaited = awaited := by
  obtain ⟨a, -, rfl⟩ := Option.map_eq_some_iff.mp h
  rfl

theorem readMembers_readChar {c : Char} (h : readChar s c = some s') :
    readMembers s.awaited <+: readMembers s'.awaited := by
  have hkept : s'.awaited = s.awaited → readMembers s.awaited <+: readMembers s'.awaited :=
    fun hs => hs ▸ List.prefix_rfl
  unfold readChar at h
  split at h
  case h_1 => exact readMembers_begin? h
  case h_2 read _ =>
    split at h
    · obtain ⟨next, htake, rfl⟩ := Option.map_eq_some_iff.mp h
      exact readMembers_take? htake
    · split_ifs at h <;> cases h <;> exact List.prefix_rfl
  case h_3 read _ =>
    split at h
    · cases h
      exact List.prefix_rfl
    · exact hkept (awaited_of_map h)
  case h_4 read high? owed value _ =>
    simp only [Option.bind_eq_bind, Option.bind_eq_some_iff] at h
    obtain ⟨digit, -, h⟩ := h
    split at h
    · exact hkept (awaited_of_map h)
    · cases h
      exact List.prefix_rfl
  case h_5 =>
    split_ifs at h
    cases h
    exact List.prefix_rfl
  case h_6 =>
    split_ifs at h
    cases h
    exact List.prefix_rfl
  case h_7 read _ =>
    split at h
    · cases h
      exact List.prefix_rfl
    · obtain ⟨next, htake, hbegin⟩ := Option.bind_eq_some_iff.mp h
      exact (readMembers_take? htake).trans (readMembers_begin? hbegin)

theorem readMembers_reads {t : Text} (h : Reads s t s') :
    readMembers s.awaited <+: readMembers s'.awaited := by
  unfold Reads at h
  induction t generalizing s with
  | nil =>
      cases h
      exact List.prefix_rfl
  | cons c rest ih =>
      rw [List.foldlM_cons] at h
      obtain ⟨next, hc, hrest⟩ := Option.bind_eq_some_iff.mp h
      exact (readMembers_readChar hc).trans (ih hrest)

theorem readMembers_valueAtEnd? {v : Json} (h : valueAtEnd? s = some v) :
    readMembers s.awaited <+: membersOf v := by
  simp only [valueAtEnd?] at h
  split at h
  · next taken hlast =>
      obtain rfl := Option.some.inj h
      split at hlast
      · rw [Option.some.inj hlast]
        exact List.prefix_rfl
      · exact readMembers_take? hlast
      · cases hlast
  · cases h

/-- What has been read of the outermost value stays in front of its members. -/
theorem readMembers_prefix_of_decode? {start rest : Text} {v : Json}
    (hstart : Reads ⟨.between, .value []⟩ start s) (h : decode? (start ++ rest) = some v) :
    readMembers s.awaited <+: membersOf v := by
  unfold Reads at hstart
  rw [decode?, List.foldlM_append, hstart] at h
  obtain ⟨last, hrest, hend⟩ := Option.bind_eq_some_iff.mp h
  exact (readMembers_reads hrest).trans (readMembers_valueAtEnd? hend)

end OutermostMembers

section Settings

def inBraces (t : Text) : Text := '\x7b' :: (t ++ ['\x7d'])

/-- Whether a character can stand in a JSON string as the line writes it. -/
def isPlain (c : Char) : Bool := c ≠ '"' && 0x20 ≤ c.toNat

/-- A text in which each backslash is doubled. -/
def doubled (t : Text) : Text := t.flatMap fun c => if c = '\\' then ['\\', '\\'] else [c]

/-- The line in braces up to the start of the path. -/
def lineStart : Text := "\x7b\"".toList ++ settingKey ++ "\": \"".toList

variable (path : Text)

theorem inBraces_settingEntry :
    inBraces (settingEntry path) = lineStart ++ (doubled path ++ "\"\x7d".toList) := by
  simp [inBraces, settingEntry, lineStart, doubled]

theorem reads_lineStart : Reads ⟨.between, .value []⟩ lineStart
    ⟨.string [], .value [.member [] settingKey]⟩ := rfl

theorem isPlain_iff {c : Char} : isPlain c = true ↔ c ≠ '"' ∧ 0x20 ≤ c.toNat := by
  simp [isPlain]

theorem doubled_cons (c : Char) (rest : Text) :
    doubled (c :: rest) = (if c = '\\' then ['\\', '\\'] else [c]) ++ doubled rest := rfl

theorem spellsChars_doubled {t : Text} (h : ∀ c ∈ t, isPlain c = true) :
    SpellsChars (doubled t) t := by
  induction t with
  | nil => exact .nil
  | cons c rest ih =>
      rw [doubled_cons]
      refine .cons ?_ (ih fun d hd => h d (List.mem_cons_of_mem _ hd))
      obtain ⟨hquote, hcontrol⟩ := isPlain_iff.mp (h c List.mem_cons_self)
      by_cases hslash : c = '\\'
      · rw [if_pos hslash, hslash]
        exact .letter rfl
      · rw [if_neg hslash]
        exact .plain hquote hslash hcontrol

/-- The one member that the line is to spell. -/
def settingMember : Member where
  keySpelling := '"' :: (settingKey ++ ['"'])
  key := settingKey
  valueSpelling := [' '] ++ '"' :: (doubled path ++ ['"']) ++ []
  value := .string path

theorem spells_settingEntry (h : ∀ c ∈ path, isPlain c = true) :
    Spells (inBraces (settingEntry path)) (.object [(settingKey, .string path)]) := by
  have hkeys : ∀ m ∈ [settingMember path], SpellsKey m.keySpelling m.key :=
    List.forall_mem_singleton.mpr ⟨[], settingKey, [], isBlanks_nil, isBlanks_nil,
      spellsChars_escapes settingKey, rfl⟩
  have hvalues : ∀ m ∈ [settingMember path], Spells m.valueSpelling m.value :=
    List.forall_mem_singleton.mpr
      (.blanks (List.forall_mem_singleton.mpr rfl) isBlanks_nil (.string (spellsChars_doubled h)))
  have hobject := Spells.object (List.cons_ne_nil _ _) hkeys hvalues
  simpa [settingMember, Member.spelling, inBraces_settingEntry, lineStart] using hobject

theorem reads_lineStart_append {front : Text} (h : ∀ c ∈ front, isPlain c = true) :
    Reads ⟨.between, .value []⟩ (lineStart ++ doubled front)
      ⟨.string front, .value [.member [] settingKey]⟩ :=
  reads_lineStart.append (reads_spelledChars [] (spellsChars_doubled h))

theorem reads_to_quote {front : Text} (h : ∀ c ∈ front, isPlain c = true) :
    Reads ⟨.between, .value []⟩ (lineStart ++ doubled front ++ ['"'])
      ⟨.between, .close (.string front) [.member [] settingKey]⟩ :=
  (reads_lineStart_append h).append (reads_singleton rfl)

theorem inBraces_settingEntry_append (front : Text) {c : Char} (hc : c ≠ '\\') (rest : Text) :
    inBraces (settingEntry (front ++ c :: rest)) =
      (lineStart ++ doubled front) ++ c :: (doubled rest ++ "\"\x7d".toList) := by
  simp [inBraces_settingEntry, doubled, hc]

/-- A control character in the path, before any quote, leaves nothing that can be read. -/
theorem decode?_settingEntry_of_control {front : Text} (h : ∀ c ∈ front, isPlain c = true)
    {c : Char} (hc : c.toNat < 0x20) (rest : Text) :
    decode? (inBraces (settingEntry (front ++ c :: rest))) = none := by
  have hslash : c ≠ '\\' := by
    rintro rfl
    exact absurd hc (by decide)
  have hquote : c ≠ '"' := by
    rintro rfl
    exact absurd hc (by decide)
  have hstart := reads_lineStart_append h
  unfold Reads at hstart
  rw [inBraces_settingEntry_append front hslash, decode?, List.foldlM_append, hstart]
  simp [readChar, hquote, hslash, hc]

theorem members_of_quote {front : Text} (h : ∀ c ∈ front, isPlain c = true) {rest : Text} {v : Json}
    (hread : decode? (inBraces (settingEntry (front ++ '"' :: rest))) = some v) :
    [(settingKey, .string front)] <+: membersOf v := by
  rw [inBraces_settingEntry_append front (by decide), List.append_cons] at hread
  exact readMembers_prefix_of_decode? (reads_to_quote h) hread

theorem firstMember_settingEntry {v : Json}
    (hread : decode? (inBraces (settingEntry path)) = some v) :
    [(settingKey, .string (path.takeWhile isPlain))] <+: membersOf v := by
  have hfront : ∀ c ∈ path.takeWhile isPlain, isPlain c = true := fun c => List.mem_takeWhile_imp
  cases hrest : path.dropWhile isPlain with
  | nil =>
      have hpath := List.dropWhile_eq_nil_iff.mp hrest
      rw [(spells_settingEntry path hpath).decode?_eq] at hread
      rw [List.takeWhile_eq_self_iff.mpr hpath, ← Option.some.inj hread]
      exact List.prefix_rfl
  | cons c rest =>
      have hc : ¬ isPlain c = true := by
        have hhead := List.head?_dropWhile_not isPlain path
        simpa [hrest] using hhead
      have hpath : path = path.takeWhile isPlain ++ c :: rest := by
        rw [← hrest, List.takeWhile_append_dropWhile]
      by_cases hquote : c = '"'
      · rw [hpath, hquote] at hread
        exact members_of_quote hfront hread
      · have hcontrol : c.toNat < 0x20 := by
          by_contra hle
          exact hc (isPlain_iff.mpr ⟨hquote, Nat.not_lt.mp hle⟩)
        rw [hpath, decode?_settingEntry_of_control hfront hcontrol] at hread
        cases hread

/-- The line in braces spells the object of one member with the path for its value, and is read as
that object, exactly if the path has no quote and no control character. For a reader that takes any
other line, the path ends at its first quote. -/
theorem settingEntry_object_iff :
    (Spells (inBraces (settingEntry path)) (.object [(settingKey, .string path)]) ↔
      ∀ c ∈ path, c ≠ '"' ∧ 0x20 ≤ c.toNat) ∧
    (decode? (inBraces (settingEntry path)) = some (.object [(settingKey, .string path)]) ↔
      ∀ c ∈ path, c ≠ '"' ∧ 0x20 ≤ c.toNat) ∧
    ∀ v, decode? (inBraces (settingEntry path)) = some v →
      [(settingKey, .string (path.takeWhile isPlain))] <+: membersOf v := by
  have hplain : (∀ c ∈ path, c ≠ '"' ∧ 0x20 ≤ c.toNat) → ∀ c ∈ path, isPlain c = true :=
    fun h c hc => isPlain_iff.mpr (h c hc)
  have hread :
      decode? (inBraces (settingEntry path)) = some (.object [(settingKey, .string path)]) →
        ∀ c ∈ path, c ≠ '"' ∧ 0x20 ≤ c.toNat := by
    intro h c hc
    have hfirst := firstMember_settingEntry path h
    have hfront : path.takeWhile isPlain = path := by
      simpa [membersOf] using hfirst
    exact isPlain_iff.mp (List.takeWhile_eq_self_iff.mp hfront c hc)
  refine ⟨⟨fun h => hread h.decode?_eq, fun h => spells_settingEntry path (hplain h)⟩,
    ⟨hread, fun h => (spells_settingEntry path (hplain h)).decode?_eq⟩, fun v h => ?_⟩
  exact firstMember_settingEntry path h

/-- With a quote or a line feed in the path the line may spell nothing, and with quotes it may
spell two members. -/
theorem settingEntry_other :
    (∀ v, ¬ Spells (inBraces (settingEntry "a\"b".toList)) v) ∧
    (∀ v, ¬ Spells (inBraces (settingEntry "a\nb".toList)) v) ∧
    decode? (inBraces (settingEntry "x\", \"y\": \"z".toList)) =
      some (.object [(settingKey, .string ['x']), (['y'], .string ['z'])]) :=
  ⟨not_spells_of_decode? rfl, not_spells_of_decode? rfl, rfl⟩

end Settings

end ShaderTools.Proofs.SettingLines
