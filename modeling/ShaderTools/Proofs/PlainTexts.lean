import ShaderTools.Download
import ShaderTools.Proofs.DecimalNumerals
import ShaderTools.Terminal.Report

/-!
Texts without the character that every sequence for a terminal starts with. Numbers and whatever is
percent-encoded never hold it, so no address that was read does, whatever text it was read from;
a report holds it only where one of its parts does.
-/

namespace ShaderTools.Proofs.PlainTexts

open ShaderTools.Http
open ShaderTools.Proofs.DecimalNumerals (forall_mem_numeralWithin)

section Texts

/-- No sequence for a terminal starts in a text. -/
def Plain (t : Text) : Prop := '\x1b' ∉ t

instance (t : Text) : Decidable (Plain t) := inferInstanceAs (Decidable (¬ _))

variable {s t : Text} {c : Char}

theorem plain_nil : Plain [] := List.not_mem_nil

@[simp] theorem plain_cons : Plain (c :: t) ↔ c ≠ '\x1b' ∧ Plain t := by
  simp [Plain, eq_comm]

@[simp] theorem plain_append : Plain (s ++ t) ↔ Plain s ∧ Plain t := by
  simp [Plain]

/-- The characters of a literal are looked at as they stand. -/
theorem plain_literal (h : Plain t) : Plain (String.ofList t).toList := by
  rwa [String.toList_ofList]

theorem plain_flatMap {α : Type} {l : List α} {f : α → Text} (h : ∀ a ∈ l, Plain (f a)) :
    Plain (l.flatMap f) := by
  simpa [Plain] using h

theorem Plain.of_subset (h : Plain t) (hs : s ⊆ t) : Plain s := fun hmem => h (hs hmem)

theorem plain_of_forall {P : Char → Prop} (h : ∀ c ∈ t, P c) (hP : ¬P '\x1b') : Plain t :=
  fun hmem => hP (h _ hmem)

theorem plain_intercalate (hs : Plain s) {pieces : List Text} (h : ∀ p ∈ pieces, Plain p) :
    Plain (List.intercalate s pieces) := by
  induction pieces with
  | nil => exact plain_nil
  | cons first rest ih =>
      have hfirst : Plain first := h first List.mem_cons_self
      have hrest := ih fun p hp => h p (List.mem_cons_of_mem _ hp)
      cases rest with
      | nil => simpa [List.intercalate] using hfirst
      | cons second rest =>
          rw [List.intercalate_cons_cons]
          exact plain_append.mpr ⟨plain_append.mpr ⟨hfirst, hs⟩, hrest⟩

theorem plain_numeralWithin {base : Nat} (hbase : base ≤ 36) (hpos : 0 < base) (room n : Nat) :
    Plain (Text.numeralWithin base room n) := by
  have hdigit : ∀ d < 36, Text.digit d ≠ '\x1b' := by decide
  have hnumeral : ∀ c ∈ Text.numeralWithin base room n, c ≠ '\x1b' :=
    forall_mem_numeralWithin hpos (fun d hd => hdigit d (by omega)) room n
  exact plain_of_forall hnumeral fun hescape => hescape rfl

theorem plain_ofNat (n : Nat) : Plain (Text.ofNat n) :=
  plain_numeralWithin (by decide) (by decide) _ n

theorem plain_numeral_hex (n : Nat) : Plain (Text.numeral 16 n) :=
  plain_numeralWithin (by decide) (by decide) _ n

end Texts

section Results

variable {ε α β : Type} {x y : Except ε α} {f : α → Except ε β} {b : β}

theorem bind_eq_ok_iff : x >>= f = .ok b ↔ ∃ a, x = .ok a ∧ f a = .ok b := by
  cases x <;> simp [bind, Except.bind]

/-- A choice between two results that goes on with either in the same way. -/
theorem ite_bind_eq_ok_iff {p : Prop} [Decidable p] :
    (if p then x >>= f else y >>= f) = .ok b ↔
      ∃ a, (if p then x else y) = .ok a ∧ f a = .ok b := by
  split <;> exact bind_eq_ok_iff

end Results

section Addresses

variable {t scheme host : Text} {u : Url}

theorem plain_percentByte (b : UInt8) : Plain (percentByte b) := by
  have hdigit : ∀ d < 16, upperDigit d ≠ '\x1b' := by decide
  have hb : b.toNat < 256 := b.toNat_lt
  have hhigh := hdigit (b.toNat / 16) (by omega)
  have hlow := hdigit (b.toNat % 16) (by omega)
  simp [percentByte, plain_nil, hhigh, hlow]

/-- Whatever the text is, it is encoded without the character. -/
theorem plain_percentEncode (isReserved : Char → Bool) (t : Text) :
    Plain (percentEncode isReserved t) := by
  refine plain_flatMap fun c _ => ?_
  split
  · exact plain_flatMap fun b _ => plain_percentByte b
  · next hc =>
      refine plain_cons.mpr ⟨?_, plain_nil⟩
      rintro rfl
      simp at hc

theorem plain_ipv6 (groups : List Nat) : Plain (Ipv6.text groups) := by
  have hgroups : ∀ groups, Plain (Ipv6.groupsText groups) := by
    intro groups
    refine plain_intercalate (by decide) fun p hp => ?_
    obtain ⟨n, -, rfl⟩ := List.mem_map.mp hp
    exact plain_numeral_hex n
  unfold Ipv6.text
  dsimp only
  split
  · exact hgroups groups
  · exact plain_append.mpr ⟨plain_append.mpr ⟨hgroups _, by decide⟩, hgroups _⟩

theorem plain_ipv4 (address : Nat) : Plain (Host.ipv4Text address) := by
  refine plain_intercalate (by decide) fun p hp => ?_
  obtain ⟨shift, -, rfl⟩ := List.mem_map.mp hp
  exact plain_ofNat _

theorem plain_ofBrackets (h : Host.ofBrackets t = .ok host) : Plain host := by
  unfold Host.ofBrackets at h
  split at h
  · obtain rfl := Except.ok.inj h
    exact plain_append.mpr ⟨plain_append.mpr ⟨by decide, plain_ipv6 _⟩, by decide⟩
  · simp at h

theorem plain_ofName (h : Host.ofName t = .ok host) : Plain host := by
  unfold Host.ofName at h
  split at h
  · simp at h
  · split at h
    · simp at h
    · next hname =>
        split at h
        · split at h
          · obtain rfl := Except.ok.inj h
            exact plain_ipv4 _
          · simp at h
        · obtain rfl := Except.ok.inj h
          have hall : ∀ c ∈ t, Host.isNameCharacter c = true := by simpa using hname
          exact plain_of_forall hall (by decide)

theorem plain_hostOfText (h : Host.ofText t = .ok host) : Plain host := by
  unfold Host.ofText at h
  split at h
  · exact plain_ofBrackets h
  · split at h
    · exact plain_ofName h
    · simp at h

theorem plain_opaqueHostOfText (h : Host.opaqueOfText t = .ok host) : Plain host := by
  unfold Host.opaqueOfText at h
  split at h
  · exact plain_ofBrackets h
  · split at h
    · simp at h
    · obtain rfl := Except.ok.inj h
      exact plain_percentEncode _ t

/-- Every part of an address is plain. -/
structure PlainUrl (u : Url) : Prop where
  scheme : Plain u.scheme
  login : Plain u.login
  host : ∀ host ∈ u.host?, Plain host
  path : Plain u.path
  query : ∀ query ∈ u.query?, Plain query
  fragment : ∀ fragment ∈ u.fragment?, Plain fragment

theorem plain_getD_map {α : Type} {f : α → Text} {a? : Option α} (h : ∀ a ∈ a?, Plain (f a)) :
    Plain ((a?.map f).getD []) := by
  cases a? with
  | none => exact plain_nil
  | some a => exact h a rfl

theorem PlainUrl.text (h : PlainUrl u) : Plain u.text := by
  have hport : Plain ((u.port?.map fun port => ':' :: Text.ofNat port).getD []) :=
    plain_getD_map fun port _ => plain_cons.mpr ⟨by decide, plain_ofNat port⟩
  have hquery : Plain ((u.query?.map ('?' :: ·)).getD []) :=
    plain_getD_map fun query hmem => plain_cons.mpr ⟨by decide, h.query query hmem⟩
  have hfragment : Plain ((u.fragment?.map ('#' :: ·)).getD []) :=
    plain_getD_map fun fragment hmem => plain_cons.mpr ⟨by decide, h.fragment fragment hmem⟩
  unfold Url.text
  simp only [plain_append]
  refine ⟨⟨⟨⟨⟨h.scheme, by decide⟩, ?_⟩, h.path⟩, hquery⟩, hfragment⟩
  split
  · next host hhost =>
      simp only [plain_append]
      exact ⟨⟨⟨by decide, h.login⟩, h.host host hhost⟩, hport⟩
  · split <;> decide

theorem PlainUrl.withoutFragment (h : PlainUrl u) : PlainUrl u.withoutFragment :=
  ⟨h.scheme, h.login, h.host, h.path, h.query, by simp [Url.withoutFragment]⟩

theorem PlainUrl.withoutLogin (h : PlainUrl u) : PlainUrl u.withoutLogin := by
  unfold Url.withoutLogin
  dsimp only
  split
  · exact h
  · exact h
  · exact ⟨h.scheme, plain_nil, h.host, h.path, h.query, h.fragment⟩

theorem plain_pathOfSegments {segments : List Text} (h : ∀ s ∈ segments, Plain s) :
    Plain (pathOfSegments segments) :=
  plain_flatMap fun s hs => plain_cons.mpr ⟨by decide, h s hs⟩

theorem plain_segmentsOfText (mayBeBackslash : Bool) (t : Text) :
    ∀ s ∈ Url.segmentsOfText mayBeBackslash t, Plain s := by
  intro s hs
  obtain ⟨segment, -, rfl⟩ := List.mem_map.mp hs
  exact plain_percentEncode _ segment

theorem plain_pathOfText (mayBeBackslash : Bool) (t : Text) :
    Plain (Url.pathOfText mayBeBackslash t) :=
  plain_pathOfSegments (plain_segmentsOfText mayBeBackslash t)

theorem plain_loginOfText (t : Text) : Plain (Url.loginOfText t) := by
  unfold Url.loginOfText
  dsimp only
  split
  · exact plain_nil
  · simp only [plain_append]
    refine ⟨⟨plain_percentEncode _ _, ?_⟩, by decide⟩
    split
    · exact plain_nil
    · exact plain_cons.mpr ⟨by decide, plain_percentEncode _ _⟩

theorem toLower_ne_escape {c : Char} (h : c ≠ '\x1b') : c.toLower ≠ '\x1b' := by
  unfold Char.toLower
  split
  · next hupper =>
      intro heq
      have hval : c.val + 32 = 0x1b := congrArg Char.val heq
      have hlow : 65 ≤ c.val := hupper.1
      have hhigh : c.val ≤ 90 := hupper.2
      have hsum := congrArg UInt32.toNat hval
      simp [UInt32.le_iff_toNat_le] at hlow hhigh hsum
      omega
  · exact h

theorem plain_scheme {rest : Text} (h : Url.scheme? t = some (scheme, rest)) : Plain scheme := by
  unfold Url.scheme? at h
  split at h
  · next c front behind hcut =>
      split at h
      · next hchars =>
          obtain ⟨rfl, -⟩ := Prod.mk.inj (Option.some.inj h)
          simp only [Bool.and_eq_true, List.all_eq_true] at hchars
          have hall : ∀ d ∈ c :: front, Url.isSchemeCharacter d = true := by
            intro d hd
            rcases List.mem_cons.mp hd with rfl | hd
            · simp [Url.isSchemeCharacter, Char.isAlphanum, hchars.1]
            · exact hchars.2 d hd
          have hplain : Plain (c :: front) := plain_of_forall hall (by decide)
          intro hmem
          obtain ⟨d, hd, hlower⟩ := List.mem_map.mp hmem
          exact toLower_ne_escape (fun heq => hplain (heq ▸ hd)) hlower
      · simp at h
  · simp at h

theorem plainUrl_ofServer {isWhole : Bool} (hscheme : Plain scheme)
    (h : Url.ofServer scheme isWhole t = .ok u) : PlainUrl u := by
  unfold Url.ofServer at h
  dsimp only at h
  split at h
  · cases h
  · obtain ⟨host, hhost, h⟩ := ite_bind_eq_ok_iff.mp h
    obtain ⟨⟨port?, rest⟩, -, h⟩ := bind_eq_ok_iff.mp h
    dsimp only at h
    split at h
    · cases h
    · obtain rfl := Except.ok.inj h
      refine ⟨hscheme, plain_loginOfText _, ?_, ?_, by simp, by simp⟩
      · rintro found hfound
        obtain rfl : host = found := Option.some.inj hfound
        split at hhost
        · exact plain_hostOfText hhost
        · exact plain_opaqueHostOfText hhost
      · dsimp only
        split
        · exact plain_nil
        · exact plain_pathOfText _ rest

theorem plainUrl_ofFilePath {segments : List Text} (hhost : Plain host)
    (h : ∀ s ∈ segments, Plain s) : PlainUrl (Url.ofFilePath host segments) := by
  have hpath : Plain (Url.filePath segments) := by
    refine plain_cons.mpr ⟨by decide, ?_⟩
    exact (plain_pathOfSegments h).of_subset (List.dropWhile_subset _)
  exact ⟨by show Plain Url.fileScheme; decide, plain_nil, by simpa [Url.ofFilePath] using hhost,
    hpath, by simp [Url.ofFilePath], by simp [Url.ofFilePath]⟩

theorem plainUrl_ofDrivePath {segments : List Text} (hhost : Plain host)
    (h : ∀ s ∈ segments, Plain s) : PlainUrl (Url.ofDrivePath host segments) := by
  unfold Url.ofDrivePath
  split
  · refine plainUrl_ofFilePath plain_nil ?_
    unfold Url.showDrive
    split
    · next letter mark rest =>
        rintro s hs
        rcases List.mem_cons.mp hs with rfl | hs
        · have hletter := h _ List.mem_cons_self
          simp only [plain_cons] at hletter ⊢
          exact ⟨hletter.1, by decide, plain_nil⟩
        · exact h s (List.mem_cons_of_mem _ hs)
    · exact h
  · exact plainUrl_ofFilePath hhost h

theorem plainUrl_ofFile (h : Url.ofFile t = .ok u) : PlainUrl u := by
  unfold Url.ofFile at h
  split at h
  · obtain rfl := Except.ok.inj h
    exact plainUrl_ofDrivePath plain_nil (plain_segmentsOfText _ _)
  · dsimp only at h
    split at h
    · obtain rfl := Except.ok.inj h
      exact plainUrl_ofDrivePath plain_nil (plain_segmentsOfText _ _)
    · obtain ⟨host, hhost, h⟩ := ite_bind_eq_ok_iff.mp h
      have hplain : Plain host := by
        split at hhost
        · obtain rfl := Except.ok.inj hhost
          exact plain_nil
        · exact plain_hostOfText hhost
      split at h
      · obtain rfl := Except.ok.inj h
        exact plainUrl_ofFilePath plain_nil (plain_segmentsOfText _ _)
      · obtain rfl := Except.ok.inj h
        exact plainUrl_ofDrivePath hplain (plain_segmentsOfText _ _)

theorem plainUrl_ofRest {isWhole : Bool} (hscheme : Plain scheme)
    (h : Url.ofRest scheme isWhole t = .ok u) : PlainUrl u := by
  unfold Url.ofRest at h
  split at h
  · exact plainUrl_ofFile h
  · split at h
    · exact plainUrl_ofServer hscheme h
    · split at h
      · exact plainUrl_ofServer hscheme h
      · obtain rfl := Except.ok.inj h
        exact ⟨hscheme, plain_nil, by simp, plain_pathOfText _ _, by simp, by simp⟩
      · obtain rfl := Except.ok.inj h
        exact ⟨hscheme, plain_nil, by simp, plain_percentEncode _ _, by simp, by simp⟩

/-- No address that was read holds the character. -/
theorem plainUrl_ofText (h : Url.ofText t = .ok u) : PlainUrl u := by
  unfold Url.ofText at h
  dsimp only at h
  split at h
  · cases h
  · next scheme rest hscheme =>
      obtain ⟨found, hfound, h⟩ := bind_eq_ok_iff.mp h
      obtain rfl := Except.ok.inj h
      have hplain := plainUrl_ofRest (plain_scheme hscheme) hfound
      refine ⟨hplain.scheme, hplain.login, hplain.host, hplain.path, ?_, ?_⟩
      · rintro query hquery
        obtain ⟨text, -, rfl⟩ := Option.map_eq_some_iff.mp hquery
        exact plain_percentEncode _ text
      · rintro fragment hfragment
        obtain ⟨text, -, rfl⟩ := Option.map_eq_some_iff.mp hfragment
        exact plain_percentEncode _ text

end Addresses

section Reports

variable {what t : Text} {causes : List Text}

theorem plain_blanks (count : Nat) : Plain (List.replicate count ' ') :=
  fun hmem => absurd (List.eq_of_mem_replicate hmem) (by decide)

theorem plain_indentLines {indent : Text} (hindent : Plain indent) (h : Plain t) :
    Plain (Terminal.indentLines indent t) := by
  refine plain_flatMap fun c hc => ?_
  split
  · exact plain_cons.mpr ⟨by decide, hindent⟩
  · exact plain_cons.mpr ⟨fun heq => h (heq ▸ hc), plain_nil⟩

theorem plain_numberedCauses (h : ∀ cause ∈ causes, Plain cause) (n : Nat) :
    Plain (Terminal.numberedCauses n causes) := by
  induction causes generalizing n with
  | nil => exact plain_nil
  | cons cause rest ih =>
      have hcause : Plain cause := h cause List.mem_cons_self
      have hrest := ih (fun other hother => h other (List.mem_cons_of_mem _ hother)) (n + 1)
      have hnumber : Plain (Terminal.causeNumber n) := by
        simp only [Terminal.causeNumber, plain_append]
        exact ⟨⟨plain_blanks _, plain_ofNat n⟩, by decide⟩
      simp only [Terminal.numberedCauses, plain_append, plain_cons]
      exact ⟨⟨by decide, hnumber, plain_indentLines (plain_blanks 7) hcause⟩, hrest⟩

/-- A report of plain parts is plain. -/
theorem plain_report (hwhat : Plain what) (h : ∀ cause ∈ causes, Plain cause) :
    Plain (Terminal.report what causes) := by
  refine plain_append.mpr ⟨plain_append.mpr ⟨plain_append.mpr ⟨by decide, hwhat⟩, ?_⟩, by decide⟩
  split
  · exact plain_nil
  · next cause =>
      have hcause := plain_indentLines (plain_blanks 4) (h cause List.mem_cons_self)
      exact plain_append.mpr ⟨by decide, hcause⟩
  · exact plain_append.mpr ⟨by decide, plain_numberedCauses h 0⟩

theorem plain_settingEntry {path : Path} (h : Plain path) : Plain (settingEntry path) := by
  have hdoubled : Plain (path.flatMap fun c => if c = '\\' then ['\\', '\\'] else [c]) := by
    refine plain_flatMap fun c hc => ?_
    split
    · decide
    · exact plain_cons.mpr ⟨fun heq => h (heq ▸ hc), plain_nil⟩
  simp only [settingEntry, plain_cons, plain_append]
  exact ⟨by decide, ⟨⟨by decide, by decide⟩, hdoubled⟩, by decide⟩

end Reports

end ShaderTools.Proofs.PlainTexts
