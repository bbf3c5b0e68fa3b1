import ShaderTools.Proofs.JsonReading

/-!
The JSON texts that spell a value. Blanks may stand around each part of a text, and a character of
a string may be written in several ways. Each spelling of a value is read as that value, so that no
text spells two of them; and what is written of a value made of texts is one of its spellings.
-/

namespace ShaderTools.Proofs.JsonSpellings

open ShaderTools.Proofs.JsonReading

section Grammar

def IsBlanks (t : Text) : Prop := ∀ c ∈ t, isBlank c = true

/-- Four hexadecimal digits with a value. -/
def IsCode (digits : Text) (n : Nat) : Prop :=
  ∃ a b c d, digits.map hexValue? = [some a, some b, some c, some d] ∧
    n = 16 * (16 * (16 * a + b) + c) + d

/-- A character of a string as it stands, by a letter behind a backslash, or by its code. A
character whose code has more than four digits takes a pair of codes. -/
inductive SpellsChar : Text → Char → Prop
  | plain {c : Char} (hquote : c ≠ '"') (hslash : c ≠ '\\') (hcontrol : 0x20 ≤ c.toNat) :
      SpellsChar [c] c
  | letter {letter c : Char} (h : unescape? letter = some c) : SpellsChar ['\\', letter] c
  | code {digits : Text} {n : Nat} (h : IsCode digits n) (hsingle : n < 0xd800 ∨ 0xdfff < n) :
      SpellsChar ('\\' :: 'u' :: digits) (Char.ofNat n)
  | pair {high low : Text} {n m : Nat} (hhigh : IsCode high n) (hlow : IsCode low m)
      (hn : 0xd800 ≤ n ∧ n ≤ 0xdbff) (hm : 0xdc00 ≤ m ∧ m ≤ 0xdfff) :
      SpellsChar ('\\' :: 'u' :: (high ++ '\\' :: 'u' :: low))
        (Char.ofNat (0x10000 + 0x400 * (n - 0xd800) + (m - 0xdc00)))

/-- The characters of a string, one after the other. -/
inductive SpellsChars : Text → Text → Prop
  | nil : SpellsChars [] []
  | cons {spelling rest t : Text} {c : Char} (hc : SpellsChar spelling c)
      (h : SpellsChars rest t) : SpellsChars (spelling ++ rest) (c :: t)

/-- A member of an object, with the texts that spell its key and its value. -/
structure Member where
  keySpelling : Text
  key : Text
  valueSpelling : Text
  value : Json

def Member.spelling (m : Member) : Text := m.keySpelling ++ ':' :: m.valueSpelling

/-- The key of a member, with blanks around it. -/
def SpellsKey (t key : Text) : Prop :=
  ∃ before inner after, IsBlanks before ∧ IsBlanks after ∧ SpellsChars inner key ∧
    t = before ++ '"' :: (inner ++ '"' :: after)

/-- A text spells a value. -/
inductive Spells : Text → Json → Prop
  | blanks {before t after : Text} {v : Json} (hbefore : IsBlanks before)
      (hafter : IsBlanks after) (h : Spells t v) : Spells (before ++ t ++ after) v
  /-- One of the three words, or a number. -/
  | bare {t : Text} {v : Json} (h : bareValue? t = some v) : Spells t v
  | string {inner t : Text} (h : SpellsChars inner t) :
      Spells ('"' :: (inner ++ ['"'])) (.string t)
  | emptyArray {t : Text} (h : IsBlanks t) : Spells ('[' :: (t ++ [']'])) (.array [])
  | array {items : List (Text × Json)} (hne : items ≠ [])
      (h : ∀ item ∈ items, Spells item.1 item.2) :
      Spells ('[' :: (List.intercalate [','] (items.map Prod.fst) ++ [']']))
        (.array (items.map Prod.snd))
  | emptyObject {t : Text} (h : IsBlanks t) : Spells ('\x7b' :: (t ++ ['\x7d'])) (.object [])
  | object {members : List Member} (hne : members ≠ [])
      (hkeys : ∀ m ∈ members, SpellsKey m.keySpelling m.key)
      (hvalues : ∀ m ∈ members, Spells m.valueSpelling m.value) :
      Spells ('\x7b' :: (List.intercalate [','] (members.map Member.spelling) ++ ['\x7d']))
        (.object (members.map fun m => (m.key, m.value)))

end Grammar

theorem isBlanks_nil : IsBlanks [] := fun _ hc => absurd hc List.not_mem_nil

section Strings

variable {awaited next : Awaited} (read : Text)

theorem reads_digit (high? : Option Nat) {owed value n : Nat} {c : Char} (howed : 1 < owed)
    (hc : hexValue? c = some n) :
    readChar ⟨.code read high? owed value, awaited⟩ c =
      some ⟨.code read high? (owed - 1) (16 * value + n), awaited⟩ := by
  simp [readChar, hc, Nat.not_le.mpr howed]

theorem reads_code (high? : Option Nat) {digits : Text} {n : Nat} {position : Position}
    (h : IsCode digits n) (hcode : ofCode? read high? n = some position) :
    Reads ⟨.code read high? 4 0, awaited⟩ digits ⟨position, awaited⟩ := by
  obtain ⟨a, b, c, d, hvalues, rfl⟩ := h
  simp only [List.map_eq_cons_iff, List.map_eq_nil_iff] at hvalues
  obtain ⟨first, -, rfl, hfirst, second, -, rfl, hsecond, third, -, rfl, hthird, last, -, rfl,
    hlast, rfl⟩ := hvalues
  refine Reads.cons (reads_digit read high? (by omega) hfirst) ?_
  refine Reads.cons (reads_digit read high? (by omega) hsecond) ?_
  refine Reads.cons (reads_digit read high? (by omega) hthird) ?_
  refine reads_singleton ?_
  simp [readChar, hlast, hcode]

theorem reads_spelledChar {spelling : Text} {c : Char} (h : SpellsChar spelling c) :
    Reads ⟨.string read, awaited⟩ spelling ⟨.string (read ++ [c]), awaited⟩ := by
  cases h with
  | plain hquote hslash hcontrol =>
      refine reads_singleton ?_
      simp [readChar, hquote, hslash, Nat.not_lt.mpr hcontrol]
  | @letter letter c h =>
      have hletter : letter ≠ 'u' := by
        rintro rfl
        simp [unescape?] at h
      refine Reads.cons rfl (reads_singleton ?_)
      simp [readChar, hletter, h]
  | @code digits n h hsingle =>
      refine Reads.cons rfl (Reads.cons rfl (reads_code read none h ?_))
      rw [ofCode?, if_neg (by omega), if_neg (by omega)]
  | @pair high low n m hhigh hlow hn hm =>
      have hfirst : ofCode? read none n = some (.pair read n) := by rw [ofCode?, if_pos hn]
      refine Reads.cons rfl (Reads.cons rfl ((reads_code read none hhigh hfirst).append ?_))
      refine Reads.cons rfl (Reads.cons rfl (reads_code read (some n) hlow ?_))
      rw [ofCode?, if_pos hm]

theorem reads_spelledChars {inner t : Text} (h : SpellsChars inner t) :
    Reads ⟨.string read, awaited⟩ inner ⟨.string (read ++ t), awaited⟩ := by
  induction h generalizing read with
  | nil =>
      rw [List.append_nil]
      exact reads_nil _
  | @cons spelling rest t c hc h ih =>
      rw [List.append_cons]
      exact (reads_spelledChar read hc).append (ih (read ++ [c]))

theorem reads_string {inner t : Text} (h : SpellsChars inner t)
    (htake : take? awaited (.string t) = some next) :
    Reads ⟨.between, awaited⟩ ('"' :: (inner ++ ['"'])) ⟨.between, next⟩ := by
  refine Reads.cons rfl ((reads_spelledChars [] h).append (reads_singleton ?_))
  simp [readChar, htake]

theorem reads_key {t key : Text} (h : SpellsKey t key) (before : List (Text × Json))
    (frames : List Frame) :
    Reads ⟨.between, .key before frames⟩ t ⟨.between, .colon before key frames⟩ := by
  obtain ⟨blanks, inner, after, hblanks, hafter, hinner, rfl⟩ := h
  have hstring := reads_string hinner (take?_key before key frames)
  have hkey := ((reads_blanks hblanks).append hstring).append (reads_blanks hafter)
  simpa using hkey

end Strings

section BareTokens

theorem mem_of_mem_cut (mark : Char) {c : Char} {t : Text} (h : c ∈ t) :
    c = mark ∨ c ∈ (Text.cut mark t).1 ∨
      ∃ behind, (Text.cut mark t).2 = some behind ∧ c ∈ behind := by
  induction t with
  | nil => simp at h
  | cons first rest ih =>
      unfold Text.cut
      split
      · next hfirst =>
          rcases List.mem_cons.mp h with rfl | hrest
          · exact Or.inl hfirst
          · exact Or.inr (Or.inr ⟨rest, rfl, hrest⟩)
      · rcases List.mem_cons.mp h with rfl | hrest
        · exact Or.inr (Or.inl List.mem_cons_self)
        · rcases ih hrest with hmark | hbefore | hbehind
          · exact Or.inl hmark
          · exact Or.inr (Or.inl (List.mem_cons_of_mem _ hbefore))
          · exact Or.inr (Or.inr hbehind)

theorem isBare_of_isDigits {t : Text} (h : isDigits t = true) {c : Char} (hc : c ∈ t) :
    isBare c = true := by
  simp only [isDigits, Bool.and_eq_true, List.all_eq_true] at h
  have hdigit : c.isDigit = true := by
    have hrange := h.2 c hc
    simpa [Char.isDigit, Char.le_def] using hrange
  simp [isBare, Char.isAlphanum, hdigit]

theorem isBare_of_isExponent {t : Text} (h : isExponent t = true) {c : Char} (hc : c ∈ t) :
    isBare c = true := by
  unfold isExponent at h
  split at h
  · rcases List.mem_cons.mp hc with rfl | hdigit
    · rfl
    · exact isBare_of_isDigits h hdigit
  · rcases List.mem_cons.mp hc with rfl | hdigit
    · rfl
    · exact isBare_of_isDigits h hdigit
  · exact isBare_of_isDigits h hc

theorem mem_withoutFirst {mark c : Char} {t : Text} (h : c ∈ t) (hc : c ≠ mark) :
    c ∈ t.withoutFirst mark := by
  cases t with
  | nil => exact h
  | cons first rest =>
      rw [Text.withoutFirst]
      split
      · next hfirst =>
          rcases List.mem_cons.mp h with rfl | hrest
          · exact absurd hfirst hc
          · exact hrest
      · exact h

theorem isBare_of_isNumber {t : Text} (h : isNumber t = true) {c : Char} (hc : c ∈ t) :
    isBare c = true := by
  simp only [isNumber, isWholeNumber, Bool.and_eq_true, Option.all_eq_true] at h
  obtain ⟨⟨⟨hwhole, -⟩, hfraction⟩, hexponent⟩ := h
  by_cases hupper : c = 'E'
  · rw [hupper]
    rfl
  have hlower : c ∈ t.map fun c => if c = 'E' then 'e' else c :=
    List.mem_map.mpr ⟨c, hc, if_neg hupper⟩
  rcases mem_of_mem_cut 'e' hlower with rfl | hmantissa | ⟨exponent, hcut, hmem⟩
  · rfl
  · by_cases hsign : c = '-'
    · rw [hsign]
      rfl
    rcases mem_of_mem_cut '.' (mem_withoutFirst hmantissa hsign) with
      rfl | hdigit | ⟨fraction, hcut, hmem⟩
    · rfl
    · exact isBare_of_isDigits hwhole hdigit
    · exact isBare_of_isDigits (hfraction fraction hcut) hmem
  · exact isBare_of_isExponent (hexponent exponent hcut) hmem

theorem isBare_of_bareValue? {t : Text} {v : Json} (h : bareValue? t = some v) :
    t ≠ [] ∧ ∀ c ∈ t, isBare c = true := by
  unfold bareValue? at h
  split at h
  · next hnull => exact hnull ▸ ⟨by decide, List.all_eq_true.mp (by decide)⟩
  split at h
  · next htrue => exact htrue ▸ ⟨by decide, List.all_eq_true.mp (by decide)⟩
  split at h
  · next hfalse => exact hfalse ▸ ⟨by decide, List.all_eq_true.mp (by decide)⟩
  split at h
  · next hnumber =>
      refine ⟨?_, fun c hc => isBare_of_isNumber hnumber hc⟩
      rintro rfl
      simp [isNumber, isWholeNumber, isDigits, Text.cut, Text.withoutFirst] at hnumber
  · simp at h

theorem not_isBlank_of_isBare {c : Char} (h : isBare c = true) :
    isBlank c = false ∧ c ≠ '"' := by
  refine ⟨?_, ?_⟩
  · rw [Bool.eq_false_iff]
    intro hblank
    simp only [isBlank, Bool.or_eq_true, decide_eq_true_eq] at hblank
    rcases hblank with ((rfl | rfl) | rfl) | rfl <;> simp [isBare] at h
  · rintro rfl
    simp [isBare] at h

theorem reads_bare {awaited : Awaited} {t : Text} (hne : t ≠ [])
    (h : ∀ c ∈ t, isBare c = true) : Reads ⟨.between, awaited⟩ t ⟨.bare t, awaited⟩ := by
  have hmore : ∀ (read more : Text), (∀ c ∈ more, isBare c = true) →
      Reads ⟨.bare read, awaited⟩ more ⟨.bare (read ++ more), awaited⟩ := by
    intro read more hmore
    induction more generalizing read with
    | nil =>
        rw [List.append_nil]
        exact reads_nil _
    | cons c rest ih =>
        rw [List.append_cons]
        refine Reads.cons ?_ (ih _ fun d hd => hmore d (List.mem_cons_of_mem _ hd))
        simp [readChar, hmore c List.mem_cons_self]
  obtain ⟨first, rest, rfl⟩ := List.exists_cons_of_ne_nil hne
  have hfirst := h first List.mem_cons_self
  obtain ⟨hblank, hquote⟩ := not_isBlank_of_isBare hfirst
  refine Reads.cons ?_ (hmore [first] rest fun d hd => h d (List.mem_cons_of_mem _ hd))
  simp [readChar, begin?, hblank, hquote, hfirst]

end BareTokens

section Values

variable {v : Json} {frames : List Frame} {s : State}

/-- A value has been read inside some frames: it has been taken, or is a bare token that is taken as
soon as a character comes that is not part of it. -/
inductive HasRead (v : Json) (frames : List Frame) : State → Prop
  | taken : HasRead v frames ⟨.between, .close v frames⟩
  | bare {t : Text} (h : bareValue? t = some v) : HasRead v frames ⟨.bare t, .value frames⟩

theorem take?_bare {t : Text} (h : bareValue? t = some v) (frames : List Frame) :
    take? (.value frames) (.bare t) = some (.close v frames) := by
  simp [take?, h]

theorem HasRead.readChar (h : HasRead v frames s) {c : Char} (hc : isBare c = false) :
    readChar s c = begin? (.close v frames) c := by
  cases h with
  | taken => rfl
  | bare h => simp [JsonReading.readChar, hc, take?_bare h]

theorem HasRead.mark (h : HasRead v frames s) {c : Char} {token : Token} {next : Awaited}
    (hmark : mark? c = some token) (htake : take? (.close v frames) token = some next) :
    Reads s [c] ⟨.between, next⟩ := by
  obtain ⟨hblank, hquote, hbare⟩ := kind_of_mark hmark
  refine reads_singleton ?_
  rw [h.readChar hbare]
  simp [begin?, hblank, hquote, hbare, hmark, htake]

theorem HasRead.blanks (h : HasRead v frames s) {t : Text} (ht : IsBlanks t) :
    ∃ s', Reads s t s' ∧ HasRead v frames s' := by
  cases t with
  | nil => exact ⟨s, reads_nil s, h⟩
  | cons c rest =>
      have hblank := ht c List.mem_cons_self
      have hbare : isBare c = false := by
        rw [Bool.eq_false_iff]
        intro hbare
        simp [(not_isBlank_of_isBare hbare).1] at hblank
      refine ⟨⟨.between, .close v frames⟩, ?_, .taken⟩
      refine Reads.cons ?_ (reads_blanks fun d hd => ht d (List.mem_cons_of_mem _ hd))
      rw [h.readChar hbare, begin?, if_pos hblank]

theorem HasRead.valueAtEnd? (h : HasRead v [] s) : valueAtEnd? s = some v := by
  cases h with
  | taken => rfl
  | bare h => simp [JsonReading.valueAtEnd?, take?_bare h]

/-- A text is read as a value wherever one may come. -/
def IsRead (t : Text) (v : Json) : Prop :=
  ∀ frames, ∃ s, Reads ⟨.between, .value frames⟩ t s ∧ HasRead v frames s

theorem reads_items {items : List (Text × Json)} (hne : items ≠ [])
    (h : ∀ item ∈ items, IsRead item.1 item.2) (before : List Json) (frames : List Frame) :
    Reads ⟨.between, .value (.array before :: frames)⟩
      (List.intercalate [','] (items.map Prod.fst) ++ [']'])
      ⟨.between, .close (.array (before ++ items.map Prod.snd)) frames⟩ := by
  -- each item that is read joins those before it in the frame of the array
  induction items generalizing before with
  | nil => exact absurd rfl hne
  | cons item rest ih =>
      obtain ⟨s, hitem, hread⟩ := h item List.mem_cons_self (.array before :: frames)
      cases rest with
      | nil => simpa using hitem.append (hread.mark rfl rfl)
      | cons following others =>
          have hrest := ih (List.cons_ne_nil _ _)
            (fun other hother => h other (List.mem_cons_of_mem _ hother)) (before ++ [item.2])
          have hcomma : Reads s [','] ⟨.between, .value (.array (before ++ [item.2]) :: frames)⟩ :=
            hread.mark rfl rfl
          simpa [List.intercalate_cons_cons] using (hitem.append hcomma).append hrest

theorem reads_members {members : List Member} (hne : members ≠ [])
    (hkeys : ∀ m ∈ members, SpellsKey m.keySpelling m.key)
    (hvalues : ∀ m ∈ members, IsRead m.valueSpelling m.value) (before : List (Text × Json))
    (frames : List Frame) :
    Reads ⟨.between, .key before frames⟩
      (List.intercalate [','] (members.map Member.spelling) ++ ['\x7d'])
      ⟨.between, .close (.object (before ++ members.map fun m => (m.key, m.value))) frames⟩ := by
  induction members generalizing before with
  | nil => exact absurd rfl hne
  | cons m rest ih =>
      obtain ⟨s, hvalue, hread⟩ := hvalues m List.mem_cons_self (.member before m.key :: frames)
      have hcolon : Reads ⟨.between, .colon before m.key frames⟩ [':']
          ⟨.between, .value (.member before m.key :: frames)⟩ := reads_mark rfl rfl
      have hkey := reads_key (hkeys m List.mem_cons_self) before frames
      have hmember := (hkey.append hcolon).append hvalue
      cases rest with
      | nil => simpa [Member.spelling] using hmember.append (hread.mark rfl rfl)
      | cons following others =>
          have hrest := ih (List.cons_ne_nil _ _)
            (fun other hother => hkeys other (List.mem_cons_of_mem _ hother))
            (fun other hother => hvalues other (List.mem_cons_of_mem _ hother))
            (before ++ [(m.key, m.value)])
          have hcomma : Reads s [','] ⟨.between, .key (before ++ [(m.key, m.value)]) frames⟩ :=
            hread.mark rfl rfl
          simpa [List.intercalate_cons_cons, Member.spelling] using
            (hmember.append hcomma).append hrest

theorem Spells.isRead {t : Text} {v : Json} (h : Spells t v) : IsRead t v := by
  intro frames
  induction h generalizing frames with
  | blanks hbefore hafter h ih =>
      obtain ⟨s, hreads, hread⟩ := ih frames
      obtain ⟨s', hblanks, hread'⟩ := hread.blanks hafter
      exact ⟨s', ((reads_blanks hbefore).append hreads).append hblanks, hread'⟩
  | bare h =>
      obtain ⟨hne, hbare⟩ := isBare_of_bareValue? h
      exact ⟨_, reads_bare hne hbare, .bare h⟩
  | string h => exact ⟨_, reads_string h rfl, .taken⟩
  | emptyArray h =>
      have hopen : Reads ⟨.between, .value frames⟩ ['['] ⟨.between, .value (.array [] :: frames)⟩ :=
        reads_mark rfl rfl
      have hclose : Reads ⟨.between, .value (.array [] :: frames)⟩ [']']
          ⟨.between, .close (.array []) frames⟩ := reads_mark rfl rfl
      exact ⟨_, hopen.append ((reads_blanks h).append hclose), .taken⟩
  | array hne h ih =>
      have hopen : Reads ⟨.between, .value frames⟩ ['['] ⟨.between, .value (.array [] :: frames)⟩ :=
        reads_mark rfl rfl
      exact ⟨_, hopen.append (reads_items hne ih [] frames), .taken⟩
  | emptyObject h =>
      have hopen : Reads ⟨.between, .value frames⟩ ['\x7b'] ⟨.between, .key [] frames⟩ :=
        reads_mark rfl rfl
      have hclose : Reads ⟨.between, .key [] frames⟩ ['\x7d']
          ⟨.between, .close (.object []) frames⟩ := reads_mark rfl rfl
      exact ⟨_, hopen.append ((reads_blanks h).append hclose), .taken⟩
  | object hne hkeys hvalues ih =>
      have hopen : Reads ⟨.between, .value frames⟩ ['\x7b'] ⟨.between, .key [] frames⟩ :=
        reads_mark rfl rfl
      exact ⟨_, hopen.append (reads_members hne hkeys ih [] frames), .taken⟩

/-- Each spelling of a value is read as that value. -/
theorem Spells.decode?_eq {t : Text} {v : Json} (h : Spells t v) : decode? t = some v := by
  obtain ⟨s, hreads, hread⟩ := h.isRead []
  unfold Reads at hreads
  rw [decode?, hreads]
  exact hread.valueAtEnd?

theorem not_spells_of_decode? {t : Text} (h : decode? t = none) (v : Json) : ¬ Spells t v := by
  intro hspells
  rw [hspells.decode?_eq] at h
  cases h

end Values

section Writing

theorem isBlanks_newLine (level : Nat) : IsBlanks (Json.newLine level) := by
  intro c hc
  rcases List.mem_cons.mp hc with rfl | hspace
  · rfl
  · rw [List.eq_of_mem_replicate hspace]
    rfl

theorem isCode_paddedNumeral {n : Nat} (h : n < 0x10000) :
    IsCode (Text.paddedNumeral 16 4 n) n := by
  refine ⟨n / 16 / 16 / 16 % 16, n / 16 / 16 % 16, n / 16 % 16, n % 16, ?_, by omega⟩
  have hdigit : ∀ d < 16, hexValue? (Text.digit d) = some d := by decide
  have hdigits : Text.paddedNumeral 16 4 n =
      [Text.digit (n / 16 / 16 / 16 % 16), Text.digit (n / 16 / 16 % 16),
        Text.digit (n / 16 % 16), Text.digit (n % 16)] := rfl
  have hrest : ∀ m, m % 16 < 16 := fun m => Nat.mod_lt m (by omega)
  simp only [hdigits, List.map_cons, List.map_nil, hdigit _ (hrest _)]

theorem unescape?_of_mem {c letter : Char} (h : (c, letter) ∈ Json.shortEscapes) :
    unescape? letter = some c := by
  simp only [Json.shortEscapes, List.mem_cons, Prod.mk.injEq, List.not_mem_nil, or_false] at h
  rcases h with ⟨rfl, rfl⟩ | ⟨rfl, rfl⟩ | ⟨rfl, rfl⟩ | ⟨rfl, rfl⟩ | ⟨rfl, rfl⟩ | ⟨rfl, rfl⟩ |
    ⟨rfl, rfl⟩ <;> rfl

theorem spellsChar_escape (c : Char) : SpellsChar (Json.escape c) c := by
  unfold Json.escape
  split
  · next letter hletter =>
      obtain ⟨before, after, hpairs, -⟩ := List.lookup_eq_some_iff.mp hletter
      refine .letter (unescape?_of_mem ?_)
      rw [hpairs]
      exact List.mem_append_right before List.mem_cons_self
  · next hnone =>
      split
      · next hcontrol =>
          have hcode : SpellsChar ('\\' :: 'u' :: Text.paddedNumeral 16 4 c.toNat)
              (Char.ofNat c.toNat) :=
            .code (isCode_paddedNumeral (by omega)) (by omega)
          rwa [Char.ofNat_toNat] at hcode
      · next hcontrol =>
          refine .plain ?_ ?_ (Nat.not_lt.mp hcontrol)
          · rintro rfl
            simp [Json.shortEscapes] at hnone
          · rintro rfl
            simp [Json.shortEscapes] at hnone

theorem spellsChars_escapes (t : Text) : SpellsChars (t.flatMap Json.escape) t := by
  induction t with
  | nil => exact .nil
  | cons c rest ih => exact .cons (spellsChar_escape c) ih

/-- Values made of strings, arrays and objects. -/
inductive Textual : Json → Prop
  | string (t : Text) : Textual (.string t)
  | array {items : List Json} (hitems : ∀ item ∈ items, Textual item) : Textual (.array items)
  | object {members : List (Text × Json)} (hmembers : ∀ member ∈ members, Textual member.2) :
      Textual (.object members)

theorem prettyItems_eq (level : Nat) (items : List Json) :
    Json.prettyItems level items =
      List.intercalate [','] (items.map fun v => Json.newLine level ++ v.pretty level) := by
  induction items with
  | nil => rfl
  | cons item rest ih =>
      cases rest with
      | nil => simp [Json.prettyItems]
      | cons following others =>
          simp only [List.map_cons] at ih
          simp [Json.prettyItems, ih, List.intercalate_cons_cons]

/-- A member as it is written, but for the start of its line. -/
def prettyMember (level : Nat) (member : Text × Json) : Text :=
  Json.quoted member.1 ++ ": ".toList ++ member.2.pretty level

theorem prettyMembers_eq (level : Nat) (members : List (Text × Json)) :
    Json.prettyMembers level members =
      List.intercalate [','] (members.map fun m => Json.newLine level ++ prettyMember level m) := by
  induction members with
  | nil => rfl
  | cons member rest ih =>
      obtain ⟨key, v⟩ := member
      cases rest with
      | nil => simp [Json.prettyMembers, prettyMember]
      | cons following others =>
          simp only [List.map_cons] at ih
          simp [Json.prettyMembers, prettyMember, ih, List.intercalate_cons_cons]

theorem intercalate_concat_append (mark : Text) (front : List Text) (last tail : Text) :
    List.intercalate mark (front ++ [last]) ++ tail =
      List.intercalate mark (front ++ [last ++ tail]) := by
  induction front with
  | nil => simp
  | cons first rest ih =>
      obtain ⟨second, more, hrest⟩ := List.exists_cons_of_ne_nil
        (List.append_ne_nil_of_right_ne_nil rest (List.cons_ne_nil last []))
      obtain ⟨second', more', hrest'⟩ := List.exists_cons_of_ne_nil
        (List.append_ne_nil_of_right_ne_nil rest (List.cons_ne_nil (last ++ tail) []))
      rw [List.cons_append, List.cons_append, hrest, hrest', List.intercalate_cons_cons,
        List.intercalate_cons_cons, ← hrest, ← hrest', List.append_assoc, ih]

theorem spells_array {items : List Json} (hne : items ≠ []) (level : Nat)
    (h : ∀ item ∈ items, Spells (item.pretty level) item) {tail : Text} (htail : IsBlanks tail) :
    Spells ('[' :: (Json.prettyItems level items ++ tail ++ [']'])) (.array items) := by
  obtain ⟨front, last, rfl⟩ := (List.eq_nil_or_concat' items).resolve_left hne
  have hline := isBlanks_newLine level
  have hfront : ∀ item ∈ front, Spells (Json.newLine level ++ item.pretty level) item := by
    intro item hitem
    have hspells := h item (List.mem_append_left _ hitem)
    simpa using Spells.blanks hline isBlanks_nil hspells
  have hlast : Spells (Json.newLine level ++ last.pretty level ++ tail) last :=
    .blanks hline htail (h last (by simp))
  have hitems : ∀ item ∈ (front.map fun v => (Json.newLine level ++ v.pretty level, v)) ++
      [(Json.newLine level ++ last.pretty level ++ tail, last)], Spells item.1 item.2 := by
    intro item hitem
    rcases List.mem_append.mp hitem with hitem | hitem
    · obtain ⟨v, hv, rfl⟩ := List.mem_map.mp hitem
      exact hfront v hv
    · obtain rfl := List.mem_singleton.mp hitem
      exact hlast
  have hspells := Spells.array (by simp) hitems
  rw [prettyItems_eq, List.map_append, List.map_singleton, intercalate_concat_append]
  simpa [Function.comp_def] using hspells

/-- A member as it is written on a line, with some text behind it. -/
def memberSpelling (level : Nat) (tail : Text) (member : Text × Json) : Member where
  keySpelling := Json.newLine level ++ Json.quoted member.1
  key := member.1
  valueSpelling := [' '] ++ member.2.pretty level ++ tail
  value := member.2

theorem spelling_memberSpelling (level : Nat) (tail : Text) (member : Text × Json) :
    (memberSpelling level tail member).spelling =
      Json.newLine level ++ prettyMember level member ++ tail := by
  simp [memberSpelling, Member.spelling, prettyMember]

theorem member_memberSpelling (level : Nat) (tail : Text) (member : Text × Json) :
    ((memberSpelling level tail member).key, (memberSpelling level tail member).value) = member :=
  rfl

theorem spellsKey_newLine (level : Nat) (key : Text) :
    SpellsKey (Json.newLine level ++ Json.quoted key) key :=
  ⟨Json.newLine level, key.flatMap Json.escape, [], isBlanks_newLine level,
    isBlanks_nil, spellsChars_escapes key, rfl⟩

theorem spells_object {members : List (Text × Json)} (hne : members ≠ []) (level : Nat)
    (h : ∀ m ∈ members, Spells (m.2.pretty level) m.2) {tail : Text} (htail : IsBlanks tail) :
    Spells ('\x7b' :: (Json.prettyMembers level members ++ tail ++ ['\x7d']))
      (.object members) := by
  obtain ⟨front, last, rfl⟩ := (List.eq_nil_or_concat' members).resolve_left hne
  have hblank : IsBlanks [' '] := List.forall_mem_singleton.mpr rfl
  have hfront : ∀ m ∈ front, Spells (memberSpelling level [] m).valueSpelling m.2 := fun m hm =>
    .blanks hblank isBlanks_nil (h m (List.mem_append_left _ hm))
  have hlast : Spells (memberSpelling level tail last).valueSpelling last.2 :=
    .blanks hblank htail (h last (by simp))
  have hkeys : ∀ m ∈ front.map (memberSpelling level []) ++ [memberSpelling level tail last],
      SpellsKey m.keySpelling m.key := by
    intro m hm
    rcases List.mem_append.mp hm with hm | hm
    · obtain ⟨member, -, rfl⟩ := List.mem_map.mp hm
      exact spellsKey_newLine level member.1
    · obtain rfl := List.mem_singleton.mp hm
      exact spellsKey_newLine level last.1
  have hvalues : ∀ m ∈ front.map (memberSpelling level []) ++ [memberSpelling level tail last],
      Spells m.valueSpelling m.value := by
    intro m hm
    rcases List.mem_append.mp hm with hm | hm
    · obtain ⟨member, hmember, rfl⟩ := List.mem_map.mp hm
      exact hfront member hmember
    · obtain rfl := List.mem_singleton.mp hm
      exact hlast
  have hspells := Spells.object (by simp) hkeys hvalues
  rw [prettyMembers_eq, List.map_append, List.map_singleton, intercalate_concat_append]
  simpa [Function.comp_def, spelling_memberSpelling, member_memberSpelling] using hspells

/-- What is written of a value made of texts is a spelling of it, at every level. -/
theorem Textual.spells_pretty {v : Json} (h : Textual v) (level : Nat) :
    Spells (v.pretty level) v := by
  induction h generalizing level with
  | string t => exact .string (spellsChars_escapes t)
  | @array items hitems ih =>
      cases items with
      | nil => exact .emptyArray isBlanks_nil
      | cons item rest =>
          exact spells_array (List.cons_ne_nil _ _) (level + 1)
            (fun item hitem => ih item hitem (level + 1)) (isBlanks_newLine level)
  | @object members hmembers ih =>
      cases members with
      | nil => exact .emptyObject isBlanks_nil
      | cons member rest =>
          exact spells_object (List.cons_ne_nil _ _) (level + 1)
            (fun member hmember => ih member hmember (level + 1)) (isBlanks_newLine level)

/-- What is written of a value is read as that value. -/
theorem decode?_pretty {v : Json} (h : Textual v) (level : Nat) :
    decode? (v.pretty level) = some v :=
  (h.spells_pretty level).decode?_eq

example : decode? "[\"\\ud83d\\ude00\", 0.5]".toList =
    some (.array [.string ['😀'], .number "0.5".toList]) := by
  rfl

end Writing

end ShaderTools.Proofs.JsonSpellings
