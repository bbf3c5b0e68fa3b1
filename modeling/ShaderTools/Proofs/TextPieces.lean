import Mathlib.Data.List.Basic
import Mathlib.Data.List.DropRight
import Mathlib.Data.List.TakeWhile
import ShaderTools.Text.Blank
import ShaderTools.Text.Lines

/-!
Words, pieces and lines of texts. A separator between two texts keeps their words, and their pieces,
apart; what a text without its outer blanks starts with is what its first word starts with; and the
lines of a text are its pieces between line feeds, so that lines which are written one by one are
read again.
-/

namespace ShaderTools.Proofs.TextPieces

open ShaderTools.Text

variable {isSeparator : Char → Bool} {c : Char}

theorem words_cons_of_startsWord (hc : isSeparator c = false) {rest : Text}
    (hrest : startsWord isSeparator rest = true) :
    words isSeparator (c :: rest) = growFirst c (words isSeparator rest) := by
  simp [words, hc, hrest]

theorem words_cons_of_not_startsWord (hc : isSeparator c = false) {rest : Text}
    (hrest : startsWord isSeparator rest = false) :
    words isSeparator (c :: rest) = [c] :: words isSeparator rest := by
  simp [words, hc, hrest]

theorem growFirst_append (c : Char) {pieces : List Text} (h : pieces ≠ []) (more : List Text) :
    growFirst c (pieces ++ more) = growFirst c pieces ++ more := by
  cases pieces with
  | nil => exact absurd rfl h
  | cons piece pieces => rfl

theorem words_append_separator (hc : isSeparator c = true) (a b : Text) :
    words isSeparator (a ++ c :: b) = words isSeparator a ++ words isSeparator b := by
  induction a with
  | nil => exact words_cons_of_isSeparator hc b
  | cons first rest ih =>
      rw [List.cons_append]
      by_cases hfirst : isSeparator first = true
      · rw [words_cons_of_isSeparator hfirst, words_cons_of_isSeparator hfirst, ih]
      · have hfirst' : isSeparator first = false := by simpa using hfirst
        have hstart : startsWord isSeparator (rest ++ c :: b) = startsWord isSeparator rest := by
          cases rest with
          | nil => simp [startsWord, hc]
          | cons second rest => rfl
        by_cases hrest : startsWord isSeparator rest = true
        · rw [words_cons_of_startsWord hfirst' (hstart.trans hrest),
            words_cons_of_startsWord hfirst' hrest, ih]
          exact growFirst_append first (words_ne_nil_of_startsWord hrest) _
        · have hrest' : startsWord isSeparator rest = false := by simpa using hrest
          rw [words_cons_of_not_startsWord hfirst' (hstart.trans hrest'),
            words_cons_of_not_startsWord hfirst' hrest', ih, List.cons_append]

theorem words_concat_separator (hc : isSeparator c = true) (a : Text) :
    words isSeparator (a ++ [c]) = words isSeparator a := by
  rw [words_append_separator hc, words_nil, List.append_nil]

theorem words_eq_singleton {t : Text} (hne : t ≠ []) (h : ∀ c ∈ t, isSeparator c = false) :
    words isSeparator t = [t] := by
  induction t with
  | nil => exact absurd rfl hne
  | cons c rest ih =>
      have hc : isSeparator c = false := h c (by simp)
      cases rest with
      | nil => exact words_cons_of_not_startsWord hc rfl
      | cons d rest =>
          have hstart : startsWord isSeparator (d :: rest) = true := by
            simp [startsWord, h d (by simp)]
          rw [words_cons_of_startsWord hc hstart, ih (by simp) fun e he => h e (by simp [he])]
          rfl

theorem mem_growFirst {piece : Text} {pieces : List Text} (h : piece ∈ growFirst c pieces) :
    (∃ rest, piece = c :: rest ∧ (rest = [] ∨ rest ∈ pieces)) ∨ piece ∈ pieces := by
  cases pieces with
  | nil =>
      obtain rfl : piece = [c] := by simpa [growFirst] using h
      exact Or.inl ⟨[], rfl, Or.inl rfl⟩
  | cons first others =>
      rcases List.mem_cons.mp h with rfl | hothers
      · exact Or.inl ⟨first, rfl, Or.inr (by simp)⟩
      · exact Or.inr (by simp [hothers])

/-- A word is not empty, and its characters are those of the text that are no separators. -/
theorem of_mem_words {t piece : Text} (h : piece ∈ words isSeparator t) :
    piece ≠ [] ∧ ∀ c ∈ piece, isSeparator c = false ∧ c ∈ t := by
  induction t generalizing piece with
  | nil => simp at h
  | cons first rest ih =>
      have hrest : ∀ {piece}, piece ∈ words isSeparator rest →
          piece ≠ [] ∧ ∀ c ∈ piece, isSeparator c = false ∧ c ∈ first :: rest := by
        intro piece hpiece
        obtain ⟨hne, hchars⟩ := ih hpiece
        exact ⟨hne, fun c hc => ⟨(hchars c hc).1, List.mem_cons_of_mem _ (hchars c hc).2⟩⟩
      by_cases hfirst : isSeparator first = true
      · rw [words_cons_of_isSeparator hfirst] at h
        exact hrest h
      · have hfirst' : isSeparator first = false := by simpa using hfirst
        have hsingle : ∀ c ∈ [first], isSeparator c = false ∧ c ∈ first :: rest := by
          simp [hfirst']
        by_cases hstart : startsWord isSeparator rest = true
        · rw [words_cons_of_startsWord hfirst' hstart] at h
          rcases mem_growFirst h with ⟨others, rfl, rfl | hothers⟩ | hothers
          · exact ⟨by simp, hsingle⟩
          · refine ⟨by simp, ?_⟩
            intro c hc
            rcases List.mem_cons.mp hc with rfl | hc
            · exact hsingle c (by simp)
            · exact (hrest hothers).2 c hc
          · exact hrest hothers
        · rw [words_cons_of_not_startsWord hfirst' (by simpa using hstart)] at h
          rcases List.mem_cons.mp h with rfl | hothers
          · exact ⟨by simp, hsingle⟩
          · exact hrest hothers

theorem exists_mem_growFirst (first : Char) {pieces : List Text}
    (h : ∃ piece ∈ pieces, c ∈ piece) : ∃ piece ∈ growFirst first pieces, c ∈ piece := by
  obtain ⟨piece, hpiece, hc⟩ := h
  cases pieces with
  | nil => simp at hpiece
  | cons second others =>
      rcases List.mem_cons.mp hpiece with rfl | hothers
      · exact ⟨first :: piece, by simp [growFirst], List.mem_cons_of_mem _ hc⟩
      · exact ⟨piece, by simp [growFirst, hothers], hc⟩

theorem words_eq_filter {t : Text} (h : ∀ c ∈ t, isSeparator c = false) :
    words isSeparator t = [t].filter (· ≠ []) := by
  by_cases ht : t = []
  · subst ht
    rfl
  · rw [words_eq_singleton ht h]
    simp [ht]

/-- The words of pieces that are joined by a separator are the pieces, without empty ones. -/
theorem words_intercalate (hc : isSeparator c = true) {pieces : List Text}
    (h : ∀ piece ∈ pieces, ∀ d ∈ piece, isSeparator d = false) :
    words isSeparator (List.intercalate [c] pieces) = pieces.filter (· ≠ []) := by
  induction pieces with
  | nil => rfl
  | cons first rest ih =>
      have hfirst := words_eq_filter (h first (by simp))
      have hrest := ih fun piece hpiece => h piece (by simp [hpiece])
      cases rest with
      | nil => simpa using hfirst
      | cons second rest =>
          rw [List.intercalate_cons_cons, List.append_assoc, List.singleton_append,
            words_append_separator hc, hfirst, hrest, ← List.filter_append]
          rfl

/-- Every character of a text that is no separator is in a word. -/
theorem exists_word_of_mem {t : Text} (h : c ∈ t) (hc : isSeparator c = false) :
    ∃ piece ∈ words isSeparator t, c ∈ piece := by
  induction t with
  | nil => simp at h
  | cons first rest ih =>
      by_cases hfirst : isSeparator first = true
      · rw [words_cons_of_isSeparator hfirst]
        rcases List.mem_cons.mp h with rfl | hrest
        · simp [hc] at hfirst
        · exact ih hrest
      · have hfirst' : isSeparator first = false := by simpa using hfirst
        by_cases hstart : startsWord isSeparator rest = true
        · rw [words_cons_of_startsWord hfirst' hstart]
          rcases List.mem_cons.mp h with rfl | hrest
          · obtain ⟨word, others, hwords⟩ :=
              List.exists_cons_of_ne_nil (words_ne_nil_of_startsWord hstart)
            exact ⟨c :: word, by simp [hwords, growFirst], by simp⟩
          · exact exists_mem_growFirst first (ih hrest)
        · rw [words_cons_of_not_startsWord hfirst' (by simpa using hstart)]
          rcases List.mem_cons.mp h with rfl | hrest
          · exact ⟨[c], by simp, by simp⟩
          · obtain ⟨piece, hpiece, hmem⟩ := ih hrest
            exact ⟨piece, by simp [hpiece], hmem⟩

theorem split_ne_nil (isSeparator : Char → Bool) (t : Text) : split isSeparator t ≠ [] := by
  cases t with
  | nil => simp [split]
  | cons c rest =>
      by_cases hc : isSeparator c = true
      · simp [split, hc]
      · cases hrest : split isSeparator rest <;> simp [split, hc, hrest, growFirst]

theorem length_split (t : Text) : (split isSeparator t).length = t.countP isSeparator + 1 := by
  induction t with
  | nil => rfl
  | cons c rest ih =>
      by_cases hc : isSeparator c = true
      · simp [split, hc, ih]
      · obtain ⟨piece, pieces, hsplit⟩ :=
          List.exists_cons_of_ne_nil (split_ne_nil isSeparator rest)
        simp [split, hc, hsplit, growFirst] at ih ⊢
        omega

theorem split_append_separator (hc : isSeparator c = true) (a b : Text) :
    split isSeparator (a ++ c :: b) = split isSeparator a ++ split isSeparator b := by
  induction a with
  | nil => simp [split, hc]
  | cons first rest ih =>
      by_cases hfirst : isSeparator first = true
      · simp [split, hfirst, ih]
      · simp only [List.cons_append, split, hfirst, Bool.false_eq_true, if_false, ih]
        exact growFirst_append first (split_ne_nil isSeparator rest) _

theorem split_eq_singleton {t : Text} (h : ∀ c ∈ t, isSeparator c = false) :
    split isSeparator t = [t] := by
  induction t with
  | nil => rfl
  | cons c rest ih =>
      have hrest : split isSeparator rest = [rest] := ih fun d hd => h d (by simp [hd])
      simp [split, h c (by simp), hrest, growFirst]

theorem intercalate_split (mark : Char) (t : Text) :
    List.intercalate [mark] (split (· = mark) t) = t := by
  induction t with
  | nil => rfl
  | cons c rest ih =>
      obtain ⟨piece, pieces, hsplit⟩ :=
        List.exists_cons_of_ne_nil (split_ne_nil (· = mark) rest)
      rw [hsplit] at ih
      by_cases hc : c = mark
      · subst hc
        simp only [split, decide_true, if_true, hsplit]
        rw [List.intercalate_cons_cons, ih]
        rfl
      · simp only [split, hc, decide_false, Bool.false_eq_true, if_false, hsplit, growFirst]
        cases pieces with
        | nil => simpa using ih
        | cons second pieces =>
            rw [List.intercalate_cons_cons] at ih ⊢
            simpa using ih

section FirstWord

theorem words_dropWhile (t : Text) :
    words isSeparator (t.dropWhile isSeparator) = words isSeparator t := by
  induction t with
  | nil => rfl
  | cons c rest ih =>
      cases hc : isSeparator c with
      | true => rw [List.dropWhile_cons_of_pos hc, ih, words_cons_of_isSeparator hc]
      | false => rw [List.dropWhile_cons_of_neg (by simp [hc])]

theorem head?_words {t : Text} (h : startsWord isSeparator t = true) :
    (words isSeparator t).head? = some (t.takeWhile fun c => !isSeparator c) := by
  induction t with
  | nil => simp [startsWord] at h
  | cons c rest ih =>
      have hc : isSeparator c = false := by simpa [startsWord] using h
      cases hrest : startsWord isSeparator rest with
      | true =>
          obtain ⟨word, others, hwords⟩ :=
            List.exists_cons_of_ne_nil (words_ne_nil_of_startsWord hrest)
          have hword := ih hrest
          rw [hwords] at hword
          rw [words_cons_of_startsWord hc hrest, hwords]
          simpa [growFirst, hc] using hword
      | false =>
          rw [words_cons_of_not_startsWord hc hrest]
          cases rest with
          | nil => simp [hc]
          | cons d rest =>
              have hd : isSeparator d = true := by simpa [startsWord] using hrest
              simp [hc, hd]

theorem prefix_takeWhile_iff {p : Char → Bool} {word t : Text} (hword : ∀ c ∈ word, p c = true) :
    word <+: t.takeWhile p ↔ word <+: t := by
  constructor
  · intro h
    exact h.trans (List.takeWhile_prefix p)
  · rintro ⟨rest, rfl⟩
    rw [List.takeWhile_append_of_pos hword]
    exact List.prefix_append _ _

theorem takeWhile_dropEndWhile (t : Text) :
    (dropEndWhile isSeparator t).takeWhile (fun c => !isSeparator c) =
      t.takeWhile fun c => !isSeparator c := by
  obtain ⟨blanks, hblanks, ht⟩ : ∃ blanks : Text, (∀ c ∈ blanks, isSeparator c = true) ∧
      t = dropEndWhile isSeparator t ++ blanks := by
    refine ⟨(t.reverse.takeWhile isSeparator).reverse, ?_, ?_⟩
    · intro c hc
      exact List.mem_takeWhile_imp (List.mem_reverse.mp hc)
    · rw [dropEndWhile, ← List.reverse_append, List.takeWhile_append_dropWhile,
        List.reverse_reverse]
  have hnone : blanks.takeWhile (fun c => !isSeparator c) = [] := by
    cases blanks with
    | nil => rfl
    | cons c rest => simp [hblanks c (by simp)]
  conv_rhs => rw [ht]
  rw [List.takeWhile_append, hnone]
  split
  · next hall =>
      rw [List.append_nil]
      exact (List.takeWhile_prefix _).eq_of_length hall
  · rfl

/-- A trimmed text starts with a word without blanks if and only if its first field does. -/
theorem prefix_trim_iff {word : Text} (hne : word ≠ []) (hword : ∀ c ∈ word, isBlank c = false)
    (t : Text) :
    word <+: t.trim ↔ ∃ first rest, t.fields = first :: rest ∧ word <+: first := by
  have hword' : ∀ c ∈ word, (!isBlank c) = true := fun c hc => by simp [hword c hc]
  have hfields : t.fields = words isBlank (t.dropWhile isBlank) := (words_dropWhile t).symm
  rw [hfields, trim, ← prefix_takeWhile_iff hword', takeWhile_dropEndWhile]
  have hhead := List.head?_dropWhile_not isBlank t
  cases hcut : t.dropWhile isBlank with
  | nil => simp [hne]
  | cons c rest =>
      rw [hcut] at hhead
      have hstart : startsWord isBlank (c :: rest) = true := by
        simpa [startsWord] using hhead
      obtain ⟨first, others, hwords⟩ :=
        List.exists_cons_of_ne_nil (words_ne_nil_of_startsWord hstart)
      have hfirst := head?_words hstart
      rw [hwords, List.head?_cons, Option.some.injEq] at hfirst
      rw [hwords, ← hfirst]
      simp

end FirstWord

section Trimming

theorem trim_eq_self {t : Text} (hfirst : ∀ c ∈ t.head?, isBlank c = false)
    (hlast : ∀ c ∈ t.getLast?, isBlank c = false) : t.trim = t := by
  have hstart : t.dropWhile isBlank = t := by
    cases t with
    | nil => rfl
    | cons c rest => exact List.dropWhile_cons_of_neg (by simp [hfirst c rfl])
  have hend : t.rdropWhile isBlank = t := by
    rw [List.rdropWhile_eq_self_iff]
    intro hne
    simp [hlast _ (List.getLast?_eq_some_getLast hne)]
  rw [trim, hstart]
  exact hend

theorem not_isBlank_of_mem_head?_trim {t : Text} (h : c ∈ t.trim.head?) : isBlank c = false := by
  obtain ⟨blanks, hblanks⟩ := List.rdropWhile_prefix isBlank (t.dropWhile isBlank)
  have hhead : (List.rdropWhile isBlank (t.dropWhile isBlank)).head? = some c := h
  have hfirst := List.head?_dropWhile_not isBlank t
  rw [← hblanks, List.head?_append, hhead] at hfirst
  exact hfirst

theorem not_isBlank_of_mem_getLast?_trim {t : Text} (h : c ∈ t.trim.getLast?) :
    isBlank c = false := by
  obtain ⟨hne, rfl⟩ := List.mem_getLast?_eq_getLast h
  exact eq_false_of_ne_true (List.rdropWhile_last_not isBlank (t.dropWhile isBlank) hne)

theorem trim_trim (t : Text) : t.trim.trim = t.trim :=
  trim_eq_self (fun _ => not_isBlank_of_mem_head?_trim) fun _ => not_isBlank_of_mem_getLast?_trim

theorem length_trim_le (t : Text) : t.trim.length ≤ t.length :=
  (List.rdropWhile_prefix isBlank (t.dropWhile isBlank)).length_le.trans
    (List.dropWhile_suffix isBlank).length_le

/-- A blank at the end of a text does not outlive its trimming. -/
theorem trim_concat {c : Char} (hc : isBlank c = true) (t : Text) : trim (t ++ [c]) = trim t := by
  rw [trim, trim, List.dropWhile_append]
  split
  · next hblank =>
      rw [List.isEmpty_iff] at hblank
      simp [hc, hblank]
  · rw [dropEndWhile_concat, if_pos hc]

end Trimming

section Cuts

theorem withoutFirst_sublist (mark : Char) (t : Text) : (withoutFirst mark t).Sublist t := by
  cases t with
  | nil => exact List.Sublist.refl _
  | cons c rest =>
      rw [withoutFirst]
      split
      · exact List.sublist_cons_self c rest
      · exact List.Sublist.refl _

theorem withoutLast_sublist (mark : Char) (t : Text) : (withoutLast mark t).Sublist t := by
  rw [withoutLast]
  split
  · exact List.dropLast_sublist t
  · exact List.Sublist.refl t

theorem cut_of_notMem {mark : Char} {a : Text} (h : mark ∉ a) : cut mark a = (a, none) := by
  induction a with
  | nil => rfl
  | cons c rest ih =>
      obtain ⟨hc, hrest⟩ := List.ne_and_not_mem_of_not_mem_cons h
      rw [cut, if_neg hc.symm, ih hrest]

theorem cut_append {mark : Char} {a : Text} (h : mark ∉ a) (b : Text) :
    cut mark (a ++ mark :: b) = (a, some b) := by
  induction a with
  | nil => simp [cut]
  | cons c rest ih =>
      obtain ⟨hc, hrest⟩ := List.ne_and_not_mem_of_not_mem_cons h
      rw [List.cons_append, cut, if_neg hc.symm, ih hrest]

end Cuts

section Lines

/-- The pieces of a text between its line feeds, less a last one that is empty, and less one
carriage return at the end of each that a line feed follows. -/
def linePieces (t : Text) : List Text :=
  let pieces := split (· = '\n') t
  pieces.dropLast.map (withoutLast '\r') ++ pieces.getLast?.toList.filter (· ≠ [])

theorem withoutLast_cons {mark c : Char} {t : Text} (h : t ≠ []) :
    withoutLast mark (c :: t) = c :: withoutLast mark t := by
  rw [withoutLast, withoutLast, List.getLast?_cons_of_ne_nil h, List.dropLast_cons_of_ne_nil h]
  split <;> rfl

theorem linePieces_lineFeed (rest : Text) : linePieces ('\n' :: rest) = [] :: linePieces rest := by
  have hrest := split_ne_nil (· = '\n') rest
  simp [linePieces, split, List.dropLast_cons_of_ne_nil hrest, List.getLast?_cons_of_ne_nil hrest]

theorem linePieces_carriageReturn_lineFeed (rest : Text) :
    linePieces ('\r' :: '\n' :: rest) = [] :: linePieces rest := by
  have hrest := split_ne_nil (· = '\n') rest
  simp [linePieces, split, growFirst, List.dropLast_cons_of_ne_nil hrest,
    List.getLast?_cons_of_ne_nil hrest, withoutLast]

theorem linePieces_cons {c : Char} {rest : Text} (hc : c ≠ '\n')
    (hpair : c = '\r' → rest.head? ≠ some '\n') :
    linePieces (c :: rest) = growFirst c (linePieces rest) := by
  obtain ⟨piece, pieces, hsplit⟩ := List.exists_cons_of_ne_nil (split_ne_nil (· = '\n') rest)
  simp only [linePieces, split, hc, decide_false, Bool.false_eq_true, if_false, hsplit, growFirst]
  cases pieces with
  | nil => cases piece <;> simp
  | cons second others =>
      have hpiece : withoutLast '\r' (c :: piece) = c :: withoutLast '\r' piece := by
        cases piece with
        | nil =>
            have hmark : c ≠ '\r' := by
              rintro rfl
              cases rest with
              | nil => simp [split] at hsplit
              | cons d rest =>
                  have hd : d ≠ '\n' := by simpa using hpair rfl
                  cases hothers : split (· = '\n') rest <;>
                    simp [split, hd, hothers, growFirst] at hsplit
            simp [withoutLast, hmark]
        | cons d piece => exact withoutLast_cons (by simp)
      simp [hpiece]

theorem lines_eq_linePieces (t : Text) : lines t = linePieces t := by
  fun_induction lines t with
  | case1 => rfl
  | case2 rest ih => rw [linePieces_lineFeed, ih]
  | case3 rest ih => rw [linePieces_carriageReturn_lineFeed, ih]
  | case4 c rest hc hpair ih =>
      rw [linePieces_cons hc, ih]
      intro hreturn hfeed
      obtain ⟨tail, htail⟩ := List.head?_eq_some_iff.mp hfeed
      exact hpair tail hreturn htail

/-- Behind a line feed the lines are those of the text that follows. -/
theorem linePieces_append_lineFeed (a b : Text) :
    linePieces (a ++ '\n' :: b) =
      (split (· = '\n') a).map (withoutLast '\r') ++ linePieces b := by
  have hb := split_ne_nil (· = '\n') b
  have hsplit : split (· = '\n') (a ++ '\n' :: b) = split (· = '\n') a ++ split (· = '\n') b :=
    split_append_separator (by simp) a b
  rw [linePieces, linePieces, hsplit, List.dropLast_append_of_ne_nil hb,
    List.getLast?_append_of_ne_nil _ hb, List.map_append, List.append_assoc]

theorem linePieces_append {a : Text} (ha : a = [] ∨ a.getLast? = some '\n') (b : Text) :
    linePieces (a ++ b) = linePieces a ++ linePieces b := by
  rcases ha with rfl | hlast
  · rfl
  · obtain ⟨front, rfl⟩ := List.getLast?_eq_some_iff.mp hlast
    rw [List.append_assoc, List.singleton_append, linePieces_append_lineFeed,
      linePieces_append_lineFeed front []]
    simp [linePieces, split]

theorem length_linePieces {a : Text} (ha : a = [] ∨ a.getLast? = some '\n') :
    (linePieces a).length = a.count '\n' := by
  rcases ha with rfl | hlast
  · rfl
  · obtain ⟨front, rfl⟩ := List.getLast?_eq_some_iff.mp hlast
    rw [linePieces_append_lineFeed, List.length_append, List.length_map, length_split]
    simp [linePieces, split, List.count_eq_countP, beq_eq_decide]

theorem linePieces_line {line : Text} (hfeed : '\n' ∉ line) (hreturn : line.getLast? ≠ some '\r')
    (rest : Text) : linePieces (line ++ '\n' :: rest) = line :: linePieces rest := by
  have hline : split (· = '\n') line = [line] := by
    apply split_eq_singleton
    intro c hc
    simpa using ne_of_mem_of_not_mem hc hfeed
  rw [linePieces_append_lineFeed, hline, List.map_singleton, withoutLast, if_neg hreturn]
  rfl

/-- Lines that are written one by one are read again. -/
theorem linePieces_flatMap {ls : List Text}
    (h : ∀ line ∈ ls, '\n' ∉ line ∧ line.getLast? ≠ some '\r') :
    linePieces (ls.flatMap fun line => line ++ ['\n']) = ls := by
  induction ls with
  | nil => rfl
  | cons line rest ih =>
      obtain ⟨hfeed, hreturn⟩ := h line (by simp)
      rw [List.flatMap_cons, List.append_assoc, List.singleton_append,
        linePieces_line hfeed hreturn, ih fun other hother => h other (by simp [hother])]

end Lines

end ShaderTools.Proofs.TextPieces
