import Mathlib.Data.List.Induction
import ShaderTools.Uniform.Listing
import ShaderTools.Proofs.TextPieces

/-!
What a listing gives, however often it is asked. The results are those of a list that the lines of
the text determine at once: a record for each name at its first declaration, up to a malformed
declaration, and an error for that one.
-/

namespace ShaderTools.Proofs.ListingResults

open ShaderTools.Text
open ShaderTools.Uniform
open ShaderTools.Listing
open ShaderTools.Proofs.TextPieces

section Declarations

/-- Whether the first field of a line starts with the keyword. -/
def isCandidate (line : Text) : Bool := line.fields.head?.any keyword.isPrefixOf

/-- Whether a line has the three fields of a declaration. -/
def isWhole (line : Text) : Bool := 3 ≤ line.fields.length

/-- The name on a line: its third field, less one semicolon at its end. -/
def nameOn (line : Text) : Text := (line.fields.getD 2 []).withoutLast ';'

/-- The candidates among some lines, with their numbers, where `passed` lines come before. -/
def candidatesFrom (passed : Nat) (ls : List Text) : List (Text × Nat) :=
  (ls.zipIdx (passed + 1)).filter (isCandidate ·.1)

/-- The first candidate with fewer than three fields. -/
def stop? (candidates : List (Text × Nat)) : Option (Text × Nat) :=
  candidates.find? (!isWhole ·.1)

/-- The candidates before the first one with fewer than three fields. -/
def declarations (candidates : List (Text × Nat)) : List Text :=
  (candidates.takeWhile (isWhole ·.1)).map Prod.fst

/-- The lines with a name that no earlier one has. -/
def firsts (ls : List Text) : List Text :=
  (ls.zipIdx.filter fun numbered =>
    !((ls.take numbered.2).map nameOn).contains (nameOn numbered.1)).map Prod.fst

def records (t : Text) : List Uniform :=
  (firsts (declarations (candidatesFrom 0 (linePieces t)))).filterMap ofLine?

def malformation (candidate : Text × Nat) : Item := .error (.malformed candidate.2 candidate.1)

/-- All that a text gives: its records, and an error if a candidate has fewer than three fields. -/
def given (t : Text) : List Item :=
  (records t).map .ok ++ (stop? (candidatesFrom 0 (linePieces t))).toList.map malformation

section Candidates

variable {passed : Nat} {line : Text} {rest : List Text} {candidates : List (Text × Nat)}

theorem candidatesFrom_cons_of_not_candidate (h : isCandidate line = false) :
    candidatesFrom passed (line :: rest) = candidatesFrom (passed + 1) rest := by
  simp [candidatesFrom, List.zipIdx_cons, h]

theorem candidatesFrom_cons_of_candidate (h : isCandidate line = true) :
    candidatesFrom passed (line :: rest) =
      (line, passed + 1) :: candidatesFrom (passed + 1) rest := by
  simp [candidatesFrom, List.zipIdx_cons, h]

theorem declarations_of_malformed (h : isWhole line = false) :
    declarations ((line, passed) :: candidates) = [] := by
  simp [declarations, h]

theorem declarations_of_whole (h : isWhole line = true) :
    declarations ((line, passed) :: candidates) = line :: declarations candidates := by
  simp [declarations, h]

theorem stop?_of_malformed (h : isWhole line = false) :
    stop? ((line, passed) :: candidates) = some (line, passed) := by
  simp [stop?, h]

theorem stop?_of_whole (h : isWhole line = true) :
    stop? ((line, passed) :: candidates) = stop? candidates := by
  simp [stop?, h]

end Candidates

theorem isDeclaredBy_eq_isCandidate (line : Text) : isDeclaredBy line = isCandidate line := by
  have hall : (keyword.all fun c => !isBlank c) = true := by decide
  have hkeyword : ∀ c ∈ keyword, isBlank c = false := by
    intro c hc
    simpa using List.all_eq_true.mp hall c hc
  have hnonempty : keyword ≠ [] := by decide
  have htrim := prefix_trim_iff hnonempty hkeyword line
  rw [Bool.eq_iff_iff, isDeclaredBy, List.isPrefixOf_iff_prefix, htrim, isCandidate]
  cases line.fields with
  | nil => simp
  | cons first rest => simp

theorem ofLine?_eq_none_iff (line : Text) : ofLine? line = none ↔ isWhole line = false := by
  unfold ofLine? isWhole
  rcases line.fields with _ | ⟨first, _ | ⟨second, _ | ⟨third, rest⟩⟩⟩ <;> simp

theorem label_of_ofLine? {line : Text} {u : Uniform} (h : ofLine? line = some u) :
    u.label = nameOn line := by
  unfold ofLine? at h
  unfold nameOn
  rcases hfields : line.fields with _ | ⟨first, _ | ⟨second, _ | ⟨third, rest⟩⟩⟩
  · simp [hfields] at h
  · simp [hfields] at h
  · simp [hfields] at h
  · simp only [hfields, Option.some.injEq] at h
    simp [← h]

theorem firsts_concat (ls : List Text) (line : Text) :
    firsts (ls ++ [line]) = firsts ls ++ if nameOn line ∈ ls.map nameOn then [] else [line] := by
  have hbefore : ∀ numbered ∈ ls.zipIdx,
      (!(((ls ++ [line]).take numbered.2).map nameOn).contains (nameOn numbered.1)) =
        !((ls.take numbered.2).map nameOn).contains (nameOn numbered.1) := by
    intro numbered hnumbered
    have hindex : numbered.2 < ls.length := by
      simpa using List.snd_lt_of_mem_zipIdx hnumbered
    rw [List.take_append_of_le_length (by omega)]
  rw [firsts, List.zipIdx_append, List.filter_append, List.filter_congr hbefore, List.map_append,
    ← firsts]
  congr 1
  by_cases hname : nameOn line ∈ ls.map nameOn <;> simp [hname]

theorem exists_of_mem_firsts {ls : List Text} {line : Text} (h : line ∈ firsts ls) :
    ∃ before after, ls = before ++ line :: after ∧ nameOn line ∉ before.map nameOn := by
  induction ls using List.reverseRecOn with
  | nil => simp [firsts] at h
  | append_singleton ls last ih =>
      rw [firsts_concat, List.mem_append] at h
      rcases h with h | h
      · obtain ⟨before, after, rfl, hname⟩ := ih h
        exact ⟨before, after ++ [last], by simp, hname⟩
      · split at h
        · simp at h
        · next hname =>
            obtain rfl : line = last := by simpa using h
            exact ⟨ls, [], rfl, hname⟩

theorem nodup_firsts (ls : List Text) : ((firsts ls).map nameOn).Nodup := by
  induction ls using List.reverseRecOn with
  | nil => simp [firsts]
  | append_singleton ls last ih =>
      rw [firsts_concat]
      split
      · rwa [List.append_nil]
      · next hname =>
          rw [List.map_append, List.map_singleton, List.nodup_append]
          refine ⟨ih, by simp, ?_⟩
          intro name hfirst other hother
          obtain rfl : other = nameOn last := by simpa using hother
          rintro rfl
          apply hname
          obtain ⟨line, hline, heq⟩ := List.mem_map.mp hfirst
          obtain ⟨before, after, rfl, -⟩ := exists_of_mem_firsts hline
          rw [← heq]
          simp

end Declarations

section Remaining

/-- What a listing still gives. -/
def itemsFrom (seen : List Text) (passed : Nat) : List Text → List Item
  | [] => []
  | line :: rest =>
      if isDeclaredBy line then
        match ofLine? line with
        | none => [.error (.malformed (passed + 1) line)]
        | some u =>
            if seen.contains u.label then itemsFrom seen (passed + 1) rest
            else .ok u :: itemsFrom (u.label :: seen) (passed + 1) rest
      else itemsFrom seen (passed + 1) rest

/-- What a listing still gives, in any state. -/
def remaining (l : Listing) : List Item :=
  if l.failed then [] else itemsFrom l.seen l.passed l.lines

section Steps

variable {seen : List Text} {passed : Nat} {line : Text} {rest : List Text} {u : Uniform}

theorem itemsFrom_of_not_declared (h : isDeclaredBy line = false) :
    itemsFrom seen passed (line :: rest) = itemsFrom seen (passed + 1) rest := by
  simp [itemsFrom, h]

theorem itemsFrom_of_malformed (h : isDeclaredBy line = true) (hnone : ofLine? line = none) :
    itemsFrom seen passed (line :: rest) = [.error (.malformed (passed + 1) line)] := by
  simp [itemsFrom, h, hnone]

theorem itemsFrom_of_seen (h : isDeclaredBy line = true) (hsome : ofLine? line = some u)
    (hseen : u.label ∈ seen) :
    itemsFrom seen passed (line :: rest) = itemsFrom seen (passed + 1) rest := by
  simp [itemsFrom, h, hsome, hseen]

theorem itemsFrom_of_fresh (h : isDeclaredBy line = true) (hsome : ofLine? line = some u)
    (hfresh : u.label ∉ seen) :
    itemsFrom seen passed (line :: rest) =
      .ok u :: itemsFrom (u.label :: seen) (passed + 1) rest := by
  simp [itemsFrom, h, hsome, hfresh]

end Steps

theorem nextFrom_cons (seen : List Text) (passed : Nat) (line : Text) (rest : List Text) :
    nextFrom seen passed (line :: rest) =
      if isDeclaredBy line then
        match ofLine? line with
        | none => (some (.error (.malformed (passed + 1) line)), ⟨rest, passed + 1, seen, true⟩)
        | some u =>
            if u.label ∈ seen then nextFrom seen (passed + 1) rest
            else (some (.ok u), ⟨rest, passed + 1, u.label :: seen, false⟩)
      else nextFrom seen (passed + 1) rest := rfl

theorem nextFrom_remaining (seen : List Text) (passed : Nat) (ls : List Text) :
    (nextFrom seen passed ls).1 = (itemsFrom seen passed ls).head? ∧
      remaining (nextFrom seen passed ls).2 = (itemsFrom seen passed ls).tail := by
  induction ls generalizing passed with
  | nil => exact ⟨rfl, rfl⟩
  | cons line rest ih =>
      rw [nextFrom_cons]
      split
      · next hdeclared =>
          split
          · next hnone =>
              rw [itemsFrom_of_malformed hdeclared hnone]
              exact ⟨rfl, rfl⟩
          · next u hsome =>
              split
              · next hseen =>
                  rw [itemsFrom_of_seen hdeclared hsome hseen]
                  exact ih (passed + 1)
              · next hfresh =>
                  rw [itemsFrom_of_fresh hdeclared hsome hfresh]
                  exact ⟨rfl, rfl⟩
      · next hdeclared =>
          rw [itemsFrom_of_not_declared (by simpa using hdeclared)]
          exact ih (passed + 1)

theorem next_remaining (l : Listing) :
    l.next.1 = (remaining l).head? ∧ remaining l.next.2 = (remaining l).tail := by
  obtain ⟨ls, passed, seen, failed⟩ := l
  cases failed with
  | true => exact ⟨rfl, rfl⟩
  | false => exact nextFrom_remaining seen passed ls

/-- The results of any number of calls are the remaining items, in order, and nothing after them. -/
theorem results_eq (n : Nat) (l : Listing) :
    results n l = (List.range n).map fun i => (remaining l)[i]? := by
  induction n generalizing l with
  | zero => rfl
  | succ n ih =>
      obtain ⟨hfirst, hrest⟩ := next_remaining l
      rw [results, ih, hfirst, hrest, List.range_succ_eq_map, List.map_cons, List.map_map,
        List.head?_eq_getElem?]
      congr 1
      apply List.map_congr_left
      intro i _
      simp

/-- The items still to come, with those of the declarations already read, are those of all
declarations. -/
theorem itemsFrom_eq (read : List Text) (seen : List Text) (passed : Nat) (ls : List Text)
    (hseen : ∀ name, name ∈ seen ↔ name ∈ read.map nameOn) :
    ((firsts read).filterMap ofLine?).map .ok ++ itemsFrom seen passed ls =
      ((firsts (read ++ declarations (candidatesFrom passed ls))).filterMap ofLine?).map .ok
        ++ (stop? (candidatesFrom passed ls)).toList.map malformation := by
  -- `seen` holds the names on the lines in `read`, whatever else became of those lines
  induction ls generalizing read seen passed with
  | nil => simp [candidatesFrom, declarations, stop?, itemsFrom]
  | cons line rest ih =>
      have hdeclared := isDeclaredBy_eq_isCandidate line
      cases hcandidate : isCandidate line with
      | false =>
          rw [candidatesFrom_cons_of_not_candidate hcandidate,
            itemsFrom_of_not_declared (hdeclared.trans hcandidate)]
          exact ih read seen (passed + 1) hseen
      | true =>
          rw [hcandidate] at hdeclared
          rw [candidatesFrom_cons_of_candidate hcandidate]
          cases hrecord : ofLine? line with
          | none =>
              have hwhole := (ofLine?_eq_none_iff line).mp hrecord
              rw [itemsFrom_of_malformed hdeclared hrecord, declarations_of_malformed hwhole,
                stop?_of_malformed hwhole, List.append_nil]
              rfl
          | some u =>
              have hwhole : isWhole line = true := by
                rw [← Bool.not_eq_false, ← ofLine?_eq_none_iff, hrecord]
                simp
              have hlabel := label_of_ofLine? hrecord
              rw [declarations_of_whole hwhole, stop?_of_whole hwhole, List.append_cons]
              have hfirsts := firsts_concat read line
              rcases Decidable.em (u.label ∈ seen) with hold | hfresh
              · have hname : nameOn line ∈ read.map nameOn := hlabel ▸ (hseen _).mp hold
                rw [if_pos hname, List.append_nil] at hfirsts
                have hread := ih (read ++ [line]) seen (passed + 1) (by
                  intro name
                  rw [hseen, List.map_append, List.map_singleton, List.mem_append,
                    List.mem_singleton]
                  constructor
                  · exact Or.inl
                  · rintro (h | rfl)
                    · exact h
                    · exact hname)
                rw [itemsFrom_of_seen hdeclared hrecord hold, ← hread, hfirsts]
              · have hname : nameOn line ∉ read.map nameOn := by
                  rw [← hseen, ← hlabel]
                  exact hfresh
                rw [if_neg hname] at hfirsts
                have hread := ih (read ++ [line]) (u.label :: seen) (passed + 1) (by
                  intro name
                  rw [List.mem_cons, hseen, List.map_append, List.map_singleton, List.mem_append,
                    List.mem_singleton, hlabel, or_comm])
                rw [itemsFrom_of_fresh hdeclared hrecord hfresh, ← hread, hfirsts]
                simp [hrecord]

theorem remaining_ofText (t : Text) : remaining (ofText t) = given t := by
  have hitems := itemsFrom_eq [] [] 0 (linePieces t) (by simp)
  simpa [remaining, ofText, lines_eq_linePieces, given, records, firsts] using hitems

theorem itemsFrom_append_of_malformed {line : Text} (hdeclared : isDeclaredBy line = true)
    (hnone : ofLine? line = none) (seen : List Text) (passed : Nat) (before after : List Text) :
    itemsFrom seen passed (before ++ line :: after) = itemsFrom seen passed (before ++ [line]) := by
  induction before generalizing seen passed with
  | nil => rw [List.nil_append, List.nil_append, itemsFrom_of_malformed hdeclared hnone,
      itemsFrom_of_malformed hdeclared hnone]
  | cons first rest ih =>
      rw [List.cons_append, List.cons_append]
      cases hfirst : isDeclaredBy first with
      | false => rw [itemsFrom_of_not_declared hfirst, itemsFrom_of_not_declared hfirst, ih]
      | true =>
          cases hrecord : ofLine? first with
          | none =>
              rw [itemsFrom_of_malformed hfirst hrecord, itemsFrom_of_malformed hfirst hrecord]
          | some u =>
              rcases Decidable.em (u.label ∈ seen) with hold | hfresh
              · rw [itemsFrom_of_seen hfirst hrecord hold,
                  itemsFrom_of_seen hfirst hrecord hold, ih]
              · rw [itemsFrom_of_fresh hfirst hrecord hfresh,
                  itemsFrom_of_fresh hfirst hrecord hfresh, ih]

theorem remaining_of_malformed {t : Text} {before after : List Text} {line : Text}
    (ht : linePieces t = before ++ line :: after) (hcandidate : isCandidate line = true)
    (hwhole : isWhole line = false) :
    remaining (ofText t) = itemsFrom [] 0 (before ++ [line]) := by
  have hdeclared : isDeclaredBy line = true := (isDeclaredBy_eq_isCandidate line).trans hcandidate
  have hnone := (ofLine?_eq_none_iff line).mpr hwhole
  rw [remaining, ofText, lines_eq_linePieces, ht]
  exact itemsFrom_append_of_malformed hdeclared hnone [] 0 before after

theorem nodup_records (t : Text) : ((records t).map Uniform.label).Nodup := by
  have hfirsts := nodup_firsts (declarations (candidatesFrom 0 (linePieces t)))
  rw [List.Nodup, List.pairwise_map] at hfirsts ⊢
  apply hfirsts.filterMap
  intro line line' hne u hu u' hu'
  rw [label_of_ofLine? hu, label_of_ofLine? hu']
  exact hne

theorem exists_declaration_of_mem_records {t : Text} {u : Uniform} (hu : u ∈ records t) :
    ∃ before line after,
      declarations (candidatesFrom 0 (linePieces t)) = before ++ line :: after ∧
        ofLine? line = some u ∧ ∀ earlier ∈ before, nameOn earlier ≠ u.label := by
  obtain ⟨line, hline, hrecord⟩ := List.mem_filterMap.mp hu
  obtain ⟨before, after, hdeclarations, hname⟩ := exists_of_mem_firsts hline
  refine ⟨before, line, after, hdeclarations, hrecord, ?_⟩
  intro earlier hearlier heq
  apply hname
  rw [← label_of_ofLine? hrecord, ← heq]
  exact List.mem_map_of_mem hearlier

end Remaining

/-- Each call of a listing gives what its text gives at that place, and nothing behind the end.
Names are given once, as they are first declared, and nothing behind a malformed declaration
counts. -/
theorem results_ofText (t : Text) :
    (∀ n, results n (ofText t) = (List.range n).map fun call => (given t)[call]?) ∧
      ((records t).map Uniform.label).Nodup ∧
      (∀ u ∈ records t, ∃ before line after,
        declarations (candidatesFrom 0 (linePieces t)) = before ++ line :: after ∧
          ofLine? line = some u ∧ ∀ earlier ∈ before, nameOn earlier ≠ u.label) ∧
      ∀ (t' : Text) (before after after' : List Text) (line : Text),
        linePieces t = before ++ line :: after → linePieces t' = before ++ line :: after' →
        isCandidate line = true → isWhole line = false →
        ∀ n, results n (ofText t') = results n (ofText t) := by
  refine ⟨?_, nodup_records t, fun u hu => exists_declaration_of_mem_records hu, ?_⟩
  · intro n
    rw [results_eq, remaining_ofText]
  · intro t' before after after' line ht ht' hcandidate hwhole n
    rw [results_eq, results_eq, remaining_of_malformed ht hcandidate hwhole,
      remaining_of_malformed ht' hcandidate hwhole]

example :
    results 4 (ofText "uniform vec3 a;\r\nx\nuniform float a;\n uniform b".toList) =
      [some (.ok ⟨['a'], "vec3".toList, []⟩), some (.error (.malformed 4 " uniform b".toList)),
        none, none] := by
  decide +kernel

end ShaderTools.Proofs.ListingResults
