import ShaderTools.Proofs.SnippetOutputs

/-!
Listings that go on. A listing whose lines are all ended gives its own items and, unless they end in
an error, those of the text behind it: read for itself, without the names that were given before,
and with its lines counted on.
-/

namespace ShaderTools.Proofs.ContinuedListings

open ShaderTools.Listing
open ShaderTools.Uniform
open ShaderTools.Proofs.TextPieces
open ShaderTools.Proofs.ListingResults
open ShaderTools.Proofs.SnippetOutputs

section Items

/-- Whether the last one of some items is an error. -/
def endInError (items : List Item) : Bool := items.getLast?.any fun item => !item.isOk

/-- The names of the uniforms among some items. -/
def namesOf (items : List Item) : List Text := (items.filterMap Except.toOption).map Uniform.label

/-- The items without the uniforms of some names. -/
def without (names : List Text) (items : List Item) : List Item :=
  items.filter fun
    | .ok u => !names.contains u.label
    | .error _ => true

/-- The item, with a malformed line a number of lines further down. -/
def movedDown (lines : Nat) : Item → Item
  | .error (.malformed line content) => .error (.malformed (line + lines) content)
  | item => item

variable {u : Uniform} {names : List Text} {items : List Item}

@[simp] theorem endInError_cons_ok (u : Uniform) (items : List Item) :
    endInError (.ok u :: items) = endInError items := by
  cases items with
  | nil => rfl
  | cons item rest => simp [endInError, List.getLast?_cons_cons]

@[simp] theorem namesOf_cons_ok (u : Uniform) (items : List Item) :
    namesOf (.ok u :: items) = u.label :: namesOf items := rfl

theorem without_cons_of_mem (h : u.label ∈ names) :
    without names (.ok u :: items) = without names items := by
  simp [without, h]

theorem without_cons_of_notMem (h : u.label ∉ names) :
    without names (.ok u :: items) = .ok u :: without names items := by
  simp [without, h]

end Items

section Continuation

/-- Lines that are read on after others are read with the names that those gave, unless reading
ended there. -/
theorem itemsFrom_append (seen : List Text) (passed : Nat) (ls ls' : List Text) :
    itemsFrom seen passed (ls ++ ls') =
      if endInError (itemsFrom seen passed ls) then itemsFrom seen passed ls
      else itemsFrom seen passed ls ++
        itemsFrom ((namesOf (itemsFrom seen passed ls)).reverse ++ seen) (passed + ls.length) ls' := by
  fun_induction itemsFrom seen passed ls with
  | case1 seen passed => rfl
  | case2 seen passed line rest hdeclared hrecord =>
      rw [List.cons_append, itemsFrom_of_malformed hdeclared hrecord]
      rfl
  | case3 seen passed line rest hdeclared u hrecord hseen ih =>
      rw [List.cons_append, itemsFrom_of_seen hdeclared hrecord (by simpa using hseen), ih,
        List.length_cons, Nat.add_right_comm, Nat.add_assoc]
  | case4 seen passed line rest hdeclared u hrecord hfresh ih =>
      rw [List.cons_append, itemsFrom_of_fresh hdeclared hrecord (by simpa using hfresh), ih,
        endInError_cons_ok, namesOf_cons_ok, List.reverse_cons, List.append_assoc,
        List.singleton_append, List.length_cons, Nat.add_right_comm, Nat.add_assoc]
      split <;> rfl
  | case5 seen passed line rest hdeclared ih =>
      rw [List.cons_append, itemsFrom_of_not_declared (by simpa using hdeclared), ih,
        List.length_cons, Nat.add_right_comm, Nat.add_assoc]

/-- Names that are known beforehand are the ones that no uniform is given for. -/
theorem itemsFrom_of_known (names : List Text) (shift : Nat) {seen seen' : List Text}
    (h : ∀ name, name ∈ seen' ↔ name ∈ names ∨ name ∈ seen) (passed : Nat) (ls : List Text) :
    itemsFrom seen' (passed + shift) ls =
      (without names (itemsFrom seen passed ls)).map (movedDown shift) := by
  fun_induction itemsFrom seen passed ls generalizing seen' with
  | case1 seen passed => rfl
  | case2 seen passed line rest hdeclared hrecord =>
      rw [itemsFrom_of_malformed hdeclared hrecord, Nat.add_right_comm]
      rfl
  | case3 seen passed line rest hdeclared u hrecord hseen ih =>
      have hseen' : u.label ∈ seen' := (h u.label).mpr (Or.inr (by simpa using hseen))
      rw [itemsFrom_of_seen hdeclared hrecord hseen', Nat.add_right_comm, ih h]
  | case4 seen passed line rest hdeclared u hrecord hfresh ih =>
      have hfresh' : u.label ∉ seen := by simpa using hfresh
      by_cases hname : u.label ∈ names
      · have hseen' : u.label ∈ seen' := (h u.label).mpr (Or.inl hname)
        rw [itemsFrom_of_seen hdeclared hrecord hseen', Nat.add_right_comm,
          without_cons_of_mem hname]
        apply ih
        intro name
        rw [h, List.mem_cons]
        constructor
        · rintro (hknown | hold)
          · exact Or.inl hknown
          · exact Or.inr (Or.inr hold)
        · rintro (hknown | rfl | hold)
          · exact Or.inl hknown
          · exact Or.inl hname
          · exact Or.inr hold
      · have hnew : u.label ∉ seen' := by
          rw [h]
          exact not_or.mpr ⟨hname, hfresh'⟩
        rw [itemsFrom_of_fresh hdeclared hrecord hnew, Nat.add_right_comm,
          without_cons_of_notMem hname, List.map_cons]
        congr 1
        apply ih
        intro name
        rw [List.mem_cons, List.mem_cons, h, or_left_comm]
  | case5 seen passed line rest hdeclared ih =>
      rw [itemsFrom_of_not_declared (by simpa using hdeclared), Nat.add_right_comm, ih h]

end Continuation

/-- A text whose lines are all ended gives what it gives by itself, also if another one follows;
and what that one adds to it depends on nothing but the names that were given and the number of
lines. -/
theorem itemsOfText_append {a : Text} (ha : a = [] ∨ a.getLast? = some '\n') (b : Text) :
    itemsOfText (a ++ b) =
      if endInError (itemsOfText a) then itemsOfText a
      else itemsOfText a ++
        (without (namesOf (itemsOfText a)) (itemsOfText b)).map (movedDown (a.count '\n')) := by
  have hknown : ∀ name, name ∈ (namesOf (itemsOfText a)).reverse ++ [] ↔
      name ∈ namesOf (itemsOfText a) ∨ name ∈ ([] : List Text) := by simp
  have hrest := itemsFrom_of_known _ (a.count '\n') hknown 0 (linePieces b)
  simp only [itemsOfText_eq_itemsFrom, lines_eq_linePieces] at hrest ⊢
  rw [linePieces_append ha, itemsFrom_append, length_linePieces ha, hrest]

/-- A listing of one name. -/
def started : Text := "uniform <float> time;\nvarying vec2 uv;\n".toList

/-- A listing that declares the same name and another one, and ends without a name. -/
def further : Text := "uniform <int> time; again\r\nuniform <vec2> size; 2\nuniform size".toList

theorem itemsOfText_append_further :
    started.getLast? = some '\n' ∧
      itemsOfText (started ++ further) =
        [.ok ⟨"time".toList, "float".toList, []⟩, .ok ⟨"size".toList, "vec2".toList, ['2']⟩,
          .error (.malformed 5 "uniform size".toList)] := by
  have hlast : started.getLast? = some '\n' := by decide
  refine ⟨hlast, ?_⟩
  rw [itemsOfText_append (Or.inr hlast)]
  decide +kernel

end ShaderTools.Proofs.ContinuedListings
