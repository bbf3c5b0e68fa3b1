import ShaderTools.Proofs.PathWalks
import ShaderTools.Proofs.TreeUpdates

/-!
Where walks end, read off what a walk does at a name. A walk that starts at a directory ends in one;
where a file is to be made, its path leads to the same place when links are followed, and also when
they are kept, unless there is one at the end; and a path leads to the same place where directories
and links are kept. Steps that stay where they are make no difference before a name.
-/

namespace ShaderTools.Proofs.WalkEnds

open ShaderTools.FileSystem
open ShaderTools.Proofs.PathWalks
open ShaderTools.Proofs.TreeUpdates

variable {fs : FileSystem} {last : LastName} {l parent : Location} {name : Text}

section Names

/-- The route of a link, with the steps that come after it. -/
def linkRoute (target : Text) (rest : List PathStep) (slash : Bool) : Route :=
  { Route.ofPath target with
    steps := (Route.ofPath target).steps ++ rest
    endsInSlash := if rest = [] then (Route.ofPath target).endsInSlash else slash }

/-- How a walk goes on at a name, if it ends anywhere. -/
inductive AtName (fs : FileSystem) (last : LastName) (slash : Bool)
    (follow : Location → Route → Except Failure Place) (l : Location) (text : Text)
    (rest : List PathStep) (place : Place) : Prop where
  | slashed (hrest : rest = []) (hlast : last = .made) (hslash : slash = true)
      (hplace : place = .entry l text true)
  | ended (hrest : rest = []) (hopen : ¬(last = .made ∧ slash = true))
      (hshort : Text.Utf8.size text ≤ nameLimit)
      (hlink : last = .kept ∨ ∀ target, fs.node? (l ++ [text]) ≠ some (.link target))
      (hplace : place = .entry l text slash)
  | linked (target : Text) (hopen : ¬(rest = [] ∧ last = .made ∧ slash = true))
      (hshort : Text.Utf8.size text ≤ nameLimit)
      (hnode : fs.node? (l ++ [text]) = some (.link target)) (hlast : ¬(rest = [] ∧ last = .kept))
      (hplace : follow l (linkRoute target rest slash) = .ok place)
  | down (hrest : rest ≠ []) (hshort : Text.Utf8.size text ≤ nameLimit)
      (hnode : fs.node? (l ++ [text]) = some .directory)
      (hplace : walkSteps fs last slash follow (l ++ [text]) rest = .ok place)

variable {slash : Bool} {follow : Location → Route → Except Failure Place} {text : Text}
  {rest : List PathStep} {place : Place}

theorem atName_of_walkSteps
    (h : walkSteps fs last slash follow l (.name text :: rest) = .ok place) :
    AtName fs last slash follow l text rest place := by
  rw [walkSteps] at h
  split at h
  · next hmade => exact .slashed hmade.1 hmade.2.1 hmade.2.2 (Except.ok.inj h).symm
  · next hopen =>
      split at h
      · simp at h
      · next hlong =>
          have hshort := Nat.not_lt.mp hlong
          split at h
          · next target hnode =>
              split at h
              · next hkept =>
                  have hopen' : ¬(last = .made ∧ slash = true) := fun hmade =>
                    hopen ⟨hkept.1, hmade⟩
                  exact .ended hkept.1 hopen' hshort (Or.inl hkept.2) (Except.ok.inj h).symm
              · next hlast => exact .linked target hopen hshort hnode hlast h
          · next hlink =>
              split at h
              · next hrest =>
                  have hopen' : ¬(last = .made ∧ slash = true) := fun hmade =>
                    hopen ⟨hrest, hmade⟩
                  exact .ended hrest hopen' hshort (Or.inr hlink) (Except.ok.inj h).symm
              · next hrest =>
                  split at h
                  · next hnode => exact .down hrest hshort hnode h
                  · simp at h
                  · simp at h

theorem AtName.walkSteps (h : AtName fs last slash follow l text rest place) :
    walkSteps fs last slash follow l (.name text :: rest) = .ok place := by
  cases h with
  | slashed hrest hlast hslash hplace =>
      rw [FileSystem.walkSteps, if_pos ⟨hrest, hlast, hslash⟩, hplace]
  | ended hrest hopen hshort hlink hplace =>
      rw [FileSystem.walkSteps, if_neg (fun hmade => hopen hmade.2),
        if_neg (Nat.not_lt.mpr hshort), hplace]
      split
      · next target hnode =>
          rcases hlink with hlast | hnone
          · rw [if_pos ⟨hrest, hlast⟩]
          · exact absurd hnode (hnone target)
      · rw [if_pos hrest]
  | linked target hopen hshort hnode hlast hplace =>
      rw [FileSystem.walkSteps, if_neg hopen, if_neg (Nat.not_lt.mpr hshort), hnode]
      simp only [if_neg hlast]
      exact hplace
  | down hrest hshort hnode hplace =>
      rw [FileSystem.walkSteps, if_neg (fun hmade => hrest hmade.1),
        if_neg (Nat.not_lt.mpr hshort), hnode]
      simp only [if_neg hrest]
      exact hplace

end Names

section Paths

/-- Nothing about a path itself keeps it from being followed. -/
structure IsFollowed (p : Path) : Prop where
  nul : '\x00' ∉ p
  nonempty : p ≠ []
  fits : Text.Utf8.size p < pathLimit

variable {p : Path} {place : Place}

theorem IsFollowed.place_eq (h : IsFollowed p) (fs : FileSystem) (last : LastName) :
    fs.place last p = walk fs last linkLimit fs.workingDirectory (Route.ofPath p) := by
  rw [FileSystem.place, if_neg h.nul, if_neg h.nonempty, if_neg (Nat.not_le.mpr h.fits)]

theorem isFollowed_of_place (h : fs.place last p = .ok place) : IsFollowed p := by
  unfold FileSystem.place at h
  split at h
  · simp at h
  · next hnul =>
      split at h
      · simp at h
      · next hnonempty =>
          split at h
          · simp at h
          · next hlong => exact ⟨hnul, hnonempty, Nat.lt_of_not_le hlong⟩

/-- Where a path leads, its route leads. -/
theorem walk_of_place (h : fs.place last p = .ok place) :
    walk fs last linkLimit fs.workingDirectory (Route.ofPath p) = .ok place := by
  rw [← (isFollowed_of_place h).place_eq, h]

end Paths

section Directories

/-- A directory, or a name in one. -/
def EndsInDirectory (fs : FileSystem) : Place → Prop
  | .directory l => fs.node? l = some .directory
  | .entry parent _ _ => fs.node? parent = some .directory

variable {place : Place}

theorem node?_root (fs : FileSystem) : fs.node? [] = some .directory := by
  rw [FileSystem.node?, node?_nil]
  rfl

theorem node?_dropLast (h : fs.node? l = some .directory) :
    fs.node? l.dropLast = some .directory := by
  rcases List.eq_nil_or_concat' l with rfl | ⟨above, name, rfl⟩
  · exact h
  · rw [List.dropLast_concat]
    exact node?_above (List.cons_ne_nil name []) h

theorem walkSteps_endsInDirectory {follow : Location → Route → Except Failure Place}
    (hfollow : ∀ l route, fs.node? l = some .directory → follow l route = .ok place →
      EndsInDirectory fs place) {slash : Bool} {steps : List PathStep}
    (hl : fs.node? l = some .directory)
    (h : walkSteps fs last slash follow l steps = .ok place) : EndsInDirectory fs place := by
  induction steps generalizing l with
  | nil =>
      obtain rfl := Except.ok.inj h
      exact hl
  | cons step rest ih =>
      cases step with
      | here => exact ih hl h
      | up => exact ih (node?_dropLast hl) h
      | name text =>
          cases atName_of_walkSteps h with
          | slashed hrest hlast hslash hplace => rwa [hplace]
          | ended hrest hopen hshort hlink hplace => rwa [hplace]
          | linked target hopen hshort hnode hlast hplace => exact hfollow _ _ hl hplace
          | down hrest hshort hnode hplace => exact ih hnode hplace

/-- A walk that starts at a directory ends in one. -/
theorem walk_endsInDirectory (links : Nat) {route : Route}
    (hl : route.isAbsolute = false → fs.node? l = some .directory)
    (h : walk fs last links l route = .ok place) : EndsInDirectory fs place := by
  have hstart : ∀ {l : Location} {route : Route},
      (route.isAbsolute = false → fs.node? l = some .directory) →
        fs.node? (if route.isAbsolute then [] else l) = some .directory := by
    intro l route hl
    cases habsolute : route.isAbsolute with
    | true => exact node?_root fs
    | false => exact hl habsolute
  -- on the links that are left; the lemma above is the induction on the steps between two of them
  induction links generalizing l route with
  | zero => exact walkSteps_endsInDirectory (by simp) (hstart hl) h
  | succ links ih =>
      exact walkSteps_endsInDirectory (fun _ _ hl h => ih (fun _ => hl) h) (hstart hl) h

end Directories

section Dots

variable {slash : Bool}

/-- A walk whose last step stays where it is does not end at a name. -/
theorem walkSteps_ne_entry {follow : Location → Route → Except Failure Place}
    (hfollow : ∀ l route, route.steps.getLast? = some .here →
      follow l route ≠ .ok (.entry parent name slash)) (ends : Bool) {steps : List PathStep}
    (hsteps : steps.getLast? = some .here) :
    walkSteps fs last ends follow l steps ≠ .ok (.entry parent name slash) := by
  intro h
  induction steps generalizing l with
  | nil => simp at hsteps
  | cons step rest ih =>
      by_cases hrest : rest = []
      · subst hrest
        obtain rfl : step = .here := by simpa using hsteps
        simp [walkSteps] at h
      · rw [List.getLast?_cons_of_ne_nil hrest] at hsteps
        cases step with
        | here => exact ih hsteps h
        | up => exact ih hsteps h
        | name text =>
            cases atName_of_walkSteps h with
            | slashed hnil hlast hslash hplace => exact hrest hnil
            | ended hnil hopen hshort hlink hplace => exact hrest hnil
            | linked target hopen hshort hnode hlast hplace =>
                refine hfollow _ _ ?_ hplace
                rw [linkRoute, List.getLast?_append_of_ne_nil _ hrest, hsteps]
            | down hrest hshort hnode hplace => exact ih hsteps hplace

theorem walk_ne_entry (links : Nat) {route : Route} (hsteps : route.steps.getLast? = some .here) :
    walk fs last links l route ≠ .ok (.entry parent name slash) := by
  have hfor : ∀ {route : Route}, route.steps.getLast? = some .here →
      (stepsFor last route).getLast? = some .here := by
    intro route hsteps
    unfold stepsFor
    split
    · simp
    · exact hsteps
  induction links generalizing l route with
  | zero => exact walkSteps_ne_entry (by simp) _ (hfor hsteps)
  | succ links ih => exact walkSteps_ne_entry (fun _ _ hsteps => ih hsteps) _ (hfor hsteps)

end Dots

section LastNames

/-- Where a path leads with a link at its end kept, if it leads to a name with such links
followed: to that name, or to a link. -/
def KeptEnd (fs : FileSystem) (parent : Location) (name : Text) : Place → Prop
  | .entry parent' name' slash =>
      (parent' = parent ∧ name' = name ∧ slash = false) ∨
        ∃ target, fs.node? (parent' ++ [name']) = some (.link target)
  | .directory _ => False

/-- A file is never made behind a slash. -/
theorem walkSteps_made_slash {follow : Location → Route → Except Failure Place}
    (hfollow : ∀ l route, route.endsInSlash = true →
      follow l route ≠ .ok (.entry parent name false)) (steps : List PathStep) :
    walkSteps fs .made true follow l steps ≠ .ok (.entry parent name false) := by
  intro h
  induction steps generalizing l with
  | nil => simp [walkSteps] at h
  | cons step rest ih =>
      cases step with
      | here => exact ih h
      | up => exact ih h
      | name text =>
          cases atName_of_walkSteps h with
          | slashed hrest hlast hslash hplace => simp at hplace
          | ended hrest hopen hshort hlink hplace => exact hopen ⟨rfl, rfl⟩
          | linked target hopen hshort hnode hlast hplace =>
              have hrest : rest ≠ [] := fun hrest => hopen ⟨hrest, rfl, rfl⟩
              exact hfollow _ _ (by simp [linkRoute, hrest]) hplace
          | down hrest hshort hnode hplace => exact ih hplace

theorem walk_made_slash (links : Nat) {route : Route} (hslash : route.endsInSlash = true) :
    walk fs .made links l route ≠ .ok (.entry parent name false) := by
  induction links generalizing l route with
  | zero =>
      rw [walk, hslash]
      exact walkSteps_made_slash (by simp) _
  | succ links ih =>
      rw [walk, hslash]
      exact walkSteps_made_slash (fun _ _ hslash => ih hslash) _

theorem getLast?_of_made {p : Path} (h : fs.place .made p = .ok (.entry parent name false)) :
    p.getLast? ≠ some '/' := by
  intro hslash
  exact walk_made_slash linkLimit (by simpa [Route.ofPath] using hslash) (walk_of_place h)

theorem walkSteps_of_made {made followed kept : Location → Route → Except Failure Place}
    (hfollow : ∀ l route, made l route = .ok (.entry parent name false) →
      followed l route = .ok (.entry parent name false) ∧
        ∃ place, kept l route = .ok place ∧ KeptEnd fs parent name place)
    {steps : List PathStep}
    (h : walkSteps fs .made false made l steps = .ok (.entry parent name false)) :
    walkSteps fs .followed false followed l steps = .ok (.entry parent name false) ∧
      ∃ place, walkSteps fs .kept false kept l steps = .ok place ∧
        KeptEnd fs parent name place := by
  induction steps generalizing l with
  | nil => simp [walkSteps] at h
  | cons step rest ih =>
      cases step with
      | here => exact ih h
      | up => exact ih h
      | name text =>
          cases atName_of_walkSteps h with
          | slashed hrest hlast hslash hplace => simp at hslash
          | ended hrest hopen hshort hlink hplace =>
              have hnone := hlink.resolve_left (by simp)
              obtain ⟨rfl, rfl, -⟩ := by simpa using hplace
              refine ⟨(AtName.ended hrest (by simp) hshort (Or.inr hnone) rfl).walkSteps, _,
                (AtName.ended hrest (by simp) hshort (Or.inr hnone) rfl).walkSteps, ?_⟩
              exact Or.inl ⟨rfl, rfl, rfl⟩
          | linked target hopen hshort hnode hlast hplace =>
              obtain ⟨hfollowed, place, hkept, hend⟩ := hfollow _ _ hplace
              refine ⟨(AtName.linked target (by simp) hshort hnode (by simp) hfollowed).walkSteps,
                ?_⟩
              -- only a link behind the last slash is kept, any other one is followed all the same
              by_cases hrest : rest = []
              · refine ⟨_, (AtName.ended hrest (by simp) hshort (Or.inl rfl) rfl).walkSteps, ?_⟩
                exact Or.inr ⟨target, hnode⟩
              · exact ⟨place,
                  (AtName.linked target (by simp) hshort hnode (by simp [hrest]) hkept).walkSteps,
                  hend⟩
          | down hrest hshort hnode hplace =>
              obtain ⟨hfollowed, place, hkept, hend⟩ := ih hplace
              exact ⟨(AtName.down hrest hshort hnode hfollowed).walkSteps, place,
                (AtName.down hrest hshort hnode hkept).walkSteps, hend⟩

theorem walk_of_made (links : Nat) {route : Route}
    (h : walk fs .made links l route = .ok (.entry parent name false)) :
    walk fs .followed links l route = .ok (.entry parent name false) ∧
      ∃ place, walk fs .kept links l route = .ok place ∧ KeptEnd fs parent name place := by
  have hsteps : ∀ {links : Nat} {l : Location} {route : Route},
      walk fs .made links l route = .ok (.entry parent name false) →
        route.endsInSlash = false ∧
          ∀ last, stepsFor last route = route.steps := by
    intro links l route h
    have hslash : route.endsInSlash = false := by
      rw [Bool.eq_false_iff]
      intro hslash
      exact walk_made_slash links hslash h
    exact ⟨hslash, fun last => by simp [stepsFor, hslash]⟩
  induction links generalizing l route with
  | zero =>
      obtain ⟨hslash, hfor⟩ := hsteps h
      rw [walk, hslash, hfor] at h ⊢
      rw [walk, hslash, hfor]
      exact walkSteps_of_made (by simp) h
  | succ links ih =>
      obtain ⟨hslash, hfor⟩ := hsteps h
      rw [walk, hslash, hfor] at h ⊢
      rw [walk, hslash, hfor]
      exact walkSteps_of_made (fun _ _ h => ih h) h

/-- The place of a file that is made is also where its path leads when it is followed, and when a
link at its end is kept, unless there is one. -/
theorem place_of_made {p : Path} (h : fs.place .made p = .ok (.entry parent name false)) :
    fs.place .followed p = .ok (.entry parent name false) ∧
      ∃ place, fs.place .kept p = .ok place ∧ KeptEnd fs parent name place := by
  rw [(isFollowed_of_place h).place_eq, (isFollowed_of_place h).place_eq]
  exact walk_of_made linkLimit (walk_of_place h)

/-- No link lies at the place of a file that is made. -/
theorem kept_of_made {p : Path} (h : fs.place .made p = .ok (.entry parent name false))
    (hkept : ∀ parent name slash target, fs.place .kept p = .ok (.entry parent name slash) →
      fs.node? (parent ++ [name]) ≠ some (.link target)) :
    fs.place .kept p = .ok (.entry parent name false) := by
  obtain ⟨-, place, hplace, hend⟩ := place_of_made h
  cases place with
  | directory l => exact hend.elim
  | entry parent' name' slash =>
      rcases hend with ⟨rfl, rfl, rfl⟩ | ⟨target, htarget⟩
      · exact hplace
      · exact absurd htarget (hkept _ _ _ _ hplace)

end LastNames

section Keeping

variable {now : FileSystem} {slash : Bool}

theorem walkSteps_of_keeps {follow follow' : Location → Route → Except Failure Place}
    (hkeeps : ∀ l found, LeadsOn found → fs.node? l = some found → now.node? l = some found)
    (hend : ∀ target, now.node? (parent ++ [name]) ≠ some (.link target))
    (hfollow : ∀ l route, follow l route = .ok (.entry parent name slash) →
      follow' l route = .ok (.entry parent name slash)) (ends : Bool) {steps : List PathStep}
    (h : walkSteps fs last ends follow l steps = .ok (.entry parent name slash)) :
    walkSteps now last ends follow' l steps = .ok (.entry parent name slash) := by
  induction steps generalizing l with
  | nil => simp [walkSteps] at h
  | cons step rest ih =>
      cases step with
      | here => exact ih h
      | up => exact ih h
      | name text =>
          cases atName_of_walkSteps h with
          | slashed hrest hlast hslash hplace =>
              exact (AtName.slashed hrest hlast hslash hplace).walkSteps
          | ended hrest hopen hshort hlink hplace =>
              obtain ⟨rfl, rfl, -⟩ := by simpa using hplace
              exact (AtName.ended hrest hopen hshort (Or.inr hend) hplace).walkSteps
          | linked target hopen hshort hnode hlast hplace =>
              have hnow := hkeeps _ _ (Or.inr ⟨target, rfl⟩) hnode
              exact (AtName.linked target hopen hshort hnow hlast (hfollow _ _ hplace)).walkSteps
          | down hrest hshort hnode hplace =>
              have hnow := hkeeps _ _ (Or.inl rfl) hnode
              exact (AtName.down hrest hshort hnow (ih hplace)).walkSteps

theorem walk_of_keeps
    (hkeeps : ∀ l found, LeadsOn found → fs.node? l = some found → now.node? l = some found)
    (hend : ∀ target, now.node? (parent ++ [name]) ≠ some (.link target)) (links : Nat)
    {route : Route} (h : walk fs last links l route = .ok (.entry parent name slash)) :
    walk now last links l route = .ok (.entry parent name slash) := by
  induction links generalizing l route with
  | zero => exact walkSteps_of_keeps hkeeps hend (by simp) _ h
  | succ links ih => exact walkSteps_of_keeps hkeeps hend (fun _ _ h => ih h) _ h

/-- A path leads to the same name where directories and links are kept, unless a link is put at that
name. -/
theorem place_of_keeps {p : Path}
    (hkeeps : ∀ l found, LeadsOn found → fs.node? l = some found → now.node? l = some found)
    (hworking : now.workingDirectory = fs.workingDirectory)
    (hend : ∀ target, now.node? (parent ++ [name]) ≠ some (.link target))
    (h : fs.place last p = .ok (.entry parent name slash)) :
    now.place last p = .ok (.entry parent name slash) := by
  rw [(isFollowed_of_place h).place_eq, hworking]
  exact walk_of_keeps hkeeps hend linkLimit (walk_of_place h)

end Keeping

section Thinning

/-- Steps without some of those that stay where they are, as long as another step follows. -/
inductive Thinned : List PathStep → List PathStep → Prop where
  | nil : Thinned [] []
  | keep {steps thin : List PathStep} (step : PathStep) (h : Thinned steps thin) :
      Thinned (step :: steps) (step :: thin)
  | drop {steps thin : List PathStep} (hthin : thin ≠ []) (h : Thinned steps thin) :
      Thinned (.here :: steps) thin

variable {steps thin : List PathStep}

theorem Thinned.eq_nil_iff (h : Thinned steps thin) : steps = [] ↔ thin = [] := by
  cases h with
  | nil => rfl
  | keep step h => simp
  | drop hthin h => simp [hthin]

theorem Thinned.append_left (front : List PathStep) (h : Thinned steps thin) :
    Thinned (front ++ steps) (front ++ thin) := by
  induction front with
  | nil => exact h
  | cons step front ih => exact .keep step ih

theorem Thinned.concat (h : Thinned steps thin) (step : PathStep) :
    Thinned (steps ++ [step]) (thin ++ [step]) := by
  induction h with
  | nil => exact .keep step .nil
  | keep other h ih => exact .keep other ih
  | drop hthin h ih => exact .drop (by simp) ih

theorem thinned_filter (h : steps.getLast? ≠ some .here) :
    Thinned steps (steps.filter (· ≠ .here)) := by
  induction steps with
  | nil => exact .nil
  | cons step rest ih =>
      by_cases hrest : rest = []
      · subst hrest
        have hstep : step ≠ .here := by simpa using h
        simpa [hstep] using Thinned.keep step .nil
      · rw [List.getLast?_cons_of_ne_nil hrest] at h
        have hthin := ih h
        by_cases hstep : step = .here
        · subst hstep
          simpa using Thinned.drop (fun hnil => hrest (hthin.eq_nil_iff.mpr hnil)) hthin
        · simpa [hstep] using Thinned.keep step hthin

theorem walkSteps_thinned {follow follow' : Location → Route → Except Failure Place}
    (hfollow : ∀ l isAbsolute steps thin ends, Thinned steps thin →
      follow l ⟨isAbsolute, steps, ends⟩ = follow' l ⟨isAbsolute, thin, ends⟩) (slash : Bool)
    (h : Thinned steps thin) :
    walkSteps fs last slash follow l steps = walkSteps fs last slash follow' l thin := by
  induction h generalizing l with
  | nil => rfl
  | drop hthin h ih => exact ih
  | @keep steps thin step h ih =>
      cases step with
      | here => exact ih
      | up => exact ih
      | name text =>
          simp only [walkSteps, h.eq_nil_iff]
          split
          · rfl
          · split
            · rfl
            · split
              · split
                · rfl
                · exact hfollow _ _ _ _ _ (h.append_left _)
              · split
                · rfl
                · split
                  · exact ih
                  · rfl
                  · rfl

theorem walk_thinned (links : Nat) (isAbsolute ends : Bool) (h : Thinned steps thin) :
    walk fs last links l ⟨isAbsolute, steps, ends⟩ =
      walk fs last links l ⟨isAbsolute, thin, ends⟩ := by
  have hfor : ∀ {isAbsolute ends : Bool} {steps thin : List PathStep}, Thinned steps thin →
      Thinned (stepsFor last ⟨isAbsolute, steps, ends⟩)
        (stepsFor last ⟨isAbsolute, thin, ends⟩) := by
    intro isAbsolute ends steps thin h
    unfold stepsFor
    split
    · exact h.concat .here
    · exact h
  induction links generalizing l isAbsolute ends steps thin with
  | zero => exact walkSteps_thinned (fun _ _ _ _ _ _ => rfl) ends (hfor h)
  | succ links ih => exact walkSteps_thinned (fun _ _ _ _ _ h => ih _ _ h) ends (hfor h)

end Thinning

end ShaderTools.Proofs.WalkEnds
