import ShaderTools.FileSystem.Operations
import ShaderTools.Proofs.JoinedPaths

/-!
Where paths lead. The walk along a joined path first leads to the directory of its first part and
goes on from there, and fails if the first part leads to none. Two file systems lead a path to the
same directory if they agree on the directories and links that the path passes.
-/

namespace ShaderTools.Proofs.PathWalks

open ShaderTools.FileSystem
open ShaderTools.Path
open ShaderTools.Proofs.JoinedPaths

/-- The directory at which a walk has arrived, if it is at one. -/
def arrival? (fs : FileSystem) : Except Failure Place → Option Location
  | .ok (.directory l) => some l
  | .ok (.entry parent name _) =>
      if fs.node? (parent ++ [name]) = some .directory then some (parent ++ [name]) else none
  | .error _ => none

theorem status_eq_iff_arrival? {fs : FileSystem} {p : Path} {d : Location} :
    fs.status p = .ok (d, .directory) ↔ arrival? fs (fs.place .followed p) = some d := by
  unfold status
  cases fs.place .followed p with
  | error failure => simp [arrival?, bind, Except.bind]
  | ok place =>
      cases place with
      | directory l => simp [arrival?, bind, Except.bind, pure, Except.pure]
      | entry parent name slash =>
          simp only [arrival?, bind, Except.bind]
          cases hnode : fs.node? (parent ++ [name]) with
          | none => simp [throw, throwThe, MonadExceptOf.throw]
          | some found =>
              simp only [pure, Except.pure, Except.ok.injEq, Prod.mk.injEq, Option.some.injEq]
              constructor
              · rintro ⟨rfl, rfl⟩
                simp
              · intro h
                split at h
                · exact ⟨by simpa using h, by assumption⟩
                · simp at h

theorem arrival?_of_status {fs : FileSystem} {p : Path} {d : Location}
    (h : fs.status p = .ok (d, .directory)) : arrival? fs (fs.place .followed p) = some d :=
  status_eq_iff_arrival?.mp h

/-- A path leads to a directory of the file system. -/
structure LeadsTo (fs : FileSystem) (p : Path) (d : Location) : Prop where
  status : fs.status p = .ok (d, .directory)
  node : fs.node? d = some .directory

section Continuation

variable {fs : FileSystem} {last : LastName} {slash : Bool} {extra : List PathStep}

/-- A longer walk goes on with more steps from where a shorter one has arrived, and fails if the
shorter one has arrived nowhere. -/
def Continues (fs : FileSystem) (last : LastName) (slash : Bool) (extra : List PathStep)
    (shorter longer : Except Failure Place) : Prop :=
  match arrival? fs shorter with
  | some d => ∃ follow, longer = walkSteps fs last slash follow d extra
  | none => ∃ failure, longer = .error failure

theorem walkSteps_here (fs : FileSystem) (last : LastName) (slash : Bool)
    (follow : Location → Route → Except Failure Place) (l : Location) {stay : List PathStep}
    (hstay : ∀ step ∈ stay, step = .here) :
    walkSteps fs last slash follow l stay = .ok (.directory l) := by
  induction stay with
  | nil => rfl
  | cons step rest ih =>
      obtain rfl : step = .here := hstay step (by simp)
      exact ih fun other hother => hstay other (by simp [hother])

/-- Links are followed to corresponding places. -/
def FollowsOn (fs : FileSystem) (last : LastName) (slash : Bool) (extra : List PathStep)
    (follow follow' : Location → Route → Except Failure Place) : Prop :=
  ∀ (l : Location) (isAbsolute : Bool) (steps stay : List PathStep) (slash' : Bool),
    (∀ step ∈ stay, step = .here) →
      Continues fs last slash extra (follow l ⟨isAbsolute, steps ++ stay, slash'⟩)
        (follow' l ⟨isAbsolute, steps ++ extra, slash⟩)

theorem walkSteps_continues {follow follow' : Location → Route → Except Failure Place}
    (hfollow : FollowsOn fs last slash extra follow follow') (hextra : extra ≠ [])
    (slash' : Bool) (l : Location) (steps : List PathStep) {stay : List PathStep}
    (hstay : ∀ step ∈ stay, step = .here) :
    Continues fs last slash extra (walkSteps fs .followed slash' follow l (steps ++ stay))
      (walkSteps fs last slash follow' l (steps ++ extra)) := by
  induction steps generalizing l with
  | nil =>
      rw [List.nil_append, walkSteps_here fs _ _ _ l hstay]
      exact ⟨follow', rfl⟩
  | cons step rest ih =>
      have hlonger : rest ++ extra ≠ [] := by simp [hextra]
      cases step with
      | here => exact ih l
      | up => exact ih l.dropLast
      | name text =>
          simp only [List.cons_append, walkSteps, hlonger, reduceCtorEq, false_and, and_false,
            if_false]
          by_cases hlong : nameLimit < Text.Utf8.size text
          · rw [if_pos hlong, if_pos hlong]
            exact ⟨_, rfl⟩
          · rw [if_neg hlong, if_neg hlong]
            cases hnode : fs.node? (l ++ [text]) with
            | none =>
                by_cases hrest : rest ++ stay = []
                · simp [hrest, Continues, arrival?, hnode]
                · simp [hrest, Continues, arrival?]
            | some found =>
                cases found with
                | file mode content =>
                    by_cases hrest : rest ++ stay = []
                    · simp [hrest, Continues, arrival?, hnode]
                    · simp [hrest, Continues, arrival?]
                | directory =>
                    have hnext := ih (l ++ [text])
                    by_cases hrest : rest ++ stay = []
                    · rw [hrest] at hnext
                      simpa [hrest, Continues, arrival?, hnode, walkSteps] using hnext
                    · simpa [hrest] using hnext
                | link target =>
                    have hnext := hfollow l (Route.ofPath target).isAbsolute
                      ((Route.ofPath target).steps ++ rest) stay
                      (if rest ++ stay = [] then (Route.ofPath target).endsInSlash else slash')
                      hstay
                    simpa [List.append_assoc] using hnext

theorem walk_continues (hextra : extra ≠ []) (hslash : last = .followed → slash = false)
    (links : Nat) :
    FollowsOn fs last slash extra (walk fs .followed links) (walk fs last links) := by
  have hlonger : ∀ (isAbsolute : Bool) (steps : List PathStep),
      stepsFor last ⟨isAbsolute, steps ++ extra, slash⟩ = steps ++ extra := by
    intro isAbsolute steps
    rw [stepsFor, if_neg]
    rintro ⟨hlast, hends⟩
    simp [hslash hlast] at hends
  have hshorter : ∀ (isAbsolute : Bool) (steps stay : List PathStep) (slash' : Bool),
      (∀ step ∈ stay, step = .here) → ∃ stay' : List PathStep, (∀ step ∈ stay', step = .here) ∧
        stepsFor .followed ⟨isAbsolute, steps ++ stay, slash'⟩ = steps ++ stay' := by
    intro isAbsolute steps stay slash' hstay
    cases slash' with
    | false => exact ⟨stay, hstay, by simp [stepsFor]⟩
    | true =>
        refine ⟨stay ++ [.here], ?_, by simp [stepsFor]⟩
        intro step hstep
        rcases List.mem_append.mp hstep with hstep | hstep
        · exact hstay step hstep
        · simpa using hstep
  induction links with
  | zero =>
      intro l isAbsolute steps stay slash' hstay
      obtain ⟨stay', hstay', hsteps⟩ := hshorter isAbsolute steps stay slash' hstay
      rw [walk, walk, hsteps, hlonger]
      have hstop : FollowsOn fs last slash extra (fun _ _ => .error .tooManyLinks)
          (fun _ _ => .error .tooManyLinks) := by
        intro l isAbsolute steps stay slash' hstay
        exact ⟨.tooManyLinks, rfl⟩
      exact walkSteps_continues hstop hextra _ _ steps hstay'
  | succ links ih =>
      intro l isAbsolute steps stay slash' hstay
      obtain ⟨stay', hstay', hsteps⟩ := hshorter isAbsolute steps stay slash' hstay
      rw [walk, walk, hsteps, hlonger]
      exact walkSteps_continues ih hextra _ _ steps hstay'

/-- The walk along a joined path goes on from the directory that its first part leads to. -/
theorem place_join_continues {p relative : Path} (hp : p ≠ []) (hnul : '\x00' ∉ relative)
    (hpieces : relative.pieces ≠ [])
    (hslash : last = .followed → relative.getLast? ≠ some '/')
    (hfits : Text.Utf8.size (p.join relative) < pathLimit) :
    Continues fs last (relative.getLast? = some '/') (relative.pieces.map Route.stepOfPiece)
      (fs.place .followed p) (fs.place last (p.join relative)) := by
  have hrelative : relative ≠ [] := by
    rintro rfl
    exact hpieces rfl
  have hshort : Text.Utf8.size p < pathLimit :=
    Nat.lt_of_le_of_lt (size_le_size_join p relative) hfits
  have hroute : Route.ofPath (p.join relative) =
      ⟨p.isAbsolute, p.pieces.map Route.stepOfPiece ++ relative.pieces.map Route.stepOfPiece,
        decide (relative.getLast? = some '/')⟩ := by
    simp [Route.ofPath, isAbsolute_join hp, pieces_join, getLast?_join p hrelative]
  by_cases hzero : '\x00' ∈ p
  · have hzero' : '\x00' ∈ p.join relative :=
      (mem_join_iff (by decide) p relative).mpr (Or.inl hzero)
    rw [place, if_pos hzero, place, if_pos hzero']
    exact ⟨_, rfl⟩
  · have hzero' : '\x00' ∉ p.join relative := by
      rw [mem_join_iff (by decide)]
      exact not_or.mpr ⟨hzero, hnul⟩
    rw [place, if_neg hzero, if_neg hp, if_neg (Nat.not_le.mpr hshort), place, if_neg hzero',
      if_neg (join_ne_nil hp relative), if_neg (Nat.not_le.mpr hfits), hroute]
    have hfollow : FollowsOn fs last (relative.getLast? = some '/')
        (relative.pieces.map Route.stepOfPiece) (walk fs .followed linkLimit)
        (walk fs last linkLimit) :=
      walk_continues (by simpa using hpieces) (fun hlast => by simpa using hslash hlast) linkLimit
    have hwalk := hfollow fs.workingDirectory p.isAbsolute (p.pieces.map Route.stepOfPiece) []
      (p.getLast? = some '/') (by simp)
    simpa [Route.ofPath] using hwalk

end Continuation

section Agreement

variable {fs first second : FileSystem}

/-- Whether something leads on along a path: a directory, or a link. -/
def LeadsOn (node : Node) : Prop := node = .directory ∨ ∃ target, node = .link target

/-- Wherever `fs` has a directory or a link, `first` has none, or both others have the same. -/
def AgreeAlong (fs first second : FileSystem) : Prop :=
  ∀ l found, LeadsOn found → fs.node? l = some found →
    (first.node? l = some found ∧ second.node? l = some found) ∨
      ∀ other, LeadsOn other → first.node? l ≠ some other

/-- Walks that arrive in two file systems arrive in a third one, at the same directory. -/
def ArriveAlike (fs first second : FileSystem) (walked walked₁ walked₂ : Except Failure Place) :
    Prop :=
  ∀ d d', arrival? fs walked = some d → arrival? first walked₁ = some d' →
    arrival? second walked₂ = some d ∧ d' = d

theorem exists_leadsOn_of_arrival? {slash : Bool}
    {follow : Location → Route → Except Failure Place} {l d : Location} {text : Text}
    {rest : List PathStep}
    (h : arrival? fs (walkSteps fs .followed slash follow l (.name text :: rest)) = some d) :
    Text.Utf8.size text ≤ nameLimit ∧
      ∃ found, LeadsOn found ∧ fs.node? (l ++ [text]) = some found := by
  simp only [walkSteps, reduceCtorEq, false_and, and_false, if_false] at h
  split at h
  · simp [arrival?] at h
  · next hshort =>
      refine ⟨Nat.not_lt.mp hshort, ?_⟩
      cases hnode : fs.node? (l ++ [text]) with
      | none =>
          rcases Decidable.em (rest = []) with hrest | hrest <;>
            simp [hnode, hrest, arrival?] at h
      | some found =>
          cases found with
          | file mode content =>
              rcases Decidable.em (rest = []) with hrest | hrest <;>
                simp [hnode, hrest, arrival?] at h
          | directory => exact ⟨_, Or.inl rfl, rfl⟩
          | link target => exact ⟨_, Or.inr ⟨target, rfl⟩, rfl⟩

theorem walkSteps_arriveAlike (h : AgreeAlong fs first second)
    {follow follow₁ follow₂ : Location → Route → Except Failure Place}
    (hfollow : ∀ l route,
      ArriveAlike fs first second (follow l route) (follow₁ l route) (follow₂ l route))
    (slash : Bool) (l : Location) (steps : List PathStep) :
    ArriveAlike fs first second (walkSteps fs .followed slash follow l steps)
      (walkSteps first .followed slash follow₁ l steps)
      (walkSteps second .followed slash follow₂ l steps) := by
  induction steps generalizing l with
  | nil =>
      intro d d' hd hd'
      simp only [walkSteps, arrival?, Option.some.injEq] at hd hd' ⊢
      exact ⟨hd, hd'.symm.trans hd⟩
  | cons step rest ih =>
      cases step with
      | here => exact ih l
      | up => exact ih l.dropLast
      | name text =>
          intro d d' hd hd'
          obtain ⟨hshort, found, hleads, hnode⟩ := exists_leadsOn_of_arrival? hd
          obtain ⟨-, other, hother, hfirst'⟩ := exists_leadsOn_of_arrival? hd'
          have hlong : ¬nameLimit < Text.Utf8.size text := Nat.not_lt.mpr hshort
          rcases h (l ++ [text]) found hleads hnode with ⟨hfirst, hsecond⟩ | hnone
          · simp only [walkSteps, reduceCtorEq, false_and, and_false, if_false, hlong, hnode,
              hfirst, hsecond] at hd hd' ⊢
            rcases hleads with rfl | ⟨target, rfl⟩
            · rcases Decidable.em (rest = []) with hrest | hrest
              · simp only [hnode, hfirst, hsecond, hrest, if_true, arrival?,
                  Option.some.injEq] at hd hd' ⊢
                exact ⟨hd, hd'.symm.trans hd⟩
              · simp only [hrest, if_false] at hd hd' ⊢
                exact ih (l ++ [text]) d d' hd hd'
            · exact hfollow _ _ d d' hd hd'
          · exact absurd hfirst' (hnone other hother)

theorem walk_arriveAlike (h : AgreeAlong fs first second) (links : Nat) (l : Location)
    (route : Route) :
    ArriveAlike fs first second (walk fs .followed links l route)
      (walk first .followed links l route) (walk second .followed links l route) := by
  induction links generalizing l route with
  | zero =>
      have hstop : ∀ (l : Location) (route : Route),
          ArriveAlike fs first second (.error .tooManyLinks) (.error .tooManyLinks)
            (.error .tooManyLinks) := by
        intro _ _ d d' hd
        simp [arrival?] at hd
      exact walkSteps_arriveAlike h hstop _ _ _
  | succ links ih => exact walkSteps_arriveAlike h ih _ _ _

/-- A path that leads to directories in two file systems leads to the first one also in a third
that agrees with both. -/
theorem status_of_agreeAlong (h : AgreeAlong fs first second)
    (hfirst : first.workingDirectory = fs.workingDirectory)
    (hsecond : second.workingDirectory = fs.workingDirectory) {p : Path} {d d' : Location}
    (hd : fs.status p = .ok (d, .directory)) (hd' : first.status p = .ok (d', .directory)) :
    second.status p = .ok (d, .directory) ∧ d' = d := by
  rw [status_eq_iff_arrival?] at hd hd' ⊢
  unfold place at hd hd' ⊢
  by_cases hnul : '\x00' ∈ p
  · simp [hnul, arrival?] at hd
  · by_cases hempty : p = []
    · simp [hempty, arrival?] at hd
    · by_cases hlong : pathLimit ≤ Text.Utf8.size p
      · simp [hnul, hempty, hlong, arrival?] at hd
      · simp only [hnul, hempty, hlong, if_false, hfirst, hsecond] at hd hd' ⊢
        exact walk_arriveAlike h linkLimit fs.workingDirectory (Route.ofPath p) d d' hd hd'

/-- A path leads to the same directory where all directories and links are kept. -/
theorem status_of_keeps {p : Path} {d : Location}
    (hkeeps : ∀ l found, LeadsOn found → fs.node? l = some found → second.node? l = some found)
    (hsecond : second.workingDirectory = fs.workingDirectory)
    (hd : fs.status p = .ok (d, .directory)) : second.status p = .ok (d, .directory) := by
  have hagree : AgreeAlong fs fs second := fun l found hleads hnode =>
    Or.inl ⟨hnode, hkeeps l found hleads hnode⟩
  exact (status_of_agreeAlong hagree rfl hsecond hd hd).1

end Agreement

end ShaderTools.Proofs.PathWalks
