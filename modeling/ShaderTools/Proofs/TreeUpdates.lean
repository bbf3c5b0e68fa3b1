import Mathlib.Data.List.Infix
import ShaderTools.FileSystem.Operations

/-!
What setting and erasing do to a file system, seen through its nodes. Both change one entry of a
directory: what lies at that entry and below it is replaced as a whole, and no node elsewhere
changes.
-/

namespace ShaderTools.Proofs.TreeUpdates

open ShaderTools.Tree

theorem eq_nil_of_child?_eq_none {entries : List (Text × Tree)}
    (h : ∀ name, child? name entries = none) : entries = [] := by
  cases entries with
  | nil => rfl
  | cons entry rest =>
      have hfirst := h entry.1
      simp [child?] at hfirst

theorem node?_nil (t : Tree) : t.node? [] = some t.node := by
  simp [node?]

theorem node?_cons (t : Tree) (name : Text) (l : Location) :
    t.node? (name :: l) = (child? name t.entries).bind (·.node? l) := by
  rw [node?, find?_cons, Option.map_bind]
  rfl

theorem node?_append (t : Tree) (l m : Location) :
    t.node? (l ++ m) = (t.find? l).bind (·.node? m) := by
  rw [node?, find?_append, Option.map_bind]
  rfl

theorem node?_eq_directory_iff {t : Tree} {l : Location} :
    t.node? l = some .directory ↔ ∃ entries, t.find? l = some (.directory entries) := by
  rw [node?, Option.map_eq_some_iff]
  constructor
  · rintro ⟨found, hfound, hnode⟩
    cases found with
    | file mode content => simp [node] at hnode
    | link target => simp [node] at hnode
    | directory entries => exact ⟨entries, hfound⟩
  · rintro ⟨entries, hfound⟩
    exact ⟨_, hfound, rfl⟩

/-- Only a directory has anything below it. -/
theorem node?_eq_directory_of_below {t : Tree} {l m : Location} (hm : m ≠ [])
    (h : t.node? (l ++ m) ≠ none) : t.node? l = some .directory := by
  rw [node?_append] at h
  cases hfound : t.find? l with
  | none => simp [hfound] at h
  | some found =>
      obtain ⟨name, rest, rfl⟩ := List.exists_cons_of_ne_nil hm
      cases found with
      | file mode content => simp [hfound, node?_cons, entries, child?] at h
      | link target => simp [hfound, node?_cons, entries, child?] at h
      | directory entries => exact node?_eq_directory_iff.mpr ⟨entries, hfound⟩

/-- A change of the entry of a name: afterwards it is what `new?` says, and no node apart from it
has changed. -/
structure EntryChange (before after : Tree) (l : Location) (new? : Option Tree) : Prop where
  below : ∀ m, after.node? (l ++ m) = new?.bind (·.node? m)
  apart : ∀ m, ¬l <+: m → after.node? m = before.node? m

private theorem entryChange_single {entries after : List (Text × Tree)} {name : Text}
    {new? : Option Tree}
    (h : ∀ other, child? other after = if other = name then new? else child? other entries) :
    EntryChange (.directory entries) (.directory after) [name] new? where
  below m := by
    rw [List.singleton_append, node?_cons]
    simp only [Tree.entries]
    rw [h, if_pos rfl]
  apart m hm := by
    cases m with
    | nil => simp [node?_nil, node]
    | cons other rest =>
        have hother : other ≠ name := by
          rintro rfl
          exact hm (by simp)
        simp only [node?_cons, Tree.entries]
        rw [h, if_neg hother]

private theorem entryChange_cons {entries : List (Text × Tree)} {name : Text} {child child' : Tree}
    {l : Location} {new? : Option Tree} (hchild : child? name entries = some child)
    (h : EntryChange child child' l new?) :
    EntryChange (.directory entries) (.directory (insert name child' entries)) (name :: l)
      new? where
  below m := by
    rw [List.cons_append, node?_cons]
    simp only [Tree.entries]
    rw [child?_insert, if_pos rfl]
    exact h.below m
  apart m hm := by
    cases m with
    | nil => simp [node?_nil, node]
    | cons other rest =>
        simp only [node?_cons, Tree.entries, child?_insert]
        by_cases hother : other = name
        · subst hother
          have hrest : ¬l <+: rest := fun hl => hm (List.cons_prefix_cons.mpr ⟨rfl, hl⟩)
          simpa [hchild] using h.apart rest hrest
        · rw [if_neg hother]

private theorem exists_child_of_node? {t : Tree} {name : Text} {l : Location}
    (h : t.node? (name :: l) = some .directory) :
    ∃ entries child, t = .directory entries ∧ child? name entries = some child ∧
      child.node? l = some .directory := by
  rw [node?_cons] at h
  cases t with
  | file mode content => simp [entries, child?] at h
  | link target => simp [entries, child?] at h
  | directory entries =>
      obtain ⟨child, hchild, hl⟩ := Option.bind_eq_some_iff.mp h
      exact ⟨entries, child, rfl, hchild, hl⟩

theorem entryChange_set {t : Tree} {parent : Location} (name : Text) (new : Tree)
    (h : t.node? parent = some .directory) :
    EntryChange t (t.set (parent ++ [name]) new) (parent ++ [name]) (some new) := by
  induction parent generalizing t with
  | nil =>
      obtain ⟨entries, hentries⟩ := node?_eq_directory_iff.mp h
      obtain rfl : t = .directory entries := by simpa using hentries
      exact entryChange_single fun other => child?_insert name other new entries
  | cons first rest ih =>
      obtain ⟨entries, child, rfl, hchild, hrest⟩ := exists_child_of_node? h
      simpa [Tree.set, hchild] using entryChange_cons hchild (ih hrest)

theorem entryChange_erase {t : Tree} {parent : Location} (name : Text)
    (h : t.node? parent = some .directory) :
    EntryChange t (t.erase (parent ++ [name])) (parent ++ [name]) none := by
  induction parent generalizing t with
  | nil =>
      obtain ⟨entries, hentries⟩ := node?_eq_directory_iff.mp h
      obtain rfl : t = .directory entries := by simpa using hentries
      exact entryChange_single fun other => child?_without name other entries
  | cons first rest ih =>
      obtain ⟨entries, child, rfl, hchild, hrest⟩ := exists_child_of_node? h
      have hstep : (Tree.directory entries).erase (first :: (rest ++ [name])) =
          .directory (insert first (child.erase (rest ++ [name])) entries) := by
        cases rest <;> simp [Tree.erase, hchild]
      rw [List.cons_append, hstep]
      exact entryChange_cons hchild (ih hrest)

section FileSystem

variable {fs : FileSystem} {parent : Location}

theorem tree_set (fs : FileSystem) (parent : Location) (name : Text) (new : Tree) :
    (fs.set (parent ++ [name]) new).tree = fs.tree.set (parent ++ [name]) new := by
  cases parent <;> rfl

theorem tree_erase (fs : FileSystem) (parent : Location) (name : Text) :
    (fs.erase (parent ++ [name])).tree = fs.tree.erase (parent ++ [name]) := by
  cases parent with
  | nil => rfl
  | cons first rest =>
      cases hchild : child? first fs.entries <;>
        cases rest <;> simp [FileSystem.erase, FileSystem.tree, Tree.erase, hchild, entries]

/-- Only a directory has anything below it. -/
theorem node?_below_eq_none {l m : Location} (hl : fs.node? l ≠ some .directory)
    (hm : l <+: m) (hne : m ≠ l) : fs.node? m = none := by
  obtain ⟨below, rfl⟩ := hm
  have hbelow : below ≠ [] := by
    rintro rfl
    exact hne (List.append_nil l)
  by_contra hnode
  exact hl (node?_eq_directory_of_below hbelow hnode)

theorem node?_above {l m : Location} {found : Node} (hm : m ≠ [])
    (h : fs.node? (l ++ m) = some found) : fs.node? l = some .directory := by
  apply node?_eq_directory_of_below hm
  rw [FileSystem.node?] at h
  simp [h]

theorem node?_below_none {l m : Location} (hl : fs.node? l = none) (hm : l <+: m) :
    fs.node? m = none := by
  rcases Decidable.em (m = l) with rfl | hne
  · exact hl
  · exact node?_below_eq_none (by simp [hl]) hm hne

theorem not_prefix_of_directory {l m : Location} (hl : fs.node? l ≠ some .directory)
    (hm : fs.node? m = some .directory) : ¬l <+: m := by
  intro hprefix
  rcases Decidable.em (m = l) with rfl | hdifferent
  · exact hl hm
  · rw [node?_below_eq_none hl hprefix hdifferent] at hm
    simp at hm

/-- A file or an empty directory put where no directory is changes that one node. -/
theorem node?_set_leaf (name : Text) (new : Tree) (hparent : fs.node? parent = some .directory)
    (hleaf : new.entries = []) (hold : fs.node? (parent ++ [name]) ≠ some .directory)
    (m : Location) :
    (fs.set (parent ++ [name]) new).node? m =
      if m = parent ++ [name] then some new.node else fs.node? m := by
  have hchange := entryChange_set name new hparent
  rw [FileSystem.node?, tree_set]
  by_cases hm : parent ++ [name] <+: m
  · obtain ⟨below, rfl⟩ := hm
    rw [hchange.below, Option.bind_some]
    cases below with
    | nil => simp [node?_nil]
    | cons first rest =>
        have hnone : fs.node? (parent ++ [name] ++ first :: rest) = none :=
          node?_below_eq_none hold (List.prefix_append _ _) (by simp)
        rw [hnone]
        simp [node?_cons, hleaf, child?]
  · rw [hchange.apart m hm, if_neg]
    · rfl
    · rintro rfl
      exact hm (List.prefix_refl _)

theorem node?_erase {name : Text} (hparent : fs.node? parent = some .directory) (m : Location) :
    (fs.erase (parent ++ [name])).node? m =
      if parent ++ [name] <+: m then none else fs.node? m := by
  have hchange := entryChange_erase name hparent
  rw [FileSystem.node?, tree_erase]
  by_cases hm : parent ++ [name] <+: m
  · rw [if_pos hm]
    obtain ⟨below, rfl⟩ := hm
    exact hchange.below below
  · rw [if_neg hm]
    exact hchange.apart m hm

/-- A directory has no entries if and only if nothing lies at any name in it. -/
theorem isEmpty_entries_iff {l : Location} {entries : List (Text × Tree)}
    (h : fs.tree.find? l = some (.directory entries)) :
    entries.isEmpty = true ↔ ∀ name, fs.node? (l ++ [name]) = none := by
  have hnode : ∀ name, fs.node? (l ++ [name]) = (child? name entries).map node := by
    intro name
    rw [FileSystem.node?, node?_append, h, Option.bind_some, node?_cons]
    cases hchild : child? name entries <;> simp [Tree.entries, hchild, node?_nil]
  rw [List.isEmpty_iff]
  constructor
  · rintro rfl name
    simp [hnode, child?]
  · intro hnone
    apply eq_nil_of_child?_eq_none
    intro name
    simpa [hnode] using hnone name

end FileSystem

end ShaderTools.Proofs.TreeUpdates
