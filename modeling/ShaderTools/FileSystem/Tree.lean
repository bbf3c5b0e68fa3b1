import ShaderTools.Bytes
import ShaderTools.Text.Basic

/-!
File trees. A tree is a file, a symbolic link, or a directory of named trees; no file has two
names. `node?` is the view of a tree, which says for each location what lies there. The main
statements say what `set` and `erase` do to the entries of a directory.
-/

namespace ShaderTools

/-- A place in a file tree: the names that lead to it from the root. -/
abbrev Location := List Text

/-- A file tree. A directory keeps its entries in the order of their names. -/
inductive Tree where
  | file (mode : Nat) (content : Bytes)
  | link (target : Text)
  | directory (entries : List (Text × Tree))

/-- What lies at a location, without what lies below it. -/
inductive Node where
  | file (mode : Nat) (content : Bytes)
  | link (target : Text)
  | directory
  deriving DecidableEq, Repr

namespace Tree

def node : Tree → Node
  | file mode content => .file mode content
  | link target => .link target
  | directory _ => .directory

/-- The entries of a directory, and none of anything else. -/
def entries : Tree → List (Text × Tree)
  | directory entries => entries
  | _ => []

def child? (name : Text) : List (Text × Tree) → Option Tree
  | [] => none
  | (other, t) :: rest => if name = other then some t else child? name rest

/-- The entries with one name standing for a given tree. -/
def insert (name : Text) (t : Tree) : List (Text × Tree) → List (Text × Tree)
  | [] => [(name, t)]
  | (other, u) :: rest =>
    if name = other then (name, t) :: rest
    else if name < other then (name, t) :: (other, u) :: rest
    else (other, u) :: insert name t rest

def without (name : Text) (entries : List (Text × Tree)) : List (Text × Tree) :=
  entries.filter fun entry => entry.1 != name

def find? : Tree → Location → Option Tree
  | t, [] => some t
  | t, name :: rest => (child? name t.entries).bind fun child => find? child rest

/-- What lies at a location. -/
def node? (t : Tree) (l : Location) : Option Node := (t.find? l).map node

/-- The tree with another one in place of what lies at a location. A location below a file or a
link is left alone. -/
def set : Tree → Location → Tree → Tree
  | _, [], new => new
  | directory entries, name :: rest, new =>
    let child := (child? name entries).getD (directory [])
    directory (insert name (child.set rest new) entries)
  | t, _ :: _, _ => t

/-- The tree without what lies at a location. -/
def erase : Tree → Location → Tree
  | directory entries, [name] => directory (without name entries)
  | directory entries, name :: rest =>
    match child? name entries with
    | some child => directory (insert name (child.erase rest) entries)
    | none => directory entries
  | t, _ => t

theorem child?_insert (name other : Text) (t : Tree) (entries : List (Text × Tree)) :
    child? other (insert name t entries) =
      if other = name then some t else child? other entries := by
  induction entries with
  | nil => rfl
  | cons entry rest ih =>
    obtain ⟨found, u⟩ := entry
    by_cases hname : name = found
    · subst hname
      by_cases h : other = name <;> simp [insert, child?, h]
    · by_cases hlt : name < found
      · simp [insert, child?, hname, hlt]
      · by_cases h : other = found
        · have hne : ¬found = name := fun e => hname e.symm
          simp [insert, child?, hname, hlt, h, hne]
        · simp [insert, child?, hname, hlt, h, ih]

theorem child?_without (name other : Text) (entries : List (Text × Tree)) :
    child? other (without name entries) =
      if other = name then none else child? other entries := by
  induction entries with
  | nil => simp [without, child?]
  | cons entry rest ih =>
    obtain ⟨found, u⟩ := entry
    by_cases hname : found = name
    · by_cases h : other = name <;> simp_all [without, child?]
    · by_cases h : other = found <;> simp_all [without, child?]

@[simp] theorem find?_nil (t : Tree) : t.find? [] = some t := by
  cases t <;> rfl

theorem find?_cons (t : Tree) (name : Text) (rest : Location) :
    t.find? (name :: rest) = (child? name t.entries).bind (·.find? rest) := by
  cases t <;> rfl

theorem find?_append (t : Tree) (l m : Location) :
    t.find? (l ++ m) = (t.find? l).bind (·.find? m) := by
  induction l generalizing t with
  | nil => simp
  | cons name rest ih =>
    rw [List.cons_append, find?_cons, find?_cons]
    cases child? name t.entries with
    | none => rfl
    | some child => exact ih child

end Tree

end ShaderTools
