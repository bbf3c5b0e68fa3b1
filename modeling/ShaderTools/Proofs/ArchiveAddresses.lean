import Mathlib.Data.List.DropRight
import ShaderTools.Platform
import ShaderTools.Proofs.TextPieces

/-!
The addresses of release archives. The name of an archive has no slash, so an address is cut at its
last slash into the base, less the slashes at its end, and that name: it tells the platform, and the
base but for those slashes.
-/

namespace ShaderTools.Proofs.ArchiveAddresses

open ShaderTools.Platform
open ShaderTools.Text
open ShaderTools.Proofs.TextPieces

def EndsInSlash (t : Text) : Prop := t.getLast? = some '/'

/-- A base with any number of slashes behind it. -/
def slashed (base : Text) (slashes : Nat) : Text := base ++ List.replicate slashes '/'

/-- Two texts that are one after all slashes are taken off their ends. -/
def SameButSlashes (a b : Text) : Prop :=
  ∃ base m n, ¬ EndsInSlash base ∧ a = slashed base m ∧ b = slashed base n

section LastSlash

variable {base base' name name' : Text}

/-- A text is cut at its last slash in one way only. -/
theorem eq_of_append_slash (hname : '/' ∉ name) (hname' : '/' ∉ name')
    (h : base ++ '/' :: name = base' ++ '/' :: name') : base = base' ∧ name = name' := by
  have hreverse : name.reverse ++ '/' :: base.reverse = name'.reverse ++ '/' :: base'.reverse := by
    simpa using congrArg List.reverse h
  have hcut := cut_append (mt List.mem_reverse.mp hname) base.reverse
  rw [hreverse, cut_append (mt List.mem_reverse.mp hname')] at hcut
  simpa [and_comm] using hcut.symm

theorem slashed_slashed (base : Text) (m n : Nat) :
    slashed (slashed base m) n = slashed base (m + n) := by
  rw [slashed, slashed, slashed, List.append_assoc, List.replicate_append_replicate]

theorem dropEndWhile_slashed (hbase : ¬ EndsInSlash base) (slashes : Nat) :
    dropEndWhile (· = '/') (slashed base slashes) = base := by
  induction slashes with
  | zero =>
      rw [slashed, List.replicate_zero, List.append_nil]
      change base.rdropWhile (· = '/') = base
      rw [List.rdropWhile_eq_self_iff]
      intro hne hlast
      apply hbase
      rw [EndsInSlash, List.getLast?_eq_some_getLast hne, of_decide_eq_true hlast]
  | succ slashes ih =>
      rw [← slashed_slashed base slashes 1]
      exact (dropEndWhile_concat _ _ '/').trans ih

/-- Every text is a base that does not end in a slash, and slashes behind it. -/
theorem exists_slashed (t : Text) :
    ∃ base slashes, ¬ EndsInSlash base ∧ t = slashed base slashes := by
  refine ⟨t.rdropWhile (· = '/'), (t.rtakeWhile (· = '/')).length, ?_, ?_⟩
  · intro hlast
    obtain ⟨hne, hslash⟩ := List.mem_getLast?_eq_getLast hlast
    exact List.rdropWhile_last_not _ _ hne (decide_eq_true hslash.symm)
  · have hslashes : t.rtakeWhile (· = '/') =
        List.replicate (t.rtakeWhile (· = '/')).length '/' := by
      rw [List.eq_replicate_length]
      intro c hc
      simpa using List.mem_rtakeWhile_imp hc
    rw [slashed, ← hslashes, List.rdropWhile_append_rtakeWhile]

end LastSlash

section Addresses

variable {p q : Platform}

theorem slash_notMem_archiveName (p : Platform) : '/' ∉ p.archiveName := by
  cases p <;> decide

theorem eq_of_archiveName (h : p.archiveName = q.archiveName) : p = q := by
  revert h
  cases p <;> cases q <;> decide

theorem archiveUrl_slashed {base : Text} (hbase : ¬ EndsInSlash base) (p : Platform)
    (slashes : Nat) : p.archiveUrl (slashed base slashes) = base ++ '/' :: p.archiveName := by
  rw [archiveUrl, dropEndWhile_slashed hbase]

theorem archiveUrl_eq_iff (p q : Platform) (a b : Text) :
    p.archiveUrl a = q.archiveUrl b ↔ p = q ∧ SameButSlashes a b := by
  constructor
  · obtain ⟨base, m, hbase, rfl⟩ := exists_slashed a
    obtain ⟨base', n, hbase', rfl⟩ := exists_slashed b
    rw [archiveUrl_slashed hbase, archiveUrl_slashed hbase']
    intro h
    obtain ⟨rfl, hname⟩ :=
      eq_of_append_slash (slash_notMem_archiveName p) (slash_notMem_archiveName q) h
    exact ⟨eq_of_archiveName hname, base, m, n, hbase, rfl, rfl⟩
  · rintro ⟨rfl, base, m, n, hbase, rfl, rfl⟩
    rw [archiveUrl_slashed hbase, archiveUrl_slashed hbase]

/-- Two addresses are the same only for the same platform, and for bases that differ in nothing but
slashes at their end; what stands behind the last slash of an address is the name of the archive,
and what stands before it does not end in a slash. -/
theorem archiveUrl_canonical (p q : Platform) (a b : Text) :
    (p.archiveUrl a = q.archiveUrl b ↔ p = q ∧ SameButSlashes a b) ∧
    (∀ front back, p.archiveUrl a = front ++ '/' :: back → '/' ∉ back →
      back = p.archiveName ∧ ¬ EndsInSlash front) ∧
    (∃ front, p.archiveUrl a = front ++ '/' :: p.archiveName ∧ '/' ∉ p.archiveName) ∧
    ∀ slashes, p.archiveUrl (slashed a slashes) = p.archiveUrl a := by
  obtain ⟨base, m, hbase, rfl⟩ := exists_slashed a
  have hname := slash_notMem_archiveName p
  refine ⟨archiveUrl_eq_iff p q _ b, ?_, ⟨base, archiveUrl_slashed hbase p m, hname⟩, ?_⟩
  · intro front back hcut hback
    rw [archiveUrl_slashed hbase] at hcut
    obtain ⟨rfl, rfl⟩ := eq_of_append_slash hname hback hcut
    exact ⟨rfl, hbase⟩
  · intro slashes
    rw [slashed_slashed, archiveUrl_slashed hbase, archiveUrl_slashed hbase]

example : linux.archiveUrl "///".toList = "/glslang-master-linux-Release.zip".toList := by decide

end Addresses

end ShaderTools.Proofs.ArchiveAddresses
