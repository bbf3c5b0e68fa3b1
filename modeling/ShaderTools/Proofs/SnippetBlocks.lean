import ShaderTools.Proofs.SnippetOutputs
import ShaderTools.Proofs.UniformRecords

/-!
What the blocks of uniforms tell. A block is four lines; its second one tells the name, and its
third one the type and the detail, which the first space keeps apart. So uniforms that come from
listings are told apart by their blocks, although nothing in a block is escaped.
-/

namespace ShaderTools.Proofs.SnippetBlocks

open ShaderTools.Text
open ShaderTools.Uniform
open ShaderTools.Listing
open ShaderTools.Proofs.TextPieces
open ShaderTools.Proofs.ListingResults
open ShaderTools.Proofs.SnippetOutputs
open ShaderTools.Proofs.UniformRecords

section Details

variable {u v : Uniform}

/-- The first space of what is shown ends the type. -/
theorem cut_shownDetail (h : IsRecord u) :
    cut ' ' u.shownDetail =
      ('<' :: (u.kind ++ ['>']), if u.detail.isEmpty then none else some u.detail) := by
  have hspace : ' ' ∉ '<' :: (u.kind ++ ['>']) := by
    intro hmem
    have hkind : ' ' ∈ u.kind := by simpa using hmem
    exact absurd (h.kind _ hkind) (by decide)
  rw [shownDetail]
  split
  · exact cut_of_notMem hspace
  · exact cut_append hspace u.detail

theorem eq_of_shownDetail (hu : IsRecord u) (hv : IsRecord v)
    (h : u.shownDetail = v.shownDetail) : u.kind = v.kind ∧ u.detail = v.detail := by
  have hcut := cut_shownDetail hu
  rw [h, cut_shownDetail hv, Prod.mk.injEq, List.cons.injEq, List.append_cancel_right_eq] at hcut
  obtain ⟨⟨-, hkind⟩, hdetail⟩ := hcut
  refine ⟨hkind.symm, ?_⟩
  cases hdu : u.detail <;> cases hdv : v.detail <;> simp_all

/-- The label and the shown detail of a uniform determine it. -/
theorem eq_of_label_of_shownDetail (hu : IsRecord u) (hv : IsRecord v) (hlabel : u.label = v.label)
    (hshown : u.shownDetail = v.shownDetail) : u = v := by
  obtain ⟨hkind, hdetail⟩ := eq_of_shownDetail hu hv hshown
  obtain ⟨label, kind, detail⟩ := u
  simp_all

theorem isPlain_shownDetail (h : IsRecord u) : ∀ c ∈ u.shownDetail, isPlain c = true := by
  have hkind : ∀ c ∈ '<' :: (u.kind ++ ['>']), isPlain c = true := by
    rw [List.forall_mem_cons, List.forall_mem_append]
    exact ⟨by decide, h.isPlain_kind, List.all_eq_true.mp (by decide)⟩
  rw [shownDetail]
  split
  · exact hkind
  · rw [List.forall_mem_append]
    exact ⟨hkind, List.forall_mem_cons.mpr ⟨by decide, h.isPlain_detail⟩⟩

end Details

section Blocks

/-- The lines of a block. -/
def blockLines (u : Uniform) : List Text :=
  ["\x7b".toList, "\tlabel: '".toList ++ u.label ++ "',".toList,
    "\tdetail: '".toList ++ u.shownDetail ++ "'".toList, "\x7d,".toList]

variable {u v : Uniform} {us vs : List Uniform}

theorem block_eq (u : Uniform) :
    u.block ++ ['\n'] = (blockLines u).flatMap fun line => line ++ ['\n'] := by
  have hopen : "\x7b\n\tlabel: '".toList = "\x7b".toList ++ ['\n'] ++ "\tlabel: '".toList := by
    decide
  have hmiddle : "',\n\tdetail: '".toList = "',".toList ++ ['\n'] ++ "\tdetail: '".toList := by
    decide
  have hclose : "'\n\x7d,".toList = "'".toList ++ ['\n'] ++ "\x7d,".toList := by
    decide
  unfold block blockLines
  simp only [hopen, hmiddle, hclose, List.flatMap_cons, List.flatMap_nil, List.append_assoc,
    List.append_nil]

theorem blocks_eq (us : List Uniform) :
    blocks us = (us.flatMap blockLines).flatMap fun line => line ++ ['\n'] := by
  simp only [blocks, block_eq, List.flatMap_assoc]

/-- A text between marks is a line if it has no line feed. -/
theorem line_between {front t back : Text} (ht : '\n' ∉ t) (hfront : '\n' ∉ front)
    (hback : back ≠ [] ∧ '\n' ∉ back ∧ '\r' ∉ back) :
    '\n' ∉ front ++ t ++ back ∧ (front ++ t ++ back).getLast? ≠ some '\r' := by
  obtain ⟨hne, hfeed, hreturn⟩ := hback
  constructor
  · simp [ht, hfront, hfeed]
  · rw [List.getLast?_append_of_ne_nil _ hne]
    exact fun hlast => hreturn (List.mem_of_getLast? hlast)

theorem line_of_mem_blockLines (h : IsRecord u) :
    ∀ line ∈ blockLines u, '\n' ∉ line ∧ line.getLast? ≠ some '\r' := by
  have hlabel := (line_of_isPlain h.isPlain_label).1
  have hshown := (line_of_isPlain (isPlain_shownDetail h)).1
  simp only [blockLines, List.forall_mem_cons]
  exact ⟨by decide, line_between hlabel (by decide) (by decide),
    line_between hshown (by decide) (by decide), by decide, by simp⟩

theorem lines_blocks (h : ∀ u ∈ us, IsRecord u) : (blocks us).lines = us.flatMap blockLines := by
  rw [lines_eq_linePieces, blocks_eq]
  apply linePieces_flatMap
  intro line hline
  obtain ⟨u, hu, hline⟩ := List.mem_flatMap.mp hline
  exact line_of_mem_blockLines (h u hu) line hline

theorem length_lines_blocks (h : ∀ u ∈ us, IsRecord u) :
    (blocks us).lines.length = 4 * us.length := by
  rw [lines_blocks h, List.length_flatMap]
  simp [blockLines, Nat.mul_comm]

theorem eq_of_blockLines (hu : IsRecord u) (hv : IsRecord v) (h : blockLines u = blockLines v) :
    u = v := by
  simp only [blockLines, List.cons.injEq, List.append_cancel_right_eq, List.append_cancel_left_eq,
    true_and, and_true] at h
  exact eq_of_label_of_shownDetail hu hv h.1 h.2

/-- Uniforms with the same blocks in the same order are the same. -/
theorem eq_of_blocks (hus : ∀ u ∈ us, IsRecord u) (hvs : ∀ v ∈ vs, IsRecord v)
    (h : blocks us = blocks vs) : us = vs := by
  have hlines : us.flatMap blockLines = vs.flatMap blockLines := by
    rw [← lines_blocks hus, ← lines_blocks hvs, h]
  clear h
  induction us generalizing vs with
  | nil =>
      cases vs with
      | nil => rfl
      | cons v vs => simp [blockLines] at hlines
  | cons u us ih =>
      cases vs with
      | nil => simp [blockLines] at hlines
      | cons v vs =>
          obtain ⟨hfirst, hrest⟩ := List.append_inj hlines rfl
          rw [eq_of_blockLines (hus u (by simp)) (hvs v (by simp)) hfirst,
            ih (fun w hw => hus w (by simp [hw])) (fun w hw => hvs w (by simp [hw])) hrest]

end Blocks

section Runs

variable {i j : Invocation} {p q : Path} {t t' : Text} {files files' : FileSystem}

theorem output_of_allWhole [Archive.Decoders]
    (hread : CommandLine.read i.releaseUrl? i.arguments = .ok (.snippets ⟨p, false⟩))
    (hfile : files.readText p = .ok t) (hall : AllWhole (linePieces t)) (server : Http.Server)
    (input : Bytes) : (i.run server input files).output = blocks (records t) := by
  rw [run_snippets hread, hfile]
  simp only [Bool.false_eq_true, if_false]
  rw [run_blocks _ _ _ (given_of_allWhole hall)]

/-- Of listings without a malformed line the same blocks are printed if and only if they give the
same uniforms, with four lines for each of them; and two lines that give uniforms with the same
block, or with the same snippet, give the same uniform. -/
theorem output_eq_iff [Archive.Decoders]
    (hread : CommandLine.read i.releaseUrl? i.arguments = .ok (.snippets ⟨p, false⟩))
    (hread' : CommandLine.read j.releaseUrl? j.arguments = .ok (.snippets ⟨q, false⟩))
    (hfile : files.readText p = .ok t) (hfile' : files'.readText q = .ok t')
    (hall : AllWhole (linePieces t)) (hall' : AllWhole (linePieces t'))
    (server server' : Http.Server) (input input' : Bytes) :
    (∃ us us' : List Uniform, itemsOfText t = us.map .ok ∧ itemsOfText t' = us'.map .ok ∧
      (i.run server input files).output = us.flatMap (fun u => u.block ++ ['\n']) ∧
      ((i.run server input files).output = (j.run server' input' files').output ↔ us = us') ∧
      (i.run server input files).output.lines.length = 4 * us.length) ∧
      ∀ line line' u u', ofLine? line = some u → ofLine? line' = some u' →
        u.block = u'.block ∨ u.snippet = u'.snippet → u = u' := by
  constructor
  · have hrecords : ∀ u ∈ records t, IsRecord u := fun u => isRecord_of_mem_records
    have hrecords' : ∀ u ∈ records t', IsRecord u := fun u => isRecord_of_mem_records
    rw [output_of_allWhole hread hfile hall, output_of_allWhole hread' hfile' hall']
    refine ⟨records t, records t', (itemsOfText_eq t).trans (given_of_allWhole hall),
      (itemsOfText_eq t').trans (given_of_allWhole hall'), rfl, ⟨?_, ?_⟩,
      length_lines_blocks hrecords⟩
    · exact eq_of_blocks hrecords hrecords'
    · exact congrArg blocks
  · intro line line' u u' hline hline' hsame
    have hu := isRecord_of_ofLine? hline
    have hu' := isRecord_of_ofLine? hline'
    rcases hsame with hblock | hsnippet
    · have hblocks : blocks [u] = blocks [u'] := by
        simp only [blocks, List.flatMap_singleton, hblock]
      simpa using eq_of_blocks (by simpa using hu) (by simpa using hu') hblocks
    · simp only [snippet, Json.object.injEq, List.cons.injEq, Prod.mk.injEq, Json.string.injEq,
        true_and, and_true] at hsnippet
      exact eq_of_label_of_shownDetail hu hu' hsnippet.1 hsnippet.2

section Samples

attribute [local instance] Archive.Decoders.absent

/-- A listing of two uniforms. -/
def tidyListing : Text := "uniform <vec2> a; in 'px'\nuniform <int> b;\n".toList

/-- The same uniforms, written in another way and among other lines. -/
def untidyListing : Text := "uniform vec2 a  in\t'px'\r\n//\nuniform int a\nuniform <int b".toList

/-- The program as it prints the blocks of the listing that is read unless another one is given. -/
def printing : Invocation := ⟨["snippets".toList], [], false⟩

/-- Files among which that listing is. -/
def holding (t : Text) : FileSystem := ⟨[(defaultPath, .file 0o644 (Utf8.encode t))], []⟩

theorem output_eq_iff_untidy :
    (printing.run (fun _ => .error .refused) [] (holding tidyListing)).output =
        (printing.run (fun _ => .error .refused) [] (holding untidyListing)).output ∧
      (printing.run (fun _ => .error .refused) [] (holding tidyListing)).output.lines.length = 8 := by
  have hread : CommandLine.read printing.releaseUrl? printing.arguments =
      .ok (.snippets ⟨defaultPath, false⟩) := by
    decide
  have htidy : (holding tidyListing).readText defaultPath = .ok tidyListing := by
    decide +kernel
  have huntidy : (holding untidyListing).readText defaultPath = .ok untidyListing := by
    decide +kernel
  have hall : AllWhole (linePieces tidyListing) ∧ AllWhole (linePieces untidyListing) := by
    unfold AllWhole
    decide +kernel
  have hsame : itemsOfText tidyListing = itemsOfText untidyListing := by
    decide +kernel
  have hlength : (itemsOfText tidyListing).length = 2 := by
    decide +kernel
  obtain ⟨⟨us, us', hus, hus', -, hiff, hlines⟩, -⟩ := output_eq_iff hread hread htidy huntidy
    hall.1 hall.2 (fun _ => .error .refused) (fun _ => .error .refused) [] []
  have hmap : us.map (Except.ok : Uniform → Item) = us'.map .ok := by rw [← hus, ← hus', hsame]
  refine ⟨hiff.mpr (List.map_injective_iff.mpr (fun _ _ => Except.ok.inj) hmap), ?_⟩
  rw [hus, List.length_map] at hlength
  rw [hlines, hlength]

end Samples

end Runs

end ShaderTools.Proofs.SnippetBlocks
