import ShaderTools.Proofs.JsonSpellings
import ShaderTools.Proofs.ListingResults
import ShaderTools.Proofs.ScriptQuestions

/-!
What the snippets command writes. The one form prints each uniform as it is read, the other one
reads to the end before it prints an array. Both tell of the same failures, and an array is printed
exactly where all blocks are.
-/

namespace ShaderTools.Proofs.SnippetOutputs

open ShaderTools.FileSystem
open ShaderTools.Listing
open ShaderTools.Proofs.TextPieces
open ShaderTools.Proofs.JsonReading
open ShaderTools.Proofs.JsonSpellings
open ShaderTools.Proofs.ListingResults
open ShaderTools.Proofs.ScriptQuestions

section Items

theorem length_itemsFrom_le (seen : List Text) (passed : Nat) (ls : List Text) :
    (itemsFrom seen passed ls).length ≤ ls.length := by
  fun_induction itemsFrom seen passed ls with
  | case1 => simp
  | case2 => simp
  | case3 seen passed line rest hdeclared u hrecord hseen ih =>
      rw [List.length_cons]
      omega
  | case4 seen passed line rest hdeclared u hrecord hfresh ih =>
      rw [List.length_cons, List.length_cons]
      omega
  | case5 seen passed line rest hdeclared ih =>
      rw [List.length_cons]
      omega

theorem filterMap_range_getElem? {α : Type} {items : List α} {n : Nat} (h : items.length ≤ n) :
    ((List.range n).map fun i => items[i]?).filterMap id = items := by
  induction items generalizing n with
  | nil => simp
  | cons item rest ih =>
      obtain ⟨m, rfl⟩ : ∃ m, n = m + 1 := ⟨n - 1, by simp at h; omega⟩
      have hrest := ih (n := m) (by simpa using h)
      rw [List.range_succ_eq_map, List.map_cons, List.map_map]
      simpa using hrest

theorem itemsOfText_eq (t : Text) : itemsOfText t = given t := by
  have hlength : (given t).length ≤ (ofText t).lines.length := by
    rw [← remaining_ofText]
    exact length_itemsFrom_le [] 0 t.lines
  rw [itemsOfText, items, results_eq, remaining_ofText]
  exact filterMap_range_getElem? hlength

theorem itemsOfText_eq_itemsFrom (t : Text) : itemsOfText t = itemsFrom [] 0 t.lines := by
  rw [itemsOfText_eq, ← remaining_ofText]
  rfl

theorem readingsFrom_cons (seen : List Text) (passed : Nat) (line : Text) (rest : List Text) :
    readingsFrom seen passed (line :: rest) =
      if Uniform.isDeclaredBy line then
        match Uniform.ofLine? line with
        | none => [.item (.error (.malformed (passed + 1) line))]
        | some u =>
            if u.label ∈ seen then
              .skipped (passed + 1) u.label :: readingsFrom seen (passed + 1) rest
            else .item (.ok u) :: readingsFrom (u.label :: seen) (passed + 1) rest
      else readingsFrom seen (passed + 1) rest := rfl

theorem itemsOf_readingsFrom (seen : List Text) (passed : Nat) (ls : List Text) :
    itemsOf (readingsFrom seen passed ls) = itemsFrom seen passed ls := by
  induction ls generalizing seen passed with
  | nil => rfl
  | cons line rest ih =>
      rw [readingsFrom_cons]
      split
      next hdeclared =>
        split
        next hrecord =>
          rw [itemsFrom_of_malformed hdeclared hrecord]
          rfl
        next u hrecord =>
          split
          next hseen =>
            rw [itemsFrom_of_seen hdeclared hrecord hseen, ← ih]
            rfl
          next hfresh =>
            rw [itemsFrom_of_fresh hdeclared hrecord hfresh, ← ih]
            rfl
      next hdeclared => rw [itemsFrom_of_not_declared (by simpa using hdeclared), ih]

/-- Read to the end, a text has the items that it gives one at a time. -/
theorem itemsOf_readingsOfText (t : Text) : itemsOf (readingsOfText t) = given t := by
  rw [readingsOfText, itemsOf_readingsFrom, ← itemsOfText_eq_itemsFrom, itemsOfText_eq]

/-- Whether every candidate of some lines has the three fields of a declaration. -/
def AllWhole (ls : List Text) : Prop := ∀ line ∈ ls, isCandidate line = true → isWhole line = true

theorem stop?_of_allWhole {ls : List Text} (h : AllWhole ls) (passed : Nat) :
    stop? (candidatesFrom passed ls) = none := by
  rw [stop?, List.find?_eq_none]
  rintro ⟨line, number⟩ hmem
  obtain ⟨hnumbered, hcandidate⟩ := List.mem_filter.mp hmem
  simp [h line (List.fst_mem_of_mem_zipIdx hnumbered) hcandidate]

theorem stop?_append_of_allWhole {before : List Text} (h : AllWhole before) {line : Text}
    (hcandidate : isCandidate line = true) (hwhole : isWhole line = false) (passed : Nat)
    (after : List Text) :
    stop? (candidatesFrom passed (before ++ line :: after)) =
      some (line, passed + before.length + 1) := by
  induction before generalizing passed with
  | nil => rw [List.nil_append, candidatesFrom_cons_of_candidate hcandidate,
      stop?_of_malformed hwhole, List.length_nil, Nat.add_zero]
  | cons first rest ih =>
      have hrest := ih (fun other hother => h other (List.mem_cons_of_mem _ hother)) (passed + 1)
      have hlength : passed + 1 + rest.length + 1 = passed + (first :: rest).length + 1 := by
        rw [List.length_cons]
        omega
      rw [List.cons_append, ← hlength, ← hrest]
      cases hfirst : isCandidate first with
      | false => rw [candidatesFrom_cons_of_not_candidate hfirst]
      | true =>
          rw [candidatesFrom_cons_of_candidate hfirst,
            stop?_of_whole (h first List.mem_cons_self hfirst)]

/-- Lines of which not every candidate is whole have a first one that is not. -/
theorem exists_first_of_not_allWhole {ls : List Text} (h : ¬AllWhole ls) :
    ∃ before line after, ls = before ++ line :: after ∧ AllWhole before ∧
      isCandidate line = true ∧ isWhole line = false := by
  cases hfind : ls.find? fun line => isCandidate line && !isWhole line with
  | none =>
      rw [List.find?_eq_none] at hfind
      exact absurd (fun line hmem hcandidate => by simpa [hcandidate] using hfind line hmem) h
  | some line =>
      obtain ⟨hline, before, after, hls, hbefore⟩ := List.find?_eq_some_iff_append.mp hfind
      refine ⟨before, line, after, hls, fun other hmem hcandidate => ?_, by simpa using hline⟩
      simpa [hcandidate] using hbefore other hmem

theorem given_of_allWhole {t : Text} (h : AllWhole (linePieces t)) :
    given t = (records t).map .ok := by
  rw [given, stop?_of_allWhole h]
  exact List.append_nil _

theorem given_of_malformed {t : Text} {before after : List Text} {line : Text}
    (ht : linePieces t = before ++ line :: after) (hbefore : AllWhole before)
    (hcandidate : isCandidate line = true) (hwhole : isWhole line = false) :
    given t = (records t).map .ok ++ [.error (.malformed (before.length + 1) line)] := by
  rw [given, ht, stop?_append_of_allWhole hbefore hcandidate hwhole, Nat.zero_add]
  rfl

end Items

section Printing

/-- The blocks of uniforms, each on lines of its own. -/
def blocks (us : List Uniform) : Text := us.flatMap fun u => u.block ++ ['\n']

/-- The labels and the shown details of uniforms, as an array of objects. -/
def labelsAndDetails (us : List Uniform) : Json :=
  .array (us.map fun u =>
    .object [("label".toList, .string u.label), ("detail".toList, .string u.shownDetail)])

def reportOf (e : Listing.Error) : Text := Terminal.report e.message e.causes

/-- What the printing of blocks comes to: the exit code, and the world after it. -/
def printed (us : List Uniform) (e? : Option Listing.Error) (w : World) : Nat × World :=
  match e? with
  | none => (0, w.write .output (blocks us))
  | some e => (1, (w.write .output (blocks us)).write .errors (reportOf e))

/-- What is printed of readings is decided by the uniforms among them, and the error behind
these. -/
theorem run_printBlocks {rs : List Reading} {us : List Uniform} {e? : Option Listing.Error}
    (h : itemsOf rs = us.map .ok ++ e?.toList.map .error) (w : World) :
    (Program.printBlocks rs).run w = printed us e? w := by
  have hnothing : ∀ w : World, w.write .output (blocks []) = w := by simp [World.write, blocks]
  induction rs generalizing us w with
  | nil =>
      obtain ⟨hus, he⟩ := List.append_eq_nil_iff.mp h.symm
      obtain rfl : us = [] := by simpa using hus
      obtain rfl : e? = none := by simpa using he
      rw [printed, hnothing]
      rfl
  | cons reading rest ih =>
      cases reading with
      | skipped line label => exact ih h w
      | item item =>
          have hitems : item :: itemsOf rest = us.map .ok ++ e?.toList.map .error := h
          cases us with
          | nil =>
              cases e? with
              | none => simp at hitems
              | some e =>
                  obtain ⟨rfl, -⟩ : item = .error e ∧ _ := by simpa using hitems
                  rw [printed, hnothing]
                  rfl
          | cons u us =>
              obtain ⟨rfl, hrest⟩ : item = .ok u ∧
                  itemsOf rest = us.map .ok ++ e?.toList.map .error := by simpa using hitems
              have hwrite : (w.write .output (u.block ++ ['\n'])).write .output (blocks us) =
                  w.write .output (blocks (u :: us)) := by
                simp [World.write, blocks]
              have hprinted : printed (u :: us) e? w =
                  printed us e? (w.write .output (u.block ++ ['\n'])) := by
                cases e? <;> simp only [printed, hwrite]
              rw [hprinted, ← ih hrest]
              rfl

theorem run_logSkipped (rs : List Reading) (w : World) :
    (Program.logSkipped rs).run w = ((), w) := by
  induction rs with
  | nil => rfl
  | cons reading rest ih =>
      cases reading with
      | skipped line label => exact ih
      | item item => exact ih

theorem mapM_ok (us : List Uniform) : (us.map Except.ok : List Item).mapM id = .ok us := by
  induction us with
  | nil => rfl
  | cons u us ih =>
      rw [List.map_cons, List.mapM_cons, ih]
      rfl

theorem mapM_error (us : List Uniform) (e : Listing.Error) (rest : List Item) :
    (us.map .ok ++ .error e :: rest : List Item).mapM id = .error e := by
  rw [List.mapM_append, mapM_ok, List.mapM_cons]
  rfl

theorem textual_labelsAndDetails (us : List Uniform) : Textual (labelsAndDetails us) := by
  refine .array fun item hitem => ?_
  obtain ⟨u, -, rfl⟩ := List.mem_map.mp hitem
  refine .object fun member hmember => ?_
  rcases List.mem_pair.mp hmember with rfl | rfl
  · exact .string _
  · exact .string _

/-- The array that is printed of uniforms is one of their labels and their details. -/
theorem decode?_snippets (us : List Uniform) :
    ∃ written, snippetsText us = written ++ ['\n'] ∧
      decode? written = some (labelsAndDetails us) :=
  ⟨(labelsAndDetails us).pretty 0, rfl, decode?_pretty (textual_labelsAndDetails us) 0⟩

end Printing

section Runs

variable {i plain json : Invocation} {p : Path} {files : FileSystem} {t : Text}
  {us : List Uniform} {asArray : Bool}

theorem run_snippets [Archive.Decoders]
    (hread : CommandLine.read i.releaseUrl? i.arguments = .ok (.snippets ⟨p, asArray⟩))
    (server : Http.Server) (input : Bytes) (files : FileSystem) :
    i.run server input files =
      match files.readText p with
      | .error failure => ⟨1, [], reportOf (.unreadable p failure), [], files⟩
      | .ok t =>
        runOf ((if asArray then Program.printArray (given t)
          else Program.printBlocks (readingsOfText t)).run ⟨server, files, input, [], [], []⟩) := by
  rw [run_of_read hread]
  simp only [Program.perform, Program.snippets, Script.run, textOfRead, readText]
  cases (files.read p).bind textOfBytes with
  | error failure => rfl
  | ok t =>
      cases asArray with
      | false => rfl
      | true =>
          simp only [Except.mapError, if_true, Script.run_bind, run_logSkipped,
            itemsOf_readingsOfText]

theorem run_blocks (server : Http.Server) (input : Bytes) (files : FileSystem)
    (hgiven : given t = us.map .ok) :
    runOf ((Program.printBlocks (readingsOfText t)).run ⟨server, files, input, [], [], []⟩) =
      ⟨0, blocks us, [], [], files⟩ := by
  have hitems : itemsOf (readingsOfText t) = us.map .ok ++ (none : Option Listing.Error).toList.map
      .error := by
    rw [itemsOf_readingsOfText, hgiven]
    exact (List.append_nil _).symm
  rw [run_printBlocks hitems]
  rfl

theorem run_blocks_error (server : Http.Server) (input : Bytes) (files : FileSystem)
    {e : Listing.Error} (hgiven : given t = us.map .ok ++ [.error e]) :
    runOf ((Program.printBlocks (readingsOfText t)).run ⟨server, files, input, [], [], []⟩) =
      ⟨1, blocks us, reportOf e, [], files⟩ := by
  have hitems : itemsOf (readingsOfText t) = us.map .ok ++ (some e).toList.map .error := by
    rw [itemsOf_readingsOfText, hgiven]
    rfl
  rw [run_printBlocks hitems]
  rfl

theorem run_printArray (us : List Uniform) (w : World) :
    (Program.printArray (us.map .ok)).run w = (0, w.write .output (snippetsText us)) := by
  rw [Program.printArray, mapM_ok]
  rfl

theorem run_array (server : Http.Server) (input : Bytes) (files : FileSystem)
    (us : List Uniform) :
    runOf ((Program.printArray (us.map .ok)).run ⟨server, files, input, [], [], []⟩) =
      ⟨0, snippetsText us, [], [], files⟩ := by
  rw [run_printArray]
  rfl

theorem run_array_error (server : Http.Server) (input : Bytes) (files : FileSystem)
    (us : List Uniform) (e : Listing.Error) :
    runOf ((Program.printArray (us.map .ok ++ [.error e])).run
      ⟨server, files, input, [], [], []⟩) = ⟨1, [], reportOf e, [], files⟩ := by
  rw [Program.printArray, mapM_error]
  rfl

/-- How a run that prints blocks and one that prints an array belong together. -/
structure Agree (files : FileSystem) (p : Path) (plain json : Run) : Prop where
  exit : json.exit = plain.exit
  errors : json.errors = plain.errors
  unchanged : plain.files = files ∧ json.files = files
  succeeds : plain.exit = 0 ↔ ∃ t, files.readText p = .ok t ∧ AllWhole (linePieces t)
  whole : ∀ t, files.readText p = .ok t → AllWhole (linePieces t) →
    itemsOfText t = (records t).map .ok ∧ plain.exit = 0 ∧ plain.errors = [] ∧
      plain.output = blocks (records t) ∧
      ∃ written, json.output = written ++ ['\n'] ∧
        decode? written = some (labelsAndDetails (records t))
  malformed : ∀ t before line after, files.readText p = .ok t →
    linePieces t = before ++ line :: after → AllWhole before → isCandidate line = true →
    isWhole line = false →
    itemsOfText t = (records t).map .ok ++ [.error (.malformed (before.length + 1) line)] ∧
      plain.exit = 1 ∧ plain.errors = reportOf (.malformed (before.length + 1) line) ∧
      plain.output = blocks (records t) ∧ json.output = []
  unreadable : ∀ failure, files.readText p = .error failure →
    plain.exit = 1 ∧ plain.errors = reportOf (.unreadable p failure) ∧ plain.output = [] ∧
      json.output = []

theorem agree_of_unreadable {failure : Failure} (hfile : files.readText p = .error failure) :
    Agree files p ⟨1, [], reportOf (.unreadable p failure), [], files⟩
      ⟨1, [], reportOf (.unreadable p failure), [], files⟩ where
  exit := rfl
  errors := rfl
  unchanged := ⟨rfl, rfl⟩
  succeeds := by simp [hfile]
  whole t ht := by simp [hfile] at ht
  malformed t before line after ht := by simp [hfile] at ht
  unreadable other hother := by
    obtain rfl : failure = other := by simpa [hfile] using hother
    exact ⟨rfl, rfl, rfl, rfl⟩

theorem not_allWhole_of_malformed {ls before after : List Text} {line : Text}
    (hls : ls = before ++ line :: after) (hcandidate : isCandidate line = true)
    (hwhole : isWhole line = false) : ¬AllWhole ls := by
  intro hall
  have hline := hall line (by simp [hls]) hcandidate
  simp [hwhole] at hline

theorem agree_of_allWhole (hfile : files.readText p = .ok t) (hall : AllWhole (linePieces t)) :
    Agree files p ⟨0, blocks (records t), [], [], files⟩
      ⟨0, snippetsText (records t), [], [], files⟩ where
  exit := rfl
  errors := rfl
  unchanged := ⟨rfl, rfl⟩
  succeeds := ⟨fun _ => ⟨t, hfile, hall⟩, fun _ => rfl⟩
  whole t' ht' hall' := by
    obtain rfl : t = t' := by simpa [hfile] using ht'
    have hitems : itemsOfText t = (records t).map .ok :=
      (itemsOfText_eq t).trans (given_of_allWhole hall)
    exact ⟨hitems, rfl, rfl, rfl, decode?_snippets (records t)⟩
  malformed t' before line after ht' hlines hbefore hcandidate hwhole := by
    obtain rfl : t = t' := by simpa [hfile] using ht'
    exact absurd hall (not_allWhole_of_malformed hlines hcandidate hwhole)
  unreadable failure hfailure := by simp [hfile] at hfailure

theorem agree_of_malformed {before after : List Text} {line : Text}
    (hfile : files.readText p = .ok t) (hlines : linePieces t = before ++ line :: after)
    (hbefore : AllWhole before) (hcandidate : isCandidate line = true)
    (hwhole : isWhole line = false) :
    Agree files p
      ⟨1, blocks (records t), reportOf (.malformed (before.length + 1) line), [], files⟩
      ⟨1, [], reportOf (.malformed (before.length + 1) line), [], files⟩ where
  exit := rfl
  errors := rfl
  unchanged := ⟨rfl, rfl⟩
  succeeds := by
    constructor
    · intro hexit
      simp at hexit
    · rintro ⟨t', ht', hall⟩
      obtain rfl : t = t' := by simpa [hfile] using ht'
      exact absurd hall (not_allWhole_of_malformed hlines hcandidate hwhole)
  whole t' ht' hall := by
    obtain rfl : t = t' := by simpa [hfile] using ht'
    exact absurd hall (not_allWhole_of_malformed hlines hcandidate hwhole)
  malformed t' before' line' after' ht' hlines' hbefore' hcandidate' hwhole' := by
    obtain rfl : t = t' := by simpa [hfile] using ht'
    have hgiven := given_of_malformed hlines hbefore hcandidate hwhole
    have hgiven' := given_of_malformed hlines' hbefore' hcandidate' hwhole'
    -- both lines are the one that the text's last item tells of
    have hsame := List.append_cancel_left (hgiven.symm.trans hgiven')
    simp only [List.cons.injEq, Except.error.injEq, and_true] at hsame
    rw [← hsame]
    exact ⟨(itemsOfText_eq t).trans hgiven, rfl, rfl, rfl, rfl⟩
  unreadable failure hfailure := by simp [hfile] at hfailure

/-- The blocks and the array are printed of the same uniforms, with the same failures; only of a
listing that ends with a failure is there no array. -/
theorem outputs_agree [Archive.Decoders]
    (hplain : CommandLine.read plain.releaseUrl? plain.arguments = .ok (.snippets ⟨p, false⟩))
    (hjson : CommandLine.read json.releaseUrl? json.arguments = .ok (.snippets ⟨p, true⟩))
    (server server' : Http.Server) (input input' : Bytes) (files : FileSystem) :
    Agree files p (plain.run server input files) (json.run server' input' files) := by
  rw [run_snippets hplain, run_snippets hjson]
  cases hfile : files.readText p with
  | error failure => exact agree_of_unreadable hfile
  | ok t =>
      simp only [Bool.false_eq_true, if_false, if_true]
      rcases Classical.em (AllWhole (linePieces t)) with hall | hnot
      · have hgiven := given_of_allWhole hall
        rw [run_blocks _ _ _ hgiven, hgiven, run_array]
        exact agree_of_allWhole hfile hall
      · obtain ⟨before, line, after, hlines, hbefore, hcandidate, hwhole⟩ :=
          exists_first_of_not_allWhole hnot
        have hgiven := given_of_malformed hlines hbefore hcandidate hwhole
        rw [run_blocks_error _ _ _ hgiven, hgiven, run_array_error]
        exact agree_of_malformed hfile hlines hbefore hcandidate hwhole

section Samples

attribute [local instance] Archive.Decoders.absent

def startedWith (arguments : List Text) : Invocation := ⟨arguments, [], false⟩

/-- A listing of two uniforms, and behind them a declaration without a name. -/
def brokenListing : FileSystem :=
  ⟨[(defaultPath, .file 0o644
    (Text.Utf8.encode "uniform vec2 size; in pixels\nuniform <float> time;\nuniform".toList))], []⟩

theorem outputs_agree_brokenListing :
    Agree brokenListing defaultPath
      ((startedWith ["snippets".toList]).run (fun _ => .error .refused) [] brokenListing)
      ((startedWith ["snippets".toList, "--json".toList]).run (fun _ => .error .refused) []
        brokenListing) := by
  have hplain : CommandLine.read (startedWith ["snippets".toList]).releaseUrl?
      (startedWith ["snippets".toList]).arguments = .ok (.snippets ⟨defaultPath, false⟩) := by
    decide
  have hjson : CommandLine.read (startedWith ["snippets".toList, "--json".toList]).releaseUrl?
      (startedWith ["snippets".toList, "--json".toList]).arguments =
        .ok (.snippets ⟨defaultPath, true⟩) := by
    decide
  exact outputs_agree hplain hjson _ _ [] [] brokenListing

end Samples

end Runs

end ShaderTools.Proofs.SnippetOutputs
