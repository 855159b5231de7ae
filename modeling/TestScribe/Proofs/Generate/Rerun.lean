import TestScribe.Proofs.Disk.Patterns
import TestScribe.Proofs.Generate.OutputPath
import TestScribe.Proofs.Generate.Outputs
import TestScribe.Proofs.Generate.Plans

/-!
# Running twice

A run changes the disk in two ways. It makes sure of the output directory, also when that
fails half way, and it puts the files of classes. The second run finds both.

Making sure of the directory again has nothing to do, and ends as it ended before
(`prepareOutput_again`). The files matter to nothing that a run looks at, although they may
be in the input directory: their extension is not the one that documents have, so they are
no documents (`findDocuments_putFiles`) and take the place of none (`apart_of_findDocuments`).
So the second run finds the same documents, plans the same files, and puts what is there
already.

> `run_again`: a run on the disk that a run leaves comes to the same end and leaves that disk.

Nothing is assumed about how the first run ended.
-/

namespace TestScribe.Generate

/-! ## The output directory -/

section
variable {d d' : Disk} {here : Place} {output : Path} {r : Option Stop}

/-- Before a run the disk stays as it is, or is left as making directories leaves it. -/
theorem disk_of_prepareOutput (h : prepareOutput d here output = (d', r)) :
    d' = d ∨ ∃ e, d.makeDirectories here output = (d', e) := by
  unfold prepareOutput at h
  split at h
  · cases h
    exact .inl rfl
  · split at h
    all_goals
      rename_i hmade
      cases h
      exact .inr ⟨_, hmade⟩

theorem keepsDirectories_of_prepareOutput (h : prepareOutput d here output = (d', r)) :
    Disk.KeepsDirectories d d' := by
  rcases disk_of_prepareOutput h with rfl | ⟨e, hmade⟩
  · exact .refl _
  · exact Disk.keepsDirectories_of_makeDirectories hmade

theorem plain_of_prepareOutput (hd : d.Plain here) (h : prepareOutput d here output = (d', r)) :
    d'.Plain here := by
  rcases disk_of_prepareOutput h with rfl | ⟨e, hmade⟩
  · exact hd
  · exact hd.makeDirectories hmade

/-- Where the output directory is, nothing is done. -/
theorem prepareOutput_of_isDirectory (h : d.isDirectory here output = .ok true) :
    prepareOutput d here output = (d, none) := by
  rw [prepareOutput, Disk.isThere_of_isDirectory h]
  dsimp only
  rw [Disk.makeDirectories_of_isDirectory h]

theorem prepareOutput_of_makeDirectories {e : DiskError}
    (hshort : ∀ n ∈ output.names, (Utf8.encode n).length ≤ longestFileName)
    (hnul : e ≠ .holdsNul) (h : d.makeDirectories here output = (d', some e)) :
    prepareOutput d here output = (d', some (.failure (.noOutputDirectory output))) := by
  obtain ⟨b, hthere⟩ : ∃ b, d.isThere here output = .ok b := Disk.exists_ask hshort _
  rw [prepareOutput, hthere, h]
  dsimp only
  split
  · rename_i hnone
    cases hnone
  · rename_i he
    cases he
    exact absurd rfl hnul
  · rename_i hsome
    cases hsome
    rfl

/-- Making sure of the output directory a second time ends as it ended the first time. -/
theorem prepareOutput_again (hnul : output.hasNul = false)
    (hshort : ∀ n ∈ output.names, (Utf8.encode n).length ≤ longestFileName)
    (h : prepareOutput d here output = (d', r)) : prepareOutput d' here output = (d', r) := by
  rcases hmade : d.makeDirectories here output with ⟨d₁, e⟩
  obtain ⟨e', hagain, hiff⟩ := Disk.makeDirectories_again hmade
  cases e with
  | none =>
    obtain ⟨b, hthere⟩ : ∃ b, d.isThere here output = .ok b := Disk.exists_ask hshort _
    rw [prepareOutput, hthere, hmade] at h
    cases h
    exact prepareOutput_of_isDirectory (Disk.isDirectory_of_makeDirectories hmade)
  | some e =>
    -- The second attempt may fail with another error, but not for a NUL either.
    obtain ⟨e'', rfl⟩ : ∃ e'', e' = some e'' :=
      Option.ne_none_iff_exists'.mp fun he => nomatch hiff.mp he
    have hne : e ≠ .holdsNul := fun he => Disk.makeDirectories_ne_holdsNul hnul (he ▸ hmade)
    have hne' : e'' ≠ .holdsNul := fun he => Disk.makeDirectories_ne_holdsNul hnul (he ▸ hagain)
    rw [prepareOutput_of_makeDirectories hshort hne hmade] at h
    cases h
    exact prepareOutput_of_makeDirectories hshort hne' hagain

end

/-! ## The documents -/

/-- The place is not that of a name with this ending. -/
def Lacks (ending : Text) (place : Place) : Prop :=
  ∀ n above, place = n :: above → ¬ ending <:+ n

/-- The files among paths that were found, in order. -/
def filesAmong (d : Disk) (here : Place) (found : List Path) : Except Breakdown (List Path) :=
  match found.filterM fun path => d.isFile here path with
  | .error e => .error (.disk e)
  | .ok files => .ok (files.mergeSort pathLe)

section
variable {d : Disk} {here place : Place} {input : Path} {ext n : Text}

/-- Below a directory the documents are the files among the listed names with the ending. -/
theorem findDocuments_star (hext : Glob.IsPlain ext) (hplace : d.resolve here input = .ok place)
    (hthere : d.at? place = some .directory) :
    findDocuments d here input ("*.".toList ++ ext) =
      filesAmong d here ((Glob.listed d place ('.' :: ext)).map fun e => input.child e.1) := by
  unfold findDocuments
  rw [Glob.pattern_star hext]
  dsimp only
  rw [Glob.find_star hplace hthere]
  rfl

theorem ne_aboveName_of_mem_listed {e : Entry} (hd : d.Plain here)
    (he : (n, e) ∈ Glob.listed d place ext) : n ≠ aboveName := fun hn =>
  hd.2 _ (Glob.mem_listed.mp he).1 (hn ▸ List.mem_cons_self)

/-- A listed name leads to its place in the directory. -/
theorem place_of_mem_listed {e : Entry} {q : Place} (hd : d.Plain here)
    (hplace : d.resolve here input = .ok place) (he : (n, e) ∈ Glob.listed d place ext)
    (hq : d.resolve here (input.child n) = .ok q) : q = n :: place := by
  obtain ⟨q', hq', -, h⟩ := Disk.exists_directory_of_child hq
  rw [if_neg (ne_aboveName_of_mem_listed hd he)] at h
  rw [h, Except.ok.inj (hq'.symm.trans hplace)]

/-- The place of a document is one of a name with the ending. -/
theorem not_lacks_of_findDocuments {paths : List Path} {path : Path} {q : Place}
    (hd : d.Plain here) (hext : Glob.IsPlain ext) (hinput : d.isDirectory here input = .ok true)
    (h : findDocuments d here input ("*.".toList ++ ext) = .ok paths) (hpath : path ∈ paths)
    (hq : d.resolve here path = .ok q) : ¬ Lacks ('.' :: ext) q := by
  obtain ⟨place, hplace, hthere⟩ := Disk.isDirectory_eq_true_iff.mp hinput
  rw [findDocuments_star hext hplace hthere, filesAmong] at h
  split at h
  · cases h
  · rename_i files hfiles
    cases h
    obtain ⟨hfound, -⟩ := of_mem_filterM hfiles path (List.mem_mergeSort.mp hpath)
    obtain ⟨⟨n, e⟩, he, rfl⟩ := List.mem_map.mp hfound
    exact fun hlacks =>
      hlacks n place (place_of_mem_listed hd hplace he hq) (Glob.mem_listed.mp he).2

/-! ## Files that are no documents -/

/-- What is a file depends on what is at the place that the path leads to. -/
theorem isFile_congr {d' : Disk} {path : Path} (hplace : d'.resolve here path = d.resolve here path)
    (hat : ∀ q, d.resolve here path = .ok q → d'.at? q = d.at? q) :
    d'.isFile here path = d.isFile here path := by
  unfold Disk.isFile Disk.ask Disk.lookup
  rw [hplace]
  cases hr : d.resolve here path with
  | error e => rfl
  | ok q =>
    dsimp only
    rw [hat q hr]

/-- Files whose names do not have the ending are no documents, and hide none. -/
theorem findDocuments_putFiles {fs : List PlacedFile} (hd : d.Plain here)
    (hext : Glob.IsPlain ext) (hinput : d.isDirectory here input = .ok true)
    (hdir : ∀ f ∈ fs, d.at? f.place ≠ some .directory)
    (hlacks : ∀ f ∈ fs, Lacks ('.' :: ext) f.place) :
    findDocuments (d.putFiles fs) here input ("*.".toList ++ ext) =
      findDocuments d here input ("*.".toList ++ ext) := by
  obtain ⟨place, hplace, hthere⟩ := Disk.isDirectory_eq_true_iff.mp hinput
  have hsame : Disk.SameDirectories d (d.putFiles fs) := Disk.sameDirectories_putFiles hdir
  have hplace' := (Disk.resolve_congr hsame here input place).mpr hplace
  have hthere' := (hsame place).mpr hthere
  rw [findDocuments_star hext hplace hthere, findDocuments_star hext hplace' hthere',
    Glob.listed_putFiles fs hlacks, filesAmong, filesAmong, filterM_congr fun path hpath => ?_]
  -- The listed names are the same, so it remains to see which of them are those of files.
  obtain ⟨⟨n, e⟩, he, rfl⟩ := List.mem_map.mp hpath
  have hending := (Glob.mem_listed.mp he).2
  have hn := ne_aboveName_of_mem_listed hd he
  refine isFile_congr ?_ fun q hq => ?_
  · rw [Disk.resolve_child hplace' hthere' hn, Disk.resolve_child hplace hthere hn]
  · rw [place_of_mem_listed hd hplace he hq]
    exact Disk.at?_putFiles_other (fun f hf => Disk.ne_root_of_not_directory (hdir f hf))
      fun f hf hplace => hlacks f hf n place hplace hending

end

/-! ## The files -/

/-- Texts that end alike from their last point on have the same extension. -/
theorem eq_of_suffix_point {a b x : Text} (ha : '.' ∉ a) (hb : '.' ∉ b)
    (h : '.' :: a <:+ x ++ '.' :: b) : a = b := by
  obtain ⟨t, ht⟩ := h
  -- Read from the end, each text is cut at its first point.
  have hrev : a.reverse ++ '.' :: t.reverse = b.reverse ++ '.' :: x.reverse := by
    simpa using congrArg List.reverse ht
  have hcut := congrArg (Text.cutAt? '.') hrev
  rw [Text.cutAt?_append (by simpa using ha), Text.cutAt?_append (by simpa using hb)] at hcut
  exact List.reverse_inj.mp (Prod.mk.inj (Option.some.inj hcut)).1

/-- Documents and classes can be told apart by their names: the extensions are different,
and nothing in them or in the suffix of the classes means something to a pattern or a path. -/
structure Settings.TellsApart (s : Settings) : Prop where
  input_plain : Glob.IsPlain s.inputExtension
  input_point : '.' ∉ s.inputExtension
  suffix_slash : '/' ∉ s.classSuffix
  output_slash : '/' ∉ s.outputExtension
  output_point : '.' ∉ s.outputExtension
  different : s.inputExtension ≠ s.outputExtension

section
variable {d : Disk} {here : Place} {s : Settings} {paths : List Path}

/-- The file of a class has no name that a document has. -/
theorem lacks_of_plan {path : Path} {p : Plan} (hs : s.TellsApart)
    (h : plan d here s path = .ok p) : Lacks ('.' :: s.inputExtension) p.file.place := by
  obtain ⟨code, hprepare, hplace, -, -⟩ := plan_eq_ok.mp h
  obtain ⟨hname, markup, ls, -, -, hgenerated, -⟩ := prepare_eq_ok.mp hprepare
  rw [hgenerated] at hplace
  dsimp only at hplace
  rw [Settings.outputPath_eq_child hs.suffix_slash hs.output_slash hname] at hplace
  obtain ⟨q, -, -, hq⟩ := Disk.exists_directory_of_child hplace
  -- The name begins with a letter, so it does not lead upwards.
  have hn : s.className path.name ++ '.' :: s.outputExtension ≠ aboveName := by
    obtain ⟨c, cs, -, hletter, -, hclass⟩ :=
      TestClass.className_of_isFileName s.classSuffix hname
    rw [Settings.className, hclass]
    intro habove
    obtain rfl : c = '.' := (List.cons.inj habove).1
    revert hletter
    decide
  rw [if_neg hn] at hq
  intro n above hplace' hending
  obtain ⟨rfl, -⟩ := List.cons.inj (hq.symm.trans hplace')
  exact hs.different (eq_of_suffix_point hs.input_point hs.output_point hending)

/-- No file of a run takes the place of a document. -/
theorem apart_of_findDocuments (hs : s.TellsApart) (hd : d.Plain here)
    (hinput : d.isDirectory here s.input = .ok true)
    (h : findDocuments d here s.input s.pattern = .ok paths) : Apart d here s paths :=
  fun _ _ _ hp _ hq hplace =>
    not_lacks_of_findDocuments hd hs.input_plain hinput h hq hplace (lacks_of_plan hs hp)

end

/-! ## The second run -/

section
variable {d d' : Disk} {here : Place} {s : Settings}

/-- A second scan ends as the first one, and finds nothing left to make. -/
theorem scan_again {input output : Path} {pattern : Text} {x : Except Stop (List Path)}
    (hnul : output.hasNul = false)
    (hshort : ∀ n ∈ output.names, (Utf8.encode n).length ≤ longestFileName)
    (h : scan d here input output pattern = (x, d')) :
    scan d' here input output pattern = (x, d') := by
  cases hinput : d.isDirectory here input with
  | error e =>
    rw [scan, hinput] at h
    cases h
    rw [scan, hinput]
  | ok b =>
    cases b with
    | false =>
      rw [scan, hinput] at h
      cases h
      rw [scan, hinput]
    | true =>
      rcases hout : prepareOutput d here output with ⟨d₁, r⟩
      have hagain := prepareOutput_again hnul hshort hout
      have hinput' :=
        Disk.isDirectory_of_keepsDirectories (keepsDirectories_of_prepareOutput hout) hinput
      rw [scan, hinput] at h
      dsimp only at h
      rw [hout] at h
      -- Looking for documents leaves the disk as it is.
      obtain rfl : d₁ = d' := by
        cases r with
        | some stop =>
          cases h
          rfl
        | none =>
          dsimp only at h
          split at h
          all_goals
            cases h
            rfl
      rw [scan, hinput']
      dsimp only
      rw [hagain]
      exact h

/-- With files that are no documents, a scan still finds the same documents. -/
theorem scan_putFiles {paths : List Path} {fs : List PlacedFile} (hs : s.TellsApart)
    (hd : d.Plain here) (h : scan d here s.input s.output s.pattern = (.ok paths, d))
    (hdir : ∀ f ∈ fs, d.at? f.place ≠ some .directory)
    (hlacks : ∀ f ∈ fs, Lacks ('.' :: s.inputExtension) f.place) :
    scan (d.putFiles fs) here s.input s.output s.pattern = (.ok paths, d.putFiles fs) := by
  obtain ⟨hout, hne, hfound⟩ := of_scan_eq_ok h
  have hinput := isDirectory_of_scan h
  have hkeeps : Disk.KeepsDirectories d (d.putFiles fs) := fun q hq =>
    (Disk.sameDirectories_putFiles hdir q).mpr hq
  have hinput' := Disk.isDirectory_of_keepsDirectories hkeeps hinput
  have houtput' := Disk.isDirectory_of_keepsDirectories hkeeps (isDirectory_of_prepareOutput hout)
  have hfound' := findDocuments_putFiles hd hs.input_plain hinput hdir hlacks
  exact scan_of_findDocuments hinput' (prepareOutput_of_isDirectory houtput')
    (hfound'.trans hfound) hne

/-- A run on the disk that a run leaves comes to the same end and leaves that disk, if the
settings tell documents and classes apart and the output directory has a path that a disk can
have. -/
theorem run_again (d : Disk.PlainDisk here) {outcome : Except Stop Report} (hs : s.TellsApart)
    (hnul : s.output.hasNul = false)
    (hshort : ∀ n ∈ s.output.names, (Utf8.encode n).length ≤ longestFileName)
    (h : run d.disk here s = (outcome, d')) : run d' here s = (outcome, d') := by
  rcases hscan : scan d.disk here s.input s.output s.pattern with ⟨x, d₁⟩
  have hagain := scan_again hnul hshort hscan
  rw [run, hscan] at h
  cases x with
  | error stop =>
    cases h
    rw [run, hagain]
  | ok paths =>
    dsimp only at h
    have hd₁ : d₁.Plain here := plain_of_prepareOutput d.plain (of_scan_eq_ok hscan).1
    have hapart : Apart d₁ here s paths :=
      apart_of_findDocuments hs hd₁ (isDirectory_of_scan hagain) (of_scan_eq_ok hagain).2.2
    rw [runAll_of_agree hapart (.refl d₁ here paths)] at h
    cases h
    have hdir : ∀ f ∈ filesOfRun d₁ here s paths, d₁.at? f.place ≠ some .directory :=
      fun f hf => not_directory_of_mem hf
    have hlacks : ∀ f ∈ filesOfRun d₁ here s paths, Lacks ('.' :: s.inputExtension) f.place := by
      intro f hf
      obtain ⟨path, -, p, hp, rfl⟩ := exists_plan_of_mem hf
      exact lacks_of_plan hs hp
    -- The second run plans what the first one planned, and all of it is there.
    rw [run, scan_putFiles hs hd₁ hagain hdir hlacks]
    dsimp only
    rw [runAll_of_agree hapart hapart.agree,
      Disk.putFiles_putFiles d₁ fun f hf => Disk.ne_root_of_not_directory (hdir f hf)]

end

/-- The disk with two documents that become one class. -/
def plainSharedDisk : Disk.PlainDisk [] := ⟨sharedDisk, by decide +kernel⟩

/-- Two documents that become one class: the second run writes the class of the one and then
that of the other again. -/
theorem run_again_shared :
    plainSettings.TellsApart ∧ plainSettings.output.hasNul = false ∧
      (∀ n ∈ plainSettings.output.names, (Utf8.encode n).length ≤ longestFileName) ∧
      run plainSharedDisk.disk [] plainSettings = (.ok sharedReport, sharedDisk') ∧
      run sharedDisk' [] plainSettings = (.ok sharedReport, sharedDisk') := by
  have hs : plainSettings.TellsApart :=
    ⟨by decide, by decide, by decide, by decide, by decide, by decide⟩
  have hnul : plainSettings.output.hasNul = false := by decide
  have hshort : ∀ n ∈ plainSettings.output.names,
      (Utf8.encode n).length ≤ longestFileName := by decide
  exact ⟨hs, hnul, hshort, run_sharedDisk,
    run_again plainSharedDisk hs hnul hshort run_sharedDisk⟩

end TestScribe.Generate
