import TestScribe.Proofs.Disk.Listing
import TestScribe.Proofs.Generate.Rerun
import TestScribe.Proofs.TestClass.Naming
import TestScribe.Proofs.Text.Order

/-!
# What a scan finds

A scan makes sure of the output directory before it looks for documents, and the output
directory may lie in the input directory and be named like a document. It makes no difference:
what is made is a directory, so the files of the input directory are the same before and after
(`Disk.OnlyMakes.at?_eq_file_iff`), and a directory is no document.

> `scan_exact`: on a proper disk a scan gives exactly the files of the input directory that
> have the extension, in strictly increasing order of their names.

A list that is strictly increasing is determined by its members (`ListsFiles.unique`), so the
order in which the disk keeps its entries cannot show in the outcome (`scan_of_perm`).
-/

namespace TestScribe.Generate

/-! ## In the order of names -/

/-- The paths are those of the files in the directory at the place, which `input` leads to,
under names with the ending, in strictly increasing order of these names. -/
structure ListsFiles (d : Disk) (place : Place) (input : Path) (ending : Text)
    (paths : List Path) : Prop where
  increasing : paths.Pairwise fun p q => p.name < q.name
  mem_iff : ∀ path, path ∈ paths ↔
    ∃ n bytes, path = input.child n ∧ ending <:+ n ∧ d.at? (n :: place) = some (.file bytes)

theorem ListsFiles.nodup {d : Disk} {place : Place} {input : Path} {ending : Text}
    {paths : List Path} (h : ListsFiles d place input ending paths) : paths.Nodup := by
  refine h.increasing.imp fun hlt he => ?_
  rw [he] at hlt
  exact lt_irrefl _ hlt

/-- There is only one such list. -/
theorem ListsFiles.unique {d : Disk} {place : Place} {input : Path} {ending : Text}
    {ps qs : List Path} (hp : ListsFiles d place input ending ps)
    (hq : ListsFiles d place input ending qs) : ps = qs := by
  have hperm : ps.Perm qs := (List.perm_ext_iff_of_nodup hp.nodup hq.nodup).mpr
    fun path => (hp.mem_iff path).trans (hq.mem_iff path).symm
  exact hperm.eq_of_pairwise (fun _ _ _ _ hlt hlt' => absurd hlt' (lt_asymm hlt))
    hp.increasing hq.increasing

theorem name_child (p : Path) (n : Text) : (p.child n).name = n := by
  rw [Path.name, Path.child, List.getLast?_concat]
  rfl

theorem child_injective (p : Path) : Function.Injective p.child := fun n m he => by
  rw [← name_child p n, he, name_child]

/-- The path to a name is listed if the name has the ending and is that of a file. -/
theorem ListsFiles.child_mem_iff {d : Disk} {place : Place} {input : Path} {ending n : Text}
    {paths : List Path} (h : ListsFiles d place input ending paths) : input.child n ∈ paths ↔
      ending <:+ n ∧ ∃ bytes, d.at? (n :: place) = some (.file bytes) := by
  rw [h.mem_iff]
  constructor
  · rintro ⟨m, bytes, hchild, hending, hthere⟩
    obtain rfl := child_injective input hchild
    exact ⟨hending, bytes, hthere⟩
  · rintro ⟨hending, bytes, hthere⟩
    exact ⟨n, bytes, rfl, hending, hthere⟩

theorem pathLe_iff (p q : Path) : pathLe p q = true ↔ p.names ≤ q.names :=
  Text.listLe_iff p.names q.names

theorem pathLe_child_iff (p : Path) (n m : Text) :
    pathLe (p.child n) (p.child m) = true ↔ n ≤ m := by
  rw [pathLe_iff, Path.child, Path.child, Text.append_le_append_iff,
    Text.singleton_le_singleton_iff]

theorem pairwise_mergeSort_pathLe (paths : List Path) :
    (paths.mergeSort pathLe).Pairwise fun p q => pathLe p q = true := by
  refine List.pairwise_mergeSort (fun p q r hpq hqr => ?_) (fun p q => ?_) paths
  · rw [pathLe_iff] at hpq hqr ⊢
    exact hpq.trans hqr
  · rw [Bool.or_eq_true, pathLe_iff, pathLe_iff]
    exact le_total p.names q.names

/-- Paths to different names in one directory are sorted by these names. -/
theorem increasing_mergeSort (input : Path) {names : List Text} (h : names.Nodup) :
    ((names.map input.child).mergeSort pathLe).Pairwise fun p q => p.name < q.name := by
  have hnodup : ((names.map input.child).mergeSort pathLe).Nodup :=
    (List.mergeSort_perm _ _).nodup_iff.mpr (h.map (child_injective input))
  refine ((pairwise_mergeSort_pathLe _).and hnodup).imp_of_mem fun hp hq hle => ?_
  obtain ⟨n, -, rfl⟩ := List.mem_map.mp (List.mem_mergeSort.mp hp)
  obtain ⟨m, -, rfl⟩ := List.mem_map.mp (List.mem_mergeSort.mp hq)
  rw [name_child, name_child]
  exact lt_of_le_of_ne ((pathLe_child_iff input n m).mp hle.1) fun he => hle.2 (he ▸ rfl)

/-! ## The documents of a directory -/

section
variable {d : Disk} {here place : Place} {input : Path} {ext : Text}

/-- A listed name leads to what is listed under it. -/
theorem isFile_of_mem_listed {n ending : Text} {x : Entry} (hd : d.Proper here)
    (hplace : d.resolve here input = .ok place) (hdir : d.at? place = some .directory)
    (h : (n, x) ∈ Glob.listed d place ending) :
    d.isFile here (input.child n) = .ok x.isFile := by
  have hn := hd.named _ (Glob.mem_listed.mp h).1 n List.mem_cons_self
  have hthere : d.at? (n :: place) = some x :=
    (Disk.mem_listing_iff hd.once).mp (List.mem_of_mem_filter h)
  have hchild : d.resolve here (input.child n) = .ok (n :: place) := by
    rw [Disk.resolve_child hplace hdir hn.not_above,
      if_neg (by simpa using hn.no_nul), if_neg (Nat.not_lt.mpr hn.short)]
  unfold Disk.isFile Disk.ask Disk.lookup
  rw [hchild]
  dsimp only
  rw [hthere]

/-- The names of the files that a directory lists under names with the ending. -/
def fileNames (d : Disk) (place : Place) (ending : Text) : List Text :=
  ((Glob.listed d place ending).filter fun e => e.2.isFile).map Prod.fst

theorem mem_fileNames {n ending : Text} (hd : d.Proper here) : n ∈ fileNames d place ending ↔
    ∃ bytes, ending <:+ n ∧ d.at? (n :: place) = some (.file bytes) := by
  simp only [fileNames, Glob.listed, List.mem_map, List.mem_filter, Prod.exists,
    Disk.mem_listing_iff hd.once, List.isSuffixOf_iff_suffix]
  constructor
  · rintro ⟨m, x, ⟨⟨hthere, hending⟩, hfile⟩, rfl⟩
    cases x with
    | file bytes => exact ⟨bytes, hending, hthere⟩
    | directory => cases hfile
  · rintro ⟨bytes, hending, hthere⟩
    exact ⟨n, .file bytes, ⟨⟨hthere, hending⟩, rfl⟩, rfl⟩

theorem nodup_fileNames (hd : d.Proper here) (ending : Text) :
    (fileNames d place ending).Nodup :=
  ((List.filter_sublist.trans List.filter_sublist).map Prod.fst).nodup
    (Disk.nodup_listing hd.once place)

/-- The documents are the files under names with the extension. -/
theorem exists_findDocuments (hd : d.Proper here) (hext : Glob.IsPlain ext)
    (hplace : d.resolve here input = .ok place) (hdir : d.at? place = some .directory) :
    ∃ paths, findDocuments d here input ("*.".toList ++ ext) = .ok paths ∧
      ListsFiles d place input ('.' :: ext) paths := by
  have hask : ∀ e ∈ Glob.listed d place ('.' :: ext),
      d.isFile here (input.child e.1) = .ok e.2.isFile := fun _ he =>
    isFile_of_mem_listed hd hplace hdir he
  refine ⟨((fileNames d place ('.' :: ext)).map input.child).mergeSort pathLe, ?_,
    increasing_mergeSort input (nodup_fileNames hd _), fun path => ?_⟩
  · rw [findDocuments_star hext hplace hdir, filesAmong, filterM_map_of_ok hask, fileNames, List.map_map]
    rfl
  · rw [List.mem_mergeSort, List.mem_map]
    constructor
    · rintro ⟨n, hn, rfl⟩
      obtain ⟨bytes, hending, hthere⟩ := (mem_fileNames hd).mp hn
      exact ⟨n, bytes, rfl, hending, hthere⟩
    · rintro ⟨n, bytes, rfl, hending, hthere⟩
      exact ⟨n, (mem_fileNames hd).mpr ⟨bytes, hending, hthere⟩, rfl⟩

end

/-! ## How a scan ends -/

section
variable {d : Disk} {here place : Place} {input output : Path} {pattern ext : Text}

/-- Without an input directory nothing is done. -/
theorem scan_of_not_directory
    (hinput : ∀ n ∈ input.names, (Utf8.encode n).length ≤ longestFileName)
    (h : ¬ ∃ place, d.resolve here input = .ok place ∧ d.at? place = some .directory) :
    scan d here input output pattern = (.error (.failure .noInputDirectory), d) := by
  obtain ⟨b, hb⟩ : ∃ b, d.isDirectory here input = .ok b := Disk.exists_ask hinput _
  rw [scan, hb]
  cases b with
  | false => rfl
  | true => exact absurd (Disk.isDirectory_eq_true_iff.mp hb) h

/-- Where the output directory cannot be, the scan says so. -/
theorem scan_of_not_canHave (hplace : d.resolve here input = .ok place)
    (hdir : d.at? place = some .directory) (hnul : output.hasNul = false)
    (hshort : ∀ n ∈ output.names, (Utf8.encode n).length ≤ longestFileName)
    (h : ¬ d.CanHave here output) : scan d here input output pattern =
      (.error (.failure (.noOutputDirectory output)), (d.makeDirectories here output).1) := by
  rcases hmade : d.makeDirectories here output with ⟨d', r⟩
  rw [← Disk.makeDirectories_succeeds_iff, hmade] at h
  obtain ⟨e, rfl⟩ : ∃ e, r = some e := Option.ne_none_iff_exists'.mp h
  have hne : e ≠ .holdsNul := fun he => Disk.makeDirectories_ne_holdsNul hnul (he ▸ hmade)
  rw [scan, Disk.isDirectory_eq_true_iff.mpr ⟨place, hplace, hdir⟩]
  dsimp only
  rw [prepareOutput_of_makeDirectories hshort hne hmade]

/-- Where the output directory can be, the scan gives the files with the extension. -/
theorem scan_of_canHave (hd : d.Proper here) (hext : Glob.IsPlain ext)
    (hplace : d.resolve here input = .ok place) (hdir : d.at? place = some .directory)
    (hshort : ∀ n ∈ output.names, (Utf8.encode n).length ≤ longestFileName)
    (h : d.CanHave here output) : ∃ paths, ListsFiles d place input ('.' :: ext) paths ∧
      scan d here input output ("*.".toList ++ ext) =
        (if paths = [] then .error (.failure .noDocuments) else .ok paths,
          (d.makeDirectories here output).1) := by
  rcases hmade : d.makeDirectories here output with ⟨d', r⟩
  obtain rfl : r = none := by
    rw [← Disk.makeDirectories_succeeds_iff, hmade] at h
    exact h
  have hmakes := Disk.onlyMakes_of_makeDirectories hmade
  have hplace' := Disk.resolve_of_keepsDirectories hmakes.keepsDirectories hplace
  obtain ⟨paths, hfound, hlists⟩ := exists_findDocuments (hd.makeDirectories hmade) hext hplace'
    (hmakes.keepsDirectories _ hdir)
  -- What was made is no file, so these are the files that were there before.
  have hlists' : ListsFiles d place input ('.' :: ext) paths :=
    ⟨hlists.increasing, fun path => by simp only [hlists.mem_iff, hmakes.at?_eq_file_iff]⟩
  refine ⟨paths, hlists', ?_⟩
  obtain ⟨b, hthere⟩ : ∃ b, d.isThere here output = .ok b := Disk.exists_ask hshort _
  have hout : prepareOutput d here output = (d', none) := by
    rw [prepareOutput, hthere]
    dsimp only
    rw [hmade]
  rw [scan, Disk.isDirectory_eq_true_iff.mpr ⟨place, hplace, hdir⟩]
  dsimp only
  rw [hout]
  dsimp only
  rw [hfound]
  cases paths with
  | nil => rfl
  | cons p ps => rfl

/-- The order in which the disk keeps its entries does not show in how a scan ends, nor in
what it leaves. -/
theorem scan_of_perm {e : Disk} (hd : d.Proper here) (hext : Glob.IsPlain ext)
    (hinput : ∀ n ∈ input.names, (Utf8.encode n).length ≤ longestFileName)
    (hnul : output.hasNul = false)
    (hshort : ∀ n ∈ output.names, (Utf8.encode n).length ≤ longestFileName)
    (hperm : e.Perm d) :
    (scan e here input output ("*.".toList ++ ext)).1 =
        (scan d here input output ("*.".toList ++ ext)).1 ∧
      Disk.SameContents (scan d here input output ("*.".toList ++ ext)).2
        (scan e here input output ("*.".toList ++ ext)).2 := by
  have hsame := Disk.SameContents.of_perm hd.once hperm
  have hleft : Disk.SameContents (d.makeDirectories here output).1
      (e.makeDirectories here output).1 := hsame.makeDirectories.1
  by_cases hthere : ∃ place, d.resolve here input = .ok place ∧ d.at? place = some .directory
  · obtain ⟨place, hplace, hdir⟩ := hthere
    have hplace' : e.resolve here input = .ok place := hsame.resolve.trans hplace
    have hdir' : e.at? place = some .directory := (hsame place).trans hdir
    by_cases hcan : d.CanHave here output
    · obtain ⟨paths, hlists, hscan⟩ := scan_of_canHave hd hext hplace hdir hshort hcan
      obtain ⟨paths', hlists', hscan'⟩ := scan_of_canHave (hd.of_perm hperm) hext hplace' hdir'
        hshort (hsame.canHave.mpr hcan)
      have hlists'' : ListsFiles d place input ('.' :: ext) paths' :=
        ⟨hlists'.increasing, fun path => by simp only [hlists'.mem_iff, hsame _]⟩
      rw [hscan, hscan', hlists''.unique hlists]
      exact ⟨rfl, hleft⟩
    · rw [scan_of_not_canHave hplace hdir hnul hshort hcan,
        scan_of_not_canHave hplace' hdir' hnul hshort (mt hsame.canHave.mp hcan)]
      exact ⟨rfl, hleft⟩
  · rw [scan_of_not_directory hinput hthere, scan_of_not_directory hinput]
    · exact ⟨rfl, hsame⟩
    · simpa only [hsame.resolve, hsame _] using hthere

/-- Without an input directory a scan says so and leaves the disk alone. Otherwise it makes
directories on the way to the output directory and does nothing else to the disk. Where the
output directory can be had, it is there then, and the scan gives exactly the files of the
input directory that have the extension, in strictly increasing order of their names; among
them are those with plain file names. The order in which the disk keeps its entries does not
matter. -/
theorem scan_exact (d : Disk.ProperDisk here) (hext : Glob.IsPlain ext)
    (hinput : ∀ n ∈ input.names, (Utf8.encode n).length ≤ longestFileName)
    (hnul : output.hasNul = false)
    (hshort : ∀ n ∈ output.names, (Utf8.encode n).length ≤ longestFileName) :
    ((¬ ∃ place, d.disk.resolve here input = .ok place ∧ d.disk.at? place = some .directory) →
      scan d.disk here input output ("*.".toList ++ ext) =
        (.error (.failure .noInputDirectory), d.disk)) ∧
    (∀ place, d.disk.resolve here input = .ok place → d.disk.at? place = some .directory →
      ∃ outcome d', scan d.disk here input output ("*.".toList ++ ext) = (outcome, d') ∧
        d.disk.OnlyMakes d' here output ∧
        (¬ d.disk.CanHave here output →
          outcome = .error (.failure (.noOutputDirectory output))) ∧
        (d.disk.CanHave here output → d'.isDirectory here output = .ok true ∧
          ∃ paths, ListsFiles d.disk place input ('.' :: ext) paths ∧
            (outcome = if paths = [] then .error (.failure .noDocuments) else .ok paths) ∧
            ∀ n bytes, TestClass.isFileName ext n = true →
              d.disk.at? (n :: place) = some (.file bytes) → input.child n ∈ paths)) ∧
    ∀ e : Disk, e.Perm d.disk →
      (scan e here input output ("*.".toList ++ ext)).1 =
          (scan d.disk here input output ("*.".toList ++ ext)).1 ∧
        Disk.SameContents (scan d.disk here input output ("*.".toList ++ ext)).2
          (scan e here input output ("*.".toList ++ ext)).2 := by
  refine ⟨scan_of_not_directory hinput, fun place hplace hdir => ?_,
    fun e => scan_of_perm d.proper hext hinput hnul hshort⟩
  rcases hmade : d.disk.makeDirectories here output with ⟨d', r⟩
  have hmakes := Disk.onlyMakes_of_makeDirectories hmade
  by_cases hcan : d.disk.CanHave here output
  · obtain ⟨paths, hlists, hscan⟩ := scan_of_canHave d.proper hext hplace hdir hshort hcan
    rw [hmade] at hscan
    refine ⟨_, d', hscan, hmakes, fun hnot => absurd hcan hnot, fun _ => ⟨?_, paths, hlists, rfl,
      fun n bytes hname hthere => ?_⟩⟩
    · rw [← Disk.makeDirectories_succeeds_iff, hmade] at hcan
      obtain rfl : r = none := hcan
      exact Disk.isDirectory_of_makeDirectories hmade
    · exact hlists.child_mem_iff.mpr ⟨TestClass.suffix_of_isFileName hname, bytes, hthere⟩
  · have hscan : scan d.disk here input output ("*.".toList ++ ext) = _ :=
      scan_of_not_canHave hplace hdir hnul hshort hcan
    rw [hmade] at hscan
    exact ⟨_, d', hscan, hmakes, fun _ => rfl, fun h => absurd h hcan⟩

/-- An input directory with two files and a directory whose names have the extension, and a
file whose name does not have it. -/
def nestedDisk : Disk :=
  [(["bc.html".toList, "in".toList], .file []), (["in".toList], .directory),
    ([".html".toList, "in".toList], .file []), (["bc.html.old".toList, "in".toList], .file []),
    (["c.html".toList, "in".toList], .directory)]

/-- It is one of a file system. -/
def properNestedDisk : Disk.ProperDisk [] :=
  ⟨nestedDisk, by decide, by decide +kernel, by decide⟩

/-- The output directory is made in the input directory under a name with the extension. The
scan passes over it as over the other directory, and finds the file that has no name but the
extension. -/
theorem scan_exact_nested :
    Glob.IsPlain "html".toList ∧
      ∃ paths d', scan nestedDisk [] (.ofText "in".toList) (.ofText "in/a.html".toList)
          ("*.".toList ++ "html".toList) = (.ok paths, d') ∧
        nestedDisk.OnlyMakes d' [] (.ofText "in/a.html".toList) ∧
        d'.isDirectory [] (.ofText "in/a.html".toList) = .ok true ∧
        Path.ofText "in/.html".toList ∈ paths ∧ Path.ofText "in/bc.html".toList ∈ paths ∧
        Path.ofText "in/a.html".toList ∉ paths ∧ Path.ofText "in/c.html".toList ∉ paths := by
  have hext : Glob.IsPlain "html".toList := by decide
  obtain ⟨-, hscan, -⟩ := @scan_exact [] (.ofText "in".toList) (.ofText "in/a.html".toList)
    "html".toList properNestedDisk hext (by decide) (by decide) (by decide)
  obtain ⟨outcome, d', hscan, hmakes, -, hfound⟩ :=
    hscan ["in".toList] (by decide +kernel) (by decide +kernel)
  obtain ⟨hthere, paths, hlists, rfl, hplain⟩ :=
    hfound (Disk.makeDirectories_succeeds_iff.mp (by decide +kernel))
  have hdot : Path.ofText "in/.html".toList ∈ paths :=
    hlists.child_mem_iff.mpr ⟨by decide, [], by decide +kernel⟩
  have hbc : Path.ofText "in/bc.html".toList ∈ paths :=
    hplain "bc.html".toList [] (by decide) (by decide +kernel)
  have ha : Path.ofText "in/a.html".toList ∉ paths := fun h => by
    obtain ⟨-, bytes, hfile⟩ := hlists.child_mem_iff.mp h
    have hnone : properNestedDisk.disk.at? ["a.html".toList, "in".toList] = none := by decide +kernel
    exact nomatch hnone.symm.trans hfile
  have hc : Path.ofText "in/c.html".toList ∉ paths := fun h => by
    obtain ⟨-, bytes, hfile⟩ := hlists.child_mem_iff.mp h
    have hdir : properNestedDisk.disk.at? ["c.html".toList, "in".toList] = some .directory := by
      decide +kernel
    exact nomatch hdir.symm.trans hfile
  rw [if_neg (List.ne_nil_of_mem hdot)] at hscan
  exact ⟨hext, paths, d', hscan, hmakes, hthere, hdot, hbc, ha, hc⟩

end

end TestScribe.Generate
