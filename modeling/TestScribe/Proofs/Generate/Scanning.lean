import TestScribe.Generate.Scan
import TestScribe.Proofs.Disk.Directories

/-!
# What a scan has made sure of

When a scan gives documents, each of them is a file on the disk that the run begins with,
so it can be read there, and its path has no NUL (`hasNul_of_scan`). The output directory
has been made, so its path has none either (`hasNul_output_of_scan`).
-/

namespace TestScribe

section
variable {α ε : Type} {f g : α → Except ε Bool}

/-- What has been gathered before stays behind what is gathered. -/
theorem filterAuxM_eq (f : α → Except ε Bool) (xs : List α) : ∀ acc,
    List.filterAuxM f xs acc = (List.filterAuxM f xs []).map (· ++ acc) := by
  induction xs with
  | nil => exact fun _ => rfl
  | cons x xs ih =>
    intro acc
    rw [List.filterAuxM, List.filterAuxM]
    cases f x with
    | error e => rfl
    | ok b =>
      show List.filterAuxM f xs (bif b then x :: acc else acc) =
        (List.filterAuxM f xs (bif b then [x] else [])).map (· ++ acc)
      cases b with
      | false => exact ih acc
      | true =>
        rw [cond_true, cond_true, ih (x :: acc), ih [x]]
        cases List.filterAuxM f xs [] with
        | error e => rfl
        | ok ys => simp [Except.map]

/-- A question that can fail is asked about one element after the other. -/
theorem filterM_cons (f : α → Except ε Bool) (x : α) (xs : List α) :
    (x :: xs).filterM f =
      (f x).bind fun b => (xs.filterM f).map fun ys => bif b then x :: ys else ys := by
  rw [List.filterM, List.filterM, List.filterAuxM]
  cases f x with
  | error e => rfl
  | ok b =>
    show (List.filterAuxM f xs (bif b then [x] else [])).bind (fun ys => .ok ys.reverse) =
      ((List.filterAuxM f xs []).bind fun ys => .ok ys.reverse).map
        fun ys => bif b then x :: ys else ys
    cases b with
    | false =>
      rw [cond_false]
      cases List.filterAuxM f xs [] <;> rfl
    | true =>
      rw [cond_true, filterAuxM_eq]
      cases List.filterAuxM f xs [] with
      | error e => rfl
      | ok ys => simp [Except.map, Except.bind]

/-- What is kept has been asked about and answered with yes. -/
theorem of_mem_filterM {xs ys : List α} (h : xs.filterM f = .ok ys) :
    ∀ x ∈ ys, x ∈ xs ∧ f x = .ok true := by
  induction xs generalizing ys with
  | nil =>
    cases h
    exact fun x hx => absurd hx List.not_mem_nil
  | cons x xs ih =>
    rw [filterM_cons] at h
    cases hx : f x with
    | error e => rw [hx] at h; cases h
    | ok b =>
      cases hxs : xs.filterM f with
      | error e => rw [hx, hxs] at h; cases h
      | ok zs =>
        rw [hx, hxs] at h
        have hzs : ∀ z ∈ zs, z ∈ x :: xs ∧ f z = .ok true := fun z hz =>
          ⟨List.mem_cons_of_mem _ (ih hxs z hz).1, (ih hxs z hz).2⟩
        cases b with
        | false => exact (Except.ok.inj h) ▸ hzs
        | true =>
          rw [← Except.ok.inj h]
          exact List.forall_mem_cons.mpr ⟨⟨List.mem_cons_self, hx⟩, hzs⟩

/-- A question that does not fail keeps what it is answered with yes for. -/
theorem filterM_map_of_ok {β : Type} {g : β → α} {q : β → Bool} {xs : List β}
    (h : ∀ x ∈ xs, f (g x) = .ok (q x)) : (xs.map g).filterM f = .ok ((xs.filter q).map g) := by
  induction xs with
  | nil => rfl
  | cons x xs ih =>
    rw [List.map_cons, filterM_cons, h x List.mem_cons_self,
      ih fun y hy => h y (List.mem_cons_of_mem _ hy), List.filter_cons]
    cases q x <;> rfl

theorem filterM_congr {xs : List α} (h : ∀ x ∈ xs, f x = g x) : xs.filterM f = xs.filterM g := by
  induction xs with
  | nil => rfl
  | cons x xs ih =>
    rw [filterM_cons, filterM_cons, h x List.mem_cons_self,
      ih fun y hy => h y (List.mem_cons_of_mem _ hy)]

end

namespace Generate

section
variable {d d' : Disk} {here : Place} {input output : Path} {pattern : Text} {paths : List Path}

theorem isDirectory_of_prepareOutput (h : prepareOutput d here output = (d', none)) :
    d'.isDirectory here output = .ok true := by
  unfold prepareOutput at h
  split at h
  · cases h
  · split at h
    · rename_i hmade
      cases h
      exact Disk.isDirectory_of_makeDirectories hmade
    · cases h
    · cases h

theorem isDirectory_of_scan (h : scan d here input output pattern = (.ok paths, d')) :
    d.isDirectory here input = .ok true := by
  unfold scan at h
  split at h
  · cases h
  · cases h
  · assumption

/-- A scan that gives documents has made the output directory, and the documents are those
on the disk with that directory. -/
theorem of_scan_eq_ok (h : scan d here input output pattern = (.ok paths, d')) :
    prepareOutput d here output = (d', none) ∧ paths ≠ [] ∧
      findDocuments d' here input pattern = .ok paths := by
  unfold scan at h
  split at h
  · cases h
  · cases h
  · split at h
    · cases h
    · rename_i d₁ hout
      split at h
      · cases h
      · cases h
      · rename_i ps hne hfind
        cases h
        exact ⟨hout, hne, hfind⟩

theorem isFile_of_findDocuments (h : findDocuments d here input pattern = .ok paths) :
    ∀ path ∈ paths, d.isFile here path = .ok true := by
  unfold findDocuments at h
  split at h
  · cases h
  · split at h
    · cases h
    · split at h
      · cases h
      · rename_i files hfiles
        cases h
        intro path hp
        exact (of_mem_filterM hfiles path (List.mem_mergeSort.mp hp)).2

/-- The path of a document has no NUL. -/
theorem hasNul_of_scan (h : scan d here input output pattern = (.ok paths, d')) :
    ∀ path ∈ paths, path.hasNul = false := by
  intro path hp
  have hfile := isFile_of_findDocuments (of_scan_eq_ok h).2.2 path hp
  obtain ⟨bytes, hbytes⟩ := Disk.read_of_isFile hfile
  obtain ⟨place, hplace, -⟩ := Disk.read_eq_ok_iff.mp hbytes
  exact Disk.hasNul_eq_false_of_resolve hplace

/-- The path of the output directory has no NUL. -/
theorem hasNul_output_of_scan (h : scan d here input output pattern = (.ok paths, d')) :
    output.hasNul = false := by
  have hthere := isDirectory_of_prepareOutput (of_scan_eq_ok h).1
  obtain ⟨place, hplace, -⟩ := Disk.isDirectory_eq_true_iff.mp hthere
  exact Disk.hasNul_eq_false_of_resolve hplace

end

/-! ## Scans that succeed -/

/-- Files that are found in order are the documents. -/
theorem findDocuments_of_pairwise {d : Disk} {here : Place} {input : Path} {pattern : Text}
    {names : Glob.Pattern} {files : List Path} (hpattern : Glob.pattern pattern = .ok names)
    (hfound : Glob.find d here input names = .ok files)
    (hfiles : files.filterM (fun path => d.isFile here path) = .ok files)
    (hsorted : files.Pairwise fun p q => pathLe p q = true) :
    findDocuments d here input pattern = .ok files := by
  rw [findDocuments, hpattern]
  dsimp only
  rw [hfound]
  dsimp only
  rw [hfiles]
  dsimp only
  rw [List.mergeSort_of_pairwise hsorted]

/-- A scan succeeds with the documents that are found. -/
theorem scan_of_findDocuments {d d' : Disk} {here : Place} {input output : Path} {pattern : Text}
    {paths : List Path} (hinput : d.isDirectory here input = .ok true)
    (houtput : prepareOutput d here output = (d', none))
    (hfound : findDocuments d' here input pattern = .ok paths) (hne : paths ≠ []) :
    scan d here input output pattern = (.ok paths, d') := by
  rw [scan, hinput]
  dsimp only
  rw [houtput]
  dsimp only
  rw [hfound]
  cases paths with
  | nil => exact absurd rfl hne
  | cons p ps => rfl

end Generate
end TestScribe
