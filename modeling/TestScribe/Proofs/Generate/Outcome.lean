import TestScribe.Proofs.Action.Counting
import TestScribe.Proofs.Generate.Isolation
import TestScribe.Proofs.Generate.Plans
import TestScribe.Proofs.Recording.Navigation

/-!
# Everything that can become of a document

A document can have several things wrong with it: its name, its file, its address, its rows,
the place for its class. Whether each of them is wrong can be asked by itself, without knowing
how a document is generated. The order of the stages decides which one is reported, and
`Fault` says this order: a fault is something that is wrong while nothing before it is.

> `generateFile_classified`: a document that is legible fails exactly with its fault, and the
> disk stays as it was. A document without a fault is generated: the place for its class holds
> the code, no other place has changed, and the result counts the rows that perform something.
-/

namespace TestScribe.Generate

open Markup

/-- The file that a document is to become. -/
def outputOf (s : Settings) (path : Path) : Path := s.outputPath (s.className path.name)

/-- The document has a plain name. -/
def PlainlyNamed (s : Settings) (path : Path) : Prop :=
  TestClass.isFileName s.inputExtension path.name = true

section
variable (d : Disk) (here : Place) (s : Settings) (path : Path)

/-- There is a file to read. -/
def Readable : Prop := ∃ bytes, d.read here path = .ok bytes

/-- The document is read as this element. -/
def HasRoot (root : Element) : Prop :=
  ∃ bytes, d.read here path = .ok bytes ∧
    Recording.outline (Utf8.decodeReplacing bytes) = .ok root.rootOutline

/-- The first link in the head of the document has an address. -/
def Addressed : Prop := ∃ root, HasRoot d here path root ∧ root.address? ≠ none

/-- The first table of the document has rows. -/
def HasRows : Prop := ∃ root, HasRoot d here path root ∧ root.rows ≠ []

/-- The class can be written: its path leads to a place, and no directory is there. -/
def Writable : Prop :=
  ∃ place, d.resolve here (outputOf s path) = .ok place ∧ d.at? place ≠ some .directory

/-- What is wrong with a document, given that nothing that comes before is wrong. -/
inductive Fault : Failure → Prop
  | name : ¬ PlainlyNamed s path → Fault (.invalidName path.name)
  | reading : PlainlyNamed s path → ¬ Readable d here path → Fault (.unreadable path.toText)
  | address : PlainlyNamed s path → Readable d here path → ¬ Addressed d here path →
      Fault .noAddress
  | rows : PlainlyNamed s path → Readable d here path → Addressed d here path →
      ¬ HasRows d here path → Fault .noRows
  | writing : PlainlyNamed s path → Readable d here path → Addressed d here path →
      HasRows d here path → ¬ Writable d here s path → Fault (.unwritable (outputOf s path))

end

section
variable {d d' : Disk} {here : Place} {s : Settings} {path : Path} {root : Element}

/-! ## The parts of the document -/

/-- A document is read in one way, so the elements that it is read as have one outline. -/
theorem HasRoot.rootOutline_eq {other : Element} (h : HasRoot d here path root)
    (hother : HasRoot d here path other) : other.rootOutline = root.rootOutline := by
  obtain ⟨bytes, hbytes, hroot⟩ := h
  obtain ⟨bytes', hbytes', hroot'⟩ := hother
  obtain rfl : bytes' = bytes := Except.ok.inj (hbytes'.symm.trans hbytes)
  exact Except.ok.inj (hroot'.symm.trans hroot)

/-- They have the same address. -/
theorem HasRoot.addressed_iff (h : HasRoot d here path root) :
    Addressed d here path ↔ root.address? ≠ none := by
  refine ⟨?_, fun haddress => ⟨root, h, haddress⟩⟩
  rintro ⟨other, hother, haddress⟩
  rwa [← Recording.address?_rootOutline, ← h.rootOutline_eq hother,
    Recording.address?_rootOutline]

/-- They all have rows, or none of them has. -/
theorem HasRoot.hasRows_iff (h : HasRoot d here path root) :
    HasRows d here path ↔ root.rows ≠ [] := by
  refine ⟨?_, fun hrows => ⟨root, h, hrows⟩⟩
  rintro ⟨other, hother, hrows⟩ hnone
  have hmap : other.rows.map Outline.ofElement = root.rows.map Outline.ofElement := by
    rw [← Recording.rows_rootOutline, ← Recording.rows_rootOutline, h.rootOutline_eq hother]
  rw [hnone, List.map_nil, List.map_eq_nil_iff] at hmap
  exact hrows hmap

/-- A legible document that can be read is read as an element. -/
theorem exists_root_of_legible (hlegible : Legible d here s path) (hname : PlainlyNamed s path)
    (hread : Readable d here path) : ∃ root, HasRoot d here path root := by
  obtain ⟨bytes, hbytes⟩ := hread
  obtain ⟨o, ho⟩ := hlegible hname bytes hbytes
  obtain ⟨root, rfl⟩ := Recording.exists_root_of_outline ho
  exact ⟨root, bytes, hbytes, ho⟩

/-! ## The stages -/

theorem prepare_of_not_plainlyNamed (h : ¬ PlainlyNamed s path) :
    prepare d here s path = .error (.failure (.invalidName path.name)) := by
  have hname : checkName s.inputExtension path.name = .error (.invalidName path.name) := if_neg h
  rw [prepare, hname]

theorem prepare_of_not_readable (hname : PlainlyNamed s path) (hpath : path.hasNul = false)
    (h : ¬ Readable d here path) :
    prepare d here s path = .error (.failure (.unreadable path.toText)) := by
  have hcheck : checkName s.inputExtension path.name = .ok path.name := if_pos hname
  cases hread : d.read here path with
  | ok bytes => exact absurd ⟨bytes, hread⟩ h
  | error e =>
    rw [prepare, hcheck]
    dsimp only
    rw [readDocument_of_error hread, if_neg (by rw [hpath]; exact Bool.false_ne_true)]

/-- What a document that is read as an element is prepared as: nothing but its address and its
rows can be wrong. -/
theorem prepare_of_hasRoot (hname : PlainlyNamed s path) (h : HasRoot d here path root) :
    prepare d here s path =
      if root.address? = none then .error (.failure .noAddress)
      else if root.rows = [] then .error (.failure .noRows)
      else
        let rows := root.rows.map Outline.ofElement
        .ok (⟨outputOf s path, s.className path.name, rows.countP Action.performs⟩,
          ClassTemplate.acceptanceTest.render (s.className path.name) (Action.translate rows)) := by
  obtain ⟨bytes, hbytes, hroot⟩ := h
  have hcheck : checkName s.inputExtension path.name = .ok path.name := if_pos hname
  have hread : readDocument d here path path.toText = .ok (Utf8.decodeReplacing bytes) :=
    readDocument_eq_ok.mpr ⟨bytes, hbytes, rfl⟩
  rw [prepare, hcheck]
  dsimp only
  rw [hread]
  dsimp only
  rw [Recording.statements_of_outline hroot, Recording.address?_rootOutline,
    Recording.rows_rootOutline]
  by_cases haddress : root.address? = none
  · simp [haddress]
  · by_cases hrows : root.rows = []
    · simp [haddress, hrows]
    · simp [haddress, hrows, Action.countStatements_translate, outputOf]

/-! ## The outcome -/

/-- A document with a fault fails with it, and nothing is written. -/
theorem generateFile_of_fault (hpath : path.hasNul = false)
    (houtput : PlainlyNamed s path → (outputOf s path).hasNul = false)
    (hlegible : Legible d here s path) {f : Failure} (h : Fault d here s path f) :
    generateFile d here s path = (.error (.failure f), d) := by
  cases h with
  | name hname =>
    rw [generateFile, prepare_of_not_plainlyNamed hname]
  | reading hname hread =>
    rw [generateFile, prepare_of_not_readable hname hpath hread]
  | address hname hread haddress =>
    obtain ⟨root, hroot⟩ := exists_root_of_legible hlegible hname hread
    rw [hroot.addressed_iff, not_not] at haddress
    rw [generateFile, prepare_of_hasRoot hname hroot, if_pos haddress]
  | rows hname hread haddress hrows =>
    obtain ⟨root, hroot⟩ := exists_root_of_legible hlegible hname hread
    rw [hroot.addressed_iff] at haddress
    rw [hroot.hasRows_iff, not_not] at hrows
    rw [generateFile, prepare_of_hasRoot hname hroot, if_neg haddress, if_pos hrows]
  | writing hname hread haddress hrows hwrite =>
    obtain ⟨root, hroot⟩ := exists_root_of_legible hlegible hname hread
    rw [hroot.addressed_iff] at haddress
    rw [hroot.hasRows_iff] at hrows
    rw [generateFile, prepare_of_hasRoot hname hroot, if_neg haddress, if_neg hrows]
    dsimp only
    rw [writeClass_eq]
    cases hplace : d.resolve here (outputOf s path) with
    | error e =>
      dsimp only
      rw [if_neg (by rw [houtput hname]; exact Bool.false_ne_true)]
    | ok place =>
      have hdir : d.at? place = some .directory :=
        Classical.byContradiction fun hdir => hwrite ⟨place, hplace, hdir⟩
      dsimp only
      rw [if_pos hdir]

/-- A legible document without a fault is read as an element that has an address and rows, and
there is a place for its class. -/
theorem exists_of_no_fault (hlegible : Legible d here s path)
    (h : ∀ f, ¬ Fault d here s path f) : PlainlyNamed s path ∧
      (∃ root, HasRoot d here path root ∧ root.address? ≠ none ∧ root.rows ≠ []) ∧
      Writable d here s path := by
  have hname : PlainlyNamed s path := Classical.byContradiction fun hname => h _ (.name hname)
  have hread : Readable d here path :=
    Classical.byContradiction fun hread => h _ (.reading hname hread)
  have haddress : Addressed d here path :=
    Classical.byContradiction fun haddress => h _ (.address hname hread haddress)
  have hrows : HasRows d here path :=
    Classical.byContradiction fun hrows => h _ (.rows hname hread haddress hrows)
  have hwrite : Writable d here s path :=
    Classical.byContradiction fun hwrite => h _ (.writing hname hread haddress hrows hwrite)
  obtain ⟨root, hroot⟩ := exists_root_of_legible hlegible hname hread
  exact ⟨hname, ⟨root, hroot, hroot.addressed_iff.mp haddress, hroot.hasRows_iff.mp hrows⟩,
    hwrite⟩

/-- A document without a fault is generated. -/
theorem generateFile_of_no_fault (hlegible : Legible d here s path)
    (h : ∀ f, ¬ Fault d here s path f) : ∃ root place,
      HasRoot d here path root ∧ d.resolve here (outputOf s path) = .ok place ∧
      d.at? place ≠ some .directory ∧
      generateFile d here s path =
        (.ok ⟨outputOf s path, s.className path.name,
            (root.rows.map Outline.ofElement).countP Action.performs⟩,
          d.put place (.file (Utf8.encode (ClassTemplate.acceptanceTest.render
            (s.className path.name) (Action.translate (root.rows.map Outline.ofElement)))))) := by
  obtain ⟨hname, ⟨root, hroot, haddress, hrows⟩, place, hplace, hdir⟩ :=
    exists_of_no_fault hlegible h
  refine ⟨root, place, hroot, hplace, hdir, ?_⟩
  rw [generateFile, prepare_of_hasRoot hname hroot, if_neg haddress, if_neg hrows]
  dsimp only
  rw [writeClass_eq, hplace]
  dsimp only
  rw [if_neg hdir]

end

/-- A legible document fails exactly with its fault, and then the disk is as it was. Without a
fault it is generated: its path reads as the code from then on, every other place is as it
was, and the result says how many rows perform something. -/
theorem generateFile_classified {d : Disk} {here : Place} {s : Settings} {path : Path}
    (hpath : path.hasNul = false) (houtput : s.output.hasNul = false)
    (hsuffix : '\x00' ∉ s.classSuffix) (hext : '\x00' ∉ s.outputExtension)
    (hlegible : Legible d here s path) :
    (∀ f d', generateFile d here s path = (.error (.failure f), d') ↔
        Fault d here s path f ∧ d' = d) ∧
      (∀ b d', generateFile d here s path ≠ (.error (.breakdown b), d')) ∧
      ((∀ f, ¬ Fault d here s path f) → ∃ root place d', HasRoot d here path root ∧
        d.resolve here (outputOf s path) = .ok place ∧
        generateFile d here s path =
          (.ok ⟨outputOf s path, s.className path.name,
            (root.rows.map Outline.ofElement).countP Action.performs⟩, d') ∧
        d'.read here (outputOf s path) = .ok (Utf8.encode (ClassTemplate.acceptanceTest.render
          (s.className path.name) (Action.translate (root.rows.map Outline.ofElement)))) ∧
        ∀ q, q ≠ place → d'.at? q = d.at? q) := by
  have hnul : PlainlyNamed s path → (outputOf s path).hasNul = false :=
    Settings.hasNul_outputPath houtput hsuffix hext
  refine ⟨fun f d' => ⟨fun h => ?_, ?_⟩, fun b d' h => ?_, fun h => ?_⟩
  · -- Without any fault the document would have been generated.
    by_cases hsome : ∃ f', Fault d here s path f'
    · obtain ⟨f', hf'⟩ := hsome
      have hgen := generateFile_of_fault hpath hnul hlegible hf'
      rw [h] at hgen
      obtain ⟨hf, rfl⟩ := Prod.mk.inj hgen
      cases hf
      exact ⟨hf', rfl⟩
    · obtain ⟨root, place, -, -, -, hgen⟩ :=
        generateFile_of_no_fault hlegible (not_exists.mp hsome)
      rw [h] at hgen
      cases hgen
  · rintro ⟨hf, rfl⟩
    exact generateFile_of_fault hpath hnul hlegible hf
  · exact (legible_iff d here hpath hnul).mp hlegible b (congrArg Prod.fst h)
  · obtain ⟨root, place, hroot, hplace, hdir, hgen⟩ := generateFile_of_no_fault hlegible h
    refine ⟨root, place, _, hroot, hplace, hgen, ?_, fun q hq => ?_⟩
    · exact Disk.read_write_same (Disk.write_eq_ok_iff.mpr ⟨place, hplace, hdir, rfl⟩)
    · rw [Disk.at?_put _ _ _ _ (Disk.ne_root_of_not_directory hdir), if_neg hq]

/-- The empty one of two documents. -/
def emptyPath : Path := .ofText "in/bad.html".toList

/-- An empty document has no address, no rows and, before there is an output directory, no
place for its class. It fails for its address. -/
theorem generateFile_empty_document :
    emptyPath.hasNul = false ∧ plainSettings.output.hasNul = false ∧
      '\x00' ∉ plainSettings.classSuffix ∧ '\x00' ∉ plainSettings.outputExtension ∧
      Legible (pairDisk [] idleDocument) [] plainSettings emptyPath ∧
      ¬ HasRows (pairDisk [] idleDocument) [] emptyPath ∧
      ¬ Writable (pairDisk [] idleDocument) [] plainSettings emptyPath ∧
      generateFile (pairDisk [] idleDocument) [] plainSettings emptyPath =
        (.error (.failure .noAddress), pairDisk [] idleDocument) := by
  have hname : PlainlyNamed plainSettings emptyPath := by
    unfold PlainlyNamed
    decide +kernel
  have hread : (pairDisk [] idleDocument).read [] emptyPath = .ok [] := rfl
  have hparts : (Recording.outline (Utf8.decodeReplacing [])).map
      (fun o => (Recording.address? o, (Recording.rows o).length)) = .ok (none, 0) := by
    decide +kernel
  obtain ⟨o, houtline, hnothing⟩ : ∃ o, Recording.outline (Utf8.decodeReplacing []) = .ok o ∧
      (Recording.address? o, (Recording.rows o).length) = (none, 0) := by
    cases ho : Recording.outline (Utf8.decodeReplacing []) with
    | error r =>
      rw [ho] at hparts
      cases hparts
    | ok o =>
      rw [ho] at hparts
      exact ⟨o, rfl, Except.ok.inj hparts⟩
  obtain ⟨hnone, hzero⟩ := Prod.mk.inj hnothing
  obtain ⟨root, rfl⟩ := Recording.exists_root_of_outline houtline
  have hroot : HasRoot (pairDisk [] idleDocument) [] emptyPath root := ⟨[], hread, houtline⟩
  have hlegible : Legible (pairDisk [] idleDocument) [] plainSettings emptyPath := by
    intro _ bytes hbytes
    obtain rfl : [] = bytes := Except.ok.inj (hread.symm.trans hbytes)
    exact ⟨_, houtline⟩
  rw [Recording.address?_rootOutline] at hnone
  rw [Recording.rows_rootOutline, List.length_map, List.length_eq_zero_iff] at hzero
  have haddress : ¬ Addressed (pairDisk [] idleDocument) [] emptyPath :=
    fun h => hroot.addressed_iff.mp h hnone
  have hrows : ¬ HasRows (pairDisk [] idleDocument) [] emptyPath :=
    fun h => hroot.hasRows_iff.mp h hzero
  have hwrite : ¬ Writable (pairDisk [] idleDocument) [] plainSettings emptyPath := by
    have hmissing : (pairDisk [] idleDocument).resolve [] (outputOf plainSettings emptyPath) =
        .error .missing := by decide +kernel
    rintro ⟨place, hplace, -⟩
    rw [hmissing] at hplace
    cases hplace
  have hfault : Fault (pairDisk [] idleDocument) [] plainSettings emptyPath .noAddress :=
    .address hname ⟨[], hread⟩ haddress
  exact ⟨rfl, rfl, by decide, by decide, hlegible, hrows, hwrite,
    ((generateFile_classified rfl rfl (by decide) (by decide) hlegible).1 _ _).mpr
      ⟨hfault, rfl⟩⟩

end TestScribe.Generate
