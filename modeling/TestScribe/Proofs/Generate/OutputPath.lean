import TestScribe.Generate.File
import TestScribe.Proofs.TestClass.Naming
import TestScribe.Proofs.Text.Pieces

/-!
# Where the file of a class goes

The path of a generated file is the output directory, then what the name of the class and
the extension say. The name of the class begins with the camel case of a document's stem,
which holds no slash, so the first name that it adds to the directory begins with that
camel case (`outputPath_eq`). Two things follow. The path has no NUL where the directory,
the suffix and the extension have none, and it tells the camel cases of two stems apart:

> `outputPath_eq_iff`: two documents go to one path exactly if their stems have the same
> camel case.
-/

namespace TestScribe

/-! ## Paths -/

namespace Path

/-- A written path that begins with a letter begins in the current directory, and its
first name begins with that letter. -/
theorem ofText_append {c : Char} {x : Text} (hc : Markup.isLetter c = true) (hx : '/' ∉ c :: x)
    (r : Text) : ∃ piece pieces, Text.splitAt '/' r = piece :: pieces ∧
      ofText (c :: x ++ r) = ⟨.here, (c :: x ++ piece) :: pieces.filter fun n => !isIdle n⟩ := by
  obtain ⟨piece, pieces, hr, hxr⟩ := Text.splitAt_append hx r
  refine ⟨piece, pieces, hr, ?_⟩
  have hslash : c ≠ '/' := fun h => hx (h ▸ List.mem_cons_self)
  have hanchor : anchorOf (c :: x ++ r) = .here := by
    rw [List.cons_append, anchorOf]
    all_goals exact fun _ h => absurd (List.cons.inj h).1 hslash
  have hidle : isIdle (c :: x ++ piece) = false := by
    have hpoint : c ≠ '.' := by
      rintro rfl
      revert hc
      decide
    simp [isIdle, hpoint]
  rw [ofText, hanchor, namesOf, hxr, List.filter_cons, if_pos (by rw [hidle]; rfl)]

theorem hasNul_join {p q : Path} (hp : p.hasNul = false) (hq : q.hasNul = false) :
    (p.join q).hasNul = false := by
  unfold join
  split
  · rw [hasNul, List.any_append]
    exact Bool.or_eq_false_iff.mpr ⟨hp, hq⟩
  · exact hq

theorem hasNul_ofText {s : Text} (h : '\x00' ∉ s) : (ofText s).hasNul = false := by
  rw [hasNul, List.any_eq_false]
  intro n hn
  have hn' : n ∈ Text.splitAt '/' s := (List.mem_filter.mp hn).1
  simp only [List.contains_eq_mem, decide_eq_true_eq]
  exact fun hc => h (Text.mem_of_mem_splitAt n hn' _ hc)

end Path

/-! ## The paths of classes -/

namespace Generate.Settings

open TestClass

theorem not_mem_of_all_isWordChar {c : Char} (hc : isWordChar c = false) {s : Text}
    (h : s.all isWordChar = true) : c ∉ s := by
  intro hm
  have := List.all_eq_true.mp h c hm
  rw [hc] at this
  cases this

/-- What the suffix of the classes and the extension of their files add to the first name
and after it. -/
theorem outputPath_eq (s : Settings) : ∃ piece pieces, ∀ name : Text,
    isFileName s.inputExtension name = true →
      s.outputPath (s.className name) = { s.output with
        names := s.output.names ++
          (camelCase (stem s.inputExtension name) ++ piece) :: pieces } := by
  -- The pieces come from what follows the stem, so they are the same for every name.
  obtain ⟨piece, pieces, hsplit⟩ :
      ∃ piece pieces, Text.splitAt '/' (s.classSuffix ++ '.' :: s.outputExtension) =
        piece :: pieces := by
    cases h : Text.splitAt '/' (s.classSuffix ++ '.' :: s.outputExtension) with
    | nil => exact absurd h (Text.splitAt_ne_nil _ _)
    | cons piece pieces => exact ⟨piece, pieces, rfl⟩
  refine ⟨piece, pieces.filter fun n => !Path.isIdle n, fun name hname => ?_⟩
  obtain ⟨d, ds, hcamel, hletter, hall, hclass⟩ :=
    className_of_isFileName s.classSuffix hname
  have hslash : '/' ∉ d :: ds := not_mem_of_all_isWordChar (by decide) hall
  obtain ⟨piece', pieces', hsplit', hpath⟩ :=
    Path.ofText_append hletter hslash (s.classSuffix ++ '.' :: s.outputExtension)
  obtain ⟨rfl, rfl⟩ := List.cons.inj (hsplit.symm.trans hsplit')
  rw [outputPath, className, hclass, List.append_assoc, hpath, hcamel]
  rfl

/-- Without a slash in the suffix and the extension, the file of a class is in the output
directory. -/
theorem outputPath_eq_child {s : Settings} {name : Text} (hsuffix : '/' ∉ s.classSuffix)
    (hext : '/' ∉ s.outputExtension) (h : isFileName s.inputExtension name = true) :
    s.outputPath (s.className name) =
      s.output.child (s.className name ++ '.' :: s.outputExtension) := by
  obtain ⟨d, ds, -, hletter, hall, hclass⟩ := className_of_isFileName s.classSuffix h
  have hslash : '/' ∉ d :: ds := not_mem_of_all_isWordChar (by decide) hall
  have hrest : '/' ∉ s.classSuffix ++ '.' :: s.outputExtension := by
    simp [hsuffix, hext]
  obtain ⟨piece, pieces, hsplit, hpath⟩ :=
    Path.ofText_append hletter hslash (s.classSuffix ++ '.' :: s.outputExtension)
  rw [Text.splitAt_of_not_mem hrest] at hsplit
  obtain ⟨rfl, rfl⟩ := List.cons.inj hsplit
  rw [outputPath, className, hclass, List.append_assoc, hpath]
  rfl

/-- Two documents go to one path exactly if their stems have the same camel case. -/
theorem outputPath_eq_iff {s : Settings} {name name' : Text}
    (h : isFileName s.inputExtension name = true)
    (h' : isFileName s.inputExtension name' = true) :
    s.outputPath (s.className name) = s.outputPath (s.className name') ↔
      camelCase (stem s.inputExtension name) = camelCase (stem s.inputExtension name') := by
  obtain ⟨piece, pieces, hpath⟩ := s.outputPath_eq
  rw [hpath name h, hpath name' h']
  simp

/-- The path of a class has no NUL where the directory, the suffix and the extension have
none. -/
theorem hasNul_outputPath {s : Settings} {name : Text} (hout : s.output.hasNul = false)
    (hsuffix : '\x00' ∉ s.classSuffix) (hext : '\x00' ∉ s.outputExtension)
    (h : isFileName s.inputExtension name = true) :
    (s.outputPath (s.className name)).hasNul = false := by
  obtain ⟨d, ds, -, -, hall, hclass⟩ := className_of_isFileName s.classSuffix h
  have hword : '\x00' ∉ d :: ds := not_mem_of_all_isWordChar (by decide) hall
  refine Path.hasNul_join hout (Path.hasNul_ofText ?_)
  rw [className, hclass, List.mem_append, List.mem_append]
  rintro ((hc | hc) | hc)
  · exact hword hc
  · exact hsuffix hc
  · rcases List.mem_cons.mp hc with hc | hc
    · cases hc
    · exact hext hc

end Generate.Settings
end TestScribe
