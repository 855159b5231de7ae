import TestScribe.Proofs.Disk.Directories
import TestScribe.Proofs.Disk.Files
import TestScribe.Proofs.Generate.OutputPath
import TestScribe.Proofs.Generate.Steps

/-!
# Names that cannot lead astray

The name of a document comes from outside, and it decides how a class is called and where the
class is written. Three pieces of code have to agree for this to be safe: the check of the
name, the removal of the extension, and the camel case. The check leaves a stem of letters,
digits and underscores with a letter in front; the extension is whatever follows the stem's
first point, so it can hold points itself; and the camel case turns the first letter into a
capital and drops the underscores (`camelCase_of_stem`).

> `naming_safe`: a name that is accepted has one stem, without a character that means
> something elsewhere, and the class is called after it. With a plain suffix the class has the
> name of an identifier. Without slashes in the settings its file is a child of the output
> directory, so on every disk this is the only place that can change.

What a suffix or an extension with a slash does is up to whoever chose it.
-/

namespace TestScribe

namespace TestClass

/-- A letter, a digit or an underscore. -/
def isIdentifierChar (c : Char) : Bool := c.isAlphanum || c == '_'

/-- A name that can be given to a class, as far as its characters go: letters, digits,
underscores and whatever is not ASCII, without a digit in front. -/
def isIdentifier : Text → Bool
  | [] => false
  | c :: cs => !c.isDigit && (c :: cs).all fun c => isIdentifierChar c || 0x80 ≤ c.toNat

/-! ## The characters of a stem -/

/-- What holds of every ASCII character holds of those that can be in a word. -/
theorem of_isWordChar {P : Char → Prop} (h : ∀ n < 128, P (Char.ofNat n)) {c : Char}
    (hc : isWordChar c = true) : P c := by
  have hp := h c.toNat (toNat_lt_of_isWordChar hc)
  rwa [Char.ofNat_toNat] at hp

theorem isAlphanum_of_isWordChar {c : Char} (h : isWordChar c = true) : c.isAlphanum = true :=
  of_isWordChar (P := fun c => isWordChar c = true → c.isAlphanum = true) (by decide +kernel) h h

/-- A letter has a capital. -/
theorem exists_upperCase_of_isLetter {c : Char} (hc : Markup.isLetter c = true) :
    ∃ d ds, upperCase c = d :: ds ∧ d.isUpper = true := by
  have hhead : (upperCase c).head?.any Char.isUpper = true :=
    of_isWordChar
      (P := fun c => Markup.isLetter c = true → (upperCase c).head?.any Char.isUpper = true)
      (by decide +kernel) (isWordChar_of_isLetter hc) hc
  cases hu : upperCase c with
  | nil =>
    rw [hu] at hhead
    cases hhead
  | cons d ds =>
    rw [hu] at hhead
    exact ⟨d, ds, rfl, hhead⟩

/-- The camel case of a stem begins with a capital, and letters and digits follow. -/
theorem camelCase_of_stem {c : Char} {cs : Text} (hc : Markup.isLetter c = true)
    (hcs : cs.all isFileNameChar = true) :
    ∃ d ds, camelCase (c :: cs) = d :: ds ∧ d.isUpper = true ∧
      ds.all Char.isAlphanum = true := by
  obtain ⟨d, ds, hcamel, -, hall⟩ := camelCase_stem hc hcs
  refine ⟨d, ds, hcamel, ?_, ?_⟩
  · obtain ⟨rest, hrest⟩ := camelCase_cons_of_not_break (not_break_of_isLetter hc) cs
    obtain ⟨e, es, hupper, hcapital⟩ := exists_upperCase_of_isLetter hc
    rw [hrest, hupper, List.cons_append] at hcamel
    obtain ⟨rfl, -⟩ := List.cons.inj hcamel
    exact hcapital
  · rw [List.all_eq_true] at hall ⊢
    exact fun e he => isAlphanum_of_isWordChar (hall e (List.mem_cons_of_mem _ he))

/-- A capital and then letters, digits and underscores are an identifier. -/
theorem isIdentifier_cons {d : Char} {ds : Text} (hd : d.isUpper = true)
    (hds : ds.all isIdentifierChar = true) : isIdentifier (d :: ds) = true := by
  have hdigit : d.isDigit = false := by
    rw [Bool.eq_false_iff]
    intro hdigit
    have hlow : 'A'.val ≤ d.val := (of_decide_eq_true hd).1
    have hhigh : d.val ≤ '9'.val := of_decide_eq_true (Bool.and_eq_true_iff.mp hdigit).2
    exact absurd (Nat.le_trans hlow hhigh) (by decide)
  have hletter : d.isAlphanum = true := by
    show ((d.isUpper || d.isLower) || d.isDigit) = true
    rw [hd]
    rfl
  have hrest : ∀ c ∈ ds, (isIdentifierChar c || decide (0x80 ≤ c.toNat)) = true := by
    intro c hc
    rw [List.all_eq_true.mp hds c hc]
    rfl
  rw [isIdentifier, hdigit, List.all_cons, isIdentifierChar, hletter, List.all_eq_true.mpr hrest]
  rfl

/-- The characters that mean something in a path, between words, or to a disk. -/
def tellingChars : Text := ['.', '/', '-', ' ', '\x00']

theorem not_mem_of_all_isFileNameChar {x : Text} (hx : x.all isFileNameChar = true) :
    ∀ c ∈ tellingChars, c ∉ x := by
  have htelling : tellingChars.all (fun c => !isFileNameChar c) = true := by decide
  intro c hc hmem
  have hother := List.all_eq_true.mp htelling c hc
  rw [List.all_eq_true.mp hx c hmem] at hother
  cases hother

end TestClass

open TestClass

namespace Path

/-- A name that is one step down from a directory: no step up, no step that says nothing, and
not several steps. -/
def IsStepDown (name : Text) : Prop :=
  name ≠ aboveName ∧ isIdle name = false ∧ '/' ∉ name

theorem isStepDown_cons {c : Char} {cs : Text} (hc : c.isUpper = true) (hcs : '/' ∉ cs) :
    IsStepDown (c :: cs) := by
  have hpoint : c ≠ '.' := by
    rintro rfl
    cases hc
  have hslash : '/' ≠ c := by
    rintro rfl
    cases hc
  refine ⟨fun h => hpoint (List.cons.inj h).1, ?_, ?_⟩
  · simp [isIdle, hpoint]
  · rw [List.mem_cons]
    exact not_or.mpr ⟨hslash, hcs⟩

end Path

namespace Generate

/-- Generating a file changes the place that the path of the class leads to, if anything. -/
theorem at?_of_generateFile {d d' : Disk} {here : Place} {s : Settings} {path : Path}
    {r : Except Stop Generated} (h : generateFile d here s path = (r, d')) :
    d' = d ∨ ∃ place, d.resolve here (s.outputPath (s.className path.name)) = .ok place ∧
      ∀ q, q ≠ place → d'.at? q = d.at? q := by
  cases r with
  | error stop => exact .inl (generateFile_eq_error h).1
  | ok g =>
    obtain ⟨code, hprepare, hwrite⟩ := generateFile_eq_ok.mp h
    obtain ⟨-, _, _, -, -, rfl, -⟩ := prepare_eq_ok.mp hprepare
    obtain ⟨place, hplace, hdir, rfl⟩ := Disk.write_eq_ok_iff.mp hwrite
    refine .inr ⟨place, hplace, fun q hq => ?_⟩
    rw [Disk.at?_put _ _ _ _ (Disk.ne_root_of_not_directory hdir), if_neg hq]

/-- Where the file of a class is a child of the output directory, its place there is all that
can change. -/
theorem at?_of_generateFile_child {d d' : Disk} {here : Place} {s : Settings} {path : Path}
    {r : Except Stop Generated} {file : Text} (hfile : Path.IsStepDown file)
    (hpath : s.outputPath (s.className path.name) = s.output.child file)
    (h : generateFile d here s path = (r, d')) :
    d' = d ∨ ∃ q, d.resolve here s.output = .ok q ∧ d.at? q = some .directory ∧
      ∀ p, p ≠ file :: q → d'.at? p = d.at? p := by
  rcases at?_of_generateFile h with hsame | ⟨place, hplace, hother⟩
  · exact .inl hsame
  · rw [hpath] at hplace
    obtain ⟨q, hq, hdir, rfl⟩ := Disk.exists_directory_of_child hplace
    rw [if_neg hfile.1] at hother
    exact .inr ⟨q, hq, hdir, hother⟩

/-- An accepted name has exactly one stem before its extension, and the stem holds nothing
that could be mistaken. The class is called after the stem, in letters and digits with a
capital in front, and with a plain suffix this is an identifier. Unless the settings bring in a
slash, the file of the class is a child of the output directory, and whatever happens there
happens nowhere else. -/
theorem naming_safe {extension name : Text} (h : isFileName extension name = true) :
    ∃ x, name = x ++ '.' :: extension ∧ (∀ y, name = y ++ '.' :: extension → y = x) ∧
      (∀ c ∈ tellingChars, c ∉ x) ∧
      (∃ c cs, camelCase x = c :: cs ∧ c.isUpper = true ∧ cs.all Char.isAlphanum = true) ∧
      (∀ suffix, className extension suffix name = camelCase x ++ suffix ∧
        (suffix.all isIdentifierChar = true →
          isIdentifier (className extension suffix name) = true)) ∧
      ∀ s : Settings, s.inputExtension = extension → '/' ∉ s.classSuffix →
        '/' ∉ s.outputExtension → ∃ file, file = s.className name ++ '.' :: s.outputExtension ∧
          Path.IsStepDown file ∧ s.outputPath (s.className name) = s.output.child file ∧
          ∀ d here path r d', path.name = name → generateFile d here s path = (r, d') →
            d' = d ∨ ∃ q, d.resolve here s.output = .ok q ∧ d.at? q = some .directory ∧
              ∀ p, p ≠ file :: q → d'.at? p = d.at? p := by
  obtain ⟨a, as, hname, hstem, hletter, has⟩ := exists_stem h
  obtain ⟨c, cs, hcamel, hcapital, hcs⟩ := camelCase_of_stem hletter has
  have hclass : ∀ suffix, className extension suffix name = c :: cs ++ suffix := by
    intro suffix
    rw [className, hstem, hcamel]
  have hplain : (a :: as).all isFileNameChar = true := by
    rw [List.all_cons, has, isFileNameChar, hletter]
    rfl
  refine ⟨a :: as, hname, ?_, not_mem_of_all_isFileNameChar hplain, ⟨c, cs, hcamel, hcapital, hcs⟩,
    fun suffix => ⟨by rw [hclass, hcamel], fun hsuffix => ?_⟩, ?_⟩
  · intro y hy
    exact List.append_cancel_right (hy.symm.trans hname)
  · rw [hclass]
    refine isIdentifier_cons hcapital ?_
    rw [List.append_eq, List.all_append, hsuffix, Bool.and_true, List.all_eq_true]
    intro e he
    rw [isIdentifierChar, List.all_eq_true.mp hcs e he]
    rfl
  · rintro s rfl hsuffix hext
    have hpath := Settings.outputPath_eq_child hsuffix hext h
    have hfile : Path.IsStepDown (s.className name ++ '.' :: s.outputExtension) := by
      rw [Settings.className, hclass]
      refine Path.isStepDown_cons hcapital ?_
      simp only [List.append_eq, List.mem_append, List.mem_cons, not_or]
      refine ⟨⟨fun hslash => ?_, hsuffix⟩, by decide, hext⟩
      cases List.all_eq_true.mp hcs _ hslash
    refine ⟨_, rfl, hfile, hpath, ?_⟩
    rintro d here path r d' rfl hgen
    exact at?_of_generateFile_child hfile hpath hgen

/-- An extension can hold points of its own. -/
theorem naming_safe_pointed_extension :
    isFileName "tar.x".toList "login_test.tar.x".toList = true ∧
      isIdentifier (className "tar.x".toList "_Cest".toList "login_test.tar.x".toList) = true := by
  have hname : isFileName "tar.x".toList "login_test.tar.x".toList = true := by decide
  obtain ⟨x, -, -, -, -, hclass, -⟩ := naming_safe hname
  exact ⟨hname, (hclass "_Cest".toList).2 (by decide)⟩

end Generate
end TestScribe
