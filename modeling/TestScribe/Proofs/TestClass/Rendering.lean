import TestScribe.Proofs.Text.Pieces
import TestScribe.Proofs.Text.Replacing
import TestScribe.TestClass.Template

/-!
# The text of a class is its name and its statements

A class is made by replacing one placeholder after the other everywhere in the text, so what is
put in first is searched for the second placeholder. No placeholder can arise where the name
meets the text around it, since a blank stands before it and a line end after it, and neither is
in a placeholder; only a name that holds the second placeholder itself is expanded. What is put
in for that placeholder is not searched again. So the pieces stand one after the other as they
are (`render_eq`).

The name ends at the first line end after the head, and what stands before the tail is the body.
A body without statements is empty, and any other has the indent on each line, so the body of no
statement is not that of one empty statement (`readBody?_body`):

> `render_verbatim`: a class is its pieces, and if no name or statement has a line end, the name
> and the statements are read back from it.
-/

namespace TestScribe.ClassTemplate

/-! ## Writing -/

/-- A line end follows the name. -/
theorem exists_middle : ∃ rest, middle = '\n' :: rest := ⟨middle.tail, by decide +kernel⟩

section
variable {name : Text} {statements : List Text}

/-- The name takes its place and nothing else changes. -/
theorem replace_namePlace (name : Text) :
    Text.replace namePlace name acceptanceTest.text =
      head ++ (name ++ (middle ++ (codePlace ++ tail))) := by
  have htext : acceptanceTest.text = head ++ (namePlace ++ (middle ++ (codePlace ++ tail))) := by
    rw [acceptanceTest]
    simp only [List.append_assoc]
  have hrest : Text.replace namePlace name (middle ++ (codePlace ++ tail)) =
      middle ++ (codePlace ++ tail) :=
    Text.replace_of_not_mem (c := 'N') (by decide) (by decide +kernel) name
  have hplace : Text.replace namePlace name (namePlace ++ (middle ++ (codePlace ++ tail))) =
      name ++ (middle ++ (codePlace ++ tail)) :=
    (Text.replace_append name _).trans (congrArg (name ++ ·) hrest)
  rw [htext]
  exact (Text.replace_append_of_not_mem (by decide) _ name _).trans
    (congrArg (head ++ ·) hplace)

/-- The text between the places is passed over: it has no `C`, and its last character is a line
end, so no place for statements stands in it or begins there. -/
theorem replace_codePlace_middle (code s : Text) :
    Text.replace codePlace code (middle ++ s) = middle ++ Text.replace codePlace code s := by
  have hlines : middle = middle.dropLast ++ ['\n'] := by decide +kernel
  have hC : 'C' ∉ middle.dropLast := by decide +kernel
  have hpassed : Text.replace codePlace code (middle.dropLast ++ '\n' :: s) =
      middle.dropLast ++ Text.replace codePlace code ('\n' :: s) :=
    Text.replace_over (p := "\x7btest".toList) hC (by decide) code s
  rw [hlines, List.append_assoc, List.append_assoc]
  exact hpassed.trans
    (congrArg (middle.dropLast ++ ·) (Text.replace_cons_of_ne (by decide) _ code s))

/-- The pieces of a class stand one after the other. -/
theorem render_eq (h : ¬ codePlace <:+: name) (statements : List Text) :
    acceptanceTest.render name statements =
      head ++ (name ++ (middle ++ (acceptanceTest.body statements ++ tail))) := by
  let code := acceptanceTest.body statements
  -- A line end follows the name, so no place begins in the name and ends behind it.
  obtain ⟨rest, hmiddle⟩ := exists_middle
  have hname : ∀ s, Text.replace codePlace code (name ++ (middle ++ s)) =
      name ++ Text.replace codePlace code (middle ++ s) := by
    intro s
    have hcut := Text.replace_append_cons (d := '\x7b') (p := codePlace.tail) (c := '\n')
      (by decide) code (rest ++ s) name
    rw [hmiddle]
    exact hcut.trans (congrArg (· ++ _) (Text.replace_of_not_infix h code))
  have htail : Text.replace codePlace code (codePlace ++ tail) = code ++ tail := by
    have hend : Text.replace codePlace code tail = tail :=
      Text.replace_of_not_mem (c := 'C') (by decide) (by decide) code
    exact (Text.replace_append code tail).trans (congrArg (code ++ ·) hend)
  calc acceptanceTest.render name statements
      = Text.replace codePlace code (head ++ (name ++ (middle ++ (codePlace ++ tail)))) := by
        rw [render, replace_namePlace]
    _ = head ++ Text.replace codePlace code (name ++ (middle ++ (codePlace ++ tail))) :=
        Text.replace_append_of_not_mem (by decide) _ code _
    _ = head ++ (name ++ (middle ++ (code ++ tail))) := by
        rw [hname, replace_codePlace_middle, htail]

end

/-! ## Reading back -/

/-- The statements of a body: none of an empty body, and otherwise one on each line, behind the
indent. -/
def readBody? (body : Text) : Option (List Text) :=
  if body = [] then some []
  else (Text.splitAt '\n' body).mapM (Text.afterPrefix? acceptanceTest.indent)

/-- The name and the statements of a class, read from its text. -/
def read? (code : Text) : Option (Text × List Text) := do
  let rest ← Text.afterPrefix? head code
  let (name, _) ← Text.cutAt? '\n' rest
  let inside ← Text.afterPrefix? (name ++ middle) rest
  let body ← Text.beforeSuffix? tail inside
  let statements ← readBody? body
  return (name, statements)

section
variable {name : Text} {statements : List Text}

theorem mapM_afterPrefix?_map (indent : Text) (statements : List Text) :
    (statements.map (indent ++ ·)).mapM (Text.afterPrefix? indent) = some statements := by
  induction statements with
  | nil => rfl
  | cons s ss ih => rw [List.map_cons, List.mapM_cons, Text.afterPrefix?_append, ih]; rfl

/-- The body has a line for each statement, and only that of no statement is empty. -/
theorem readBody?_body (h : ∀ s ∈ statements, '\n' ∉ s) :
    readBody? (acceptanceTest.body statements) = some statements := by
  cases statements with
  | nil => rfl
  | cons s ss =>
    have hlines : ∀ l ∈ (s :: ss).map (acceptanceTest.indent ++ ·), '\n' ∉ l := by
      intro l hl
      obtain ⟨t, ht, rfl⟩ := List.mem_map.mp hl
      exact fun hmem => (List.mem_append.mp hmem).elim (by decide) (h t ht)
    have hsplit : Text.splitAt '\n' (acceptanceTest.body (s :: ss)) =
        (s :: ss).map (acceptanceTest.indent ++ ·) :=
      Text.splitAt_joinWith (List.cons_ne_nil _ _) hlines
    have hne : acceptanceTest.body (s :: ss) ≠ [] := by
      intro hnil
      rw [body, List.map_cons] at hnil
      cases ss <;> cases hnil
    rw [readBody?, if_neg hne, hsplit, mapM_afterPrefix?_map]

/-- The name and the statements are read back from a class. -/
theorem read?_render (hplace : ¬ codePlace <:+: name) (hname : '\n' ∉ name)
    (hstatements : ∀ s ∈ statements, '\n' ∉ s) :
    read? (acceptanceTest.render name statements) = some (name, statements) := by
  obtain ⟨rest, hmiddle⟩ := exists_middle
  have hcut : ∀ s, Text.cutAt? '\n' (name ++ (middle ++ s)) = some (name, rest ++ s) := by
    intro s
    rw [hmiddle]
    exact Text.cutAt?_append hname (rest ++ s)
  have hinside : ∀ s, Text.afterPrefix? (name ++ middle) (name ++ (middle ++ s)) = some s := by
    intro s
    rw [← List.append_assoc]
    exact Text.afterPrefix?_append _ s
  rw [read?, render_eq hplace, Text.afterPrefix?_append, Option.bind_eq_bind, Option.bind_some,
    hcut, Option.bind_eq_bind, Option.bind_some]
  dsimp only
  simp only [hinside, Option.bind_eq_bind, Option.bind_some, Text.beforeSuffix?_append,
    readBody?_body hstatements, Option.pure_def]

end

/-- A class whose name does not hold the place for statements is its pieces, one after the other
and each as it is. If there is no line end in the name and in the statements, both are read back
from the class, so no other name and statements of this kind give the same class. -/
theorem render_verbatim {name : Text} (hname : ¬ codePlace <:+: name) (statements : List Text) :
    acceptanceTest.text = head ++ namePlace ++ middle ++ codePlace ++ tail ∧
      acceptanceTest.render name statements =
        head ++ name ++ middle ++
          Text.joinWith ['\n'] (statements.map fun s => List.replicate 8 ' ' ++ s) ++ tail ∧
      ('\n' ∉ name → (∀ s ∈ statements, '\n' ∉ s) →
        read? (acceptanceTest.render name statements) = some (name, statements) ∧
        ∀ name' statements', ¬ codePlace <:+: name' → '\n' ∉ name' →
          (∀ s ∈ statements', '\n' ∉ s) →
          acceptanceTest.render name' statements' = acceptanceTest.render name statements →
            name' = name ∧ statements' = statements) := by
  refine ⟨rfl, ?_, fun hline hlines => ⟨read?_render hname hline hlines, ?_⟩⟩
  · rw [render_eq hname]
    simp only [List.append_assoc]
    rfl
  · intro name' statements' hname' hline' hlines' hsame
    have hread := read?_render hname' hline' hlines'
    rw [hsame, read?_render hname hline hlines] at hread
    obtain ⟨rfl, rfl⟩ := Prod.mk.inj (Option.some.inj hread)
    exact ⟨rfl, rfl⟩

/-- Places in the statements and the place of the name in the name are left as they are, and one
empty statement is told from none. -/
theorem render_verbatim_places :
    ¬ codePlace <:+: namePlace ∧
      read? (acceptanceTest.render namePlace [[], codePlace, namePlace]) =
        some (namePlace, [[], codePlace, namePlace]) ∧
      acceptanceTest.render namePlace [[]] ≠ acceptanceTest.render namePlace [] := by
  have hplace : ¬ codePlace <:+: namePlace := by decide +kernel
  have hline : '\n' ∉ namePlace := by decide +kernel
  have hlines : ∀ s ∈ [[], codePlace, namePlace], '\n' ∉ s := by decide +kernel
  have hread := (render_verbatim hplace [[], codePlace, namePlace]).2.2 hline hlines
  have hempty := (render_verbatim hplace []).2.2 hline nofun
  refine ⟨hplace, hread.1, fun hsame => ?_⟩
  have hone : ∀ s ∈ [([] : Text)], '\n' ∉ s := by simp
  cases (hempty.2 namePlace [[]] hplace hline hone hsame).2

end TestScribe.ClassTemplate
