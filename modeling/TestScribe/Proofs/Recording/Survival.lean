import TestScribe.Proofs.Recording.Cells
import TestScribe.Proofs.Recording.Places
import TestScribe.Proofs.Recording.RoundTrip

/-!
# What survives reading

A text goes through several hands before it is in the outline: characters beyond ASCII become
decimal numbers, the numbers are read as characters, the tree is written down again and read
once more. Only one of these steps touches a character. In reading a number, 0x80 to 0x9F are
taken for positions of the Windows-1252 page, although they were made from the control
characters with these numbers. Five of the 32 are open on that page and stand for themselves;
the others come back as letters, quotation marks and the like (`isRemapped`).

> `cell_text_survives_iff`: a cell with a text in it, anywhere in a recorded document, is in
> the outline as a text, and this is the text of the cell exactly if none of its characters is
> remapped.

A euro sign in place of U+0080 is the first example (`cell_text_remapped`).
-/

namespace TestScribe.Recording

open Markup Reference

/-! ## Characters -/

/-- The numbers that the Windows-1252 page leaves open. -/
def openPositions : List Nat := [0x81, 0x8D, 0x8F, 0x90, 0x9D]

/-- A control character whose number is read as another character. -/
def isRemapped (c : Char) : Bool :=
  0x80 ≤ c.toNat && c.toNat < 0xA0 && !openPositions.contains c.toNat

/-- Read as a number, a control character is remapped or stays, and it can be seen then. -/
theorem ofNumber_control : ∀ n < 0xA0, 0x80 ≤ n →
    (ofNumber n = Char.ofNat n ↔ isRemapped (Char.ofNat n) = false) ∧
      isBlank (ofNumber n) = false := by
  decide +kernel

theorem range_of_not_isLineChar {c : Char} (hmark : c ≠ '\uFEFF')
    (h : isLineChar c = false) : 0x80 ≤ c.toNat ∧ c.toNat < 0xA0 := by
  rw [isLineChar, Bool.and_eq_false_iff] at h
  rcases h with h | h
  · exact absurd hmark (of_decide_eq_false h)
  · rw [Bool.not_eq_false', Bool.and_eq_true] at h
    exact ⟨of_decide_eq_true h.1, of_decide_eq_true h.2⟩

theorem arriveChar_eq_self_iff {c : Char} (hmark : c ≠ '\uFEFF') :
    arriveChar c = c ↔ isRemapped c = false := by
  cases hline : isLineChar c with
  | true =>
    have hpage : isRemapped c = false := by
      rw [isLineChar, Bool.and_eq_true, Bool.not_eq_true'] at hline
      rw [isRemapped, hline.2]
      rfl
    exact iff_of_true (arriveChar_of_isLineChar hline) hpage
  | false =>
    obtain ⟨hlow, hhigh⟩ := range_of_not_isLineChar hmark hline
    have hcontrol := (ofNumber_control c.toNat hhigh hlow).1
    rw [Char.ofNat_toNat] at hcontrol
    rw [arriveChar, if_neg (Nat.not_lt.mpr hlow), hcontrol]

/-- What can be seen can be seen when it arrives. -/
theorem isBlank_arriveChar {c : Char} (hmark : c ≠ '\uFEFF') (h : isBlank c = false) :
    isBlank (arriveChar c) = false := by
  cases hline : isLineChar c with
  | true => rw [arriveChar_of_isLineChar hline, h]
  | false =>
    obtain ⟨hlow, hhigh⟩ := range_of_not_isLineChar hmark hline
    rw [arriveChar, if_neg (Nat.not_lt.mpr hlow)]
    exact (ofNumber_control c.toNat hhigh hlow).2

/-! ## Texts -/

section
variable {s : Text}

/-- A text arrives as it is exactly if none of its characters is remapped. -/
theorem map_arriveChar_eq_self_iff (hmark : '\uFEFF' ∉ s) :
    s.map arriveChar = s ↔ s.any isRemapped = false := by
  have hself : s.map arriveChar = s ↔ ∀ c ∈ s, arriveChar c = id c := by
    rw [← List.map_inj_left, List.map_id]
  rw [hself, List.any_eq_false]
  refine forall₂_congr fun c hc => ?_
  rw [Bool.not_eq_true]
  exact arriveChar_eq_self_iff fun he => hmark (he ▸ hc)

theorem blank_map_arriveChar (hmark : '\uFEFF' ∉ s) (h : Text.blank s = false) :
    Text.blank (s.map arriveChar) = false := by
  obtain ⟨c, hc, hseen⟩ := List.all_eq_false.mp h
  refine List.all_eq_false.mpr ⟨arriveChar c, List.mem_map_of_mem hc, ?_⟩
  rw [isBlank_arriveChar (fun he => hmark (he ▸ hc)) (Bool.eq_false_iff.mpr hseen)]
  exact Bool.false_ne_true

/-- A text that can be seen ends as it is, whether spacing is kept or not. -/
theorem ended_of_seen (keep : Bool) (h : Text.blank s = false) : ended keep s = [.text s] := by
  have hne : s ≠ [] := by
    rintro rfl
    cases h
  rw [ended, if_neg hne, condense_of_visible h, ite_self]

/-- After both rounds an element with a text in it has this text as it arrives. -/
theorem digested_text (keep : Bool) (hmark : '\uFEFF' ∉ s) (h : Text.blank s = false) :
    digested keep [.text s] = [.text (s.map arriveChar)] := by
  have harrived := blank_map_arriveChar hmark h
  have hfirst : firstRound keep [.text s] = [.text (s.map arriveChar)] := by
    rw [firstRound, arrived_text, arriveText_eq_map hmark, settled, List.nil_append, arrived,
      rework, settled, ended_of_seen keep harrived]
  have hbreaks : ∀ t : Text, breaksAsText [.text t] = [.text t] := fun t => by
    rw [breaksAsText, breaksAsText]
  rw [digested, hfirst, hbreaks, secondRound, restated_text, settled, List.nil_append, restated,
    rework, settled, ended_of_seen keep harrived]

end

/-! ## Cells -/

/-- The name of a cell. -/
def cellName : Text := "td".toList

/-- A cell with a text in it. -/
def textCell (s : Text) : Element := ⟨cellName, [], [.text s]⟩

/-- The outline of a cell with a text in it, after both rounds. -/
theorem ofElement_textCell {s : Text} (keep : Bool) (hmark : '\uFEFF' ∉ s)
    (h : Text.blank s = false) : Outline.ofElement (digestedElement keep (textCell s)) =
      .text cellName (s.map arriveChar) := by
  have hattributes : restatedAttributes cellName (arriveAttributes cellName []) = [] :=
    restatedAttributes_eq_nil_iff.mpr rfl
  rw [digestedElement, textCell]
  dsimp only
  rw [hattributes, digested_text _ hmark h, Outline.ofElement_text _ (blank_map_arriveChar hmark h)]

/-- A cell with a text in it is in the outline as this text, character by character as it
arrives. -/
theorem at?_outline_textCell {ts : List Tree} (hts : Sound ts) {opening : Text}
    (hopening : IsOpening opening) {path : List (Text × Nat)} {s : Text}
    (hcell : (rootOf ts).at? path = some (textCell s)) (hmark : '\uFEFF' ∉ s)
    (hseen : Text.blank s = false) :
    ∃ o, outline (opening ++ record ts) = .ok o ∧
      o.at? path = some (.text cellName (s.map arriveChar)) := by
  have hbreak : (textCell s).name ≠ breakName := by
    show cellName ≠ breakName
    decide
  cases path with
  | nil =>
    -- The root is no cell.
    have hname : (rootOf ts).name = cellName := congrArg Element.name (Option.some.inj hcell)
    exact absurd ((name_rootOf ts).symm.trans hname) (by decide)
  | cons step path =>
    obtain ⟨o, keep, ho, hplace⟩ := at?_outline_recorded hts hopening hcell hbreak
    exact ⟨o, ho, hplace.trans (congrArg some (ofElement_textCell keep hmark hseen))⟩

/-- A cell with a text in it, wherever it is in a recorded document, is in the outline as a
text. This is the text of the cell exactly if none of its characters is remapped; otherwise the
remapped ones have given way to characters of the Windows-1252 page. -/
theorem cell_text_survives_iff {ts : List Tree} (hts : Sound ts) {opening : Text}
    (hopening : IsOpening opening) {path : List (Text × Nat)} {s : Text}
    (hcell : (rootOf ts).at? path = some ⟨"td".toList, [], [.text s]⟩) (hmark : '\uFEFF' ∉ s)
    (hseen : Text.blank s = false) :
    ∃ o, outline (opening ++ record ts) = .ok o ∧
      o.at? path = some (.text "td".toList (s.map arriveChar)) ∧
      (o.at? path = some (.text "td".toList s) ↔ s.any isRemapped = false) := by
  obtain ⟨o, ho, hplace⟩ := at?_outline_textCell hts hopening hcell hmark hseen
  refine ⟨o, ho, hplace, ?_⟩
  rw [hplace, ← map_arriveChar_eq_self_iff hmark]
  constructor
  · intro h
    exact (Outline.text.inj (Option.some.inj h)).2
  · intro h
    rw [h]
    rfl

/-! ## A page with one cell -/

/-- A page whose table has one cell. -/
def cellPage (s : Text) : List Tree :=
  [.element "html".toList [] [.element "body".toList [] [.element "table".toList []
    [.element "tbody".toList [] [.element "tr".toList [] [(textCell s).tree]]]]]]

/-- The place of the cell. -/
def cellPath : List (Text × Nat) :=
  ["body", "table", "tbody", "tr", "td"].map fun name => (name.toList, 0)

theorem sound_cellPage (s : Text) : Sound (cellPage s) := by
  have hopened : ∀ {name : Text} {children : List Tree}, isSoundTag name [] = true →
      voidElements.contains name = false → Sound children →
      Sound [.element name [] children] :=
    fun htag hopen hchildren => sound_opened [] htag rfl hopen hchildren .nil
  have hcell : Sound [.element cellName [] [.text s]] :=
    hopened (by decide) (by decide) (.text .nil)
  have hrow := hopened (by decide : isSoundTag "tr".toList [] = true) (by decide) hcell
  have hbody := hopened (by decide : isSoundTag "tbody".toList [] = true) (by decide) hrow
  have htable := hopened (by decide : isSoundTag "table".toList [] = true) (by decide) hbody
  exact hopened (by decide) (by decide) (hopened (by decide) (by decide) htable)

/-- The page as it is recorded. -/
theorem record_cellPage (s : Text) : record (cellPage s) =
    "<html><body><table><tbody><tr><td>".toList ++
      (escape s ++ "</td></tr></tbody></table></body></html>".toList) := by
  have hopened : ∀ {name : Text} (children : List Tree), voidElements.contains name = false →
      record [.element name [] children] =
        '<' :: (name ++ '>' :: (record children ++ '<' :: '/' :: (name ++ ['>']))) := by
    intro name children hopen
    rw [record_element _ _ _ hopen, record_nil]
    rfl
  have hcell : voidElements.contains cellName = false := by decide
  rw [cellPage, hopened _ (by decide), hopened _ (by decide), hopened _ (by decide),
    hopened _ (by decide), hopened _ (by decide), textCell, Element.tree, hopened _ hcell,
    record_text, record_nil, List.append_nil]
  simp [cellName]

theorem at?_cellPage (s : Text) : (rootOf (cellPage s)).at? cellPath = some (textCell s) := rfl

/-- A text of letters and signs that is no control character survives. -/
theorem cell_text_survives_letters :
    Sound (cellPage "é日😀".toList) ∧ IsOpening [] ∧
      (rootOf (cellPage "é日😀".toList)).at? cellPath =
        some ⟨"td".toList, [], [.text "é日😀".toList]⟩ ∧
      '\uFEFF' ∉ "é日😀".toList ∧ Text.blank "é日😀".toList = false ∧
      ∃ o, outline (record (cellPage "é日😀".toList)) = .ok o ∧
        o.at? cellPath = some (.text "td".toList "é日😀".toList) := by
  have hmark : '\uFEFF' ∉ "é日😀".toList := by decide
  have hseen : Text.blank "é日😀".toList = false := by decide
  obtain ⟨o, ho, -, hcell⟩ := cell_text_survives_iff (sound_cellPage "é日😀".toList) (.inl rfl)
    (at?_cellPage _) hmark hseen
  exact ⟨sound_cellPage _, .inl rfl, at?_cellPage _, hmark, hseen, o, ho, hcell.mpr (by decide)⟩

/-- The control character U+0080 comes back as a euro sign. -/
theorem cell_text_remapped :
    Sound (cellPage ['\u0080']) ∧
      record (cellPage ['\u0080']) = "<html><body><table><tbody><tr>".toList ++
        "<td>\u0080</td></tr></tbody></table></body></html>".toList ∧
      (rootOf (cellPage ['\u0080'])).at? cellPath =
        some ⟨"td".toList, [], [.text ['\u0080']]⟩ ∧
      '\uFEFF' ∉ ['\u0080'] ∧ Text.blank ['\u0080'] = false ∧
      ∃ o, outline (record (cellPage ['\u0080'])) = .ok o ∧
        o.at? cellPath = some (.text "td".toList ['€']) ∧
        o.at? cellPath ≠ some (.text "td".toList ['\u0080']) := by
  have hmark : '\uFEFF' ∉ ['\u0080'] := by decide
  have hseen : Text.blank ['\u0080'] = false := by decide
  have hrecord : record (cellPage ['\u0080']) = "<html><body><table><tbody><tr>".toList ++
      "<td>\u0080</td></tr></tbody></table></body></html>".toList := by
    rw [record_cellPage]
    decide
  have heuro : ['\u0080'].map arriveChar = ['€'] := by decide
  obtain ⟨o, ho, hcell⟩ := at?_outline_textCell (sound_cellPage ['\u0080']) (.inl rfl)
    (at?_cellPage _) hmark hseen
  rw [heuro] at hcell
  refine ⟨sound_cellPage _, hrecord, at?_cellPage _, hmark, hseen, o, ho, hcell, ?_⟩
  rw [hcell]
  intro h
  have htext : ['€'] = ['\u0080'] := (Outline.text.inj (Option.some.inj h)).2
  revert htext
  decide

end TestScribe.Recording
