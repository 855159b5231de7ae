import TestScribe.Generate.File
import TestScribe.Proofs.Recording.Document

/-!
# A recording comes back

A recorded document is translated exactly as its rows say, whatever their cells hold: the
markup characters of a cell are recorded as references, everything beyond ASCII is made a
reference on the way, the written form between the two rounds has references of its own,
and line breaks are replaced in it as a text.

> `statements_recording`: the statements of a recorded document are the translation of its
> rows, where the text of a cell is its lines joined by the token for a line break.

Nothing here looks at characters any more. The trees of the document are sound, so their
outline is that of the digested trees, and the paths to the address and to the rows lead
through these as through the trees that were recorded.
-/

namespace TestScribe.Recording

open Markup

/-! ## Soundness -/

/-- A tag with attributes of these names can be written plainly. -/
def isSoundTag (name : Text) (keys : List Text) : Bool :=
  isName name && !rawElements.contains name && keys.all isName && decide keys.Nodup

section
variable {name : Text} (keys : List Text) {as : Attributes} {children ts : List Tree}

theorem sound_tag (htag : isSoundTag name keys = true) (hkeys : as.keys = keys)
    (hvoid : voidElements.contains name = true → children = []) (hchildren : Sound children)
    (hs : Sound ts) : Sound (.element name as children :: ts) := by
  simp only [isSoundTag, Bool.and_eq_true, Bool.not_eq_true', decide_eq_true_eq] at htag
  obtain ⟨⟨⟨hname, hraw⟩, hnames⟩, hnodup⟩ := htag
  refine .element hname hraw (fun a ha => ?_) (hkeys ▸ hnodup) hvoid hchildren hs
  have hkey : a.1 ∈ keys := hkeys ▸ List.mem_map.mpr ⟨a, ha, rfl⟩
  exact List.all_eq_true.mp hnames _ hkey

/-- An element of a name that can have content is sound when its contents are. -/
theorem sound_opened (htag : isSoundTag name keys = true) (hkeys : as.keys = keys)
    (hopen : voidElements.contains name = false) (hchildren : Sound children) (hs : Sound ts) :
    Sound (.element name as children :: ts) := by
  refine sound_tag keys htag hkeys (fun hvoid => ?_) hchildren hs
  rw [hopen] at hvoid
  cases hvoid

theorem sound_empty (htag : isSoundTag name keys = true) (hkeys : as.keys = keys)
    (hs : Sound ts) : Sound (.element name as [] :: ts) :=
  sound_tag keys htag hkeys (fun _ => rfl) .nil hs

theorem sound_flatMap {α : Type} {f : α → List Tree} (h : ∀ a, Sound (f a)) (l : List α) :
    Sound (l.flatMap f) := by
  induction l with
  | nil => exact .nil
  | cons a l ih =>
    rw [List.flatMap_cons]
    exact (h a).append ih

end

theorem Cell.sound_trees (c : Cell) : Sound c.trees :=
  .text (sound_flatMap (fun _ => sound_empty [] (by decide) rfl (.text .nil)) _)

theorem Row.sound_trees (r : Row) : Sound r.trees := by
  refine Sound.append (sound_flatMap (fun c => ?_) _) (.text .nil)
  exact .text (sound_opened [] (by decide) rfl (by decide) c.sound_trees .nil)

theorem Heading.sound_trees (h : Heading) : Sound h.trees := by
  have htitle : Sound [.element "title".toList [] [.text h.title], lineEnd] :=
    sound_opened [] (by decide) rfl (by decide) (.text .nil) (.text .nil)
  have hlink : Sound (.element "link".toList (linkElement h).attributes [] :: lineEnd :: _) :=
    sound_empty ["rel".toList, "href".toList] (by decide) rfl (.text htitle)
  exact .text (sound_empty ["http-equiv".toList, "content".toList] (by decide) rfl (.text hlink))

theorem sound_rowTrees (rows : List Row) : Sound (rowTrees rows) := by
  refine Sound.append (sound_flatMap (fun r => ?_) _) (.text .nil)
  exact .text (sound_opened [] (by decide) rfl (by decide) r.sound_trees .nil)

theorem sound_tableTrees (title : Text) (rows : List Row) : Sound (tableTrees title rows) := by
  have hbody : Sound [.element "tbody".toList [] (rowTrees rows)] :=
    sound_opened [] (by decide) rfl (by decide) (sound_rowTrees rows) .nil
  have hcell : Sound [.element "td".toList [("rowspan".toList, ['1']), ("colspan".toList, ['3'])]
      [.text title]] :=
    sound_opened ["rowspan".toList, "colspan".toList] (by decide) rfl (by decide) (.text .nil) .nil
  have hrow : Sound [.element "tr".toList [] _, lineEnd] :=
    sound_opened [] (by decide) rfl (by decide) hcell (.text .nil)
  exact .text (sound_opened [] (by decide) rfl (by decide) (.text hrow) hbody)

theorem sound_page (h : Heading) (rows : List Row) : Sound (page h rows) := by
  have htable : Sound (bodyTrees h.title rows) := .text
    (sound_opened ["cellpadding".toList, "cellspacing".toList, "border".toList] (by decide) rfl
      (by decide) (sound_tableTrees h.title rows) (.text .nil))
  have hbody : Sound [.element "body".toList [] (bodyTrees h.title rows), lineEnd] :=
    sound_opened [] (by decide) rfl (by decide) htable (.text .nil)
  have hhead : Sound (.element "head".toList [("profile".toList, h.profile)] h.trees ::
      lineEnd :: _) :=
    sound_opened ["profile".toList] (by decide) rfl (by decide) h.sound_trees (.text hbody)
  show Sound [.element rootName (rootElement h rows).attributes (rootElement h rows).children,
    lineEnd]
  exact sound_opened ["xmlns".toList, "xml:lang".toList, "lang".toList] (by decide) rfl (by decide)
    (.text hhead) (.text .nil)

/-! ## Finding the rows -/

/-- The part of the table that holds the rows. -/
def bodyElement (rows : List Row) : Element := ⟨"tbody".toList, [], rowTrees rows⟩

theorem walk_rowsPath (h : Heading) (rows : List Row) :
    (rootElement h rows).walk rowsPath = some (bodyElement rows) := rfl

theorem walk_addressPath (h : Heading) (rows : List Row) :
    (rootElement h rows).walk addressPath = some (linkElement h) := rfl

theorem childrenNamed_bodyElement (rows : List Row) :
    (bodyElement rows).childrenNamed "tr".toList = rows.map Row.element := by
  have helements : elementsOf (rowTrees rows) = rows.map Row.element := by
    rw [rowTrees, elementsOf_append]
    induction rows with
    | nil => rfl
    | cons r rs ih =>
      rw [List.flatMap_cons, elementsOf_append, List.append_assoc, ih]
      rfl
  rw [Element.childrenNamed, bodyElement, helements, List.filter_eq_self]
  intro e he
  obtain ⟨r, -, rfl⟩ := List.mem_map.mp he
  exact decide_eq_true rfl

/-! ## The round trip -/

/-- The link keeps its address through both rounds. -/
theorem address_linkElement (h : Heading) :
    ((Outline.ofElement (digestedElement false (linkElement h))).attribute?
      "href".toList).isSome = true := by
  have hkey : "href".toList ∈
      (digestedElement false (linkElement h)).attributes.keys := by
    refine (keys_restatedAttributes _ _).mem_iff.mpr ?_
    rw [keys_arriveAttributes]
    show "href".toList ∈ ["rel".toList, "href".toList]
    decide
  rw [Outline.attribute?_ofElement]
  · exact Dictionary.isSome_get? hkey
  · intro hnone
    rw [hnone] at hkey
    cases hkey

/-- What is read of a recorded document: it has an address, and its rows are the recorded
ones, digested. -/
theorem outline_recording (h : Heading) {rows : List Row} (hrows : rows ≠ []) :
    ∃ o, outline (recording h rows) = .ok o ∧ (address? o).isSome = true ∧
      Recording.rows o = rows.map fun r => Outline.ofElement (digestedElement false r.element) := by
  have hroot : elementsOf (page h rows) = [rootElement h rows] := rfl
  obtain ⟨o, ho, hwalk⟩ := walk_outline_recorded (sound_page h rows) hroot rfl
  refine ⟨o, ?_, ?_, ?_⟩
  · rw [recording_eq h hrows]
    exact ho
  · rw [address?, addressPath, hwalk _ _ (by decide), ← addressPath, walk_addressPath]
    exact address_linkElement h
  · have hbody : isPlainName (bodyElement rows).name = true := by
      show isPlainName "tbody".toList = true
      decide
    rw [Recording.rows, rowsPath, hwalk _ _ (by decide), ← rowsPath, walk_rowsPath]
    show (Outline.ofElement (digestedElement false (bodyElement rows))).children _ = _
    rw [Outline.children_ofElement, childrenNamed_digestedElement hbody (by decide),
      childrenNamed_bodyElement, List.map_map, List.map_map]
    rfl

/-- The statements of a recorded document are the translation of its rows, where the text of
a cell is its lines joined by the token for a line break. -/
theorem statements_recording (h : Heading) {rows : List Row} (hrows : rows ≠ []) :
    Generate.statements (recording h rows) =
      .ok (Action.translate (rows.map Row.outline)) := by
  obtain ⟨o, ho, haddress, hread⟩ := outline_recording h hrows
  obtain ⟨address, haddress⟩ := Option.isSome_iff_exists.mp haddress
  -- The outlines of the rows are richer than those of the statement, but not for this.
  have htranslate : Action.translate (Recording.rows o) =
      Action.translate (rows.map Row.outline) := by
    rw [hread, Action.translate, Action.translate, List.flatMap_map, List.flatMap_map]
    exact congrArg rows.flatMap (funext rowLines_row)
  have hne : Recording.rows o ≠ [] := by
    rw [hread]
    exact fun hnil => hrows (List.map_eq_nil_iff.mp hnil)
  rw [Generate.statements, ho]
  dsimp only
  rw [haddress, ← htranslate]
  dsimp only
  cases hcases : Recording.rows o with
  | nil => exact absurd hcases hne
  | cons r rs => rfl

/-- A cell of one line. -/
def Cell.ofLine (l : Line) : Cell := ⟨l, []⟩

/-- A row whose last cell holds nothing but what looks like markup. -/
def markupRow : Row where
  command := .ofLine ⟨"type".toList, by decide, .inr (by decide)⟩
  target := .ofLine ⟨"id=q".toList, by decide, .inr (by decide)⟩
  value := ⟨⟨"<br/>".toList, by decide, .inr (by decide)⟩,
    [⟨"&#233;".toList, by decide, .inr (by decide)⟩]⟩

/-- The heading of a recorded login. -/
def loginHeading : Heading where
  space := "http://www.w3.org/1999/xhtml".toList
  language := "en".toList
  profile := "http://selenium-ide.openqa.org/profiles/test-case".toList
  encoding := "text/html; charset=UTF-8".toList
  address := "http://shop.example.com/".toList
  title := "LoginTest".toList

theorem statements_recording_markup : [markupRow] ≠ [] ∧
    Generate.statements (recording loginHeading [markupRow]) =
      .ok ["$I->fillField('#q', '<br/>\\n&#233;');".toList] := by
  have hrows : [markupRow] ≠ [] := List.cons_ne_nil _ _
  have htranslate : Action.translate ([markupRow].map Row.outline) =
      ["$I->fillField('#q', '<br/>\\n&#233;');".toList] := by decide +kernel
  refine ⟨hrows, ?_⟩
  rw [statements_recording loginHeading hrows, htranslate]

end TestScribe.Recording
