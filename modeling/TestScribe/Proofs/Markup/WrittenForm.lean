import TestScribe.Markup.Written
import TestScribe.Proofs.Markup.Growth
import TestScribe.Proofs.Markup.Spelling
import TestScribe.Proofs.Text.Replacing

/-!
# Reading the written form back

The written form of a sound tree spells the tokens of that tree, save that attributes stand
in the order of their names and a `meta` element states another encoding (`restated`). So
it is read back as that tree, settled:

> `read_writeDocument`: reading what was written gives the restated tree, settled.

Text is escaped character by character, and whichever quotation marks a value is put in, it
is resolved again.
-/

namespace TestScribe.Markup

open Reference

/-! ## Text -/

/-- In front of any document, the piece stands for the characters of the text. -/
def SpellsText (piece text : Text) : Prop :=
  ∀ s ts, Spells s ts → Spells (piece ++ s) (text.map (fun c => .text [c]) ++ ts)

theorem SpellsText.nil : SpellsText [] [] := fun _ _ h => h

theorem SpellsText.append {p q s t : Text} (hp : SpellsText p s) (hq : SpellsText q t) :
    SpellsText (p ++ q) (s ++ t) := by
  intro u ts h
  rw [List.append_assoc, List.map_append, List.append_assoc]
  exact hp _ _ (hq u ts h)

theorem SpellsText.char {piece : Text} {c : Char} (h : SpellsChar piece c) :
    SpellsText piece [c] := fun _ _ hs => .char h hs

/-- Pieces for the characters of a text make up a piece for the text. -/
theorem SpellsText.flatMap {piece text : Char → Text} (h : ∀ c, SpellsText (piece c) (text c))
    (s : Text) : SpellsText (s.flatMap piece) (s.flatMap text) := by
  induction s with
  | nil => exact SpellsText.nil
  | cons c s ih =>
    rw [List.flatMap_cons, List.flatMap_cons]
    exact SpellsText.append (h c) ih

theorem spellsChar_escapeChar (c : Char) : SpellsChar (escapeChar c) c := by
  unfold escapeChar
  split
  · rename_i h
    rw [h]
    exact .named (d := 'a') (by decide) (by decide) CharacterName.lookup_amp
  · split
    · rename_i h
      rw [h]
      exact .named (d := 'l') (by decide) (by decide) CharacterName.lookup_lt
    · split
      · rename_i h
        rw [h]
        exact .named (d := 'g') (by decide) (by decide) CharacterName.lookup_gt
      · rename_i hamp hless hmore
        refine .plain ?_
        simp [isPlain, hamp, hless]

/-- An escaped text stands for itself. -/
theorem spellsText_escape (s : Text) : SpellsText (escape s) s := by
  have h := SpellsText.flatMap (fun c => SpellsText.char (spellsChar_escapeChar c)) s
  rwa [List.flatMap_singleton'] at h

/-! ## Values -/

theorem yields_escape (s : Text) : Yields (escape s) s := by
  have h := Yields.flatMap yields_escapeChar s
  rwa [List.flatMap_singleton'] at h

/-- A character of a value in double quotation marks. -/
def escapeValueChar (c : Char) : Text := if c = '"' then "&quot;".toList else escapeChar c

/-- A value between double quotation marks, with its markup characters and double quotation
marks as references. -/
def escapeValue (s : Text) : Text := s.flatMap escapeValueChar

theorem yields_escapeValueChar (c : Char) : Yields (escapeValueChar c) [c] := by
  unfold escapeValueChar
  split
  · rename_i h
    rw [h]
    exact yields_quot
  · exact yields_escapeChar c

theorem yields_escapeValue (s : Text) : Yields (escapeValue s) s := by
  have h := Yields.flatMap yields_escapeValueChar s
  rwa [List.flatMap_singleton'] at h

/-- An escaped character is no quotation mark unless it was one. -/
theorem quot_not_mem_escapeChar {c : Char} (hc : c ≠ '"') : '"' ∉ escapeChar c := by
  unfold escapeChar
  split
  · decide
  · split
    · decide
    · split
      · decide
      · exact fun h => hc (List.mem_singleton.mp h).symm

theorem not_mem_escapeValue (s : Text) : '"' ∉ escapeValue s := by
  intro hmem
  obtain ⟨c, hc, hdc⟩ := List.mem_flatMap.mp hmem
  unfold escapeValueChar at hdc
  split at hdc
  · revert hdc
    decide
  · exact quot_not_mem_escapeChar ‹_› hdc

theorem replace_quot_escape (s : Text) :
    Text.replace ['"'] "&quot;".toList (escape s) = escapeValue s := by
  have hchar : ∀ c, (escapeChar c).flatMap (fun d => if d = '"' then "&quot;".toList else [d]) =
      escapeValueChar c := by
    intro c
    unfold escapeValueChar escapeChar
    by_cases hquot : c = '"'
    · rw [hquot]
      rfl
    · rw [if_neg hquot]
      split
      · rfl
      · split
        · rfl
        · split
          · rfl
          · rw [List.flatMap_singleton, if_neg hquot]
  rw [Text.replace_singleton, escape, List.flatMap_assoc, escapeValue]
  exact congrArg s.flatMap (funext hchar)

/-- A written attribute is read as itself. -/
theorem spellsAttribute_write {a : Text × Text} (ha : IsAttributeName a.1) :
    SpellsAttribute (writeAttribute a) a := by
  unfold writeAttribute quote
  -- Double marks around the value, unless it holds some and no single ones.
  by_cases hdouble : (escape a.2).contains '"' = true
  · rw [if_pos hdouble]
    by_cases hsingle : (escape a.2).contains '\'' = true
    · rw [if_pos hsingle, replace_quot_escape]
      exact .intro ha (by decide) (not_mem_escapeValue a.2)
        (resolve?_of_yields (yields_escapeValue a.2))
    · rw [if_neg hsingle]
      refine .intro ha (by decide) ?_ (resolve?_of_yields (yields_escape a.2))
      rwa [List.contains_eq_mem, decide_eq_true_eq] at hsingle
  · rw [if_neg hdouble]
    refine .intro ha (by decide) ?_ (resolve?_of_yields (yields_escape a.2))
    rwa [List.contains_eq_mem, decide_eq_true_eq] at hdouble

/-- Attributes written one after the other are read as they are. -/
theorem spellsAttributes_flatMap {write : Text × Text → Text} {read : Text × Text → Text × Text}
    {as : Attributes} (h : ∀ a ∈ as, SpellsAttribute (write a) (read a)) :
    SpellsAttributes (as.flatMap write) (as.map read) := by
  induction as with
  | nil => exact .nil
  | cons a as ih =>
    rw [List.flatMap_cons, List.map_cons]
    exact .cons (h a List.mem_cons_self) (ih fun b hb => h b (List.mem_cons_of_mem _ hb))

/-! ## Tags -/

/-- The attributes as the written form has them: in the order of their names, and with the
encoding that it states. -/
def restatedAttributes (name : Text) (as : Attributes) : Attributes :=
  (writtenAttributes name as).mergeSort fun a b => Text.le a.1 b.1

/-- Stating the encoding changes no name. -/
theorem keys_writtenAttributes (name : Text) (as : Attributes) :
    (writtenAttributes name as).keys = as.keys := by
  have hmap : ∀ (f : Text × Text → Text) (key : Text),
      Dictionary.keys (as.map fun a => if a.1 = key then (a.1, f a) else a) = as.keys := by
    intro f key
    rw [Dictionary.keys, Dictionary.keys, List.map_map]
    refine List.map_congr_left fun a _ => ?_
    by_cases ha : a.1 = key
    · rw [Function.comp_apply, if_pos ha]
    · rw [Function.comp_apply, if_neg ha]
  unfold writtenAttributes
  split
  · split
    · exact hmap (fun _ => statedEncoding) _
    · split
      · exact hmap (fun a => restateCharset true a.2) _
      · rfl
  · rfl

theorem keys_restatedAttributes (name : Text) (as : Attributes) :
    (restatedAttributes name as).keys.Perm as.keys := by
  rw [← keys_writtenAttributes name as]
  exact (List.mergeSort_perm _ _).map _

theorem restatedAttributes_eq_nil_iff {name : Text} {as : Attributes} :
    restatedAttributes name as = [] ↔ as = [] := by
  have hlength := (keys_restatedAttributes name as).length_eq
  rw [Dictionary.keys, Dictionary.keys, List.length_map, List.length_map] at hlength
  rw [← List.length_eq_zero_iff, hlength, List.length_eq_zero_iff]

theorem spellsAttributes_write {as : Attributes} (name : Text)
    (hnames : ∀ a ∈ as, IsAttributeName a.1) :
    SpellsAttributes (writeAttributes name as) (restatedAttributes name as) := by
  have hread : ∀ a ∈ restatedAttributes name as, SpellsAttribute (writeAttribute a) (id a) := by
    intro a ha
    refine spellsAttribute_write ?_
    have hkey : a.1 ∈ as.keys :=
      (keys_restatedAttributes name as).mem_iff.mp (List.mem_map.mpr ⟨a, ha, rfl⟩)
    obtain ⟨b, hb, hba⟩ := List.mem_map.mp hkey
    exact hba ▸ hnames b hb
  have h := spellsAttributes_flatMap hread
  rwa [List.map_id] at h

/-! ## Trees -/

/-- Writes trees plainly, given how texts and the attributes of elements are written and
what ends the tag of an element that can have no content. -/
def writeWith (text : Text → Text) (attributes : Text → Attributes → Text) (close : Text) :
    List Tree → Text
  | [] => []
  | .text s :: ts => text s ++ writeWith text attributes close ts
  | .special kind s :: ts => writeSpecial kind s ++ writeWith text attributes close ts
  | .element name as children :: ts =>
    '<' :: (name ++ (attributes name as ++
      if voidElements.contains name then close
      else '>' :: (writeWith text attributes close children ++ '<' :: '/' :: (name ++ ['>'])))) ++
      writeWith text attributes close ts

/-- The written form of sound trees is such a form. -/
theorem writeDocument_eq_writeWith {ts : List Tree} (h : Sound ts) :
    writeDocument ts = writeWith escape writeAttributes "/>".toList ts := by
  unfold writeDocument
  induction h with
  | nil =>
    rw [writeWith]
    rfl
  | @text s ts hs ih =>
    rw [writeWith, ← ih]
    rfl
  | @element name as children ts hname hraw hnames hkeys hvoid hchildren hs ihc ih =>
    rw [writeWith, ← ihc, ← ih, Tree.write.go, Tree.write]
    by_cases hv : voidElements.contains name = true
    · rw [hvoid hv, if_pos hv, if_pos (by rw [hv]; rfl)]
      simp
    · rw [if_neg hv, if_neg (by rw [Bool.and_eq_true]; exact fun h => hv h.2), hraw]
      simp

/-- In front of any document, the piece stands for the trees. -/
def SpellsTrees (piece : Text) (ts : List Tree) : Prop :=
  ∀ s us, Spells s us → Spells (piece ++ s) (tokensOf ts ++ us)

theorem spells_of_spellsTrees {piece : Text} {ts : List Tree} (h : SpellsTrees piece ts) :
    Spells piece (tokensOf ts) := by
  have h' := h [] [] .nil
  rwa [List.append_nil, List.append_nil] at h'

/-- What is written plainly is spelled, once texts, attributes and closings are. -/
theorem spellsTrees_writeWith {text : Text → Text} {attributes : Text → Attributes → Text}
    {close : Text} {text' : Text → Text} {attributes' : Text → Attributes → Attributes}
    (htext : ∀ s, SpellsText (text s) (text' s))
    (hattributes : ∀ name as, (∀ a ∈ as, isName a.1 = true) →
      SpellsAttributes (attributes name as) (attributes' name as))
    (hkeys' : ∀ name as, (attributes' name as).keys.Perm as.keys)
    (hclose : ∀ s, EndsTag (close ++ s) ('/' :: '>' :: s)) {ts : List Tree} (h : Sound ts) :
    SpellsTrees (writeWith text attributes close ts) (rework text' attributes' ts) := by
  induction h with
  | nil =>
    intro s us hs
    rw [writeWith, rework, tokensOf]
    exact hs
  | @text t ts hs ih =>
    intro s us hs
    rw [writeWith, rework, tokensOf, List.append_assoc, List.append_assoc]
    exact htext t _ _ (ih s us hs)
  | @element name as children ts hname hraw hnames hkeys hvoid hchildren hs ihc ih =>
    intro s us hs
    have hrest := ih s us hs
    have hkeys'' := (hkeys' name as).nodup_iff.mpr hkeys
    have has := hattributes name as hnames
    rw [writeWith, rework, tokensOf]
    by_cases hv : voidElements.contains name = true
    · have h := Spells.emptyTag hname has hkeys'' (hclose _) hrest
      rw [if_pos hv, if_pos hv]
      simpa using h
    · -- The end tag and what follows, then the contents, then the start tag.
      have hclosing := Spells.closing hname hrest
      have hcontents := ihc _ _ hclosing
      have h := Spells.opening hname hraw has hkeys'' hcontents
      rw [if_neg hv, if_neg hv]
      simpa using h

/-- Trees with the attributes of the written form. -/
def restated (ts : List Tree) : List Tree := rework id restatedAttributes ts

/-- Reading what was written gives the restated trees, settled. -/
theorem read_writeDocument {ts : List Tree} (h : Sound ts) :
    Tree.read (writeDocument ts) = .ok (settled false [] (restated ts)) := by
  have hspells : SpellsTrees (writeDocument ts) (restated ts) := by
    rw [writeDocument_eq_writeWith h]
    exact spellsTrees_writeWith spellsText_escape
      (fun name _ hnames => spellsAttributes_write name fun a ha =>
        isAttributeName_of_isName (hnames a ha))
      keys_restatedAttributes .slash h
  have hsound : Sound (restated ts) := h.rework keys_restatedAttributes
  rw [read_of_spells (spells_of_spellsTrees hspells), ofTokens_tokensOf hsound]

end TestScribe.Markup
