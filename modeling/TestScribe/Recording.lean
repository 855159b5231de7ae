import TestScribe.Markup.Written
import TestScribe.Outline.Filing

/-!
# Recorded documents

A recorder exports a test as loosely written HTML. Here such a document is read into
an outline, and its two parts are found: the address that the test starts from and the
rows of its table.

Reading goes in two rounds. The first reads the markup as it comes, with all of it
reduced to ASCII and the recorder's prologue removed; its tree is written down again in
strict form, where every line break without attributes is spelled `<br/>` and gives way
to a two-character token; the second round reads the result.
-/

namespace TestScribe.Recording

open Markup

/-- The opening lines that recorders write, which say nothing about the test. -/
def prologues : List Text :=
  ["<?xml version=\"1.0\" encoding=\"UTF-8\"?>".toList,
   ("<!DOCTYPE html PUBLIC \"-//W3C//DTD XHTML 1.0 Strict//EN\" ".toList ++
    "\"http://www.w3.org/TR/xhtml1/DTD/xhtml1-strict.dtd\">".toList)]

/-- The markup without the prologues. -/
def withoutPrologue (s : Text) : Text := prologues.foldl (fun t p => Text.replace p [] t) s

/-- A line break in strict markup. -/
def strictBreak : Text := "<br/>".toList

/-- What stands for a line break in a cell's text: a backslash and the letter n. -/
def breakToken : Text := ['\\', 'n']

/-- The markup in strict form, with every line break as its token. -/
def strictMarkup (s : Text) : Except Rejection Text :=
  (Tree.read (withoutPrologue (Reference.asciiForm s))).map fun ts =>
    Text.replace strictBreak breakToken (writeDocument ts)

/-- The outline of the root element, or of the document where it has none. -/
def rootOutline (ts : List Tree) : Outline :=
  match Tree.find?.go "html".toList ts with
  | some (attributes, children) => Outline.ofRoot attributes children
  | none => Outline.ofRoot [] ts

/-- Reads a recorded document. -/
def outline (s : Text) : Except Rejection Outline :=
  match strictMarkup s with
  | .error e => .error e
  | .ok markup => (Tree.read markup).map rootOutline

/-! ## The parts of a recording -/

/-- The path to the link that holds the address. -/
def addressPath : List Text := ["head".toList, "link".toList]

/-- The path to the rows. -/
def rowsPath : List Text := ["body".toList, "table".toList, "tbody".toList]

/-- The address that the recording starts from. -/
def address? (o : Outline) : Option Text :=
  (o.walk addressPath).bind fun link => link.attribute? "href".toList

/-- The rows of the recording. -/
def rows (o : Outline) : List Outline :=
  match o.walk rowsPath with
  | none => []
  | some body => body.children "tr".toList

end TestScribe.Recording
