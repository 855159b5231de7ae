import TestScribe.Markup.Lexer

/-!
# The tree of a document

Tokens nest: a start tag opens an element, an end tag closes the nearest open
element of its name together with everything opened inside it. Nothing is ever
implied or closed for another reason, save that an element which can have no content
is closed at once when its tag is not written as closed; one later end tag per such
opening then says nothing new and is passed over.

Neighbouring pieces of text make one text. A text of nothing but spaces and line ends
is reduced to one character outside preformatted elements.
-/

namespace TestScribe.Markup

/-- A document's contents: text, a special construct, or an element with its own
contents. -/
inductive Tree
  | text (s : Text)
  | special (kind : Special) (s : Text)
  | element (name : Text) (attributes : Attributes) (children : List Tree)
deriving Repr

/-- The elements that have no content. -/
def voidElements : List Text :=
  ["area", "base", "br", "col", "embed", "hr", "img", "input", "keygen", "link", "menuitem",
   "meta", "param", "source", "track", "wbr", "basefont", "bgsound", "command", "frame",
   "image", "isindex", "nextid", "spacer"].map String.toList

/-- The elements inside which white space is kept. -/
def preformatted : List Text := ["pre".toList, "textarea".toList]

/-! ## White space -/

/-- A space or a character that ends a line or a page. -/
def isSpacing (c : Char) : Bool := " \n\t\x0c\r".toList.contains c

/-- A text of nothing but spacing becomes one line end, if it holds one, else one
space. -/
def condense (s : Text) : Text :=
  if s.all isSpacing then if s.contains '\n' then ['\n'] else [' '] else s

/-! ## Growing a tree -/

/-- An element that is still open. Its children so far are in reverse order. -/
structure Frame where
  name : Text
  attributes : Attributes
  children : List Tree
deriving Repr

/-- A tree under construction: the open elements with the innermost first, the
contents of the document itself in reverse order, the characters read since the last tag
in reverse order, and the names of closed elements whose end tag may still come. -/
structure Growing where
  stack : List Frame
  contents : List Tree
  pending : Text
  closed : List Text
deriving Repr

namespace Growing

/-- Nothing read yet. -/
def empty : Growing := ⟨[], [], [], []⟩

/-- Puts a finished tree at the end of the innermost open element. -/
def add (t : Tree) (g : Growing) : Growing :=
  match g.stack with
  | [] => { g with contents := t :: g.contents }
  | f :: fs => { g with stack := { f with children := t :: f.children } :: fs }

/-- White space is kept where a preformatted element is open. -/
def keepsSpacing (g : Growing) : Bool := g.stack.any fun f => preformatted.contains f.name

/-- The text as the tree holds it. -/
def settle (g : Growing) (s : Text) : Text := if g.keepsSpacing then s else condense s

/-- Ends the text read since the last tag. -/
def endText (g : Growing) : Growing :=
  if g.pending = [] then g
  else { g with pending := [] }.add (.text (g.settle g.pending.reverse))

/-- Opens an element. -/
def openElement (name : Text) (attributes : Attributes) (g : Growing) : Growing :=
  let g := g.endText
  { g with stack := ⟨name, attributes, []⟩ :: g.stack }

/-- Closes the innermost open element. -/
def closeInnermost (g : Growing) : Growing :=
  match g.stack with
  | [] => g
  | f :: fs => { g with stack := fs }.add (.element f.name f.attributes f.children.reverse)

/-- Closes the innermost `n` open elements. -/
def closeMany : Nat → Growing → Growing
  | 0, g => g
  | n + 1, g => closeMany n g.closeInnermost

/-- Closes the nearest open element of this name and all inside it. With none open
only the text ends. -/
def closeElement (name : Text) (g : Growing) : Growing :=
  let g := g.endText
  match g.stack.findIdx? (·.name = name) with
  | none => g
  | some i => closeMany (i + 1) g

/-- An end tag: it is passed over once for each element of its name that was closed
at its start tag. -/
def endTag (name : Text) (g : Growing) : Growing :=
  if g.closed.contains name then { g with closed := g.closed.erase name }
  else g.closeElement name

/-- Takes one token into the tree. -/
def take (g : Growing) : Token → Growing
  | .text s => { g with pending := s.reverse ++ g.pending }
  | .opening name attributes =>
    let g := g.openElement name attributes
    if voidElements.contains name then
      let g := g.closeElement name
      { g with closed := name :: g.closed }
    else g
  | .emptyTag name attributes => (g.openElement name attributes).closeElement name
  | .closing name => g.endTag name
  | .special kind s =>
    let g := g.endText
    g.add (.special kind (g.settle s))

/-- The contents of the document when everything has been read. -/
def finish (g : Growing) : List Tree :=
  let g := g.endText
  (closeMany g.stack.length g).contents.reverse

end Growing

/-- The contents of a document with the given tokens. -/
def Tree.ofTokens (ts : List Token) : List Tree := (ts.foldl Growing.take Growing.empty).finish

/-- Reads a document. -/
def Tree.read (s : Text) : Except Rejection (List Tree) := (tokens s).map Tree.ofTokens

/-! ## Views of a tree -/

/-- The text directly inside: the plain texts among the trees themselves. -/
def Tree.directText : List Tree → Text
  | [] => []
  | .text s :: ts => s ++ directText ts
  | _ :: ts => directText ts

/-- All plain text of a tree, in document order. -/
def Tree.fullText : Tree → Text
  | .text s => s
  | .special _ _ => []
  | .element _ _ children => go children
where
  /-- All plain text of several trees. -/
  go : List Tree → Text
    | [] => []
    | t :: ts => t.fullText ++ go ts

/-- The first element of this name in document order: its attributes and contents. -/
def Tree.find? (name : Text) : Tree → Option (Attributes × List Tree)
  | .text _ => none
  | .special _ _ => none
  | .element n attributes children =>
    if n = name then some (attributes, children) else go children
where
  /-- The first element of this name among several trees and their contents. -/
  go : List Tree → Option (Attributes × List Tree)
    | [] => none
    | t :: ts => (t.find? name).or (go ts)

end TestScribe.Markup
