import MarkupAssist.Schema.Catalogue
import MarkupAssist.Settings

/-!
# Tag skeletons

The snippet of an element: its opening tag with a tab stop for every required attribute, the
elements that belong inside it, and its closing tag. It is built in three steps.

* `Catalogue.expand` turns the references between elements into a tree (`Expansion`). An element
  that occurs on the path to itself is not expanded a second time, so the tree is finite whatever
  the references are: each step down uses up an element (`Catalogue.unvisited_lt`).
* `Expansion.layout` lays the tree out as lines with a nesting depth. One counter goes through the
  tree with it and numbers the tab stops from left to right.
* `SkeletonLine.render` writes a line with the indent and the quotes of the settings.
-/

namespace MarkupAssist

/-- An element with its required attributes and the elements inside it. -/
inductive Expansion where
  | node (tag : String) (required : List String) (children : List Expansion)
  deriving Repr, Inhabited

namespace Catalogue

/-- The number of elements that are not on a path. -/
def unvisited (catalogue : Catalogue) (path : List String) : Nat :=
  catalogue.elements.countP fun e => !path.contains e.1

theorem unvisited_lt {catalogue : Catalogue} {path : List String} {tag : String}
    {element : Element} (known : catalogue.element? tag = some element)
    (fresh : path.contains tag = false) :
    catalogue.unvisited (tag :: path) < catalogue.unvisited path := by
  have h : ∀ entries : Entries Element, (entries.get? tag).isSome →
      entries.countP (fun e => !(tag :: path).contains e.1) <
        entries.countP (fun e => !path.contains e.1) := by
    intro entries
    have mono : ∀ l : Entries Element,
        l.countP (fun e => !(tag :: path).contains e.1) ≤
          l.countP (fun e => !path.contains e.1) := by
      intro l
      apply List.countP_mono_left
      intro e _ he
      simp only [List.contains_cons, Bool.not_or, Bool.and_eq_true] at he
      exact he.2
    induction entries with
    | nil => simp [Entries.get?]
    | cons e rest ih =>
      intro hsome
      rw [List.countP_cons, List.countP_cons]
      by_cases he : e.1 = tag
      · have h1 : (!(tag :: path).contains e.1) = false := by simp [he]
        have h2 : (!path.contains e.1) = true := by rw [he, fresh]; rfl
        rw [h1, h2]
        have := mono rest
        simp only [Bool.false_eq_true, ↓reduceIte]
        omega
      · have hrest : (Entries.get? rest tag).isSome := by
          simpa [Entries.get?, List.find?_cons, he] using hsome
        have := ih hrest
        have heq : (!(tag :: path).contains e.1) = (!path.contains e.1) := by
          simp [he]
        rw [heq]
        omega
  exact h catalogue.elements (by rw [element?] at known; simp [known])

/-- The tree of a tag below the tags of a path. -/
def expand (catalogue : Catalogue) (path : List String) (tag : String) : Expansion :=
  match _known : catalogue.element? tag with
  | none => .node tag [] []
  | some element =>
    if _fresh : path.contains tag = false then
      .node tag element.requiredNames
        (element.subtags.map fun child => catalogue.expand (tag :: path) child)
    else .node tag element.requiredNames []
termination_by catalogue.unvisited path
decreasing_by exact unvisited_lt _known _fresh

end Catalogue

/-! ### Lines -/

/-- A line of a skeleton. Tags carry their tab stops, each with its attribute and its number. -/
inductive SkeletonLine where
  | opening (depth : Nat) (tag : String) (stops : List (String × Nat))
  | closing (depth : Nat) (tag : String)
  | whole (depth : Nat) (tag : String) (stops : List (String × Nat))
  deriving DecidableEq, Repr

namespace Expansion

mutual

/-- The lines of a tree at a nesting depth, behind `used` other tab stops, and the number of the
tab stops up to its end. -/
def layout (depth used : Nat) : Expansion → List SkeletonLine × Nat
  | node tag required [] =>
    ([.whole depth tag (required.zipIdx (used + 1))], used + required.length)
  | node tag required (child :: children) =>
    let inside := layoutAll (depth + 1) (used + required.length) (child :: children)
    (.opening depth tag (required.zipIdx (used + 1)) :: (inside.1 ++ [.closing depth tag]),
      inside.2)

/-- The lines of the trees inside an element. A tree goes on counting where the one before it
stopped. -/
def layoutAll (depth used : Nat) : List Expansion → List SkeletonLine × Nat
  | [] => ([], used)
  | child :: children =>
    let first := layout depth used child
    let rest := layoutAll depth first.2 children
    (first.1 ++ rest.1, rest.2)

end

end Expansion

namespace SkeletonLine

/-- The blanks in front of a line. Their number is the product as an integer: an indent is taken to
be one whose text fits into memory, so that the product is a word as well. -/
def indent (settings : Settings) (depth : Nat) : List Char :=
  List.replicate (depth * settings.indentSize.toNat) ' '

/-- An attribute with a tab stop. -/
def renderStop (settings : Settings) (stop : String × Nat) : List Char :=
  ' ' :: (stop.1.toList ++
    ['=', settings.quotes.char, '$'] ++ Nat.toDigits 10 stop.2 ++ [settings.quotes.char])

/-- An opening tag. -/
def renderOpening (settings : Settings) (tag : String) (stops : List (String × Nat)) :
    List Char :=
  '<' :: (tag.toList ++ stops.flatMap (renderStop settings) ++ ['>'])

/-- A closing tag. -/
def renderClosing (tag : String) : List Char :=
  '<' :: '/' :: (tag.toList ++ ['>'])

/-- A line as text. -/
def render (settings : Settings) : SkeletonLine → List Char
  | opening depth tag stops => indent settings depth ++ renderOpening settings tag stops
  | closing depth tag => indent settings depth ++ renderClosing tag
  | whole depth tag stops =>
    indent settings depth ++ renderOpening settings tag stops ++ renderClosing tag

end SkeletonLine

namespace Catalogue

/-- The skeleton of a tag as text, its first `<` included. -/
def skeletonText (catalogue : Catalogue) (tag : String) (settings : Settings) : List Char :=
  List.intercalate ['\n'] (((catalogue.expand [] tag).layout 0 0).1.map (·.render settings))

/-- The snippet that completes a `<` to the skeleton of a tag. -/
def skeleton (catalogue : Catalogue) (tag : String) (settings : Settings) : String :=
  String.ofList (catalogue.skeletonText tag settings).tail

end Catalogue

end MarkupAssist
