/- Module: SthBoring/Lib/ElementTree
   source: xml.etree.ElementTree
   digest: Elements in document order, and the paths that find the first of them. -/

import Mathlib.Data.List.Basic

set_option autoImplicit false
set_option relaxedAutoImplicit false

namespace SthBoring.Lib.ElementTree

inductive Element where
  | mk (tag : String) (text : Option String) (children : List Element)

namespace Element

def tag : Element → String
  | mk tag _ _ => tag

def text : Element → Option String
  | mk _ text _ => text

def children : Element → List Element
  | mk _ _ children => children

mutual

/-- `e.iter()`. -/
def iter : Element → List Element
  | mk tag text children => mk tag text children :: iterAll children

/-- The elements of several trees, one tree after the other. -/
def iterAll : List Element → List Element
  | [] => []
  | e :: es => iter e ++ iterAll es

end

/-- A tag fits `{*}name`: it is the name, in any namespace or in none. -/
def hasName (name : String) (e : Element) : Bool :=
  e.tag == name || ('}' :: name.toList).isSuffixOf e.tag.toList

/-- `root.findall(".//{*}name")`. -/
def descendants (name : String) (root : Element) : List Element :=
  (iterAll root.children).filter (hasName name)

/-- `root.find(".//{*}name")`. -/
def findDescendant (name : String) (root : Element) : Option Element :=
  (descendants name root).head?

/-- `root.find(".//{*}outer/{*}inner")`. -/
def findChildOf (outer inner : String) (root : Element) : Option Element :=
  ((descendants outer root).flatMap fun e => e.children.filter (hasName inner)).head?

section Order

variable {name : String} {root child : Element} {before after : List Element}

theorem iterAll_append (es fs : List Element) : iterAll (es ++ fs) = iterAll es ++ iterAll fs := by
  induction es with
  | nil => rfl
  | cons e es ih => rw [List.cons_append, iterAll, iterAll, ih, List.append_assoc]

theorem iter_eq (e : Element) : iter e = e :: iterAll e.children := by
  cases e with
  | mk tag text blocks => rw [iter, children]

/-- A child is found, unless there is an element with its name in the trees in front of it. What is
inside it or behind it does not matter. -/
theorem findDescendant_of_child (split : root.children = before ++ child :: after)
    (named : hasName name child = true) :
    findDescendant name root = ((iterAll before).filter (hasName name)).head?.or (some child) := by
  rw [findDescendant, descendants, split, iterAll_append, iterAll, iter_eq, List.filter_append,
    List.cons_append, List.filter_cons_of_pos named, List.head?_append, List.head?_cons]

end Order

end Element

end SthBoring.Lib.ElementTree
