/- Module: SthBoring/Lib/HostName
   source: urllib.parse
   digest: The host name in the network location of a URL. -/

import Mathlib.Data.List.TakeWhile
import SthBoring.Lib.UrlParse

set_option autoImplicit false
set_option relaxedAutoImplicit false

namespace SthBoring.Lib.UrlParse

open SthBoring.Lib.PyValue (PyExc)

variable {py : Interpreter} {text location : List Char} {mark : Char} {url name : String}

/-- What is behind the last of the marks; all of the text, if there is none. -/
def afterLast (mark : Char) (text : List Char) : List Char :=
  (text.reverse.takeWhile (· ≠ mark)).reverse

/-- A network location without user information, brackets and port. -/
def hostPart (location : List Char) : List Char :=
  let hostinfo := afterLast '@' location
  match hostinfo.dropWhile (· ≠ '[') with
  | _ :: bracketed => bracketed.takeWhile (· ≠ ']')
  | [] => hostinfo.takeWhile (· ≠ ':')

/-- The host name of a URL in lower case, empty if it has none. -/
def hostname (py : Interpreter) (url : String) : Except PyExc String := do
  let location ← netloc py url
  return py.lower (String.ofList (hostPart location.toList))

example : (hostname asciiInterpreter "https://me:pw@A.test:8080/b").toOption = some "a.test" := by
  decide +kernel

example : (hostname asciiInterpreter "http://[::1]:80/").toOption = some "::1" := by
  decide +kernel

/-- The location holds nothing but the host name. -/
def Bare (location : String) : Prop :=
  '@' ∉ location.toList ∧ ':' ∉ location.toList ∧ '[' ∉ location.toList

/-- A text in lower case has the marks of a location where the text has them. -/
def KeepsMarks (py : Interpreter) : Prop :=
  ∀ text, ∀ mark ∈ ['@', ':', ']'], mark ∈ (py.lower text).toList ↔ mark ∈ text.toList

theorem notMem_takeWhile_ne : mark ∉ text.takeWhile (· ≠ mark) := by
  intro mem
  have passes := List.mem_takeWhile_imp mem
  simp at passes

theorem takeWhile_ne_of_notMem (absent : mark ∉ text) : text.takeWhile (· ≠ mark) = text := by
  refine List.takeWhile_eq_self_iff.mpr fun c mem => ?_
  have ne : c ≠ mark := fun eq => absent (eq ▸ mem)
  simpa using ne

theorem dropWhile_ne_eq_nil_iff : text.dropWhile (· ≠ mark) = [] ↔ mark ∉ text := by
  rw [List.dropWhile_eq_nil_iff]
  constructor
  · intro passes mem
    simpa using passes mark mem
  · intro absent c mem
    have ne : c ≠ mark := fun eq => absent (eq ▸ mem)
    simpa using ne

theorem notMem_afterLast : mark ∉ afterLast mark text := by
  rw [afterLast, List.mem_reverse]
  exact notMem_takeWhile_ne

theorem afterLast_of_notMem (absent : mark ∉ text) : afterLast mark text = text := by
  rw [afterLast, takeWhile_ne_of_notMem (by simpa using absent), List.reverse_reverse]

theorem mem_afterLast_of_mem_hostPart {c : Char} (mem : c ∈ hostPart location) :
    c ∈ afterLast '@' location := by
  rw [hostPart] at mem
  split at mem
  case h_1 first bracketed opened =>
    have inside := (List.takeWhile_prefix _).subset mem
    have suffix := (List.dropWhile_suffix (· ≠ '[') (l := afterLast '@' location)).subset
    exact suffix (opened ▸ List.mem_cons_of_mem first inside)
  case h_2 => exact (List.takeWhile_prefix _).subset mem

theorem hostPart_of_unbracketed (noUser : '@' ∉ location) (unbracketed : '[' ∉ location) :
    hostPart location = location.takeWhile (· ≠ ':') := by
  rw [hostPart, afterLast_of_notMem noUser, dropWhile_ne_eq_nil_iff.mpr unbracketed]

theorem notMem_hostPart_of_bracketed (noUser : '@' ∉ location) (opened : '[' ∈ location) :
    ']' ∉ hostPart location := by
  rw [hostPart, afterLast_of_notMem noUser]
  split
  case h_1 => exact notMem_takeWhile_ne
  case h_2 closed => exact absurd opened (dropWhile_ne_eq_nil_iff.mp closed)

theorem hostPart_of_bare (bare : Bare name) : hostPart name.toList = name.toList := by
  obtain ⟨noUser, noPort, unbracketed⟩ := bare
  rw [hostPart_of_unbracketed noUser unbracketed]
  exact takeWhile_ne_of_notMem noPort

/-- The brackets of a location come in pairs. -/
theorem closed_of_netloc (parsed : netloc py url = .ok name) (opened : '[' ∈ name.toList) :
    ']' ∈ name.toList := by
  rw [netloc] at parsed
  split_ifs at parsed with unpaired address passes
  have same := congrArg String.toList (Except.ok.inj parsed)
  rw [String.toList_ofList] at same
  rw [not_not, same] at unpaired
  simpa [opened] using unpaired

/-- What is more than the host name in a location leaves a mark that is not in the host name. -/
theorem mark_of_not_bare (parsed : netloc py url = .ok name) (more : ¬ Bare name) :
    ∃ mark ∈ ['@', ':', ']'], mark ∈ name.toList ∧ mark ∉ hostPart name.toList := by
  by_cases user : '@' ∈ name.toList
  · have outside : '@' ∉ hostPart name.toList := fun mem =>
      notMem_afterLast (mem_afterLast_of_mem_hostPart mem)
    exact ⟨'@', by decide, user, outside⟩
  · by_cases opened : '[' ∈ name.toList
    · have outside := notMem_hostPart_of_bracketed user opened
      exact ⟨']', by decide, closed_of_netloc parsed opened, outside⟩
    · have port : ':' ∈ name.toList := by
        by_contra noPort
        exact more ⟨user, noPort, opened⟩
      refine ⟨':', by decide, port, ?_⟩
      rw [hostPart_of_unbracketed user opened]
      exact notMem_takeWhile_ne

end SthBoring.Lib.UrlParse
