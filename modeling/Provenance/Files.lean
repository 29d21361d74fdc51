import Provenance.Source

/-! # Files

    Reports go to files.  A disk is anything a text can be written to; a
    `Files` is one that keeps its texts, in directories that exist.  A path
    names a file by the directories on the way and a last name; empty parts
    and single dots on the way lead nowhere else. -/

namespace Provenance

/-- A place where a text can be written under a path. -/
class Disk (ω : Type) where
  write : (path contents : String) → ω → Except IoError Unit × ω

/-- Why no file can be written under a path. -/
inductive PathProblem where
  /-- A directory on the way does not exist. -/
  | missing
  /-- The path leads to a directory. -/
  | directory
  /-- The path, or a name in it, has too many bytes. -/
  | tooLong
  /-- A character of the path is zero. -/
  | zero
deriving DecidableEq

/-- The text of a problem. -/
def PathProblem.message : PathProblem → String
  | missing => "No such file or directory"
  | directory => "Is a directory"
  | tooLong => "File name too long"
  | zero => "file name contained an unexpected NUL byte"

/-- Where a file is: the names of the directories on the way and its own.  The
    way from the root starts with an empty name, any other one at the current
    directory. -/
structure Location where
  way : List String
  name : String
deriving DecidableEq

namespace Location

/-- The longest name, in bytes. -/
def maxName : Nat := 255

/-- The longest path, in bytes. -/
def maxPath : Nat := 4095

/-- What stands between the slashes. -/
def parts : List Char → List (List Char)
  | [] => [[]]
  | c :: rest =>
      if c = '/' then [] :: parts rest
      else
        match parts rest with
        | [] => [[c]]
        | p :: ps => (c :: p) :: ps

/-- The part leads to where one is already. -/
def isIdle (part : String) : Bool := part == "" || part == "."

/-- The directories on the way: the first part counts even if it is empty. -/
def wayOf : List String → List String
  | [] => []
  | first :: rest =>
      (if first == "." then [] else [first]) ++ rest.filter fun p => !isIdle p

/-- The location that a path names. -/
def ofPath (path : String) : Except PathProblem Location :=
  let names := (parts path.toList).map String.ofList
  let name := names.getLast?.getD ""
  if path.toList.contains (Char.ofNat 0) then .error .zero
  else if path = "" then .error .missing
  else if maxPath < path.utf8ByteSize
      ∨ names.any (fun n => maxName < n.utf8ByteSize) then .error .tooLong
  else if isIdle name ∨ name = ".." then .error .directory
  else .ok ⟨wayOf names.dropLast, name⟩

example : (ofPath "report.txt").toOption = some ⟨[], "report.txt"⟩ := by
  decide +kernel

example : (ofPath "./a//b").toOption = some ⟨["a"], "b"⟩ := by decide +kernel

example : (ofPath "/a").toOption = some ⟨[""], "a"⟩ := by decide +kernel

example : (ofPath "..").toOption = none := by decide +kernel

end Location

/-- Texts at locations, and the directories that can hold them. -/
structure Files where
  directories : List (List String)
  texts : List (Location × String)
deriving DecidableEq

namespace Files

/-- No texts, and only the current directory. -/
def empty : Files := ⟨[[]], []⟩

/-- The location of a path, if its directory exists. -/
def locate (files : Files) (path : String) : Except PathProblem Location :=
  match Location.ofPath path with
  | .ok l => if l.way ∈ files.directories then .ok l else .error .missing
  | .error e => .error e

/-- The text under a path. -/
def read? (files : Files) (path : String) : Option String :=
  match files.locate path with
  | .ok l => (files.texts.find? fun e => e.1 == l).map Prod.snd
  | .error _ => none

/-- Put a text under a path in place of any text there. -/
def write (path contents : String) (files : Files) :
    Except IoError Unit × Files :=
  match files.locate path with
  | .ok l =>
      (.ok (),
        { files with
          texts := (l, contents) :: files.texts.filter fun e => e.1 ≠ l })
  | .error e => (.error ⟨e.message⟩, files)

instance : Disk Files where
  write := Files.write

/-- A text that was written is read back. -/
theorem read?_write {files after : Files} {path contents : String}
    (h : files.write path contents = (.ok (), after)) :
    after.read? path = some contents := by
  unfold write at h
  split at h
  · rename_i l hl
    cases h
    have : locate _ path = .ok l := hl
    simp [read?, locate] at this ⊢
    simp_all
  · cases h

end Files

end Provenance
