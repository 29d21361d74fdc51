import Mathlib.Data.String.Basic

/-! # Lines of a text

    Reports and dumps are written line by line, without escapes, so what can be
    read back of them hangs on where their lines end (`lines_join`) and on the
    last place where a mark stands in a line (`cutLast_append`). -/

namespace Provenance.Text

/-- The pieces of a text that end in a newline; the last one may do without. -/
def pieces (text : List Char) : List (List Char) :=
  if (text.splitOn '\n').getLast? = some [] then (text.splitOn '\n').dropLast
  else text.splitOn '\n'

/-- The lines of a text, without their newlines. -/
def lines (text : String) : List String :=
  (pieces text.toList).map String.ofList

theorem pieces_cons {line : List Char} (h : '\n' ∉ line) (rest : List Char) :
    pieces (line ++ '\n' :: rest) = line :: pieces rest := by
  have hsplit : (line ++ '\n' :: rest).splitOn '\n' = line :: rest.splitOn '\n' :=
    List.splitOn_append_cons_self_of_not_mem h rest
  have hne : rest.splitOn '\n' ≠ [] := List.splitOn_ne_nil '\n' rest
  rw [pieces, pieces, hsplit, List.getLast?_cons_of_ne_nil hne,
    List.dropLast_cons_of_ne_nil hne]
  split <;> rfl

/-- A text that is written line by line has these lines. -/
theorem lines_join {ls : List String} (h : ∀ l ∈ ls, '\n' ∉ l.toList) :
    lines (String.join (ls.map fun l => l ++ "\n")) = ls := by
  rw [lines, String.toList_join]
  induction ls with
  | nil => rfl
  | cons l ls ih =>
      obtain ⟨hl, hls⟩ := List.forall_mem_cons.mp h
      have htext : (l ++ "\n").toList = l.toList ++ ['\n'] := String.toList_append
      rw [List.map_cons, List.flatMap_cons, htext, List.append_assoc,
        List.singleton_append, pieces_cons hl, List.map_cons, String.ofList_toList,
        ih hls]

theorem join_flatMap {α : Type} (l : List α) (f : α → List String) :
    String.join (l.flatMap f) = String.join (l.map fun a => String.join (f a)) := by
  induction l with
  | nil => rfl
  | cons a rest ih =>
      rw [List.flatMap_cons, List.map_cons, String.join_cons, String.join_append, ih]

/-! ## Decimal digits -/

/-- The number that a text of decimal digits stands for. -/
def number? (digits : List Char) : Option Nat :=
  if digits ≠ [] ∧ digits.all Char.isDigit = true then some (Nat.ofDigitChars 10 digits 0)
  else none

/-- What is no digit does not stand in a number. -/
theorem not_mem_toDigits {c : Char} (h : c.isDigit = false) (n : Nat) :
    c ∉ Nat.toDigits 10 n := by
  intro hmem
  rw [Nat.isDigit_of_mem_toDigits (by decide) (by decide) hmem] at h
  cases h

theorem number?_toDigits (n : Nat) : number? (Nat.toDigits 10 n) = some n := by
  have hdigits : (Nat.toDigits 10 n).all Char.isDigit = true :=
    List.all_eq_true.mpr fun c hc => Nat.isDigit_of_mem_toDigits (by decide) (by decide) hc
  rw [number?, if_pos ⟨Nat.toDigits_ne_nil, hdigits⟩, Nat.ofDigitChars_ten_toDigits]

/-! ## The last place of a mark -/

/-- What stands before and after the last place of a mark. -/
def cutLast (mark : List Char) : List Char → Option (List Char × List Char)
  | [] => none
  | c :: rest =>
      match cutLast mark rest with
      | some (front, back) => some (c :: front, back)
      | none =>
          if mark.isPrefixOf (c :: rest) then
            some ([], (c :: rest).drop mark.length)
          else none

theorem cutLast_eq_none {m : Char} {mark text : List Char} (h : m ∉ text) :
    cutLast (m :: mark) text = none := by
  induction text with
  | nil => rfl
  | cons c rest ih =>
      obtain ⟨hc, hrest⟩ := not_or.mp (List.mem_cons.not.mp h)
      rw [cutLast, ih hrest]
      show (if (m :: mark).isPrefixOf (c :: rest) then _ else none) = none
      rw [List.isPrefixOf, beq_eq_false_iff_ne.mpr hc]
      rfl

/-- A mark that does not come again later is cut out where it stands. -/
theorem cutLast_append {m : Char} {mark back : List Char}
    (h : cutLast (m :: mark) (mark ++ back) = none) (front : List Char) :
    cutLast (m :: mark) (front ++ (m :: mark ++ back)) = some (front, back) := by
  induction front with
  | nil =>
      have hprefix : (m :: mark).isPrefixOf (m :: (mark ++ back)) = true :=
        List.isPrefixOf_iff_prefix.mpr (List.prefix_append (m :: mark) back)
      have hdrop : (m :: mark ++ back).drop (m :: mark).length = back := List.drop_left
      rw [List.cons_append] at hdrop
      rw [List.nil_append, List.cons_append, cutLast, h]
      show (if (m :: mark).isPrefixOf (m :: (mark ++ back)) then _ else none) = _
      rw [if_pos hprefix, hdrop]
  | cons c front ih =>
      rw [List.cons_append, cutLast, ih]

end Provenance.Text
