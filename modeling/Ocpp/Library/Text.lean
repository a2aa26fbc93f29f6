import Mathlib.Data.List.DropRight
import Mathlib.Data.List.Infix

/-!
# Text

The functions of `str` that look at a text character by character. A text is the list of its characters.
-/

namespace Ocpp.Text

/-- The characters of the Unicode property `White_Space`. -/
def isWhitespace (c : Char) : Bool :=
  let n := c.toNat
  (9 ≤ n && n ≤ 13) || n == 0x20 || n == 0x85 || n == 0xA0 || n == 0x1680 || (0x2000 ≤ n && n ≤ 0x200A) ||
    n == 0x2028 || n == 0x2029 || n == 0x202F || n == 0x205F || n == 0x3000

def trim (text : List Char) : List Char :=
  ((text.dropWhile isWhitespace).reverse.dropWhile isWhitespace).reverse

def contains (text pattern : List Char) : Bool :=
  text.tails.any pattern.isPrefixOf

/-- `lines`, without the removal of a final `\r`, which `trim` also removes. -/
def lines (text : List Char) : List (List Char) :=
  text.splitOn '\n'

/-- `len` of a `str`: the number of bytes. -/
def byteLen : List Char → Nat
  | [] => 0
  | c :: rest => c.utf8Size + byteLen rest

theorem length_le_byteLen (text : List Char) : text.length ≤ byteLen text := by
  induction text with
  | nil => exact le_rfl
  | cons c rest ih =>
      have := c.utf8Size_pos
      rw [List.length_cons, byteLen]
      omega

/-- `split_once` at a character. -/
def splitOnce (delimiter : Char) : List Char → Option (List Char × List Char)
  | [] => none
  | c :: rest =>
      if c = delimiter then some ([], rest)
      else (splitOnce delimiter rest).map fun (before, after) => (c :: before, after)

def stripPrefix (pattern text : List Char) : Option (List Char) :=
  if pattern.isPrefixOf text then some (text.drop pattern.length) else none

theorem stripPrefix_append (pattern rest : List Char) : stripPrefix pattern (pattern ++ rest) = some rest := by
  rw [stripPrefix, if_pos (List.isPrefixOf_iff_prefix.mpr (List.prefix_append pattern rest)), List.drop_left]

theorem splitOnce_append {delimiter : Char} {before : List Char} (after : List Char)
    (absent : delimiter ∉ before) : splitOnce delimiter (before ++ delimiter :: after) = some (before, after) := by
  induction before with
  | nil => simp [splitOnce]
  | cons c rest ih =>
      rw [List.mem_cons, not_or] at absent
      obtain ⟨different, absent⟩ := absent
      simp [splitOnce, Ne.symm different, ih absent]

theorem splitOnce_eq_none {delimiter : Char} {text : List Char} (absent : delimiter ∉ text) :
    splitOnce delimiter text = none := by
  induction text with
  | nil => rfl
  | cons c rest ih =>
      rw [List.mem_cons, not_or] at absent
      obtain ⟨different, absent⟩ := absent
      simp [splitOnce, Ne.symm different, ih absent]

/-! ## Substrings -/

theorem contains_iff {text pattern : List Char} : contains text pattern ↔ pattern <:+: text := by
  simp only [contains, List.any_eq_true, List.mem_tails, List.isPrefixOf_iff_prefix, List.infix_iff_prefix_suffix,
    and_comm]

theorem trim_eq (text : List Char) : trim text = (text.dropWhile isWhitespace).rdropWhile isWhitespace := rfl

theorem trim_isInfix (text : List Char) : trim text <:+: text :=
  (List.rdropWhile_prefix _ _).isInfix.trans (List.dropWhile_suffix _).isInfix

theorem infix_dropWhile {p : Char → Bool} {text pattern : List Char} (solid : ∀ c ∈ pattern, p c = false)
    (some_ : pattern ≠ []) (inside : pattern <:+: text) : pattern <:+: text.dropWhile p := by
  induction text with
  | nil => exact inside
  | cons c rest ih =>
      rw [List.dropWhile_cons]
      split_ifs with dropped
      · obtain prefix_ | inside := List.infix_cons_iff.mp inside
        · obtain ⟨d, pattern, rfl⟩ := List.exists_cons_of_ne_nil some_
          obtain rfl := (List.cons_prefix_cons.mp prefix_).1
          rw [solid d List.mem_cons_self] at dropped
          cases dropped
        · exact ih inside
      · exact inside

theorem solid_of_all {pattern : List Char} (all : pattern.all (!isWhitespace ·)) :
    ∀ c ∈ pattern, isWhitespace c = false := by
  intro c member
  simpa using List.all_eq_true.mp all c member

theorem contains_trim {text pattern : List Char} (solid : ∀ c ∈ pattern, isWhitespace c = false)
    (some_ : pattern ≠ []) : contains (trim text) pattern ↔ contains text pattern := by
  rw [contains_iff, contains_iff]
  constructor
  · exact fun inside => inside.trans (trim_isInfix text)
  · intro inside
    have left := infix_dropWhile solid some_ inside
    have right := infix_dropWhile (fun c member => solid c (List.mem_reverse.mp member))
      (List.reverse_eq_nil_iff.not.mpr some_) (List.reverse_infix.mpr left)
    rw [trim, ← List.reverse_reverse pattern]
    exact List.reverse_infix.mpr right

theorem mem_trim {c : Char} (solid : isWhitespace c = false) {text : List Char} : c ∈ trim text ↔ c ∈ text := by
  rw [← List.singleton_infix_iff, ← List.singleton_infix_iff, ← contains_iff, ← contains_iff]
  exact contains_trim (by simpa using solid) (List.cons_ne_nil c [])

/-! ## Segments -/

theorem splitOn_concat {c delimiter : Char} (inner : c ≠ delimiter) (text : List Char) : ∃ earlier piece,
    text.splitOn delimiter = earlier ++ [piece] ∧ (text ++ [c]).splitOn delimiter = earlier ++ [piece ++ [c]] := by
  induction text with
  | nil => exact ⟨[], [], rfl, List.splitOn_eq_singleton (by simpa using Ne.symm inner)⟩
  | cons d rest ih =>
      obtain ⟨earlier, piece, before, after⟩ := ih
      rw [List.cons_append, List.splitOn_cons_eq_if_modifyHead, List.splitOn_cons_eq_if_modifyHead, before, after]
      split_ifs
      · exact ⟨[] :: earlier, piece, rfl, rfl⟩
      · cases earlier with
        | nil => exact ⟨[], d :: piece, rfl, rfl⟩
        | cons first earlier => exact ⟨(d :: first) :: earlier, piece, rfl, rfl⟩

/-- What follows the last `/`, trailing slashes apart. -/
def lastSegment (text : List Char) : List Char :=
  (text.rdropWhile (· = '/')).rtakeWhile (· ≠ '/')

theorem getLast_splitOn (delimiter : Char) (text : List Char) :
    (text.splitOn delimiter).getLast? = some (text.rtakeWhile (· ≠ delimiter)) := by
  induction text using List.reverseRecOn with
  | nil => rfl
  | append_singleton rest c ih =>
      by_cases here : c = delimiter
      · rw [here, List.splitOn_append_cons_self, List.rtakeWhile_concat_neg _ _ _ (by simp)]
        exact List.getLast?_concat
      · obtain ⟨earlier, piece, before, after⟩ := splitOn_concat here rest
        rw [before, List.getLast?_concat] at ih
        rw [after, List.getLast?_concat, List.rtakeWhile_concat_pos _ _ _ (by simpa using here), Option.some.inj ih]

theorem lastSegment_eq (text : List Char) :
    ((text.splitOn '/').reverse.find? (!·.isEmpty)).getD [] = lastSegment text := by
  induction text using List.reverseRecOn with
  | nil => rfl
  | append_singleton rest c ih =>
      by_cases slash : c = '/'
      · rw [slash, List.splitOn_append_cons_self, List.reverse_append, lastSegment,
          List.rdropWhile_concat_pos _ _ _ (by simp), ← lastSegment, ← ih]
        rfl
      · obtain ⟨earlier, piece, before, after⟩ := splitOn_concat slash rest
        have last := getLast_splitOn '/' rest
        rw [before, List.getLast?_concat] at last
        rw [after, List.reverse_concat, List.find?_cons_of_pos (by simp), lastSegment,
          List.rdropWhile_concat_neg _ _ _ (by simpa using slash),
          List.rtakeWhile_concat_pos _ _ _ (by simpa using slash), Option.some.inj last]
        rfl

theorem mem_lastSegment {c : Char} {text : List Char} (member : c ∈ lastSegment text) : c ∈ text ∧ c ≠ '/' := by
  constructor
  · exact (List.rdropWhile_prefix _ text).mem ((List.rtakeWhile_suffix _ _).mem member)
  · simpa using List.mem_rtakeWhile_imp member

theorem lastSegment_self {text : List Char} (whole : '/' ∉ text) : lastSegment text = text := by
  have inner : ∀ c ∈ text, c ≠ '/' := fun c member slash => whole (slash ▸ member)
  rw [lastSegment, List.rdropWhile_eq_self_iff.mpr, List.rtakeWhile_eq_self_iff.mpr]
  · simpa using inner
  · intro some_
    simpa using inner _ (List.getLast_mem some_)

theorem lastSegment_append {segment : List Char} (front : List Char) (whole : '/' ∉ segment) (some_ : segment ≠ []) :
    lastSegment (front ++ '/' :: segment) = segment := by
  have inner : ∀ c ∈ segment, c ≠ '/' := fun c member slash => whole (slash ▸ member)
  have kept : (front ++ '/' :: segment).rdropWhile (· = '/') = front ++ '/' :: segment := by
    apply List.rdropWhile_eq_self_iff.mpr
    intro _
    rw [List.getLast_append_right (List.cons_ne_nil _ _), List.getLast_cons some_]
    simpa using inner _ (List.getLast_mem some_)
  rw [lastSegment, kept, List.rtakeWhile, List.reverse_append, List.reverse_cons, List.append_assoc,
    List.takeWhile_append_of_pos, List.singleton_append, List.takeWhile_cons_of_neg (by simp), List.append_nil,
    List.reverse_reverse]
  intro c member
  simpa using inner c (List.mem_reverse.mp member)

/-! ## Lines -/

/-- The lines that are not blank, trimmed. -/
def nonblankLines (text : List Char) : List (List Char) :=
  ((lines text).map trim).filter (!·.isEmpty)

theorem trim_cons {c : Char} (white : isWhitespace c) (line : List Char) : trim (c :: line) = trim line := by
  rw [trim_eq, trim_eq, List.dropWhile_cons_of_pos white]

theorem trim_concat {c : Char} (white : isWhitespace c) (line : List Char) : trim (line ++ [c]) = trim line := by
  rw [trim_eq, trim_eq, List.dropWhile_append]
  split_ifs with blank
  · rw [List.isEmpty_iff.mp blank, List.dropWhile_cons_of_pos white]
    rfl
  · exact List.rdropWhile_concat_pos _ _ _ white

theorem lines_cons (c : Char) (text : List Char) :
    lines (c :: text) = if c = '\n' then [] :: lines text else (lines text).modifyHead (c :: ·) := by
  rw [lines, List.splitOn_cons_eq_if_modifyHead]
  simp [lines]

theorem nonblankLines_cons {c : Char} (white : isWhitespace c) (text : List Char) :
    nonblankLines (c :: text) = nonblankLines text := by
  rw [nonblankLines, lines_cons]
  split_ifs with newline
  · rfl
  · obtain ⟨line, later, split⟩ := List.exists_cons_of_ne_nil (List.splitOn_ne_nil '\n' text)
    rw [nonblankLines, show lines text = line :: later from split, List.modifyHead_cons, List.map_cons, List.map_cons,
      trim_cons white]

theorem nonblankLines_concat {c : Char} (white : isWhitespace c) (text : List Char) :
    nonblankLines (text ++ [c]) = nonblankLines text := by
  by_cases newline : c = '\n'
  · subst newline
    rw [nonblankLines, lines, List.splitOn_append_cons_self, List.map_append, List.filter_append]
    exact List.append_nil _
  · obtain ⟨earlier, line, before, after⟩ := splitOn_concat newline text
    rw [nonblankLines, nonblankLines, lines, lines, before, after, List.map_append, List.map_append, List.map_singleton,
      List.map_singleton, trim_concat white]

theorem nonblankLines_trim (text : List Char) : nonblankLines (trim text) = nonblankLines text := by
  have left : ∀ text : List Char, nonblankLines (text.dropWhile isWhitespace) = nonblankLines text := by
    intro text
    induction text with
    | nil => rfl
    | cons c rest ih =>
        rw [List.dropWhile_cons]
        split_ifs with white
        · rw [ih, nonblankLines_cons white]
        · rfl
  have right : ∀ text : List Char, nonblankLines (text.rdropWhile isWhitespace) = nonblankLines text := by
    intro text
    induction text using List.reverseRecOn with
    | nil => rfl
    | append_singleton rest c ih =>
        rw [List.rdropWhile_concat]
        split_ifs with white
        · rw [ih, nonblankLines_concat white]
        · rfl
  rw [trim_eq, right, left]

end Ocpp.Text
