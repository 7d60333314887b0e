import DeskScript.Proofs.Token.Reading
import DeskScript.Text.Lines

/-!
The lines of a text against its line feeds, by which the lines of tokens and errors are counted.
There are as many lines as line feeds, and one more if something follows the last of them
(`length_lines`); the line with the number of line feeds before a place as its index is the one on
which that place is (`line_at`).
-/

namespace DeskScript.Text

open Lexer (newlines newlines_append)

variable {current first line rest text : List Char} {c : Char}

def sinceFeed (text : List Char) : List Char :=
  (text.reverse.takeWhile (· != '\n')).reverse

def chomp (line : List Char) : List Char :=
  if line.getLast? = some '\r' then line.dropLast else line

theorem feed_induction {P : List Char → Prop} (last : ∀ line, '\n' ∉ line → P line)
    (more : ∀ line rest, '\n' ∉ line → P rest → P (line ++ '\n' :: rest)) (text : List Char) :
    P text := by
  induction length : text.length using Nat.strongRecOn generalizing text with
  | ind n ih =>
    by_cases feed : '\n' ∈ text
    · obtain ⟨line, rest, rfl, free⟩ := List.eq_append_cons_of_mem feed
      refine more line rest free (ih rest.length ?_ rest rfl)
      rw [List.length_append, List.length_cons] at length
      omega
    · exact last text feed

theorem linesFrom_append (free : '\n' ∉ first) :
    linesFrom current (first ++ rest) = linesFrom (first.reverse ++ current) rest := by
  induction first generalizing current with
  | nil => rfl
  | cons c first ih =>
    obtain ⟨other, free⟩ := not_or.1 (mt List.mem_cons.2 free)
    simp [linesFrom, Ne.symm other, ih free]

theorem linesFrom_feed :
    linesFrom current ('\n' :: rest) = chomp current.reverse :: linesFrom [] rest := by
  by_cases ends : current.head? = some '\r'
  · obtain ⟨before, rfl⟩ := List.head?_eq_some_iff.1 ends
    simp [linesFrom, chomp]
  · have other (before : List Char) : current ≠ '\r' :: before := by
      rintro rfl
      exact ends rfl
    rw [linesFrom, chomp, List.getLast?_reverse, if_neg ends]
    · rfl
    · exact other

theorem linesFrom_line (free : '\n' ∉ line) :
    linesFrom [] (line ++ '\n' :: rest) = chomp line :: linesFrom [] rest := by
  rw [linesFrom_append free, linesFrom_feed]
  simp

theorem linesFrom_last (free : '\n' ∉ line) (some : line ≠ []) : linesFrom [] line = [line] := by
  have whole : linesFrom [] (line ++ []) = linesFrom (line.reverse ++ []) [] :=
    linesFrom_append free
  rw [List.append_nil] at whole
  simp [whole, linesFrom, some]

theorem newlines_of_free (free : '\n' ∉ text) : newlines text = 0 :=
  List.count_eq_zero.2 free

theorem newlines_line (free : '\n' ∉ line) :
    newlines (line ++ '\n' :: rest) = newlines rest + 1 := by
  rw [newlines_append, newlines_of_free free, Nat.zero_add]
  exact List.count_cons_self

theorem sinceFeed_of_free (free : '\n' ∉ text) : sinceFeed text = text := by
  have inside : ∀ c ∈ text.reverse, (c != '\n') = true := by
    intro c mem
    rw [bne_iff_ne]
    rintro rfl
    exact free (List.mem_reverse.1 mem)
  have all : (text.reverse ++ []).takeWhile (· != '\n') = text.reverse ++ [] :=
    List.takeWhile_append_of_pos inside
  rw [List.append_nil] at all
  rw [sinceFeed, all, List.reverse_reverse]

theorem sinceFeed_line : sinceFeed (line ++ '\n' :: rest) = sinceFeed rest := by
  rw [sinceFeed, sinceFeed, List.reverse_append, List.reverse_cons, List.append_assoc,
    List.takeWhile_append]
  split
  next all =>
    rw [(List.takeWhile_prefix _).eq_of_length all]
    simp
  next => rfl

theorem length_linesFrom (text : List Char) :
    (linesFrom [] text).length = newlines text + if sinceFeed text = [] then 0 else 1 := by
  induction text using feed_induction with
  | last line free =>
    rw [newlines_of_free free, sinceFeed_of_free free, Nat.zero_add]
    split
    next none =>
      subst none
      rfl
    next some => rw [linesFrom_last free some, List.length_singleton]
  | more line rest free ih =>
    rw [linesFrom_line free, List.length_cons, ih, newlines_line free, sinceFeed_line]
    omega

theorem length_lines (text : String) :
    (lines text).length = newlines text.toList + if sinceFeed text.toList = [] then 0 else 1 := by
  rw [lines, List.length_map, length_linesFrom]

theorem chomp_starts (line : List Char) : chomp line <+: line := by
  unfold chomp
  split
  · exact List.dropLast_prefix line
  · exact List.prefix_rfl

theorem chomp_append (line first : List Char) (other : c ≠ '\r') :
    chomp (line ++ c :: first) = line ++ chomp (c :: first) ∧ chomp (c :: first) ≠ [] := by
  have last : (line ++ c :: first).getLast? = (c :: first).getLast? := by
    rw [List.getLast?_append, List.getLast?_cons]
    rfl
  unfold chomp
  rw [last]
  split
  next ends =>
    refine ⟨List.dropLast_append_of_ne_nil (List.cons_ne_nil _ _), ?_⟩
    cases first with
    | nil => exact absurd (Option.some.inj ends) other
    | cons d first => simp
  next => exact ⟨rfl, List.cons_ne_nil _ _⟩

theorem linesFrom_at (feed : c ≠ '\n') (other : c ≠ '\r') (before rest : List Char) :
    ∃ shown, (linesFrom [] (before ++ c :: rest))[newlines before]? =
      some (sinceFeed before ++ shown) ∧ shown ≠ [] ∧ shown <+: c :: rest := by
  induction before using feed_induction with
  | last line free =>
    rw [newlines_of_free free, sinceFeed_of_free free]
    have free' {first : List Char} (inside : '\n' ∉ first) : '\n' ∉ line ++ c :: first := by
      simp [free, Ne.symm feed, inside]
    -- the line of the character goes on to the next line feed or to the end of the text
    by_cases ends : '\n' ∈ rest
    · obtain ⟨first, after, rfl, inside⟩ := List.eq_append_cons_of_mem ends
      obtain ⟨chomped, some⟩ := chomp_append line first other
      refine ⟨chomp (c :: first), ?_, some, (chomp_starts _).trans ?_⟩
      · have split : line ++ c :: (first ++ '\n' :: after) =
            (line ++ c :: first) ++ '\n' :: after := by simp
        rw [split, linesFrom_line (free' inside), chomped]
        rfl
      · exact List.prefix_append (c :: first) _
    · refine ⟨c :: rest, ?_, List.cons_ne_nil _ _, List.prefix_rfl⟩
      rw [linesFrom_last (free' ends) (by simp)]
      rfl
  | more line before free ih =>
    obtain ⟨shown, found, rest⟩ := ih
    refine ⟨shown, ?_, rest⟩
    rw [List.append_assoc, List.cons_append, linesFrom_line free, newlines_line free,
      sinceFeed_line, List.getElem?_cons_succ, found]

theorem line_at {source : String} {before : List Char} (feed : c ≠ '\n') (other : c ≠ '\r')
    (split : source.toList = before ++ c :: rest) :
    ∃ line shown, (lines source)[newlines before]? = some line ∧
      line.toList = sinceFeed before ++ shown ∧ shown ≠ [] ∧ shown <+: c :: rest := by
  obtain ⟨shown, found, some, part⟩ := linesFrom_at feed other before rest
  refine ⟨String.ofList (sinceFeed before ++ shown), shown, ?_, String.toList_ofList, some, part⟩
  rw [lines, List.getElem?_map, split, found]
  rfl

theorem length_linesFrom_le (current text : List Char) :
    (linesFrom current text).length ≤ current.length + text.length ∧
      ∀ line ∈ linesFrom current text, line.length ≤ current.length + text.length := by
  fun_induction linesFrom current text with
  | case1 current none => simp
  | case2 current some =>
    rw [List.isEmpty_iff, ← List.length_eq_zero_iff] at some
    exact ⟨by rw [List.length_singleton]; omega, by simp⟩
  | case3 rest before ih => grind
  | case4 current rest other ih => grind
  | case5 current c rest other ih => grind

theorem length_lines_le (text : String) : (lines text).length ≤ text.length := by
  have few := (length_linesFrom_le [] text.toList).1
  rw [List.length_nil, Nat.zero_add, String.length_toList] at few
  rwa [lines, List.length_map]

theorem length_line_le {text line : String} (mem : line ∈ lines text) :
    line.toList.length ≤ text.length := by
  obtain ⟨letters, inside, rfl⟩ := List.mem_map.1 mem
  have short := (length_linesFrom_le [] text.toList).2 letters inside
  rw [List.length_nil, Nat.zero_add, String.length_toList] at short
  rwa [String.toList_ofList]

end DeskScript.Text
