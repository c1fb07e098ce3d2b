import Environments.Text.Trim

/-!
# What trimming leaves of a text

`Trims cs core` says that `core` stands in `cs` between white space and begins and ends with other
characters.  For every text there is one such core, and `trimChars` finds it: `trims_iff`.  White
space are the code points of `IsWhiteSpace`, which are those of the table, `isBlank_iff`.

Blank characters around a text have no part in this, `trimChars_around`, and a core is its own core.
-/

namespace Environments.Text

/-- **White space**: the code points with the Unicode property `White_Space`, one by one. -/
def IsWhiteSpace (c : Char) : Prop :=
  c.toNat ∈ [0x0009, 0x000A, 0x000B, 0x000C, 0x000D, 0x0020, 0x0085, 0x00A0, 0x1680,
    0x2000, 0x2001, 0x2002, 0x2003, 0x2004, 0x2005, 0x2006, 0x2007, 0x2008, 0x2009, 0x200A,
    0x2028, 0x2029, 0x202F, 0x205F, 0x3000]

/-- The ranges of the table cover the white space and nothing else. -/
theorem isBlank_iff {c : Char} : isBlank c = true ↔ IsWhiteSpace c := by
  simp only [isBlank, CharClass.contains_iff, whiteSpace, IsWhiteSpace, List.mem_cons,
    List.not_mem_nil, or_false, exists_eq_or_imp, exists_eq_left]
  omega

/-- **`core` stands in a text between white space**, and neither begins nor ends with any. -/
structure Trims (cs core : List Char) : Prop where
  around : ∃ before after, cs = before ++ core ++ after ∧ ∀ c ∈ before ++ after, IsWhiteSpace c
  begins : ∀ c ∈ core.head?, ¬IsWhiteSpace c
  ends : ∀ c ∈ core.getLast?, ¬IsWhiteSpace c

/-- `t` is what a text comes to without the white space at its ends. -/
def HasCore (s t : String) : Prop := Trims s.toList t.toList

/-! ### Blank characters around a text -/

theorem trimChars_cons {b : Char} (blank : isBlank b = true) (cs : List Char) :
    trimChars (b :: cs) = trimChars cs := by
  rw [trimChars, trimStart, List.dropWhile_cons_of_pos blank]
  rfl

theorem trimChars_concat {b : Char} (blank : isBlank b = true) (cs : List Char) :
    trimChars (cs ++ [b]) = trimChars cs := by
  unfold trimChars trimStart
  rw [List.dropWhile_append]
  split
  · rename_i none
    rw [List.isEmpty_iff.mp none]
    simp [trimEnd, blank]
  · simp [trimEnd, blank]

theorem trimChars_around {before after : List Char} (blank : ∀ c ∈ before ++ after, isBlank c = true)
    (part : List Char) : trimChars (before ++ part ++ after) = trimChars part := by
  obtain ⟨front, back⟩ := List.forall_mem_append.mp blank
  clear blank
  have behind : trimChars (part ++ after) = trimChars part := by
    induction after generalizing part with
    | nil => rw [List.append_nil]
    | cons c after ih =>
      obtain ⟨blank, back⟩ := List.forall_mem_cons.mp back
      rw [List.append_cons, ih (part ++ [c]) back, trimChars_concat blank]
  induction before with
  | nil => exact behind
  | cons c before ih =>
    obtain ⟨blank, front⟩ := List.forall_mem_cons.mp front
    rw [List.cons_append, List.cons_append, trimChars_cons blank, ih front]

/-! ### Texts without blank characters at their ends -/

theorem dropWhile_of_head? {cs : List Char} (solid : ∀ c ∈ cs.head?, isBlank c = false) :
    cs.dropWhile isBlank = cs := by
  cases cs with
  | nil => rfl
  | cons c cs =>
    have first : isBlank c = false := solid c rfl
    exact List.dropWhile_cons_of_neg (by simp [first])

theorem trimChars_of_ends {cs : List Char} (begins : ∀ c ∈ cs.head?, isBlank c = false)
    (ends : ∀ c ∈ cs.getLast?, isBlank c = false) : trimChars cs = cs := by
  have behind : ∀ c ∈ cs.reverse.head?, isBlank c = false := by
    rw [List.head?_reverse]
    exact ends
  rw [trimChars, trimStart, dropWhile_of_head? begins, trimEnd, dropWhile_of_head? behind,
    List.reverse_reverse]

theorem trimChars_of_solid {cs : List Char} (solid : ∀ c ∈ cs, isBlank c = false) :
    trimChars cs = cs :=
  trimChars_of_ends (fun c first => solid c (List.mem_of_head? first))
    fun c last => solid c (List.mem_of_getLast? last)

/-! ### The core of a text -/

/-- A text begins with a blank part, and what follows does not begin with a blank character. -/
theorem exists_trimStart (cs : List Char) :
    (∃ before, cs = before ++ trimStart cs ∧ ∀ c ∈ before, isBlank c = true) ∧
      ∀ c ∈ (trimStart cs).head?, isBlank c = false := by
  refine ⟨⟨cs.takeWhile isBlank, List.takeWhile_append_dropWhile.symm, fun c member => ?_⟩, ?_⟩
  · exact List.all_eq_true.mp List.all_takeWhile c member
  · intro c first
    have head := List.head?_dropWhile_not isBlank cs
    rw [← trimStart, Option.mem_def.mp first] at head
    simpa using head

/-- So it does at its other end. -/
theorem exists_trimEnd (cs : List Char) :
    (∃ after, cs = trimEnd cs ++ after ∧ ∀ c ∈ after, isBlank c = true) ∧
      ∀ c ∈ (trimEnd cs).getLast?, isBlank c = false := by
  obtain ⟨⟨blank, apart, all⟩, first⟩ := exists_trimStart cs.reverse
  refine ⟨⟨blank.reverse, ?_, fun c member => all c (List.mem_reverse.mp member)⟩, ?_⟩
  · rw [trimEnd, ← List.reverse_append, ← trimStart, ← apart, List.reverse_reverse]
  · rw [trimEnd, List.getLast?_reverse]
    exact first

theorem trims_trimChars (cs : List Char) : Trims cs (trimChars cs) := by
  obtain ⟨⟨before, front, front_blank⟩, begins⟩ := exists_trimStart cs
  obtain ⟨⟨after, back, back_blank⟩, ends⟩ := exists_trimEnd (trimStart cs)
  have white {c : Char} (solid : isBlank c = false) : ¬IsWhiteSpace c := by
    rw [← isBlank_iff, solid]
    exact Bool.false_ne_true
  refine ⟨⟨before, after, ?_, fun c member => ?_⟩, fun c first => ?_, fun c last => white (ends c last)⟩
  · rw [List.append_assoc, trimChars, ← back]
    exact front
  · rcases List.mem_append.mp member with here | there
    · exact isBlank_iff.mp (front_blank c here)
    · exact isBlank_iff.mp (back_blank c there)
  · -- What is left has the first character that was left before its other end was trimmed.
    refine white (begins c ?_)
    rw [Option.mem_def] at first ⊢
    rw [back, List.head?_append, ← trimChars, first]
    rfl

/-- **Every text has one core, the one that trimming leaves.** -/
theorem trims_iff {cs core : List Char} : Trims cs core ↔ trimChars cs = core := by
  constructor
  · rintro ⟨⟨before, after, rfl, white⟩, begins, ends⟩
    have solid {c : Char} (other : ¬IsWhiteSpace c) : isBlank c = false :=
      Bool.eq_false_iff.mpr (mt isBlank_iff.mp other)
    rw [trimChars_around fun c member => isBlank_iff.mpr (white c member)]
    exact trimChars_of_ends (fun c first => solid (begins c first))
      fun c last => solid (ends c last)
  · rintro rfl
    exact trims_trimChars cs

theorem trimChars_trimChars (cs : List Char) : trimChars (trimChars cs) = trimChars cs := by
  have core := trims_trimChars cs
  exact trims_iff.mp ⟨⟨[], [], by simp, nofun⟩, core.begins, core.ends⟩

theorem hasCore_iff {s t : String} : HasCore s t ↔ trim s = t := by
  rw [HasCore, trims_iff, ← toList_trim, String.toList_inj]

theorem trim_trim (s : String) : trim (trim s) = trim s := by
  rw [← String.toList_inj, toList_trim, toList_trim, trimChars_trimChars]

theorem trim_eq_empty_iff {s : String} : trim s = "" ↔ ∀ c ∈ s.toList, IsWhiteSpace c := by
  have empty : trim s = "" ↔ trimChars s.toList = [] := by
    rw [← String.toList_inj, toList_trim]
    rfl
  rw [empty, trimChars_eq_nil_iff]
  exact forall₂_congr fun c _ => isBlank_iff

end Environments.Text
