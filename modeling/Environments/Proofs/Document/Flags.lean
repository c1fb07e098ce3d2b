import Environments.Operations
import Environments.Flags.Text
import Environments.Proofs.Text.Digits
import Environments.Proofs.Text.Trim

/-!
# Sets of flags read back

A vocabulary is `Legible` if its names can be told apart in a text: from each other, from the bars
between them and from a number.  Then each part of a text means what it stands for, `IsPart.means`,
the parts are found again between the bars, and what is read is their union, in whatever order they
come and however often: `Spells.read`.  The written form of a set is one of these spellings, unknown
bits included, so it reads back: `read_write`.
-/

namespace Environments.Flags

open Environments.Text

/-- **A vocabulary whose names can be told apart in a text.** -/
structure Legible (vocabulary : List String) : Prop where
  short : vocabulary.length ≤ 32
  nodup : vocabulary.Nodup
  solid : ∀ name ∈ vocabulary, name.toList ≠ [] ∧ '|' ∉ name.toList ∧
    trimChars name.toList = name.toList
  word : ∀ name ∈ vocabulary, name.toList.take 2 ≠ ['0', 'x']

theorem legible_provider : Legible ["CREATE_COMPUTE_SYSTEM"] := by
  refine ⟨?_, ?_, ?_, ?_⟩ <;> decide

theorem legible_system : Legible ["START", "SHUT_DOWN", "TERMINATE", "DELETE", "SAVE", "PAUSE",
    "RESUME", "RESTART", "CREATE_SNAPSHOT", "REVERT_SNAPSHOT", "DELETE_SNAPSHOT",
    "MODIFY_PROPERTIES", "APPLY_CONFIGURATION"] := by
  refine ⟨?_, ?_, ?_, ?_⟩ <;> decide

variable {vocabulary : List String} {f : Flags vocabulary}

/-! ### What a part means -/

/-- A part of a text that means a set of flags, by itself and with blank characters around it. -/
structure Means (part : List Char) (f : Flags vocabulary) : Prop where
  solid : part ≠ [] ∧ '|' ∉ part ∧ trimChars part = part
  reads : readPart part = some f

theorem means_name (legible : Legible vocabulary) {name : String} {bit : Nat}
    (named : vocabulary[bit]? = some name) :
    Means name.toList (⟨BitVec.twoPow 32 bit⟩ : Flags vocabulary) := by
  obtain ⟨inside, rfl⟩ := List.getElem?_eq_some_iff.mp named
  have member := List.getElem_mem inside
  refine ⟨legible.solid _ member, ?_⟩
  have place : vocabulary.idxOf? vocabulary[bit] = some bit := by
    refine List.idxOf?_eq_some_iff.mpr ⟨inside, rfl, fun other earlier same => ?_⟩
    exact absurd ((List.getElem_inj legible.nodup).mp same) (Nat.ne_of_lt earlier)
  unfold readPart
  split
  · rename_i digits same
    refine absurd ?_ (legible.word _ member)
    rw [same]
    rfl
  · rw [String.ofList_toList, ofName?, place]
    rfl

theorem means_number {digits : List Char} (reads : readDigits 16 digits = some f.bits.toNat) :
    Means (['0', 'x'] ++ digits) f := by
  obtain ⟨some_digit, isDigit⟩ := digit?_of_readDigits reads
  have small : f.bits.toNat < 4294967296 := f.bits.isLt
  refine ⟨⟨nofun, fun bar => ?_, trimChars_of_solid ?_⟩, ?_⟩
  · rcases List.mem_append.mp bar with front | back
    · revert front
      decide
    · exact ne_of_digit? (isDigit _ back) (by decide) rfl
  · intro c member
    rcases List.mem_append.mp member with front | back
    · rcases List.mem_cons.mp front with rfl | last
      · decide
      · rw [List.mem_singleton.mp last]
        decide
    · exact isBlank_eq_false_of_digit? (isDigit c back)
  · have unsigned : readWord digits = some f.bits := by
      unfold readWord
      split
      · rename_i rest
        have digit := isDigit '+' List.mem_cons_self
        exact absurd rfl (ne_of_digit? digit (by decide))
      · simp only [reads, Option.filter_some, decide_eq_true small, if_true, Option.map_some,
          BitVec.ofNat_toNat, BitVec.setWidth_eq]
    rw [List.cons_append, List.cons_append, List.nil_append, readPart, unsigned]
    rfl

/-- A part that stands for a set of flags: the name of one, or any set as a hexadecimal number. -/
inductive IsPart : List Char → Flags vocabulary → Prop
  | name {name : String} {bit : Nat} (named : vocabulary[bit]? = some name) :
    IsPart name.toList ⟨BitVec.twoPow 32 bit⟩
  | number {digits : List Char} {zeros : Nat} {f : Flags vocabulary}
    (same : digits.map Char.toLower = List.replicate zeros '0' ++ writeDigits 16 f.bits.toNat) :
    IsPart (['0', 'x'] ++ digits) f

theorem IsPart.means (legible : Legible vocabulary) {part : List Char} (stands : IsPart part f) :
    Means part f := by
  cases stands with
  | name named => exact means_name legible named
  | @number digits zeros f same =>
    refine means_number ?_
    rw [← readDigits_map_toLower, same]
    exact readDigits_zeros_append (by decide) (by decide)
      (readDigits_writeDigits (by decide) (by decide) f.bits.toNat) zeros

/-! ### Taking a text apart at the bars -/

/-- One or more parts, with bars between them and blank characters around them, and the union of what
they stand for. -/
inductive IsUnion : List Char → Flags vocabulary → Prop
  | last {before part after : List Char} {f : Flags vocabulary}
    (blank : ∀ c ∈ before ++ after, isBlank c = true) (stands : IsPart part f) :
    IsUnion (before ++ part ++ after) f
  | more {before part after rest : List Char} {f g : Flags vocabulary}
    (blank : ∀ c ∈ before ++ after, isBlank c = true) (stands : IsPart part f)
    (later : IsUnion rest g) : IsUnion (before ++ part ++ after ++ '|' :: rest) (f.insert g)

/-- What a text says that means a set of flags: its parts in whatever order, or nothing for none. -/
inductive Spells (f : Flags vocabulary) (s : String) : Prop
  | none (blank : ∀ c ∈ s.toList, isBlank c = true) (empty : f = empty)
  | union (parts : IsUnion s.toList f)

/-- A part with blank characters around it has no bar in it, and is not blank as a whole. -/
theorem Means.around {before part after : List Char} (means : Means part f)
    (blank : ∀ c ∈ before ++ after, isBlank c = true) :
    '|' ∉ before ++ part ++ after ∧ ∃ c ∈ before ++ part ++ after, isBlank c = false := by
  obtain ⟨some, noBar, trimmed⟩ := means.solid
  have bar : ¬isBlank '|' = true := by decide
  constructor
  · simp only [List.mem_append, not_or]
    refine ⟨⟨fun front => bar ?_, noBar⟩, fun back => bar ?_⟩
    · exact blank _ (List.mem_append_left after front)
    · exact blank _ (List.mem_append_right before back)
  · by_contra none
    have all_blank : ∀ c ∈ part, isBlank c = true := by
      intro c member
      by_contra solid
      refine none ⟨c, ?_, Bool.eq_false_iff.mpr solid⟩
      exact List.mem_append_left after (List.mem_append_right before member)
    exact some (trimmed.symm.trans ((trimChars_eq_nil_iff part).mpr all_blank))

theorem IsUnion.reads (legible : Legible vocabulary) {cs : List Char} (union : IsUnion cs f) :
    readParts (cs.splitOn '|') = some f ∧ ∃ c ∈ cs, isBlank c = false := by
  induction union with
  | @last before part after f blank stands =>
    have means := stands.means legible
    obtain ⟨noBar, solid⟩ := means.around blank
    refine ⟨?_, solid⟩
    rw [List.splitOn_eq_singleton noBar, readParts, trimChars_around blank, means.solid.2.2,
      means.reads]
    simp [readParts, insert, empty]
  | @more before part after rest f g blank stands later ih =>
    have means := stands.means legible
    obtain ⟨noBar, c, member, solid⟩ := means.around blank
    refine ⟨?_, c, List.mem_append_left _ member, solid⟩
    rw [List.splitOn_append_cons_self_of_not_mem noBar, readParts, trimChars_around blank,
      means.solid.2.2, means.reads, ih.1]
    rfl

theorem Spells.read (legible : Legible vocabulary) {s : String} (spells : f.Spells s) :
    Flags.read s = some f := by
  rw [Flags.read]
  cases spells with
  | none blank none =>
    have nothing : trim s = "" := by rw [trim, (trimChars_eq_nil_iff s.toList).mpr blank]
    rw [if_pos nothing, none]
  | union parts =>
    obtain ⟨reads, c, member, solid⟩ := parts.reads legible
    have something : trim s ≠ "" := by
      intro nothing
      have all_blank : ∀ c ∈ s.toList, isBlank c = true := by
        rw [← trimChars_eq_nil_iff, ← toList_trim, nothing]
        rfl
      rw [all_blank c member] at solid
      cases solid
    rw [if_neg something, reads]

/-! ### The parts of a set -/

/-- The parts of a text, each with what it stands for. -/
abbrev Pieces (vocabulary : List String) := List (List Char × Flags vocabulary)

/-- The names of the flags in a set, each with its flag. -/
def namedPieces (f : Flags vocabulary) : Pieces vocabulary :=
  (vocabulary.zipIdx.filter fun entry => f.bits.getLsbD entry.2).map fun entry =>
    (entry.1.toList, ⟨BitVec.twoPow 32 entry.2⟩)

/-- The number of the unknown bits of a set, if there are any, with these bits. -/
def unknownPieces (f : Flags vocabulary) : Pieces vocabulary :=
  if f.unknown = empty then [] else [(['0', 'x'] ++ writeDigits 16 f.unknown.bits.toNat, f.unknown)]

/-- The parts that a set is written as, each with what it was written for. -/
def pieces (f : Flags vocabulary) : Pieces vocabulary := f.namedPieces ++ f.unknownPieces

theorem map_pieces (f : Flags vocabulary) : f.parts.map String.toList = f.pieces.map (·.1) := by
  rw [parts, pieces, namedPieces, unknownPieces, names]
  split <;> simp [Function.comp_def]

theorem isPart_of_mem_pieces {piece : List Char × Flags vocabulary} (member : piece ∈ f.pieces) :
    IsPart piece.1 piece.2 := by
  rcases List.mem_append.mp member with name | number
  · obtain ⟨entry, there, rfl⟩ := List.mem_map.mp name
    exact .name (List.mem_zipIdx_iff_getElem?.mp (List.mem_filter.mp there).1)
  · unfold unknownPieces at number
    split at number
    · cases number
    · rw [List.mem_singleton.mp number]
      exact @IsPart.number _ _ 0 _ (map_toLower_writeDigits f.unknown.bits.toNat)

/-! ### The union of the parts -/

theorem getLsbD_foldr_insert (sets : List (Flags vocabulary)) (bit : Nat) :
    (sets.foldr insert empty).bits.getLsbD bit = sets.any (·.bits.getLsbD bit) := by
  induction sets with
  | nil => simp [empty]
  | cons f sets ih => simp [insert, ← ih]

theorem getLsbD_all (short : vocabulary.length ≤ 32) {bit : Nat} (inside : bit < 32) :
    (all : Flags vocabulary).bits.getLsbD bit = decide (bit < vocabulary.length) := by
  rcases Nat.lt_or_eq_of_le short with less | whole
  · have power : 2 ^ vocabulary.length < 2 ^ 32 := Nat.pow_lt_pow_right (by decide) less
    have positive : 0 < 2 ^ vocabulary.length := Nat.two_pow_pos _
    have value : (all : Flags vocabulary).bits.toNat = 2 ^ vocabulary.length - 1 := by
      rw [all, BitVec.toNat_sub, BitVec.toNat_twoPow, Nat.mod_eq_of_lt power]
      simp
      omega
    rw [BitVec.getLsbD, value, Nat.testBit_two_pow_sub_one]
  · have full : ∀ bit < 32, (BitVec.twoPow 32 32 - 1).getLsbD bit = true := by decide
    rw [all, whole, decide_eq_true inside, full bit inside]

theorem any_namedPieces (f : Flags vocabulary) {bit : Nat} (inside : bit < 32) :
    (f.namedPieces.map (·.2)).any (·.bits.getLsbD bit) =
      (decide (bit < vocabulary.length) && f.bits.getLsbD bit) := by
  rw [namedPieces, List.map_map, List.any_map, List.any_filter, Bool.eq_iff_iff, List.any_eq_true,
    Bool.and_eq_true, decide_eq_true_eq]
  simp only [Function.comp_apply, BitVec.getLsbD_twoPow, Bool.and_eq_true, decide_eq_true_eq]
  constructor
  · rintro ⟨⟨name, _⟩, member, set, _, rfl⟩
    obtain ⟨named, _⟩ := List.getElem?_eq_some_iff.mp (List.mem_zipIdx_iff_getElem?.mp member)
    exact ⟨named, set⟩
  · rintro ⟨named, set⟩
    refine ⟨(vocabulary[bit], bit), ?_, set, inside, rfl⟩
    exact List.mem_zipIdx_iff_getElem?.mpr (List.getElem?_eq_getElem named)

theorem any_unknownPieces (short : vocabulary.length ≤ 32) (f : Flags vocabulary) {bit : Nat}
    (inside : bit < 32) : (f.unknownPieces.map (·.2)).any (·.bits.getLsbD bit) =
      (f.bits.getLsbD bit && !decide (bit < vocabulary.length)) := by
  have unknown : f.unknown.bits.getLsbD bit =
      (f.bits.getLsbD bit && !decide (bit < vocabulary.length)) := by
    rw [Flags.unknown, remove, ← getLsbD_all short inside]
    simp [inside]
  rw [← unknown, unknownPieces]
  split
  · rename_i none
    rw [none]
    simp [empty]
  · simp

/-- **The union of the parts of a set is the set.** -/
theorem foldr_insert_pieces (short : vocabulary.length ≤ 32) (f : Flags vocabulary) :
    (f.pieces.map (·.2)).foldr insert empty = f := by
  have same : ∀ g : Flags vocabulary, g.bits = f.bits → g = f := by
    rintro ⟨bits⟩ rfl
    rfl
  refine same _ (BitVec.eq_of_getLsbD_eq fun bit inside => ?_)
  rw [getLsbD_foldr_insert, pieces, List.map_append, List.any_append, any_namedPieces f inside,
    any_unknownPieces short f inside]
  cases f.bits.getLsbD bit <;> cases decide (bit < vocabulary.length) <;> rfl

/-! ### The written form -/

theorem IsUnion.cons {b : Char} {cs : List Char} (blank : isBlank b = true) (union : IsUnion cs f) :
    IsUnion (b :: cs) f := by
  cases union with
  | @last before part after f others stands =>
    have front : ∀ c ∈ (b :: before) ++ after, isBlank c = true :=
      List.forall_mem_cons.mpr ⟨blank, others⟩
    exact .last front stands
  | @more before part after rest f g others stands later =>
    have front : ∀ c ∈ (b :: before) ++ after, isBlank c = true :=
      List.forall_mem_cons.mpr ⟨blank, others⟩
    exact .more front stands later

theorem isUnion_intercalate {pieces : Pieces vocabulary} (some : pieces ≠ [])
    (stand : ∀ piece ∈ pieces, IsPart piece.1 piece.2) :
    IsUnion ([' ', '|', ' '].intercalate (pieces.map (·.1)))
      ((pieces.map (·.2)).foldr insert empty) := by
  induction pieces with
  | nil => exact absurd rfl some
  | cons piece pieces ih =>
    obtain ⟨stands, stand⟩ := List.forall_mem_cons.mp stand
    cases pieces with
    | nil =>
      have alone : IsUnion ([] ++ piece.1 ++ []) piece.2 := .last nofun stands
      simpa [insert, empty] using alone
    | cons next pieces =>
      have space : isBlank ' ' = true := by decide
      have after : ∀ c ∈ [] ++ [' '], isBlank c = true := List.forall_mem_singleton.mpr space
      -- Of the two blanks at the bar one ends this part, and the other begins the rest.
      have joined := IsUnion.more after stands ((ih nofun stand).cons space)
      rw [List.map_cons, List.map_cons, List.intercalate_cons_cons]
      simpa using joined

theorem spells_write (short : vocabulary.length ≤ 32) (f : Flags vocabulary) : f.Spells f.write := by
  have text : f.write.toList = [' ', '|', ' '].intercalate (f.pieces.map (·.1)) := by
    rw [write, String.toList_intercalate, map_pieces]
    rfl
  have union := foldr_insert_pieces short f
  have stand : ∀ piece ∈ f.pieces, IsPart piece.1 piece.2 := fun _ => isPart_of_mem_pieces
  generalize f.pieces = pieces at text union stand
  cases pieces with
  | nil => exact .none (by rw [text]; nofun) union.symm
  | cons piece pieces =>
    refine .union ?_
    rw [text, ← union]
    exact isUnion_intercalate (List.cons_ne_nil piece pieces) stand

/-- **A set of flags reads back**, with its unknown bits. -/
theorem read_write (legible : Legible vocabulary) (f : Flags vocabulary) : read f.write = some f :=
  (spells_write legible.short f).read legible

end Environments.Flags
