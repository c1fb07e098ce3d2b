import Environments.Proofs.Document.Flags
import Mathlib.Data.List.Forall2
import Mathlib.Data.Nat.Digits.Defs

/-!
# What is read as a set of flags

`Stands` says what a part of a text can be: a name of the vocabulary, or a hexadecimal number of a
word, with what the one and the other stand for.  `stands_iff` is the reader of a part against this
grammar, and `readParts_eq_some_iff` goes from the parts to the text: all of them have to stand for
something, and what is read is their union.  The order of the parts, how often one is there and the
white space around them have no place in that.

`flag_text_is_exact` draws this together with `read_write` for the two vocabularies there are.
-/

namespace Environments.Text

/-! ### What reads as a number -/

/-- A digit of a number in some base, a letter in either case, and its value. -/
def IsDigit (base : Nat) (c : Char) (d : Nat) : Prop :=
  d < base ∧ c.toLower = Nat.digitChar d

variable {base : Nat}

theorem toNat_digitChar : ∀ d < 16, (Nat.digitChar d).toNat = if d < 10 then d + 48 else d + 87 := by
  decide

theorem hexDigit?_eq_some_iff {c : Char} {d : Nat} : hexDigit? c = some d ↔ IsDigit 16 c d := by
  constructor
  · intro value
    have range (a b : Char) : (a ≤ c ∧ c ≤ b) ↔ (a.toNat ≤ c.toNat ∧ c.toNat ≤ b.toNat) := Iff.rfl
    simp only [hexDigit?, range, Char.reduceToNat] at value
    have small : d < 16 := by
      split_ifs at value <;> simp only [Option.some.injEq] at value <;> omega
    refine ⟨small, ?_⟩
    rw [← Char.toNat_inj, toNat_toLower, toNat_digitChar d small]
    split_ifs at value ⊢ <;> simp only [Option.some.injEq] at value <;> omega
  · rintro ⟨small, lower⟩
    rw [← hexDigit?_toLower, lower, hexDigit?_digitChar d small]

theorem digit?_eq_some_iff (small : base ≤ 16) {c : Char} {d : Nat} :
    digit? base c = some d ↔ IsDigit base c d := by
  rw [digit?, Option.filter_eq_some_iff, hexDigit?_eq_some_iff, decide_eq_true_eq]
  constructor
  · rintro ⟨⟨_, lower⟩, inside⟩
    exact ⟨inside, lower⟩
  · rintro ⟨inside, lower⟩
    exact ⟨⟨Nat.lt_of_lt_of_le inside small, lower⟩, inside⟩

theorem readDigitsFrom_eq_some_iff (small : base ≤ 16) {m n : Nat} {cs : List Char} :
    readDigitsFrom base m cs = some n ↔ ∃ values, List.Forall₂ (IsDigit base) cs values ∧
      n = Nat.ofDigits base values.reverse + base ^ values.length * m := by
  induction cs generalizing m with
  | nil => simp [readDigitsFrom_nil, eq_comm]
  | cons c cs ih =>
    have step : readDigitsFrom base m (c :: cs) =
        (digit? base c).bind fun d => readDigitsFrom base (base * m + d) cs := by
      rw [readDigitsFrom, List.foldlM_cons]
      cases digit? base c <;> rfl
    rw [step, Option.bind_eq_some_iff]
    constructor
    · rintro ⟨d, digit, rest⟩
      obtain ⟨values, digits, rfl⟩ := ih.mp rest
      refine ⟨d :: values, .cons ((digit?_eq_some_iff small).mp digit) digits, ?_⟩
      rw [Nat.ofDigits_reverse_cons, List.length_cons]
      ring
    · rintro ⟨values, digits, rfl⟩
      cases digits with
      | @cons _ d _ values digit digits =>
        refine ⟨d, (digit?_eq_some_iff small).mpr digit, ih.mpr ⟨values, digits, ?_⟩⟩
        rw [Nat.ofDigits_reverse_cons, List.length_cons]
        ring

/-- **What reads as a number** are one or more digits, and it is the number that these stand for. -/
theorem readDigits_eq_some_iff (small : base ≤ 16) {n : Nat} {cs : List Char} :
    readDigits base cs = some n ↔ cs ≠ [] ∧ ∃ values, List.Forall₂ (IsDigit base) cs values ∧
      Nat.ofDigits base values.reverse = n := by
  unfold readDigits
  by_cases empty : cs = []
  · simp [empty]
  · rw [if_neg empty, readDigitsFrom_eq_some_iff small]
    simp [empty, eq_comm]

end Environments.Text

namespace Environments.Flags

open Environments.Text

variable {vocabulary : List String} {f : Flags vocabulary}

/-! ### What a part of a text stands for -/

/-- **What a part of a text can be**: a name, exactly as it stands in the vocabulary, for its bit; or a
number after the mark `0x`, of digits in either case with a plus sign before them or none, for the
word of its bits. -/
inductive Stands : List Char → Flags vocabulary → Prop
  | name {name : String} {bit : Nat} (named : vocabulary[bit]? = some name) :
    Stands name.toList ⟨BitVec.twoPow 32 bit⟩
  | number {sign digits : List Char} {values : List Nat} {word : BitVec 32}
    (signed : sign = [] ∨ sign = ['+']) (some : digits ≠ [])
    (each : List.Forall₂ (IsDigit 16) digits values)
    (value : Nat.ofDigits 16 values.reverse = word.toNat) :
    Stands (['0', 'x'] ++ sign ++ digits) ⟨word⟩

theorem map_ofNat_eq_some_iff {n : Option Nat} {word : BitVec 32} :
    (n.filter (· < 4294967296)).map (BitVec.ofNat 32) = some word ↔ n = some word.toNat := by
  constructor
  · intro same
    obtain ⟨n, found, rfl⟩ := Option.map_eq_some_iff.mp same
    obtain ⟨rfl, fits⟩ := Option.filter_eq_some_iff.mp found
    have fits : n < 2 ^ 32 := of_decide_eq_true fits
    rw [BitVec.toNat_ofNat, Nat.mod_eq_of_lt fits]
  · rintro rfl
    have fits : word.toNat < 4294967296 := word.isLt
    simp [fits]

theorem readWord_eq_some_iff {cs : List Char} {word : BitVec 32} :
    readWord cs = some word ↔ ∃ sign digits, (sign = [] ∨ sign = ['+']) ∧ cs = sign ++ digits ∧
      readDigits 16 digits = some word.toNat := by
  constructor
  · intro read
    unfold readWord at read
    split at read
    · rename_i rest
      exact ⟨['+'], rest, Or.inr rfl, rfl, map_ofNat_eq_some_iff.mp read⟩
    · exact ⟨[], cs, Or.inl rfl, rfl, map_ofNat_eq_some_iff.mp read⟩
  · rintro ⟨sign, digits, unsigned | signed, apart, read⟩
    · -- A plus sign is no digit, so what has no sign is read from its first character on.
      rw [apart, unsigned, List.nil_append]
      unfold readWord
      split
      · have digit := (digit?_of_readDigits read).2 '+' List.mem_cons_self
        exact absurd rfl (ne_of_digit? digit (by decide))
      · exact map_ofNat_eq_some_iff.mpr read
    · rw [apart, signed]
      exact map_ofNat_eq_some_iff.mpr read

/-- **A part is read as what it stands for**, and nothing else is read. -/
theorem stands_iff (legible : Legible vocabulary) {part : List Char} :
    Stands part f ↔ readPart part = some f := by
  constructor
  · intro stands
    cases stands with
    | name named => exact (means_name legible named).reads
    | @number sign digits values word signed some each value =>
      have digits_read : readDigits 16 digits = Option.some word.toNat :=
        (readDigits_eq_some_iff (Nat.le_refl 16)).mpr ⟨some, values, each, value⟩
      have word_read := readWord_eq_some_iff.mpr ⟨sign, digits, signed, rfl, digits_read⟩
      show (readWord (sign ++ digits)).map Flags.mk = Option.some ⟨word⟩
      rw [word_read]
      rfl
  · intro read
    unfold readPart at read
    split at read
    · rename_i rest
      obtain ⟨word, word_read, rfl⟩ := Option.map_eq_some_iff.mp read
      obtain ⟨sign, digits, signed, rfl, digits_read⟩ := readWord_eq_some_iff.mp word_read
      obtain ⟨some, values, each, value⟩ := (readDigits_eq_some_iff (Nat.le_refl 16)).mp digits_read
      exact .number signed some each value
    · obtain ⟨bit, place, rfl⟩ := Option.map_eq_some_iff.mp read
      obtain ⟨inside, same, _⟩ := List.idxOf?_eq_some_iff.mp place
      have named : vocabulary[bit]? = some (String.ofList part) := by
        rw [List.getElem?_eq_getElem inside, same]
      simpa using Stands.name named

/-- A part with white space around what stands for a set. -/
def Says (part : List Char) (f : Flags vocabulary) : Prop :=
  ∃ core, Trims part core ∧ Stands core f

theorem readPart_trimChars_iff (legible : Legible vocabulary) {part : List Char} :
    Says part f ↔ readPart (trimChars part) = some f := by
  simp only [Says, trims_iff, exists_eq_left', stands_iff legible]

/-! ### From the parts to the text -/

/-- **The parts of a text** are what stands between its bars. -/
structure HasParts (s : String) (parts : List (List Char)) : Prop where
  some : parts ≠ []
  apart : ∀ part ∈ parts, '|' ∉ part
  joined : s.toList = ['|'].intercalate parts

theorem not_mem_of_mem_splitOn {bar : Char} {cs part : List Char} (member : part ∈ cs.splitOn bar) :
    bar ∉ part := by
  induction cs generalizing part with
  | nil =>
    rw [List.splitOn_nil, List.mem_singleton] at member
    rw [member]
    exact List.not_mem_nil
  | cons c cs ih =>
    rw [List.splitOn_cons_eq_if_modifyHead] at member
    by_cases same : c = bar
    · rw [if_pos (beq_iff_eq.mpr same)] at member
      rcases List.mem_cons.mp member with rfl | later
      · exact List.not_mem_nil
      · exact ih later
    · rw [if_neg (mt beq_iff_eq.mp same)] at member
      obtain ⟨first, others, apart⟩ := List.exists_cons_of_ne_nil (List.splitOn_ne_nil bar cs)
      rw [apart, List.modifyHead_cons] at member
      rw [apart] at ih
      rcases List.mem_cons.mp member with rfl | later
      · intro there
        rcases List.mem_cons.mp there with here | inside
        · exact same here.symm
        · exact ih List.mem_cons_self inside
      · exact ih (List.mem_cons_of_mem first later)

theorem hasParts_iff {s : String} {parts : List (List Char)} :
    HasParts s parts ↔ s.toList.splitOn '|' = parts := by
  constructor
  · rintro ⟨some, apart, joined⟩
    rw [joined]
    exact List.splitOn_intercalate '|' apart some
  · rintro rfl
    exact ⟨List.splitOn_ne_nil _ _, fun _ => not_mem_of_mem_splitOn, (List.intercalate_splitOn '|').symm⟩

theorem readParts_eq_some_iff {parts : List (List Char)} : readParts parts = some f ↔
    (∀ part ∈ parts, (readPart (trimChars part) : Option (Flags vocabulary)).isSome) ∧
      (parts.filterMap fun part => readPart (trimChars part)).foldr insert empty = f := by
  induction parts generalizing f with
  | nil => simp [readParts]
  | cons part parts ih =>
    cases read : (readPart (trimChars part) : Option (Flags vocabulary)) with
    | none => simp [readParts, read]
    | some g =>
      simp only [List.forall_mem_cons, List.filterMap_cons, read, List.foldr_cons, Option.isSome_some]
      have rest : readParts (part :: parts) = (readParts parts).map (insert g) := by
        rw [readParts, read]
        cases (readParts parts : Option (Flags vocabulary)) <;> rfl
      rw [rest, Option.map_eq_some_iff]
      constructor
      · rintro ⟨h, others, rfl⟩
        obtain ⟨all, rfl⟩ := ih.mp others
        exact ⟨⟨trivial, all⟩, rfl⟩
      · rintro ⟨⟨_, all⟩, rfl⟩
        exact ⟨_, ih.mpr ⟨all, rfl⟩, rfl⟩

theorem forall₂_some_iff {α β : Type} {g : α → Option β} {l : List α} {bs : List β} :
    List.Forall₂ (fun a b => g a = some b) l bs ↔ (∀ a ∈ l, (g a).isSome) ∧ l.filterMap g = bs := by
  induction l generalizing bs with
  | nil => cases bs <;> simp
  | cons a l ih =>
    rw [List.forall₂_cons_left_iff, List.forall_mem_cons]
    constructor
    · rintro ⟨b, bs, same, rest, rfl⟩
      obtain ⟨all, rfl⟩ := ih.mp rest
      rw [List.filterMap_cons_some same, same]
      exact ⟨⟨rfl, all⟩, rfl⟩
    · rintro ⟨⟨first, all⟩, rfl⟩
      obtain ⟨b, same⟩ := Option.isSome_iff_exists.mp first
      rw [List.filterMap_cons_some same]
      exact ⟨b, _, same, ih.mpr ⟨all, rfl⟩, rfl⟩

theorem bits_foldr_insert (sets : List (Flags vocabulary)) :
    (sets.foldr insert empty).bits = (sets.map Flags.bits).foldr (· ||| ·) 0 := by
  induction sets with
  | nil => rfl
  | cons f sets ih => rw [List.foldr_cons, insert, ih, List.map_cons, List.foldr_cons]

theorem eq_iff_bits {f g : Flags vocabulary} : f = g ↔ f.bits = g.bits := by
  obtain ⟨bits⟩ := f
  obtain ⟨others⟩ := g
  simp

theorem getLsbD_union {α : Type} (g : α → Option (Flags vocabulary)) (l : List α) (bit : Nat) :
    ((l.filterMap g).foldr insert empty).bits.getLsbD bit = true ↔
      ∃ a ∈ l, ∃ f, g a = some f ∧ f.bits.getLsbD bit = true := by
  rw [getLsbD_foldr_insert, List.any_eq_true]
  simp only [List.mem_filterMap]
  constructor
  · rintro ⟨f, ⟨a, member, found⟩, set⟩
    exact ⟨a, member, f, found, set⟩
  · rintro ⟨a, member, f, found, set⟩
    exact ⟨f, ⟨a, member, found⟩, set⟩

/-- **Which cores the parts have decides what is read**: not in which order they come, how often each
is there, and what white space stands around it. -/
theorem readParts_congr {parts others : List (List Char)}
    (alike : ∀ core, core ∈ parts.map trimChars ↔ core ∈ others.map trimChars) :
    (readParts parts : Option (Flags vocabulary)) = readParts others := by
  have cores (parts : List (List Char)) (f : Flags vocabulary) : readParts parts = some f ↔
      (∀ core ∈ parts.map trimChars, (readPart core : Option (Flags vocabulary)).isSome) ∧
        ((parts.map trimChars).filterMap readPart).foldr insert empty = f := by
    rw [readParts_eq_some_iff, List.forall_mem_map, List.filterMap_map]
    rfl
  have union : ((parts.map trimChars).filterMap readPart).foldr insert (empty : Flags vocabulary) =
      ((others.map trimChars).filterMap readPart).foldr insert empty := by
    refine eq_iff_bits.mpr (BitVec.eq_of_getLsbD_eq fun bit _ => Bool.eq_iff_iff.mpr ?_)
    simp only [getLsbD_union, alike]
  refine Option.ext fun f => ?_
  rw [cores, cores, union]
  simp only [alike]

/-! ### The two vocabularies -/

/-- **What the texts of a vocabulary mean, exactly.** -/
structure ReadsExactly (vocabulary : List String) : Prop where
  /-- What a word of bits is written as reads back as this word, whether its bits have names or not. -/
  back : ∀ bits, read (write (⟨bits⟩ : Flags vocabulary)) = some (⟨bits⟩ : Flags vocabulary)
  /-- A text is read if it is blank, as nothing, or if each of its parts says something, as all that
  its parts say. -/
  exact : ∀ s (f : Flags vocabulary), read s = some f ↔
    (∀ c ∈ s.toList, IsWhiteSpace c) ∧ f.bits = 0 ∨
      ∃ parts, ∃ sets : List (Flags vocabulary), HasParts s parts ∧ List.Forall₂ Says parts sets ∧
        f.bits = (sets.map Flags.bits).foldr (· ||| ·) 0
  /-- Texts whose parts come to the same without the white space around them are read alike, in
  whatever order and however often they have these parts. -/
  alike : ∀ s t parts others, HasParts s parts → HasParts t others →
    ((∀ c ∈ s.toList, IsWhiteSpace c) ↔ ∀ c ∈ t.toList, IsWhiteSpace c) →
    (∀ core, (∃ part ∈ parts, Trims part core) ↔ ∃ part ∈ others, Trims part core) →
    (read s : Option (Flags vocabulary)) = read t

/-- An empty part stands for nothing, since no flag has an empty name. -/
theorem readPart_nil (legible : Legible vocabulary) :
    (readPart [] : Option (Flags vocabulary)) = none := by
  rw [Option.eq_none_iff_forall_ne_some]
  intro f read
  have stands := (stands_iff legible).mpr read
  generalize same : ([] : List Char) = part at stands
  cases stands with
  | name named =>
    exact (means_name legible named).solid.1 same.symm
  | number => cases same

/-- The one part of a blank text is blank, so it says nothing. -/
theorem readParts_blank (legible : Legible vocabulary) {s : String} (blank : trim s = "") :
    (readParts (s.toList.splitOn '|') : Option (Flags vocabulary)) = none := by
  have white : trimChars s.toList = [] := by
    rw [← toList_trim, blank]
    rfl
  have noBar : '|' ∉ s.toList := by
    intro bar
    have blank_bar := (trimChars_eq_nil_iff s.toList).mp white '|' bar
    exact absurd blank_bar (by decide)
  rw [List.splitOn_eq_singleton noBar, readParts, white, readPart_nil legible]
  rfl

theorem readsExactly (legible : Legible vocabulary) : ReadsExactly vocabulary := by
  have said (parts : List (List Char)) (f : Flags vocabulary) : readParts parts = some f ↔
      ∃ sets : List (Flags vocabulary), List.Forall₂ Says parts sets ∧
        f.bits = (sets.map Flags.bits).foldr (· ||| ·) 0 := by
    have pointwise : (Says : List Char → Flags vocabulary → Prop) =
        fun part g => readPart (trimChars part) = some g := by
      funext part g
      exact propext (readPart_trimChars_iff legible)
    rw [readParts_eq_some_iff, pointwise]
    simp only [forall₂_some_iff, and_assoc, exists_and_left, exists_eq_left', ← bits_foldr_insert,
      ← eq_iff_bits]
    rw [eq_comm]
  refine ⟨fun bits => read_write legible ⟨bits⟩, fun s f => ?_, ?_⟩
  · rw [← trim_eq_empty_iff, Flags.read]
    simp only [hasParts_iff, exists_and_left, exists_eq_left', ← said]
    by_cases blank : trim s = ""
    · rw [if_pos blank, readParts_blank legible blank]
      rw [Option.some_inj, eq_comm, eq_iff_bits]
      simp [blank, empty]
    · rw [if_neg blank]
      simp [blank]
  · intro s t parts others has_parts has_others blank alike
    rw [← trim_eq_empty_iff, ← trim_eq_empty_iff] at blank
    rw [Flags.read, Flags.read, hasParts_iff.mp has_parts, hasParts_iff.mp has_others]
    have cores : ∀ core, core ∈ parts.map trimChars ↔ core ∈ others.map trimChars := by
      simpa only [List.mem_map, trims_iff] using alike
    by_cases empty : trim s = ""
    · rw [if_pos empty, if_pos (blank.mp empty)]
    · rw [if_neg empty, if_neg (mt blank.mpr empty), readParts_congr cores]

/-- **The text of a set of flags is exact**, for the operations of providers and for those of compute
systems. -/
theorem flag_text_is_exact : ReadsExactly ["CREATE_COMPUTE_SYSTEM"] ∧
    ReadsExactly ["START", "SHUT_DOWN", "TERMINATE", "DELETE", "SAVE", "PAUSE", "RESUME", "RESTART",
      "CREATE_SNAPSHOT", "REVERT_SNAPSHOT", "DELETE_SNAPSHOT", "MODIFY_PROPERTIES",
      "APPLY_CONFIGURATION"] :=
  ⟨readsExactly legible_provider, readsExactly legible_system⟩

/-- A number may have a sign and zeros before its digits, and stand beside names of flags. -/
example : (read "0x+0040| DELETE |DELETE" : Option SystemOperations) = some ⟨0x48⟩ := by rfl

end Environments.Flags
